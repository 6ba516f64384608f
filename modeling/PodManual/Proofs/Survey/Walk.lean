import Mathlib.Data.List.Nodup
import PodManual.Proofs.FileTree.Below
import PodManual.Survey

/-!
# The walk of a survey

A survey walks through the directories below a directory and leaves out what is
hidden and what is in directories that may not be read.  The walk is a recursion over
the entries; seen from outside it goes through one flat list, that of all entries that
are seen by names that are not hidden, and no names come twice.  The walk fails where
the path of an entry is refused, and gives the documents of all files otherwise.
-/

namespace PodManual

namespace Survey

/-- None of the names is hidden. -/
def Unhidden (names : List Text) : Prop :=
  forall name, name ∈ names -> isHidden name = false

/-!
## The walk as a flat list
-/

/-- An entry that a walk comes to: the names that lead to it, and whether the directory
that holds it may be searched. -/
structure Sighting where
  names : List Text
  searchable : Bool
  node : Entry

def Sighting.under (name : Text) (sighting : Sighting) : Sighting :=
  { sighting with names := name :: sighting.names }

mutual

def sightingsOf : Entry -> List Sighting
  | .file _ => []
  | .directory access listing =>
      if access.read then sightingsIn access.search listing else []

def sightingsIn (searchable : Bool) : Listing -> List Sighting
  | .empty => []
  | .entry name node rest =>
      (if isHidden name then []
        else ⟨[name], searchable, node⟩ :: (sightingsOf node).map (Sighting.under name)) ++
        sightingsIn searchable rest

end

theorem refusal?_cases {searchable : Bool} {path : Path} {fault : FileFault}
    (h : refusal? searchable path = some fault) :
    (path.isTooLong = true ∧ fault = .nameTooLong) ∨
      (path.isTooLong = false ∧ searchable = false ∧ fault = .denied) := by
  unfold refusal? at h
  cases hlong : path.isTooLong with
  | true =>
      rw [hlong] at h
      cases h
      exact Or.inl ⟨rfl, rfl⟩
  | false =>
      cases searchable with
      | true => simp [hlong] at h
      | false =>
          simp only [hlong, Bool.false_eq_true, if_false, Option.some.injEq] at h
          exact Or.inr ⟨rfl, rfl, h.symm⟩

theorem refusal?_eq_none {searchable : Bool} {path : Path} :
    refusal? searchable path = none <-> path.isTooLong = false ∧ searchable = true := by
  unfold refusal?
  cases path.isTooLong <;> cases searchable <;> simp

/-- The documents of one part of a walk after those of another, unless one fails. -/
def gather (first second : Except Failure (List Documented)) :
    Except Failure (List Documented) :=
  first.bind fun found => second.map fun later => found ++ later

@[simp] theorem gather_nil_left (second : Except Failure (List Documented)) :
    gather (.ok []) second = second := by
  cases second <;> rfl

@[simp] theorem gather_nil_right (first : Except Failure (List Documented)) :
    gather first (.ok []) = first := by
  cases first with
  | error failure => rfl
  | ok found => exact congrArg Except.ok (List.append_nil found)

@[simp] theorem gather_error (failure : Failure) (second : Except Failure (List Documented)) :
    gather (.error failure) second = .error failure := rfl

theorem gather_assoc (first second third : Except Failure (List Documented)) :
    gather (gather first second) third = gather first (gather second third) := by
  cases first with
  | error failure => rfl
  | ok found =>
      cases second with
      | error failure => rfl
      | ok middle =>
          cases third with
          | error failure => rfl
          | ok later => exact congrArg Except.ok (List.append_assoc found middle later)

theorem gather_eq_ok {first second : Except Failure (List Documented)}
    {documents : List Documented} :
    gather first second = .ok documents <->
      exists found later, first = .ok found ∧ second = .ok later ∧
        documents = found ++ later := by
  cases first with
  | error failure => simp
  | ok found =>
      cases second with
      | error failure => simp [gather, Except.bind, Except.map]
      | ok later => simp [gather, Except.bind, Except.map, eq_comm]

theorem gather_eq_error {first second : Except Failure (List Documented)} {failure : Failure}
    (h : gather first second = .error failure) :
    first = .error failure ∨ second = .error failure := by
  cases first with
  | error other => exact Or.inl h
  | ok found =>
      cases second with
      | error other => exact Or.inr h
      | ok later => cases h

/-- What an entry itself has to give, apart from what is below it. -/
def visitNode (registry : Registry) (path : Path) : Entry -> Except Failure (List Documented)
  | .file file => (visitFile Note.level registry path file).result
  | .directory _ _ => .ok []

/-- What the walk does where it comes to an entry, apart from what is below it. -/
def visitSighting (registry : Registry) (directory : Path) (sighting : Sighting) :
    Except Failure (List Documented) :=
  match refusal? sighting.searchable (directory.below sighting.names) with
  | some fault => .error (.file fault (directory.below sighting.names).toText)
  | none => visitNode registry (directory.below sighting.names) sighting.node

def visitAll (registry : Registry) (directory : Path) :
    List Sighting -> Except Failure (List Documented)
  | [] => .ok []
  | sighting :: rest =>
      gather (visitSighting registry directory sighting) (visitAll registry directory rest)

variable {registry : Registry}

theorem visitAll_append (directory : Path) (first second : List Sighting) :
    visitAll registry directory (first ++ second) =
      gather (visitAll registry directory first) (visitAll registry directory second) := by
  induction first with
  | nil => rw [List.nil_append, visitAll, gather_nil_left]
  | cons sighting first ih => rw [List.cons_append, visitAll, visitAll, ih, gather_assoc]

theorem visitAll_under (directory : Path) (name : Text) (sightings : List Sighting) :
    visitAll registry directory (sightings.map (Sighting.under name)) =
      visitAll registry (directory.child name) sightings := by
  induction sightings with
  | nil => rfl
  | cons sighting sightings ih =>
      rw [List.map_cons, visitAll, visitAll, ih, visitSighting, visitSighting,
        Path.below_child]
      rfl

theorem result_andThen_gather (first second : Traced (List Documented)) :
    (first.andThen fun found => second.andThen fun later =>
      Traced.done (found ++ later)).result = gather first.result second.result := by
  unfold Traced.andThen
  cases first.result with
  | error failure => rfl
  | ok found =>
      cases second.result with
      | error failure => rfl
      | ok later => rfl

theorem result_visitFile (level : Nat) (path : Path) (file : File) :
    (visitFile level registry path file).result = visitNode registry path (.file file) := by
  unfold visitNode visitFile
  cases registry.forExtension path.extension with
  | error failure => rfl
  | ok dialect => rfl

mutual

theorem result_visitEntry (level : Nat) (path : Path) : (node : Entry) ->
    (visitEntry level registry path node).result =
      gather (visitNode registry path node) (visitAll registry path (sightingsOf node))
  | .file file => by
      rw [visitEntry, sightingsOf, visitAll, gather_nil_right, result_visitFile]
  | .directory access listing => by
      rw [visitEntry, sightingsOf, visitNode, gather_nil_left]
      split
      · exact result_visitListing level access.search path listing
      · rfl

theorem result_visitListing (level : Nat) (searchable : Bool) (directory : Path) :
    (listing : Listing) ->
    (visitListing level registry searchable directory listing).result =
      visitAll registry directory (sightingsIn searchable listing)
  | .empty => by
      rw [visitListing, sightingsIn]
      rfl
  | .entry name node rest => by
      have hrest := result_visitListing level searchable directory rest
      have hbelow : directory.below [name] = directory.child name := rfl
      rw [visitListing, sightingsIn, visitAll_append, ← hrest]
      split
      · rw [visitAll, gather_nil_left]
      · rw [visitAll, visitAll_under, visitSighting, hbelow]
        cases refusal? searchable (directory.child name) with
        | some fault => rfl
        | none =>
            simp only [result_andThen_gather]
            rw [result_visitEntry level (directory.child name) node]

end

/-!
## What is in the flat list
-/

theorem seen?_entry {access : Access} {name : Text} {node : Entry} {rest : Listing}
    (hread : access.read = true) (hfresh : name ∉ rest.names) {names : List Text}
    {seen : Bool × Entry} :
    (Entry.directory access (.entry name node rest)).seen? names = some seen <->
      (names = [name] ∧ (access.search, node) = seen) ∨
        (exists below, names = name :: below ∧ node.seen? below = some seen) ∨
        (Entry.directory access rest).seen? names = some seen := by
  cases names with
  | nil => simp [Entry.seen?]
  | cons first below =>
      rcases seen with ⟨searchable, found⟩
      rw [Entry.seen?_cons, Entry.seen?_cons]
      simp only [hread, true_and, Listing.get?]
      by_cases hfirst : name = first
      · rw [if_pos hfirst]
        cases hrest : rest.get? first with
        | some other =>
            exact absurd (Listing.mem_names_of_get? rest hrest) (hfirst ▸ hfresh)
        | none => simp [hfirst]
      · rw [if_neg hfirst]
        simp [Ne.symm hfirst]

theorem mem_sightings_entry {name : Text} {searchable : Bool} {node : Entry}
    {sighting : Sighting}
    (hnode : forall inner : Sighting, inner ∈ sightingsOf node <->
      node.seen? inner.names = some (inner.searchable, inner.node) ∧ Unhidden inner.names) :
    sighting ∈ (if isHidden name then []
        else ⟨[name], searchable, node⟩ :: (sightingsOf node).map (Sighting.under name)) <->
      ((sighting.names = [name] ∧
          (searchable, node) = (sighting.searchable, sighting.node)) ∨
        exists below, sighting.names = name :: below ∧
          node.seen? below = some (sighting.searchable, sighting.node)) ∧
        Unhidden sighting.names := by
  rcases sighting with ⟨names, searched, found⟩
  cases hhidden : isHidden name with
  | true =>
      simp only [if_true, List.not_mem_nil, false_iff]
      rintro ⟨⟨rfl, _⟩ | ⟨below, rfl, _⟩, hvisible⟩ <;>
      · rw [hvisible name List.mem_cons_self] at hhidden
        cases hhidden
  | false =>
      simp only [Bool.false_eq_true, if_false, List.mem_cons, List.mem_map]
      constructor
      · rintro (heq | ⟨⟨below, _, _⟩, hmem, heq⟩)
        · cases heq
          refine ⟨Or.inl ⟨rfl, rfl⟩, ?_⟩
          intro other hother
          rw [List.mem_singleton.mp hother]
          exact hhidden
        · cases heq
          rcases (hnode _).mp hmem with ⟨hseen, hbelow⟩
          exact ⟨Or.inr ⟨below, rfl, hseen⟩, List.forall_mem_cons.mpr ⟨hhidden, hbelow⟩⟩
      · rintro ⟨⟨rfl, heq⟩ | ⟨below, rfl, hseen⟩, hvisible⟩
        · cases heq
          exact Or.inl rfl
        · refine Or.inr ⟨⟨below, searched, found⟩, ?_, rfl⟩
          exact (hnode _).mpr ⟨hseen, (List.forall_mem_cons.mp hvisible).right⟩

mutual

theorem mem_sightingsOf {sighting : Sighting} : (node : Entry) -> node.isProper = true ->
    (sighting ∈ sightingsOf node <->
      node.seen? sighting.names = some (sighting.searchable, sighting.node) ∧
        Unhidden sighting.names)
  | .file file, _ => by
      simp [sightingsOf, Entry.seen?]
  | .directory access listing, hproper => by
      rw [sightingsOf]
      cases hread : access.read with
      | true => exact mem_sightingsIn hread listing hproper
      | false =>
          cases hnames : sighting.names with
          | nil => simp [Entry.seen?]
          | cons name names => simp [Entry.seen?, hread]

theorem mem_sightingsIn {access : Access} (hread : access.read = true)
    {sighting : Sighting} : (listing : Listing) -> listing.isProper = true ->
    (sighting ∈ sightingsIn access.search listing <->
      (Entry.directory access listing).seen? sighting.names =
          some (sighting.searchable, sighting.node) ∧
        Unhidden sighting.names)
  | .empty, _ => by
      cases hnames : sighting.names <;> simp [sightingsIn, Entry.seen?, Listing.get?]
  | .entry name node rest, hproper => by
      rcases Listing.isProper_entry.mp hproper with ⟨_, hfresh, hnode, hrest⟩
      rw [sightingsIn, List.mem_append, mem_sightings_entry fun _ => mem_sightingsOf node hnode,
        mem_sightingsIn hread rest hrest,
        seen?_entry hread hfresh, ← or_and_right, or_assoc]

end

mutual

theorem nodup_sightingsOf : (node : Entry) -> node.isProper = true ->
    ((sightingsOf node).map Sighting.names).Nodup
  | .file file, _ => by
      simp [sightingsOf]
  | .directory access listing, hproper => by
      rw [sightingsOf]
      split
      · rename_i hread
        exact nodup_sightingsIn hread listing hproper
      · exact List.nodup_nil

theorem nodup_sightingsIn {access : Access} (hread : access.read = true) :
    (listing : Listing) -> listing.isProper = true ->
    ((sightingsIn access.search listing).map Sighting.names).Nodup
  | .empty, _ => by
      simp [sightingsIn]
  | .entry name node rest, hproper => by
      rcases Listing.isProper_entry.mp hproper with ⟨_, hfresh, hnode, hrest⟩
      have hlater := nodup_sightingsIn hread rest hrest
      rw [sightingsIn]
      split
      · exact hlater
      · have hbelow : (((sightingsOf node).map (Sighting.under name)).map
            Sighting.names).Nodup := by
          rw [List.map_map]
          have heq : Sighting.names ∘ Sighting.under name =
              (name :: ·) ∘ Sighting.names := rfl
          rw [heq, ← List.map_map]
          exact (nodup_sightingsOf node hnode).map List.cons_injective
        have hown : ((⟨[name], access.search, node⟩ ::
            (sightingsOf node).map (Sighting.under name)).map Sighting.names).Nodup := by
          rw [List.map_cons, List.nodup_cons]
          refine ⟨?_, hbelow⟩
          -- The entry itself is seen by one name, what is below it by more.
          intro hmem
          rcases List.mem_map.mp hmem with ⟨_, hunder, hnames⟩
          rcases List.mem_map.mp hunder with ⟨below, hseen, rfl⟩
          have hnil : below.names = [] := (List.cons.inj hnames).right
          rcases (mem_sightingsOf node hnode).mp hseen with ⟨hsome, _⟩
          rw [hnil] at hsome
          simp [Entry.seen?] at hsome
        rw [List.map_append, List.nodup_append]
        refine ⟨hown, hlater, ?_⟩
        -- What comes from the rest begins with another name.
        intro names hnames others hothers heq
        subst heq
        have hfirst : exists below, names = name :: below := by
          rcases List.mem_map.mp hnames with ⟨sighting, hmem, rfl⟩
          rcases List.mem_cons.mp hmem with rfl | hunder
          · exact ⟨[], rfl⟩
          · rcases List.mem_map.mp hunder with ⟨below, _, rfl⟩
            exact ⟨below.names, rfl⟩
        rcases hfirst with ⟨below, rfl⟩
        rcases List.mem_map.mp hothers with ⟨sighting, hmem, hsame⟩
        rcases (mem_sightingsIn hread rest hrest).mp hmem with ⟨hseen, _⟩
        rw [hsame] at hseen
        rcases Entry.seen?_cons.mp hseen with ⟨_, next, hnext, _⟩
        exact hfresh (Listing.mem_names_of_get? rest hnext)

end

/-!
## The documents of the flat list
-/

/-- The document is what the file at a path says in the dialect of the path's extension,
and it says something. -/
def Reads (registry : Registry) (path : Path) (file : File) (document : Documented) :
    Prop :=
  document.path = path ∧ document.instructions ≠ [] ∧
    exists dialect, registry.forExtension path.extension = .ok dialect ∧
      dialect.language.extractFile file = document.instructions

theorem visitNode_eq_ok {path : Path} {node : Entry} {documents : List Documented}
    (h : visitNode registry path node = .ok documents) :
    (forall document, document ∈ documents <->
      exists file, node = .file file ∧ Reads registry path file document) ∧
      (documents.map Documented.path).Sublist [path] := by
  cases node with
  | directory access listing =>
      cases h
      simp
  | file file =>
      simp only [Entry.file.injEq, exists_eq_left']
      unfold visitNode visitFile at h
      unfold Reads
      cases hdialect : registry.forExtension path.extension with
      | error failure =>
          rw [hdialect] at h
          cases h
      | ok dialect =>
          simp only [hdialect, Traced.result_note_andThen] at h
          cases hread : dialect.language.extractFile file with
          | nil =>
              rw [hread] at h
              cases h
              constructor
              · intro document
                simp only [List.not_mem_nil, Except.ok.injEq, exists_eq_left', hread,
                  false_iff]
                rintro ⟨_, hne, hnil⟩
                exact hne hnil.symm
              · exact List.nil_sublist _
          | cons first others =>
              rw [hread] at h
              cases h
              constructor
              · intro document
                rcases document with ⟨mine, instructions⟩
                simp only [List.mem_singleton, Documented.mk.injEq, Except.ok.injEq,
                  exists_eq_left', hread]
                constructor
                · rintro ⟨rfl, rfl⟩
                  exact ⟨rfl, List.cons_ne_nil _ _, rfl⟩
                · rintro ⟨rfl, _, rfl⟩
                  exact ⟨rfl, rfl⟩
              · exact List.Sublist.refl _

theorem exists_visitNode {fallback : Dialect} (hdefault : registry.default? = some fallback)
    (path : Path) (node : Entry) :
    exists documents, visitNode registry path node = .ok documents := by
  cases node with
  | directory access listing => exact ⟨[], rfl⟩
  | file file =>
      rcases Registry.exists_forExtension hdefault path.extension with ⟨dialect, hdialect⟩
      simp only [visitNode, visitFile, hdialect, Traced.result_note_andThen]
      cases dialect.language.extractFile file with
      | nil => exact ⟨_, rfl⟩
      | cons first others => exact ⟨_, rfl⟩

theorem visitSighting_eq_ok {directory : Path} {sighting : Sighting}
    {documents : List Documented}
    (h : visitSighting registry directory sighting = .ok documents) :
    refusal? sighting.searchable (directory.below sighting.names) = none ∧
      visitNode registry (directory.below sighting.names) sighting.node = .ok documents := by
  unfold visitSighting at h
  cases hrefusal : refusal? sighting.searchable (directory.below sighting.names) with
  | some fault =>
      rw [hrefusal] at h
      cases h
  | none =>
      rw [hrefusal] at h
      exact ⟨rfl, h⟩

theorem visitSighting_eq_error {fallback : Dialect}
    (hdefault : registry.default? = some fallback) {directory : Path} {sighting : Sighting}
    {failure : Failure} (h : visitSighting registry directory sighting = .error failure) :
    exists fault,
      refusal? sighting.searchable (directory.below sighting.names) = some fault ∧
        failure = .file fault (directory.below sighting.names).toText := by
  unfold visitSighting at h
  cases hrefusal : refusal? sighting.searchable (directory.below sighting.names) with
  | some fault =>
      rw [hrefusal] at h
      cases h
      exact ⟨fault, rfl, rfl⟩
  | none =>
      rcases exists_visitNode hdefault (directory.below sighting.names) sighting.node with
        ⟨documents, hok⟩
      simp only [hrefusal, hok] at h
      cases h

theorem visitAll_eq_ok {directory : Path} {sightings : List Sighting}
    {documents : List Documented}
    (h : visitAll registry directory sightings = .ok documents) :
    (forall sighting, sighting ∈ sightings ->
      refusal? sighting.searchable (directory.below sighting.names) = none) ∧
      (forall document, document ∈ documents <->
        exists sighting file, sighting ∈ sightings ∧ sighting.node = .file file ∧
          Reads registry (directory.below sighting.names) file document) ∧
      (documents.map Documented.path).Sublist
        (sightings.map fun sighting => directory.below sighting.names) := by
  induction sightings generalizing documents with
  | nil =>
      cases h
      simp
  | cons first rest ih =>
      rcases gather_eq_ok.mp h with ⟨own, later, hown, hlater, rfl⟩
      rcases visitSighting_eq_ok hown with ⟨hopen, hnode⟩
      rcases visitNode_eq_ok hnode with ⟨hmem, hpaths⟩
      rcases ih hlater with ⟨hopens, hmems, hallPaths⟩
      refine ⟨List.forall_mem_cons.mpr ⟨hopen, hopens⟩, ?_, ?_⟩
      · intro document
        rw [List.mem_append, hmem, hmems]
        constructor
        · rintro (⟨file, hfile, hreads⟩ | ⟨sighting, file, hsighting, hfile, hreads⟩)
          · exact ⟨first, file, List.mem_cons_self, hfile, hreads⟩
          · exact ⟨sighting, file, List.mem_cons_of_mem _ hsighting, hfile, hreads⟩
        · rintro ⟨sighting, file, hsighting, hfile, hreads⟩
          rcases List.mem_cons.mp hsighting with rfl | hrest
          · exact Or.inl ⟨file, hfile, hreads⟩
          · exact Or.inr ⟨sighting, file, hrest, hfile, hreads⟩
      · -- One sighting gives at most one document, under its own path.
        rw [List.map_append, List.map_cons, ← List.singleton_append]
        exact hpaths.append hallPaths

theorem visitAll_eq_error {fallback : Dialect} (hdefault : registry.default? = some fallback)
    {directory : Path} {sightings : List Sighting} {failure : Failure}
    (h : visitAll registry directory sightings = .error failure) :
    exists sighting fault, sighting ∈ sightings ∧
      refusal? sighting.searchable (directory.below sighting.names) = some fault ∧
      failure = .file fault (directory.below sighting.names).toText := by
  induction sightings with
  | nil => cases h
  | cons first rest ih =>
      rcases gather_eq_error h with hown | hlater
      · rcases visitSighting_eq_error hdefault hown with ⟨fault, hrefusal⟩
        exact ⟨first, fault, List.mem_cons_self, hrefusal⟩
      · rcases ih hlater with ⟨sighting, fault, hmem, hrefusal⟩
        exact ⟨sighting, fault, List.mem_cons_of_mem _ hmem, hrefusal⟩

end Survey
end PodManual
