import PodManual.Proofs.Survey.Walk

/-!
# What a survey finds

A survey finds each documented file once, by the path that leads to it, and the order in
which directories list their entries does not matter.

A survey gives no result if an entry that it comes to cannot be looked up by its path,
because the path is too long or the entry is in a directory that may be read but not
searched: nothing handles the refusal.
-/

namespace PodManual

namespace Survey

variable {registry : Registry}

/-!
## The order of the documents
-/

/-- The text of each document's path comes strictly before those of the later ones. -/
def Increasing (documents : List Documented) : Prop :=
  documents.Pairwise fun first second => Text.Before first.path.toText second.path.toText

theorem mem_sorted {documents : List Documented} {document : Documented} :
    document ∈ sorted documents <-> document ∈ documents :=
  List.mem_mergeSort

theorem increasing_sorted {documents : List Documented}
    (h : (documents.map fun document => document.path.toText).Nodup) :
    Increasing (sorted documents) := by
  have hsorted : (sorted documents).Pairwise fun first second =>
      Text.precedes first.path.toText second.path.toText = true := by
    apply List.pairwise_mergeSort
    · intro first second third hfirst hsecond
      exact Text.precedes_trans hfirst hsecond
    · intro first second
      exact Text.precedes_total _ _
  have hnodup : (sorted documents).Pairwise fun first second =>
      first.path.toText ≠ second.path.toText := by
    have hperm := (List.mergeSort_perm documents fun first second =>
      Text.precedes first.path.toText second.path.toText).map
        fun document => document.path.toText
    exact List.pairwise_map.mp (hperm.nodup_iff.mpr h)
  refine (hsorted.and hnodup).imp ?_
  intro first second hboth
  rcases Text.precedes_iff.mp hboth.left with hbefore | heq
  · exact hbefore
  · exact absurd heq hboth.right

theorem Increasing.nodup {documents : List Documented} (h : Increasing documents) :
    documents.Nodup := by
  refine h.imp ?_
  rintro first second hbefore rfl
  exact Text.not_before_self _ hbefore

theorem Increasing.eq_of_mem_iff {first second : List Documented}
    (hfirst : Increasing first) (hsecond : Increasing second)
    (h : forall document, document ∈ first <-> document ∈ second) : first = second := by
  have hperm := (List.perm_ext_iff_of_nodup hfirst.nodup hsecond.nodup).mpr h
  refine hperm.eq_of_pairwise ?_ hfirst hsecond
  intro left right _ _ hleft hright
  exact absurd (hleft.trans hright) (Text.not_before_self _)

/-!
## What a survey finds
-/

/-- Names that are not hidden lead from the directory to an entry, through directories
that may be read. -/
def Shown (tree : FileTree) (directory : Path) (names : List Text) : Prop :=
  Unhidden names ∧
    exists place node seen, tree.locate directory = .ok place ∧
      tree.entryAt? place = some node ∧ node.seen? names = some seen

/-- An entry that is shown cannot be looked up by its path. -/
def Obstructed (tree : FileTree) (directory : Path) : Prop :=
  exists names fault, Shown tree directory names ∧
    tree.Fails (directory.below names) fault

/-- The document is that of a file below the directory: names lead to it that are not
hidden, and it has instructions in the dialect of its extension. -/
def IsFound (tree : FileTree) (registry : Registry) (directory : Path)
    (document : Documented) : Prop :=
  exists names dialect, Shown tree directory names ∧
    document.path = directory.below names ∧
    registry.forExtension document.path.extension = .ok dialect ∧
    (tree.extract Note.level document.path dialect.language).result =
      .ok document.instructions ∧
    document.instructions ≠ []

theorem extract_eq_ok {tree : FileTree} {path : Path} {language : Language}
    {instructions : List Instruction} (hne : instructions ≠ []) :
    (tree.extract Note.level path language).result = .ok instructions <->
      exists file, tree.fileAt? path = .ok (some file) ∧
        language.extractFile file = instructions := by
  unfold FileTree.extract
  cases tree.fileAt? path with
  | error failure => simp [Traced.fail]
  | ok file? =>
      cases file? with
      | none => simp [hne.symm]
      | some file => simp

theorem exists_seen?_of_alike {first second : Entry} (h : first.Alike second)
    {names : List Text} {seen : Bool × Entry} (hseen : first.seen? names = some seen) :
    exists other, second.seen? names = some other := by
  induction names generalizing first second with
  | nil => simp [Entry.seen?] at hseen
  | cons name names ih =>
      cases h with
      | file file => cases hseen
      | @directory access first second hlisting =>
          rcases seen with ⟨searchable, found⟩
          rcases Entry.seen?_cons.mp hseen with ⟨hread, next, hnext, hrest⟩
          have halike := Listing.Reordered.alikeGet hlisting name
          rw [hnext] at halike
          cases hother : second.get? name with
          | none =>
              rw [hother] at halike
              cases halike
          | some other =>
              rw [hother] at halike
              cases halike with
              | some hnode =>
                  rcases hrest with ⟨rfl, _, _⟩ | hbelow
                  · exact ⟨(access.search, other), Entry.seen?_cons.mpr
                      ⟨hread, other, hother, Or.inl ⟨rfl, rfl, rfl⟩⟩⟩
                  · rcases ih hnode hbelow with ⟨last, hlast⟩
                    exact ⟨last, Entry.seen?_cons.mpr
                      ⟨hread, other, hother, Or.inr hlast⟩⟩

theorem Shown.reordered {tree other : FileTree} (h : tree.Reordered other)
    {directory : Path} {names : List Text} (hshown : Shown tree directory names) :
    Shown other directory names := by
  rcases hshown with ⟨hunhidden, place, node, seen, hplace, hnode, hseen⟩
  refine ⟨hunhidden, place, ?_⟩
  have halike := h.alikeAt place
  rw [hnode] at halike
  cases hother : other.entryAt? place with
  | none =>
      rw [hother] at halike
      cases halike
  | some second =>
      rw [hother] at halike
      cases halike with
      | some hnodes =>
          rcases exists_seen?_of_alike hnodes hseen with ⟨last, hlast⟩
          exact ⟨second, last, h.locate_eq directory ▸ hplace, rfl, hlast⟩

theorem shown_reordered {tree other : FileTree} (h : tree.Reordered other)
    {directory : Path} {names : List Text} :
    Shown tree directory names <-> Shown other directory names :=
  ⟨Shown.reordered h, Shown.reordered h.symm⟩

theorem obstructed_reordered {tree other : FileTree} (h : tree.Reordered other)
    {directory : Path} : Obstructed tree directory <-> Obstructed other directory := by
  unfold Obstructed
  simp only [shown_reordered h, h.fails_iff]

theorem isFound_reordered {tree other : FileTree} (h : tree.Reordered other)
    {directory : Path} {document : Documented} :
    IsFound tree registry directory document <->
      IsFound other registry directory document := by
  unfold IsFound
  simp only [shown_reordered h, h.extract_eq]

variable {level : Nat} {tree : FileTree} {directory : Path}

theorem find_of_list {searchable : Bool} {listing : Listing}
    (hnull : directory.hasNull = false)
    (hlist : tree.list directory = .ok (searchable, listing)) :
    (find level tree registry directory).result =
      (visitAll registry directory (sightingsIn searchable listing)).map sorted := by
  unfold find
  rw [hnull, if_neg Bool.false_ne_true, hlist]
  simp only [← result_visitListing level]
  unfold Traced.andThen
  cases (visitListing level registry searchable directory listing).result <;> rfl

theorem find_of_list_error {fault : FileFault} (hnull : directory.hasNull = false)
    (hlist : tree.list directory = .error fault) :
    (find level tree registry directory).result = .ok [] := by
  unfold find
  rw [hnull, if_neg Bool.false_ne_true, hlist]
  rfl

/-- A directory that a walk begins with: where it is and what it is. -/
structure Listed (tree : FileTree) (directory : Path) (place : Place) (access : Access)
    (listing : Listing) : Prop where
  proper : tree.isProper = true
  noNull : directory.hasNull = false
  located : tree.locate directory = .ok place
  entry : tree.entryAt? place = some (.directory access listing)
  readable : access.read = true

namespace Listed

variable {place : Place} {access : Access} {listing : Listing}

theorem isProper (h : Listed tree directory place access listing) :
    listing.isProper = true :=
  FileTree.isProper_at h.proper h.entry

theorem mem_sightings (h : Listed tree directory place access listing)
    {sighting : Sighting} :
    sighting ∈ sightingsIn access.search listing <->
      (Entry.directory access listing).seen? sighting.names =
          some (sighting.searchable, sighting.node) ∧
        Unhidden sighting.names :=
  mem_sightingsIn h.readable listing h.isProper

/-- What is shown below the directory is what the walk comes to. -/
theorem shown_iff (h : Listed tree directory place access listing) {names : List Text} :
    Shown tree directory names <->
      exists sighting, sighting ∈ sightingsIn access.search listing ∧
        sighting.names = names := by
  constructor
  · rintro ⟨hunhidden, other, node, ⟨searchable, found⟩, hother, hnode, hseen⟩
    rw [h.located] at hother
    cases hother
    rw [h.entry] at hnode
    cases hnode
    exact ⟨⟨names, searchable, found⟩, h.mem_sightings.mpr ⟨hseen, hunhidden⟩, rfl⟩
  · rintro ⟨sighting, hmem, rfl⟩
    rcases h.mem_sightings.mp hmem with ⟨hseen, hunhidden⟩
    exact ⟨hunhidden, place, _, _, h.located, h.entry, hseen⟩

theorem isEntryName (h : Listed tree directory place access listing) {sighting : Sighting}
    (hmem : sighting ∈ sightingsIn access.search listing) :
    forall name, name ∈ sighting.names -> isEntryName name = true := by
  rcases h.mem_sightings.mp hmem with ⟨hseen, _⟩
  have hproper : (Entry.directory access listing).isProper = true := h.isProper
  exact (Entry.isProper_of_descend hproper (Entry.descend_of_seen? hseen)).right

theorem noNull_below (h : Listed tree directory place access listing) {sighting : Sighting}
    (hmem : sighting ∈ sightingsIn access.search listing) :
    (directory.below sighting.names).hasNull = false := by
  apply Path.hasNull_below h.noNull
  intro name hname
  exact (isEntryName_iff.mp (h.isEntryName hmem name hname)).right.right.right.right.left

/-- The path of a sighting leads to its entry, unless the walk comes to a directory
that may not be searched on the way. -/
theorem locate_sighting (h : Listed tree directory place access listing)
    {sighting : Sighting} (hmem : sighting ∈ sightingsIn access.search listing)
    (hshort : (directory.below sighting.names).isTooLong = false) :
    (sighting.searchable = true ∧
        tree.locate (directory.below sighting.names) =
          .ok (.within (sighting.names.reverse ++ place.names))) ∨
      (tree.locate (directory.below sighting.names) = .error .denied ∧
        exists closed, closed ∈ sightingsIn access.search listing ∧
          closed.searchable = false) := by
  rcases h.mem_sightings.mp hmem with ⟨hseen, hunhidden⟩
  have hnames : forall name, name ∈ sighting.names ->
      name ≠ "..".toList ∧ Utf8.size name ≤ maxNameSize := by
    intro name hname
    have hproper := isEntryName_iff.mp (h.isEntryName hmem name hname)
    exact ⟨hproper.right.right.left, hproper.right.right.right.right.right⟩
  rw [FileTree.locate_below h.located hshort]
  rcases FileTree.follow_of_seen? h.entry hnames hseen with
    hopen | ⟨hdenied, before, name, after, blocked, hsplit, hblocked⟩
  · exact Or.inl hopen
  · refine Or.inr ⟨hdenied, ⟨before ++ [name], false, blocked⟩, ?_, rfl⟩
    refine h.mem_sightings.mpr ⟨hblocked, ?_⟩
    intro other hother
    apply hunhidden
    rw [hsplit, ← List.singleton_append, ← List.append_assoc]
    exact List.mem_append_left after hother

theorem entryAt?_sighting (h : Listed tree directory place access listing)
    {sighting : Sighting} (hmem : sighting ∈ sightingsIn access.search listing) :
    tree.entryAt? (.within (sighting.names.reverse ++ place.names)) =
      some sighting.node := by
  have hentry : tree.entryAt? (.within place.names) = _ := h.entry
  rw [FileTree.entryAt?_within_append, hentry]
  exact Entry.descend_of_seen? (h.mem_sightings.mp hmem).left

theorem fails_of_refusal? (h : Listed tree directory place access listing)
    {sighting : Sighting} (hmem : sighting ∈ sightingsIn access.search listing)
    {fault : FileFault}
    (hrefusal : refusal? sighting.searchable (directory.below sighting.names) = some fault) :
    tree.Fails (directory.below sighting.names) fault := by
  refine ⟨h.noNull_below hmem, ?_⟩
  rcases refusal?_cases hrefusal with ⟨hlong, rfl⟩ | ⟨hshort, hclosed, rfl⟩
  · exact .tooLong hlong
  · rcases h.locate_sighting hmem hshort with ⟨hopen, _⟩ | ⟨hdenied, _⟩
    · rw [hclosed] at hopen
      cases hopen
    · exact FileTree.locate_eq_denied.mp hdenied

/-- An entry that cannot be looked up by its path is in, or below, one that the walk
is refused. -/
theorem exists_refusal?_of_fails (h : Listed tree directory place access listing)
    {sighting : Sighting} (hmem : sighting ∈ sightingsIn access.search listing)
    {fault : FileFault} (hfails : tree.Fails (directory.below sighting.names) fault) :
    exists refused, refused ∈ sightingsIn access.search listing ∧
      refusal? refused.searchable (directory.below refused.names) ≠ none := by
  cases hlong : (directory.below sighting.names).isTooLong with
  | true =>
      refine ⟨sighting, hmem, ?_⟩
      rw [ne_eq, refusal?_eq_none, hlong]
      simp
  | false =>
      rcases h.locate_sighting hmem hlong with
        ⟨_, hlocate⟩ | ⟨_, closed, hclosed, hsearchable⟩
      · have hplace := FileTree.placeOf?_eq_error_iff.mpr ⟨fault, hfails, rfl⟩
        simp [FileTree.placeOf?, h.noNull_below hmem, hlocate] at hplace
      · refine ⟨closed, hclosed, ?_⟩
        rw [ne_eq, refusal?_eq_none, hsearchable]
        simp

/-- The documents of a walk are those of the files below the directory. -/
theorem mem_iff_isFound (h : Listed tree directory place access listing)
    {documents : List Documented}
    (hwalk : visitAll registry directory (sightingsIn access.search listing) =
      .ok documents) (document : Documented) :
    document ∈ documents <-> IsFound tree registry directory document := by
  rcases visitAll_eq_ok hwalk with ⟨hopens, hmem, _⟩
  have hfileAt : forall sighting, sighting ∈ sightingsIn access.search listing ->
      forall file, tree.fileAt? (directory.below sighting.names) = .ok (some file) <->
        sighting.node = .file file := by
    intro sighting hsighting file
    rcases refusal?_eq_none.mp (hopens sighting hsighting) with ⟨hshort, hopen⟩
    rw [FileTree.fileAt?_eq_some]
    rcases h.locate_sighting hsighting hshort with
      ⟨_, hlocate⟩ | ⟨_, closed, hclosed, hsearchable⟩
    · simp [h.noNull_below hsighting, hlocate, h.entryAt?_sighting hsighting]
    · rw [(refusal?_eq_none.mp (hopens closed hclosed)).right] at hsearchable
      cases hsearchable
  rw [hmem]
  constructor
  · rintro ⟨sighting, file, hsighting, hnode, hpath, hsome, dialect, hdialect, hread⟩
    have hfile := (hfileAt sighting hsighting file).mpr hnode
    refine ⟨sighting.names, dialect, h.shown_iff.mpr ⟨sighting, hsighting, rfl⟩, hpath,
      hpath ▸ hdialect, ?_, hsome⟩
    exact (extract_eq_ok hsome).mpr ⟨file, hpath ▸ hfile, hread⟩
  · rintro ⟨names, dialect, hshown, hpath, hdialect, hextract, hsome⟩
    rcases h.shown_iff.mp hshown with ⟨sighting, hsighting, rfl⟩
    rcases (extract_eq_ok hsome).mp hextract with ⟨file, hfile, hread⟩
    rw [hpath] at hfile hdialect
    exact ⟨sighting, file, hsighting, (hfileAt sighting hsighting file).mp hfile, hpath,
      hsome, dialect, hdialect, hread⟩

theorem nodup_texts (h : Listed tree directory place access listing) :
    ((sightingsIn access.search listing).map fun sighting =>
      (directory.below sighting.names).toText).Nodup := by
  have hnames := nodup_sightingsIn h.readable listing h.isProper
  have hentryNames : forall names,
      names ∈ (sightingsIn access.search listing).map Sighting.names ->
      names ≠ [] ∧ forall name, name ∈ names -> PodManual.isEntryName name = true := by
    intro names hmem
    rcases List.mem_map.mp hmem with ⟨sighting, hsighting, rfl⟩
    refine ⟨?_, h.isEntryName hsighting⟩
    intro hnil
    have hseen := (h.mem_sightings.mp hsighting).left
    rw [hnil] at hseen
    simp [Entry.seen?] at hseen
  have htexts : (((sightingsIn access.search listing).map Sighting.names).map fun names =>
      (directory.below names).toText).Nodup := by
    refine hnames.map_on ?_
    intro first hfirst second hsecond htext
    exact Path.eq_of_toText_below (hentryNames first hfirst).left
      (hentryNames second hsecond).left (hentryNames first hfirst).right
      (hentryNames second hsecond).right htext
  rw [List.map_map] at htexts
  exact htexts

end Listed

theorem listed_or_error (hproper : tree.isProper = true)
    (hnull : directory.hasNull = false) :
    (exists place access listing, Listed tree directory place access listing ∧
      tree.list directory = .ok (access.search, listing)) ∨
    ((exists fault, tree.list directory = .error fault) ∧
      forall names, ¬ Shown tree directory names) := by
  cases hlist : tree.list directory with
  | ok pair =>
      rcases FileTree.list_eq_ok.mp hlist with ⟨place, access, hplace, hentry, hread, hsearch⟩
      exact Or.inl ⟨place, access, pair.2, ⟨hproper, hnull, hplace, hentry, hread⟩,
        congrArg Except.ok (Prod.ext hsearch.symm rfl)⟩
  | error fault =>
      refine Or.inr ⟨⟨fault, rfl⟩, ?_⟩
      rintro names ⟨_, place, node, ⟨searchable, found⟩, hplace, hnode, hseen⟩
      cases names with
      | nil => simp [Entry.seen?] at hseen
      | cons name names =>
          cases node with
          | file file => cases hseen
          | directory access listing =>
              rw [FileTree.list_eq_ok.mpr ⟨place, access, hplace, hnode,
                (Entry.seen?_cons.mp hseen).left, rfl⟩] at hlist
              cases hlist

theorem exists_find (level : Nat) {fallback : Dialect} (hproper : tree.isProper = true)
    (hdefault : registry.default? = some fallback) (hnull : directory.hasNull = false)
    (h : ¬ Obstructed tree directory) :
    exists documents, (find level tree registry directory).result = .ok documents ∧
      (forall document, document ∈ documents <->
        IsFound tree registry directory document) ∧
      Increasing documents := by
  rcases listed_or_error hproper hnull with
    ⟨place, access, listing, hlisted, hlist⟩ | ⟨⟨fault, hlist⟩, hnothing⟩
  · cases hwalk : visitAll registry directory (sightingsIn access.search listing) with
    | error failure =>
        rcases visitAll_eq_error hdefault hwalk with ⟨sighting, fault, hmem, hrefusal, _⟩
        exact absurd ⟨sighting.names, fault, hlisted.shown_iff.mpr ⟨sighting, hmem, rfl⟩,
          hlisted.fails_of_refusal? hmem hrefusal⟩ h
    | ok documents =>
        refine ⟨sorted documents, ?_, ?_, ?_⟩
        · rw [find_of_list hnull hlist, hwalk]
          rfl
        · intro document
          rw [mem_sorted]
          exact hlisted.mem_iff_isFound hwalk document
        · apply increasing_sorted
          have hpaths := (visitAll_eq_ok hwalk).right.right.map Path.toText
          rw [List.map_map, List.map_map] at hpaths
          exact hpaths.nodup hlisted.nodup_texts
  · refine ⟨[], find_of_list_error hnull hlist, ?_, List.Pairwise.nil⟩
    intro document
    simp only [List.not_mem_nil, false_iff]
    rintro ⟨names, _, hshown, _⟩
    exact hnothing names hshown

theorem find_of_obstructed {fallback : Dialect} (hproper : tree.isProper = true)
    (hdefault : registry.default? = some fallback) (hnull : directory.hasNull = false)
    (h : Obstructed tree directory) :
    exists names fault, Shown tree directory names ∧
      tree.Fails (directory.below names) fault ∧
      (find level tree registry directory).result =
        .error (.file fault (directory.below names).toText) := by
  rcases h with ⟨names, fault, hshown, hfails⟩
  rcases listed_or_error hproper hnull with
    ⟨place, access, listing, hlisted, hlist⟩ | ⟨_, hnothing⟩
  · rcases hlisted.shown_iff.mp hshown with ⟨sighting, hmem, rfl⟩
    rcases hlisted.exists_refusal?_of_fails hmem hfails with ⟨refused, hrefused, hsome⟩
    cases hwalk : visitAll registry directory (sightingsIn access.search listing) with
    | ok documents => exact absurd ((visitAll_eq_ok hwalk).left refused hrefused) hsome
    | error failure =>
        rcases visitAll_eq_error hdefault hwalk with ⟨other, cause, hother, hrefusal, rfl⟩
        refine ⟨other.names, cause, hlisted.shown_iff.mpr ⟨other, hother, rfl⟩,
          hlisted.fails_of_refusal? hother hrefusal, ?_⟩
        rw [find_of_list hnull hlist, hwalk]
        rfl
  · exact absurd hshown (hnothing names)

theorem find_of_not_directory (hnull : directory.hasNull = false)
    (h : tree.isDirectory directory ≠ .ok true) :
    (find level tree registry directory).result = .ok [] := by
  cases hlist : tree.list directory with
  | error fault => exact find_of_list_error hnull hlist
  | ok pair =>
      rcases FileTree.list_eq_ok.mp hlist with ⟨place, access, hplace, hentry, _⟩
      refine absurd ?_ h
      simp [FileTree.isDirectory, FileTree.placeOf?, hnull, hplace, hentry]

/-- A survey of a directory, given by the texts of a base and of a path below it,
finds each documented file below the directory once, in the order of the texts of the
paths and whatever the order of the listings; only an entry that cannot be looked up by
its path makes it fail. -/
theorem find_exact (level : Nat) {fallback : Dialect} {base below : Text}
    (hproper : tree.isProper = true) (hdefault : registry.default? = some fallback)
    (hbase : '\x00' ∉ base) (hbelow : '\x00' ∉ below)
    (hdirectory : directory = (Path.ofText base).join (Path.ofText below)) :
    (¬ Obstructed tree directory ->
      exists documents,
        (forall other, tree.Reordered other ->
          (find level other registry directory).result = .ok documents) ∧
        (forall document, document ∈ documents <->
          IsFound tree registry directory document) ∧
        Increasing documents) ∧
    (Obstructed tree directory ->
      exists names fault, Shown tree directory names ∧
        tree.Fails (directory.below names) fault ∧
        (find level tree registry directory).result =
          .error (.file fault (directory.below names).toText)) ∧
    (tree.isDirectory directory ≠ .ok true ->
      (find level tree registry directory).result = .ok []) := by
  have hnull : directory.hasNull = false := by
    rw [hdirectory]
    exact Path.hasNull_join (Path.hasNull_ofText hbase) (Path.hasNull_ofText hbelow)
  refine ⟨?_, find_of_obstructed hproper hdefault hnull, find_of_not_directory hnull⟩
  intro hfree
  rcases exists_find level hproper hdefault hnull hfree with
    ⟨documents, _, hmem, hincreasing⟩
  refine ⟨documents, ?_, hmem, hincreasing⟩
  intro other hother
  rcases exists_find level (hother.right.right.isProper hproper) hdefault hnull
    (fun hobstructed => hfree ((obstructed_reordered hother).mpr hobstructed)) with
    ⟨others, hfind, hothers, hotherIncreasing⟩
  have heq : documents = others := by
    apply hincreasing.eq_of_mem_iff hotherIncreasing
    intro document
    rw [hmem, hothers, isFound_reordered hother]
  rw [heq]
  exact hfind

/-- A library with documented files on two levels, one of them hidden, and a file
that says nothing. -/
def libraryTree : FileTree :=
  .ofListing (.entry "lib".toList
    (.directory .full
      (.entry "a".toList
        (.directory .full (.entry "B.pm".toList
          (.file (.ofText "=head1 NAME\nB\n".toList)) .empty))
        (.entry ".A.pm".toList (.file (.ofText "=head1 NAME\nA\n".toList))
          (.entry "a-b".toList (.file (.ofText "=head1 NAME\nC\n".toList))
            (.entry "empty.pm".toList (.file (.ofText [])) .empty))))) .empty)

theorem libraryTree_found :
    libraryTree.isProper = true ∧ '\x00' ∉ "lib".toList ∧ '\x00' ∉ "".toList ∧
    exists documents,
      (forall other, libraryTree.Reordered other ->
        (find 0 other ⟨[], some .perl⟩ ⟨.relative, ["lib".toList]⟩).result = .ok documents) ∧
      (forall document, document ∈ documents <->
        IsFound libraryTree ⟨[], some .perl⟩ ⟨.relative, ["lib".toList]⟩ document) ∧
      Increasing documents := by
  have hproper : libraryTree.isProper = true := by decide +kernel
  have hbase : '\x00' ∉ "lib".toList := by decide
  have hbelow : '\x00' ∉ "".toList := by decide
  have hdirectory : (⟨.relative, ["lib".toList]⟩ : Path) =
      (Path.ofText "lib".toList).join (Path.ofText "".toList) := by decide +kernel
  rcases find_exact 0 hproper (rfl : Registry.default? ⟨[], some .perl⟩ = some .perl)
    hbase hbelow hdirectory with ⟨hfound, hfails, _⟩
  refine ⟨hproper, hbase, hbelow, hfound ?_⟩
  intro hobstructed
  rcases hfails hobstructed with ⟨_, _, _, _, hfails⟩
  have hfinds : (find 0 libraryTree ⟨[], some .perl⟩
      ⟨.relative, ["lib".toList]⟩).result.toOption.isSome = true := by decide +kernel
  rw [hfails] at hfinds
  cases hfinds

def crampedListing : Listing :=
  .entry "A".toList (.file (.ofText "=head1 NAME\nA\n".toList))
    (.entry "Long.pm".toList (.file (.ofText [])) .empty)

def crampedTree : FileTree :=
  .ofListing (.entry "d".toList (.directory .full crampedListing) .empty)

/-- A way to the directory that leaves room for the name of the first file, but not
for that of the second. -/
def longWay : Text :=
  (List.replicate 818 "d/../".toList).flatten ++ "d".toList

-- The file without documentation keeps the survey from finding the other one.
theorem longWay_finds_nothing :
    crampedTree.isProper = true ∧ '\x00' ∉ longWay ∧
    IsFound crampedTree ⟨[], some .plain⟩ (Path.ofText longWay)
      ⟨(Path.ofText longWay).below ["A".toList],
        [⟨"head1".toList, "NAME".toList, ["A\n".toList]⟩]⟩ ∧
    forall documents,
      (find 0 crampedTree ⟨[], some .plain⟩ (Path.ofText longWay)).result ≠ .ok documents := by
  refine ⟨by decide +kernel, by decide +kernel, ?_, ?_⟩
  · refine ⟨["A".toList], .plain, ⟨?_, .within ["d".toList, FileTree.workName], _, _, ?_, rfl, rfl⟩,
      rfl, rfl, ?_, List.cons_ne_nil _ _⟩
    · intro name hname
      cases List.mem_singleton.mp hname
      rfl
    · apply eq_ok_of_toOption
      decide +kernel
    · apply eq_ok_of_toOption
      decide +kernel
  · apply ne_ok_of_toOption
    decide +kernel

end Survey
end PodManual
