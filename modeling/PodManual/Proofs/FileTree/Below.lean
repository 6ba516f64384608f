import PodManual.Proofs.FileTree.Listing
import PodManual.Proofs.Text.Order

/-!
# Paths below a directory

Names lead from a directory to paths below it.  Different names of entries give
paths of different texts.  Such a path leads where the names lead from the place of the
directory, unless one of the directories on the way may not be searched.
-/

namespace PodManual

namespace Path

def below (path : Path) (names : List Text) : Path :=
  ⟨path.root, path.parts ++ names⟩

theorem below_child (path : Path) (name : Text) (names : List Text) :
    (path.child name).below names = path.below (name :: names) := by
  simp [below, child]

theorem hasNull_eq_false {path : Path} :
    path.hasNull = false <-> forall part, part ∈ path.parts -> '\x00' ∉ part := by
  simp [hasNull]

theorem hasNull_below {path : Path} {names : List Text} (hpath : path.hasNull = false)
    (hnames : forall name, name ∈ names -> '\x00' ∉ name) :
    (path.below names).hasNull = false := by
  apply hasNull_eq_false.mpr
  intro part hpart
  rcases List.mem_append.mp hpart with hold | hnew
  · exact hasNull_eq_false.mp hpath part hold
  · exact hnames part hnew

theorem hasNull_ofText {t : Text} (h : '\x00' ∉ t) : (ofText t).hasNull = false := by
  apply hasNull_eq_false.mpr
  intro part hpart hnull
  exact h (Text.mem_of_mem_cutAt (List.mem_filter.mp hpart).left hnull)

theorem hasNull_join {first second : Path} (hfirst : first.hasNull = false)
    (hsecond : second.hasNull = false) : (first.join second).hasNull = false := by
  unfold join
  split
  · exact hasNull_below hfirst (hasNull_eq_false.mp hsecond)
  · exact hsecond

theorem joinWith_append_ne_nil (parts : List Text) {name : Text} (names : List Text)
    (hname : name ≠ []) : Text.joinWith "/".toList (parts ++ name :: names) ≠ [] := by
  cases parts with
  | nil =>
      cases names with
      | nil => exact hname
      | cons next names =>
          rw [List.nil_append, Text.joinWith_cons_of_ne_nil _ _ (List.cons_ne_nil next names)]
          simp [hname]
  | cons part parts =>
      rw [Text.joinWith_append _ (List.cons_ne_nil part parts) (List.cons_ne_nil name names)]
      simp

theorem toText_below (path : Path) {name : Text} (names : List Text) (hname : name ≠ []) :
    (path.below (name :: names)).toText =
      path.root.toText ++ Text.joinWith "/".toList (path.parts ++ name :: names) := by
  have hne : path.root.toText ++ Text.joinWith "/".toList (path.parts ++ name :: names) ≠ [] := by
    intro hnil
    exact joinWith_append_ne_nil path.parts names hname
      (List.append_eq_nil_iff.mp hnil).right
  unfold toText below
  split
  · rename_i hnil
    exact absurd hnil hne
  · rfl

/-- Names of entries can be read off the text of a path below a directory. -/
theorem eq_of_toText_below {path : Path} {first second : List Text}
    (hfirst : first ≠ []) (hsecond : second ≠ [])
    (hfirstNames : forall name, name ∈ first -> isEntryName name = true)
    (hsecondNames : forall name, name ∈ second -> isEntryName name = true)
    (h : (path.below first).toText = (path.below second).toText) : first = second := by
  have hjoined : Text.joinWith "/".toList (path.parts ++ first) =
      Text.joinWith "/".toList (path.parts ++ second) := by
    cases first with
    | nil => exact absurd rfl hfirst
    | cons name names =>
        cases second with
        | nil => exact absurd rfl hsecond
        | cons other others =>
            have hname := (isEntryName_iff.mp (hfirstNames name List.mem_cons_self)).left
            have hother := (isEntryName_iff.mp (hsecondNames other List.mem_cons_self)).left
            rw [toText_below path names hname, toText_below path others hother] at h
            exact List.append_cancel_left h
  have hnames : Text.joinWith ['/'] first = Text.joinWith ['/'] second := by
    cases hparts : path.parts with
    | nil =>
        rw [hparts] at hjoined
        exact hjoined
    | cons part parts =>
        rw [hparts, Text.joinWith_append _ (List.cons_ne_nil part parts) hfirst,
          Text.joinWith_append _ (List.cons_ne_nil part parts) hsecond] at hjoined
        exact List.append_cancel_left hjoined
  have hslash : forall names : List Text, (forall name, name ∈ names -> isEntryName name = true) ->
      forall name, name ∈ names -> '/' ∉ name := by
    intro names hnames name hname
    exact (isEntryName_iff.mp (hnames name hname)).right.right.right.left
  calc
    first = Text.cutAt '/' (Text.joinWith ['/'] first) :=
      (Text.cutAt_joinWith hfirst (hslash first hfirstNames)).symm
    _ = Text.cutAt '/' (Text.joinWith ['/'] second) := by rw [hnames]
    _ = second := Text.cutAt_joinWith hsecond (hslash second hsecondNames)

/-!
## Length
-/

theorem size_le_toText (path : Path) :
    Utf8.size (path.root.toText ++ Text.joinWith "/".toList path.parts) ≤
      Utf8.size path.toText := by
  unfold toText
  split
  · rename_i hnil
    rw [hnil]
    exact Nat.zero_le _
  · exact Nat.le_refl _

theorem size_toText_le (path : Path) :
    Utf8.size path.toText ≤
      max 1 (Utf8.size (path.root.toText ++ Text.joinWith "/".toList path.parts)) := by
  unfold toText
  split
  · exact Nat.le_max_left _ _
  · exact Nat.le_max_right _ _

theorem isTooLong_below {path : Path} (h : path.isTooLong = true) (names : List Text) :
    (path.below names).isTooLong = true := by
  unfold isTooLong at h ⊢
  rw [decide_eq_true_eq] at h ⊢
  have hlong : maxPathSize <
      Utf8.size (path.root.toText ++ Text.joinWith "/".toList path.parts) := by
    have hle := path.size_toText_le
    unfold maxPathSize at h ⊢
    omega
  have hgrows : Utf8.size (Text.joinWith "/".toList path.parts) ≤
      Utf8.size (Text.joinWith "/".toList (path.parts ++ names)) := by
    cases hnames : names with
    | nil => exact Nat.le_of_eq (by rw [List.append_nil])
    | cons name rest =>
        cases hparts : path.parts with
        | nil => exact Nat.zero_le _
        | cons part parts =>
            rw [Text.joinWith_append _ (List.cons_ne_nil part parts)
              (List.cons_ne_nil name rest)]
            simp only [Utf8.size, Utf8.encode_append, List.length_append]
            omega
  have hbelow := size_le_toText (path.below names)
  unfold below at hbelow ⊢
  simp only [Utf8.size, Utf8.encode_append, List.length_append] at hlong hgrows hbelow ⊢
  omega

end Path

/-!
## Places
-/

namespace FileTree

variable {tree : FileTree}

theorem start_below (path : Path) (names : List Text) :
    tree.start (path.below names) = tree.start path := rfl

theorem start_of_rooted {path : Path} (h : path.root ≠ .relative) :
    tree.start path = .ok (.within []) := by
  unfold start
  split
  · rename_i hrelative
    exact absurd hrelative h
  · rfl

theorem locate_eq_ok {path : Path} {place : Place} :
    tree.locate path = .ok place <->
      path.isTooLong = false ∧
        exists first, tree.start path = .ok first ∧
          tree.follow first path.parts = .ok place := by
  unfold locate
  cases path.isTooLong with
  | true => simp
  | false =>
      cases tree.start path with
      | error fault => simp
      | ok first => simp

theorem locate_below {directory : Path} {names : List Text} {place : Place}
    (hplace : tree.locate directory = .ok place)
    (hshort : (directory.below names).isTooLong = false) :
    tree.locate (directory.below names) = tree.follow place names := by
  rcases locate_eq_ok.mp hplace with ⟨_, first, hstart, hfollow⟩
  rw [locate, hshort, if_neg Bool.false_ne_true, start_below, hstart]
  change tree.follow first (directory.parts ++ names) = _
  rw [follow_append, hfollow]

theorem exists_locate_of_below {directory : Path} {names : List Text} {last : Place}
    (h : tree.locate (directory.below names) = .ok last) :
    exists middle, tree.locate directory = .ok middle ∧
      tree.follow middle names = .ok last := by
  rcases locate_eq_ok.mp h with ⟨hshort, first, hstart, hfollow⟩
  rcases follow_append_eq_ok.mp hfollow with ⟨middle, hmiddle, hrest⟩
  refine ⟨middle, locate_eq_ok.mpr ⟨?_, first, hstart, hmiddle⟩, hrest⟩
  rw [Bool.eq_false_iff]
  intro hlong
  rw [Path.isTooLong_below hlong names] at hshort
  cases hshort

theorem list_eq_ok {directory : Path} {searchable : Bool} {listing : Listing} :
    tree.list directory = .ok (searchable, listing) <->
      exists place access, tree.locate directory = .ok place ∧
        tree.entryAt? place = some (.directory access listing) ∧
        access.read = true ∧ access.search = searchable := by
  unfold list
  cases tree.locate directory with
  | error fault => simp
  | ok place =>
      simp only [Except.ok.injEq, exists_and_left, exists_eq_left']
      cases tree.entryAt? place with
      | none => simp
      | some node =>
          cases node with
          | file file => simp
          | directory access mine =>
              simp only [Option.some.injEq, Entry.directory.injEq]
              cases hread : access.read with
              | false =>
                  simp only [Bool.false_eq_true, if_false, reduceCtorEq, false_iff,
                    not_exists]
                  rintro _ ⟨⟨rfl, _⟩, hreadable, _⟩
                  rw [hread] at hreadable
                  cases hreadable
              | true =>
                  simp only [if_true, Except.ok.injEq, Prod.mk.injEq]
                  constructor
                  · rintro ⟨rfl, rfl⟩
                    exact ⟨access, ⟨rfl, rfl⟩, hread, rfl⟩
                  · rintro ⟨_, ⟨rfl, rfl⟩, _, rfl⟩
                    exact ⟨rfl, rfl⟩

theorem isProper_at {place : Place} {node : Entry} (hproper : tree.isProper = true)
    (h : tree.entryAt? place = some node) : node.isProper = true := by
  have htop : (Entry.directory tree.access tree.top).isProper = true := by
    rw [Entry.isProper]
    exact hproper
  exact (Entry.isProper_of_descend htop h).left

end FileTree

/-!
## What is seen below a directory

Whoever goes through listings comes to an entry by names.  Whether its path can be
looked up is another question: the directories on the way had to be listed, not
searched.
-/

/-- The entry that names lead to below an entry, through directories that may be listed,
and whether the directory that holds it may be searched. -/
def Entry.seen? : List Text -> Entry -> Option (Bool × Entry)
  | name :: names, .directory access listing =>
      if access.read then
        match listing.get? name with
        | none => none
        | some next =>
            match names with
            | [] => some (access.search, next)
            | names => next.seen? names
      else none
  | _, _ => none

theorem Entry.seen?_cons {access : Access} {listing : Listing} {name : Text}
    {names : List Text} {searchable : Bool} {found : Entry} :
    (Entry.directory access listing).seen? (name :: names) = some (searchable, found) <->
      access.read = true ∧
        exists next, listing.get? name = some next ∧
          ((names = [] ∧ access.search = searchable ∧ next = found) ∨
            next.seen? names = some (searchable, found)) := by
  rw [seen?]
  cases access.read with
  | false => simp
  | true =>
      cases listing.get? name with
      | none => simp
      | some next =>
          cases names with
          | nil => simp [seen?]
          | cons other names => simp

theorem Entry.descend_of_seen? {names : List Text} {node found : Entry}
    {searchable : Bool} (h : node.seen? names = some (searchable, found)) :
    node.descend names = some found := by
  induction names generalizing node with
  | nil =>
      rw [seen?] at h
      · cases h
      · simp
  | cons name names ih =>
      cases node with
      | file file => cases h
      | directory access listing =>
          rcases seen?_cons.mp h with ⟨_, next, hnext, ⟨rfl, _, rfl⟩ | hrest⟩
          · rw [descend, hnext]
            rfl
          · rw [descend, hnext]
            exact ih hrest

namespace FileTree

variable {tree : FileTree}

/-- The path of an entry that is seen is followed to the end, unless a directory on the
way may not be searched. -/
theorem follow_of_seen? {place : Place} {node found : Entry} {names : List Text}
    {searchable : Bool} (hentry : tree.entryAt? place = some node)
    (hnames : forall name, name ∈ names ->
      name ≠ "..".toList ∧ Utf8.size name ≤ maxNameSize)
    (hseen : node.seen? names = some (searchable, found)) :
    (searchable = true ∧
        tree.follow place names = .ok (.within (names.reverse ++ place.names))) ∨
      (tree.follow place names = .error .denied ∧
        exists before name after blocked, names = before ++ name :: after ∧
          node.seen? (before ++ [name]) = some (false, blocked)) := by
  induction names generalizing place node with
  | nil =>
      rw [Entry.seen?] at hseen
      · cases hseen
      · simp
  | cons name names ih =>
      cases node with
      | file file => cases hseen
      | directory access listing =>
          rcases Entry.seen?_cons.mp hseen with ⟨hread, next, hnext, hrest⟩
          rcases hnames name List.mem_cons_self with ⟨hparent, hshort⟩
          cases hsearch : access.search with
          | false =>
              -- The entry has been listed here, but it cannot be looked up.
              have hbarrier := barrier?_eq_denied.mpr ⟨access, listing, hentry, hsearch⟩
              refine Or.inr ⟨?_, [], name, names, next, rfl, ?_⟩
              · rw [follow, enter_of_barrier hbarrier]
              · exact Entry.seen?_cons.mpr ⟨hread, next, hnext, Or.inl ⟨rfl, hsearch, rfl⟩⟩
          | true =>
              have hbarrier := barrier?_eq_none.mpr ⟨access, listing, hentry, hsearch⟩
              have hchild : tree.entryAt? (place.child name) = some next := by
                rw [entryAt?_child hentry, hnext]
              have henter : tree.enter place name = .ok (place.child name) :=
                enter_eq_ok.mpr
                  ⟨hbarrier, Or.inr ⟨hparent, hshort, rfl, by rw [hchild]; rfl⟩⟩
              rw [follow, henter]
              rcases hrest with ⟨rfl, rfl, rfl⟩ | hrest
              · exact Or.inl ⟨hsearch, rfl⟩
              · have hlater := ih hchild
                  (fun other hother => hnames other (List.mem_cons_of_mem _ hother)) hrest
                rcases hlater with
                  ⟨hopen, hfollow⟩ | ⟨hdenied, before, other, after, blocked, rfl, hblocked⟩
                · refine Or.inl ⟨hopen, ?_⟩
                  rw [List.reverse_cons, List.append_assoc]
                  exact hfollow
                · refine Or.inr ⟨hdenied, name :: before, other, after, blocked, rfl, ?_⟩
                  exact Entry.seen?_cons.mpr ⟨hread, next, hnext, Or.inr hblocked⟩

end FileTree
end PodManual
