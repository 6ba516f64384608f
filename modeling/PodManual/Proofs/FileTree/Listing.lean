import Mathlib.Data.Option.Basic
import PodManual.Proofs.FileTree.Follow
import PodManual.Source

/-!
# Listings

A listing that a directory can have gives each of its entries a name of its own.
The order in which entries are listed means nothing to look-ups: in two trees that
differ only in the order of their listings, every path leads to the same place and
to the same bytes.
-/

namespace PodManual

/-!
## Proper listings
-/

/-- A name that an entry of a directory can have: it is not empty and none of the
names with a meaning in paths, it holds neither a slash nor the null character, and
it is not too long. -/
def isEntryName (name : Text) : Bool :=
  Path.isPart name && name != "..".toList && !name.contains '/' &&
    !name.contains '\x00' && decide (Utf8.size name ≤ maxNameSize)

def Listing.names : Listing -> List Text
  | .empty => []
  | .entry name _ rest => name :: rest.names

mutual

/-- The entry is one that a file system can hold. -/
def Entry.isProper : Entry -> Bool
  | .file _ => true
  | .directory _ listing => listing.isProper

/-- Every name of the listing is the name of one entry, and so on below. -/
def Listing.isProper : Listing -> Bool
  | .empty => true
  | .entry name node rest =>
      isEntryName name && !rest.names.contains name && node.isProper && rest.isProper

end

def FileTree.isProper (tree : FileTree) : Bool :=
  tree.top.isProper

theorem isEntryName_iff {name : Text} :
    isEntryName name = true <->
      name ≠ [] ∧ name ≠ ".".toList ∧ name ≠ "..".toList ∧ '/' ∉ name ∧
        '\x00' ∉ name ∧ Utf8.size name ≤ maxNameSize := by
  unfold isEntryName Path.isPart
  simp only [Bool.and_eq_true, bne_iff_ne, Bool.not_eq_true', decide_eq_true_eq,
    List.contains_eq_mem, decide_eq_false_iff_not, and_assoc]

namespace Listing

theorem isProper_entry {name : Text} {node : Entry} {rest : Listing} :
    (Listing.entry name node rest).isProper = true <->
      isEntryName name = true ∧ name ∉ rest.names ∧ node.isProper = true ∧
        rest.isProper = true := by
  rw [isProper]
  simp only [Bool.and_eq_true, Bool.not_eq_true', List.contains_eq_mem,
    decide_eq_false_iff_not, and_assoc]

theorem mem_names_of_get? {name : Text} {node : Entry} :
    (listing : Listing) -> listing.get? name = some node -> name ∈ listing.names
  | .empty, h => by
      cases h
  | .entry other first rest, h => by
      rw [names, List.mem_cons]
      by_cases hother : other = name
      · exact Or.inl hother.symm
      · rw [get?, if_neg hother] at h
        exact Or.inr (mem_names_of_get? rest h)

theorem isProper_of_get? {name : Text} {node : Entry} :
    (listing : Listing) -> listing.isProper = true -> listing.get? name = some node ->
      isEntryName name = true ∧ node.isProper = true
  | .empty, _, h => by
      cases h
  | .entry other first rest, hproper, h => by
      rcases isProper_entry.mp hproper with ⟨hname, _, hfirst, hrest⟩
      by_cases hother : other = name
      · rw [get?, if_pos hother] at h
        cases h
        exact ⟨hother ▸ hname, hfirst⟩
      · rw [get?, if_neg hother] at h
        exact isProper_of_get? rest hrest h

end Listing

theorem Entry.isProper_of_descend {names : List Text} {node found : Entry}
    (hproper : node.isProper = true) (h : node.descend names = some found) :
    found.isProper = true ∧ forall name, name ∈ names -> isEntryName name = true := by
  induction names generalizing node with
  | nil =>
      rw [descend] at h
      cases h
      exact ⟨hproper, by simp⟩
  | cons name names ih =>
      cases node with
      | file file => cases h
      | directory access listing =>
          rw [descend] at h
          cases hnext : listing.get? name with
          | none =>
              rw [hnext] at h
              cases h
          | some next =>
              rw [hnext] at h
              rw [isProper] at hproper
              rcases Listing.isProper_of_get? listing hproper hnext with ⟨hname, hnode⟩
              rcases ih hnode h with ⟨hfound, hnames⟩
              exact ⟨hfound, List.forall_mem_cons.mpr ⟨hname, hnames⟩⟩

/-!
## Listings in another order
-/

/-- The second listing has the entries of the first in another order, and so on
below. -/
inductive Listing.Reordered : Listing -> Listing -> Prop where
  | refl (listing : Listing) : Reordered listing listing
  | rest (name : Text) (node : Entry) {first second : Listing} :
      Reordered first second ->
      Reordered (.entry name node first) (.entry name node second)
  | inside (name : Text) (access : Access) {first second : Listing} (rest : Listing) :
      Reordered first second ->
      Reordered (.entry name (.directory access first) rest)
        (.entry name (.directory access second) rest)
  | swap {name other : Text} (node next : Entry) (rest : Listing) :
      name ≠ other ->
      Reordered (.entry name node (.entry other next rest))
        (.entry other next (.entry name node rest))
  | trans {first second third : Listing} :
      Reordered first second -> Reordered second third -> Reordered first third

inductive Entry.Alike : Entry -> Entry -> Prop where
  | file (file : File) : Alike (.file file) (.file file)
  | directory (access : Access) {first second : Listing} :
      first.Reordered second -> Alike (.directory access first) (.directory access second)

theorem Entry.Alike.refl (node : Entry) : node.Alike node := by
  cases node with
  | file file => exact Alike.file file
  | directory access listing =>
      exact Alike.directory access (Listing.Reordered.refl listing)

theorem Entry.Alike.trans {first second third : Entry} (h : first.Alike second)
    (hnext : second.Alike third) : first.Alike third := by
  cases h with
  | file file => exact hnext
  | directory access hfirst =>
      cases hnext with
      | directory _ hsecond => exact Alike.directory access (hfirst.trans hsecond)

abbrev AlikeAnswers : Option Entry -> Option Entry -> Prop :=
  Option.Rel Entry.Alike

theorem AlikeAnswers.refl (answer : Option Entry) : AlikeAnswers answer answer := by
  cases answer with
  | none => exact Option.Rel.none
  | some node => exact Option.Rel.some (Entry.Alike.refl node)

theorem AlikeAnswers.trans {first second third : Option Entry}
    (h : AlikeAnswers first second) (hnext : AlikeAnswers second third) :
    AlikeAnswers first third := by
  cases h with
  | none => exact hnext
  | some hfirst =>
      cases hnext with
      | some hsecond => exact Option.Rel.some (hfirst.trans hsecond)

theorem AlikeAnswers.cases {first second : Option Entry} (h : AlikeAnswers first second) :
    (first = none ∧ second = none) ∨
      (exists file, first = some (.file file) ∧ second = some (.file file)) ∨
      exists access listing other, first = some (.directory access listing) ∧
        second = some (.directory access other) ∧ listing.Reordered other := by
  cases h with
  | none => exact Or.inl ⟨rfl, rfl⟩
  | some halike =>
      cases halike with
      | file file => exact Or.inr (Or.inl ⟨file, rfl, rfl⟩)
      | directory access hlisting =>
          exact Or.inr (Or.inr ⟨access, _, _, rfl, rfl, hlisting⟩)

namespace Listing.Reordered

theorem alikeGet {first second : Listing} (h : first.Reordered second) (name : Text) :
    AlikeAnswers (first.get? name) (second.get? name) := by
  induction h with
  | refl listing => exact AlikeAnswers.refl _
  | rest other node _ ih =>
      rw [Listing.get?, Listing.get?]
      split
      · exact AlikeAnswers.refl _
      · exact ih
  | inside other access rest hinside _ =>
      rw [Listing.get?, Listing.get?]
      split
      · exact Option.Rel.some (Entry.Alike.directory access hinside)
      · exact AlikeAnswers.refl _
  | @swap name' other node next rest hne =>
      -- The two names differ, so at most one of them is the one asked for.
      simp only [Listing.get?]
      by_cases hname : name' = name
      · rw [if_pos hname, if_pos hname, if_neg (fun hother => hne (hname.trans hother.symm))]
        exact AlikeAnswers.refl _
      · rw [if_neg hname, if_neg hname]
        exact AlikeAnswers.refl _
  | trans _ _ hfirst hsecond => exact hfirst.trans hsecond

theorem symm {first second : Listing} (h : first.Reordered second) :
    second.Reordered first := by
  induction h with
  | refl listing => exact refl listing
  | rest name node _ ih => exact rest name node ih
  | inside name access later _ ih => exact inside name access later ih
  | swap node next later hne => exact swap next node later hne.symm
  | trans _ _ hfirst hsecond => exact trans hsecond hfirst

theorem mem_names {first second : Listing} (h : first.Reordered second) (name : Text) :
    name ∈ first.names <-> name ∈ second.names := by
  induction h with
  | refl listing => exact Iff.rfl
  | rest other node _ ih => simp only [names, List.mem_cons, ih]
  | inside other access rest _ _ => exact Iff.rfl
  | swap node next rest hne =>
      simp only [names, List.mem_cons]
      exact or_left_comm
  | trans _ _ hfirst hsecond => exact hfirst.trans hsecond

theorem isProper {first second : Listing} (h : first.Reordered second) :
    first.isProper = true -> second.isProper = true := by
  induction h with
  | refl listing => exact id
  | rest name node hrest ih =>
      intro hproper
      rcases isProper_entry.mp hproper with ⟨hname, hfresh, hnode, hfirst⟩
      exact isProper_entry.mpr
        ⟨hname, fun hmem => hfresh ((hrest.mem_names name).mpr hmem), hnode, ih hfirst⟩
  | inside name access rest _ ih =>
      intro hproper
      rcases isProper_entry.mp hproper with ⟨hname, hfresh, hnode, hrest⟩
      exact isProper_entry.mpr ⟨hname, hfresh, ih hnode, hrest⟩
  | @swap name other node next rest hne =>
      intro hproper
      rcases isProper_entry.mp hproper with ⟨hname, hfresh, hnode, hinner⟩
      rcases isProper_entry.mp hinner with ⟨hother, hotherFresh, hnext, hrest⟩
      rw [names, List.mem_cons, not_or] at hfresh
      refine isProper_entry.mpr ⟨hother, ?_, hnext, ?_⟩
      · rw [names, List.mem_cons, not_or]
        exact ⟨hne.symm, hotherFresh⟩
      · exact isProper_entry.mpr ⟨hname, hfresh.right, hnode, hrest⟩
  | trans _ _ hfirst hsecond => exact fun hproper => hsecond (hfirst hproper)

end Listing.Reordered

theorem Entry.Alike.descend {first second : Entry} (h : first.Alike second)
    (names : List Text) : AlikeAnswers (first.descend names) (second.descend names) := by
  induction names generalizing first second with
  | nil => exact Option.Rel.some h
  | cons name names ih =>
      cases h with
      | file file => exact Option.Rel.none
      | @directory access first second hlisting =>
          rw [Entry.descend, Entry.descend]
          rcases (hlisting.alikeGet name).cases with
            ⟨hfirst, hsecond⟩ | ⟨file, hfirst, hsecond⟩ |
            ⟨inner, listing, other, hfirst, hsecond, hinner⟩
          · rw [hfirst, hsecond]
            exact Option.Rel.none
          · rw [hfirst, hsecond]
            exact ih (Alike.file file)
          · rw [hfirst, hsecond]
            exact ih (Alike.directory inner hinner)

/-!
## Look-ups in reordered trees
-/

namespace FileTree

/-- The trees differ in the order of their listings only. -/
def Reordered (tree other : FileTree) : Prop :=
  other.access = tree.access ∧ other.workingDirectory = tree.workingDirectory ∧
    tree.top.Reordered other.top

namespace Reordered

variable {tree other : FileTree}

theorem symm (h : tree.Reordered other) : other.Reordered tree :=
  ⟨h.left.symm, h.right.left.symm, Listing.Reordered.symm h.right.right⟩

theorem alikeAt (h : tree.Reordered other) (place : Place) :
    AlikeAnswers (tree.entryAt? place) (other.entryAt? place) := by
  unfold entryAt? entry?
  rw [h.left]
  exact (Entry.Alike.directory _ h.right.right).descend place.names.reverse

theorem barrier?_eq (h : tree.Reordered other) (place : Place) :
    tree.barrier? place = other.barrier? place := by
  unfold barrier?
  rcases (h.alikeAt place).cases with
    ⟨hfirst, hsecond⟩ | ⟨file, hfirst, hsecond⟩ | ⟨access, listing, next, hfirst, hsecond, _⟩ <;>
    rw [hfirst, hsecond]

theorem enter_eq (h : tree.Reordered other) (place : Place) (name : Text) :
    tree.enter place name = other.enter place name := by
  unfold enter
  rw [h.barrier?_eq place]
  rcases (h.alikeAt (place.child name)).cases with
    ⟨hfirst, hsecond⟩ | ⟨file, hfirst, hsecond⟩ |
    ⟨access, listing, next, hfirst, hsecond, _⟩ <;>
    simp only [hfirst, hsecond]

theorem follow_eq (h : tree.Reordered other) (place : Place) (names : List Text) :
    tree.follow place names = other.follow place names := by
  induction names generalizing place with
  | nil => rfl
  | cons name names ih =>
      rw [follow, follow, h.enter_eq place name]
      cases other.enter place name with
      | error fault => rfl
      | ok next => exact ih next

theorem locate_eq (h : tree.Reordered other) (path : Path) :
    tree.locate path = other.locate path := by
  have hstart : tree.start path = other.start path := by
    unfold start
    rw [h.right.left, h.barrier?_eq]
  unfold locate
  simp only [hstart, h.follow_eq]

theorem fileAt?_eq (h : tree.Reordered other) (path : Path) :
    tree.fileAt? path = other.fileAt? path := by
  have hplace : tree.placeOf? path = other.placeOf? path := by
    unfold placeOf?
    rw [h.locate_eq]
  unfold fileAt?
  rw [hplace]
  cases other.placeOf? path with
  | error failure => rfl
  | ok place? =>
      cases place? with
      | none => rfl
      | some place =>
          rcases (h.alikeAt place).cases with
            ⟨hfirst, hsecond⟩ | ⟨file, hfirst, hsecond⟩ |
            ⟨access, listing, next, hfirst, hsecond, _⟩ <;>
            simp only [hfirst, hsecond]

theorem extract_eq (h : tree.Reordered other) (level : Nat) (path : Path)
    (language : Language) :
    tree.extract level path language = other.extract level path language := by
  unfold extract
  rw [h.fileAt?_eq]

theorem fails_iff (h : tree.Reordered other) {path : Path} {fault : FileFault} :
    tree.Fails path fault <-> other.Fails path fault := by
  rw [FileTree.fails_iff, FileTree.fails_iff, h.fileAt?_eq]

end Reordered
end FileTree
end PodManual
