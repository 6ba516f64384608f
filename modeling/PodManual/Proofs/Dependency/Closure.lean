import PodManual.Proofs.Dependency.Accounting

/-!
# Resolution finds the names within reach

A name is within reach of a document when the document declares it, or when some
document of a name within reach declares it.  Names visited before and names that
stand for none are out of reach.  When every document that is opened is of the
dialect of the first one, resolution finds exactly the names within reach.

A name that is skipped because it was visited is no loss: what its documents
declare is pending at that time or settled already.  This is the part of the
invariant that gives completeness.
-/

namespace PodManual
namespace Dependency

/-- The least set that holds the names declared by a document, and with a name also
those declared by its documents below the roots; it leaves out the names visited
before and those that stand for none. -/
inductive Reachable (tree : FileTree) (registry : Registry) (roots : List Path)
    (document : Declaring) (before : List Text) : Text -> Prop where
  | declared {name : Text} :
      name ∈ document.names ->
      name ∉ before -> Text.lower name ≠ "none".toList ->
      Reachable tree registry roots document before name
  | step {other name : Text} {root : Path} {opened : Document}
      {instructions : List Instruction} :
      Reachable tree registry roots document before other ->
      root ∈ roots ->
      Document.below? tree registry document.extension root other = .ok (some opened) ->
      (opened.instructions (Note.level + 1) tree).result = .ok instructions ->
      name ∈ Dependency.declared instructions ->
      name ∉ before -> Text.lower name ≠ "none".toList ->
      Reachable tree registry roots document before name

theorem openBelow_congr {registry : Registry} {extension other : Text}
    (h : registry.forExtension extension = registry.forExtension other)
    (tree : FileTree) (root : Path) (name : Text) :
    openBelow tree registry extension root name = openBelow tree registry other root name := by
  unfold openBelow
  rw [h]

section Reachable

variable {tree : FileTree} {registry : Registry} {roots : List Path}
variable {document : Declaring} {before : List Text}

theorem Reachable.of_openBelow {other name : Text} {root : Path} {opened : Declaring}
    (hother : Reachable tree registry roots document before other)
    (hroot : root ∈ roots)
    (hopen : openBelow tree registry document.extension root other = .ok (some opened))
    (hname : name ∈ opened.names) (hfresh : ¬ Settled before name) :
    Reachable tree registry roots document before name := by
  rcases Document.below?_of_openBelow (Note.level + 1) hopen with
    ⟨found, instructions, hfound, _, hread, _, _, hnames⟩
  rw [hnames] at hname
  rcases Worklist.not_settled_iff.mp hfresh with ⟨hbefore, hnone⟩
  exact Reachable.step hother hroot hfound hread hname hbefore hnone

theorem Reachable.of_closed {holds : Text -> Prop}
    (hdeclared : forall name, name ∈ document.names -> ¬ Settled before name ->
      holds name)
    (hbelow : forall other root opened name, holds other -> root ∈ roots ->
      openBelow tree registry document.extension root other = .ok (some opened) ->
      name ∈ opened.names -> ¬ Settled before name -> holds name)
    {name : Text} (h : Reachable tree registry roots document before name) :
    holds name := by
  induction h with
  | declared hname hbefore hnone =>
      exact hdeclared _ hname (Worklist.not_settled_iff.mpr ⟨hbefore, hnone⟩)
  | step _ hroot hfound hread hname hbefore hnone ih =>
      rcases Document.instructions_of_below? (Note.level + 1) hfound with
        ⟨_, read, remarks, hagain, _, hopen⟩
      rw [hread] at hagain
      cases hagain
      exact hbelow _ _ _ _ ih hroot hopen hname
        (Worklist.not_settled_iff.mpr ⟨hbefore, hnone⟩)

end Reachable

namespace Worklist

/-- The worklist comes to look a fresh name up for a document of an extension. -/
def Visits (tree : FileTree) (registry : Registry) (roots : List Path)
    (list : Worklist) (extension name : Text) : Prop :=
  exists pending visited emitted,
    Runs tree registry roots list ⟨(extension, name) :: pending, visited, emitted⟩ ∧
    ¬ Settled visited name

/-- The worklist comes to open a document. -/
def Opens (tree : FileTree) (registry : Registry) (roots : List Path)
    (list : Worklist) (opened : Document) : Prop :=
  exists extension name root,
    Visits tree registry roots list extension name ∧ root ∈ roots ∧
    Document.below? tree registry extension root name = .ok (some opened)

/-!
## The invariant of the exploration
-/

/-- Every document of the name below the roots is of the dialect of the
extension. -/
def Uniform (tree : FileTree) (registry : Registry) (roots : List Path)
    (extension name : Text) : Prop :=
  forall root opened, root ∈ roots ->
    openBelow tree registry extension root name = .ok (some opened) ->
    registry.forExtension opened.extension = registry.forExtension extension

structure Explores (tree : FileTree) (registry : Registry) (roots : List Path)
    (document : Declaring) (before : List Text) (list : Worklist) : Prop where
  kept : before ⊆ list.visited
  dialect : forall entry, entry ∈ list.pending ->
    registry.forExtension entry.1 = registry.forExtension document.extension
  within : forall entry, entry ∈ list.pending ->
    Settled before entry.2 ∨ Reachable tree registry roots document before entry.2
  reachable : forall name, name ∈ names list.emitted ->
    Reachable tree registry roots document before name
  answered : forall name, name ∈ names list.emitted ->
    forall root, root ∈ roots ->
      exists opened, openBelow tree registry document.extension root name = .ok opened
  uniform : forall name, name ∈ names list.emitted ->
    Uniform tree registry roots document.extension name
  covered : forall name, name ∈ names list.emitted ->
    forall root opened, root ∈ roots ->
      openBelow tree registry document.extension root name = .ok (some opened) ->
      forall entry, entry ∈ entriesOf opened -> Covers list entry

variable {tree : FileTree} {registry : Registry} {roots : List Path}
variable {document : Declaring} {before : List Text}

theorem explores_start :
    Explores tree registry roots document before
      ⟨entriesOf document, before, []⟩ := by
  constructor
  · exact List.Subset.refl _
  · intro entry hentry
    rcases List.mem_map.mp hentry with ⟨name, _, rfl⟩
    rfl
  · intro entry hentry
    rcases List.mem_map.mp hentry with ⟨name, hname, rfl⟩
    by_cases hsettled : Settled before name
    · exact Or.inl hsettled
    · rcases not_settled_iff.mp hsettled with ⟨hbefore, hnone⟩
      exact Or.inr (Reachable.declared hname hbefore hnone)
  · intro name hname
    cases hname
  · intro name hname
    cases hname
  · intro name hname
    cases hname
  · intro name hname
    cases hname

theorem Explores.reachable_head {list : Worklist}
    (h : Explores tree registry roots document before list) {extension name : Text}
    {pending : List (Text × Text)} (hpending : list.pending = (extension, name) :: pending)
    (hfresh : ¬ Settled list.visited name) :
    Reachable tree registry roots document before name := by
  have hwithin := h.within (extension, name) (by simp [hpending])
  rcases hwithin with hsettled | hreach
  · exact absurd (hsettled.mono h.kept) hfresh
  · exact hreach

/-- The step for a fresh name: its documents are of the common dialect, so what
they declare is within reach, and all of it becomes pending. -/
theorem Explores.visit {list : Worklist} {extension name : Text}
    {pending children : List (Text × Text)} {root? : Option Path}
    (h : Explores tree registry roots document before list)
    (hpending : list.pending = (extension, name) :: pending)
    (hfresh : ¬ Settled list.visited name)
    (huniform : Uniform tree registry roots document.extension name)
    (hexpand : expand tree registry extension name roots = .ok (root?, children))
    (hstep : step? tree registry roots list =
      .ok (some ⟨children ++ pending, name :: list.visited,
        list.emitted ++ [⟨name, root?⟩]⟩)) :
    Explores tree registry roots document before
      ⟨children ++ pending, name :: list.visited, list.emitted ++ [⟨name, root?⟩]⟩ := by
  have hdialect := h.dialect (extension, name) (by simp [hpending])
  have hopen := fun root => openBelow_congr hdialect tree root name
  have hreach := h.reachable_head hpending hfresh
  have hold : forall entry, entry ∈ pending -> entry ∈ list.pending := by
    intro entry hentry
    simp [hpending, hentry]
  have hchildren : forall entry, entry ∈ children <->
      exists root opened, root ∈ roots ∧
        openBelow tree registry document.extension root name = .ok (some opened) ∧
        entry ∈ entriesOf opened := by
    intro entry
    rw [mem_expand hexpand]
    simp only [hopen]
  constructor
  · exact List.Subset.trans h.kept (List.subset_cons_self _ _)
  · intro entry hentry
    rcases List.mem_append.mp hentry with hchild | hrest
    · rcases (hchildren entry).mp hchild with ⟨root, opened, hroot, hopened, hmem⟩
      rcases List.mem_map.mp hmem with ⟨child, _, rfl⟩
      exact huniform root opened hroot hopened
    · exact h.dialect entry (hold entry hrest)
  · intro entry hentry
    rcases List.mem_append.mp hentry with hchild | hrest
    · rcases (hchildren entry).mp hchild with ⟨root, opened, hroot, hopened, hmem⟩
      rcases List.mem_map.mp hmem with ⟨child, hdeclared, rfl⟩
      by_cases hsettled : Settled before child
      · exact Or.inl hsettled
      · exact Or.inr (Reachable.of_openBelow hreach hroot hopened hdeclared hsettled)
    · exact h.within entry (hold entry hrest)
  · intro other hother
    rcases mem_names_append.mp hother with hearlier | rfl
    · exact h.reachable other hearlier
    · exact hreach
  · intro other hother root hroot
    rcases mem_names_append.mp hother with hearlier | rfl
    · exact h.answered other hearlier root hroot
    · rcases expand_eq_ok_iff.mp ⟨_, hexpand⟩ root hroot with ⟨opened, hopened⟩
      exact ⟨opened, (hopen root) ▸ hopened⟩
  · intro other hother
    rcases mem_names_append.mp hother with hearlier | rfl
    · exact h.uniform other hearlier
    · exact huniform
  · intro other hother root opened hroot hopened entry hentry
    rcases mem_names_append.mp hother with hearlier | rfl
    · exact (h.covered other hearlier root opened hroot hopened entry hentry).step hstep
    · exact Or.inl (List.mem_append_left _
        ((hchildren entry).mpr ⟨root, opened, hroot, hopened, hentry⟩))

theorem Explores.step {list next : Worklist}
    (h : Explores tree registry roots document before list)
    (huniform : forall extension name pending,
      list.pending = (extension, name) :: pending -> ¬ Settled list.visited name ->
      Uniform tree registry roots document.extension name)
    (hstep : step? tree registry roots list = .ok (some next)) :
    Explores tree registry roots document before next := by
  rcases step?_cases hstep with ⟨extension, name, pending, hpending, hcase⟩
  rcases hcase with ⟨_, rfl⟩ | ⟨hfresh, root?, children, hexpand, rfl⟩
  · have hold : forall entry, entry ∈ pending -> entry ∈ list.pending := by
      intro entry hentry
      simp [hpending, hentry]
    exact
      { kept := h.kept
        dialect := fun entry hentry => h.dialect entry (hold entry hentry)
        within := fun entry hentry => h.within entry (hold entry hentry)
        reachable := h.reachable
        answered := h.answered
        uniform := h.uniform
        covered := by
          intro other hother root opened hroot hopened entry hentry
          exact (h.covered other hother root opened hroot hopened entry hentry).step
            hstep }
  · exact h.visit hpending hfresh (huniform extension name pending hpending hfresh)
      hexpand hstep

theorem Explores.runs {list last : Worklist}
    (h : Explores tree registry roots document before list)
    (huniform : forall extension name,
      Visits tree registry roots list extension name ->
      registry.forExtension extension = registry.forExtension document.extension ->
      Reachable tree registry roots document before name ->
      Uniform tree registry roots document.extension name)
    (hruns : Runs tree registry roots list last) :
    Explores tree registry roots document before last := by
  induction hruns with
  | refl => exact h
  | @tail middle next hmiddle hstep ih =>
      apply ih.step _ hstep
      intro extension name pending hpending hfresh
      rcases middle with ⟨_, visited, emitted⟩
      cases hpending
      apply huniform extension name ⟨pending, visited, emitted, hmiddle, hfresh⟩
      · exact ih.dialect (extension, name) List.mem_cons_self
      · exact ih.reachable_head rfl hfresh

/-!
## Soundness and completeness
-/

/-- When all documents opened are of one dialect, so are those of every name that
the worklist visits. -/
theorem uniform_of_opens {list : Worklist}
    (h : forall opened, Opens tree registry roots list opened ->
      registry.forExtension opened.extension = registry.forExtension document.extension)
    {extension name : Text} (hvisits : Visits tree registry roots list extension name)
    (hdialect : registry.forExtension extension =
      registry.forExtension document.extension) :
    Uniform tree registry roots document.extension name := by
  intro root declaring hroot hopen
  rw [← openBelow_congr hdialect] at hopen
  rcases Document.below?_of_openBelow (Note.level + 1) hopen with
    ⟨opened, _, hopened, _, _, _, hextension, _⟩
  rw [hextension]
  exact h opened ⟨extension, name, root, hvisits, hroot, hopened⟩

/-- At the end of an exploration the emitted names are those within reach. -/
theorem mem_names_iff_reachable {found : Found}
    (hends : Ends tree registry roots ⟨entriesOf document, before, []⟩ found)
    (hvisited : found.2 = (names found.1).reverse ++ before)
    (hexplores : Explores tree registry roots document before
      ⟨[], found.2, found.1⟩) (name : Text) :
    name ∈ names found.1 <-> Reachable tree registry roots document before name := by
  have hsettled : forall child, ¬ Settled before child -> Settled found.2 child ->
      child ∈ names found.1 := by
    intro child hfresh hchild
    rcases hchild with hmem | hnone
    · rw [hvisited] at hmem
      rcases List.mem_append.mp hmem with hemitted | hold
      · exact List.mem_reverse.mp hemitted
      · exact absurd (Or.inl hold) hfresh
    · exact absurd (Or.inr hnone) hfresh
  constructor
  · exact hexplores.reachable name
  · apply Reachable.of_closed
    · intro child hchild hfresh
      apply hsettled child hfresh
      exact hends.settles (Or.inl (List.mem_map_of_mem hchild))
    · intro other root opened child hother hroot hopen hchild hfresh
      have hcovers := hexplores.covered other hother root opened hroot hopen
        (opened.extension, child) (List.mem_map_of_mem hchild)
      apply hsettled child hfresh
      rcases hcovers with hpending | hdone
      · cases hpending
      · exact hdone

/-!
## Order does not matter

What is within reach depends on the set of the roots and on the sets of declared
names only, and so does the success of every look-up.  Items that change places
change the order of the declared names and nothing else.
-/

def item (title : Text) (content : List Text) : Instruction :=
  ⟨"item".toList, title, content⟩

/-- Instructions in which neighbouring items have changed places; paragraphs may
stay behind. -/
inductive Reordered : List Instruction -> List Instruction -> Prop where
  | refl (instructions : List Instruction) : Reordered instructions instructions
  | cons (inst : Instruction) {first second : List Instruction} :
      Reordered first second -> Reordered (inst :: first) (inst :: second)
  | swap (title other : Text) (below below' later later' : List Text)
      (rest : List Instruction) :
      Reordered (item title below :: item other later :: rest)
        (item other below' :: item title later' :: rest)
  | trans {first second third : List Instruction} :
      Reordered first second -> Reordered second third -> Reordered first third

theorem declaredFrom_item (inside : Bool) (title : Text) (content : List Text)
    (rest : List Instruction) :
    declaredFrom inside (item title content :: rest) =
      (if inside then [nameOf title] else []) ++ declaredFrom inside rest := by
  have hheading : Instruction.isHeading (item title content).element = false := by
    change Instruction.isHeading "item".toList = false
    decide
  have hback : (item title content).element ≠ "back".toList := by
    change "item".toList ≠ "back".toList
    decide
  cases inside with
  | false =>
      rw [declaredFrom, opensSection, Instruction.isSection, hheading, Bool.false_and]
      rfl
  | true =>
      rw [declaredFrom, endsSection, hheading, beq_false_of_ne hback, if_neg (by decide),
        if_pos rfl]
      rfl

theorem Reordered.declaredFrom_perm {first second : List Instruction}
    (h : Reordered first second) (inside : Bool) :
    (declaredFrom inside first).Perm (declaredFrom inside second) := by
  induction h generalizing inside with
  | refl instructions => exact List.Perm.refl _
  | cons inst _ ih =>
      cases inside with
      | false => exact ih (opensSection inst)
      | true =>
          rw [declaredFrom, declaredFrom]
          split
          · exact ih false
          · split
            · exact (ih true).cons (nameOf inst.title)
            · exact ih true
  | swap title other below below' later later' rest =>
      simp only [declaredFrom_item, ← List.append_assoc]
      exact List.perm_append_comm.append_right _
  | trans _ _ hfirst hsecond => exact (hfirst inside).trans (hsecond inside)

/-- Two answers for a path that agree up to the order in which the files, read in
a language, declare names. -/
inductive Agree (language : Language) : Except Failure (Option File) ->
    Except Failure (Option File) -> Prop where
  | failed (failure other : Failure) : Agree language (.error failure) (.error other)
  | absent : Agree language (.ok none) (.ok none)
  | present {first second : File} :
      (declared (language.extractFile second)).Perm
        (declared (language.extractFile first)) ->
      Agree language (.ok (some first)) (.ok (some second))

/-- A second tree, list of roots and document that differ from the first in the
order of the roots and in the order in which names are declared. -/
structure Rearranged (registry : Registry) (tree : FileTree) (roots : List Path)
    (document : Declaring) (other : FileTree) (turned : List Path)
    (moved : Declaring) : Prop where
  files : forall dialect, registry.forExtension document.extension = .ok dialect ->
    forall path, Agree dialect.language (tree.fileAt? path) (other.fileAt? path)
  sameRoots : forall root, root ∈ turned <-> root ∈ roots
  sameExtension : moved.extension = document.extension
  sameNames : moved.names.Perm document.names

variable {other : FileTree} {turned : List Path} {moved : Declaring}

theorem Agree.refl (language : Language)
    (answer : Except Failure (Option File)) : Agree language answer answer := by
  cases answer with
  | error failure => exact Agree.failed failure failure
  | ok file? =>
      cases file? with
      | none => exact Agree.absent
      | some file => exact Agree.present (List.Perm.refl _)

theorem Agree.symm {language : Language}
    {first second : Except Failure (Option File)}
    (h : Agree language first second) : Agree language second first := by
  cases h with
  | failed failure other => exact Agree.failed other failure
  | absent => exact Agree.absent
  | present hperm => exact Agree.present hperm.symm

theorem Rearranged.symm
    (h : Rearranged registry tree roots document other turned moved) :
    Rearranged registry other turned moved tree roots document where
  files dialect hdialect path := by
    rw [h.sameExtension] at hdialect
    exact (h.files dialect hdialect path).symm
  sameRoots root := (h.sameRoots root).symm
  sameExtension := h.sameExtension.symm
  sameNames := h.sameNames.symm

theorem Rearranged.openBelow_some
    (h : Rearranged registry tree roots document other turned moved) {root : Path} {name : Text}
    {opened : Declaring}
    (hopen : openBelow tree registry document.extension root name = .ok (some opened)) :
    exists second,
      openBelow other registry moved.extension root name = .ok (some second) ∧
      second.extension = opened.extension ∧ second.names.Perm opened.names := by
  rcases openBelow_eq_some.mp hopen with ⟨dialect, file, hdialect, hfile, rfl⟩
  have hagree := h.files dialect hdialect (pathOf dialect root name)
  rw [hfile] at hagree
  rw [← h.sameExtension] at hdialect
  cases hanswer : other.fileAt? (pathOf dialect root name) with
  | error failure =>
      rw [hanswer] at hagree
      cases hagree
  | ok file? =>
      rw [hanswer] at hagree
      cases hagree with
      | @present _ second hperm =>
          refine ⟨⟨_, declared (dialect.language.extractFile second),
            second.remarks (pathOf dialect root name)⟩, ?_, rfl, hperm⟩
          exact openBelow_eq_some.mpr ⟨dialect, second, hdialect, hanswer, rfl⟩

theorem Rearranged.openBelow_ok
    (h : Rearranged registry tree roots document other turned moved) {root : Path} {name : Text}
    {opened : Option Declaring}
    (hopen : openBelow tree registry document.extension root name = .ok opened) :
    exists second, openBelow other registry moved.extension root name = .ok second := by
  cases hsecond : openBelow other registry moved.extension root name with
  | ok second => exact ⟨second, rfl⟩
  | error failure =>
      rcases openBelow_eq_error.mp hsecond with hdialect | ⟨dialect, hdialect, hfile⟩
      · rw [h.sameExtension] at hdialect
        rw [openBelow_eq_error.mpr (Or.inl hdialect)] at hopen
        cases hopen
      · rw [h.sameExtension] at hdialect
        have hagree := h.files dialect hdialect (pathOf dialect root name)
        rw [hfile] at hagree
        cases hanswer : tree.fileAt? (pathOf dialect root name) with
        | ok file? =>
            rw [hanswer] at hagree
            cases hagree
        | error first =>
            rw [openBelow_eq_error.mpr (Or.inr ⟨dialect, hdialect, hanswer⟩)] at hopen
            cases hopen

theorem Rearranged.reachable
    (h : Rearranged registry tree roots document other turned moved) {name : Text}
    (hreach : Reachable tree registry roots document before name) :
    Reachable other registry turned moved before name := by
  apply Reachable.of_closed _ _ hreach
  · intro child hchild hfresh
    rcases not_settled_iff.mp hfresh with ⟨hbefore, hnone⟩
    exact Reachable.declared (h.sameNames.mem_iff.mpr hchild) hbefore hnone
  · intro parent root opened child hparent hroot hopen hchild hfresh
    rcases h.openBelow_some hopen with ⟨second, hsecond, _, hperm⟩
    exact Reachable.of_openBelow hparent ((h.sameRoots root).mpr hroot) hsecond
      (hperm.mem_iff.mpr hchild) hfresh

theorem Rearranged.explored
    (h : Rearranged registry tree roots document other turned moved) {found : Found}
    (hexplores : Explores tree registry roots document before ⟨[], found.2, found.1⟩)
    (hreachable : forall name,
      name ∈ names found.1 <-> Reachable tree registry roots document before name)
    {name : Text} (hname : Reachable other registry turned moved before name) :
    (forall root, root ∈ turned ->
      exists opened, openBelow other registry moved.extension root name = .ok opened) ∧
    Uniform other registry turned moved.extension name := by
  have hemitted := (hreachable name).mpr (h.symm.reachable hname)
  constructor
  · intro root hroot
    rcases hexplores.answered name hemitted root ((h.sameRoots root).mp hroot) with
      ⟨opened, hopened⟩
    exact h.openBelow_ok hopened
  · intro root opened hroot hopen
    rcases h.symm.openBelow_some hopen with ⟨first, hfirst, hextension, _⟩
    have huniform := hexplores.uniform name hemitted root first
      ((h.sameRoots root).mp hroot) hfirst
    rw [← hextension, h.sameExtension]
    exact huniform

/-- The rearranged exploration ends as well, with the same names. -/
theorem Rearranged.ends (level : Nat)
    (h : Rearranged registry tree roots document other turned moved) {found : Found}
    (hexplores : Explores tree registry roots document before ⟨[], found.2, found.1⟩)
    (hreachable : forall name,
      name ∈ names found.1 <-> Reachable tree registry roots document before name) :
    exists second,
      (resolve level other registry turned moved before).result = .ok second ∧
      Explores other registry turned moved before ⟨[], second.2, second.1⟩ := by
  have hruns : forall last,
      Runs other registry turned ⟨entriesOf moved, before, []⟩ last ->
      Explores other registry turned moved before last := by
    intro last hlast
    apply explores_start.runs _ hlast
    intro extension name _ _ hname
    exact (h.explored hexplores hreachable hname).right
  cases hresult : (resolve level other registry turned moved before).result with
  | ok second => exact ⟨second, rfl, hruns _ (ends_of_resolve hresult)⟩
  | error failure =>
      -- The look-up that fails would be one that the first exploration answered.
      rcases raises_of_resolve hresult with ⟨last, reason, hlast, hstep⟩
      rcases step?_eq_error hstep with
        ⟨extension, name, pending, hpending, hfresh, hexpand⟩
      have hexploring := hruns last hlast
      have hname := hexploring.reachable_head hpending hfresh
      have hdialect := hexploring.dialect (extension, name) (by simp [hpending])
      have hanswered : exists expanded,
          expand other registry extension name turned = .ok expanded := by
        apply expand_eq_ok_iff.mpr
        intro root hroot
        rw [openBelow_congr hdialect]
        exact (h.explored hexplores hreachable hname).left root hroot
      rcases hanswered with ⟨expanded, hok⟩
      rw [hexpand] at hok
      cases hok

end Worklist
end Dependency

namespace Document

open Dependency Worklist

/-- Resolution is sound and complete: when no look-up fails and every document
opened is of the dialect of the first, it finds exactly the names within reach; and
it finds the same names when the roots or the declared names come in another order. -/
theorem mem_dependenciesFrom_iff_reachable {level : Nat} {tree : FileTree}
    {document : Document} {roots : List Path} {visited : List Text}
    {instructions : List Instruction}
    (hread : (document.instructions level tree).result = .ok instructions)
    (hquiet : ¬ Raises tree document.registry roots (start document instructions visited))
    (hdialect : forall opened,
      Opens tree document.registry roots (start document instructions visited) opened ->
      document.registry.forExtension opened.extension =
        document.registry.forExtension document.extension) :
    exists found,
      (document.dependenciesFrom level tree roots visited).result = .ok found ∧
      (forall name, name ∈ names found.1 <->
        Reachable tree document.registry roots
          ⟨document.extension, declared instructions, []⟩ visited name) ∧
      forall (other : FileTree) (turned : List Path) (moved : Document)
        (reread : List Instruction),
        moved.registry = document.registry ->
        (moved.instructions level other).result = .ok reread ->
        Rearranged document.registry tree roots
          ⟨document.extension, declared instructions, []⟩
          other turned ⟨moved.extension, declared reread, []⟩ ->
        exists second,
          (moved.dependenciesFrom level other turned visited).result = .ok second ∧
          forall name, name ∈ names second.1 <-> name ∈ names found.1 := by
  rw [dependenciesFrom_of_ok hread]
  cases hresult : (resolve level tree document.registry roots
      ⟨document.extension, declared instructions, []⟩ visited).result with
  | error failure => exact absurd (raises_of_resolve hresult) hquiet
  | ok found =>
      have hends := ends_of_resolve hresult
      have hexplores := explores_start.runs
        (fun extension name hvisits hsame _ => uniform_of_opens hdialect hvisits hsame)
        hends
      have hvisited := ((accounts_start document instructions visited).runs hends).visited_eq
      have hreachable := mem_names_iff_reachable hends hvisited hexplores
      refine ⟨found, rfl, hreachable, ?_⟩
      intro other turned moved reread hregistry hreread hmoved
      rcases hmoved.ends level hexplores hreachable with ⟨second, hsecond, hexplored⟩
      have hsecondEnds := ends_of_resolve hsecond
      have hsecondVisited :=
        ((accounts_start moved reread visited).runs hsecondEnds).visited_eq
      refine ⟨second, ?_, ?_⟩
      · rw [dependenciesFrom_of_ok hreread, hregistry]
        exact hsecond
      · intro name
        rw [mem_names_iff_reachable hsecondEnds hsecondVisited hexplored name,
          hreachable name]
        constructor
        · exact hmoved.symm.reachable
        · exact hmoved.reachable

/-- A third module, which declares what the first of the pair does in another
order. -/
def turnedDocument : Document :=
  new ⟨[], some .perl⟩ (some (Path.ofText "E.pm".toList))

def pairInstructions : List Instruction :=
  [⟨"head1".toList, "DEPENDENCIES".toList, []⟩, item "B".toList [], item "NONE".toList [],
    item "C".toList []]

def turnedInstructions : List Instruction :=
  [⟨"head1".toList, "DEPENDENCIES".toList, []⟩, item "NONE".toList [], item "B".toList [],
    item "C".toList []]

theorem turned_reordered : Reordered turnedInstructions pairInstructions :=
  Reordered.cons _ (Reordered.swap "NONE".toList "B".toList [] [] [] [] _)

theorem pair_reachable :
    (forall name, name ∈ names pairFound.1 <->
      Reachable pairTree pairDocument.registry pairRoots
        ⟨pairDocument.extension, declared pairInstructions, []⟩ ["C".toList] name) ∧
    exists second,
      (turnedDocument.dependenciesFrom 0 pairTree pairRoots.reverse
        ["C".toList]).result = .ok second ∧
      forall name, name ∈ names second.1 <-> name ∈ names pairFound.1 := by
  have hread : (pairDocument.instructions 0 pairTree).result = .ok pairInstructions :=
    eq_ok_of_toOption (by decide +kernel)
  have hreread : (turnedDocument.instructions 0 pairTree).result = .ok turnedInstructions :=
    eq_ok_of_toOption (by decide +kernel)
  rcases ends_of_dependenciesFrom pair_result with ⟨instructions, hinstructions, hends⟩
  rw [hread] at hinstructions
  cases hinstructions
  rcases mem_dependenciesFrom_iff_reachable hread hends.not_raises
    (fun opened _ => rfl) with ⟨found, hfound, hreachable, horder⟩
  rw [pair_result] at hfound
  cases hfound
  refine ⟨hreachable, ?_⟩
  apply horder pairTree pairRoots.reverse turnedDocument turnedInstructions rfl hreread
  exact
    { files := fun dialect _ path => Agree.refl dialect.language (pairTree.fileAt? path)
      sameRoots := fun root => List.mem_reverse
      sameExtension := rfl
      sameNames := turned_reordered.declaredFrom_perm false }

end Document
end PodManual
