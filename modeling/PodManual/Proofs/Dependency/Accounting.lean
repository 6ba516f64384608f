import PodManual.Proofs.Dependency.Worklist

/-!
# The names that resolution visits

Every dependency that is emitted marks its name as visited, and nothing else
does.  So the visited names are those visited before together with the names of
the dependencies, no name is emitted twice, and every name that was pending is
settled at the end.
-/

namespace PodManual
namespace Dependency

/-- The name holds no white space. -/
def Unblank (name : Text) : Prop :=
  forall c, c ∈ name -> Text.isBlank c = false

theorem unblank_nameOf (title : Text) : Unblank (nameOf title) := by
  intro c hc
  unfold nameOf Text.squeeze at hc
  simpa using (List.mem_filter.mp hc).right

theorem unblank_of_declaredFrom {inside : Bool} {instructions : List Instruction}
    {name : Text} (h : name ∈ declaredFrom inside instructions) : Unblank name := by
  induction instructions generalizing inside with
  | nil => simp [declaredFrom] at h
  | cons inst rest ih =>
      cases inside with
      | false => exact ih h
      | true =>
          rw [declaredFrom] at h
          split at h
          · exact ih h
          · split at h
            · rcases List.mem_cons.mp h with rfl | hrest
              · exact unblank_nameOf inst.title
              · exact ih hrest
            · exact ih h

theorem unblank_of_declared {instructions : List Instruction} {name : Text}
    (h : name ∈ declared instructions) : Unblank name :=
  unblank_of_declaredFrom h

namespace Worklist

variable {tree : FileTree} {registry : Registry} {roots : List Path}

/-!
## The account of a worklist
-/

def names (emitted : List Dependency) : List Text :=
  emitted.map Dependency.name

structure Accounts (before : List Text) (list : Worklist) : Prop where
  visited_eq : list.visited = (names list.emitted).reverse ++ before
  nodup : (names list.emitted).Nodup
  fresh : forall name, name ∈ names list.emitted -> ¬ Settled before name
  unblank : forall name, name ∈ names list.emitted -> Unblank name
  pending_unblank : forall entry, entry ∈ list.pending -> Unblank entry.2

theorem mem_names_append {emitted : List Dependency} {name other : Text}
    {root? : Option Path} :
    other ∈ names (emitted ++ [⟨name, root?⟩]) <->
      other ∈ names emitted ∨ other = name := by
  simp [names]

theorem unblank_of_expand {extension name : Text} {root? : Option Path}
    {children : List (Text × Text)}
    (h : expand tree registry extension name roots = .ok (root?, children))
    {entry : Text × Text} (hentry : entry ∈ children) : Unblank entry.2 := by
  rcases (mem_expand h).mp hentry with ⟨root, document, _, hopen, hmem⟩
  rcases openBelow_eq_some.mp hopen with ⟨dialect, bytes, _, _, rfl⟩
  rcases List.mem_map.mp hmem with ⟨declaredName, hdeclared, rfl⟩
  exact unblank_of_declared hdeclared

theorem Accounts.step {before : List Text} {list next : Worklist}
    (h : Accounts before list) (hstep : step? tree registry roots list = .ok (some next)) :
    Accounts before next := by
  rcases step?_cases hstep with ⟨extension, name, pending, hpending, hcase⟩
  have hname : Unblank name :=
    h.pending_unblank (extension, name) (by simp [hpending])
  have hrest : forall entry, entry ∈ pending -> Unblank entry.2 := by
    intro entry hentry
    exact h.pending_unblank entry (by simp [hpending, hentry])
  rcases hcase with ⟨_, rfl⟩ | ⟨hfresh, root?, children, hexpand, rfl⟩
  · exact { h with pending_unblank := hrest }
  · rw [h.visited_eq] at hfresh
    have hnew : name ∉ names list.emitted := by
      intro hmem
      exact hfresh (Or.inl (List.mem_append_left _ (List.mem_reverse.mpr hmem)))
    have hbefore : ¬ Settled before name :=
      mt (Settled.mono (List.subset_append_right _ _)) hfresh
    constructor
    · simp [names, h.visited_eq]
    · have hnodup := h.nodup
      unfold names at hnodup hnew ⊢
      rw [List.map_append, List.map_singleton]
      exact List.nodup_append.mpr ⟨hnodup, List.nodup_singleton _, by
        intro a ha b hb
        rw [List.mem_singleton.mp hb]
        rintro rfl
        exact hnew ha⟩
    · intro other hother
      rcases mem_names_append.mp hother with hold | rfl
      · exact h.fresh other hold
      · exact hbefore
    · intro other hother
      rcases mem_names_append.mp hother with hold | rfl
      · exact h.unblank other hold
      · exact hname
    · intro entry hentry
      rcases List.mem_append.mp hentry with hchild | hold
      · exact unblank_of_expand hexpand hchild
      · exact hrest entry hold

theorem Accounts.runs {before : List Text} {list last : Worklist}
    (h : Accounts before list) (hruns : Runs tree registry roots list last) :
    Accounts before last := by
  induction hruns with
  | refl => exact h
  | tail _ hstep ih => exact ih.step hstep

theorem accounts_start (document : Document) (instructions : List Instruction)
    (visited : List Text) : Accounts visited (start document instructions visited) := by
  constructor
  · rfl
  · exact List.nodup_nil
  · intro name hname
    cases hname
  · intro name hname
    cases hname
  · intro entry hentry
    rcases List.mem_map.mp hentry with ⟨name, hname, rfl⟩
    exact unblank_of_declared hname

/-!
## Settled names
-/

/-- The entry is pending, or there is nothing to do for its name. -/
def Covers (list : Worklist) (entry : Text × Text) : Prop :=
  entry ∈ list.pending ∨ Settled list.visited entry.2

theorem Covers.step {list next : Worklist} {entry : Text × Text}
    (h : Covers list entry) (hstep : step? tree registry roots list = .ok (some next)) :
    Covers next entry := by
  rcases step?_cases hstep with ⟨extension, name, pending, hpending, hcase⟩
  unfold Covers at h ⊢
  rw [hpending] at h
  rcases hcase with ⟨hskip, rfl⟩ | ⟨_, root?, children, _, rfl⟩
  · rcases h with hmem | hsettled
    · rcases List.mem_cons.mp hmem with rfl | hrest
      · exact Or.inr hskip
      · exact Or.inl hrest
    · exact Or.inr hsettled
  · rcases h with hmem | hsettled
    · rcases List.mem_cons.mp hmem with rfl | hrest
      · exact Or.inr (Or.inl List.mem_cons_self)
      · exact Or.inl (List.mem_append_right _ hrest)
    · exact Or.inr (Settled.mono (List.subset_cons_self _ _) hsettled)

theorem Covers.runs {list last : Worklist} {entry : Text × Text}
    (h : Covers list entry) (hruns : Runs tree registry roots list last) :
    Covers last entry := by
  induction hruns with
  | refl => exact h
  | tail _ hstep ih => exact ih.step hstep

theorem Ends.settles {list : Worklist} {found : Found}
    (h : Ends tree registry roots list found) {entry : Text × Text}
    (hentry : Covers list entry) : Settled found.2 entry.2 := by
  rcases hentry.runs h with hpending | hsettled
  · cases hpending
  · exact hsettled

theorem ends_of_settled {pending : List (Text × Text)} {visited : List Text}
    (h : forall entry, entry ∈ pending -> Settled visited entry.2) :
    Ends tree registry roots ⟨pending, visited, []⟩ ([], visited) := by
  induction pending with
  | nil => exact Runs.refl _
  | cons entry pending ih =>
      exact Runs.skip (h entry List.mem_cons_self)
        (ih fun other hother => h other (List.mem_cons_of_mem _ hother))

end Worklist
end Dependency

namespace Document

open Dependency Worklist

theorem ends_of_dependenciesFrom {tree : FileTree} {document : Document}
    {roots : List Path} {visited : List Text} {level : Nat} {found : Found}
    (h : (document.dependenciesFrom level tree roots visited).result = .ok found) :
    exists instructions,
      (document.instructions level tree).result = .ok instructions ∧
      Ends tree document.registry roots (start document instructions visited) found := by
  cases hread : (document.instructions level tree).result with
  | error failure =>
      rw [dependenciesFrom_of_error hread] at h
      cases h
  | ok instructions =>
      rw [dependenciesFrom_of_ok hread] at h
      exact ⟨instructions, rfl, ends_of_resolve h⟩

theorem dependenciesFrom_again {tree : FileTree} {document : Document}
    {roots : List Path} {visited : List Text} {level : Nat} {found : Found}
    (h : (document.dependenciesFrom level tree roots visited).result = .ok found) :
    ((document.dependenciesFrom level tree roots visited).document.dependenciesFrom level
      tree roots found.2).result = .ok ([], found.2) := by
  rcases ends_of_dependenciesFrom h with ⟨instructions, hread, hends⟩
  have hplace := document.instructions_samePlace level tree
  rw [dependenciesFrom_document, dependenciesFrom_of_ok (instructions_again hread level tree),
    hplace.extension_eq, hplace.right]
  apply resolve_eq_ok_iff.mpr
  apply ends_of_settled
  intro entry hentry
  exact hends.settles (Or.inl hentry)

/-- The account of a resolution: the dependencies have different names, which are
new, proper and without white space; the visited names are those visited before and
these; and nothing is left to be found a second time. -/
theorem dependenciesFrom_accounts {tree : FileTree} {document : Document}
    {roots : List Path} {visited : List Text} {level : Nat} {found : Found}
    (h : (document.dependenciesFrom level tree roots visited).result = .ok found) :
    (names found.1).Nodup ∧
    (forall name, name ∈ names found.1 ->
      name ∉ visited ∧ Unblank name ∧ Text.lower name ≠ "none".toList) ∧
    (forall name, name ∈ found.2 <-> name ∈ visited ∨ name ∈ names found.1) ∧
    ((document.dependenciesFrom level tree roots visited).document.dependenciesFrom level
      tree roots found.2).result = .ok ([], found.2) := by
  rcases ends_of_dependenciesFrom h with ⟨instructions, _, hends⟩
  have haccounts := (accounts_start document instructions visited).runs hends
  refine ⟨haccounts.nodup, ?_, ?_, dependenciesFrom_again h⟩
  · intro name hname
    rcases not_settled_iff.mp (haccounts.fresh name hname) with ⟨hfresh, hnone⟩
    exact ⟨hfresh, haccounts.unblank name hname, hnone⟩
  · intro name
    have hvisited : found.2 = (names found.1).reverse ++ visited := haccounts.visited_eq
    rw [hvisited, List.mem_append, List.mem_reverse, or_comm]

/-!
## Two documents that depend on each other
-/

/-- A module, and a module in a directory of its own, that depend on each other,
and a third module beside the first. -/
def pairTree : FileTree :=
  .ofListing (.entry "A.pm".toList
      (.file (.ofText "=head1 DEPENDENCIES\n=item B\n=item NONE\n=item C\n".toList))
    (.entry "E.pm".toList
      (.file (.ofText "=head1 DEPENDENCIES\n=item NONE\n=item B\n=item C\n".toList))
    (.entry "lib".toList
      (.directory .full (.entry "B.pm".toList
        (.file (.ofText "=head1 DEPENDENCIES\n=item A\n=item D\n".toList)) .empty))
      .empty)))

def pairDocument : Document :=
  new ⟨[], some .perl⟩ (some (Path.ofText "A.pm".toList))

def pairRoots : List Path :=
  [Path.ofText "lib".toList, Path.ofText ".".toList]

def pairFound : Found :=
  ([⟨"B".toList, some (Path.ofText "lib".toList)⟩,
      ⟨"A".toList, some (Path.ofText ".".toList)⟩, ⟨"D".toList, none⟩],
    ["D".toList, "A".toList, "B".toList, "C".toList])

theorem pair_result :
    (pairDocument.dependenciesFrom 0 pairTree pairRoots ["C".toList]).result =
      .ok pairFound := by
  apply eq_ok_of_toOption
  decide +kernel

theorem pair_accounts :
    (pairDocument.dependenciesFrom 0 pairTree pairRoots ["C".toList]).result =
      .ok pairFound ∧
    (names pairFound.1).Nodup ∧
    (forall name, name ∈ names pairFound.1 ->
      name ∉ ["C".toList] ∧ Unblank name ∧ Text.lower name ≠ "none".toList) ∧
    (forall name, name ∈ pairFound.2 <->
      name ∈ ["C".toList] ∨ name ∈ names pairFound.1) ∧
    ((pairDocument.dependenciesFrom 0 pairTree pairRoots
      ["C".toList]).document.dependenciesFrom 0 pairTree pairRoots pairFound.2).result =
        .ok ([], pairFound.2) :=
  ⟨pair_result, dependenciesFrom_accounts pair_result⟩

end Document
end PodManual
