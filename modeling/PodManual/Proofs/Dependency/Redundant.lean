import PodManual.Proofs.Dependency.Refusal

/-!
# Search roots that do not matter

A search root that was given before opens the same documents again, and all that they
declare is settled by then.  A search root is idle when it has no document of any name
that is looked up.  Without such roots a worklist is shorter, but only by entries that
are skipped when their turn comes.

Main statement: resolution gives the same dependencies and visits the same names when
roots of these two kinds are left out.
-/

namespace PodManual
namespace Dependency

/-!
## Fewer roots
-/

/-- Roots of which some are left out: those that stand among the earlier ones, and those
that are idle. -/
inductive Thinned (idle : Path -> Prop) : List Path -> List Path -> List Path -> Prop
  | nil {earlier : List Path} : Thinned idle earlier [] []
  | keep {root : Path} {earlier roots fewer : List Path} :
      Thinned idle (root :: earlier) roots fewer ->
      Thinned idle earlier (root :: roots) (root :: fewer)
  | repeated {root : Path} {earlier roots fewer : List Path} :
      root ∈ earlier -> Thinned idle earlier roots fewer ->
      Thinned idle earlier (root :: roots) fewer
  | idle {root : Path} {earlier roots fewer : List Path} :
      idle root -> Thinned idle earlier roots fewer ->
      Thinned idle earlier (root :: roots) fewer

theorem thinned_eraseDups_filter (idle : Path -> Prop) (earlier roots : List Path) :
    Thinned idle earlier roots (roots.filter fun root => !earlier.contains root).eraseDups := by
  induction roots generalizing earlier with
  | nil => exact Thinned.nil
  | cons root roots ih =>
      by_cases hroot : root ∈ earlier
      · rw [List.filter_cons_of_neg (by simpa using hroot)]
        exact Thinned.repeated hroot (ih earlier)
      · have hrest : ((roots.filter fun other => !earlier.contains other).filter
              fun other => !other == root) =
            roots.filter fun other => !(root :: earlier).contains other := by
          rw [List.filter_filter]
          apply List.filter_congr
          intro other _
          rw [List.contains_cons, Bool.not_or]
        rw [List.filter_cons_of_pos (by simpa using hroot), List.eraseDups_cons, hrest]
        exact Thinned.keep (ih (root :: earlier))

theorem thinned_eraseDups (idle : Path -> Prop) (roots : List Path) :
    Thinned idle [] roots roots.eraseDups := by
  have h := thinned_eraseDups_filter idle [] roots
  rwa [List.filter_eq_self.mpr (by simp)] at h

theorem thinned_filter {idle : Path -> Prop} {leftOut : Path -> Bool}
    (h : forall root, leftOut root = true -> idle root) (earlier roots : List Path) :
    Thinned idle earlier roots (roots.filter fun root => !leftOut root) := by
  induction roots generalizing earlier with
  | nil => exact Thinned.nil
  | cons root roots ih =>
      cases hroot : leftOut root with
      | true =>
          rw [List.filter_cons_of_neg (by simp [hroot])]
          exact Thinned.idle (h root hroot) (ih earlier)
      | false =>
          rw [List.filter_cons_of_pos (by simp [hroot])]
          exact Thinned.keep (ih (root :: earlier))

namespace Worklist

/-!
## Fewer entries
-/

/-- Entries of which some are left out: those whose name is settled, or stands before
them. -/
inductive Trimmed : List Text -> List (Text × Text) -> List (Text × Text) -> Prop
  | nil {visited : List Text} : Trimmed visited [] []
  | keep {visited : List Text} {extension name : Text} {pending fewer : List (Text × Text)} :
      Trimmed (name :: visited) pending fewer ->
      Trimmed visited ((extension, name) :: pending) ((extension, name) :: fewer)
  | drop {visited : List Text} {extension name : Text} {pending fewer : List (Text × Text)} :
      Settled visited name -> Trimmed visited pending fewer ->
      Trimmed visited ((extension, name) :: pending) fewer

theorem Trimmed.mono {visited later : List Text} {pending fewer : List (Text × Text)}
    (h : Trimmed visited pending fewer)
    (hlater : forall name, Settled visited name -> Settled later name) :
    Trimmed later pending fewer := by
  induction h generalizing later with
  | nil => exact Trimmed.nil
  | @keep visited extension name pending fewer _ ih =>
      apply Trimmed.keep
      apply ih
      intro other hother
      rcases hother with hmem | hnone
      · rcases List.mem_cons.mp hmem with rfl | hvisited
        · exact Or.inl List.mem_cons_self
        · exact Settled.mono (List.subset_cons_self _ _) (hlater other (Or.inl hvisited))
      · exact Or.inr hnone
  | drop hsettled _ ih => exact Trimmed.drop (hlater _ hsettled) (ih hlater)

theorem Trimmed.append {visited : List Text} {first second : List (Text × Text)}
    {pending fewer : List (Text × Text)} (hfirst : Trimmed visited first second)
    (h : Trimmed visited pending fewer) :
    Trimmed visited (first ++ pending) (second ++ fewer) := by
  induction hfirst with
  | nil => exact h
  | keep _ ih =>
      exact Trimmed.keep (ih (h.mono fun _ => Settled.mono (List.subset_cons_self _ _)))
  | drop hsettled _ ih => exact Trimmed.drop hsettled (ih h)

/-- Entries that are kept settle their names for what stands behind them. -/
theorem Trimmed.keep_all {extension : Text} {names visited : List Text}
    {pending fewer : List (Text × Text)}
    (h : Trimmed (names.reverse ++ visited) pending fewer) :
    Trimmed visited (names.map (fun name => (extension, name)) ++ pending)
      (names.map (fun name => (extension, name)) ++ fewer) := by
  induction names generalizing visited with
  | nil => exact h
  | cons name names ih =>
      apply Trimmed.keep
      apply ih
      rw [List.reverse_cons, List.append_assoc] at h
      exact h

theorem Trimmed.drop_all {extension : Text} {names visited : List Text}
    {pending fewer : List (Text × Text)} (h : Trimmed visited pending fewer)
    (hsettled : forall name, name ∈ names -> Settled visited name) :
    Trimmed visited (names.map (fun name => (extension, name)) ++ pending) fewer := by
  induction names with
  | nil => exact h
  | cons name names ih =>
      apply Trimmed.drop (hsettled name List.mem_cons_self)
      exact ih fun other hother => hsettled other (List.mem_cons_of_mem _ hother)

/-!
## Expansion below fewer roots
-/

variable {tree : FileTree} {registry : Registry} {roots : List Path}

/-- There is no document of the name below the root. -/
def Lacks (tree : FileTree) (registry : Registry) (extension name : Text)
    (root : Path) : Prop :=
  forall document, openBelow tree registry extension root name ≠ .ok (some document)

theorem lacks_of_none {extension name : Text} {root : Path}
    (h : openBelow tree registry extension root name = .ok none) :
    Lacks tree registry extension name root := by
  intro document hsome
  rw [h] at hsome
  cases hsome

def AllSettled (tree : FileTree) (registry : Registry) (extension name : Text)
    (roots : List Path) (visited : List Text) : Prop :=
  forall root document, root ∈ roots ->
    openBelow tree registry extension root name = .ok (some document) ->
    forall other, other ∈ document.names -> Settled visited other

theorem AllSettled.cons {extension name : Text} {root : Path} {visited later : List Text}
    (h : AllSettled tree registry extension name roots visited) (hlater : visited ⊆ later)
    (hroot : forall document, openBelow tree registry extension root name =
      .ok (some document) -> forall other, other ∈ document.names -> Settled later other) :
    AllSettled tree registry extension name (root :: roots) later := by
  intro again document hmem hopen other hother
  rcases List.mem_cons.mp hmem with rfl | hold
  · exact hroot document hopen other hother
  · exact (h again document hold hopen other hother).mono hlater

/-- Fewer roots give fewer entries and the same first root.  What the earlier roots give
stands before these entries, so it counts as settled. -/
theorem expand_thinned {idle : Path -> Prop} {earlier below fewer : List Path}
    (h : Thinned idle earlier below fewer) {extension name : Text}
    (hidle : forall root, idle root -> Lacks tree registry extension name root)
    {visited : List Text} {root? : Option Path} {children : List (Text × Text)}
    (hearlier : AllSettled tree registry extension name earlier visited)
    (hexpand : expand tree registry extension name below = .ok (root?, children)) :
    exists first? others,
      expand tree registry extension name fewer = .ok (first?, others) ∧
      Trimmed visited children others ∧
      ((forall root, root ∈ earlier -> Lacks tree registry extension name root) ->
        first? = root?) := by
  induction h generalizing visited root? children with
  | nil =>
      cases hexpand
      exact ⟨none, [], rfl, Trimmed.nil, fun _ => rfl⟩
  | @keep root earlier below fewer _ ih =>
      rcases expand_cons_cases hexpand with
        ⟨hnone, hbelow⟩ | ⟨document, later?, later, hopen, hbelow, rfl, rfl⟩
      · have hlacks := lacks_of_none hnone
        have hsettled := hearlier.cons (List.Subset.refl _)
          fun document hopen => absurd hopen (hlacks document)
        rcases ih hsettled hbelow with ⟨first?, others, hothers, htrimmed, hfirst⟩
        rw [expand_cons_of_none hnone]
        refine ⟨first?, others, hothers, htrimmed, ?_⟩
        intro hall
        exact hfirst (List.forall_mem_cons.mpr ⟨hlacks, hall⟩)
      · have hsettled : AllSettled tree registry extension name (root :: earlier)
            (document.names.reverse ++ visited) := by
          apply hearlier.cons (List.subset_append_right _ _)
          intro again hagain other hother
          rw [hopen] at hagain
          cases hagain
          exact Or.inl (List.mem_append_left _ (List.mem_reverse.mpr hother))
        rcases ih hsettled hbelow with ⟨first?, others, hothers, htrimmed, _⟩
        refine ⟨some root, entriesOf document ++ others, ?_, htrimmed.keep_all, fun _ => rfl⟩
        simp only [expand_cons_of_some hopen, hothers]
  | @repeated root earlier below fewer hroot _ ih =>
      rcases expand_cons_cases hexpand with
        ⟨_, hbelow⟩ | ⟨document, later?, later, hopen, hbelow, rfl, rfl⟩
      · exact ih hearlier hbelow
      · rcases ih hearlier hbelow with ⟨first?, others, hothers, htrimmed, _⟩
        refine ⟨first?, others, hothers,
          htrimmed.drop_all (hearlier root document hroot hopen), ?_⟩
        intro hall
        exact absurd hopen (hall root hroot document)
  | @idle root earlier below fewer hroot _ ih =>
      rcases expand_cons_cases hexpand with
        ⟨_, hbelow⟩ | ⟨document, later?, later, hopen, _⟩
      · exact ih hearlier hbelow
      · exact absurd hopen (hidle root hroot document)

/-!
## Runs below fewer roots
-/

/-- The second worklist has come as far as the first, with fewer entries to skip. -/
structure Shadows (list shadow : Worklist) : Prop where
  visited_eq : shadow.visited = list.visited
  emitted_eq : shadow.emitted = list.emitted
  trimmed : Trimmed list.visited list.pending shadow.pending

theorem trimmed_refl (visited : List Text) (pending : List (Text × Text)) :
    Trimmed visited pending pending := by
  induction pending generalizing visited with
  | nil => exact Trimmed.nil
  | cons entry pending ih => exact Trimmed.keep (ih _)

theorem Shadows.step {idle : Path -> Prop} {fewer : List Path}
    (hthinned : Thinned idle [] roots fewer) {list next shadow : Worklist}
    (h : Shadows list shadow) (hstep : step? tree registry roots list = .ok (some next))
    (hidle : forall extension name pending, list.pending = (extension, name) :: pending ->
      ¬ Settled list.visited name -> forall root, idle root ->
      Lacks tree registry extension name root) :
    exists later, Runs tree registry fewer shadow later ∧ Shadows next later := by
  rcases shadow with ⟨entries, _, _⟩
  rcases h with ⟨rfl, rfl, htrimmed⟩
  rcases step?_cases hstep with ⟨extension, name, pending, hpending, hcase⟩
  dsimp only at htrimmed
  rw [hpending] at htrimmed
  -- An entry that the shadow lacks is settled, so the other worklist has to skip it.
  rcases hcase with ⟨hskip, rfl⟩ | ⟨hfresh, root?, children, hexpand, rfl⟩
  · cases htrimmed with
    | keep hrest =>
        refine ⟨_, Runs.skip hskip (Runs.refl _), rfl, rfl, hrest.mono ?_⟩
        rintro other (hmem | hnone)
        · rcases List.mem_cons.mp hmem with rfl | hvisited
          · exact hskip
          · exact Or.inl hvisited
        · exact Or.inr hnone
    | drop _ hrest => exact ⟨_, Runs.refl _, rfl, rfl, hrest⟩
  · cases htrimmed with
    | keep hrest =>
        have hnothing : AllSettled tree registry extension name []
            (name :: list.visited) := by
          intro root document hmem
          cases hmem
        rcases expand_thinned hthinned (hidle extension name pending hpending hfresh)
          hnothing hexpand with ⟨first?, others, hothers, hchildren, hfirst⟩
        have hsame : first? = root? := hfirst (by simp)
        rw [hsame] at hothers
        exact ⟨_, Runs.visit hfresh hothers (Runs.refl _), rfl, rfl,
          hchildren.append hrest⟩
    | drop hsettled _ => exact absurd hsettled hfresh

/-- The root has no document of any name that the worklist looks up. -/
def Idle (tree : FileTree) (registry : Registry) (roots : List Path) (list : Worklist)
    (root : Path) : Prop :=
  forall extension name opened, Visits tree registry roots list extension name ->
    Document.below? tree registry extension root name ≠ .ok (some opened)

theorem Idle.lacks {list : Worklist} {root : Path} (h : Idle tree registry roots list root)
    {extension name : Text} (hvisits : Visits tree registry roots list extension name) :
    Lacks tree registry extension name root := by
  intro declaring hopen
  rcases Document.below?_of_openBelow (Note.level + 1) hopen with ⟨opened, _, hbelow, _⟩
  exact h extension name opened hvisits hbelow

theorem exists_shadow {list last : Worklist} {fewer : List Path}
    (hthinned : Thinned (Idle tree registry roots list) [] roots fewer)
    (hruns : Runs tree registry roots list last) :
    exists shadow, Runs tree registry fewer list shadow ∧ Shadows last shadow := by
  induction hruns with
  | refl => exact ⟨list, Runs.refl _, rfl, rfl, trimmed_refl _ _⟩
  | @tail middle next hmiddle hstep ih =>
      rcases ih with ⟨shadow, hshadow, hshadows⟩
      rcases hshadows.step hthinned hstep (by
        intro extension name pending hpending hfresh root hroot
        rcases middle with ⟨_, visited, emitted⟩
        cases hpending
        exact hroot.lacks ⟨pending, visited, emitted, hmiddle, hfresh⟩) with
        ⟨later, hlater, hagain⟩
      exact ⟨later, Runs.trans hshadow hlater, hagain⟩

theorem Ends.thinned {list : Worklist} {fewer : List Path} {found : Found}
    (h : Ends tree registry roots list found)
    (hthinned : Thinned (Idle tree registry roots list) [] roots fewer) :
    Ends tree registry fewer list found := by
  rcases exists_shadow hthinned h with ⟨⟨entries, _, _⟩, hruns, rfl, rfl, htrimmed⟩
  cases htrimmed
  exact hruns

end Worklist
end Dependency

namespace Document

open Dependency Worklist

/-- Resolution gives the same dependencies, in the same order and with the same roots,
and visits the same names, when later repetitions of search roots are left out, when idle
search roots are left out, and when some of both are. -/
theorem dependenciesFrom_thinned {tree : FileTree} {document : Document}
    {roots : List Path} {visited : List Text} {level : Nat} {found : Found}
    (h : (document.dependenciesFrom level tree roots visited).result = .ok found) :
    (document.dependenciesFrom level tree roots.eraseDups visited).result = .ok found ∧
    exists instructions,
      (document.instructions level tree).result = .ok instructions ∧
      (forall leftOut : Path -> Bool,
        (forall root, leftOut root = true -> Idle tree document.registry roots
          (start document instructions visited) root) ->
        (document.dependenciesFrom level tree (roots.filter fun root => !leftOut root)
          visited).result = .ok found) ∧
      forall fewer,
        Thinned (Idle tree document.registry roots (start document instructions visited))
          [] roots fewer ->
        (document.dependenciesFrom level tree fewer visited).result = .ok found := by
  rcases ends_of_dependenciesFrom h with ⟨instructions, hread, hends⟩
  have hfewer : forall fewer,
      Thinned (Idle tree document.registry roots (start document instructions visited))
        [] roots fewer ->
      (document.dependenciesFrom level tree fewer visited).result = .ok found := by
    intro fewer hthinned
    rw [dependenciesFrom_of_ok hread]
    exact resolve_eq_ok_iff.mpr (hends.thinned hthinned)
  exact ⟨hfewer _ (thinned_eraseDups _ roots), instructions, hread,
    fun leftOut hidle => hfewer _ (thinned_filter hidle [] roots), hfewer⟩

/-- The directories of the two modules, each given twice, and one that is not there. -/
def crowdedRoots : List Path :=
  ["lib", "t", ".", "lib", "."].map fun root => Path.ofText root.toList

theorem crowded_result :
    (pairDocument.dependenciesFrom 0 pairTree crowdedRoots ["C".toList]).result =
      .ok pairFound := by
  apply eq_ok_of_toOption
  decide +kernel

theorem crowded_idle {instructions : List Instruction}
    (hread : (pairDocument.instructions 0 pairTree).result = .ok instructions) :
    Idle pairTree pairDocument.registry crowdedRoots
      (start pairDocument instructions ["C".toList]) (Path.ofText "t".toList) := by
  rcases ends_of_dependenciesFrom crowded_result with ⟨again, hagain, hends⟩
  rw [hread] at hagain
  cases hagain
  rintro extension name opened ⟨pending, visited, emitted, hruns, hfresh⟩ hbelow
  have hsettled : Settled pairFound.2 name :=
    (hends.of_runs hruns).settles (Or.inl List.mem_cons_self)
  have hname : name ∈ pairFound.2 := hsettled.resolve_right fun hnone => hfresh (Or.inr hnone)
  have hnone : forall other, other ∈ pairFound.2 -> (below? pairTree pairDocument.registry []
      (Path.ofText "t".toList) other).toOption = some none := by
    decide +kernel
  have hsame : below? pairTree pairDocument.registry extension (Path.ofText "t".toList) name =
      below? pairTree pairDocument.registry [] (Path.ofText "t".toList) name := rfl
  rw [hsame, eq_ok_of_toOption (hnone name hname)] at hbelow
  cases hbelow

theorem crowded_thinned :
    (pairDocument.dependenciesFrom 0 pairTree crowdedRoots ["C".toList]).result =
      .ok pairFound ∧
    crowdedRoots.eraseDups.length = 3 ∧
    (pairDocument.dependenciesFrom 0 pairTree crowdedRoots.eraseDups ["C".toList]).result =
      .ok pairFound ∧
    (pairDocument.dependenciesFrom 0 pairTree
      (crowdedRoots.filter fun root => !root == Path.ofText "t".toList)
      ["C".toList]).result = .ok pairFound ∧
    (pairDocument.dependenciesFrom 0 pairTree pairRoots ["C".toList]).result =
      .ok pairFound := by
  rcases dependenciesFrom_thinned crowded_result with
    ⟨herased, instructions, hread, hfiltered, hthinned⟩
  have hidle := crowded_idle hread
  refine ⟨crowded_result, by decide, herased, ?_, ?_⟩
  · apply hfiltered fun root => root == Path.ofText "t".toList
    intro root hroot
    rw [beq_iff_eq.mp hroot]
    exact hidle
  · apply hthinned
    apply Thinned.keep
    apply Thinned.idle hidle
    apply Thinned.keep
    apply Thinned.repeated (by decide)
    exact Thinned.repeated (by decide) Thinned.nil

end Document
end PodManual
