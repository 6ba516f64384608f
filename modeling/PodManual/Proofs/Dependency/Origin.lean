import PodManual.Proofs.Dependency.Closure

/-!
# Where dependencies come from

Every dependency that resolution gives was emitted by one step, for a name that the
worklist visits.  The root of the dependency is one below which that step opened a
document of the name, and the dependency has no root exactly when there was none.
-/

namespace PodManual
namespace Dependency
namespace Worklist

variable {tree : FileTree} {registry : Registry} {roots : List Path}

theorem expand_root {extension name : Text} {below : List Path} {root? : Option Path}
    {children : List (Text × Text)}
    (h : expand tree registry extension name below = .ok (root?, children)) :
    (root? = none <-> forall root, root ∈ below ->
      openBelow tree registry extension root name = .ok none) ∧
    forall root, root? = some root -> root ∈ below ∧
      exists document, openBelow tree registry extension root name = .ok (some document) := by
  induction below generalizing root? children with
  | nil =>
      cases h
      simp
  | cons first below ih =>
      rcases expand_cons_cases h with
        ⟨hopen, hbelow⟩ | ⟨document, later?, later, hopen, hbelow, rfl, _⟩
      · rcases ih hbelow with ⟨hnone, hsome⟩
        constructor
        · rw [hnone, List.forall_mem_cons]
          exact ⟨fun hall => ⟨hopen, hall⟩, fun hall => hall.right⟩
        · intro root hroot
          rcases hsome root hroot with ⟨hmem, hdocument⟩
          exact ⟨List.mem_cons_of_mem _ hmem, hdocument⟩
      · constructor
        · simp [hopen]
        · rintro root ⟨⟩
          exact ⟨List.mem_cons_self, document, hopen⟩

theorem emitted_of_runs {first last : Worklist} (h : Runs tree registry roots first last)
    {dependency : Dependency} (hmem : dependency ∈ last.emitted) :
    dependency ∈ first.emitted ∨
      exists extension children,
        Visits tree registry roots first extension dependency.name ∧
        expand tree registry extension dependency.name roots =
          .ok (dependency.root?, children) := by
  induction h with
  | refl => exact Or.inl hmem
  | @tail middle last hmiddle hstep ih =>
      rcases step?_cases hstep with ⟨extension, name, pending, hpending, hcase⟩
      rcases hcase with ⟨_, rfl⟩ | ⟨hfresh, root?, children, hexpand, rfl⟩
      · exact ih hmem
      · rcases List.mem_append.mp hmem with hearlier | hnew
        · exact ih hearlier
        · cases List.mem_singleton.mp hnew
          rcases middle with ⟨_, visited, emitted⟩
          cases hpending
          exact Or.inr ⟨extension, children, ⟨pending, visited, emitted, hmiddle, hfresh⟩,
            hexpand⟩

end Worklist
end Dependency

namespace Document

open Dependency Worklist

theorem expand_of_mem_dependenciesFrom {level : Nat} {tree : FileTree} {document : Document}
    {roots : List Path} {visited : List Text} {instructions : List Instruction}
    {found : Found} (hread : (document.instructions level tree).result = .ok instructions)
    (h : (document.dependenciesFrom level tree roots visited).result = .ok found)
    {dependency : Dependency} (hmem : dependency ∈ found.1) :
    exists extension children,
      Visits tree document.registry roots (start document instructions visited) extension
        dependency.name ∧
      expand tree document.registry extension dependency.name roots =
        .ok (dependency.root?, children) := by
  rcases ends_of_dependenciesFrom h with ⟨again, hagain, hends⟩
  rw [hread] at hagain
  cases hagain
  rcases emitted_of_runs hends hmem with hnone | hvisits
  · cases hnone
  · exact hvisits

end Document
end PodManual
