import PodManual.Dependency.Resolve

/-!
# What a search does

A search is made of two loops, one over the search roots and one over the names
of a document.  This module says once what a turn of each loop can do when it
gives a result and when it fails; the theory of resolution rests on these
statements and does not open the loops again.
-/

namespace PodManual

namespace Traced

variable {α β : Type}

theorem result_andThen_eq_ok {first : Traced α} {second : α -> Traced β} {b : β} :
    (first.andThen second).result = .ok b <->
      exists a, first.result = .ok a ∧ (second a).result = .ok b := by
  unfold andThen
  cases first.result with
  | error failure => simp
  | ok a => simp

theorem result_andThen_eq_error {first : Traced α} {second : α -> Traced β}
    {failure : Failure} :
    (first.andThen second).result = .error failure <->
      first.result = .error failure ∨
        exists a, first.result = .ok a ∧ (second a).result = .error failure := by
  unfold andThen
  cases first.result with
  | error other => simp
  | ok a => simp

theorem andThen_congr {first : Traced α} {second other : α -> Traced β}
    (h : forall a, first.result = .ok a -> second a = other a) :
    first.andThen second = first.andThen other := by
  unfold andThen
  cases hresult : first.result with
  | error failure => rfl
  | ok a => simp only [h a hresult]

end Traced

namespace Dependency

open Traced

/-- There is nothing to do for the name: it was visited, or it stands for none. -/
abbrev Settled (visited : List Text) (name : Text) : Prop :=
  name ∈ visited ∨ isNone name = true

theorem Settled.mono {visited later : List Text} {name : Text} (hlater : visited ⊆ later)
    (h : Settled visited name) : Settled later name :=
  h.imp_left fun hvisited => hlater hvisited

variable {level : Nat} {descend : Declaring -> List Text -> Traced Found}

/-!
## The loop over the search roots
-/

section Roots

variable {openAt : Path -> Except Failure (Option Declaring)}

theorem searchRoots_nil_eq_ok {visited : List Text} {own : Option Path × Found} :
    (searchRoots openAt descend [] visited).result = .ok own <->
      own = (none, [], visited) := by
  rw [searchRoots, result_done]
  constructor
  · intro h
    cases h
    rfl
  · intro h
    rw [h]

theorem searchRoots_cons_eq_ok {root : Path} {roots : List Path}
    {visited : List Text} {own : Option Path × Found} :
    (searchRoots openAt descend (root :: roots) visited).result = .ok own <->
      (openAt root = .ok none ∧
        (searchRoots openAt descend roots visited).result = .ok own) ∨
      exists document below later,
        openAt root = .ok (some document) ∧
        (descend document visited).result = .ok below ∧
        (searchRoots openAt descend roots below.2).result = .ok later ∧
        own = (some root, below.1 ++ later.2.1, later.2.2) := by
  rw [searchRoots, result_andThen_eq_ok, result_ofExcept]
  cases openAt root with
  | error failure => simp
  | ok opened =>
      cases opened with
      | none => simp
      | some document =>
          simp only [Except.ok.injEq, exists_eq_left', result_andThen_eq_ok,
            result_done, reduceCtorEq, false_and, false_or, Option.some.injEq]
          constructor
          · rintro ⟨below, hbelow, later, hlater, rfl⟩
            exact ⟨document, below, later, rfl, hbelow, hlater, rfl⟩
          · rintro ⟨_, below, later, rfl, hbelow, hlater, rfl⟩
            exact ⟨below, hbelow, later, hlater, rfl⟩

theorem searchRoots_cons_eq_error {root : Path} {roots : List Path}
    {visited : List Text} {failure : Failure} :
    (searchRoots openAt descend (root :: roots) visited).result = .error failure <->
      openAt root = .error failure ∨
      (openAt root = .ok none ∧
        (searchRoots openAt descend roots visited).result = .error failure) ∨
      exists document,
        openAt root = .ok (some document) ∧
        ((descend document visited).result = .error failure ∨
          exists below, (descend document visited).result = .ok below ∧
            (searchRoots openAt descend roots below.2).result = .error failure) := by
  rw [searchRoots, result_andThen_eq_error, result_ofExcept]
  cases openAt root with
  | error other => simp
  | ok opened =>
      cases opened with
      | none => simp
      | some document => simp [result_andThen_eq_error]

end Roots

/-!
## The loop over the names
-/

section Names

variable {openAt : Path -> Text -> Except Failure (Option Declaring)}
variable {roots : List Path}

theorem searchNames_nil_eq_ok {visited : List Text} {found : Found} :
    (searchNames level openAt descend roots [] visited).result = .ok found <->
      found = ([], visited) := by
  rw [searchNames, result_done]
  constructor
  · intro h
    cases h
    rfl
  · intro h
    rw [h]

theorem searchNames_cons_of_settled {name : Text} (names : List Text)
    {visited : List Text} (h : Settled visited name) :
    (searchNames level openAt descend roots (name :: names) visited).result =
      (searchNames level openAt descend roots names visited).result := by
  rw [searchNames]
  by_cases hvisited : name ∈ visited
  · rw [if_pos hvisited]
    rfl
  · rw [if_neg hvisited, if_pos (h.resolve_left hvisited)]

theorem searchNames_cons_eq_ok {name : Text} {names visited : List Text}
    {found : Found} (h : ¬ Settled visited name) :
    (searchNames level openAt descend roots (name :: names) visited).result = .ok found <->
      exists own later,
        (searchRoots (fun root => openAt root name) descend roots
          (name :: visited)).result = .ok own ∧
        (searchNames level openAt descend roots names own.2.2).result = .ok later ∧
        found = (Dependency.mk name own.1 :: (own.2.1 ++ later.1), later.2) := by
  rcases not_or.mp h with ⟨hvisited, hnone⟩
  rw [searchNames, if_neg hvisited, if_neg hnone, result_andThen_eq_ok]
  constructor
  · rintro ⟨own, hown, h⟩
    rw [result_andThen_eq_ok] at h
    rcases h with ⟨_, _, h⟩
    rw [result_andThen_eq_ok] at h
    rcases h with ⟨later, hlater, h⟩
    cases h
    exact ⟨own, later, hown, hlater, rfl⟩
  · rintro ⟨own, later, hown, hlater, rfl⟩
    refine ⟨own, hown, ?_⟩
    cases own.1 <;> simp [result_andThen_eq_ok, hlater]

theorem searchNames_cons_eq_error {name : Text} {names visited : List Text}
    {failure : Failure} (h : ¬ Settled visited name) :
    (searchNames level openAt descend roots (name :: names) visited).result =
        .error failure <->
      (searchRoots (fun root => openAt root name) descend roots
        (name :: visited)).result = .error failure ∨
      exists own,
        (searchRoots (fun root => openAt root name) descend roots
          (name :: visited)).result = .ok own ∧
        (searchNames level openAt descend roots names own.2.2).result = .error failure := by
  rcases not_or.mp h with ⟨hvisited, hnone⟩
  rw [searchNames, if_neg hvisited, if_neg hnone, result_andThen_eq_error]
  apply or_congr_right
  apply exists_congr
  intro own
  apply and_congr_right
  intro _
  cases own.1 <;> simp [result_andThen_eq_error]

end Names

end Dependency
end PodManual
