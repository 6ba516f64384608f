import PodManual.Proofs.Page.Nesting

/-!
# Bodies put together

The body of a page depends on what came before it only through the open scopes, and on
what comes after an instruction only where a list begins.  Where no list is open there
is neither, so the body can be cut there.

Main statement: after instructions that leave no list open, the body goes on as if the
page began there.
-/

namespace PodManual
namespace Page

/-- Only the beginning of a list looks at the next instruction. -/
theorem step_eq_of_ne_over {inst : Instruction} (h : inst.role ≠ .over)
    (scopes : List Scope) (next? other? : Option Instruction) :
    step scopes inst next? = step scopes inst other? := by
  unfold step
  cases hrole : inst.role with
  | «over» => exact absurd hrole h
  | _ => rfl

theorem bodyFrom_append (scopes : List Scope) {first : List Instruction}
    (h : forall last, last ∈ first.getLast? -> last.role ≠ .over)
    (second : List Instruction) :
    bodyFrom scopes (first ++ second) =
      bodyFrom scopes first ++ bodyFrom (scopesAfter scopes first) second := by
  induction first generalizing scopes with
  | nil => rfl
  | cons inst rest ih =>
      have hstep : step scopes inst (rest ++ second).head? = step scopes inst rest.head? := by
        cases rest with
        | nil => exact step_eq_of_ne_over (h inst rfl) scopes _ _
        | cons next others => rfl
      have hrest : forall last, last ∈ rest.getLast? -> last.role ≠ .over := by
        intro last hlast
        apply h last
        rw [List.getLast?_cons, Option.mem_def.mp hlast]
        rfl
      rw [List.cons_append, bodyFrom, bodyFrom, scopesAfter, hstep, ih _ hrest]
      simp only [List.append_assoc]

theorem role_ne_over_of_openLists {instructions : List Instruction}
    (h : openLists instructions = 0) (last : Instruction)
    (hlast : last ∈ instructions.getLast?) : last.role ≠ .over := by
  intro hrole
  rcases List.getLast?_eq_some_iff.mp hlast with ⟨front, rfl⟩
  rw [openLists, List.foldl_append, List.foldl_cons, List.foldl_nil, countLists_eq,
    if_pos hrole] at h
  cases h

/-- No scope is open exactly where no list is open. -/
theorem scopesAfter_eq_nil_iff {instructions : List Instruction} :
    scopesAfter [] instructions = [] <-> openLists instructions = 0 := by
  rcases seated_scopesAfter Seated.nil instructions with ⟨hseated, hcount⟩
  rw [List.countP_nil, ← openLists] at hcount
  constructor
  · intro hnil
    rw [← hcount, hnil, List.countP_nil]
  · intro hzero
    exact hseated.eq_nil_of_countP (hcount.trans hzero)

/-- The body of instructions that leave no list open is followed by the body of what
comes after them, whatever that is. -/
theorem printBody_append {first : List Instruction} (h : openLists first = 0)
    (second : List Instruction) :
    printBody (first ++ second) = printBody first ++ printBody second := by
  have hbody : body (first ++ second) = body first ++ body second := by
    rw [body, bodyFrom_append [] (role_ne_over_of_openLists h),
      scopesAfter_eq_nil_iff.mpr h]
    rfl
  rw [printBody, hbody, Fragment.printAll_append]
  rfl

/-- An end without a list, a list with a stray end after it, and an item outside of
every list. -/
def closedFront : List Instruction :=
  [⟨"back".toList, [], []⟩, ⟨"over".toList, [], []⟩,
    ⟨"item".toList, "a".toList, ["text\n".toList]⟩, ⟨"back".toList, [], []⟩,
    ⟨"back".toList, [], ["after\n".toList]⟩, ⟨"item".toList, "stray".toList, []⟩]

theorem closedFront_append_ragged :
    openLists closedFront = 0 ∧
    printBody (closedFront ++ ragged) = printBody closedFront ++ printBody ragged :=
  ⟨by decide, printBody_append (by decide) ragged⟩

example : printBody (closedFront ++ ragged) =
    "<dl><dt>a</dt><dd><p>text</p></dd></dl><p>after</p>".toList ++
    "<p>&lt;/ul&gt;</p><dl><dt>a&lt;b</dt><dd><p>text</p><ul><li></li></ul>".toList ++
    "</dd></dl><ul><ul><h1 id=\"POD_NAME\">NAME</h1><li>last".toList := by
  decide +kernel

end Page
end PodManual
