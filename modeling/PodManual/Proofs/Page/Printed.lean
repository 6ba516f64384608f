import Mathlib.Data.List.Infix
import PodManual.Page.Basic

/-!
# Printed pages

What a page holds can be read off its print.  A less-than sign stands in print only
where a tag of the page begins, as long as there is none in the free tags, so tags are
found by looking at every place of the text for what begins there.
-/

namespace PodManual

theorem Text.after?_cons_of_head {b : Char} (beginning : Text) {t : Text}
    (h : t.head? ≠ some b) : Text.after? (b :: beginning) t = none := by
  cases t with
  | nil => rfl
  | cons c rest =>
      have hbc : b ≠ c := by
        intro heq
        exact h (by rw [heq, List.head?_cons])
      rw [Text.after?, if_neg hbc]

theorem Text.isDigit_of_mem_ofNat {n : Nat} {c : Char} (h : c ∈ Text.ofNat n) :
    c.isDigit = true :=
  Nat.isDigit_of_mem_toDigits (by decide) (by decide) h

namespace Page

/-!
## Escaped text
-/

def entities : List Text :=
  ["&amp;".toList, "&lt;".toList, "&gt;".toList, "&quot;".toList, "&#x27;".toList]

def markupChars : List Char :=
  ['<', '>', '\x22', '\x27']

theorem escapeChar_of_notMem {c : Char} (h : c ∉ '&' :: markupChars) :
    escapeChar c = [c] := by
  simp only [markupChars, List.mem_cons, List.not_mem_nil, or_false, not_or] at h
  rcases h with ⟨hamp, hlt, hgt, hquot, hapos⟩
  simp only [escapeChar, if_neg hamp, if_neg hlt, if_neg hgt, if_neg hquot, if_neg hapos]

theorem escapeChar_cases (c : Char) :
    escapeChar c ∈ entities ∨ (c ∉ '&' :: markupChars ∧ escapeChar c = [c]) := by
  by_cases hspecial : c ∈ '&' :: markupChars
  · left
    simp only [markupChars, List.mem_cons, List.not_mem_nil, or_false] at hspecial
    rcases hspecial with rfl | rfl | rfl | rfl | rfl <;> decide
  · exact Or.inr ⟨hspecial, escapeChar_of_notMem hspecial⟩

theorem notMem_entity {c : Char} (hc : c ∈ markupChars) {entity : Text}
    (h : entity ∈ entities) : c ∉ entity := by
  have hall : (entities.all fun e => markupChars.all fun d => !e.contains d) = true := by
    decide
  have hentity := List.all_eq_true.mp (List.all_eq_true.mp hall entity h) c hc
  simpa using hentity

theorem notMem_escape {c : Char} (hc : c ∈ markupChars) (t : Text) : c ∉ escape t := by
  intro hmem
  rcases List.mem_flatMap.mp hmem with ⟨d, _, hd⟩
  rcases escapeChar_cases d with hentity | ⟨hfree, hself⟩
  · exact notMem_entity hc hentity hd
  · rw [hself, List.mem_singleton] at hd
    rw [hd] at hc
    exact hfree (List.mem_cons_of_mem _ hc)

theorem notMem_anchor {c : Char} (hc : c ∈ markupChars) (title : Text) :
    c ∉ anchor title := by
  intro hmem
  rcases List.mem_append.mp hmem with hpod | hescape
  · have hall : (markupChars.all fun d => !("POD_".toList).contains d) = true := by
      decide
    have hnot := List.all_eq_true.mp hall c hc
    rw [List.contains_iff_mem.mpr hpod] at hnot
    cases hnot
  · exact notMem_escape hc title hescape

/-!
## Looking at every place
-/

variable {α : Type}

/-- What is read at the places of a text, from left to right. -/
def occurrences (read? : Text -> Option α) (t : Text) : List α :=
  t.tails.filterMap read?

/-- Nothing is read where no tag begins. -/
def ReadsTags (read? : Text -> Option α) : Prop :=
  forall t, t.head? ≠ some '<' -> read? t = none

theorem occurrences_cons (read? : Text -> Option α) (c : Char) (t : Text) :
    occurrences read? (c :: t) = (read? (c :: t)).toList ++ occurrences read? t := by
  rw [occurrences, List.tails_cons, List.filterMap_cons]
  cases read? (c :: t) with
  | none => rfl
  | some found => rfl

theorem occurrences_nil {read? : Text -> Option α} (h : ReadsTags read?) :
    occurrences read? [] = [] := by
  have hempty : read? [] = none := h [] (by simp)
  change [[]].filterMap read? = []
  rw [List.filterMap_cons, hempty]
  rfl

theorem occurrences_append_of_notMem {read? : Text -> Option α} (h : ReadsTags read?)
    {s : Text} (hs : '<' ∉ s) (t : Text) :
    occurrences read? (s ++ t) = occurrences read? t := by
  induction s with
  | nil => rfl
  | cons c s ih =>
      have hc : c ≠ '<' := by
        intro heq
        exact hs (by rw [heq]; exact List.mem_cons_self)
      have hread : read? (c :: (s ++ t)) = none := by
        apply h
        rw [List.head?_cons]
        intro heq
        exact hc (Option.some.inj heq)
      rw [List.cons_append, occurrences_cons, hread,
        ih fun hmem => hs (List.mem_cons_of_mem _ hmem)]
      rfl

theorem occurrences_tag {read? : Text -> Option α} (h : ReadsTags read?) {s : Text}
    (hs : '<' ∉ s) (t : Text) :
    occurrences read? ('<' :: s ++ t) =
      (read? ('<' :: s ++ t)).toList ++ occurrences read? t := by
  rw [List.cons_append, occurrences_cons, occurrences_append_of_notMem h hs]

/-!
## Fragments in print
-/

namespace Fragment

def isMarkup : Fragment -> Bool
  | .text _ => false
  | .tag _ => false
  | _ => true

def Unmarked (fragment : Fragment) : Prop :=
  forall element, fragment = .tag element -> '<' ∉ element

theorem print_of_isMarkup {fragment : Fragment} (h : fragment.isMarkup = true) :
    exists s, fragment.print = '<' :: s ∧ '<' ∉ s := by
  have hheading : forall level, '<' ∉ headingTag level := by
    intro level hmem
    rcases List.mem_cons.mp hmem with hh | hdigit
    · exact absurd hh (by decide)
    · exact absurd (Text.isDigit_of_mem_ofNat hdigit) (by decide)
  cases fragment with
  | text t => cases h
  | tag t => cases h
  | openList kind =>
      cases kind with
      | bulleted => exact ⟨"ul>".toList, rfl, by decide⟩
      | definition => exact ⟨"dl>".toList, rfl, by decide⟩
  | closeList kind =>
      cases kind with
      | bulleted => exact ⟨"/ul>".toList, rfl, by decide⟩
      | definition => exact ⟨"/dl>".toList, rfl, by decide⟩
  | openEntry kind =>
      cases kind with
      | bulleted => exact ⟨"li>".toList, rfl, by decide⟩
      | definition => exact ⟨"dd>".toList, rfl, by decide⟩
  | closeEntry kind =>
      cases kind with
      | bulleted => exact ⟨"/li>".toList, rfl, by decide⟩
      | definition => exact ⟨"/dd>".toList, rfl, by decide⟩
  | openTerm => exact ⟨"dt>".toList, rfl, by decide⟩
  | closeTerm => exact ⟨"/dt>".toList, rfl, by decide⟩
  | openHeading level title =>
      refine ⟨headingTag level ++ " id=\"".toList ++ anchor title ++ "\"".toList ++ ['>'],
        rfl, ?_⟩
      simp [hheading level, notMem_anchor (c := '<') (by decide) title]
  | closeHeading level =>
      refine ⟨'/' :: headingTag level ++ ['>'], rfl, ?_⟩
      simp [hheading level]
  | openProse => exact ⟨"p>".toList, rfl, by decide⟩
  | closeProse => exact ⟨"/p>".toList, rfl, by decide⟩
  | openCode => exact ⟨"code>".toList, rfl, by decide⟩
  | closeCode => exact ⟨"/code>".toList, rfl, by decide⟩
  | lineBreak => exact ⟨"br>".toList, rfl, by decide⟩

theorem print_openHeading (level : Nat) (title : Text) :
    (openHeading level title).print =
      "<h".toList ++ (Text.ofNat level ++ (" id=\"".toList ++ (anchor title ++
        "\">".toList))) := by
  simp [print, opening, headingTag]

theorem print_closeHeading (level : Nat) :
    (closeHeading level).print = "</h".toList ++ (Text.ofNat level ++ ">".toList) := by
  simp [print, closing, headingTag]

theorem notMem_print {fragment : Fragment} (h : fragment.isMarkup = false)
    (hfragment : fragment.Unmarked) : '<' ∉ fragment.print := by
  cases fragment with
  | text t => exact notMem_escape (by decide) t
  | tag t => exact hfragment t rfl
  | _ => cases h

/-- A reader whose finds depend on one fragment each finds in print what it finds in
the fragments. -/
theorem occurrences_printAll {read? : Text -> Option α} (hread : ReadsTags read?)
    (find? : Fragment -> Option α) {fragments : List Fragment}
    (hunmarked : forall fragment, fragment ∈ fragments -> fragment.Unmarked)
    (hmarkup : forall fragment, fragment ∈ fragments -> fragment.isMarkup = true ->
      forall t, read? (fragment.print ++ t) = find? fragment)
    (hplain : forall fragment, fragment ∈ fragments -> fragment.isMarkup = false ->
      find? fragment = none) (t : Text) :
    occurrences read? (printAll fragments ++ t) =
      fragments.filterMap find? ++ occurrences read? t := by
  induction fragments with
  | nil => rfl
  | cons fragment fragments ih =>
      have hrest := ih (fun other hother => hunmarked other (List.mem_cons_of_mem _ hother))
        (fun other hother => hmarkup other (List.mem_cons_of_mem _ hother))
        (fun other hother => hplain other (List.mem_cons_of_mem _ hother))
      have hself := List.mem_cons_self (a := fragment) (l := fragments)
      have hfirst : occurrences read? (fragment.print ++ (printAll fragments ++ t)) =
          (find? fragment).toList ++ occurrences read? (printAll fragments ++ t) := by
        cases hkind : fragment.isMarkup with
        | false =>
            rw [hplain fragment hself hkind,
              occurrences_append_of_notMem hread
                (notMem_print hkind (hunmarked fragment hself))]
            rfl
        | true =>
            rw [← hmarkup fragment hself hkind (printAll fragments ++ t)]
            rcases print_of_isMarkup hkind with ⟨s, hprint, hs⟩
            rw [hprint, occurrences_tag hread hs]
      rw [printAll_cons, List.append_assoc, hfirst, hrest, List.filterMap_cons]
      cases find? fragment with
      | none => rfl
      | some found => rfl

end Fragment

/-!
## Fragments of a body
-/

/-- What is known of a tag from its role. -/
inductive HasRole (element : Text) : Role -> Prop
  | heading {level : Nat} :
      Instruction.headingLevel? element = some level -> HasRole element (.heading level)
  | over : element = "over".toList -> HasRole element .over
  | back : element = "back".toList -> HasRole element .back
  | item : element = "item".toList -> HasRole element .item
  | untagged : element = [] -> HasRole element .untagged
  | free : Instruction.headingLevel? element = none -> element ≠ [] -> HasRole element .free

theorem hasRole_roleOf (element : Text) : HasRole element (Instruction.roleOf element) := by
  unfold Instruction.roleOf
  split
  · rename_i level hlevel
    exact HasRole.heading hlevel
  · rename_i hnone
    split
    · exact HasRole.over ‹_›
    · split
      · exact HasRole.back ‹_›
      · split
        · exact HasRole.item ‹_›
        · split
          · exact HasRole.untagged ‹_›
          · exact HasRole.free hnone ‹_›

theorem role_eq_heading {inst : Instruction} {level : Nat} :
    inst.role = .heading level <-> Instruction.headingLevel? inst.element = some level := by
  constructor
  · intro h
    have hrole : HasRole inst.element inst.role := hasRole_roleOf inst.element
    rw [h] at hrole
    cases hrole with
    | heading hlevel => exact hlevel
  · intro h
    simp only [Instruction.role, Instruction.roleOf, h]

section

variable {inst : Instruction} (scopes : List Scope) (next? : Option Instruction)

theorem step_of_heading {level : Nat} (h : inst.role = .heading level) :
    step scopes inst next? =
      ([.openHeading level inst.title, .text inst.title, .closeHeading level], scopes) := by
  simp only [step, h]

theorem step_of_over (h : inst.role = .over) :
    step scopes inst next? =
      ([.openList (listKind next?)], .list (listKind next?) :: scopes) := by
  simp only [step, h]

theorem step_of_back (h : inst.role = .back) :
    step scopes inst next? = inTurn closeEntry closeList scopes := by
  simp only [step, h]

theorem step_of_item (h : inst.role = .item) :
    step scopes inst next? = inTurn closeEntry (openEntry inst.title) scopes := by
  simp only [step, h]

theorem step_of_free (h : inst.role = .free) :
    step scopes inst next? = ([.tag inst.element, .text inst.title], scopes) := by
  simp only [step, h]

end

/-- What an instruction can contribute to a body: headings of its level, its tag when it
is a free one, and anything that is neither. -/
def Fragment.ComesFrom (inst : Instruction) : Fragment -> Prop
  | .openHeading level _ => inst.role = .heading level
  | .closeHeading level => inst.role = .heading level
  | .tag element => inst.role = .free ∧ element = inst.element
  | _ => True

theorem mem_intersperse {sep a : α} {l : List α} (h : a ∈ l.intersperse sep) :
    a = sep ∨ a ∈ l := by
  fun_induction List.intersperse sep l with
  | case1 => exact Or.inr h
  | case2 b => exact Or.inr h
  | case3 b c rest ih =>
      rcases List.mem_cons.mp h with rfl | hlater
      · exact Or.inr List.mem_cons_self
      · rcases List.mem_cons.mp hlater with rfl | hrest
        · exact Or.inl rfl
        · rcases ih hrest with hsep | hmem
          · exact Or.inl hsep
          · exact Or.inr (List.mem_cons_of_mem _ hmem)

theorem mem_contentFragments {content : List Text} {fragment : Fragment}
    (h : fragment ∈ contentFragments content) :
    fragment ∈ [.openProse, .closeProse, .openCode, .closeCode, .lineBreak] ∨
      exists t, fragment = .text t := by
  rcases List.mem_flatMap.mp h with ⟨paragraph, _, hmem⟩
  unfold paragraphFragments at hmem
  split at hmem
  · simp only [List.mem_cons, List.not_mem_nil, or_false] at hmem
    rcases hmem with rfl | rfl | rfl
    · exact Or.inl (by decide)
    · exact Or.inr ⟨_, rfl⟩
    · exact Or.inl (by decide)
  · rcases List.mem_append.mp hmem with hfront | hlast
    · rcases List.mem_cons.mp hfront with rfl | hline
      · exact Or.inl (by decide)
      · rcases mem_intersperse hline with rfl | htext
        · exact Or.inl (by decide)
        · rcases List.mem_map.mp htext with ⟨t, _, rfl⟩
          exact Or.inr ⟨t, rfl⟩
    · rw [List.mem_singleton.mp hlast]
      exact Or.inl (by decide)

theorem comesFrom_of_mem_contentFragments {content : List Text} {fragment : Fragment}
    (h : fragment ∈ contentFragments content) (inst : Instruction) :
    fragment.ComesFrom inst := by
  rcases mem_contentFragments h with hinline | ⟨t, rfl⟩
  · simp only [List.mem_cons, List.not_mem_nil, or_false] at hinline
    rcases hinline with rfl | rfl | rfl | rfl | rfl <;> trivial
  · trivial

theorem comesFrom_of_mem_closeEntry {scopes : List Scope} {fragment : Fragment}
    (h : fragment ∈ (closeEntry scopes).1) (inst : Instruction) :
    fragment.ComesFrom inst := by
  unfold closeEntry at h
  split at h
  · rw [List.mem_singleton.mp h]
    trivial
  · cases h

theorem comesFrom_of_mem_closeList {scopes : List Scope} {fragment : Fragment}
    (h : fragment ∈ (closeList scopes).1) (inst : Instruction) :
    fragment.ComesFrom inst := by
  unfold closeList at h
  split at h
  · rw [List.mem_singleton.mp h]
    trivial
  · cases h

theorem comesFrom_of_mem_openEntry {title : Text} {scopes : List Scope}
    {fragment : Fragment} (h : fragment ∈ (openEntry title scopes).1)
    (inst : Instruction) : fragment.ComesFrom inst := by
  unfold openEntry at h
  split at h
  · simp only [List.mem_cons, List.not_mem_nil, or_false] at h
    rcases h with rfl | rfl <;> trivial
  · simp only [List.mem_cons, List.not_mem_nil, or_false] at h
    rcases h with rfl | rfl | rfl | rfl <;> trivial
  · cases h

theorem comesFrom_of_mem_step {scopes : List Scope} {inst : Instruction}
    {next? : Option Instruction} {fragment : Fragment}
    (h : fragment ∈ (step scopes inst next?).1) : fragment.ComesFrom inst := by
  unfold step at h
  split at h
  case h_1 level hrole =>
    simp only [List.mem_cons, List.not_mem_nil, or_false] at h
    rcases h with rfl | rfl | rfl
    · exact hrole
    · trivial
    · exact hrole
  case h_2 =>
    rw [List.mem_singleton.mp h]
    trivial
  case h_3 =>
    rcases List.mem_append.mp h with hentry | hlist
    · exact comesFrom_of_mem_closeEntry hentry inst
    · exact comesFrom_of_mem_closeList hlist inst
  case h_4 =>
    rcases List.mem_append.mp h with hclose | hopen
    · exact comesFrom_of_mem_closeEntry hclose inst
    · exact comesFrom_of_mem_openEntry hopen inst
  case h_5 hrole =>
    simp only [List.mem_cons, List.not_mem_nil, or_false] at h
    rcases h with rfl | rfl
    · exact ⟨hrole, rfl⟩
    · trivial
  case h_6 => cases h

theorem comesFrom_of_mem_bodyFrom {scopes : List Scope} {instructions : List Instruction}
    {fragment : Fragment} (h : fragment ∈ bodyFrom scopes instructions) :
    exists inst, inst ∈ instructions ∧ fragment.ComesFrom inst := by
  induction instructions generalizing scopes with
  | nil => cases h
  | cons inst rest ih =>
      rcases List.mem_append.mp h with hown | hrest
      · refine ⟨inst, List.mem_cons_self, ?_⟩
        rcases List.mem_append.mp hown with hstep | hcontent
        · exact comesFrom_of_mem_step hstep
        · exact comesFrom_of_mem_contentFragments hcontent inst
      · rcases ih hrest with ⟨other, hother, hcomes⟩
        exact ⟨other, List.mem_cons_of_mem _ hother, hcomes⟩

theorem Fragment.ComesFrom.unmarked {inst : Instruction} {fragment : Fragment}
    (h : fragment.ComesFrom inst) (hinst : '<' ∉ inst.element) : fragment.Unmarked := by
  intro element heq
  rw [heq] at h
  rw [h.right]
  exact hinst

end Page
end PodManual
