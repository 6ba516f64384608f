import PodManual.Proofs.Extract.Written
import PodManual.Proofs.Page.Printed

/-!
# Tokens of a page

A page is made of the tags that it writes itself and of text in which nothing can be
taken for markup.  The titles and paragraphs are escaped; the free tags are not, but
extraction reads only words as tags.

Main statement: the page of extracted instructions is a sequence of such tokens.
-/

namespace PodManual
namespace Page

/-- There is no sign of markup in the text, and every ampersand begins an entity. -/
structure IsPageText (t : Text) : Prop where
  free : forall c, c ∈ markupChars -> c ∉ t
  entity : forall place, place ∈ t.tails -> place.head? = some '&' ->
    exists entity, entity ∈ entities ∧ entity <+: place

def fixedTags : List Text :=
  ["<h1>CONTENTS</h1>".toList, "<ul>".toList, "</ul>".toList, "<dl>".toList,
    "</dl>".toList, "<li>".toList, "</li>".toList, "<dt>".toList, "</dt>".toList,
    "<dd>".toList, "</dd>".toList, "</a>".toList, "<p>".toList, "</p>".toList,
    "<code>".toList, "</code>".toList, "<br>".toList]

/-- A tag of the page itself, or text. -/
inductive IsToken : Text -> Prop
  | fixed {t : Text} : t ∈ fixedTags -> IsToken t
  | openHeading {level : Nat} {t : Text} :
      level < 10 -> (forall c, c ∈ markupChars -> c ∉ t) ->
      IsToken ("<h".toList ++ (Text.ofNat level ++ (" id=\"POD_".toList ++ (t ++
        "\">".toList))))
  | closeHeading {level : Nat} :
      level < 10 -> IsToken ("</h".toList ++ (Text.ofNat level ++ ">".toList))
  | link {t : Text} :
      (forall c, c ∈ markupChars -> c ∉ t) ->
      IsToken ("<a href=\"#POD_".toList ++ (t ++ "\">".toList))
  | text {t : Text} : IsPageText t -> IsToken t

def Tokenized (t : Text) : Prop :=
  exists tokens : List Text, t = tokens.flatten ∧ forall token, token ∈ tokens -> IsToken token

/-!
## Sequences of tokens
-/

theorem IsToken.tokenized {t : Text} (h : IsToken t) : Tokenized t := by
  refine ⟨[t], (List.flatten_singleton).symm, ?_⟩
  intro token htoken
  rw [List.mem_singleton.mp htoken]
  exact h

theorem Tokenized.append {first second : Text} (hfirst : Tokenized first)
    (hsecond : Tokenized second) : Tokenized (first ++ second) := by
  rcases hfirst with ⟨tokens, rfl, htokens⟩
  rcases hsecond with ⟨others, rfl, hothers⟩
  refine ⟨tokens ++ others, List.flatten_append.symm, ?_⟩
  intro token htoken
  rcases List.mem_append.mp htoken with hmem | hmem
  · exact htokens token hmem
  · exact hothers token hmem

theorem tokenized_flatMap {α : Type} {print : α -> Text} {parts : List α}
    (h : forall part, part ∈ parts -> Tokenized (print part)) :
    Tokenized (parts.flatMap print) := by
  induction parts with
  | nil => exact ⟨[], rfl, by simp⟩
  | cons part parts ih =>
      rw [List.flatMap_cons]
      exact (h part List.mem_cons_self).append
        (ih fun other hother => h other (List.mem_cons_of_mem _ hother))

theorem tokenized_fixed {t : Text} (h : t ∈ fixedTags) : Tokenized t :=
  (IsToken.fixed h).tokenized

/-!
## Text
-/

theorem isPageText_nil : IsPageText [] := by
  constructor
  · intro c _
    exact List.not_mem_nil
  · intro place hplace hhead
    rw [List.mem_singleton.mp hplace] at hhead
    cases hhead

theorem isPageText_cons {c : Char} {t : Text} (hc : c ∉ '&' :: markupChars)
    (h : IsPageText t) : IsPageText (c :: t) := by
  have hamp : c ≠ '&' := List.ne_of_not_mem_cons hc
  have hmarkup : c ∉ markupChars := List.not_mem_of_not_mem_cons hc
  constructor
  · intro d hd
    apply List.not_mem_cons_of_ne_of_not_mem _ (h.free d hd)
    rintro rfl
    exact hmarkup hd
  · intro place hplace hhead
    rw [List.tails_cons] at hplace
    rcases List.mem_cons.mp hplace with rfl | hlater
    · rw [List.head?_cons] at hhead
      exact absurd (Option.some.inj hhead) hamp
    · exact h.entity place hlater hhead

theorem isPageText_entity {entity t : Text} (hentity : entity ∈ entities)
    (h : IsPageText t) : IsPageText (entity ++ t) := by
  have hshape : forall e, e ∈ entities -> exists rest, e = '&' :: rest ∧
      (rest.all fun c => !('&' :: markupChars).contains c) = true := by
    intro e he
    simp only [entities, List.mem_cons, List.not_mem_nil, or_false] at he
    rcases he with rfl | rfl | rfl | rfl | rfl <;> exact ⟨_, rfl, by decide⟩
  rcases hshape entity hentity with ⟨rest, rfl, hrest⟩
  have htail : IsPageText (rest ++ t) := by
    clear hentity hshape
    induction rest with
    | nil => exact h
    | cons c rest ih =>
        rw [List.all_cons, Bool.and_eq_true] at hrest
        exact isPageText_cons (by simpa using hrest.left) (ih hrest.right)
  constructor
  · intro c hc
    apply List.not_mem_cons_of_ne_of_not_mem _ (htail.free c hc)
    rintro rfl
    exact absurd hc (by decide)
  · intro place hplace hhead
    rw [List.cons_append, List.tails_cons] at hplace
    rcases List.mem_cons.mp hplace with rfl | hlater
    · exact ⟨'&' :: rest, hentity, List.prefix_append ('&' :: rest) t⟩
    · exact htail.entity place hlater hhead

theorem isPageText_escape (t : Text) : IsPageText (escape t) := by
  induction t with
  | nil => exact isPageText_nil
  | cons c t ih =>
      rw [escape_cons]
      rcases escapeChar_cases c with hentity | ⟨hplain, hself⟩
      · exact isPageText_entity hentity ih
      · rw [hself]
        exact isPageText_cons hplain ih

theorem isPageText_of_words {t : Text} (h : t.all Text.isWord = true) : IsPageText t := by
  have hwords : (('&' :: markupChars).all fun c => !Text.isWord c) = true := by
    decide +kernel
  induction t with
  | nil => exact isPageText_nil
  | cons c t ih =>
      rw [List.all_cons, Bool.and_eq_true] at h
      apply isPageText_cons _ (ih h.right)
      intro hmem
      have hnot := List.all_eq_true.mp hwords c hmem
      rw [h.left] at hnot
      cases hnot

theorem tokenized_escape (t : Text) : Tokenized (escape t) :=
  (IsToken.text (isPageText_escape t)).tokenized

/-!
## Tokens of the body and of the contents
-/

theorem headingLevel?_lt_ten {element : Text} {level : Nat}
    (h : Instruction.headingLevel? element = some level) : level < 10 := by
  unfold Instruction.headingLevel? at h
  split at h
  · exact Text.digitValue?_lt h
  · exact Text.digitValue?_lt h
  · cases h

theorem tokenized_print {inst : Instruction} {fragment : Fragment}
    (h : fragment.ComesFrom inst) (hinst : inst.element.all Text.isWord = true) :
    Tokenized fragment.print := by
  cases fragment with
  | text t => exact tokenized_escape t
  | tag element =>
      rcases h with ⟨_, rfl⟩
      exact (IsToken.text (isPageText_of_words hinst)).tokenized
  | openHeading level title =>
      have hlevel := headingLevel?_lt_ten (role_eq_heading.mp h)
      have htoken := IsToken.openHeading hlevel fun c hc => notMem_escape hc title
      rw [Fragment.print_openHeading]
      exact htoken.tokenized
  | closeHeading level =>
      have hlevel := headingLevel?_lt_ten (role_eq_heading.mp h)
      rw [Fragment.print_closeHeading]
      exact (IsToken.closeHeading hlevel).tokenized
  | openList kind => cases kind <;> exact tokenized_fixed (by decide)
  | closeList kind => cases kind <;> exact tokenized_fixed (by decide)
  | openEntry kind => cases kind <;> exact tokenized_fixed (by decide)
  | closeEntry kind => cases kind <;> exact tokenized_fixed (by decide)
  | _ => exact tokenized_fixed (by decide)

theorem tokenized_printBody {instructions : List Instruction}
    (h : forall inst, inst ∈ instructions -> inst.element.all Text.isWord = true) :
    Tokenized (printBody instructions) := by
  apply tokenized_flatMap
  intro fragment hfragment
  rcases comesFrom_of_mem_bodyFrom hfragment with ⟨inst, hinst, hcomes⟩
  exact tokenized_print hcomes (h inst hinst)

theorem tokenized_piece (piece : ContentsPiece) : Tokenized piece.print := by
  have hnewline : Tokenized ['\n'] :=
    (IsToken.text (isPageText_cons (by decide) isPageText_nil)).tokenized
  cases piece with
  | deeper => exact (tokenized_fixed (t := "<ul>".toList) (by decide)).append hnewline
  | shallower => exact (tokenized_fixed (t := "</ul>".toList) (by decide)).append hnewline
  | finish => exact tokenized_fixed (by decide)
  | entry title =>
      have hlink := IsToken.link fun c hc => notMem_escape hc title
      have hprint : (ContentsPiece.entry title).print =
          "<li>".toList ++ (("<a href=\"#POD_".toList ++ (escape title ++ "\">".toList)) ++
            (escape title ++ ("</a>".toList ++ "</li>".toList))) := by
        unfold ContentsPiece.print anchor
        simp
      rw [hprint]
      apply (tokenized_fixed (by decide)).append
      apply hlink.tokenized.append
      apply (tokenized_escape title).append
      exact (tokenized_fixed (by decide)).append (tokenized_fixed (by decide))

theorem tokenized_printContents (instructions : List Instruction) :
    Tokenized (printContents instructions) := by
  apply (tokenized_fixed (by decide)).append
  apply tokenized_flatMap
  intro piece _
  exact tokenized_piece piece

end Page

/-!
## Pages of extracted instructions
-/

/-- Only a word is read as a tag, whatever the lines are. -/
theorem Language.isWord_of_mem_extract {language : Language} {lines : List Text}
    {inst : Instruction} (h : inst ∈ language.extract lines) :
    inst.element.all Text.isWord = true := by
  rw [language.extract_eq_filterMap] at h
  rcases List.mem_filterMap.mp h with ⟨block, _, hread⟩
  cases block with
  | nil => cases hread
  | cons first rest =>
      cases hfirst : Instruction.ofLine? first with
      | none => simp [Instruction.ofBlock?, hfirst] at hread
      | some found =>
          rcases found with ⟨element, title⟩
          by_cases hcut : element = "cut".toList
          · simp [Instruction.ofBlock?, hfirst, hcut] at hread
          · simp only [Instruction.ofBlock?, hfirst, if_neg hcut] at hread
            cases hread
            rcases Instruction.ofLine?_eq_some.mp hfirst with ⟨after, _, htag, _⟩
            apply List.all_eq_true.mpr
            intro c hc
            rw [← htag] at hc
            exact List.mem_takeWhile_imp hc

/-- Whatever the lines of a source file are, its page is made of the page's own tags
and of text that holds no markup. -/
theorem Page.render_extract_tokens (language : Language) (lines : List Text)
    (options : PageOptions) :
    exists tokens : List Text,
      Page.render options (language.extract lines) = tokens.flatten ∧
        forall token, token ∈ tokens -> Page.IsToken token := by
  have hbody : Page.Tokenized (Page.printBody (language.extract lines)) :=
    Page.tokenized_printBody fun _ hinst => Language.isWord_of_mem_extract hinst
  unfold Page.render
  split
  · exact hbody
  · exact (Page.tokenized_printContents _).append hbody

end PodManual
