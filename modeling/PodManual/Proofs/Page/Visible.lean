import PodManual.Proofs.Page.Escape
import PodManual.Proofs.Page.Nesting

/-!
# The text of a page

A reader sees of a page what is left when its tags are erased and its entities decoded.
Nothing else than the page's own tags is erased, since text is escaped and free tags are
words, and decoding gives every text back.

Main statement: what is left of a body are the titles and the paragraphs of its
instructions, each once and in order.  An item outside every list keeps its paragraphs
and loses its title.
-/

namespace PodManual
namespace Page

/-!
## Erasing tags
-/

def eraseTagsFrom : Bool -> Text -> Text
  | _, [] => []
  | true, c :: rest => eraseTagsFrom (c != '>') rest
  | false, c :: rest =>
      if c = '<' then eraseTagsFrom true rest else c :: eraseTagsFrom false rest

/-- The text without its tags: a tag goes from a less-than sign to the next greater-than
sign. -/
def eraseTags (t : Text) : Text :=
  eraseTagsFrom false t

theorem eraseTags_append {t : Text} (h : '<' ∉ t) (rest : Text) :
    eraseTags (t ++ rest) = t ++ eraseTags rest := by
  induction t with
  | nil => rfl
  | cons c t ih =>
      have hc : c ≠ '<' := (List.ne_of_not_mem_cons h).symm
      rw [List.cons_append, eraseTags, eraseTagsFrom, if_neg hc, ← eraseTags,
        ih (List.not_mem_of_not_mem_cons h), List.cons_append]

theorem eraseTagsFrom_name {name : Text} (h : '>' ∉ name) (rest : Text) :
    eraseTagsFrom true (name ++ '>' :: rest) = eraseTags rest := by
  induction name with
  | nil => rfl
  | cons c name ih =>
      have hc : (c != '>') = true := bne_iff_ne.mpr (List.ne_of_not_mem_cons h).symm
      rw [List.cons_append, eraseTagsFrom, hc, ih (List.not_mem_of_not_mem_cons h)]

theorem eraseTags_tag {name : Text} (h : '>' ∉ name) (rest : Text) :
    eraseTags ('<' :: name ++ '>' :: rest) = eraseTags rest := by
  rw [List.cons_append, eraseTags, eraseTagsFrom, if_pos rfl, eraseTagsFrom_name h]

/-!
## What fragments show
-/

namespace Fragment

def shown : Fragment -> Text
  | .text t => t
  | .tag t => t
  | _ => []

/-- A free tag has no sign in it that erasing or decoding takes for its own. -/
def IsPlain (fragment : Fragment) : Prop :=
  forall element, fragment = .tag element -> '<' ∉ element ∧ '&' ∉ element

theorem shown_of_isMarkup {fragment : Fragment} (h : fragment.isMarkup = true) :
    fragment.shown = [] := by
  cases fragment with
  | text t => cases h
  | tag t => cases h
  | _ => rfl

theorem print_eq_tag {fragment : Fragment} (h : fragment.isMarkup = true) :
    exists name, fragment.print = '<' :: name ++ ['>'] ∧ '>' ∉ name := by
  have hheading : forall level, '>' ∉ headingTag level := by
    intro level hmem
    rcases List.mem_cons.mp hmem with hh | hdigit
    · exact absurd hh (by decide)
    · exact absurd (Text.isDigit_of_mem_ofNat hdigit) (by decide)
  cases fragment with
  | text t => cases h
  | tag t => cases h
  | openList kind => exact ⟨kind.listTag, rfl, by cases kind <;> decide⟩
  | closeList kind => exact ⟨'/' :: kind.listTag, rfl, by cases kind <;> decide⟩
  | openEntry kind => exact ⟨kind.entryTag, rfl, by cases kind <;> decide⟩
  | closeEntry kind => exact ⟨'/' :: kind.entryTag, rfl, by cases kind <;> decide⟩
  | openHeading level title =>
      refine ⟨headingTag level ++ " id=\"".toList ++ anchor title ++ "\"".toList, rfl, ?_⟩
      simp [hheading level, notMem_anchor (c := '>') (by decide) title]
  | closeHeading level =>
      refine ⟨'/' :: headingTag level, rfl, ?_⟩
      simp [hheading level]
  | openTerm => exact ⟨"dt".toList, rfl, by decide⟩
  | closeTerm => exact ⟨"/dt".toList, rfl, by decide⟩
  | openProse => exact ⟨"p".toList, rfl, by decide⟩
  | closeProse => exact ⟨"/p".toList, rfl, by decide⟩
  | openCode => exact ⟨"code".toList, rfl, by decide⟩
  | closeCode => exact ⟨"/code".toList, rfl, by decide⟩
  | lineBreak => exact ⟨"br".toList, rfl, by decide⟩

theorem unescape_eraseTags_print {fragment : Fragment} (h : fragment.IsPlain)
    (rest : Text) :
    unescape (eraseTags (fragment.print ++ rest)) =
      fragment.shown ++ unescape (eraseTags rest) := by
  cases hkind : fragment.isMarkup with
  | true =>
      rcases print_eq_tag hkind with ⟨name, hprint, hname⟩
      rw [hprint, List.append_assoc, List.singleton_append, eraseTags_tag hname,
        shown_of_isMarkup hkind, List.nil_append]
  | false =>
      cases fragment with
      | text t =>
          rw [print, eraseTags_append (notMem_escape (by decide) t), unescape_escape_append]
          rfl
      | tag element =>
          rcases h element rfl with ⟨hless, hamp⟩
          rw [print, eraseTags_append hless, unescape_append hamp]
          rfl
      | _ => cases hkind

theorem unescape_eraseTags_printAll {fragments : List Fragment}
    (h : forall fragment, fragment ∈ fragments -> fragment.IsPlain) :
    unescape (eraseTags (printAll fragments)) = fragments.flatMap shown := by
  induction fragments with
  | nil => rfl
  | cons fragment fragments ih =>
      have hrest := ih fun other hother => h other (List.mem_cons_of_mem _ hother)
      rw [printAll_cons, unescape_eraseTags_print (h fragment List.mem_cons_self), hrest,
        List.flatMap_cons]

end Fragment

theorem Fragment.ComesFrom.isPlain {inst : Instruction} {fragment : Fragment}
    (h : fragment.ComesFrom inst) (hinst : inst.element.all Text.isWord = true) :
    fragment.IsPlain := by
  have hsigns : Text.isWord '<' = false ∧ Text.isWord '&' = false := by decide +kernel
  rintro element rfl
  rcases h with ⟨_, rfl⟩
  have hword := List.all_eq_true.mp hinst
  constructor
  · intro hmem
    exact absurd (hword _ hmem) (by simp [hsigns.left])
  · intro hmem
    exact absurd (hword _ hmem) (by simp [hsigns.right])

/-!
## What instructions show
-/

def isHeadingTag : Text -> Bool
  | ['h', 'e', 'a', 'd', digit] => Text.isDigit digit
  | _ => false

/-- What is seen of an instruction before its paragraphs, when a number of lists is
open. -/
def shownTitle (count : Nat) (inst : Instruction) : Text :=
  if isHeadingTag inst.element then inst.title
  else if inst.element = "over".toList ∨ inst.element = "back".toList then []
  else if inst.element = "item".toList then if count = 0 then [] else inst.title
  else inst.element ++ inst.title

def shownParagraph (paragraph : Text) : Text :=
  if isPreformatted paragraph then paragraphText paragraph
  else (paragraphText paragraph).filter (· != '\n')

/-- What is seen of instructions, from a number of lists that are open. -/
def shownFrom : Nat -> List Instruction -> Text
  | _, [] => []
  | count, inst :: rest =>
      shownTitle count inst ++ inst.content.flatMap shownParagraph ++
        shownFrom (countLists count inst) rest

theorem flatten_cutAt (sep : Char) (t : Text) :
    (Text.cutAt sep t).flatten = t.filter (· != sep) := by
  induction t with
  | nil => rfl
  | cons c t ih =>
      by_cases hc : c = sep
      · rw [Text.cutAt, if_pos hc, List.flatten_cons, ih, List.filter_cons_of_neg (by simp [hc])]
        rfl
      · rw [Text.cutAt, if_neg hc, List.filter_cons_of_pos (by simp [hc]), ← ih]
        cases hpieces : Text.cutAt sep t with
        | nil => exact absurd hpieces (Text.cutAt_ne_nil sep t)
        | cons piece pieces => rfl

theorem flatMap_intersperse {α β : Type} {f : α -> List β} {sep : α} (h : f sep = [])
    (l : List α) : (l.intersperse sep).flatMap f = l.flatMap f := by
  fun_induction List.intersperse sep l with
  | case1 => rfl
  | case2 a => rfl
  | case3 a b rest ih =>
      rw [List.flatMap_cons, List.flatMap_cons, h, ih, List.nil_append, List.flatMap_cons]

theorem flatMap_shown_text (lines : List Text) :
    (lines.map Fragment.text).flatMap Fragment.shown = lines.flatten := by
  rw [List.flatMap_map]
  exact List.flatMap_id

theorem flatMap_shown_paragraphFragments (paragraph : Text) :
    (paragraphFragments paragraph).flatMap Fragment.shown = shownParagraph paragraph := by
  unfold paragraphFragments shownParagraph
  split
  · simp [Fragment.shown]
  · have hbreak : Fragment.lineBreak.shown = [] := rfl
    have houter : forall inner : List Fragment,
        (Fragment.openProse :: inner ++ [Fragment.closeProse]).flatMap Fragment.shown =
          inner.flatMap Fragment.shown := by
      intro inner
      rw [List.cons_append, List.flatMap_cons, List.flatMap_append]
      exact List.append_nil _
    rw [houter, flatMap_intersperse hbreak, flatMap_shown_text, flatten_cutAt]

theorem flatMap_shown_contentFragments (content : List Text) :
    (contentFragments content).flatMap Fragment.shown = content.flatMap shownParagraph := by
  rw [contentFragments, List.flatMap_assoc]
  apply List.flatMap_congr
  intro paragraph _
  exact flatMap_shown_paragraphFragments paragraph

/-- A word has no line feed at its end, so a page heading is `head` and a digit. -/
theorem isHeadingTag_eq {element : Text} (h : element.all Text.isWord = true) :
    isHeadingTag element = (Instruction.headingLevel? element).isSome := by
  have hfeed : Text.isWord '\n' = false := by decide +kernel
  unfold Instruction.headingLevel?
  split
  · rename_i digit hafter
    rw [Text.eq_append_of_after? hafter]
    rfl
  · rename_i digit hafter
    rw [Text.eq_append_of_after? hafter] at h
    have hmem : '\n' ∈ "head".toList ++ [digit, '\n'] := by simp
    exact absurd (List.all_eq_true.mp h _ hmem) (by simp [hfeed])
  · rename_i hother _
    unfold isHeadingTag
    split
    · exact absurd rfl (hother _)
    · rfl

theorem shownTitle_of_heading {inst : Instruction} {level : Nat}
    (hword : inst.element.all Text.isWord = true) (h : inst.role = .heading level)
    (count : Nat) : shownTitle count inst = inst.title := by
  have hheading : isHeadingTag inst.element = true := by
    rw [isHeadingTag_eq hword, role_eq_heading.mp h]
    rfl
  rw [shownTitle, if_pos hheading]

theorem shownTitle_of_free {inst : Instruction}
    (hword : inst.element.all Text.isWord = true) (h : inst.role = .free) (count : Nat) :
    shownTitle count inst = inst.element ++ inst.title := by
  have hrole : HasRole inst.element inst.role := hasRole_roleOf inst.element
  rw [h] at hrole
  cases hrole with
  | free hlevel _ =>
      have hheading : isHeadingTag inst.element = false := by
        rw [isHeadingTag_eq hword, hlevel]
        rfl
      have hother : forall element, Instruction.roleOf element ≠ .free ->
          inst.element ≠ element := by
        rintro element helement heq
        rw [← heq] at helement
        exact helement h
      rw [shownTitle, hheading, if_neg Bool.false_ne_true,
        if_neg (not_or.mpr ⟨hother _ (by decide), hother _ (by decide)⟩),
        if_neg (hother _ (by decide))]

/-- What is shown before the paragraphs.  An item shows its title where a list is open,
because an open entry always has its list below it. -/
theorem flatMap_shown_step {scopes : List Scope} (h : Seated scopes) {inst : Instruction}
    (hword : inst.element.all Text.isWord = true) (hne : inst.element ≠ [])
    (next? : Option Instruction) :
    (step scopes inst next?).1.flatMap Fragment.shown =
      shownTitle (scopes.countP Scope.isList) inst := by
  have hrole : HasRole inst.element inst.role := hasRole_roleOf inst.element
  cases hcase : inst.role with
  | heading level =>
      rw [step_of_heading _ _ hcase, shownTitle_of_heading hword hcase]
      exact List.append_nil _
  | free =>
      rw [step_of_free _ _ hcase, shownTitle_of_free hword hcase]
      change inst.element ++ (inst.title ++ []) = _
      rw [List.append_nil]
  | untagged =>
      rw [hcase] at hrole
      cases hrole with
      | untagged hnil => exact absurd hnil hne
  | «over» =>
      rw [step_of_over _ _ hcase, shownTitle, roleOf_eq_over.mp hcase]
      rfl
  | back =>
      rw [step_of_back _ _ hcase, shownTitle, roleOf_eq_back.mp hcase]
      cases h with
      | nil => rfl
      | list _ => rfl
      | entry _ => rfl
  | item =>
      rw [hcase] at hrole
      cases hrole with
      | item hitem =>
          have hshown : forall count, shownTitle count inst =
              if count = 0 then [] else inst.title := by
            intro count
            rw [shownTitle, hitem]
            rfl
          rw [step_of_item _ _ hcase, hshown]
          cases h with
          | nil => rfl
          | @list kind _ _ =>
              rw [countP_list]
              cases kind <;> exact List.append_nil _
          | @entry kind _ _ =>
              rw [countP_entry, countP_list]
              cases kind <;> exact List.append_nil _

theorem flatMap_shown_bodyFrom {scopes : List Scope} (h : Seated scopes)
    {instructions : List Instruction}
    (hwords : forall inst, inst ∈ instructions ->
      inst.element ≠ [] ∧ inst.element.all Text.isWord = true) :
    (bodyFrom scopes instructions).flatMap Fragment.shown =
      shownFrom (scopes.countP Scope.isList) instructions := by
  induction instructions generalizing scopes with
  | nil => rfl
  | cons inst rest ih =>
      rcases hwords inst List.mem_cons_self with ⟨hne, hword⟩
      rcases seated_step h inst rest.head? with ⟨hseated, hcount⟩
      have hrest := ih hseated fun other hother =>
        hwords other (List.mem_cons_of_mem _ hother)
      rw [bodyFrom, List.flatMap_append, List.flatMap_append,
        flatMap_shown_step h hword hne, flatMap_shown_contentFragments, hrest, hcount,
        shownFrom]

/-- Nothing is lost and nothing is shown twice: without its tags and with its entities
decoded, the body of instructions whose tags are words is what the instructions show. -/
theorem unescape_eraseTags_printBody (instructions : List Instruction)
    (h : forall inst, inst ∈ instructions ->
      inst.element ≠ [] ∧ inst.element.all Text.isWord = true) :
    unescape (eraseTags (printBody instructions)) = shownFrom 0 instructions := by
  have hplain : forall fragment, fragment ∈ body instructions -> fragment.IsPlain := by
    intro fragment hfragment
    rcases comesFrom_of_mem_bodyFrom hfragment with ⟨inst, hinst, hcomes⟩
    exact hcomes.isPlain (h inst hinst).right
  rw [printBody, Fragment.unescape_eraseTags_printAll hplain]
  exact flatMap_shown_bodyFrom Seated.nil h

theorem ragged_shown :
    (forall inst, inst ∈ ragged -> inst.element ≠ [] ∧ inst.element.all Text.isWord = true) ∧
    unescape (eraseTags (printBody ragged)) = "</ul>a<btextNAMElast".toList := by
  have hwords : forall inst, inst ∈ ragged ->
      inst.element ≠ [] ∧ inst.element.all Text.isWord = true := by
    decide +kernel
  refine ⟨hwords, ?_⟩
  rw [unescape_eraseTags_printBody ragged hwords]
  decide +kernel

end Page
end PodManual
