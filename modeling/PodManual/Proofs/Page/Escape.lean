import PodManual.Proofs.Page.Printed
import PodManual.Proofs.Text.Respell

/-!
# Escaping in passes, and back

The text of a page can be made in five passes over the whole text, one for each
character with a meaning in markup.  The ampersand has to go first, since every entity
begins with one.  The entities are decoded from left to right, which gives every text
back.
-/

namespace PodManual

namespace Page

/-!
## The five passes
-/

/-- The passes that make text of a page, in their order. -/
def escapePasses : List (Char × Text) :=
  [('&', "&amp;".toList), ('<', "&lt;".toList), ('>', "&gt;".toList),
    ('\x22', "&quot;".toList), ('\x27', "&#x27;".toList)]

theorem escapeChar_eq_lookup (c : Char) :
    escapeChar c = (escapePasses.lookup c).getD [c] := by
  by_cases hspecial : c ∈ '&' :: markupChars
  · simp only [markupChars, List.mem_cons, List.not_mem_nil, or_false] at hspecial
    rcases hspecial with rfl | rfl | rfl | rfl | rfl <;> rfl
  · have hnone : escapePasses.lookup c = none := by
      apply List.lookup_eq_none_iff.mpr
      intro pass hpass
      apply bne_iff_ne.mpr
      rintro rfl
      exact hspecial (List.mem_map_of_mem (f := Prod.fst) hpass)
    rw [escapeChar_of_notMem hspecial, hnone]
    rfl

theorem respellInTurn_escapePasses (t : Text) :
    Text.respellInTurn escapePasses t = escape t := by
  rw [Text.respellInTurn_eq_flatMap (by decide)]
  apply List.flatMap_congr
  intro c _
  exact (escapeChar_eq_lookup c).symm

/-!
## Decoding
-/

def unescape : Text -> Text
  | '&' :: 'a' :: 'm' :: 'p' :: ';' :: rest => '&' :: unescape rest
  | '&' :: 'l' :: 't' :: ';' :: rest => '<' :: unescape rest
  | '&' :: 'g' :: 't' :: ';' :: rest => '>' :: unescape rest
  | '&' :: 'q' :: 'u' :: 'o' :: 't' :: ';' :: rest => '\x22' :: unescape rest
  | '&' :: '#' :: 'x' :: '2' :: '7' :: ';' :: rest => '\x27' :: unescape rest
  | c :: rest => c :: unescape rest
  | [] => []

theorem unescape_cons {c : Char} (h : c ≠ '&') (rest : Text) :
    unescape (c :: rest) = c :: unescape rest := by
  rw [unescape]
  all_goals exact fun _ heq _ => h heq

theorem unescape_escapeChar (c : Char) (rest : Text) :
    unescape (escapeChar c ++ rest) = c :: unescape rest := by
  by_cases hspecial : c ∈ '&' :: markupChars
  · simp only [markupChars, List.mem_cons, List.not_mem_nil, or_false] at hspecial
    rcases hspecial with rfl | rfl | rfl | rfl | rfl <;> rfl
  · rw [escapeChar_of_notMem hspecial]
    exact unescape_cons (List.ne_of_not_mem_cons hspecial) rest

theorem unescape_escape_append (t rest : Text) :
    unescape (escape t ++ rest) = t ++ unescape rest := by
  induction t with
  | nil => rfl
  | cons c t ih =>
      rw [escape_cons, List.append_assoc, unescape_escapeChar, ih, List.cons_append]

theorem unescape_append {t : Text} (h : '&' ∉ t) (rest : Text) :
    unescape (t ++ rest) = t ++ unescape rest := by
  induction t with
  | nil => rfl
  | cons c t ih =>
      rw [List.cons_append, unescape_cons (List.ne_of_not_mem_cons h).symm,
        ih (List.not_mem_of_not_mem_cons h), List.cons_append]

theorem unescape_escape (t : Text) : unescape (escape t) = t := by
  have happend := unescape_escape_append t []
  rwa [List.append_nil, unescape, List.append_nil] at happend

theorem escape_inj {s t : Text} : escape s = escape t <-> s = t := by
  constructor
  · intro h
    rw [← unescape_escape s, h, unescape_escape]
  · rintro rfl
    rfl

theorem anchor_inj {s t : Text} : anchor s = anchor t <-> s = t := by
  rw [anchor, anchor, List.append_cancel_left_eq, escape_inj]

end Page
end PodManual
