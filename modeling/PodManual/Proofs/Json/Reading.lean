import Mathlib.Data.List.Basic
import PodManual.Proofs.Json.Grammar
import PodManual.Proofs.Text.Line

/-!
# Reading JSON

For each part of the grammar there are two facts: what is spelled is read, whatever may
follow it, and what is read was spelled.  The first needs that a number is followed by
something that does not belong to it, and that the reader may go as deep as the text is
long.

Main statement: the reader accepts the texts of the grammar and no others, and gives the
value that they spell; so a text spells at most one value.
-/

namespace PodManual
namespace Json

theorem enclosed_append (opening closing : Char) (t rest : Text) :
    enclosed opening closing t ++ rest = opening :: (t ++ closing :: rest) := by
  rw [enclosed, List.cons_append, List.append_assoc, List.singleton_append]

/-!
## White space
-/

theorem skip_append {gap : Text} (h : gap.all isSpace = true) (t : Text) :
    skip (gap ++ t) = skip t := by
  apply List.dropWhile_append_of_pos
  intro c hc
  exact List.all_eq_true.mp h c hc

theorem skip_cons {c : Char} (h : isSpace c = false) (t : Text) : skip (c :: t) = c :: t := by
  rw [skip, List.dropWhile_cons_of_neg (by simp [h])]

theorem exists_eq_append_skip (t : Text) :
    exists gap, gap.all isSpace = true ∧ t = gap ++ skip t :=
  ⟨t.takeWhile isSpace, List.all_takeWhile, List.takeWhile_append_dropWhile.symm⟩

/-!
## Numbers
-/

theorem isNumeralChar_of_isDigits {t : Text} (h : isDigits t = true) :
    t.all isNumeralChar = true := by
  simp only [isDigits, Bool.and_eq_true, List.all_eq_true] at h
  apply List.all_eq_true.mpr
  intro c hc
  simp [isNumeralChar, h.right c hc]

theorem isNumeralChar_of_unsigned {signs : List Char} {t : Text}
    (hsigns : signs.all isNumeralChar = true)
    (h : (unsigned signs t).all isNumeralChar = true) : t.all isNumeralChar = true := by
  cases t with
  | nil => rfl
  | cons c rest =>
      by_cases hc : c ∈ signs
      · rw [unsigned, if_pos hc] at h
        rw [List.all_cons, List.all_eq_true.mp hsigns c hc, h, Bool.and_self]
      · rwa [unsigned, if_neg hc] at h

theorem isNumeralChar_of_isExponent {t : Text} (h : isExponent t = true) :
    t.all isNumeralChar = true := by
  cases t with
  | nil => rfl
  | cons c rest =>
      simp only [isExponent, Bool.and_eq_true, Bool.or_eq_true, beq_iff_eq] at h
      have hrest : rest.all isNumeralChar = true :=
        isNumeralChar_of_unsigned (by decide) (isNumeralChar_of_isDigits h.right)
      rcases h.left with rfl | rfl
      · rw [List.all_cons, hrest]
        rfl
      · rw [List.all_cons, hrest]
        rfl

theorem all_of_takeWhile_dropWhile {p q : Char -> Bool} {t : Text}
    (htake : (t.takeWhile p).all q = true) (hdrop : (t.dropWhile p).all q = true) :
    t.all q = true := by
  rw [← List.takeWhile_append_dropWhile (p := p) (l := t), List.all_append, htake, hdrop]
  rfl

theorem isNumeralChar_of_isFraction {t : Text} (h : isFraction t = true) :
    t.all isNumeralChar = true := by
  unfold isFraction at h
  split at h
  · rename_i rest
    simp only [Bool.and_eq_true] at h
    have hrest := all_of_takeWhile_dropWhile (isNumeralChar_of_isDigits h.left)
      (isNumeralChar_of_isExponent h.right)
    rw [List.all_cons, hrest]
    rfl
  · exact isNumeralChar_of_isExponent h

theorem isNumeralChar_of_number? {t : Text} {v : Json} (h : number? t = some v) :
    t.all isNumeralChar = true := by
  unfold number? at h
  split at h
  · rename_i hwhole
    simp only [isWhole, Bool.and_eq_true] at hwhole
    exact isNumeralChar_of_unsigned (by decide) (isNumeralChar_of_isDigits hwhole.left)
  · split at h
    · rename_i hnumeral
      simp only [isNumeral, isWhole, Bool.and_eq_true] at hnumeral
      exact isNumeralChar_of_unsigned (by decide)
        (all_of_takeWhile_dropWhile (isNumeralChar_of_isDigits hnumeral.left.left)
          (isNumeralChar_of_isFraction hnumeral.right))
    · cases h

theorem head_of_number? {t : Text} {v : Json} (h : number? t = some v) :
    exists c rest, t = c :: rest ∧ (c = '-' ∨ c.isDigit = true) := by
  cases t with
  | nil => simp [number?, isNumeral, unsigned, isWhole, isDigits] at h
  | cons c rest =>
      refine ⟨c, rest, rfl, ?_⟩
      by_cases hsign : c = '-'
      · exact Or.inl hsign
      · right
        by_contra hdigit
        have hunsigned : unsigned ['-'] (c :: rest) = c :: rest := by simp [unsigned, hsign]
        simp [number?, isNumeral, hunsigned, isWhole, isDigits, hdigit] at h

theorem ne_of_numeralHead {c d : Char} (hc : c = '-' ∨ c.isDigit = true)
    (hd : d ≠ '-' ∧ d.isDigit = false) : c ≠ d := by
  intro heq
  rw [heq] at hc
  rcases hc with hminus | hdigit
  · exact hd.left hminus
  · rw [hd.right] at hdigit
    cases hdigit

/-!
## Texts
-/

theorem unit?_append {digits : Text} {n : Nat} (h : unit? digits = some (n, []))
    (rest : Text) : unit? (digits ++ rest) = some (n, rest) := by
  unfold unit? at h
  split at h
  · split at h
    · rename_i ha hb hc hd
      cases h
      simp [unit?, ha, hb, hc, hd]
    · cases h
  · cases h

theorem exists_of_unit? {t rest : Text} {n : Nat} (h : unit? t = some (n, rest)) :
    exists digits, unit? digits = some (n, []) ∧ t = digits ++ rest := by
  unfold unit? at h
  split at h
  · rename_i a b c d rest'
    split at h
    · rename_i ha hb hc hd
      cases h
      exact ⟨[a, b, c, d], by simp [unit?, ha, hb, hc, hd], rfl⟩
    · cases h
  · cases h

theorem ofCode?_of_pair {high low : Nat} {c : Char} (h : ofPair? high low = some c) :
    ofCode? high = none := by
  unfold ofPair? at h
  split at h
  · rename_i hrange
    rw [ofCode?, if_neg]
    intro hvalid
    rcases hvalid with hlow | hhigh
    · omega
    · omega
  · cases h

theorem character?_append {c : Char} {s : Text} (h : CharSpelled c s) (rest : Text) :
    character? (s ++ rest) = some (c, rest) := by
  cases h with
  | plain hplain =>
      have hne : c ≠ '\\' := by
        intro hc
        rw [hc] at hplain
        exact absurd hplain (by decide)
      rw [List.singleton_append, character?, if_neg hne, if_pos hplain]
  | short hlookup =>
      rename_i mark
      have hne : mark ≠ 'u' := by
        intro hmark
        rw [hmark] at hlookup
        cases hlookup
      change escape? (mark :: rest) = _
      rw [escape?, if_neg hne, hlookup]
      rfl
  | unit hunit hcode =>
      change codePoint? (_ ++ rest) = _
      simp only [codePoint?, unit?_append hunit, hcode]
  | pair hfirst hsecond hpair =>
      rename_i first second high low
      have hafter : Text.after? "\\u".toList ('\\' :: 'u' :: second ++ rest) =
          some (second ++ rest) := Text.after?_append "\\u".toList _
      change codePoint? (first ++ '\\' :: 'u' :: second ++ rest) = _
      rw [List.append_assoc]
      simp only [codePoint?, unit?_append hfirst, ofCode?_of_pair hpair, hafter,
        Option.bind_some, unit?_append hsecond, hpair, Option.map_some]

theorem exists_of_codePoint? {t rest : Text} {c : Char}
    (h : codePoint? t = some (c, rest)) :
    exists s, CharSpelled c ('\\' :: 'u' :: s) ∧ t = s ++ rest := by
  unfold codePoint? at h
  split at h
  · cases h
  · rename_i n later hunit
    rcases exists_of_unit? hunit with ⟨digits, hdigits, hsplit⟩
    split at h
    · rename_i d hcode
      cases h
      exact ⟨digits, .unit hdigits hcode, hsplit⟩
    · split at h
      · cases h
      · rename_i low last hlow
        rcases Option.bind_eq_some_iff.mp hlow with ⟨between, hafter, hsecond⟩
        rcases exists_of_unit? hsecond with ⟨others, hothers, hbetween⟩
        rcases Option.map_eq_some_iff.mp h with ⟨d, hpair, heq⟩
        cases heq
        refine ⟨digits ++ '\\' :: 'u' :: others, .pair hdigits hothers hpair, ?_⟩
        rw [hsplit, Text.eq_append_of_after? hafter, hbetween, List.append_assoc]
        rfl

theorem exists_of_character? {t rest : Text} {c : Char}
    (h : character? t = some (c, rest)) :
    exists s, CharSpelled c s ∧ t = s ++ rest := by
  cases t with
  | nil => cases h
  | cons d t =>
      rw [character?] at h
      split at h
      · rename_i hd
        rw [hd]
        cases t with
        | nil => cases h
        | cons mark t =>
            rw [escape?] at h
            split at h
            · rename_i hmark
              rcases exists_of_codePoint? h with ⟨s, hspelled, hsplit⟩
              exact ⟨'\\' :: 'u' :: s, hspelled, by rw [hmark, hsplit]; rfl⟩
            · rcases Option.map_eq_some_iff.mp h with ⟨e, hlookup, heq⟩
              cases heq
              exact ⟨['\\', mark], .short hlookup, rfl⟩
      · split at h
        · rename_i hplain
          cases h
          exact ⟨[c], .plain hplain, rfl⟩
        · cases h

theorem CharSpelled.head_ne {c : Char} {s : Text} (h : CharSpelled c s) :
    s ≠ [] ∧ s.head? ≠ some '\x22' := by
  cases h with
  | plain hplain =>
      constructor
      · simp
      · intro hhead
        rw [Option.some.inj hhead] at hplain
        exact absurd hplain (by decide)
  | short hlookup => exact ⟨by simp, by simp⟩
  | unit hunit hcode => exact ⟨by simp, by simp⟩
  | pair hfirst hsecond hpair => exact ⟨by simp, by simp⟩

theorem characters?_append {t s : Text} (h : TextSpelled t s) (rest : Text) {bound : Nat}
    (hbound : s.length < bound) :
    characters? bound (s ++ '\x22' :: rest) = some (t, rest) := by
  induction h generalizing bound with
  | nil =>
      cases bound with
      | zero => cases hbound
      | succ bound => rfl
  | cons hc ht ih =>
      rename_i c t s spelled
      rcases hc.head_ne with ⟨hne, hhead⟩
      cases bound with
      | zero => cases hbound
      | succ bound =>
          have hlength : spelled.length < bound := by
            have hpos := List.length_pos_of_ne_nil hne
            rw [List.length_append] at hbound
            omega
          have hquote : (s ++ (spelled ++ '\x22' :: rest)).head? ≠ some '\x22' := by
            rwa [List.head?_append_of_ne_nil _ hne]
          rw [characters?, List.append_assoc, if_neg hquote, character?_append hc]
          simp only [ih hlength, Option.map_some]

theorem exists_of_characters? {bound : Nat} {t s rest : Text}
    (h : characters? bound s = some (t, rest)) :
    exists spelled, TextSpelled t spelled ∧ s = spelled ++ '\x22' :: rest := by
  induction bound generalizing t s rest with
  | zero => cases h
  | succ bound ih =>
      rw [characters?] at h
      split at h
      · rename_i hhead
        cases h
        exact ⟨[], .nil, List.eq_cons_of_mem_head? hhead⟩
      · split at h
        · cases h
        · rename_i c later hc
          rcases exists_of_character? hc with ⟨front, hfront, hsplit⟩
          rcases Option.map_eq_some_iff.mp h with ⟨found, hfound, heq⟩
          cases heq
          rcases ih hfound with ⟨spelled, hspelled, hlater⟩
          refine ⟨front ++ spelled, .cons hfront hspelled, ?_⟩
          rw [hsplit, hlater, List.append_assoc]

theorem string?_append {t s : Text} (h : TextSpelled t s) (rest : Text) :
    string? (s ++ '\x22' :: rest) = some (t, rest) := by
  apply characters?_append h
  rw [List.length_append]
  omega

/-!
## Literals and numbers
-/

/-- The text goes on with something that is not part of a numeral. -/
def EndsNumeral (rest : Text) : Prop :=
  forall c, rest.head? = some c -> isNumeralChar c = false

theorem EndsNumeral.space_append {gap rest : Text} (hgap : gap.all isSpace = true)
    (h : EndsNumeral rest) : EndsNumeral (gap ++ rest) := by
  cases gap with
  | nil => exact h
  | cons d gap =>
      intro c hc
      rw [← Option.some.inj hc]
      have hspace : isSpace d = true := by
        rw [List.all_cons, Bool.and_eq_true] at hgap
        exact hgap.left
      simp only [isSpace, Bool.or_eq_true, beq_iff_eq] at hspace
      rcases hspace with ((rfl | rfl) | rfl) | rfl <;> rfl

theorem endsNumeral_cons {c : Char} (h : isNumeralChar c = false) (rest : Text) :
    EndsNumeral (c :: rest) := by
  intro d hd
  cases hd
  exact h

theorem scalar?_literal {word : Text} {v : Json} (h : (word, v) ∈ literals) (rest : Text) :
    scalar? (word ++ rest) = some (v, rest) := by
  simp only [literals, List.mem_cons, List.not_mem_nil, or_false, Prod.mk.injEq] at h
  rcases h with ⟨rfl, rfl⟩ | ⟨rfl, rfl⟩ | ⟨rfl, rfl⟩
  · rfl
  · rfl
  · rfl

theorem scalar?_of_head {c : Char} (h : c ≠ 'n' ∧ c ≠ 't' ∧ c ≠ 'f') (t : Text) :
    scalar? (c :: t) = (number? ((c :: t).takeWhile isNumeralChar)).map
      fun v => (v, (c :: t).dropWhile isNumeralChar) := by
  have hnone : (literals.findSome? fun named =>
      (Text.after? named.1 (c :: t)).map fun rest => (named.2, rest)) = none := by
    simp [literals, Text.after?, h.left.symm, h.right.left.symm, h.right.right.symm]
  simp only [scalar?, hnone]

theorem scalar?_number {t : Text} {v : Json} (h : number? t = some v) {rest : Text}
    (hrest : EndsNumeral rest) : scalar? (t ++ rest) = some (v, rest) := by
  have hall : forall c, c ∈ t -> isNumeralChar c = true :=
    List.all_eq_true.mp (isNumeralChar_of_number? h)
  rcases Text.takeWhile_dropWhile_append hall hrest with ⟨htake, hdrop⟩
  rcases head_of_number? h with ⟨c, t, rfl, hhead⟩
  have hletter : c ≠ 'n' ∧ c ≠ 't' ∧ c ≠ 'f' :=
    ⟨ne_of_numeralHead hhead (by decide), ne_of_numeralHead hhead (by decide),
      ne_of_numeralHead hhead (by decide)⟩
  rw [List.cons_append] at htake hdrop ⊢
  rw [scalar?_of_head hletter, htake, hdrop, h]
  rfl

theorem spelled_of_scalar? {t rest : Text} {v : Json} (h : scalar? t = some (v, rest)) :
    exists front, Spelled (.value v) front ∧ t = front ++ rest := by
  unfold scalar? at h
  split at h
  · rename_i found hfound
    cases h
    rcases List.exists_of_findSome?_eq_some hfound with ⟨named, hmem, hnamed⟩
    rcases Option.map_eq_some_iff.mp hnamed with ⟨later, hafter, heq⟩
    cases heq
    exact ⟨named.1, .literal hmem, Text.eq_append_of_after? hafter⟩
  · rcases Option.map_eq_some_iff.mp h with ⟨w, hnumber, heq⟩
    cases heq
    exact ⟨_, .number hnumber, List.takeWhile_append_dropWhile.symm⟩

/-!
## Arrays and objects
-/

section

variable {α : Type} {element : Text -> Option (α × Text)} {closing : Char}

theorem length_le_joinWith (pieces : List Text) :
    pieces.length ≤ (Text.joinWith [','] pieces).length + 1 := by
  induction pieces with
  | nil => exact Nat.zero_le _
  | cons piece rest ih =>
      cases rest with
      | nil => simp
      | cons next more =>
          rw [Text.joinWith_cons_of_ne_nil _ _ (List.cons_ne_nil next more)]
          simp only [List.length_cons, List.length_append, List.length_nil] at ih ⊢
          omega

theorem length_piece_le_joinWith {piece : Text} {pieces : List Text} (h : piece ∈ pieces) :
    piece.length ≤ (Text.joinWith [','] pieces).length := by
  induction pieces with
  | nil => cases h
  | cons first rest ih =>
      cases rest with
      | nil =>
          rw [List.mem_singleton.mp h]
          exact Nat.le_refl _
      | cons next more =>
          rw [Text.joinWith_cons_of_ne_nil _ _ (List.cons_ne_nil next more)]
          simp only [List.length_append]
          rcases List.mem_cons.mp h with rfl | hrest
          · omega
          · have hle := ih hrest
            omega

theorem elements?_joinWith {pieces : List (α × Text)} (hne : pieces ≠ [])
    (hread : forall piece, piece ∈ pieces -> forall rest, EndsNumeral rest ->
      element (piece.2 ++ rest) = some (piece.1, skip rest))
    (hclosing : closing ≠ ',' ∧ isSpace closing = false ∧ isNumeralChar closing = false)
    (rest : Text) {bound : Nat} (hbound : pieces.length ≤ bound) :
    elements? element closing bound
      (Text.joinWith [','] (pieces.map Prod.snd) ++ closing :: rest) =
        some (pieces.map Prod.fst, rest) := by
  induction pieces generalizing bound with
  | nil => exact absurd rfl hne
  | cons piece more ih =>
      cases bound with
      | zero => cases hbound
      | succ bound =>
          have hfirst := hread piece List.mem_cons_self
          cases more with
          | nil =>
              have hlast := hfirst (closing :: rest) (endsNumeral_cons hclosing.right.right rest)
              rw [skip_cons hclosing.right.left] at hlast
              simp only [List.map_cons, List.map_nil, Text.joinWith, elements?, hlast,
                if_neg hclosing.left, if_true]
          | cons next others =>
              have hcomma := hfirst (',' :: (Text.joinWith [',']
                ((next :: others).map Prod.snd) ++ closing :: rest))
                (endsNumeral_cons rfl _)
              rw [skip_cons rfl] at hcomma
              have hmore := ih (List.cons_ne_nil next others)
                (fun other hother => hread other (List.mem_cons_of_mem _ hother))
                (Nat.le_of_succ_le_succ hbound)
              rw [List.map_cons, Text.joinWith_cons_of_ne_nil _ _ (by simp), elements?,
                List.append_assoc, List.append_assoc, List.singleton_append, hcomma]
              simp only [if_true]
              rw [hmore]
              rfl

theorem collection?_joinWith {pieces : List (α × Text)} (hne : pieces ≠ [])
    (hread : forall piece, piece ∈ pieces -> forall rest, EndsNumeral rest ->
      element (piece.2 ++ rest) = some (piece.1, skip rest))
    (hclosing : closing ≠ ',' ∧ isSpace closing = false ∧ isNumeralChar closing = false)
    (hclosed : forall t, (skip t).head? = some closing -> element t = none) (rest : Text) :
    collection? element closing
      (Text.joinWith [','] (pieces.map Prod.snd) ++ closing :: rest) =
        some (pieces.map Prod.fst, rest) := by
  have hbound : pieces.length ≤
      (Text.joinWith [','] (pieces.map Prod.snd) ++ closing :: rest).length + 1 := by
    have hle := length_le_joinWith (pieces.map Prod.snd)
    simp only [List.length_map, List.length_append] at hle ⊢
    omega
  have helements := elements?_joinWith hne hread hclosing rest hbound
  rw [collection?, if_neg]
  · exact helements
  · intro hhead
    rw [elements?, hclosed _ hhead] at helements
    cases helements

theorem collection?_gap (hclosing : isSpace closing = false) {gap : Text}
    (hgap : gap.all isSpace = true) (rest : Text) :
    collection? element closing (gap ++ closing :: rest) = some ([], rest) := by
  rw [collection?, skip_append hgap, skip_cons hclosing, if_pos List.head?_cons]
  rfl

theorem exists_of_elements? {spelled : α -> Text -> Prop}
    (helement : forall t a rest, element t = some (a, rest) ->
      exists front, spelled a front ∧ t = front ++ rest)
    {bound : Nat} {t rest : Text} {found : List α}
    (h : elements? element closing bound t = some (found, rest)) :
    exists pieces : List (α × Text), pieces ≠ [] ∧ pieces.map Prod.fst = found ∧
      (forall piece, piece ∈ pieces -> spelled piece.1 piece.2) ∧
      t = Text.joinWith [','] (pieces.map Prod.snd) ++ closing :: rest := by
  induction bound generalizing t found with
  | zero => cases h
  | succ bound ih =>
      rw [elements?] at h
      split at h
      · cases h
      · cases h
      · rename_i a c later hfirst
        rcases helement t a _ hfirst with ⟨front, hfront, hsplit⟩
        split at h
        · rename_i hcomma
          rcases Option.map_eq_some_iff.mp h with ⟨others, hothers, heq⟩
          cases heq
          rcases ih hothers with ⟨pieces, hne, hmap, hspelled, hlater⟩
          refine ⟨(a, front) :: pieces, List.cons_ne_nil _ _, ?_, ?_, ?_⟩
          · rw [List.map_cons, hmap]
          · intro piece hpiece
            rcases List.mem_cons.mp hpiece with rfl | hmem
            · exact hfront
            · exact hspelled piece hmem
          · rw [List.map_cons, Text.joinWith_cons_of_ne_nil _ _ (by simpa using hne), hsplit,
              hcomma, hlater, List.append_assoc, List.append_assoc]
            rfl
        · split at h
          · rename_i hclosing
            cases h
            refine ⟨[(a, front)], List.cons_ne_nil _ _, rfl, ?_, ?_⟩
            · intro piece hpiece
              rw [List.mem_singleton.mp hpiece]
              exact hfront
            · rw [hsplit, hclosing]
              rfl
          · cases h

theorem exists_of_collection? {spelled : α -> Text -> Prop}
    (helement : forall t a rest, element t = some (a, rest) ->
      exists front, spelled a front ∧ t = front ++ rest)
    {t rest : Text} {found : List α} (h : collection? element closing t = some (found, rest)) :
    (found = [] ∧ exists gap, gap.all isSpace = true ∧ t = gap ++ closing :: rest) ∨
    (exists pieces : List (α × Text), pieces ≠ [] ∧ pieces.map Prod.fst = found ∧
      (forall piece, piece ∈ pieces -> spelled piece.1 piece.2) ∧
      t = Text.joinWith [','] (pieces.map Prod.snd) ++ closing :: rest) := by
  unfold collection? at h
  split at h
  · rename_i hhead
    cases h
    rcases exists_eq_append_skip t with ⟨gap, hgap, hsplit⟩
    refine Or.inl ⟨rfl, gap, hgap, ?_⟩
    rwa [List.eq_cons_of_mem_head? hhead] at hsplit
  · exact Or.inr (exists_of_elements? helement h)

end

/-!
## Values
-/

theorem value?_append {gap : Text} (h : gap.all isSpace = true) (depth : Nat) (t : Text) :
    value? depth (gap ++ t) = value? depth t := by
  cases depth with
  | zero => rfl
  | succ depth => rw [value?, value?, skip_append h]

theorem member?_append {gap : Text} (h : gap.all isSpace = true)
    (value : Text -> Option (Json × Text)) (t : Text) :
    member? value (gap ++ t) = member? value t := by
  rw [member?, member?, skip_append h]

theorem value?_of_bare? {c : Char} {t rest : Text} {v : Json} {depth : Nat}
    (hc : isSpace c = false) (h : bare? (value? depth) (c :: t) = some (v, rest)) :
    value? (depth + 1) (c :: t) = some (v, skip rest) := by
  rw [value?, skip_cons hc, h]
  rfl

def isScalarHead (c : Char) : Bool :=
  c != '\x22' && c != '[' && c != '\x7b'

theorem bare?_of_scalarHead {c : Char} (h : isScalarHead c = true)
    (value : Text -> Option (Json × Text)) (t : Text) :
    bare? value (c :: t) = scalar? (c :: t) := by
  simp only [isScalarHead, Bool.and_eq_true, bne_iff_ne, ne_eq] at h
  rw [bare?, if_neg h.left.left, if_neg h.left.right, if_neg h.right]

/-- No value begins with the end of an array. -/
theorem value?_closed {t : Text} (h : (skip t).head? = some ']') (depth : Nat) :
    value? depth t = none := by
  cases depth with
  | zero => rfl
  | succ depth =>
      rw [value?, List.eq_cons_of_mem_head? h, bare?_of_scalarHead rfl,
        scalar?_of_head (by decide)]
      rfl

theorem member?_closed {t : Text} (h : (skip t).head? = some '\x7d')
    (value : Text -> Option (Json × Text)) : member? value t = none := by
  rw [member?, if_neg]
  rw [h]
  decide

/-- The reader finds what is spelled when it comes to it, whatever follows. -/
def Form.IsRead : Form -> Text -> Prop
  | .value v, t => forall depth rest, t.length < depth -> EndsNumeral rest ->
      value? depth (t ++ rest) = some (v, skip rest)
  | .member named, t => forall depth rest, t.length < depth -> EndsNumeral rest ->
      member? (value? depth) (t ++ rest) = some (named, skip rest)

theorem Form.IsRead.padded {form : Form} {before t after : Text}
    (hbefore : before.all isSpace = true) (hafter : after.all isSpace = true)
    (h : form.IsRead t) : form.IsRead (before ++ t ++ after) := by
  have hlength : t.length ≤ (before ++ t ++ after).length := by
    simp only [List.length_append]
    omega
  cases form with
  | value v =>
      intro depth rest hdepth hrest
      rw [List.append_assoc, List.append_assoc, value?_append hbefore,
        h depth _ (Nat.lt_of_le_of_lt hlength hdepth) (hrest.space_append hafter),
        skip_append hafter]
  | member named =>
      intro depth rest hdepth hrest
      rw [List.append_assoc, List.append_assoc, member?_append hbefore,
        h depth _ (Nat.lt_of_le_of_lt hlength hdepth) (hrest.space_append hafter),
        skip_append hafter]

theorem isRead_of_scalar? {t : Text} {v : Json}
    (hhead : exists c rest, t = c :: rest ∧ isSpace c = false ∧ isScalarHead c = true)
    (h : forall rest, EndsNumeral rest -> scalar? (t ++ rest) = some (v, rest)) :
    (Form.value v).IsRead t := by
  intro depth rest hdepth hrest
  rcases hhead with ⟨c, t, rfl, hspace, hscalar⟩
  cases depth with
  | zero => cases hdepth
  | succ depth =>
      apply value?_of_bare? hspace
      rw [bare?_of_scalarHead hscalar]
      exact h rest hrest

theorem isRead_of_enclosed {opening closing : Char} {t : Text} {v : Json}
    (hopening : isSpace opening = false)
    (h : forall depth rest, t.length < depth ->
      bare? (value? depth) (opening :: (t ++ closing :: rest)) = some (v, rest)) :
    (Form.value v).IsRead (enclosed opening closing t) := by
  intro depth rest hdepth _
  rw [enclosed, List.length_cons, List.length_append, List.length_singleton] at hdepth
  cases depth with
  | zero => cases hdepth
  | succ depth =>
      rw [enclosed_append]
      apply value?_of_bare? hopening
      exact h depth rest (by omega)

-- The induction is on the spelling.  In an array or object every element is shorter than
-- the whole, so the depth that is left is enough for each of them.
theorem Spelled.isRead {form : Form} {t : Text} (h : Spelled form t) : form.IsRead t := by
  induction h with
  | padded hbefore hafter h ih => exact ih.padded hbefore hafter
  | literal hmem =>
      apply isRead_of_scalar?
      · simp only [literals, List.mem_cons, List.not_mem_nil, or_false, Prod.mk.injEq] at hmem
        rcases hmem with ⟨rfl, rfl⟩ | ⟨rfl, rfl⟩ | ⟨rfl, rfl⟩
        · exact ⟨'n', _, rfl, rfl, rfl⟩
        · exact ⟨'t', _, rfl, rfl, rfl⟩
        · exact ⟨'f', _, rfl, rfl, rfl⟩
      · intro rest _
        exact scalar?_literal hmem rest
  | number hnumber =>
      apply isRead_of_scalar?
      · rcases head_of_number? hnumber with ⟨c, rest, rfl, hhead⟩
        have hne := fun d => ne_of_numeralHead (d := d) hhead
        exact ⟨c, rest, rfl, by simp [isSpace, hne], by simp [isScalarHead, hne]⟩
      · intro rest hrest
        exact scalar?_number hnumber hrest
  | string hspelled =>
      apply isRead_of_enclosed rfl
      intro depth rest _
      rw [bare?, if_pos rfl, string?_append hspelled]
      rfl
  | emptyArray hgap =>
      apply isRead_of_enclosed rfl
      intro depth rest _
      change Option.map _ (collection? (value? depth) ']' _) = _
      rw [collection?_gap rfl hgap]
      rfl
  | array hne hpieces ih =>
      apply isRead_of_enclosed rfl
      intro depth rest hdepth
      change Option.map _ (collection? (value? depth) ']' _) = _
      rw [collection?_joinWith hne ?_ (by decide) (fun t ht => value?_closed ht depth)]
      · rfl
      · intro piece hpiece later hlater
        have hle := length_piece_le_joinWith (List.mem_map_of_mem (f := Prod.snd) hpiece)
        exact ih piece hpiece depth later (Nat.lt_of_le_of_lt hle hdepth) hlater
  | member hname hgap hvalue ih =>
      rename_i name s gap t v
      intro depth rest hdepth hrest
      have htext : enclosed '\x22' '\x22' s ++ gap ++ ':' :: t ++ rest =
          '\x22' :: (s ++ '\x22' :: (gap ++ ':' :: (t ++ rest))) := by
        simp [enclosed_append]
      have hlength : t.length < depth := by
        simp only [List.length_append, List.length_cons] at hdepth
        omega
      rw [htext, member?, skip_cons rfl, if_pos List.head?_cons, List.tail_cons,
        string?_append hname]
      simp only [skip_append hgap, skip_cons (c := ':') rfl, List.head?_cons, if_true,
        List.tail_cons, ih depth rest hlength hrest, Option.map_some]
  | emptyObject hgap =>
      apply isRead_of_enclosed rfl
      intro depth rest _
      change Option.map _ (collection? (member? (value? depth)) '\x7d' _) = _
      rw [collection?_gap rfl hgap]
      rfl
  | object hne hpieces ih =>
      apply isRead_of_enclosed rfl
      intro depth rest hdepth
      change Option.map _ (collection? (member? (value? depth)) '\x7d' _) = _
      rw [collection?_joinWith hne ?_ (by decide) (fun t ht => member?_closed ht _)]
      · rfl
      · intro piece hpiece later hlater
        have hle := length_piece_le_joinWith (List.mem_map_of_mem (f := Prod.snd) hpiece)
        exact ih piece hpiece depth later (Nat.lt_of_le_of_lt hle hdepth) hlater

section

variable {value : Text -> Option (Json × Text)}

theorem spelled_of_member?
    (hvalue : forall t v rest, value t = some (v, rest) ->
      exists front, Spelled (.value v) front ∧ t = front ++ rest)
    {t rest : Text} {named : Text × Json} (h : member? value t = some (named, rest)) :
    exists front, Spelled (.member named) front ∧ t = front ++ rest := by
  rcases exists_eq_append_skip t with ⟨before, hbefore, ht⟩
  unfold member? at h
  split at h
  · rename_i hquote
    split at h
    · cases h
    · rename_i name later hname
      rcases exists_of_characters? hname with ⟨s, hs, htail⟩
      rcases exists_eq_append_skip later with ⟨gap, hgap, hlater⟩
      split at h
      · rename_i hcolon
        rcases Option.map_eq_some_iff.mp h with ⟨found, hfound, heq⟩
        cases heq
        rcases hvalue _ _ _ hfound with ⟨front, hfront, hsplit⟩
        have hnone : ([] : Text).all isSpace = true := rfl
        refine ⟨_, (Spelled.member hs hgap hfront).padded hbefore hnone, ?_⟩
        rw [ht, List.eq_cons_of_mem_head? hquote, htail, hlater,
          List.eq_cons_of_mem_head? hcolon, hsplit]
        simp [enclosed_append]
      · cases h
  · cases h

theorem spelled_of_bare?
    (hvalue : forall t v rest, value t = some (v, rest) ->
      exists front, Spelled (.value v) front ∧ t = front ++ rest)
    {t rest : Text} {v : Json} (h : bare? value t = some (v, rest)) :
    exists front, Spelled (.value v) front ∧ t = front ++ rest := by
  cases t with
  | nil => cases h
  | cons c t =>
      rw [bare?] at h
      split at h
      · rename_i hc
        rcases Option.map_eq_some_iff.mp h with ⟨found, hfound, heq⟩
        cases heq
        rcases exists_of_characters? hfound with ⟨s, hs, hsplit⟩
        exact ⟨_, .string hs, by rw [hc, hsplit, enclosed_append]⟩
      · split at h
        · rename_i hc
          rcases Option.map_eq_some_iff.mp h with ⟨found, hfound, heq⟩
          cases heq
          rcases exists_of_collection? hvalue hfound with
            ⟨hnil, gap, hgap, hsplit⟩ | ⟨pieces, hne, hmap, hpieces, hsplit⟩
          · rw [hnil]
            exact ⟨_, .emptyArray hgap, by rw [hc, hsplit, enclosed_append]⟩
          · rw [← hmap]
            exact ⟨_, .array hne hpieces, by rw [hc, hsplit, enclosed_append]⟩
        · split at h
          · rename_i hc
            rcases Option.map_eq_some_iff.mp h with ⟨found, hfound, heq⟩
            cases heq
            have hmember : forall t named rest, member? value t = some (named, rest) ->
                exists front, Spelled (.member named) front ∧ t = front ++ rest :=
              fun t named rest => spelled_of_member? hvalue
            rcases exists_of_collection? hmember hfound with
              ⟨hnil, gap, hgap, hsplit⟩ | ⟨pieces, hne, hmap, hpieces, hsplit⟩
            · rw [hnil]
              exact ⟨_, .emptyObject hgap, by rw [hc, hsplit, enclosed_append]⟩
            · rw [← hmap]
              exact ⟨_, .object hne hpieces, by rw [hc, hsplit, enclosed_append]⟩
          · exact spelled_of_scalar? h

end

-- The induction is on the depth: the elements of an array or object are read one level
-- further down.
theorem spelled_of_value? {depth : Nat} {t rest : Text} {v : Json}
    (h : value? depth t = some (v, rest)) :
    exists front, Spelled (.value v) front ∧ t = front ++ rest := by
  induction depth generalizing t v rest with
  | zero => cases h
  | succ depth ih =>
      rw [value?] at h
      rcases Option.map_eq_some_iff.mp h with ⟨found, hfound, heq⟩
      cases heq
      rcases spelled_of_bare? (fun t v rest => ih) hfound with ⟨front, hfront, hsplit⟩
      rcases exists_eq_append_skip t with ⟨before, hbefore, ht⟩
      rcases exists_eq_append_skip found.2 with ⟨after, hafter, hrest⟩
      refine ⟨_, hfront.padded hbefore hafter, ?_⟩
      rw [List.append_assoc, List.append_assoc, ← hrest, ← hsplit]
      exact ht

/-- The reader gives the value that a text spells, and refuses every text that spells
none. -/
theorem read?_eq_some_iff {t : Text} {v : Json} :
    read? t = some v <-> Spelled (.value v) t := by
  constructor
  · intro h
    unfold read? at h
    split at h
    · rename_i w hvalue
      cases h
      rcases spelled_of_value? hvalue with ⟨front, hfront, hsplit⟩
      rw [List.append_nil] at hsplit
      rwa [hsplit]
    · cases h
  · intro h
    have hvalue := h.isRead (t.length + 1) [] (Nat.lt_succ_self _) (fun c hc => by cases hc)
    rw [List.append_nil] at hvalue
    unfold read?
    rw [hvalue]
    rfl

example : read? " [1, \"\\ud83d\\ude00\", -2.5e3, \x7b\"a\": []\x7d]".toList =
    some (.array [.integer 1, .string ['😀'], .decimal "-2.5e3".toList,
      .object [(['a'], .array [])]]) := by
  rfl

example : read? "[01]".toList = none ∧ read? "[1,]".toList = none ∧
    read? "\"\n\"".toList = none :=
  ⟨rfl, rfl, rfl⟩

end Json
end PodManual
