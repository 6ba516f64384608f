import PodManual.Proofs.Json.Reading
import PodManual.Proofs.Page.Printed
import PodManual.Report

/-!
# What a report spells

A report escapes the characters that may not stand between quotes, and puts every element
of an array or object on a line of its own; an array or object without elements has no
white space in it.

Main statement: a report spells the array of its records, each with its fields in order.
-/

namespace PodManual
namespace Report

def fieldJson : Field -> Json
  | .nothing => .null
  | .count n => .integer n
  | .text t => .string t
  | .texts ts => .array (ts.map .string)

def recordJson (fields : Record) : Json :=
  .object (fields.map fun named => (named.1, fieldJson named.2))

def json (records : List Record) : Json :=
  .array (records.map recordJson)

/-!
## Texts
-/

theorem hexValue?_digitChar {n : Nat} (h : n < 16) :
    Text.hexValue? (Nat.digitChar n) = some n := by
  revert n
  decide

theorem unit?_hexDigits {n : Nat} (h : n < 0x10000) :
    Json.unit? (Text.hexDigits 4 n) = some (n, []) := by
  have hvalue := fun m => hexValue?_digitChar (Nat.mod_lt m (by decide : 16 > 0))
  simp only [Text.hexDigits, List.nil_append, List.cons_append, Json.unit?, hvalue]
  congr 2
  omega

theorem ofCode?_toNat (c : Char) : Json.ofCode? c.toNat = some c := by
  have hvalid : c.toNat.isValidChar := c.valid
  rw [Json.ofCode?, if_pos hvalid, Char.ofNat_toNat]

def shortEscaped : List Char :=
  ['\x22', '\\', '\n', '\r', '\t', '\x08', '\x0C']

theorem escapedChar_of_mem {c : Char} (h : c ∈ shortEscaped) :
    exists mark, Json.shortEscapes.lookup mark = some c ∧ escapedChar c = ['\\', mark] := by
  simp only [shortEscaped, List.mem_cons, List.not_mem_nil, or_false] at h
  rcases h with rfl | rfl | rfl | rfl | rfl | rfl | rfl
  · exact ⟨'\x22', rfl, rfl⟩
  · exact ⟨'\\', rfl, rfl⟩
  · exact ⟨'n', rfl, rfl⟩
  · exact ⟨'r', rfl, rfl⟩
  · exact ⟨'t', rfl, rfl⟩
  · exact ⟨'b', rfl, rfl⟩
  · exact ⟨'f', rfl, rfl⟩

theorem escapedChar_of_notMem {c : Char} (h : c ∉ shortEscaped) :
    escapedChar c = (if c.toNat < 0x20 then '\\' :: 'u' :: Text.hexDigits 4 c.toNat else [c]) ∧
      c ≠ '\x22' ∧ c ≠ '\\' := by
  simp only [shortEscaped, List.mem_cons, List.not_mem_nil, or_false, not_or] at h
  rcases h with ⟨hquote, hbackslash, hn, hr, ht, hb, hf⟩
  refine ⟨?_, hquote, hbackslash⟩
  simp only [escapedChar, if_neg hquote, if_neg hbackslash, if_neg hn, if_neg hr, if_neg ht,
    if_neg hb, if_neg hf]
  rfl

theorem charSpelled_escapedChar (c : Char) : Json.CharSpelled c (escapedChar c) := by
  by_cases hshort : c ∈ shortEscaped
  · rcases escapedChar_of_mem hshort with ⟨mark, hmark, heq⟩
    rw [heq]
    exact .short hmark
  · rcases escapedChar_of_notMem hshort with ⟨heq, hquote, hbackslash⟩
    rw [heq]
    split
    · exact .unit (unit?_hexDigits (by omega)) (ofCode?_toNat c)
    · apply Json.CharSpelled.plain
      simp only [Json.isPlain, Bool.and_eq_true, decide_eq_true_eq, bne_iff_ne]
      exact ⟨⟨by omega, hquote⟩, hbackslash⟩

theorem textSpelled_flatMap (t : Text) : Json.TextSpelled t (t.flatMap escapedChar) := by
  induction t with
  | nil => exact .nil
  | cons c t ih =>
      rw [List.flatMap_cons]
      exact .cons (charSpelled_escapedChar c) ih

theorem string_eq_enclosed (t : Text) :
    string t = Json.enclosed '\x22' '\x22' (t.flatMap escapedChar) :=
  rfl

theorem spelled_string (t : Text) : Json.Spelled (.value (.string t)) (string t) := by
  rw [string_eq_enclosed]
  exact .string (textSpelled_flatMap t)

/-!
## Numbers
-/

theorem head_ofNat {n : Nat} (h : 0 < n) : (Text.ofNat n).head? ≠ some '0' := by
  induction n using Nat.strongRecOn with
  | ind n ih =>
      unfold Text.ofNat at ih ⊢
      by_cases hsmall : n < 10
      · have hdigit : forall m, m < 10 -> 0 < m -> Nat.digitChar m ≠ '0' := by decide
        rw [Nat.toDigits_of_lt_base hsmall]
        simpa using hdigit n hsmall h
      · have hsplit : Nat.toDigits 10 (n / 10) ++ Nat.toDigits 10 (n % 10) =
            Nat.toDigits 10 n := by
          rw [Nat.toDigits_append_toDigits (by decide) (by omega) (by omega),
            Nat.div_add_mod]
        rw [← hsplit, List.head?_append_of_ne_nil _ Nat.toDigits_ne_nil]
        exact ih (n / 10) (by omega) (by omega)

theorem unsigned_ofNat (n : Nat) : Json.unsigned ['-'] (Text.ofNat n) = Text.ofNat n := by
  cases hdigits : Text.ofNat n with
  | nil => rfl
  | cons c rest =>
      have hc : c.isDigit = true := Text.isDigit_of_mem_ofNat (by rw [hdigits]; simp)
      have hsign : c ∉ ['-'] := by
        intro hmem
        rw [List.mem_singleton.mp hmem] at hc
        cases hc
      rw [Json.unsigned, if_neg hsign]

theorem number?_ofNat (n : Nat) : Json.number? (Text.ofNat n) = some (.integer n) := by
  have hdigits : Json.isDigits (Text.ofNat n) = true := by
    simp only [Json.isDigits, Bool.and_eq_true, bne_iff_ne, List.all_eq_true]
    exact ⟨Nat.toDigits_ne_nil, fun c hc => Text.isDigit_of_mem_ofNat hc⟩
  have hwhole : Json.isWhole (Text.ofNat n) = true := by
    rw [Json.isWhole, hdigits]
    rcases Nat.eq_zero_or_pos n with rfl | hpos
    · rfl
    · simp [head_ofNat hpos]
  have hminus : (Text.ofNat n).head? ≠ some '-' := by
    intro hhead
    have hdigit := Text.isDigit_of_mem_ofNat (List.mem_of_head? hhead)
    cases hdigit
  rw [Json.number?, unsigned_ofNat, if_pos hwhole, Json.integerOf, unsigned_ofNat,
    if_neg hminus, Text.ofNat, Nat.ofDigitChars_toDigits (by decide) (by decide)]

/-!
## Blocks
-/

section

variable {α : Type}

def laidOut (indent : Nat) : List (α × Text) -> List (α × Text)
  | [] => []
  | [piece] => [(piece.1, newLine (indent + 2) ++ piece.2 ++ newLine indent)]
  | piece :: next :: rest =>
      (piece.1, newLine (indent + 2) ++ piece.2 ++ []) :: laidOut indent (next :: rest)

theorem map_fst_laidOut (indent : Nat) (pieces : List (α × Text)) :
    (laidOut indent pieces).map Prod.fst = pieces.map Prod.fst := by
  fun_induction laidOut indent pieces with
  | case1 => rfl
  | case2 piece => rfl
  | case3 piece next rest ih =>
      rw [List.map_cons, ih]
      rfl

theorem laidOut_ne_nil {indent : Nat} {pieces : List (α × Text)} (h : pieces ≠ []) :
    laidOut indent pieces ≠ [] := by
  fun_cases laidOut indent pieces with
  | case1 => exact absurd rfl h
  | case2 piece => simp
  | case3 piece next rest => simp

theorem isSpace_newLine (indent : Nat) : (newLine indent).all Json.isSpace = true := by
  simp [newLine, Json.isSpace]

theorem spelled_laidOut {form : α -> Json.Form} {indent : Nat} {pieces : List (α × Text)}
    (h : forall piece, piece ∈ pieces -> Json.Spelled (form piece.1) piece.2) :
    forall piece, piece ∈ laidOut indent pieces -> Json.Spelled (form piece.1) piece.2 := by
  fun_induction laidOut indent pieces with
  | case1 =>
      intro piece hmem
      cases hmem
  | case2 only =>
      intro piece hmem
      rw [List.mem_singleton.mp hmem]
      exact (h only List.mem_cons_self).padded (isSpace_newLine _) (isSpace_newLine _)
  | case3 first next rest ih =>
      intro piece hmem
      rcases List.mem_cons.mp hmem with heq | hrest
      · rw [heq]
        exact (h first List.mem_cons_self).padded (isSpace_newLine _) rfl
      · exact ih (fun other hother => h other (List.mem_cons_of_mem _ hother)) piece hrest

theorem block_eq_enclosed (opening closing : Char) (indent : Nat) {pieces : List (α × Text)}
    (hne : pieces ≠ []) :
    block opening closing indent (pieces.map Prod.snd) =
      Json.enclosed opening closing
        (Text.joinWith [','] ((laidOut indent pieces).map Prod.snd)) := by
  have hlines : newLine (indent + 2) ++
      Text.joinWith (',' :: newLine (indent + 2)) (pieces.map Prod.snd) ++ newLine indent =
      Text.joinWith [','] ((laidOut indent pieces).map Prod.snd) := by
    fun_induction laidOut indent pieces with
    | case1 => exact absurd rfl hne
    | case2 piece => rfl
    | case3 first next rest ih =>
        have hrest := ih (List.cons_ne_nil next rest)
        have hlaid : (laidOut indent (next :: rest)).map Prod.snd ≠ [] := by
          simpa using laidOut_ne_nil (List.cons_ne_nil next rest)
        show newLine (indent + 2) ++ Text.joinWith (',' :: newLine (indent + 2))
            (first.2 :: (next :: rest).map Prod.snd) ++ newLine indent =
          Text.joinWith [','] ((newLine (indent + 2) ++ first.2 ++ []) ::
            (laidOut indent (next :: rest)).map Prod.snd)
        rw [Text.joinWith_cons_of_ne_nil _ _ (by simp),
          Text.joinWith_cons_of_ne_nil _ _ hlaid, ← hrest]
        simp
  cases pieces with
  | nil => exact absurd rfl hne
  | cons first rest =>
      rw [← hlines]
      simp [block, Json.enclosed]

end

/-!
## Fields, records and reports
-/

theorem spelled_arrayBlock (indent : Nat) {pieces : List (Json × Text)}
    (h : forall piece, piece ∈ pieces -> Json.Spelled (.value piece.1) piece.2) :
    Json.Spelled (.value (.array (pieces.map Prod.fst)))
      (block '[' ']' indent (pieces.map Prod.snd)) := by
  have hnone : ([] : Text).all Json.isSpace = true := rfl
  cases pieces with
  | nil => exact .emptyArray hnone
  | cons first rest =>
      rw [block_eq_enclosed _ _ _ (List.cons_ne_nil first rest), ← map_fst_laidOut indent]
      exact .array (laidOut_ne_nil (List.cons_ne_nil first rest)) (spelled_laidOut h)

theorem spelled_objectBlock (indent : Nat) {pieces : List ((Text × Json) × Text)}
    (h : forall piece, piece ∈ pieces -> Json.Spelled (.member piece.1) piece.2) :
    Json.Spelled (.value (.object (pieces.map Prod.fst)))
      (block '\x7b' '\x7d' indent (pieces.map Prod.snd)) := by
  have hnone : ([] : Text).all Json.isSpace = true := rfl
  cases pieces with
  | nil => exact .emptyObject hnone
  | cons first rest =>
      rw [block_eq_enclosed _ _ _ (List.cons_ne_nil first rest), ← map_fst_laidOut indent]
      exact .object (laidOut_ne_nil (List.cons_ne_nil first rest)) (spelled_laidOut h)

theorem spelled_field (indent : Nat) (value : Field) :
    Json.Spelled (.value (fieldJson value)) (field indent value) := by
  cases value with
  | nothing => exact .literal List.mem_cons_self
  | count n => exact .number (number?_ofNat n)
  | text t => exact spelled_string t
  | texts ts =>
      have hpieces : forall piece, piece ∈ ts.map (fun t => (Json.string t, string t)) ->
          Json.Spelled (.value piece.1) piece.2 := by
        intro piece hmem
        rcases List.mem_map.mp hmem with ⟨t, _, rfl⟩
        exact spelled_string t
      have hspelled := spelled_arrayBlock indent hpieces
      rwa [List.map_map, List.map_map] at hspelled

theorem spelled_member (indent : Nat) (named : Text × Field) :
    Json.Spelled (.member (named.1, fieldJson named.2))
      (string named.1 ++ ": ".toList ++ field indent named.2) := by
  have hnone : ([] : Text).all Json.isSpace = true := rfl
  have hspace : [' '].all Json.isSpace = true := rfl
  have hfield := (spelled_field indent named.2).padded hspace hnone
  have hspelled := Json.Spelled.member (textSpelled_flatMap named.1) hnone hfield
  rw [← string_eq_enclosed, List.append_nil, List.append_nil] at hspelled
  rw [List.append_assoc]
  exact hspelled

theorem spelled_record (indent : Nat) (fields : Record) :
    Json.Spelled (.value (recordJson fields)) (record indent fields) := by
  have hpieces : forall piece, piece ∈ fields.map (fun named =>
        ((named.1, fieldJson named.2),
          string named.1 ++ ": ".toList ++ field (indent + 2) named.2)) ->
      Json.Spelled (.member piece.1) piece.2 := by
    intro piece hmem
    rcases List.mem_map.mp hmem with ⟨named, _, rfl⟩
    exact spelled_member (indent + 2) named
  have hspelled := spelled_objectBlock indent hpieces
  rwa [List.map_map, List.map_map] at hspelled

theorem spelled_render (records : List Record) :
    Json.Spelled (.value (json records)) (render records) := by
  have hpieces : forall piece, piece ∈ records.map (fun fields =>
        (recordJson fields, record 2 fields)) -> Json.Spelled (.value piece.1) piece.2 := by
    intro piece hmem
    rcases List.mem_map.mp hmem with ⟨fields, _, rfl⟩
    exact spelled_record 2 fields
  have hspelled := spelled_arrayBlock 0 hpieces
  rwa [List.map_map, List.map_map] at hspelled

end Report
end PodManual
