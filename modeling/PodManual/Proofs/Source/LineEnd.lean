import PodManual.Proofs.Text.Line
import PodManual.Proofs.Text.Respell
import PodManual.Source

/-!
# Line ends of a source file

A source file may end its lines with a line feed, with a carriage return or with both,
and it may hold bytes that encode no character.  Reading replaces such bytes and
unifies the line ends.  The two do not disturb each other: a byte that is an ASCII
character stands for it wherever it is met, also where it cuts short a character that
has begun, and no other byte yields an ASCII character.

Main statement: the instructions of a file are the same for all three line ends, and
those of encoded text are the instructions in its lines.
-/

namespace PodManual

/-!
## Line ends in a text
-/

namespace Text

theorem unifyNewlines_cons {c : Char} (hc : c ≠ '\r') (rest : Text) :
    unifyNewlines (c :: rest) = c :: unifyNewlines rest := by
  rw [unifyNewlines, if_neg hc]
  rintro _ rfl
  exact absurd rfl hc

theorem unifyNewlines_return {rest : Text} (h : '\n' ∉ rest) :
    unifyNewlines ('\r' :: rest) = '\n' :: unifyNewlines rest := by
  rw [unifyNewlines]
  · rfl
  · rintro others _ rfl
    exact h List.mem_cons_self

theorem unifyNewlines_of_notMem {t : Text} (h : '\r' ∉ t) : unifyNewlines t = t := by
  induction t with
  | nil => rfl
  | cons c rest ih =>
      rw [unifyNewlines_cons (List.ne_of_not_mem_cons h).symm,
        ih (List.not_mem_of_not_mem_cons h)]

theorem unifyNewlines_respell {ending t : Text}
    (hending : forall rest, unifyNewlines (ending ++ respell '\n' ending rest) =
      '\n' :: unifyNewlines (respell '\n' ending rest))
    (h : '\r' ∉ t) : unifyNewlines (respell '\n' ending t) = t := by
  induction t with
  | nil => rfl
  | cons c rest ih =>
      have hrest := ih (List.not_mem_of_not_mem_cons h)
      by_cases hfeed : c = '\n'
      · rw [hfeed, respell_cons_self, hending, hrest]
      · rw [respell_cons_of_ne hfeed,
          unifyNewlines_cons (List.ne_of_not_mem_cons h).symm, hrest]

theorem unifyNewlines_respell_pair {t : Text} (h : '\r' ∉ t) :
    unifyNewlines (respell '\n' "\r\n".toList t) = t :=
  unifyNewlines_respell (fun _ => rfl) h

theorem unifyNewlines_respell_return {t : Text} (h : '\r' ∉ t) :
    unifyNewlines (respell '\n' "\r".toList t) = t :=
  unifyNewlines_respell (fun rest => unifyNewlines_return (notMem_respell (by decide) rest)) h

/-- The text cut after each line feed and nowhere else. -/
inductive LinesOf : Text -> List Text -> Prop
  | nil : LinesOf [] []
  | unended {t : Text} : t ≠ [] -> '\n' ∉ t -> LinesOf t [t]
  | line {front rest : Text} {lines : List Text} :
      '\n' ∉ front -> LinesOf rest lines ->
      LinesOf (front ++ '\n' :: rest) ((front ++ ['\n']) :: lines)

theorem LinesOf.cons {c : Char} {line rest : Text} {lines : List Text} (hc : c ≠ '\n')
    (h : LinesOf rest (line :: lines)) : LinesOf (c :: rest) ((c :: line) :: lines) := by
  cases h with
  | unended _ hfree =>
      exact LinesOf.unended (List.cons_ne_nil _ _)
        (List.not_mem_cons_of_ne_of_not_mem hc.symm hfree)
  | @line front _ _ hfront hrest =>
      exact @LinesOf.line (c :: front) _ _
        (List.not_mem_cons_of_ne_of_not_mem hc.symm hfront) hrest

theorem linesOf_lines (t : Text) : LinesOf t (lines t) := by
  induction t with
  | nil => exact LinesOf.nil
  | cons c rest ih =>
      by_cases hc : c = '\n'
      · rw [lines, if_pos hc, hc]
        exact @LinesOf.line [] _ _ List.not_mem_nil ih
      · rw [lines, if_neg hc]
        cases hlines : lines rest with
        | nil =>
            have hempty : rest = [] := by
              rw [← flatten_lines rest, hlines]
              rfl
            rw [hempty]
            exact LinesOf.unended (List.cons_ne_nil _ _)
              (mt List.mem_singleton.mp (Ne.symm hc))
        | cons line others =>
            rw [hlines] at ih
            exact ih.cons hc

end Text

/-!
## Bytes and characters
-/

namespace Utf8

/-- What holds of a character that has begun: an ASCII byte does not go on with it, and
it is not going to be an ASCII character. -/
structure Begun.IsSound (begun : Begun) : Prop where
  low_ge : 0x80 ≤ begun.low
  next_ge : 2 ≤ begun.value * 64 + (begun.low - 0x80)
  last_ge : begun.more = 0 -> 2 ≤ begun.value

theorem toNat_ofNat {n : Nat} (h : n.isValidChar) : (Char.ofNat n).toNat = n := by
  rw [Char.ofNat, dif_pos h]
  rfl

theorem ofNat_eq_null {n : Nat} (h : ¬ n.isValidChar) : Char.ofNat n = '\x00' := by
  rw [Char.ofNat, dif_neg h]
  rfl

/-- What a byte between characters does: it is an ASCII character, begins a character
or is replaced. -/
theorem start_cases (b : Nat) :
    (b < 0x80 ∧ start b = ([Char.ofNat b], none)) ∨
      (0x80 ≤ b ∧ ((exists begun, begun.IsSound ∧ start b = ([], some begun)) ∨
        start b = ([replacement], none))) := by
  by_cases hascii : b < 0x80
  · exact Or.inl ⟨hascii, if_pos hascii⟩
  · refine Or.inr ⟨Nat.not_lt.mp hascii, ?_⟩
    unfold start
    rw [if_neg hascii]
    split
    · exact Or.inl ⟨_, ⟨Nat.le_refl _, by dsimp only; omega, fun _ => by dsimp only; omega⟩,
        rfl⟩
    split
    · exact Or.inl ⟨_, ⟨by decide, by decide, by decide⟩, rfl⟩
    split
    · exact Or.inl ⟨_, ⟨by decide, by decide, by decide⟩, rfl⟩
    split
    · exact Or.inl ⟨_, ⟨Nat.le_refl _, by dsimp only; omega, by simp⟩, rfl⟩
    split
    · exact Or.inl ⟨_, ⟨by decide, by decide, by decide⟩, rfl⟩
    split
    · exact Or.inl ⟨_, ⟨Nat.le_refl _, by dsimp only; omega, by simp⟩, rfl⟩
    split
    · exact Or.inl ⟨_, ⟨by decide, by decide, by decide⟩, rfl⟩
    · exact Or.inr rfl

/-- The only ASCII character in the text is that of the byte.  Nothing is said of the null
character, which also stands for a number that is no code point. -/
def YieldsOnly (b : Nat) (t : Text) : Prop :=
  forall c, c ∈ t -> 0 < c.toNat -> c.toNat < 0x80 -> c.toNat = b

theorem yieldsOnly_ofNat {b n : Nat} (h : n = b ∨ 0x80 ≤ n) : YieldsOnly b [Char.ofNat n] := by
  intro c hc hpos hascii
  rw [List.mem_singleton.mp hc] at hpos hascii ⊢
  by_cases hvalid : n.isValidChar
  · rw [toNat_ofNat hvalid] at hascii ⊢
    omega
  · rw [ofNat_eq_null hvalid] at hpos
    cases hpos

theorem yieldsOnly_replacement (b : Nat) : YieldsOnly b [replacement] :=
  yieldsOnly_ofNat (n := 0xFFFD) (Or.inr (by decide))

theorem start_yieldsOnly (b : Nat) : YieldsOnly b (start b).1 := by
  rcases start_cases b with ⟨_, heq⟩ | ⟨_, ⟨_, _, heq⟩ | heq⟩
  · rw [heq]
    exact yieldsOnly_ofNat (Or.inl rfl)
  · rw [heq]
    intro c hc
    cases hc
  · rw [heq]
    exact yieldsOnly_replacement b

theorem start_sound {b : Nat} {begun : Begun} (h : (start b).2 = some begun) :
    begun.IsSound := by
  rcases start_cases b with ⟨_, heq⟩ | ⟨_, ⟨_, hsound, heq⟩ | heq⟩
  · rw [heq] at h
    cases h
  · rw [heq] at h
    cases h
    exact hsound
  · rw [heq] at h
    cases h

def Sound (begun? : Option Begun) : Prop :=
  forall begun, begun? = some begun -> begun.IsSound

theorem sound_none : Sound none := by
  intro begun h
  cases h

theorem Sound.step {begun? : Option Begun} (h : Sound begun?) (b : Nat) :
    Sound (step begun? b).2 ∧ YieldsOnly b (step begun? b).1 := by
  cases begun? with
  | none => exact ⟨fun _ => start_sound, start_yieldsOnly b⟩
  | some begun =>
      have hbegun := h begun rfl
      rcases begun with ⟨value, more, low, high⟩
      have hnext := hbegun.next_ge
      have hlow := hbegun.low_ge
      dsimp only at hnext hlow
      by_cases hgoes : low ≤ b ∧ b ≤ high
      · cases more with
        | zero =>
            have hlast := hbegun.last_ge rfl
            dsimp only at hlast
            simp only [Utf8.step, if_pos hgoes]
            exact ⟨sound_none, yieldsOnly_ofNat (Or.inr (by omega))⟩
        | succ more =>
            simp only [Utf8.step, if_pos hgoes]
            refine ⟨?_, fun c hc => absurd hc List.not_mem_nil⟩
            intro next hsome
            rw [← Option.some.inj hsome]
            exact ⟨Nat.le_refl _, by dsimp only; omega, fun _ => by dsimp only; omega⟩
      · simp only [Utf8.step, if_neg hgoes]
        refine ⟨fun _ => start_sound, ?_⟩
        intro c hc
        rcases List.mem_cons.mp hc with rfl | hstart
        · exact yieldsOnly_replacement b _ List.mem_cons_self
        · exact start_yieldsOnly b c hstart

/-!
## ASCII bytes
-/

def cutShort : Option Begun -> Text
  | none => []
  | some _ => [replacement]

theorem step_ascii {begun? : Option Begun} (h : Sound begun?) {b : Nat} (hb : b < 0x80) :
    step begun? b = (cutShort begun? ++ [Char.ofNat b], none) := by
  have hstart : start b = ([Char.ofNat b], none) := if_pos hb
  cases begun? with
  | none => exact hstart
  | some begun =>
      have hlow := (h begun rfl).low_ge
      have hends : ¬ (begun.low ≤ b ∧ b ≤ begun.high) := by omega
      simp only [step, if_neg hends, hstart]
      rfl

theorem encodeChar_ascii {c : Char} (h : c.toNat < 0x80) :
    encodeChar c = [c.toNat.toUInt8] :=
  if_pos h

theorem toNat_toUInt8 {n : Nat} (h : n < 256) : n.toUInt8.toNat = n :=
  Nat.mod_eq_of_lt h

theorem decodeFrom_ascii {begun? : Option Begun} (h : Sound begun?) {c : Char}
    (hc : c.toNat < 0x80) (bytes : List UInt8) :
    decodeFrom begun? (encodeChar c ++ bytes) =
      cutShort begun? ++ c :: decodeFrom none bytes := by
  rw [encodeChar_ascii hc, List.singleton_append, decodeFrom, toNat_toUInt8 (by omega),
    step_ascii h hc, Char.ofNat_toNat, List.append_assoc, List.singleton_append]

theorem decodeFrom_ending {ending : Text} (hascii : forall c, c ∈ ending -> c.toNat < 0x80)
    (hne : ending ≠ []) {begun? : Option Begun} (h : Sound begun?) (bytes : List UInt8) :
    decodeFrom begun? (encode ending ++ bytes) =
      cutShort begun? ++ (ending ++ decodeFrom none bytes) := by
  induction ending generalizing begun? with
  | nil => exact absurd rfl hne
  | cons c ending ih =>
      have hc := hascii c List.mem_cons_self
      have hencode : encode (c :: ending) = encodeChar c ++ encode ending := rfl
      rw [hencode, List.append_assoc, decodeFrom_ascii h hc]
      cases ending with
      | nil => rfl
      | cons d others =>
          rw [ih (fun e he => hascii e (List.mem_cons_of_mem _ he)) (List.cons_ne_nil _ _)
            sound_none]
          rfl

/-- Decoding commutes with another spelling of the line ends, whatever the bytes. -/
theorem decodeFrom_respell {ending : Text} (hascii : forall c, c ∈ ending -> c.toNat < 0x80)
    (hne : ending ≠ []) {begun? : Option Begun} (h : Sound begun?) (bytes : List UInt8) :
    decodeFrom begun? (respell 0x0A (encode ending) bytes) =
      respell '\n' ending (decodeFrom begun? bytes) := by
  induction bytes generalizing begun? with
  | nil =>
      cases begun? with
      | none => rfl
      | some begun => rfl
  | cons b bytes ih =>
      -- A line feed cuts short what has begun, and no other byte yields one.
      by_cases hfeed : b = 0x0A
      · have hdecode : decodeFrom begun? (b :: bytes) =
            cutShort begun? ++ '\n' :: decodeFrom none bytes := by
          rw [hfeed]
          exact decodeFrom_ascii h (c := '\n') (by decide) bytes
        have hcut : '\n' ∉ cutShort begun? := by
          cases begun? with
          | none => exact List.not_mem_nil
          | some begun => exact mt List.mem_singleton.mp (by decide)
        rw [hdecode, respell_append_of_notMem hcut, respell_cons_self, hfeed,
          respell_cons_self, decodeFrom_ending hascii hne h, ih sound_none]
      · rcases h.step b.toNat with ⟨hsound, hyields⟩
        have hstep : '\n' ∉ (step begun? b.toNat).1 := by
          intro hmem
          have heq : (0x0A : Nat) = b.toNat := hyields '\n' hmem (by decide) (by decide)
          exact hfeed (UInt8.toNat_inj.mp heq.symm)
        rw [respell_cons_of_ne hfeed, decodeFrom, decodeFrom, respell_append_of_notMem hstep,
          ih hsound]

theorem exists_byte_of_mem_decodeFrom {begun? : Option Begun} (h : Sound begun?)
    {bytes : List UInt8} {c : Char} (hc : c ∈ decodeFrom begun? bytes)
    (hpos : 0 < c.toNat) (hascii : c.toNat < 0x80) :
    exists b, b ∈ bytes ∧ b.toNat = c.toNat := by
  induction bytes generalizing begun? with
  | nil =>
      cases begun? with
      | none => cases hc
      | some begun =>
          rw [List.mem_singleton.mp hc] at hascii
          exact absurd hascii (by decide)
  | cons b bytes ih =>
      rcases h.step b.toNat with ⟨hsound, hyields⟩
      rw [decodeFrom] at hc
      rcases List.mem_append.mp hc with hnow | hlater
      · exact ⟨b, List.mem_cons_self, (hyields c hnow hpos hascii).symm⟩
      · rcases ih hsound hlater with ⟨other, hother, heq⟩
        exact ⟨other, List.mem_cons_of_mem _ hother, heq⟩

theorem return_notMem_decode {bytes : List UInt8} (h : 0x0D ∉ bytes) :
    '\r' ∉ decode bytes := by
  intro hmem
  rcases exists_byte_of_mem_decodeFrom sound_none hmem (by decide) (by decide) with
    ⟨b, hb, heq⟩
  have hreturn : b = 0x0D := UInt8.toNat_inj.mp heq
  exact h (hreturn ▸ hb)

/-!
## Encoded text
-/

/-- The byte of six bits of a code point behind the first ones. -/
def tailByte (bits : Nat) : UInt8 :=
  (0x80 + bits).toUInt8

section

variable {value bits low high : Nat}

theorem decodeFrom_begin {b : Nat} {begun : Begun} (hb : b < 256)
    (h : start b = ([], some begun)) (bytes : List UInt8) :
    decodeFrom none (b.toUInt8 :: bytes) = decodeFrom (some begun) bytes := by
  rw [decodeFrom, toNat_toUInt8 hb, step, h]
  rfl

theorem decodeFrom_continue (hbits : bits < 64) (hlow : low ≤ 0x80 + bits)
    (hhigh : 0x80 + bits ≤ high) (more : Nat) (bytes : List UInt8) :
    decodeFrom (some ⟨value, more + 1, low, high⟩) (tailByte bits :: bytes) =
      decodeFrom (some ⟨value * 64 + bits, more, 0x80, 0xBF⟩) bytes := by
  rw [decodeFrom, tailByte, toNat_toUInt8 (by omega), step, if_pos ⟨hlow, hhigh⟩,
    Nat.add_sub_cancel_left]
  rfl

theorem decodeFrom_finish (hbits : bits < 64) (hlow : low ≤ 0x80 + bits)
    (hhigh : 0x80 + bits ≤ high) (bytes : List UInt8) :
    decodeFrom (some ⟨value, 0, low, high⟩) (tailByte bits :: bytes) =
      Char.ofNat (value * 64 + bits) :: decodeFrom none bytes := by
  rw [decodeFrom, tailByte, toNat_toUInt8 (by omega), step, if_pos ⟨hlow, hhigh⟩,
    Nat.add_sub_cancel_left]
  rfl

end

theorem start_of_two {k : Nat} (hlow : 2 ≤ k) (hhigh : k < 32) :
    start (0xC0 + k) = ([], some ⟨k, 0, 0x80, 0xBF⟩) := by
  unfold start
  rw [if_neg (by omega), if_pos (by omega), Nat.add_sub_cancel_left]

/-- The second of three bytes keeps the code point from a shorter encoding and from the
surrogates. -/
theorem start_of_three {k bits : Nat} (hk : k < 16) (hbits : bits < 64)
    (hshort : k = 0 -> 32 ≤ bits) (hsurrogate : k = 13 -> bits < 32) :
    exists low high, start (0xE0 + k) = ([], some ⟨k, 1, low, high⟩) ∧
      low ≤ 0x80 + bits ∧ 0x80 + bits ≤ high := by
  by_cases hzero : k = 0
  · rw [hzero]
    exact ⟨0xA0, 0xBF, rfl, by omega, by omega⟩
  · by_cases hthirteen : k = 13
    · rw [hthirteen]
      exact ⟨0x80, 0x9F, rfl, by omega, by omega⟩
    · refine ⟨0x80, 0xBF, ?_, by omega, by omega⟩
      unfold start
      rw [if_neg (by omega), if_neg (by omega), if_neg (by omega), if_neg (by omega),
        if_pos (by omega), Nat.add_sub_cancel_left]

/-- The second of four bytes keeps the code point from a shorter encoding and within
Unicode. -/
theorem start_of_four {k bits : Nat} (hk : k < 5) (hbits : bits < 64)
    (hshort : k = 0 -> 16 ≤ bits) (hlast : k = 4 -> bits < 16) :
    exists low high, start (0xF0 + k) = ([], some ⟨k, 2, low, high⟩) ∧
      low ≤ 0x80 + bits ∧ 0x80 + bits ≤ high := by
  by_cases hzero : k = 0
  · rw [hzero]
    exact ⟨0x90, 0xBF, rfl, by omega, by omega⟩
  · by_cases hfour : k = 4
    · rw [hfour]
      exact ⟨0x80, 0x8F, rfl, by omega, by omega⟩
    · refine ⟨0x80, 0xBF, ?_, by omega, by omega⟩
      unfold start
      rw [if_neg (by omega), if_neg (by omega), if_neg (by omega), if_neg (by omega),
        if_neg (by omega), if_neg (by omega), if_pos (by omega), Nat.add_sub_cancel_left]

theorem decodeFrom_encodeChar (c : Char) (bytes : List UInt8) :
    decodeFrom none (encodeChar c ++ bytes) = c :: decodeFrom none bytes := by
  have hvalid : c.toNat < 0xD800 ∨ 0xDFFF < c.toNat ∧ c.toNat < 0x110000 := c.valid
  have hself : Char.ofNat c.toNat = c := c.ofNat_toNat
  by_cases hone : c.toNat < 0x80
  · exact decodeFrom_ascii sound_none hone bytes
  by_cases htwo : c.toNat < 0x800
  · have hencode : encodeChar c ++ bytes =
        (0xC0 + c.toNat / 64).toUInt8 :: tailByte (c.toNat % 64) :: bytes := by
      simp only [encodeChar, if_neg hone, if_pos htwo]
      rfl
    have hvalue : c.toNat / 64 * 64 + c.toNat % 64 = c.toNat := by omega
    rw [hencode, decodeFrom_begin (by omega) (start_of_two (by omega) (by omega)),
      decodeFrom_finish (by omega) (by omega) (by omega), hvalue, hself]
  by_cases hthree : c.toNat < 0x10000
  · have hencode : encodeChar c ++ bytes =
        (0xE0 + c.toNat / 4096).toUInt8 :: tailByte (c.toNat / 64 % 64) ::
          tailByte (c.toNat % 64) :: bytes := by
      simp only [encodeChar, if_neg hone, if_neg htwo, if_pos hthree]
      rfl
    have hvalue : (c.toNat / 4096 * 64 + c.toNat / 64 % 64) * 64 + c.toNat % 64 =
        c.toNat := by
      omega
    rcases @start_of_three (c.toNat / 4096) (c.toNat / 64 % 64) (by omega) (by omega)
      (by omega) (by omega) with ⟨low, high, hstart, hlow, hhigh⟩
    rw [hencode, decodeFrom_begin (by omega) hstart,
      decodeFrom_continue (by omega) hlow hhigh,
      decodeFrom_finish (by omega) (by omega) (by omega), hvalue, hself]
  · have hencode : encodeChar c ++ bytes =
        (0xF0 + c.toNat / 262144).toUInt8 :: tailByte (c.toNat / 4096 % 64) ::
          tailByte (c.toNat / 64 % 64) :: tailByte (c.toNat % 64) :: bytes := by
      simp only [encodeChar, if_neg hone, if_neg htwo, if_neg hthree]
      rfl
    have hvalue : ((c.toNat / 262144 * 64 + c.toNat / 4096 % 64) * 64 +
        c.toNat / 64 % 64) * 64 + c.toNat % 64 = c.toNat := by
      omega
    rcases @start_of_four (c.toNat / 262144) (c.toNat / 4096 % 64) (by omega) (by omega)
      (by omega) (by omega) with ⟨low, high, hstart, hlow, hhigh⟩
    rw [hencode, decodeFrom_begin (by omega) hstart,
      decodeFrom_continue (by omega) hlow hhigh,
      decodeFrom_continue (by omega) (by omega) (by omega),
      decodeFrom_finish (by omega) (by omega) (by omega), hvalue, hself]

theorem decode_encode (t : Text) : decode (encode t) = t := by
  induction t with
  | nil => rfl
  | cons c t ih =>
      have hencode : encode (c :: t) = encodeChar c ++ encode t := rfl
      rw [decode, hencode, decodeFrom_encodeChar, ← decode, ih]

/-!
## Lines of a file
-/

theorem fileLines_of_notMem {bytes : List UInt8} (h : 0x0D ∉ bytes) :
    fileLines bytes = Text.lines (decode bytes) := by
  rw [fileLines, Text.unifyNewlines_of_notMem (return_notMem_decode h)]

theorem fileLines_pair {bytes : List UInt8} (h : 0x0D ∉ bytes) :
    fileLines (respell 0x0A [0x0D, 0x0A] bytes) = fileLines bytes := by
  have hdecode : decode (respell 0x0A [0x0D, 0x0A] bytes) =
      respell '\n' "\r\n".toList (decode bytes) :=
    @decodeFrom_respell "\r\n".toList (by simp) (by decide) _ sound_none bytes
  rw [fileLines_of_notMem h, fileLines, hdecode,
    Text.unifyNewlines_respell_pair (return_notMem_decode h)]

theorem fileLines_return {bytes : List UInt8} (h : 0x0D ∉ bytes) :
    fileLines (respell 0x0A [0x0D] bytes) = fileLines bytes := by
  have hdecode : decode (respell 0x0A [0x0D] bytes) =
      respell '\n' "\r".toList (decode bytes) :=
    @decodeFrom_respell "\r".toList (by simp) (by decide) _ sound_none bytes
  rw [fileLines_of_notMem h, fileLines, hdecode,
    Text.unifyNewlines_respell_return (return_notMem_decode h)]

end Utf8

namespace FileTree

theorem extract_of_file {tree : FileTree} {path : Path} {file : File}
    (h : tree.fileAt? path = .ok (some file)) (level : Nat) (language : Language) :
    tree.extract level path language =
      (Traced.note level (file.remarks path)).andThen fun _ =>
        .done (language.extractFile file) := by
  simp only [extract, h]

theorem extract_eq_of_fileLines {tree other : FileTree} {path : Path} {access : Access}
    {bytes respelled : List UInt8} (h : tree.fileAt? path = .ok (some ⟨access, bytes⟩))
    (hother : other.fileAt? path = .ok (some ⟨access, respelled⟩))
    (hlines : Utf8.fileLines respelled = Utf8.fileLines bytes)
    (level : Nat) (language : Language) :
    other.extract level path language = tree.extract level path language := by
  have hsame : language.extractFile ⟨access, respelled⟩ =
      language.extractFile ⟨access, bytes⟩ := by
    simp only [Language.extractFile, Language.extractBytes, hlines]
  rw [extract_of_file h, extract_of_file hother, hsame]
  rfl

theorem extract_of_readable {tree : FileTree} {path : Path} {file : File}
    (h : tree.fileAt? path = .ok (some file)) (hread : file.access.read = true)
    (level : Nat) (language : Language) :
    tree.extract level path language =
      .done (language.extract (Utf8.fileLines file.bytes)) := by
  rw [extract_of_file h]
  simp [File.remarks, Language.extractFile, Language.extractBytes, hread, Traced.note,
    Traced.andThen, Traced.done]

/-- A file without carriage returns gives the same instructions when its lines end with
a carriage return, with or without the line feed, whatever else its bytes are.  When the
bytes encode a text and may be read, these are the instructions in the lines of the text,
which end at line feeds only. -/
theorem extract_respelled (level : Nat) {tree : FileTree} {path : Path} {access : Access}
    {bytes : List UInt8} (language : Language)
    (hfile : tree.fileAt? path = .ok (some ⟨access, bytes⟩)) (hfree : 0x0D ∉ bytes) :
    (forall other : FileTree,
      other.fileAt? path = .ok (some ⟨access, respell 0x0A [0x0D, 0x0A] bytes⟩) ∨
        other.fileAt? path = .ok (some ⟨access, respell 0x0A [0x0D] bytes⟩) ->
      other.extract level path language = tree.extract level path language) ∧
    forall t : Text, bytes = Utf8.encode t -> access.read = true ->
      exists lines, Text.LinesOf t lines ∧
        tree.extract level path language = .done (language.extract lines) := by
  constructor
  · rintro other (hpair | hreturn)
    · exact extract_eq_of_fileLines hfile hpair (Utf8.fileLines_pair hfree) level language
    · exact extract_eq_of_fileLines hfile hreturn (Utf8.fileLines_return hfree) level
        language
  · rintro t rfl hread
    refine ⟨Text.lines t, Text.linesOf_lines t, ?_⟩
    rw [extract_of_readable hfile hread, Utf8.fileLines_of_notMem hfree,
      Utf8.decode_encode]

def ofFile (bytes : List UInt8) : FileTree :=
  .ofListing (.entry "A.php".toList (.file (.ofBytes bytes)) .empty)

/-- A heading, a line that ends inside a character, and a byte that begins none. -/
def brokenBytes : List UInt8 :=
  Utf8.encode "#=head1 NAME\n#A".toList ++ [0xE2, 0x82, 0x0A, 0xFF, 0x0A]

def separatedText : Text :=
  "#=head1 ŻÓŁW\n# A\u2028B\x85C\n\nD".toList

theorem fileAt?_ofFile (bytes : List UInt8) :
    (ofFile bytes).fileAt? (Path.ofText "A.php".toList) = .ok (some (.ofBytes bytes)) := rfl

theorem broken_respelled :
    let path := Path.ofText "A.php".toList
    0x0D ∉ brokenBytes ∧ 0x0D ∉ Utf8.encode separatedText ∧
    (ofFile (respell 0x0A [0x0D, 0x0A] brokenBytes)).extract 0 path .php =
      (ofFile brokenBytes).extract 0 path .php ∧
    (ofFile (respell 0x0A [0x0D] brokenBytes)).extract 0 path .php =
      (ofFile brokenBytes).extract 0 path .php ∧
    exists lines, Text.LinesOf separatedText lines ∧
      (ofFile (Utf8.encode separatedText)).extract 0 path .php =
        .done (Language.php.extract lines) := by
  have hbroken : 0x0D ∉ brokenBytes := by decide +kernel
  have hseparated : 0x0D ∉ Utf8.encode separatedText := by decide +kernel
  have hrespelled := extract_respelled 0 .php (fileAt?_ofFile brokenBytes) hbroken
  have hencoded := extract_respelled 0 .php (fileAt?_ofFile _) hseparated
  exact ⟨hbroken, hseparated, hrespelled.left _ (Or.inl (fileAt?_ofFile _)),
    hrespelled.left _ (Or.inr (fileAt?_ofFile _)), hencoded.right separatedText rfl rfl⟩

example :
    ((ofFile (respell 0x0A [0x0D, 0x0A] brokenBytes)).extract 0
      (Path.ofText "A.php".toList) .php).result.toOption =
      some [⟨"head1".toList, "NAME".toList, ["A\uFFFD\n\uFFFD\n".toList]⟩] := by
  decide +kernel

end FileTree
end PodManual
