import PodManual.Text.Basic

/-!
# UTF-8 files

A file is a list of bytes.  Reading it as text never fails: each maximal part
of a byte sequence that cannot belong to a character becomes one replacement
character.  Reading it strictly finds the first such part.  The three line ends in
use become the line feed, and lines are cut after each line feed and nowhere else.
-/

namespace PodManual
namespace Utf8

def replacement : Char := '\uFFFD'

/-- A character that has begun: the value of its bytes so far, the number of
bytes it still owes after the next one, and the bounds of the next one. -/
structure Begun where
  value : Nat
  more : Nat
  low : Nat
  high : Nat

/-- A byte between characters: the text it yields, and the character that it
begins. -/
def start (b : Nat) : Text × Option Begun :=
  if b < 0x80 then ([Char.ofNat b], none)
  else if 0xC2 ≤ b ∧ b ≤ 0xDF then ([], some ⟨b - 0xC0, 0, 0x80, 0xBF⟩)
  else if b = 0xE0 then ([], some ⟨0, 1, 0xA0, 0xBF⟩)
  else if b = 0xED then ([], some ⟨0xD, 1, 0x80, 0x9F⟩)
  else if 0xE1 ≤ b ∧ b ≤ 0xEF then ([], some ⟨b - 0xE0, 1, 0x80, 0xBF⟩)
  else if b = 0xF0 then ([], some ⟨0, 2, 0x90, 0xBF⟩)
  else if 0xF1 ≤ b ∧ b ≤ 0xF3 then ([], some ⟨b - 0xF0, 2, 0x80, 0xBF⟩)
  else if b = 0xF4 then ([], some ⟨4, 2, 0x80, 0x8F⟩)
  else ([replacement], none)

/-- One byte: the text it yields, and the character that is then begun.  A byte
that the begun character cannot take ends it and stands for itself. -/
def step (begun? : Option Begun) (b : Nat) : Text × Option Begun :=
  match begun? with
  | none => start b
  | some begun =>
      if begun.low ≤ b ∧ b ≤ begun.high then
        match begun.more with
        | 0 => ([Char.ofNat (begun.value * 64 + (b - 0x80))], none)
        | more + 1 => ([], some ⟨begun.value * 64 + (b - 0x80), more, 0x80, 0xBF⟩)
      else (replacement :: (start b).1, (start b).2)

def decodeFrom : Option Begun -> List UInt8 -> Text
  | none, [] => []
  | some _, [] => [replacement]
  | begun?, b :: bytes =>
      (step begun? b.toNat).1 ++ decodeFrom (step begun? b.toNat).2 bytes

def decode (bytes : List UInt8) : Text :=
  decodeFrom none bytes

/-! ## Strict decoding -/

/-- Why bytes encode no character: none begins with this byte, one that has begun
does not go on with the next byte, or it goes on beyond the end. -/
inductive Reason where
  | start
  | continuation
  | ending
  deriving DecidableEq, Repr

namespace Reason

def wording : Reason -> Text
  | .start => "invalid start byte".toList
  | .continuation => "invalid continuation byte".toList
  | .ending => "unexpected end of data".toList

end Reason

/-- Bytes that encode no character: where they stand, what the first one is, and
the reason. -/
structure Fault where
  first : Nat
  last : Nat
  byte : UInt8
  reason : Reason
  deriving DecidableEq, Repr

namespace Fault

def byteText (b : UInt8) : Text :=
  let digits := Nat.toDigits 16 b.toNat
  List.replicate (2 - digits.length) '0' ++ digits

def message (fault : Fault) : Text :=
  "'utf-8' codec can't decode byte".toList ++
    (if fault.first = fault.last then
      " 0x".toList ++ byteText fault.byte ++ " in position ".toList ++
        Text.ofNat fault.first
    else
      "s in position ".toList ++ Text.ofNat fault.first ++ "-".toList ++
        Text.ofNat fault.last) ++
    ": ".toList ++ fault.reason.wording

end Fault

/-- The first fault of the bytes from a position on.  A character may have begun
before, at a position and with a byte. -/
def faultFrom (position : Nat) :
    Option (Begun × Nat × UInt8) -> List UInt8 -> Option Fault
  | none, [] => none
  | some (_, first, byte), [] => some ⟨first, position - 1, byte, .ending⟩
  | none, b :: bytes =>
      match start b.toNat with
      | (_, some begun) => faultFrom (position + 1) (some (begun, position, b)) bytes
      | (_, none) =>
          if b.toNat < 0x80 then faultFrom (position + 1) none bytes
          else some ⟨position, position, b, .start⟩
  | some (begun, first, byte), b :: bytes =>
      if begun.low ≤ b.toNat ∧ b.toNat ≤ begun.high then
        faultFrom (position + 1)
          ((step (some begun) b.toNat).2.map fun begun => (begun, first, byte)) bytes
      else some ⟨first, position - 1, byte, .continuation⟩

def decodeStrict (bytes : List UInt8) : Except Fault Text :=
  match faultFrom 0 none bytes with
  | some fault => .error fault
  | none => .ok (decode bytes)

/-! ## Encoding -/

def encodeChar (c : Char) : List UInt8 :=
  let n := c.toNat
  if n < 0x80 then [n.toUInt8]
  else if n < 0x800 then [(0xC0 + n / 64).toUInt8, (0x80 + n % 64).toUInt8]
  else if n < 0x10000 then
    [(0xE0 + n / 4096).toUInt8, (0x80 + n / 64 % 64).toUInt8,
      (0x80 + n % 64).toUInt8]
  else
    [(0xF0 + n / 262144).toUInt8, (0x80 + n / 4096 % 64).toUInt8,
      (0x80 + n / 64 % 64).toUInt8, (0x80 + n % 64).toUInt8]

def encode (t : Text) : List UInt8 :=
  t.flatMap encodeChar

def size (t : Text) : Nat :=
  (encode t).length

@[simp] theorem encode_append (s t : Text) :
    encode (s ++ t) = encode s ++ encode t := by
  simp [encode]

end Utf8

namespace Text

/-- A carriage return, alone or with the line feed after it, is a line feed. -/
def unifyNewlines : Text -> Text
  | [] => []
  | '\r' :: '\n' :: rest => '\n' :: unifyNewlines rest
  | c :: rest => (if c = '\r' then '\n' else c) :: unifyNewlines rest

/-- The lines of a text, each with the line feed that ends it; only the last one
may lack it. -/
def lines : Text -> List Text
  | [] => []
  | c :: rest =>
      if c = '\n' then [c] :: lines rest
      else
        match lines rest with
        | [] => [[c]]
        | line :: others => (c :: line) :: others

theorem flatten_lines (t : Text) : (lines t).flatten = t := by
  induction t with
  | nil => rfl
  | cons c rest ih =>
      by_cases hc : c = '\n'
      · simp [lines, hc, ih]
      · cases hrest : lines rest with
        | nil =>
            have hempty : rest = [] := by simpa [hrest] using ih.symm
            simp [lines, hc, hempty]
        | cons line others =>
            have hjoined : line ++ others.flatten = rest := by simpa [hrest] using ih
            simp [lines, hc, hrest, hjoined]

end Text

def Utf8.fileLines (bytes : List UInt8) : List Text :=
  Text.lines (Text.unifyNewlines (Utf8.decode bytes))

end PodManual
