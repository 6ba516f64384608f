import PodManual.Console.Literal.Fault
import PodManual.Text.CharacterName

/-!
# Strings in literals

A string stands between single or double quotes, or between three of them; only
then it may hold line breaks.  A backslash escapes the character after it.  The
letters before the quotes say how the string is read.
-/

namespace PodManual
namespace Literal

structure StringForm where
  raw : Bool
  bytes : Bool
  formatted : Bool
  deriving DecidableEq, Repr

namespace StringForm

/-- The letters before a string, in lower case, and how it is read then. -/
def table : List (Text × StringForm) :=
  [([], ⟨false, false, false⟩), ("u".toList, ⟨false, false, false⟩),
   ("r".toList, ⟨true, false, false⟩), ("b".toList, ⟨false, true, false⟩),
   ("f".toList, ⟨false, false, true⟩), ("br".toList, ⟨true, true, false⟩),
   ("rb".toList, ⟨true, true, false⟩), ("fr".toList, ⟨true, false, true⟩),
   ("rf".toList, ⟨true, false, true⟩)]

def ofLetters? (letters : Text) : Option StringForm :=
  table.lookup (letters.map Char.toLower)

end StringForm

/-- The inside of a string up to its quote, and what follows. -/
def inQuotes (quote : Char) : Text -> Option (Text × Text)
  | [] => none
  | [c] => if c = quote then some ([], []) else none
  | c :: d :: rest =>
      if c = quote then some ([], d :: rest)
      else if c = '\n' then none
      else if c = '\\' then
        (inQuotes quote rest).map fun (inside, after) => (c :: d :: inside, after)
      else (inQuotes quote (d :: rest)).map fun (inside, after) => (c :: inside, after)

/-- The inside of a string up to three quotes, and what follows. -/
def inTripleQuotes (quote : Char) : Text -> Option (Text × Text)
  | [] => none
  | [_] => none
  | c :: d :: rest =>
      if c = quote ∧ d = quote ∧ rest.head? = some quote then some ([], rest.drop 1)
      else if c = '\\' then
        (inTripleQuotes quote rest).map fun (inside, after) => (c :: d :: inside, after)
      else (inTripleQuotes quote (d :: rest)).map fun (inside, after) => (c :: inside, after)

/-- The number of line breaks before the text stops being a string in one line. -/
def lineBreaks (quote : Char) : Text -> Nat
  | '\\' :: '\n' :: rest => lineBreaks quote rest + 1
  | '\\' :: _ :: rest => lineBreaks quote rest
  | c :: rest => if c = '\n' then 0 else lineBreaks quote rest
  | [] => 0

/-- Read a string whose opening quote has been read: its inside, and what follows
it.  `line` is where it begins. -/
def stringInside (line : Nat) (quote : Char) (t : Text) : Except Fault (Text × Text) :=
  match t with
  | c :: d :: rest =>
      if c = quote ∧ d = quote then
        match inTripleQuotes quote rest with
        | some result => .ok result
        | none => .error (.unterminated true (line + rest.count '\n'))
      else
        match inQuotes quote t with
        | some result => .ok result
        | none => .error (.unterminated false (line + lineBreaks quote t))
  | _ =>
      match inQuotes quote t with
      | some result => .ok result
      | none => .error (.unterminated false line)

/-- The hexadecimal digits at the beginning of a text, at most so many. -/
def hexDigitsAt (count : Nat) (t : Text) : List Nat :=
  ((t.take count).takeWhile fun c => (Text.hexValue? c).isSome).filterMap Text.hexValue?

def maxCodePoint : Nat := 0x10FFFF

/-- The escapes by code point: their letter, the number of their digits, and the
form that messages show. -/
def codeEscapes : List (Char × Nat × Text) :=
  [('x', 2, "xXX".toList), ('u', 4, "uXXXX".toList), ('U', 8, "UXXXXXXXX".toList)]

def codeEscape (c : Char) : Text :=
  let digits := Nat.toDigits 16 c.toNat
  "\\U".toList ++ List.replicate (8 - digits.length) '0' ++ digits

/-- Text with the characters beyond ASCII spelled out by their code points, and a
backslash that escapes no ASCII character too.  Positions are counted in it. -/
def spelledOut : Text -> Text
  | [] => []
  | ['\\'] => "\\u005c".toList
  | '\\' :: c :: rest =>
      if c.toNat < 128 then '\\' :: c :: spelledOut rest
      else "\\u005c".toList ++ codeEscape c ++ spelledOut rest
  | c :: rest =>
      if c.toNat < 128 then c :: spelledOut rest else codeEscape c ++ spelledOut rest

/-- An escape by code point, the letter of which has been read: how many characters
it has after that, and what is wrong with it. -/
def codeEscapeFault? (count : Nat) (form t : Text) : Nat × Option EscapeFault :=
  let digits := hexDigitsAt count t
  (digits.length,
    if digits.length < count then some (.truncated form)
    else if maxCodePoint < digits.foldl (fun n d => 16 * n + d) 0 then some .illegal
    else none)

/-- An escape by name, the letter of which has been read: how many characters it has
after that, and what is wrong with it.  The name stands in braces. -/
def nameEscapeFault? (t : Text) : Nat × Option EscapeFault :=
  match t with
  | '\x7b' :: rest =>
      match Text.cutFirst '\x7d' rest with
      | (name, none) => (name.length + 1, some .malformedName)
      | ([], some _) => (1, some .malformedName)
      | (name, some _) =>
          (name.length + 2,
            if CharacterName.isKnown name then none else some .unknownName)
  | _ => (0, some .malformedName)

def escapeFaultAt (letter : Char) (t : Text) : Nat × Option EscapeFault :=
  if letter = 'N' then nameEscapeFault? t
  else
    match codeEscapes.lookup letter with
    | some (count, form) => codeEscapeFault? count form t
    | none => (0, none)

/-- The first escape that denotes no character, from a position on.  `skip`
characters belong to the escape that was read last. -/
def escapeFaultFrom (skip position : Nat) : Text -> Option Fault
  | [] => none
  | [_] => none
  | c :: d :: rest =>
      match skip with
      | skip + 1 => escapeFaultFrom skip (position + 1) (d :: rest)
      | 0 =>
          if c = '\\' then
            match escapeFaultAt d rest with
            | (length, some fault) => some (.escape position (position + 1 + length) fault)
            | (length, none) => escapeFaultFrom (length + 1) (position + 1) (d :: rest)
          else escapeFaultFrom 0 (position + 1) (d :: rest)

def escapeFault? (t : Text) : Option Fault :=
  escapeFaultFrom 0 0 (spelledOut t)

/-- The first escape of a text that denotes no byte, from a position on. -/
def byteEscapeFault? (position : Nat) : Text -> Option Fault
  | '\\' :: 'x' :: rest =>
      if (hexDigitsAt 2 rest).length < 2 then some (.byteEscape position)
      else byteEscapeFault? (position + 2) rest
  | '\\' :: _ :: rest => byteEscapeFault? (position + 2) rest
  | _ :: rest => byteEscapeFault? (position + 1) rest
  | [] => none

/-- What is wrong with the inside of a string of a form, but for the expressions in
it. -/
def StringForm.fault? (form : StringForm) (inside : Text) : Option Fault :=
  if form.formatted then none
  else if form.bytes then
    if inside.any fun c => 128 ≤ c.toNat then some .wideBytes
    else if form.raw then none
    else byteEscapeFault? 0 inside
  else if form.raw then none
  else escapeFault? inside

end Literal
end PodManual
