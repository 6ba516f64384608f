import PodManual.Console.Literal.Fault

/-!
# Numbers in literals

A number is decimal, with a fraction and an exponent or without, or it is written
to the base 16, 8 or 2 after `0x`, `0o` or `0b`.  Single underscores may divide
its digits, and a decimal number with `j` at its end is imaginary.  Reading a
number gives what follows it.
-/

namespace PodManual
namespace Literal

/-- The character can stand in a name, as far as the reading of a name goes. -/
def isNameChar (c : Char) : Bool :=
  c.isAlphanum || c == '_' || 128 ≤ c.toNat

def beginsWithWord (word t : Text) : Bool :=
  match Text.after? word t with
  | none => false
  | some [] => true
  | some (c :: _) => !isNameChar c

def followsNumber (t : Text) : Bool :=
  ["and", "else", "for", "or", "not"].any (fun word => beginsWithWord word.toList t) ||
    ["if", "in", "is"].any fun word => Text.startsWith t word.toList

/-- The end of a number: no name of ASCII letters may begin there. -/
def numberEnd (kind rest : Text) : Except Fault Text :=
  match rest with
  | [] => .ok []
  | c :: more =>
      if c.toNat < 128 && isNameChar c && !followsNumber (c :: more) then .error (.number kind)
      else .ok (c :: more)

def afterDigits (isDigit : Char -> Bool) (fault : Option Char -> Fault) :
    Text -> Except Fault Text
  | [] => .ok []
  | '_' :: rest =>
      match rest with
      | [] => .error (fault none)
      | c :: _ => if isDigit c then afterDigits isDigit fault rest else .error (fault (some c))
  | c :: rest => if isDigit c then afterDigits isDigit fault rest else .ok (c :: rest)

def afterDecimal (t : Text) : Except Fault Text :=
  afterDigits Char.isDigit (fun _ => .number "decimal".toList) t

/-- A base other than ten: what it is called, and its digits. -/
structure Base where
  kind : Text
  isDigit : Char -> Bool

namespace Base

def hexadecimal : Base :=
  ⟨"hexadecimal".toList, fun c =>
    c.isDigit || ('a' ≤ c && c ≤ 'f') || ('A' ≤ c && c ≤ 'F')⟩

def octal : Base :=
  ⟨"octal".toList, fun c => '0' ≤ c && c ≤ '7'⟩

def binary : Base :=
  ⟨"binary".toList, fun c => c == '0' || c == '1'⟩

def ofLetter? (c : Char) : Option Base :=
  if c = 'x' ∨ c = 'X' then some hexadecimal
  else if c = 'o' ∨ c = 'O' then some octal
  else if c = 'b' ∨ c = 'B' then some binary
  else none

/-- A character that is no digit of the base stands where one is needed. -/
def fault (base : Base) : Option Char -> Fault
  | none => .number base.kind
  | some c => if c.isDigit then .digit c base.kind else .number base.kind

def afterNumber (base : Base) (t : Text) : Except Fault Text :=
  let digits := if t.head? = some '_' then t else '_' :: t
  match afterDigits base.isDigit base.fault digits with
  | .error fault => .error fault
  | .ok [] => .ok []
  | .ok (c :: rest) =>
      if c.isDigit then .error (.digit c base.kind) else numberEnd base.kind (c :: rest)

end Base

def decimalEnd (t : Text) : Except Fault (Bool × Text) :=
  match t with
  | c :: rest =>
      if c = 'j' ∨ c = 'J' then
        (numberEnd "imaginary".toList rest).map fun rest => (true, rest)
      else (numberEnd "decimal".toList t).map fun rest => (false, rest)
  | [] => .ok (false, [])

def exponentDigits (t : Text) : Except Fault (Bool × Text) :=
  match afterDecimal t with
  | .error fault => .error fault
  | .ok rest => decimalEnd rest

def afterFraction (t : Text) : Except Fault (Bool × Text) :=
  match t with
  | e :: rest =>
      if e = 'e' ∨ e = 'E' then
        match rest with
        | c :: more =>
            if c = '+' ∨ c = '-' then
              match more with
              | d :: _ =>
                  if d.isDigit then exponentDigits more
                  else .error (.number "decimal".toList)
              | [] => .error (.number "decimal".toList)
            else if c.isDigit then exponentDigits rest
            else (numberEnd "decimal".toList t).map fun rest => (false, rest)
        | [] => .error (.number "decimal".toList)
      else decimalEnd t
  | [] => .ok (false, [])

def afterPoint (t : Text) : Except Fault (Bool × Text) :=
  match t with
  | [] => .ok (false, [])
  | c :: _ =>
      if c.isDigit then
        match afterDecimal t with
        | .error fault => .error fault
        | .ok rest => afterFraction rest
      else afterFraction t

def hasNonzero (t rest : Text) : Bool :=
  (t.take (t.length - rest.length)).any fun c => c != '0' && c != '_'

def decimal (t : Text) : Except Fault (Bool × Text) :=
  match afterDecimal t with
  | .error fault => .error fault
  | .ok ('.' :: rest) => afterPoint rest
  | .ok rest =>
      if t.head? == some '0' && hasNonzero t rest &&
          !rest.head?.any ("eEjJ".toList.contains ·) then
        .error .leadingZeros
      else afterFraction rest

/-- Read a number that begins with a digit: whether it is imaginary, and what
follows it. -/
def number (t : Text) : Except Fault (Bool × Text) :=
  match t with
  | '0' :: letter :: rest =>
      match Base.ofLetter? letter with
      | some base => (base.afterNumber rest).map fun rest => (false, rest)
      | none => decimal t
  | _ => decimal t

/-- A decimal whole number has too many digits; zeros alone are never too many. -/
def digitsFault? (t : Text) : Option Fault :=
  let digits := t.filter (· != '_')
  if digits.all Char.isDigit && digits.any (· != '0') && Text.maxDigits < digits.length then
    some (.tooManyDigits digits.length)
  else none

end Literal
end PodManual
