import PodManual.Text.Digit

/-!
# JSON

The grammar of JSON texts, and a reader for it.  The grammar says how the values are
spelled, with white space around every value, every name and every mark; the reader goes
through a text once, from its beginning to its end.  A text has no half of a surrogate
pair, so two escaped halves spell a character together or not at all.
-/

namespace PodManual

/-- A value.  A number with a fraction or an exponent is kept as it is written. -/
inductive Json where
  | null
  | bool (b : Bool)
  | integer (n : Int)
  | decimal (numeral : Text)
  | string (t : Text)
  | array (items : List Json)
  | object (members : List (Text × Json))

namespace Json

/-!
## The grammar
-/

def isSpace (c : Char) : Bool :=
  c == ' ' || c == '\t' || c == '\n' || c == '\r'

def skip (t : Text) : Text :=
  t.dropWhile isSpace

def literals : List (Text × Json) :=
  [("null".toList, .null), ("true".toList, .bool true), ("false".toList, .bool false)]

def isNumeralChar (c : Char) : Bool :=
  c.isDigit || c == '+' || c == '-' || c == '.' || c == 'e' || c == 'E'

def isDigits (t : Text) : Bool :=
  t != [] && t.all Char.isDigit

/-- Digits without a zero before others. -/
def isWhole (t : Text) : Bool :=
  isDigits t && (t.head? != some '0' || t == ['0'])

def unsigned (signs : List Char) : Text -> Text
  | [] => []
  | c :: rest => if c ∈ signs then rest else c :: rest

def isExponent : Text -> Bool
  | [] => true
  | c :: rest => (c == 'e' || c == 'E') && isDigits (unsigned ['+', '-'] rest)

/-- What may follow the whole part: a fraction or nothing, an exponent or nothing. -/
def isFraction : Text -> Bool
  | '.' :: rest =>
      isDigits (rest.takeWhile Char.isDigit) && isExponent (rest.dropWhile Char.isDigit)
  | t => isExponent t

def isNumeral (t : Text) : Bool :=
  let magnitude := unsigned ['-'] t
  isWhole (magnitude.takeWhile Char.isDigit) && isFraction (magnitude.dropWhile Char.isDigit)

def integerOf (t : Text) : Int :=
  let magnitude : Int := Nat.ofDigitChars 10 (unsigned ['-'] t) 0
  if t.head? = some '-' then -magnitude else magnitude

def number? (t : Text) : Option Json :=
  if isWhole (unsigned ['-'] t) then some (.integer (integerOf t))
  else if isNumeral t then some (.decimal t)
  else none

def shortEscapes : List (Char × Char) :=
  [('\x22', '\x22'), ('\\', '\\'), ('/', '/'), ('b', '\x08'), ('f', '\x0C'), ('n', '\n'),
   ('r', '\r'), ('t', '\t')]

def isPlain (c : Char) : Bool :=
  0x20 ≤ c.toNat && c != '\x22' && c != '\\'

def unit? : Text -> Option (Nat × Text)
  | a :: b :: c :: d :: rest =>
      match Text.hexValue? a, Text.hexValue? b, Text.hexValue? c,
        Text.hexValue? d with
      | some a, some b, some c, some d => some (((a * 16 + b) * 16 + c) * 16 + d, rest)
      | _, _, _, _ => none
  | _ => none

def ofCode? (n : Nat) : Option Char :=
  if n.isValidChar then some (Char.ofNat n) else none

def ofPair? (high low : Nat) : Option Char :=
  if 0xD800 ≤ high ∧ high < 0xDC00 ∧ 0xDC00 ≤ low ∧ low < 0xE000 then
    ofCode? (0x10000 + (high - 0xD800) * 0x400 + (low - 0xDC00))
  else none

inductive CharSpelled : Char -> Text -> Prop where
  | plain {c : Char} : isPlain c = true -> CharSpelled c [c]
  | short {mark c : Char} : shortEscapes.lookup mark = some c -> CharSpelled c ['\\', mark]
  | unit {digits : Text} {n : Nat} {c : Char} :
      unit? digits = some (n, []) -> ofCode? n = some c ->
      CharSpelled c ('\\' :: 'u' :: digits)
  | pair {first second : Text} {high low : Nat} {c : Char} :
      unit? first = some (high, []) -> unit? second = some (low, []) ->
      ofPair? high low = some c ->
      CharSpelled c ('\\' :: 'u' :: first ++ '\\' :: 'u' :: second)

inductive TextSpelled : Text -> Text -> Prop where
  | nil : TextSpelled [] []
  | cons {c : Char} {t s spelled : Text} : CharSpelled c s -> TextSpelled t spelled ->
      TextSpelled (c :: t) (s ++ spelled)

def enclosed (opening closing : Char) (t : Text) : Text :=
  opening :: (t ++ [closing])

/-- What is spelled: a value, or a member of an object with its name. -/
inductive Form where
  | value (v : Json)
  | member (named : Text × Json)

inductive Spelled : Form -> Text -> Prop where
  | padded {form : Form} {before t after : Text} :
      before.all isSpace = true -> after.all isSpace = true -> Spelled form t ->
      Spelled form (before ++ t ++ after)
  | literal {word : Text} {v : Json} : (word, v) ∈ literals -> Spelled (.value v) word
  | number {t : Text} {v : Json} : number? t = some v -> Spelled (.value v) t
  | string {t s : Text} : TextSpelled t s ->
      Spelled (.value (.string t)) (enclosed '\x22' '\x22' s)
  | emptyArray {gap : Text} : gap.all isSpace = true ->
      Spelled (.value (.array [])) (enclosed '[' ']' gap)
  | array {pieces : List (Json × Text)} : pieces ≠ [] ->
      (forall piece, piece ∈ pieces -> Spelled (.value piece.1) piece.2) ->
      Spelled (.value (.array (pieces.map Prod.fst)))
        (enclosed '[' ']' (Text.joinWith [','] (pieces.map Prod.snd)))
  | member {name s gap t : Text} {v : Json} :
      TextSpelled name s -> gap.all isSpace = true -> Spelled (.value v) t ->
      Spelled (.member (name, v)) (enclosed '\x22' '\x22' s ++ gap ++ ':' :: t)
  | emptyObject {gap : Text} : gap.all isSpace = true ->
      Spelled (.value (.object [])) (enclosed '\x7b' '\x7d' gap)
  | object {pieces : List ((Text × Json) × Text)} : pieces ≠ [] ->
      (forall piece, piece ∈ pieces -> Spelled (.member piece.1) piece.2) ->
      Spelled (.value (.object (pieces.map Prod.fst)))
        (enclosed '\x7b' '\x7d' (Text.joinWith [','] (pieces.map Prod.snd)))

/-!
## The reader
-/

def codePoint? (t : Text) : Option (Char × Text) :=
  match unit? t with
  | none => none
  | some (n, rest) =>
      match ofCode? n with
      | some c => some (c, rest)
      | none =>
          match (Text.after? "\\u".toList rest).bind unit? with
          | none => none
          | some (low, rest) => (ofPair? n low).map fun c => (c, rest)

/-- The character of an escape whose backslash has been read, and what follows it. -/
def escape? : Text -> Option (Char × Text)
  | [] => none
  | mark :: rest =>
      if mark = 'u' then codePoint? rest
      else (shortEscapes.lookup mark).map fun c => (c, rest)

/-- The character that a text between quotes begins with, and what follows it. -/
def character? : Text -> Option (Char × Text)
  | [] => none
  | c :: rest =>
      if c = '\\' then escape? rest else if isPlain c then some (c, rest) else none

/-- At most so many characters up to the closing quote, and what follows it. -/
def characters? : Nat -> Text -> Option (Text × Text)
  | 0, _ => none
  | bound + 1, t =>
      if t.head? = some '\x22' then some ([], t.tail)
      else
        match character? t with
        | none => none
        | some (c, rest) => (characters? bound rest).map fun found => (c :: found.1, found.2)

def string? (t : Text) : Option (Text × Text) :=
  characters? (t.length + 1) t

def scalar? (t : Text) : Option (Json × Text) :=
  match literals.findSome? fun named =>
      (Text.after? named.1 t).map fun rest => (named.2, rest) with
  | some found => some found
  | none =>
      (number? (t.takeWhile isNumeralChar)).map fun v => (v, t.dropWhile isNumeralChar)

section

variable {α : Type}

/-- At most so many elements up to the closing mark, and what follows it. -/
def elements? (element : Text -> Option (α × Text)) (closing : Char) :
    Nat -> Text -> Option (List α × Text)
  | 0, _ => none
  | bound + 1, t =>
      match element t with
      | none => none
      | some (_, []) => none
      | some (a, c :: rest) =>
          if c = ',' then
            (elements? element closing bound rest).map fun found => (a :: found.1, found.2)
          else if c = closing then some ([a], rest)
          else none

/-- The elements of an array or object whose opening mark has been read, and what follows
its closing mark. -/
def collection? (element : Text -> Option (α × Text)) (closing : Char) (t : Text) :
    Option (List α × Text) :=
  if (skip t).head? = some closing then some ([], (skip t).tail)
  else elements? element closing (t.length + 1) t

end

def member? (value : Text -> Option (Json × Text)) (t : Text) :
    Option ((Text × Json) × Text) :=
  if (skip t).head? = some '\x22' then
    match string? (skip t).tail with
    | none => none
    | some (name, rest) =>
        if (skip rest).head? = some ':' then
          (value (skip rest).tail).map fun found => ((name, found.1), found.2)
        else none
  else none

def bare? (value : Text -> Option (Json × Text)) : Text -> Option (Json × Text)
  | [] => none
  | c :: rest =>
      if c = '\x22' then (string? rest).map fun found => (.string found.1, found.2)
      else if c = '[' then
        (collection? value ']' rest).map fun found => (.array found.1, found.2)
      else if c = '\x7b' then
        (collection? (member? value) '\x7d' rest).map fun found => (.object found.1, found.2)
      else scalar? (c :: rest)

/-- A value that is nested at most so deep, and what follows it. -/
def value? : Nat -> Text -> Option (Json × Text)
  | 0, _ => none
  | depth + 1, t =>
      (bare? (value? depth) (skip t)).map fun found => (found.1, skip found.2)

def read? (t : Text) : Option Json :=
  match value? (t.length + 1) t with
  | some (v, []) => some v
  | _ => none

end Json
end PodManual
