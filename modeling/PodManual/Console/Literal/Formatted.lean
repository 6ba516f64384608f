import PodManual.Console.Literal.Token

/-!
# Formatted strings

A formatted string holds expressions in braces.  After an expression may stand an
equals sign, a conversion after an exclamation mark, and a format after a colon; in
a format there may be expressions again, but no further inside.  Outside of
expressions, braces are text when they are doubled.
-/

namespace PodManual
namespace Literal
namespace Formatted

/-! ## Text outside of expressions -/

/-- Where a piece of text ends: at doubled braces, the first of which belongs to it,
at a brace or at the end of the string, or at a brace that closes nothing. -/
inductive PieceEnd where
  | doubled (rest : Text)
  | stopped (rest : Text)
  | lone
  deriving DecidableEq, Repr

structure Piece where
  text : Text
  ending : PieceEnd
  deriving DecidableEq, Repr

def Piece.after (before : Text) (piece : Piece) : Piece :=
  ⟨before ++ piece.text, piece.ending⟩

def atBrace (outermost : Bool) (brace : Char) (rest : Text) : Piece :=
  if !outermost then ⟨[], .stopped (brace :: rest)⟩
  else if rest.head? = some brace then ⟨[brace], .doubled (rest.drop 1)⟩
  else if brace = '\x7d' then ⟨[], .lone⟩
  else ⟨[], .stopped (brace :: rest)⟩

def isBrace (c : Char) : Bool :=
  c == '\x7b' || c == '\x7d'

/-- The piece of text at the beginning of a string.  The braces of an escape by name
belong to it; `inName` says that the text is inside of them. -/
def piece (raw outermost inName : Bool) : Text -> Piece
  | [] => ⟨[], .stopped []⟩
  | c :: rest =>
      if inName then (piece raw outermost (c != '\x7d') rest).after [c]
      else if isBrace c then atBrace outermost c rest
      else if raw || c != '\\' then (piece raw outermost false rest).after [c]
      else
        match rest with
        | [] => ⟨[c], .stopped []⟩
        | ['N'] => ⟨[c, 'N'], .stopped []⟩
        | 'N' :: d :: more => (piece raw outermost (d == '\x7b') more).after [c, 'N', d]
        | d :: more =>
            if isBrace d then (atBrace outermost d more).after [c]
            else (piece raw outermost false more).after [c, d]

/-! ## Expressions -/

/-- A string inside an expression: its quote, and whether there are three. -/
structure Quotes where
  quote : Char
  triple : Bool
  deriving DecidableEq, Repr

abbrev Extent := Except FormatFault (Text × Text)

def extend (before : Text) (extent : Extent) : Extent :=
  extent.map fun (expression, rest) => (before ++ expression, rest)

def endsEarly (quotes? : Option Quotes) (brackets : List Char) : FormatFault :=
  match quotes?, brackets with
  | some _, _ => .unterminated
  | none, opening :: _ => .unmatched opening
  | none, [] => .missingBrace

def beginsComparison (c : Char) : Bool :=
  c == '!' || c == '=' || c == '<' || c == '>'

def endsExpression (c : Char) : Bool :=
  c == '!' || c == ':' || c == '=' || c == '\x7d'

/-- Find the end of an expression.  A string may be open in it, and brackets,
innermost first; `skip` characters belong to what was read last. -/
def extent (skip : Nat) (quotes? : Option Quotes) (brackets : List Char) : Text -> Extent
  | [] => .error (endsEarly quotes? brackets)
  | c :: rest =>
      match skip with
      | skip + 1 => extend [c] (extent skip quotes? brackets rest)
      | 0 =>
          if c = '\\' then .error .backslash
          else
            match quotes? with
            | some quotes =>
                if c != quotes.quote then
                  extend [c] (extent 0 (some quotes) brackets rest)
                else if !quotes.triple then extend [c] (extent 0 none brackets rest)
                else if Text.startsWith rest [c, c] then
                  extend [c] (extent 2 none brackets rest)
                else extend [c] (extent 0 (some quotes) brackets rest)
            | none =>
                if c = '\x22' ∨ c = '\x27' then
                  if Text.startsWith rest [c, c] then
                    extend [c] (extent 2 (some ⟨c, true⟩) brackets rest)
                  else extend [c] (extent 0 (some ⟨c, false⟩) brackets rest)
                else if bracketPairs.any fun pair => pair.1 = c then
                  if maxDepth ≤ brackets.length then .error .tooManyBrackets
                  else extend [c] (extent 0 none (c :: brackets) rest)
                else if c = '#' then .error .comment
                else if brackets = [] ∧ beginsComparison c ∧ rest.head? = some '=' then
                  extend [c] (extent 1 none brackets rest)
                else if brackets = [] ∧ endsExpression c then .ok ([], c :: rest)
                else if bracketPairs.any fun pair => pair.2 = c then
                  match brackets with
                  | [] => .error (.unmatched c)
                  | opening :: outer =>
                      if bracketPairs.lookup opening = some c then
                        extend [c] (extent 0 none outer rest)
                      else .error (.mismatched c opening)
                else extend [c] (extent 0 none brackets rest)

def emptyFault? (expression rest : Text) : Option FormatFault :=
  if expression.all fun c => isGap c || c == '\n' then
    match rest with
    | c :: _ => some (if c = '\x7d' then .empty else .emptyBefore c)
    | [] => some .empty
  else none

def isSpace (c : Char) : Bool :=
  c == ' ' || ('\t' ≤ c && c ≤ '\r')

/-- What follows the equals sign after an expression, if there is one. -/
def afterEquals (t : Text) : Text :=
  match t with
  | '=' :: rest => rest.dropWhile isSpace
  | _ => t

def afterConversion (t : Text) : Except FormatFault Text :=
  match t with
  | [] => .error .missingBrace
  | ['!'] => .error .missingBrace
  | '!' :: c :: rest =>
      if c = 's' ∨ c = 'r' ∨ c = 'a' then .ok rest else .error .conversion
  | _ => .ok t

/-! ## Whole strings -/

/-- How the faults of a string are shown, and how the fault of an expression in it is
looked for. -/
structure Checks where
  raise : Fault -> Fault
  expressionFault? : Text -> Option Fault

namespace Checks

def refuse {α : Type} (checks : Checks) (fault : FormatFault) : Except Fault α :=
  .error (checks.raise (.format fault))

def ofExtent {α : Type} (checks : Checks) : Except FormatFault α -> Except Fault α
  | .ok a => .ok a
  | .error fault => checks.refuse fault

/-- Check an expression, the brace of which has been read: what follows it and its
conversion. -/
def expression (checks : Checks) (t : Text) : Except Fault Text :=
  match extent 0 none [] t with
  | .error fault => checks.refuse fault
  | .ok (expression, rest) =>
      match emptyFault? expression rest with
      | some fault => checks.refuse fault
      | none =>
          match checks.expressionFault? expression with
          | some fault => .error fault
          | none => checks.ofExtent (afterConversion (afterEquals rest))

end Checks

def maxLevel : Nat := 2

/-- Check a string from a piece of text on, at a depth: what follows.  It ends with
its text, or inside a format at a brace.  Every step takes at least one character, so
the length of the text bounds their number. -/
def checkFrom (checks : Checks) (raw : Bool) : Nat -> Nat -> Text -> Except Fault Text
  | 0, _, _ => checks.refuse .missingBrace
  | bound + 1, level, t =>
      let first := piece raw (level == 0) false t
      match first.ending, if raw then none else escapeFault? first.text with
      | .lone, _ => checks.refuse .loneBrace
      | _, some fault => .error (checks.raise fault)
      | .doubled rest, none => checkFrom checks raw bound level rest
      | .stopped ('\x7b' :: rest), none =>
          if maxLevel ≤ level then checks.refuse .nestedTooDeep
          else
            let closing : Except Fault Text :=
              match checks.expression rest with
              | .ok [':'] => checks.refuse .missingBrace
              | .ok (':' :: rest) => checkFrom checks raw bound (level + 1) rest
              | result => result
            match closing with
            | .error fault => .error fault
            | .ok ('\x7d' :: rest) => checkFrom checks raw bound level rest
            | .ok _ => checks.refuse .missingBrace
      | .stopped rest, none =>
          if level != 0 ∧ rest = [] then checks.refuse .missingBrace else .ok rest

def fault? (checks : Checks) (raw : Bool) (inside : Text) : Option Fault :=
  match checkFrom checks raw (inside.length + 1) 0 inside with
  | .error fault => some fault
  | .ok _ => none

end Formatted
end Literal
end PodManual
