import PodManual.Console.Literal.Number
import PodManual.Console.Literal.Quote
import PodManual.Text.Identifier

/-!
# Tokens of literals

A text is cut into names, numbers, strings, marks and line breaks.  Line breaks and
indentations count only where no bracket is open.  The last token is the end of the
text, or a break that ends the cutting before.
-/

namespace PodManual
namespace Literal

structure Break where
  /-- The fault of an expression that goes on to here. -/
  fault : Fault
  /-- A text with such a break has no other fault. -/
  decisive : Bool
  /-- The innermost open bracket, and its line. -/
  bracket? : Option (Char × Nat)
  deriving DecidableEq, Repr

inductive Lexeme where
  | name (t : Text)
  | number (imaginary : Bool) (fault? : Option Fault)
  | string (form : StringForm) (inside : Text)
  | mark (t : Text)
  | lineBreak
  | indent
  | dedent
  | ending
  | broken (b : Break)
  deriving DecidableEq, Repr

/-- A token, its line, and the number of brackets that are open after it. -/
structure Token where
  lexeme : Lexeme
  line : Nat
  depth : Nat
  /-- The end of the text was seen when the token was cut. -/
  atEnd : Bool
  deriving DecidableEq, Repr

/-- To find the end of the token takes a look at what follows it. -/
def Lexeme.looksAhead : Lexeme -> Bool
  | .name _ => true
  | .number _ _ => true
  | .mark t => t.length < 3
  | .string _ inside => inside.isEmpty
  | _ => false

/-! ## Where the cutting stands -/

/-- The width of an indentation, with wide tabulators and with narrow ones. -/
structure Indent where
  wide : Nat
  narrow : Nat
  deriving DecidableEq, Repr

structure Position where
  line : Nat
  /-- The open brackets with their lines, innermost first. -/
  brackets : List (Char × Nat)
  /-- A line is about to begin. -/
  atStart : Bool
  /-- The line is blank, but for a comment. -/
  blank : Bool
  /-- The indentations of the lines around, innermost first, but for none. -/
  indents : List Indent
  deriving DecidableEq, Repr

def maxDepth : Nat := 200

def maxIndents : Nat := 100

def bracketPairs : List (Char × Char) :=
  [('(', ')'), ('\x5b', '\x5d'), ('\x7b', '\x7d')]

/-- What has been cut off, what follows it, and where the cutting stands then. -/
structure Cut where
  tokens : List Token
  rest : Text
  position : Position

/-- The tokens of a cut; those at the end of the text know it. -/
def Cut.allTokens (cut : Cut) : List Token :=
  cut.tokens.map fun token =>
    { token with atEnd := cut.rest.isEmpty && token.lexeme.looksAhead }

namespace Position

def start : Position :=
  ⟨1, [], true, false, []⟩

def token (position : Position) (lexeme : Lexeme) : Token :=
  ⟨lexeme, position.line, position.brackets.length, false⟩

def breakOff (position : Position) (fault : Fault) (decisive : Bool) : Token :=
  position.token (.broken ⟨fault, decisive, position.brackets.head?⟩)

def endingFault (position : Position) : Fault :=
  match position.brackets with
  | [] => .ending
  | (opening, _) :: _ => .neverClosed opening

def ending (position : Position) : Token :=
  match position.brackets with
  | [] => position.token .ending
  | _ :: _ => position.breakOff position.endingFault false

def nextLine (position : Position) : Position :=
  { position with line := position.line + 1 }

def after (position : Position) (t rest : Text) : Position :=
  { position with
    line := position.line + (t.take (t.length - rest.length)).count '\n' }

def enter (position : Position) (opening : Char) : Except Fault Position :=
  if maxDepth ≤ position.brackets.length then .error .nestedTooDeep
  else .ok { position with brackets := (opening, position.line) :: position.brackets }

def leave (position : Position) (closing : Char) : Except Fault Position :=
  match position.brackets with
  | [] => .error (.unmatched closing)
  | (opening, line) :: outer =>
      if bracketPairs.lookup opening = some closing then
        .ok { position with brackets := outer }
      else
        .error (.mismatched closing opening
          (if line = position.line then none else some line))

end Position

/-! ## Names, numbers, strings and marks -/

def longMarks : List Text :=
  (["...", "**=", "//=", "<<=", ">>=", "!=", "%=", "&=", "**", "*=", "+=", "-=", "->",
    "//", "/=", ":=", "<<", "<=", "<>", "==", ">=", ">>", "@=", "^=", "|="]).map
    String.toList

def cutString (position : Position) (form : StringForm) (quote : Char) (t : Text) :
    Except Fault Cut :=
  match stringInside position.line quote t with
  | .error fault => .error fault
  | .ok (inside, rest) =>
      .ok ⟨[position.token (.string form inside)], rest, position.after t rest⟩

def cutName (position : Position) (t : Text) : Except Fault Cut :=
  let name := t.takeWhile isNameChar
  let rest := t.dropWhile isNameChar
  let cut : Except Fault Cut :=
    match if name.all fun c => c.toNat < 128 then none else Text.strayChar? name with
    | some c => .error (.character c)
    | none => .ok ⟨[position.token (.name name)], rest, position⟩
  match rest, StringForm.ofLetters? name with
  | c :: more, some form =>
      if c = '\x22' ∨ c = '\x27' then cutString position form c more else cut
  | _, _ => cut

def cutNumber (position : Position) (t : Text) (result : Except Fault (Bool × Text)) :
    Except Fault Cut :=
  match result with
  | .error fault => .error fault
  | .ok (imaginary, rest) =>
      let fault? := digitsFault? (t.take (t.length - rest.length))
      .ok ⟨[position.token (.number imaginary fault?)], rest, position⟩

def cutMark (position : Position) (c : Char) (rest : Text) : Except Fault Cut :=
  match longMarks.find? fun mark => Text.startsWith (c :: rest) mark with
  | some mark =>
      .ok ⟨[position.token (.mark mark)], (c :: rest).drop mark.length, position⟩
  | none =>
      let next :=
        if bracketPairs.any fun pair => pair.1 = c then position.enter c
        else if bracketPairs.any fun pair => pair.2 = c then position.leave c
        else if Text.isPrintable c then .ok position
        else .error (.character c)
      match next with
      | .error fault => .error fault
      | .ok position => .ok ⟨[position.token (.mark [c])], rest, position⟩

/-- Cut off what a text that is no blank, line break, comment or continuation
begins with. -/
def cutLexeme (position : Position) (c : Char) (rest : Text) : Except Fault Cut :=
  if c.isDigit then cutNumber position (c :: rest) (number (c :: rest))
  else if c = '.' ∧ (rest.head?.any Char.isDigit) then
    cutNumber position (c :: rest) (afterPoint rest)
  else if isNameChar c then cutName position (c :: rest)
  else if c = '\x22' ∨ c = '\x27' then
    cutString position ⟨false, false, false⟩ c rest
  else cutMark position c rest

/-! ## Lines -/

def isGap (c : Char) : Bool :=
  c == ' ' || c == '\t' || c == '\x0c'

/-- A line that is continued after a backslash: what follows the line break, or the
fault. -/
def continued (position : Position) (t : Text) : Except Fault Text :=
  match t with
  | ['\n'] => .error position.endingFault
  | '\n' :: rest => .ok rest
  | _ => .error .continuation

namespace Indent

def tabWidth : Nat := 8

def none : Indent := ⟨0, 0⟩

def add (indent : Indent) (c : Char) : Indent :=
  if c = ' ' then ⟨indent.wide + 1, indent.narrow + 1⟩
  else if c = '\t' then
    ⟨(indent.wide / tabWidth + 1) * tabWidth, indent.narrow + 1⟩
  else .none

end Indent

structure Indentation where
  indent : Indent
  rest : Text
  position : Position

/-- Measure the indentation of a line.  Where a backslash continues it in the next
line, what stands before the first one counts, if it is any.  Every step takes at
least one character, so the length of the text bounds their number. -/
def measure (position : Position) (fixed? : Option Nat) (indent : Indent) :
    Nat -> Text -> Except Fault Indentation
  | bound + 1, '\\' :: rest =>
      match continued position rest with
      | .error fault => .error fault
      | .ok rest =>
          let fixed? := match fixed? with
            | some width => some width
            | none => if indent.wide = 0 then none else some indent.wide
          measure position.nextLine fixed? indent bound rest
  | bound + 1, c :: rest =>
      if isGap c then measure position fixed? (indent.add c) bound rest
      else .ok ⟨(fixed?.map fun width => ⟨width, width⟩).getD indent, c :: rest, position⟩
  | _, rest => .ok ⟨(fixed?.map fun width => ⟨width, width⟩).getD indent, rest, position⟩

/-- The indentations that stay, and the number of those that end, when a line begins
further left. -/
def outdent (indent : Indent) : List Indent -> List Indent × Nat
  | [] => ([], 0)
  | inner :: outer =>
      if indent.wide < inner.wide then
        ((outdent indent outer).1, (outdent indent outer).2 + 1)
      else (inner :: outer, 0)

def Position.indentTo (position : Position) (indent : Indent) :
    Except Fault (List Token × Position) :=
  let current := position.indents.head?.getD .none
  if indent.wide = current.wide then
    if indent.narrow = current.narrow then .ok ([], position) else .error .tabsAndSpaces
  else if current.wide < indent.wide then
    if maxIndents ≤ position.indents.length + 1 then .error .tooManyIndents
    else if indent.narrow ≤ current.narrow then .error .tabsAndSpaces
    else
      .ok ([position.token .indent], { position with indents := indent :: position.indents })
  else
    let (stay, count) := outdent indent position.indents
    let outer := stay.head?.getD .none
    if indent.wide != outer.wide then .error .unindented
    else if indent.narrow != outer.narrow then .error .tabsAndSpaces
    else
      .ok (List.replicate count (position.token .dedent), { position with indents := stay })

/-- Begin a line.  Blank lines and lines inside brackets have no indentation. -/
def beginLine (position : Position) (t : Text) : Except Fault Cut :=
  match measure position none .none t.length t with
  | .error fault => .error fault
  | .ok ⟨indent, rest, position⟩ =>
      let blank := rest.head? == some '#' || rest.head? == some '\n'
      let position := { position with atStart := false, blank := blank }
      if blank || !position.brackets.isEmpty then .ok ⟨[], rest, position⟩
      else (position.indentTo indent).map fun (tokens, position) => ⟨tokens, rest, position⟩

def endLine (position : Position) (rest : Text) : Cut :=
  ⟨if position.blank || !position.brackets.isEmpty then []
    else [position.token .lineBreak],
    rest, { position.nextLine with atStart := true }⟩

/-! ## All tokens -/

/-- The tokens of a text from a position on.  Every step takes at least one character
off or begins a line, so twice the length of the text bounds their number. -/
def tokensFrom : Nat -> Position -> Text -> List Token
  | 0, position, _ => [position.ending]
  | bound + 1, position, t =>
      if position.atStart then
        match beginLine position t with
        | .error fault => [position.breakOff fault false]
        | .ok next => next.tokens ++ tokensFrom bound next.position next.rest
      else
        match t with
        | [] => [position.ending]
        | c :: rest =>
            if isGap c then tokensFrom bound position rest
            else if c = '\n' then
              (endLine position rest).tokens ++
                tokensFrom bound (endLine position rest).position rest
            else if c = '#' then tokensFrom bound position (rest.dropWhile (· != '\n'))
            else if c = '\\' then
              match continued position rest with
              | .error fault => [position.breakOff fault false]
              | .ok rest => tokensFrom bound position.nextLine rest
            else
              match cutLexeme position c rest with
              | .error fault => [position.breakOff fault true]
              | .ok next => next.allTokens ++ tokensFrom bound next.position next.rest

def tokens (t : Text) : List Token :=
  tokensFrom (2 * t.length + 1) .start t

end Literal
end PodManual
