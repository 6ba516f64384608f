import PodManual.Console.Literal.Formatted
import PodManual.Console.Literal.Reader
import PodManual.Text.Utf8

/-!
# Expressions

Tokens that make up no expression are read a second time to find out why, and then
slips are looked for too.  A break of the tokens that is further on may still be the
fault that counts.
-/

namespace PodManual
namespace Literal

/-! ## Strings -/

/-- The fault of strings side by side: that of one of them, or that only some of them
are bytes. -/
def stringsFault? (checks : Formatted.Checks) (bytes : Bool) :
    List (StringForm × Text) -> Option Fault
  | [] => none
  | (form, inside) :: rest =>
      match form.fault? inside with
      | some fault => some (checks.raise fault)
      | none =>
          if form.bytes != bytes then some (checks.raise .mixedStrings)
          else
            match
              if form.formatted then Formatted.fault? checks form.raw inside else none with
            | some fault => some fault
            | none => stringsFault? checks bytes rest

def joinStrings (checks : Formatted.Checks) (parts : List (StringForm × Text)) :
    Except Fault Node :=
  let bytes := parts.head?.any fun part => part.1.bytes
  match stringsFault? checks bytes parts with
  | some fault => .error fault
  | none =>
      if parts.any fun part => part.1.formatted then .ok (.other .formatted [])
      else .ok .string

/-! ## Faults -/

/-- The fault that counts in place of one that reading has found, when the reading has
come to a line. -/
def Source.overruled (source : Source) (line : Nat) (fault : Fault) : Fault :=
  match source.tokens.back? with
  | some ⟨.broken b, _, _, _⟩ =>
      if b.decisive then b.fault
      else
        match b.bracket? with
        | some (opening, bracketLine) =>
            if bracketLine < line then source.raise (.neverClosed opening) else fault
        | none => fault
  | _ => fault

def Source.last? (source : Source) (memory : Memory) : Option Token :=
  source.tokens[memory.reached - 1]?

def Source.readAll (source : Source) (start : Rule) (reached : Nat) (diagnoses : Bool) :
    Result Node × Memory :=
  callsAt source maxCalls (.rule start) 0 ⟨reached, diagnoses, {}⟩

/-- The fault of a reading that was refused.  Nothing overrules it where the end of
the text has been seen. -/
def Source.refusal (source : Source) (fault : Fault) (memory : Memory) : Fault :=
  match fault, source.last? memory with
  | .tooComplex, _ => .tooComplex
  | fault, some token =>
      if token.atEnd then fault else source.overruled token.line fault
  | fault, none => fault

/-- The fault of tokens in which no slip was found: the last one that was looked at
before is where they are no expression. -/
def Source.plainFault (source : Source) (before after : Memory) : Fault :=
  if (source.last? before).any fun token => token.lexeme == .indent then
    source.raise .indented
  else
    match source.last? after with
    | some token => source.overruled token.line (source.raise .invalid)
    | none => source.raise .invalid

/-- The expression that tokens make up by a rule, or why they make up none. -/
def Source.parse (source : Source) (start : Rule) : Except Fault Node :=
  match source.readAll start 0 false with
  | (.found node _, _) => .ok node
  | (.refused fault, memory) => .error (source.refusal fault memory)
  | (.broken fault, _) => .error fault
  | (.absent, before) =>
      match source.readAll start before.reached true with
      | (.refused fault, memory) => .error (source.refusal fault memory)
      | (.broken fault, _) => .error fault
      | (_, after) => .error (source.plainFault before after)

/-- The tokens with the faults of breaks that are no faults of single tokens shown as
such. -/
def raisedTokens (raise : Fault -> Fault) (tokens : List Token) : List Token :=
  tokens.map fun token =>
    match token.lexeme with
    | .broken b =>
        if b.decisive then token
        else { token with lexeme := .broken { b with fault := raise b.fault } }
    | _ => token

/-- The expression that a text makes up by a rule, or why it makes up none.  The
expressions in formatted strings are shorter than the text, the length of which
bounds how deep they are nested. -/
def parseText : Nat -> (Fault -> Fault) -> Rule -> Text -> Except Fault Node
  | 0, _, _, _ => .error .tooComplex
  | bound + 1, raise, start, t =>
      let check := fun expression : Text =>
        match parseText bound .formatted .embedded ('(' :: expression ++ ")\n".toList) with
        | .ok _ => none
        | .error fault => some fault
      let source : Source :=
        ⟨(raisedTokens raise (tokens t)).toArray, joinStrings ⟨raise, check⟩, raise⟩
      source.parse start

/-! ## Literals -/

def maxParts : Nat := 2960

/-- The value of the literal that a text is, or why it is none. -/
def read (t : Text) : Except (Fault ⊕ Flaw) Value :=
  if t.contains '\x00' then .error (.inr .null)
  else
    match parseText (t.length + 1) id .whole (Text.unifyNewlines t) with
    | .error .tooComplex => .error (.inr .tooComplex)
    | .error fault => .error (.inl fault)
    | .ok node =>
        if maxParts < node.depth then .error (.inr .tooDeep)
        else
          match node.value with
          | .error flaw => .error (.inr flaw)
          | .ok value => .ok value

end Literal
end PodManual
