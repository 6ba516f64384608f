import Std.Data.HashMap
import PodManual.Console.Literal.Grammar
import PodManual.Console.Literal.Token

/-!
# Reading tokens by the grammar

A reader finds what it looks for at a token, or does not find it, or refuses the
tokens for good.  The rules call each other, and so do the groups and repetitions
in them; these calls may be nested only so deep.

What some rules find at a token is kept.  A rule that begins with itself finds there
what it has found so far, and so its reading is repeated as long as it finds more.
-/

namespace PodManual
namespace Literal

/-- What a reader makes of the tokens from a position on. -/
inductive Result (α : Type) where
  /-- What was looked for, and the position after it. -/
  | found (a : α) (next : Nat)
  | absent
  | refused (fault : Fault)
  /-- A reader came to the break of the tokens. -/
  | broken (fault : Fault)
  deriving DecidableEq, Repr

namespace Result

def map {α β : Type} (f : α -> β) : Result α -> Result β
  | .found a next => .found (f a) next
  | .absent => .absent
  | .refused fault => .refused fault
  | .broken fault => .broken fault

end Result

structure Memory where
  /-- The number of tokens that have been looked at. -/
  reached : Nat
  /-- Slips are looked for. -/
  diagnoses : Bool
  /-- What rules have found at positions, and the positions after it. -/
  kept : Std.HashMap (Rule × Nat) (Result Node)

abbrev Reader (α : Type) := Nat -> Memory -> Result α × Memory

/-- What is given to all readers: the tokens, what strings side by side are, and how
a fault of the grammar is shown. -/
structure Source where
  tokens : Array Token
  strings : List (StringForm × Text) -> Except Fault Node
  raise : Fault -> Fault

namespace Reader

def map {α β : Type} (f : α -> β) (read : Reader α) : Reader β := fun position memory =>
  match read position memory with
  | (result, memory) => (result.map f, memory)

end Reader

/-! ## Tokens -/

namespace Source

variable (source : Source)

def peek : Reader Lexeme := fun position memory =>
  let memory := { memory with reached := max memory.reached (position + 1) }
  match source.tokens[position]? with
  | none => (.absent, memory)
  | some token =>
      match token.lexeme with
      | .broken b => (.broken b.fault, memory)
      | lexeme => (.found lexeme position, memory)

def take {α : Type} (accept : Lexeme -> Option α) : Reader α := fun position memory =>
  match source.peek position memory with
  | (.found lexeme _, memory) =>
      match accept lexeme with
      | some a => (.found a (position + 1), memory)
      | none => (.absent, memory)
  | (.absent, memory) => (.absent, memory)
  | (.refused fault, memory) => (.refused fault, memory)
  | (.broken fault, memory) => (.broken fault, memory)

def depthAt (position : Nat) : Nat :=
  match source.tokens[position - 1]? with
  | some token => token.depth
  | none => 0

end Source

def reserved : List Text :=
  (["False", "None", "True", "and", "as", "assert", "async", "await", "break", "class",
    "continue", "def", "del", "elif", "else", "except", "finally", "for", "from",
    "global", "if", "import", "in", "is", "lambda", "nonlocal", "not", "or", "pass",
    "raise", "return", "try", "while", "with", "yield"]).map String.toList

def softNames : List Text :=
  ["_".toList, "case".toList, "match".toList]

/-- A name that may be followed by anything, or the beginning of one. -/
def isSoft (t : Text) : Bool :=
  softNames.any fun name => Text.startsWith name t

namespace Lexeme

def isToken (t : Text) : Lexeme -> Bool
  | .mark other => other == t
  | .name other => other == t && reserved.contains other
  | _ => false

def name? : Lexeme -> Option Text
  | .name t => if reserved.contains t then none else some t
  | _ => none

def string? : Lexeme -> Option (StringForm × Text)
  | .string form inside => some (form, inside)
  | _ => none

end Lexeme

/-! ## Calls -/

inductive Callee where
  | rule (r : Rule)
  /-- One reading of a rule that begins with itself. -/
  | once (r : Rule)
  | group (alternatives : List (List Item))
  | many (item : Item)
  | some (item : Item)
  | listed (item : Item)
  /-- The things of a list after the first one. -/
  | listedRest (item : Item)

abbrev Calls := Callee -> Reader Node

def Item.findsPart : Item -> Bool
  | .token _ => false
  | .lineBreak => false
  | .ending => false
  | .ahead _ => false
  | .unless _ => false
  | .cut => false
  | .optional item => item.findsPart
  | .many item => item.findsPart
  | .some item => item.findsPart
  | _ => true

variable (source : Source) (calls : Calls)

def silent (accept : Lexeme -> Bool) : Reader (Option Node) :=
  source.take fun lexeme => if accept lexeme then some none else none

def stringsFrom : Nat -> List (StringForm × Text) -> Reader (List (StringForm × Text))
  | 0, parts, position, memory => (.found parts.reverse position, memory)
  | bound + 1, parts, position, memory =>
      match source.take Lexeme.string? position memory with
      | (.found part next, memory) => stringsFrom bound (part :: parts) next memory
      | (.absent, memory) => (.found parts.reverse position, memory)
      | (.refused fault, memory) => (.refused fault, memory)
      | (.broken fault, memory) => (.broken fault, memory)

def readStrings : Reader (Option Node) := fun position memory =>
  match stringsFrom source source.tokens.size [] position memory with
  | (.found [] _, memory) => (.absent, memory)
  | (.found parts next, memory) =>
      match source.strings parts with
      | .ok node => (.found (some node) next, memory)
      | .error fault => (.refused fault, memory)
  | (.absent, memory) => (.absent, memory)
  | (.refused fault, memory) => (.refused fault, memory)
  | (.broken fault, memory) => (.broken fault, memory)

def readNumber : Reader (Option Node) := fun position memory =>
  match source.take (fun
    | .number imaginary fault? => some (imaginary, fault?)
    | _ => none) position memory with
  | (.found (imaginary, none) next, memory) => (.found (some (.number imaginary)) next, memory)
  | (.found (_, some fault) _, memory) => (.refused (source.raise fault), memory)
  | (.absent, memory) => (.absent, memory)
  | (.refused fault, memory) => (.refused fault, memory)
  | (.broken fault, memory) => (.broken fault, memory)

def readPart (findsPart : Bool) (callee : Callee) : Reader (Option Node) :=
  Reader.map (fun node => if findsPart then some node else none) (calls callee)

def readItem : Item -> Reader (Option Node)
  | .token t => silent source (Lexeme.isToken t.toList)
  | .lineBreak => silent source (· == .lineBreak)
  | .ending => silent source (· == .ending)
  | .name =>
      source.take fun lexeme => lexeme.name?.map fun t => some (.name (Text.plainIdentifier t))
  | .softName =>
      source.take fun lexeme => lexeme.name?.bind fun t =>
        if isSoft t then some (some (.name t)) else none
  | .number => readNumber source
  | .string => source.take fun lexeme => lexeme.string?.map fun _ => some .string
  | .strings => readStrings source
  | .rule r => readPart calls true (.rule r)
  | .many item => readPart calls item.findsPart (.many item)
  | .some item => readPart calls item.findsPart (.some item)
  | .listed item => readPart calls true (.listed item)
  | .group alternatives => readPart calls true (.group alternatives)
  | .cut => fun position memory => (.found none position, memory)
  | .optional item => fun position memory =>
      match readItem item position memory with
      | (.absent, memory) =>
          (.found (if item.findsPart then some .missing else none) position, memory)
      | result => result
  | .ahead item => fun position memory =>
      match readItem item position memory with
      | (.found _ _, memory) => (.found none position, memory)
      | result => result
  | .unless item => fun position memory =>
      match readItem item position memory with
      | (.found _ _, memory) => (.absent, memory)
      | (.absent, memory) => (.found none position, memory)
      | result => result

/-- Read items one after the other: the parts that they find.  An item that is not
found makes the reading final, if a cut was before it. -/
def readItems (final : Bool) (found : List Node) : List Item -> Nat -> Memory ->
    Result (List Node) × Bool × Memory
  | [], position, memory => (.found found.reverse position, final, memory)
  | .cut :: items, position, memory => readItems true found items position memory
  | item :: items, position, memory =>
      match readItem source calls item position memory with
      | (.found part? next, memory) => readItems final (part?.toList ++ found) items next memory
      | (.absent, memory) => (.absent, final, memory)
      | (.refused fault, memory) => (.refused fault, final, memory)
      | (.broken fault, memory) => (.broken fault, final, memory)

/-- What an alternative makes of its parts, which end at a position. -/
def Action.perform (action : Action) (nodes : List Node) (position : Nat) : Result Node :=
  match action with
  | .build make => .found (make nodes) position
  | .diagnose find =>
      match find (source.depthAt position) nodes with
      | some fault => .refused (source.raise fault)
      | none => .absent

def Alternative.isSlip (alternative : Alternative) : Bool :=
  match alternative.items with
  | [.rule r] => r.isSlip
  | _ => false

/-- Read the first alternative that fits.  Those of slips are left out unless slips are
looked for. -/
def readFirst : List Alternative -> Reader Node
  | [], _, memory => (.absent, memory)
  | alternative :: others, position, memory =>
      if alternative.isSlip && !memory.diagnoses then readFirst others position memory
      else
        match readItems source calls false [] alternative.items position memory with
        | (.found nodes next, _, memory) => (alternative.action.perform source nodes next, memory)
        | (.absent, true, memory) => (.absent, memory)
        | (.absent, false, memory) => readFirst others position memory
        | (.refused fault, _, memory) => (.refused fault, memory)
        | (.broken fault, _, memory) => (.broken fault, memory)

def readMany (read : Reader Node) : Nat -> List Node -> Reader (List Node)
  | 0, found, position, memory => (.found found.reverse position, memory)
  | bound + 1, found, position, memory =>
      match read position memory with
      | (.found node next, memory) => readMany read bound (node :: found) next memory
      | (.absent, memory) => (.found found.reverse position, memory)
      | (.refused fault, memory) => (.refused fault, memory)
      | (.broken fault, memory) => (.broken fault, memory)

def Memory.keep (memory : Memory) (rule : Rule) (position : Nat) (result : Result Node) :
    Memory :=
  { memory with kept := memory.kept.insert (rule, position) result }

/-- Read a rule that begins with itself, as long as it finds more than before. -/
def readExtended (rule : Rule) (start : Nat) : Nat -> Result Node -> Nat -> Memory ->
    Result Node × Memory
  | 0, _, _, memory => (.absent, memory)
  | bound + 1, before, position, memory =>
      match calls (.once rule) start (memory.keep rule start before) with
      | (.found node next, memory) =>
          if position < next then readExtended rule start bound (.found node next) next memory
          else (before, memory)
      | (.absent, memory) => (before, memory)
      | (.refused fault, memory) => (.refused fault, memory)
      | (.broken fault, memory) => (.broken fault, memory)

def readKept (rule : Rule) (read : Reader Node) : Reader Node := fun position memory =>
  match source.peek position memory with
  | (.broken fault, memory) => (.broken fault, memory)
  | (_, memory) =>
      match memory.kept[(rule, position)]? with
      | some result => (result, memory)
      | none => read position memory

def keeping (rule : Rule) (read : Reader Node) : Reader Node := fun position memory =>
  match read position memory with
  | (.found node next, memory) => (.found node next, memory.keep rule position (.found node next))
  | (.absent, memory) => (.absent, memory.keep rule position .absent)
  | (.refused fault, memory) => (.refused fault, memory)
  | (.broken fault, memory) => (.broken fault, memory)

/-- Read without looking for slips, which are looked for again after that. -/
def plainly (read : Reader Node) : Reader Node := fun position memory =>
  match read position { memory with diagnoses := false } with
  | (result, memory) => (result, { memory with diagnoses := true })

def readRule (rule : Rule) : Reader Node :=
  if rule.isExtended then
    readKept source rule fun position memory =>
      readExtended calls rule position (source.tokens.size + 1) .absent position memory
  else if rule.isKept then
    readKept source rule (keeping rule (readFirst source calls rule.alternatives))
  else if rule = .plainExpression then plainly (readFirst source calls rule.alternatives)
  else readFirst source calls rule.alternatives

def readOnce (items : List Item) : Reader Node :=
  readFirst source calls [.pass items]

def readCallee : Callee -> Reader Node
  | .rule r => readRule source calls r
  | .once r => readFirst source calls r.alternatives
  | .group alternatives => readFirst source calls (alternatives.map .pass)
  | .many item =>
      Reader.map .several (readMany (readOnce source calls [item]) source.tokens.size [])
  | .some item => fun position memory =>
      match readMany (readOnce source calls [item]) source.tokens.size [] position memory with
      | (.found [] _, memory) => (.absent, memory)
      | (result, memory) => (result.map .several, memory)
  | .listed item => fun position memory =>
      match readOnce source calls [item] position memory with
      | (.found first next, memory) =>
          Reader.map (fun others => .several (first :: others.toList))
            (calls (.listedRest item)) next memory
      | result => result
  | .listedRest item =>
      Reader.map .several
        (readMany (readOnce source calls [.token ",", item]) source.tokens.size [])

/-- The readers of what is called, when calls may be nested so deep. -/
def callsAt : Nat -> Calls
  | 0 => fun _ _ memory => (.refused .tooComplex, memory)
  | depth + 1 => readCallee source (callsAt depth)

def maxCalls : Nat := 6000

end Literal
end PodManual
