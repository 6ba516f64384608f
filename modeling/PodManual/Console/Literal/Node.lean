import PodManual.Console.Literal.Fault

/-!
# Parts of an expression

An expression is a tree.  Of its parts as much is kept as it takes to say what kind
they are, since messages do so, where they cannot be assigned to, and which value
they have, if they are literals.  Of values no more is kept than it takes to know
what they may be part of.
-/

namespace PodManual
namespace Literal

/-- The kinds of expressions that are no literals and have no parts that matter. -/
inductive Kind where
  | formatted
  | attribute
  | operation
  | conditional
  | lambda
  | generator
  | setComprehension
  | dictionaryComprehension
  | awaiting
  | yielding
  | binding
  deriving DecidableEq, Repr

namespace Kind

def display : Kind -> Text
  | .formatted => "f-string expression".toList
  | .attribute => "attribute".toList
  | .operation => "expression".toList
  | .conditional => "conditional expression".toList
  | .lambda => "lambda".toList
  | .generator => "generator expression".toList
  | .setComprehension => "set comprehension".toList
  | .dictionaryComprehension => "dict comprehension".toList
  | .awaiting => "await expression".toList
  | .yielding => "yield expression".toList
  | .binding => "named expression".toList

end Kind

inductive Node where
  /-- Something that may be left out is not there. -/
  | missing
  | several (nodes : List Node)
  | name (t : Text)
  /-- A constant that has a name. -/
  | constant (t : Text)
  | number (imaginary : Bool)
  | string
  | ellipsis
  /-- A part after a plus or a minus sign. -/
  | signed (node : Node)
  /-- Two parts with a plus or a minus sign between them. -/
  | sum (left right : Node)
  /-- Parts that are compared; the first comparison may be a membership. -/
  | comparison (isMembership : Bool) (left : Node) (others : List Node)
  | starred (node : Node)
  | tuple (nodes : List Node)
  | set (nodes : List Node)
  | dictionary (entries : List Node)
  /-- An entry of a dictionary; without a key it takes over another one. -/
  | entry (key value : Node)
  | call (function : Node) (arguments : List Node)
  /-- An argument with a keyword; without one it takes over a dictionary. -/
  | keyword (name? : Option Text) (value : Node)
  | other (kind : Kind) (parts : List Node)

namespace Node

def toList : Node -> List Node
  | .several nodes => nodes
  | .missing => []
  | node => [node]

def display : Node -> Text
  | .name _ => "name".toList
  | .constant t => t
  | .number _ => "literal".toList
  | .string => "literal".toList
  | .ellipsis => "ellipsis".toList
  | .comparison _ _ _ => "comparison".toList
  | .starred _ => "starred".toList
  | .tuple _ => "tuple".toList
  | .set _ => "set display".toList
  | .dictionary _ => "dict literal".toList
  | .call _ _ => "function call".toList
  | .other kind _ => kind.display
  | _ => "expression".toList

mutual

/-- The first part of a target that nothing can be assigned to.  The loop over a
membership assigns to what stands before it. -/
def strayTarget? : Node -> Option Node
  | .name _ => none
  | .other .attribute _ => none
  | .tuple nodes => strayTargets? nodes
  | .starred node => strayTarget? node
  | .comparison true left _ => strayTarget? left
  | .comparison false _ _ => none
  | node => some node

def strayTargets? : List Node -> Option Node
  | [] => none
  | node :: rest =>
      match strayTarget? node with
      | some stray => some stray
      | none => strayTargets? rest

end

mutual

def depth : Node -> Nat
  | .signed node => node.depth + 1
  | .sum left right => max left.depth right.depth + 1
  | .comparison _ left others => max left.depth (depths others) + 1
  | .starred node => node.depth + 1
  | .tuple nodes => depths nodes + 1
  | .set nodes => depths nodes + 1
  | .dictionary entries => depths entries + 1
  | .entry key value => max key.depth value.depth
  | .several nodes => depths nodes
  | .call function arguments => max function.depth (depths arguments) + 1
  | .keyword _ value => value.depth + 1
  | .other _ parts => depths parts + 1
  | .missing => 0
  | .name _ => 1
  | .constant _ => 1
  | .number _ => 1
  | .string => 1
  | .ellipsis => 1

def depths : List Node -> Nat
  | [] => 0
  | node :: rest => max node.depth (depths rest)

end

end Node

/-! ## Values -/

inductive Value where
  /-- A number, real or imaginary, with a sign or without. -/
  | number (imaginary signed : Bool)
  /-- Anything else that can be an element of a set. -/
  | hashable
  /-- Something that cannot, by its type or that of one of its parts. -/
  | unhashable (typeName : Text)
  deriving DecidableEq, Repr

namespace Node

def setType : Text := "set".toList

def dictionaryType : Text := "dict".toList

/-- The value of a part after a sign: only a plain number has one. -/
def signedValue : Except Flaw Value -> Except Flaw Value
  | .ok (.number imaginary false) => .ok (.number imaginary true)
  | _ => .error .computed

/-- The value of two parts with a sign between them: the sum or difference of a real
number and an imaginary one. -/
def sumValue : Except Flaw Value -> Except Flaw Value -> Except Flaw Value
  | .ok (.number false _), .ok (.number true false) => .ok .hashable
  | _, _ => .error .computed

mutual

def value : Node -> Except Flaw Value
  | .constant _ => .ok .hashable
  | .number imaginary => .ok (.number imaginary false)
  | .string => .ok .hashable
  | .ellipsis => .ok .hashable
  | .signed node => signedValue node.value
  | .sum left right => sumValue left.value right.value
  | .tuple nodes => tupleValue nodes
  | .set nodes => setValue nodes
  | .dictionary entries => dictionaryValue entries
  | .call (.name t) [] => if t = setType then .ok (.unhashable setType) else .error .computed
  | _ => .error .computed

/-- The value of a tuple: it can be compared if its elements can. -/
def tupleValue : List Node -> Except Flaw Value
  | [] => .ok .hashable
  | node :: rest =>
      match node.value with
      | .error flaw => .error flaw
      | .ok value =>
          match tupleValue rest, value with
          | .error flaw, _ => .error flaw
          | .ok _, .unhashable typeName => .ok (.unhashable typeName)
          | .ok value, _ => .ok value

def setValue : List Node -> Except Flaw Value
  | [] => .ok (.unhashable setType)
  | node :: rest =>
      match node.value with
      | .error flaw => .error flaw
      | .ok (.unhashable typeName) => .error (.unhashable typeName)
      | .ok _ => setValue rest

def dictionaryValue : List Node -> Except Flaw Value
  | [] => .ok (.unhashable dictionaryType)
  | .entry .missing _ :: _ => .error .unpacked
  | .entry key content :: rest =>
      match key.value, content.value with
      | .error flaw, _ => .error flaw
      | .ok _, .error flaw => .error flaw
      | .ok (.unhashable typeName), .ok _ => .error (.unhashable typeName)
      | .ok _, .ok _ => dictionaryValue rest
  | _ :: _ => .error .computed

end

end Node
end Literal
end PodManual
