import PodManual.Console.Literal.Node

/-!
# Rules of a grammar

A rule of the grammar of expressions has alternatives, each a list of items.  The
first alternative that fits is taken.  What an alternative makes of the parts that
its items find is either a part of an expression or a diagnosis: slips are common
mistakes that have rules of their own.
-/

namespace PodManual
namespace Literal

/-- Common mistakes that are looked for in a text that is no expression. -/
inductive Slip where
  | expression
  | formerStatement
  | binding
  | group
  | arguments
  | keyword
  | comprehension
  | dictionaryComprehension
  | target
  | entries
  | entry
  | parameters
  | defaults
  | starredParameters
  | doubleStarredParameter
  | defaultValue
  deriving DecidableEq, Hashable, Repr

inductive Rule where
  -- a text that is an expression, and an expression in a formatted string
  | whole
  | embedded
  -- expressions
  | expressions
  | expression
  | plainExpression
  | starredExpressions
  | starredExpression
  | elements
  | element
  | binding
  | boundExpression
  | yieldExpression
  -- operators
  | disjunction
  | conjunction
  | inversion
  | comparison
  | comparisonRest
  | bitwiseOr
  | bitwiseXor
  | bitwiseAnd
  | shift
  | sum
  | term
  | factor
  | power
  | awaited
  | primary
  -- atoms
  | atom
  | strings
  | tuple
  | group
  | set
  | dictionary
  | entries
  | entry
  | keyedEntry
  -- comprehensions
  | clauses
  | clause
  | generator
  | setComprehension
  | dictionaryComprehension
  -- calls
  | arguments
  | argumentList
  | keywordArguments
  | starredArgument
  | keywordOrStarred
  | keywordOrDoubleStarred
  -- functions without a name
  | lambda
  | parameters
  | parameterList
  | plainPositional
  | defaultedPositional
  | starredParameters
  | doubleStarredParameter
  | plainParameter
  | defaultedParameter
  | anyParameter
  | parameter
  | defaultValue
  -- targets of loops
  | targets
  | targetTuple
  | target
  | plainTarget
  | targetAtom
  | targetPrimary
  | targetGoesOn
  | slip (s : Slip)
  deriving DecidableEq, Hashable, Repr

/-- What an alternative consists of.  Marks and words find no part, and neither does
what is only looked at. -/
inductive Item where
  /-- A mark, or a word with a meaning of its own. -/
  | token (t : String)
  | name
  /-- A name that may be followed by anything. -/
  | softName
  | number
  /-- One string, and all strings that stand side by side. -/
  | string
  | strings
  | lineBreak
  | ending
  | rule (r : Rule)
  | optional (item : Item)
  /-- Any number of things, and at least one. -/
  | many (item : Item)
  | some (item : Item)
  /-- At least one thing, with commas between them. -/
  | listed (item : Item)
  | group (alternatives : List (List Item))
  /-- Something has to follow, or must not follow. -/
  | ahead (item : Item)
  | unless (item : Item)
  /-- No other alternative is tried from here on. -/
  | cut

inductive Action where
  | build (make : List Node -> Node)
  /-- A diagnosis, from the number of open brackets after the last token too. -/
  | diagnose (find : Nat -> List Node -> Option Fault)

structure Alternative where
  items : List Item
  action : Action

namespace Alternative

def gather : List Node -> Node
  | [node] => node
  | nodes => .several nodes

def pass (items : List Item) : Alternative :=
  ⟨items, .build gather⟩

def build (items : List Item) (make : List Node -> Node) : Alternative :=
  ⟨items, .build make⟩

def refuse (items : List Item) (fault : Fault) : Alternative :=
  ⟨items, .diagnose fun _ _ => some fault⟩

def diagnose (items : List Item) (find : List Node -> Option Fault) : Alternative :=
  ⟨items, .diagnose fun _ nodes => find nodes⟩

end Alternative
end Literal
end PodManual
