import PodManual.Instruction
import PodManual.Page.Paragraph

/-!
# Body of a page

The body follows the instructions one by one and keeps the lists and entries
that are open, innermost first.  An end of list without a list, or an item
outside every list, closes and opens nothing, so no instruction is refused.
-/

namespace PodManual
namespace Page

inductive Scope where
  | list (kind : ListKind)
  | entry (kind : ListKind)
  deriving DecidableEq, Repr

/-- A list holds definitions when it begins with an item that has a title and
paragraphs. -/
def listKind (next? : Option Instruction) : ListKind :=
  match next? with
  | none => .bulleted
  | some next =>
      if next.role = .item ∧ next.title ≠ [] ∧ next.content ≠ [] then .definition
      else .bulleted

/-- The kind of list that each instruction begins, if it begins one. -/
def listKinds : List Instruction -> List (Option ListKind)
  | [] => []
  | inst :: rest =>
      (if inst.role = .over then some (listKind rest.head?) else none) ::
        listKinds rest

def closeEntry : List Scope -> List Fragment × List Scope
  | .entry kind :: scopes => ([.closeEntry kind], scopes)
  | scopes => ([], scopes)

def closeList : List Scope -> List Fragment × List Scope
  | .list kind :: scopes => ([.closeList kind], scopes)
  | scopes => ([], scopes)

/-- Open an entry of the innermost list, if the innermost scope is one. -/
def openEntry (title : Text) : List Scope -> List Fragment × List Scope
  | .list .bulleted :: scopes =>
      ([.openEntry .bulleted, .text title],
        .entry .bulleted :: .list .bulleted :: scopes)
  | .list .definition :: scopes =>
      ([.openTerm, .text title, .closeTerm, .openEntry .definition],
        .entry .definition :: .list .definition :: scopes)
  | scopes => ([], scopes)

def inTurn (first second : List Scope -> List Fragment × List Scope)
    (scopes : List Scope) : List Fragment × List Scope :=
  ((first scopes).1 ++ (second (first scopes).2).1, (second (first scopes).2).2)

/-- The fragments of an instruction before its paragraphs, and the scopes that
are open after it. -/
def step (scopes : List Scope) (inst : Instruction) (next? : Option Instruction) :
    List Fragment × List Scope :=
  match inst.role with
  | .heading level =>
      ([.openHeading level inst.title, .text inst.title, .closeHeading level], scopes)
  | .over => ([.openList (listKind next?)], .list (listKind next?) :: scopes)
  | .back => inTurn closeEntry closeList scopes
  | .item => inTurn closeEntry (openEntry inst.title) scopes
  | .free => ([.tag inst.element, .text inst.title], scopes)
  | .untagged => ([], scopes)

def bodyFrom : List Scope -> List Instruction -> List Fragment
  | _, [] => []
  | scopes, inst :: rest =>
      (step scopes inst rest.head?).1 ++ contentFragments inst.content ++
        bodyFrom (step scopes inst rest.head?).2 rest

def scopesAfter : List Scope -> List Instruction -> List Scope
  | scopes, [] => scopes
  | scopes, inst :: rest => scopesAfter (step scopes inst rest.head?).2 rest

def body (instructions : List Instruction) : List Fragment :=
  bodyFrom [] instructions

def printBody (instructions : List Instruction) : Text :=
  Fragment.printAll (body instructions)

end Page
end PodManual
