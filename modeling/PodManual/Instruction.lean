import PodManual.Text.Blank
import PodManual.Text.Case
import PodManual.Text.Digit
import PodManual.Text.Word

/-!
# Instructions

A documented file is a list of instructions.  An instruction is a tag such as
`head1`, `over`, `item` or `back`, the title on its line, and the paragraphs
below it.  A line that begins an instruction has an equals sign before the tag.
Two notions of heading are in use: a *section heading* is any tag that begins
with `head`, and a *page heading* is `head` and one decimal digit, its level.
-/

namespace PodManual

structure Instruction where
  element : Text
  title : Text
  content : List Text
  deriving DecidableEq, Repr

/-- What a page makes of an instruction. -/
inductive Role where
  /-- A heading of a level. -/
  | heading (level : Nat)
  /-- The beginning of a list. -/
  | over
  /-- The end of a list. -/
  | back
  /-- An item of a list. -/
  | item
  /-- Any other tag. -/
  | free
  /-- No tag at all. -/
  | untagged
  deriving DecidableEq, Repr

namespace Instruction

/-- An instruction line is an equals sign, a word, and a title: the rest of the
line without white space at its ends, in which no line feed is left. -/
def ofLine? (line : Text) : Option (Text × Text) :=
  match line with
  | '=' :: rest =>
      let tag := rest.takeWhile Text.isWord
      let title := Text.strip (rest.dropWhile Text.isWord)
      if tag = [] then none
      else if title.contains '\n' then none
      else some (tag, title)
  | _ => none

/-- The level of a page heading: `head` and one decimal digit, before the end
of the tag or before the line feed that ends it. -/
def headingLevel? (element : Text) : Option Nat :=
  match Text.after? "head".toList element with
  | some [digit] => Text.digitValue? digit
  | some [digit, '\n'] => Text.digitValue? digit
  | _ => none

def roleOf (element : Text) : Role :=
  match headingLevel? element with
  | some level => .heading level
  | none =>
      if element = "over".toList then .over
      else if element = "back".toList then .back
      else if element = "item".toList then .item
      else if element = [] then .untagged
      else .free

def role (inst : Instruction) : Role :=
  roleOf inst.element

def isHeading (element : Text) : Bool :=
  Text.startsWith (Text.lower element) "head".toList

def isSection (title : Text) (inst : Instruction) : Bool :=
  isHeading inst.element && Text.lower inst.title == title

/-- The name that a document gives itself: the first paragraph of its first
section titled `NAME`, without white space at its ends. -/
def className (instructions : List Instruction) : Option Text :=
  match instructions.find? (isSection "name".toList) with
  | none => none
  | some inst => inst.content.head?.map Text.strip

end Instruction
end PodManual
