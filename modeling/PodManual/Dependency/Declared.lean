import PodManual.Instruction

/-!
# Declared dependencies

A document declares what it depends on in a section titled `Dependencies`: each
item up to the next end of list or heading names one dependency.
-/

namespace PodManual
namespace Dependency

/-- A dependency's name is the title of its item without any white space. -/
def nameOf (title : Text) : Text :=
  Text.squeeze title

def opensSection (inst : Instruction) : Bool :=
  inst.isSection "dependencies".toList

def endsSection (inst : Instruction) : Bool :=
  inst.element == "back".toList || Instruction.isHeading inst.element

/-- The names declared by instructions that follow a section of dependencies, or
that do not. -/
def declaredFrom : Bool -> List Instruction -> List Text
  | _, [] => []
  | false, inst :: rest => declaredFrom (opensSection inst) rest
  | true, inst :: rest =>
      if endsSection inst then declaredFrom false rest
      else if inst.element = "item".toList then
        nameOf inst.title :: declaredFrom true rest
      else declaredFrom true rest

def declared (instructions : List Instruction) : List Text :=
  declaredFrom false instructions

end Dependency
end PodManual
