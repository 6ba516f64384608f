import PodManual.Dependency.Resolve
import PodManual.Report
import PodManual.Survey

/-!
# Rows and records

What commands list, as rows of a table and as records of a report.
-/

namespace PodManual
namespace Command

def numbered (start : Nat) : List (List Text) -> List (List Text)
  | [] => []
  | row :: rows => (Text.ofNat start :: row) :: numbered (start + 1) rows

def instructionCount (instructions : List Instruction) : Text :=
  Text.ofNat instructions.length ++ " instrukcji".toList

def dependencyRecord (dependency : Dependency) : Record :=
  [("name".toList, .text dependency.name),
   ("path".toList,
    match dependency.root? with
    | none => .nothing
    | some root => .text root.toText)]

def dependencyRow (dependency : Dependency) : List Text :=
  [dependency.name,
   match dependency.root? with
   | none => "nie znaleziono".toList
   | some root => root.toText]

def filesWord (count : Nat) : Text :=
  if count = 1 then "plik".toList
  else if 2 ≤ count % 10 ∧ count % 10 ≤ 4 ∧ ¬(11 ≤ count % 100 ∧ count % 100 ≤ 14) then
    "pliki".toList
  else "plików".toList

def documentedRecord (found : Documented) : Record :=
  [("path".toList, .text found.path.toText),
   ("classname".toList,
    match Instruction.className found.instructions with
    | none => .nothing
    | some name => .text name),
   ("instructions".toList, .count found.instructions.length)]

def dash : Text := "—".toList

def documentedRow (found : Documented) : List Text :=
  [found.path.toText,
   match Instruction.className found.instructions with
   | some (c :: name) => c :: name
   | _ => dash,
   Text.ofNat found.instructions.length]

def instructionRecord (inst : Instruction) : Record :=
  [("element".toList, .text inst.element), ("title".toList, .text inst.title),
   ("content".toList, .texts inst.content)]

def previewLength : Nat := 60

def preview (paragraph : Text) : Text :=
  let line := Text.joinWith " ".toList (Text.words paragraph)
  if line.length ≤ previewLength then line else line.take previewLength ++ "…".toList

def instructionRow (inst : Instruction) : List Text :=
  [inst.element, inst.title, Text.ofNat inst.content.length,
   match inst.content with
   | [] => dash
   | paragraph :: _ => preview paragraph]

end Command
end PodManual
