import PodManual.Dialect
import PodManual.Instruction

/-!
# Extraction of instructions

The lines of a source file are read once.  An instruction line opens an
instruction, or, when its tag is `cut`, closes the documentation until the next
one.  Other lines are paragraphs of the open instruction: consecutive lines that
are not blank form one paragraph, and blank lines separate paragraphs.
-/

namespace PodManual

/-- An instruction whose paragraphs are still being read.  The finished
paragraphs and the lines of the unfinished one come latest first. -/
structure Draft where
  element : Text
  title : Text
  finished : List Text
  unfinished : List Text

namespace Draft

def new (element title : Text) : Draft :=
  ⟨element, title, [], []⟩

def endParagraph (draft : Draft) : Draft :=
  match draft.unfinished with
  | [] => draft
  | lines =>
      { draft with
        finished := lines.reverse.flatten :: draft.finished
        unfinished := [] }

def addLine (draft : Draft) (line : Text) : Draft :=
  { draft with unfinished := line :: draft.unfinished }

def toInstruction (draft : Draft) : Instruction :=
  ⟨draft.element, draft.title, draft.endParagraph.finished.reverse⟩

end Draft

/-- The state between two lines: the instructions that are complete, latest
first, and the open one when the documentation is open. -/
structure Extraction where
  complete : List Instruction
  draft? : Option Draft

namespace Extraction

def initial : Extraction :=
  ⟨[], none⟩

def close (state : Extraction) : Extraction :=
  match state.draft? with
  | none => state
  | some draft => ⟨draft.toInstruction :: state.complete, none⟩

def step (state : Extraction) (line : Text) : Extraction :=
  match Instruction.ofLine? line with
  | some (element, title) =>
      if element = "cut".toList then state.close
      else { state.close with draft? := some (Draft.new element title) }
  | none =>
      match state.draft? with
      | none => state
      | some draft =>
          if Text.allBlank line then { state with draft? := some draft.endParagraph }
          else { state with draft? := some (draft.addLine line) }

def instructions (state : Extraction) : List Instruction :=
  state.close.complete.reverse

end Extraction

def Language.extract (language : Language) (lines : List Text) : List Instruction :=
  ((lines.map language.stripLeadIn).foldl Extraction.step Extraction.initial).instructions

end PodManual
