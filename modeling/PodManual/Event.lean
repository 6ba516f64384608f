import PodManual.Console.Basic
import PodManual.Traced

/-!
# Events

What a run of the program lets a reader see: text written as it is, messages and
tables printed on a console, and notes of the diagnostic log.
-/

namespace PodManual

/-- Where a console prints. -/
inductive Stream where
  | output
  | errors
  deriving DecidableEq, Repr

inductive Event where
  | write (t : Text)
  | print (stream : Stream) (t : Text)
  | table (stream : Stream) (columns : List Text) (rows : List (List Text))
  | note (n : Note)
  deriving DecidableEq, Repr

namespace Event

def isNote : Event -> Bool
  | .note _ => true
  | _ => false

def message (console : Console) (stream : Stream) (markup : Text) : Except Failure Event :=
  match console.markup markup with
  | .ok t => .ok (.print stream t)
  | .error failure => .error failure

def ofTable (console : Console) (stream : Stream) (columns : List Text)
    (rows : List (List Text)) : Event :=
  .table stream columns (rows.map fun row => row.map console.plain)

end Event
end PodManual
