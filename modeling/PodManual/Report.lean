import PodManual.Text.Quoted

/-!
# Reports

A report is an array of records in JSON, indented by two spaces for each level.
A field of a record is a text, a list of texts, a number or nothing.
-/

namespace PodManual

inductive Field where
  | nothing
  | count (n : Nat)
  | text (t : Text)
  | texts (ts : List Text)
  deriving DecidableEq, Repr

abbrev Record := List (Text × Field)

namespace Report

def escapedChar (c : Char) : Text :=
  if c = '\x22' then "\\\"".toList
  else if c = '\\' then "\\\\".toList
  else if c = '\n' then "\\n".toList
  else if c = '\r' then "\\r".toList
  else if c = '\t' then "\\t".toList
  else if c = '\x08' then "\\b".toList
  else if c = '\x0C' then "\\f".toList
  else if c.toNat < 0x20 then "\\u".toList ++ Text.hexDigits 4 c.toNat
  else [c]

def string (t : Text) : Text :=
  '\x22' :: t.flatMap escapedChar ++ ['\x22']

def newLine (indent : Nat) : Text :=
  '\n' :: List.replicate indent ' '

/-- Pieces between brackets, each on a line of its own, the brackets at an
indentation. -/
def block (opening closing : Char) (indent : Nat) (pieces : List Text) : Text :=
  match pieces with
  | [] => [opening, closing]
  | pieces =>
      opening :: newLine (indent + 2) ++
        Text.joinWith (',' :: newLine (indent + 2)) pieces ++
        newLine indent ++ [closing]

def field (indent : Nat) : Field -> Text
  | .nothing => "null".toList
  | .count n => Text.ofNat n
  | .text t => string t
  | .texts ts => block '[' ']' indent (ts.map string)

def record (indent : Nat) (fields : Record) : Text :=
  block '\x7b' '\x7d' indent
    (fields.map fun named => string named.1 ++ ": ".toList ++ field (indent + 2) named.2)

def render (records : List Record) : Text :=
  block '[' ']' 0 (records.map (record 2))

end Report
end PodManual
