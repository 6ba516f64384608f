import PodManual.Console.Colour
import PodManual.Failure
import PodManual.Text.Blank

/-!
# Styles

A tag in a message names a style.  One style can be named in several ways, and
an opening tag and its closing tag have to name the same style, so names are
compared by a normal form: the traits in a fixed order under their long
names, then the colours.  A name that describes no style is its own normal form,
in lower case.
-/

namespace PodManual
namespace Style

/-- The traits of a style, in the order of the normal form. -/
def traits : List Text :=
  ["bold".toList, "dim".toList, "italic".toList, "underline".toList, "blink".toList,
   "blink2".toList, "reverse".toList, "conceal".toList, "strike".toList,
   "underline2".toList, "frame".toList, "encircle".toList, "overline".toList]

def shortNames : List (Text × Text) :=
  [("b".toList, "bold".toList), ("d".toList, "dim".toList), ("i".toList, "italic".toList),
   ("u".toList, "underline".toList), ("r".toList, "reverse".toList),
   ("c".toList, "conceal".toList), ("s".toList, "strike".toList),
   ("uu".toList, "underline2".toList), ("o".toList, "overline".toList)]

def trait? (word : Text) : Option Text :=
  if word ∈ traits then some word else shortNames.lookup word

structure Description where
  settings : List (Text × Bool)
  colour? : Option Text
  background? : Option Text
  link? : Option Text

def describe (soFar : Description) : List Text -> Except ColourFault Description
  | [] => .ok soFar
  | word :: rest =>
      if Text.lower word = "on".toList then
        match rest with
        | [] => .error .unknown
        | background :: rest =>
            match Colour.ofWord background with
            | .error fault => .error fault
            | .ok colour => describe { soFar with background? := some colour } rest
      else if Text.lower word = "not".toList then
        match rest with
        | [] => .error .unknown
        | name :: rest =>
            match trait? name with
            | none => .error .unknown
            | some trait =>
                describe { soFar with settings := (trait, false) :: soFar.settings } rest
      else if Text.lower word = "link".toList then
        match rest with
        | [] => .error .unknown
        | target :: rest => describe { soFar with link? := some target } rest
      else
        match trait? (Text.lower word) with
        | some trait =>
            describe { soFar with settings := (trait, true) :: soFar.settings } rest
        | none =>
            match Colour.ofWord word with
            | .error fault => .error fault
            | .ok colour => describe { soFar with colour? := some colour } rest

def Description.toWords (description : Description) : List Text :=
  (traits.flatMap fun trait =>
    match description.settings.lookup trait with
    | none => []
    | some true => [trait]
    | some false => ["not".toList, trait]) ++
  description.colour?.toList ++
  (description.background?.toList.flatMap fun colour => ["on".toList, colour]) ++
  (description.link?.toList.flatMap fun target => ["link".toList, target])

/-- The normal form of the name of a style.  A colour with a component that has no
digits, or too many, makes the name unusable. -/
def normalForm (name : Text) : Except Failure Text :=
  match describe ⟨[], none, none, none⟩ (Text.words name) with
  | .error .emptyComponent => .error .emptyColourComponent
  | .error (.longComponent count) => .error (.longColourComponent count)
  | .error .unknown => .ok (Text.lower (Text.strip name))
  | .ok description =>
      match description.toWords with
      | [] => .ok "none".toList
      | words => .ok (Text.joinWith " ".toList words)

end Style
end PodManual
