import PodManual.Text.Digit
import PodManual.Text.Quoted

/-!
# Switches

The arguments of a command line are switches and operands.  A switch is known by
its spellings; a long spelling may be shortened as long as it stays unambiguous,
a value may be attached to it by an equals sign or, after a short spelling,
directly, and short switches without a value may be written together.
-/

namespace PodManual
namespace CommandLine

inductive Action where
  /-- Show the usage. -/
  | help
  /-- Show the version. -/
  | version
  /-- Be set. -/
  | flag
  /-- Take a value. -/
  | value
  deriving DecidableEq, Repr

structure Switch where
  spellings : List Text
  action : Action
  deriving DecidableEq, Repr

inductive Fault where
  | missing (operand : Text)
  | invalidChoice (operand given : Text) (choices : List Text)
  | unrecognized (arguments : List Text)
  | valueExpected (switch : Switch)
  | valueIgnored (switch : Switch) (value : Text)
  | ambiguous (argument : Text) (candidates : List Text)
  deriving DecidableEq, Repr

namespace Switch

def display (switch : Switch) : Text :=
  Text.joinWith "/".toList switch.spellings

end Switch

namespace Fault

def message : Fault -> Text
  | .missing operand => "the following arguments are required: ".toList ++ operand
  | .invalidChoice operand given choices =>
      "argument ".toList ++ operand ++ ": invalid choice: ".toList ++ Text.quoted given ++
        " (choose from ".toList ++
        Text.joinWith ", ".toList (choices.map Text.quoted) ++ ")".toList
  | .unrecognized arguments =>
      "unrecognized arguments: ".toList ++ Text.joinWith " ".toList arguments
  | .valueExpected switch =>
      "argument ".toList ++ switch.display ++ ": expected one argument".toList
  | .valueIgnored switch value =>
      "argument ".toList ++ switch.display ++ ": ignored explicit argument ".toList ++
        Text.quoted value
  | .ambiguous argument candidates =>
      "ambiguous option: ".toList ++ argument ++ " could match ".toList ++
        Text.joinWith ", ".toList candidates

end Fault

/-- A switch as it was written, with the text attached to it. -/
structure Reading where
  switch : Switch
  spelling : Text
  attached? : Option Text
  deriving DecidableEq, Repr

inductive Argument where
  /-- The two dashes after which everything is an operand. -/
  | separator
  | operand (t : Text)
  /-- A switch, or what looks like one and is unknown. -/
  | switch (t : Text) (reading? : Option Reading)
  deriving DecidableEq, Repr

namespace Argument

def text : Argument -> Text
  | .separator => "--".toList
  | .operand t => t
  | .switch t _ => t

end Argument

def spelled (switches : List Switch) : List (Text × Switch) :=
  switches.flatMap fun switch => switch.spellings.map fun spelling => (spelling, switch)

def switch? (switches : List Switch) (spelling : Text) : Option Switch :=
  (spelled switches).lookup spelling

def longCandidates (switches : List Switch) (argument : Text) : List Reading :=
  let (name, attached?) := Text.cutFirst '=' argument
  ((spelled switches).filter fun entry => Text.startsWith entry.1 name).map
    fun entry => ⟨entry.2, entry.1, attached?⟩

def shortCandidates (switches : List Switch) (argument : Text) : List Reading :=
  (spelled switches).filterMap fun entry =>
    if entry.1 = argument.take 2 then
      some ⟨entry.2, entry.1, some (argument.drop 2)⟩
    else if Text.startsWith entry.1 argument then some ⟨entry.2, entry.1, none⟩
    else none

def candidates (switches : List Switch) (argument : Text) : List Reading :=
  if Text.startsWith argument "--".toList then longCandidates switches argument
  else shortCandidates switches argument

/-- Digits, at least one. -/
def isNumeral (t : Text) : Bool :=
  t != [] && t.all Text.isDigit

/-- A negative number, whole or with a decimal point; a line feed may follow. -/
def isNegativeNumber (argument : Text) : Bool :=
  match argument with
  | '-' :: number =>
      let number := if number.getLast? = some '\n' then number.dropLast else number
      isNumeral number ||
        match Text.cutFirst '.' number with
        | (whole, some fraction) => whole.all Text.isDigit && isNumeral fraction
        | (_, none) => false
  | _ => false

/-- Read an argument that begins with a dash, is longer than that, and is no
spelling of a switch. -/
def readDashed (switches : List Switch) (argument : Text) : Except Fault Argument :=
  match candidates switches argument with
  | [reading] => .ok (.switch argument (some reading))
  | [] =>
      if isNegativeNumber argument || argument.contains ' ' then .ok (.operand argument)
      else .ok (.switch argument none)
  | readings => .error (.ambiguous argument (readings.map Reading.spelling))

def readArgument (switches : List Switch) (argument : Text) : Except Fault Argument :=
  match argument with
  | '-' :: rest =>
      match switch? switches argument with
      | some switch => .ok (.switch argument (some ⟨switch, argument, none⟩))
      | none =>
          if rest = [] then .ok (.operand argument)
          else
            let name := (Text.cutFirst '=' argument).1
            match switch? switches name, (Text.cutFirst '=' argument).2 with
            | some switch, some value =>
                .ok (.switch argument (some ⟨switch, name, some value⟩))
            | _, _ => readDashed switches argument
  | _ => .ok (.operand argument)

def readArguments (switches : List Switch) : List Text -> Except Fault (List Argument)
  | [] => .ok []
  | argument :: rest =>
      if argument = "--".toList then .ok (.separator :: rest.map .operand)
      else
        match readArgument switches argument with
        | .error fault => .error fault
        | .ok first =>
            match readArguments switches rest with
            | .error fault => .error fault
            | .ok later => .ok (first :: later)

/-- A switch that was given, with its value if it has one. -/
structure Given where
  switch : Switch
  value? : Option Text
  deriving DecidableEq, Repr

/-- What one argument gives: switches with what they need, and at the end possibly
a switch that stands without attached text. -/
structure Gift where
  complete : List Given
  last? : Option Switch
  deriving DecidableEq, Repr

def attachedValue? (t : Text) : Option Text :=
  if t = "--".toList then none else some t

/-- What a switch with attached text gives.  The text is its value, or, after a
short switch that takes none, it spells other short switches. -/
def giveAttached (switches : List Switch) (switch : Switch) (short : Bool) :
    Text -> Except Fault Gift
  | [] =>
      if switch.action = .value then .ok ⟨[⟨switch, some []⟩], none⟩
      else .error (.valueIgnored switch [])
  | c :: rest =>
      if switch.action = .value then
        .ok ⟨[⟨switch, attachedValue? (c :: rest)⟩], none⟩
      else if short then
        match switch? switches ['-', c] with
        | none => .error (.valueIgnored switch (c :: rest))
        | some next =>
            if rest = [] then .ok ⟨[⟨switch, none⟩], some next⟩
            else
              match giveAttached switches next true rest with
              | .error fault => .error fault
              | .ok gift =>
                  .ok { gift with complete := ⟨switch, none⟩ :: gift.complete }
      else .error (.valueIgnored switch (c :: rest))

def isShort (spelling : Text) : Bool :=
  !Text.startsWith spelling "--".toList

def give (switches : List Switch) (reading : Reading) : Except Fault Gift :=
  match reading.attached? with
  | none => .ok ⟨[], some reading.switch⟩
  | some attached =>
      giveAttached switches reading.switch (isShort reading.spelling) attached

end CommandLine
end PodManual
