import PodManual.CommandLine.Switch

/-!
# Requests

A command line asks for one of four commands, or for the version or the usage of
the program.  Switches of the program stand before the name of the command,
switches of the command after it, among its operands.
-/

namespace PodManual

inductive Command where
  /-- Render the page of a file, into a file if one is named. -/
  | html (file : Text) (noContents : Bool) (out? : Option Text)
  /-- List the dependencies of a file, searched below the given roots; a root
  may have been given without a path. -/
  | deps (file : Text) (roots : List (Option Text)) (json : Bool)
  /-- List the documented files below a directory. -/
  | find (directory subdirectory : Text) (json : Bool)
  /-- List the instructions of a file. -/
  | parse (file : Text) (json : Bool)
  deriving DecidableEq, Repr

inductive Request where
  | help
  | version
  | run (verbose : Bool) (command : Command)
  deriving DecidableEq, Repr

/-- A refused command line: the program or command that refuses it, and why. -/
structure Refusal where
  program : Text
  fault : CommandLine.Fault
  deriving DecidableEq, Repr

namespace CommandLine

inductive Stop where
  | refusal (refusal : Refusal)
  | help
  | version
  deriving DecidableEq, Repr

def programName : Text := "poddoc".toList

def helpSwitch : Switch := ⟨["-h".toList, "--help".toList], .help⟩

def versionSwitch : Switch := ⟨["--version".toList], .version⟩

def verboseSwitch : Switch := ⟨["--verbose".toList, "-v".toList], .flag⟩

def noContentsSwitch : Switch := ⟨["--nocontents".toList], .flag⟩

def outSwitch : Switch := ⟨["--out".toList, "-o".toList], .value⟩

/-- Search below a root; may be given more than once. -/
def pathSwitch : Switch := ⟨["--path".toList, "-p".toList], .value⟩

def jsonSwitch : Switch := ⟨["--json".toList], .flag⟩

/-- How the arguments of a command are read: its name, its switches, the name of
its operand, and whether a second operand may follow. -/
structure Usage where
  name : Text
  switches : List Switch
  operand : Text
  hasSecond : Bool

def htmlUsage : Usage :=
  ⟨"html".toList, [helpSwitch, noContentsSwitch, outSwitch], "PLIK".toList, false⟩

def depsUsage : Usage :=
  ⟨"deps".toList, [helpSwitch, pathSwitch, jsonSwitch], "PLIK".toList, false⟩

def findUsage : Usage :=
  ⟨"find".toList, [helpSwitch, jsonSwitch], "KATALOG".toList, true⟩

def parseUsage : Usage :=
  ⟨"parse".toList, [helpSwitch, jsonSwitch], "PLIK".toList, false⟩

def usages : List Usage :=
  [htmlUsage, depsUsage, findUsage, parseUsage]

def mainSwitches : List Switch :=
  [helpSwitch, versionSwitch, verboseSwitch]

def commandOperand : Text := "<komenda>".toList

namespace Usage

def program (usage : Usage) : Text :=
  programName ++ " ".toList ++ usage.name

end Usage

structure Reader where
  given : List Given
  first? : Option Text
  second? : Option Text
  leftOver : List Text
  deriving DecidableEq, Repr

inductive Phase where
  /-- Before the first operand. -/
  | first
  /-- Just after the first operand. -/
  | afterFirst
  /-- Just after the second operand. -/
  | afterSecond
  /-- No operand is expected any more. -/
  | closed
  deriving DecidableEq, Repr

namespace Phase

def afterSwitch : Phase -> Phase
  | .first => .first
  | _ => .closed

end Phase

namespace Reader

def initial : Reader :=
  ⟨[], none, none, []⟩

def give (reader : Reader) (given : List Given) : Reader :=
  { reader with given := reader.given ++ given }

def leave (reader : Reader) (texts : List Text) : Reader :=
  { reader with leftOver := reader.leftOver ++ texts }

/-- Take an operand.  A second operand of two dashes counts as none. -/
def operand (reader : Reader) (phase : Phase) (hasSecond : Bool) (t : Text) :
    Reader × Phase :=
  match phase with
  | .first => ({ reader with first? := some t }, .afterFirst)
  | .afterFirst =>
      if hasSecond then
        ({ reader with second? := if t = "--".toList then none else some t },
          .afterSecond)
      else (reader.leave [t], .closed)
  | _ => (reader.leave [t], .closed)

/-- Take the separator; it is left over when no operand is near. -/
def separator (reader : Reader) (phase : Phase) : Reader × Phase :=
  match phase with
  | .first => (reader, .first)
  | .afterFirst => (reader, .afterFirst)
  | .afterSecond => (reader, .closed)
  | .closed => (reader.leave ["--".toList], .closed)

def has (reader : Reader) (switch : Switch) : Bool :=
  reader.given.any fun given => given.switch == switch

/-- What was given to a switch that takes a value, time after time. -/
def values (reader : Reader) (switch : Switch) : List (Option Text) :=
  (reader.given.filter fun given => given.switch == switch).map Given.value?

end Reader

def stopOf (given : List Given) : Option Stop :=
  given.findSome? fun one =>
    match one.switch.action with
    | .help => some .help
    | .version => some .version
    | _ => none

/-- Complete what a switch gives: a last switch that takes a value takes the
operand that follows. -/
def complete (gift : Gift) (next? : Option Text) : Except Fault (List Given × Bool) :=
  match gift.last? with
  | none => .ok (gift.complete, false)
  | some switch =>
      if switch.action = .value then
        match next? with
        | some value => .ok (gift.complete ++ [⟨switch, some value⟩], true)
        | none => .error (.valueExpected switch)
      else .ok (gift.complete ++ [⟨switch, none⟩], false)

def nextOperand? : List Argument -> Option Text
  | .operand t :: _ => some t
  | _ => none

/-- Read the arguments of a command.  `skip` says that the next one has been
taken as a value. -/
def readCommand (usage : Usage) :
    Bool -> Phase -> Reader -> List Argument -> Except Stop Reader
  | _, _, reader, [] => .ok reader
  | true, phase, reader, _ :: rest => readCommand usage false phase reader rest
  | false, phase, reader, .operand t :: rest =>
      readCommand usage false (reader.operand phase usage.hasSecond t).2
        (reader.operand phase usage.hasSecond t).1 rest
  | false, phase, reader, .separator :: rest =>
      readCommand usage false (reader.separator phase).2 (reader.separator phase).1 rest
  | false, phase, reader, .switch t none :: rest =>
      readCommand usage false phase.afterSwitch (reader.leave [t]) rest
  | false, phase, reader, .switch _ (some reading) :: rest =>
      match CommandLine.give usage.switches reading with
      | .error fault => .error (.refusal ⟨usage.program, fault⟩)
      | .ok gift =>
          match complete gift (nextOperand? rest) with
          | .error fault => .error (.refusal ⟨usage.program, fault⟩)
          | .ok (given, taken) =>
              match stopOf given with
              | some stop => .error stop
              | none =>
                  readCommand usage taken phase.afterSwitch (reader.give given) rest

def Reader.command (reader : Reader) (usage : Usage) (operand : Text) : Command :=
  if usage.name = htmlUsage.name then
    .html operand (reader.has noContentsSwitch) (reader.values outSwitch).getLast?.join
  else if usage.name = depsUsage.name then
    .deps operand (reader.values pathSwitch) (reader.has jsonSwitch)
  else if usage.name = findUsage.name then
    .find operand (reader.second?.getD []) (reader.has jsonSwitch)
  else .parse operand (reader.has jsonSwitch)

/-- Parse the arguments of a command: the command, and what is left over. -/
def parseCommand (usage : Usage) (arguments : List Text) :
    Except Stop (Command × List Text) :=
  match readArguments usage.switches arguments with
  | .error fault => .error (.refusal ⟨usage.program, fault⟩)
  | .ok arguments =>
      match readCommand usage false .first .initial arguments with
      | .error stop => .error stop
      | .ok reader =>
          match reader.first? with
          | none => .error (.refusal ⟨usage.program, .missing usage.operand⟩)
          | some operand => .ok (reader.command usage operand, reader.leftOver)

def refuse {α : Type} (fault : Fault) : Except Stop α :=
  .error (.refusal ⟨programName, fault⟩)

def parseNamed (name : Text) (arguments : List Text) : Except Stop (Command × List Text) :=
  match usages.find? fun usage => usage.name == name with
  | some usage => parseCommand usage arguments
  | none => refuse (.invalidChoice commandOperand name (usages.map Usage.name))

/-- Read the program's own arguments up to the name of the command: whether notes
are asked for, what is left over, and the command. -/
def readMain (verbose : Bool) (leftOver : List Text) :
    List Argument -> Except Stop Request
  | [] => refuse (.missing commandOperand)
  | [.separator] => refuse (.missing commandOperand)
  | .separator :: _ :: _ =>
      refuse (.invalidChoice commandOperand "--".toList (usages.map Usage.name))
  | .operand name :: rest =>
      match parseNamed name (rest.map Argument.text) with
      | .error stop => .error stop
      | .ok (command, commandLeftOver) =>
          match leftOver ++ commandLeftOver with
          | [] => .ok (.run verbose command)
          | unrecognized => refuse (.unrecognized unrecognized)
  | .switch t none :: rest => readMain verbose (leftOver ++ [t]) rest
  | .switch _ (some reading) :: rest =>
      match CommandLine.give mainSwitches reading with
      | .error fault => refuse fault
      | .ok gift =>
          match complete gift none with
          | .error fault => refuse fault
          | .ok (given, _) =>
              match stopOf given with
              | some stop => .error stop
              | none =>
                  readMain (verbose || given.any fun one => one.switch == verboseSwitch)
                    leftOver rest

def parse (arguments : List Text) : Except Refusal Request :=
  match readArguments mainSwitches arguments with
  | .error fault => .error ⟨programName, fault⟩
  | .ok arguments =>
      match readMain false [] arguments with
      | .ok request => .ok request
      | .error .help => .ok .help
      | .error .version => .ok .version
      | .error (.refusal refusal) => .error refusal

end CommandLine
end PodManual
