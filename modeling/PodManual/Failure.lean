import PodManual.Console.Literal.Fault
import PodManual.Path
import PodManual.Text.Utf8

/-!
# Failures

The causes for which an operation gives no result, and the message of each.
-/

namespace PodManual

/-- What is wrong with a path that was looked up or written. -/
inductive FileFault where
  | missing
  | notDirectory
  | isDirectory
  | nameTooLong
  | alreadyThere
  | denied
  deriving DecidableEq, Repr

namespace FileFault

def code : FileFault -> Nat
  | .missing => 2
  | .denied => 13
  | .notDirectory => 20
  | .isDirectory => 21
  | .nameTooLong => 36
  | .alreadyThere => 17

def wording : FileFault -> Text
  | .missing => "No such file or directory".toList
  | .notDirectory => "Not a directory".toList
  | .isDirectory => "Is a directory".toList
  | .nameTooLong => "File name too long".toList
  | .alreadyThere => "File exists".toList
  | .denied => "Permission denied".toList

/-- A fault at a path, in words, with the path as it was written. -/
def message (fault : FileFault) (path : Text) : Text :=
  "[Errno ".toList ++ Text.ofNat fault.code ++ "] ".toList ++ fault.wording ++
    ": ".toList ++ Text.quoted path

end FileFault

/-- The causes of failure. -/
inductive Failure where
  /-- A registry without any dialect. -/
  | noDialects
  /-- No dialect serves the extension. -/
  | noDialectFor (extension : Text)
  /-- Dialects asked for by names that none has. -/
  | unknownDialects (names : List Text) (available : List Text)
  /-- A log level of an unknown name. -/
  | unknownLevel (setting name : Text)
  /-- The file system refused a path. -/
  | file (fault : FileFault) (path : Text)
  /-- A path or a variable of the environment holds the null character. -/
  | nullCharacter
  /-- A variable of the environment cannot have this name. -/
  | variableName
  /-- A file that has to be valid UTF-8 is not. -/
  | undecodable (fault : Utf8.Fault)
  /-- Something other than a text was given for a path. -/
  | pathWithoutText
  /-- A colour in a tag of a message has a component without digits. -/
  | emptyColourComponent
  /-- A colour in a tag of a message has a component of too many digits. -/
  | longColourComponent (count : Nat)
  /-- A closing tag in a message closes no open tag. -/
  | strayClosingTag (tag : Text) (position : Nat)
  /-- A closing tag without a name in a message, and no tag is open. -/
  | nothingToClose (position : Nat)
  /-- The arguments of a handler in a message are no expression. -/
  | handlerSyntax (arguments parameters : Text) (fault : Literal.Fault)
  /-- The parameters of a handler in a message hold no literal. -/
  | handlerValue (parameters : Text) (flaw : Literal.Flaw)
  /-- The resolution of dependencies exceeded the depth that its names allow. -/
  | tooDeep
  deriving DecidableEq, Repr

namespace Failure

def message : Failure -> Text
  | .noDialects => "Nie znaleziono żadnego adaptera składni POD.".toList
  | .noDialectFor extension =>
      "Brak adaptera dla rozszerzenia '".toList ++ extension ++ "'.".toList
  | .unknownDialects names available =>
      "Nieznane adaptery składni: ".toList ++ Text.joinWith ", ".toList names ++
        " (dostępne: ".toList ++ Text.joinWith ", ".toList available ++ ")".toList
  | .unknownLevel setting name =>
      "Nieznany poziom logowania w ".toList ++ setting ++ ": '".toList ++ name ++
        "'".toList
  | .file fault path => fault.message path
  | .undecodable fault => fault.message
  | .variableName => "illegal environment variable name".toList
  | .nullCharacter => "embedded null byte".toList
  | .pathWithoutText => "expected str, bytes or os.PathLike object, not list".toList
  | .emptyColourComponent => "invalid literal for int() with base 10: ''".toList
  | .longColourComponent count => Text.digitLimit count
  | .strayClosingTag tag position =>
      "closing tag '".toList ++ tag ++ "' at position ".toList ++
        Text.ofNat position ++ " doesn't match any open tag".toList
  | .nothingToClose position =>
      "closing tag '[/]' at position ".toList ++ Text.ofNat position ++
        " has nothing to close".toList
  | .handlerSyntax arguments parameters fault =>
      "error parsing ".toList ++ Text.quoted arguments ++ " in ".toList ++
        Text.quoted parameters ++ "; ".toList ++ fault.message
  | .handlerValue parameters flaw =>
      "error parsing ".toList ++ Text.quoted parameters ++ "; ".toList ++ flaw.message
  | .tooDeep => "Zależności są zagnieżdżone zbyt głęboko.".toList

/-- The failures of settings that the program complains of; all others end a run. -/
def isWrongSetting : Failure -> Bool
  | .noDialects => true
  | .noDialectFor _ => true
  | .unknownDialects _ _ => true
  | .unknownLevel _ _ => true
  | .nullCharacter => true
  | .variableName => true
  | .undecodable _ => true
  | _ => false

end Failure

-- Results can be compared by evaluation, failures and results together cannot.
theorem eq_ok_of_toOption {ε α : Type} {result : Except ε α} {a : α}
    (h : result.toOption = some a) : result = .ok a := by
  cases result with
  | error other => cases h
  | ok other =>
      cases h
      rfl

theorem ne_ok_of_toOption {ε α : Type} {result : Except ε α}
    (h : result.toOption = none) (a : α) : result ≠ .ok a := by
  rintro rfl
  cases h

end PodManual
