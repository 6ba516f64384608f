import PodManual.FileTree.Basic
import PodManual.Registry

/-!
# Settings

The settings come from variables of the environment.  An environment file adds
variables that the environment does not have; how it is found and read is not decided
here.
-/

namespace PodManual

/-- Variables and their values; of two values of one variable the first counts. -/
abbrev Environment := List (Text × Text)

/-- The variables that the environment file of a tree adds to an environment, unless
reading it fails.  They come behind those of the environment, which keep their
values. -/
abbrev EnvironmentFile := FileTree -> Environment -> Except Failure Environment

/-- The settings of the program. -/
structure Settings where
  /-- Where dependencies are searched for, unless roots are given. -/
  searchPaths : List Path
  /-- The dialects to use; all of them without a choice. -/
  dialectNames? : Option (List Text)
  /-- Pages have no table of contents. -/
  noContents : Bool
  /-- The least level at which notes are shown. -/
  logLevel : Nat
  deriving DecidableEq, Repr

namespace Settings

def searchPathsVariable : Text := "PODDOC_SEARCH_PATHS".toList

def dialectsVariable : Text := "PODDOC_SYNTAXES".toList

def noContentsVariable : Text := "PODDOC_NOCONTENTS".toList

def logLevelVariable : Text := "PODDOC_LOG_LEVEL".toList

def levels : List (Text × Nat) :=
  [("CRITICAL".toList, 50), ("FATAL".toList, 50), ("ERROR".toList, 40),
   ("WARNING".toList, 30), ("WARN".toList, 30), ("INFO".toList, 20),
   ("DEBUG".toList, 10), ("NOTSET".toList, 0)]

def standardLevel : Nat := 30

/-- The level of a name, in any case and with white space around it; no name is
no choice. -/
def levelOf (name? : Option Text) : Except Failure Nat :=
  match name? with
  | none => .ok standardLevel
  | some [] => .ok standardLevel
  | some name =>
      match levels.lookup (Text.inPlainCapitals (Text.strip name)) with
      | some level => .ok level
      | none => .error (.unknownLevel logLevelVariable name)

def ofEnvironment (environment : Environment) : Except Failure Settings :=
  match levelOf (environment.lookup logLevelVariable) with
  | .error failure => .error failure
  | .ok level =>
      .ok {
        searchPaths :=
          ((Text.cutAt ':' ((environment.lookup searchPathsVariable).getD [])).filter
            (· != [])).map Path.ofText
        dialectNames? := (environment.lookup dialectsVariable).map (Text.cutAt ',')
        noContents := (environment.lookup noContentsVariable).isSome
        logLevel := level }

/-- The settings in an environment, and in the environment file when it is to be
used. -/
def load (file : EnvironmentFile) (tree : FileTree) (environment : Environment)
    (useFile : Bool) : Except Failure Settings :=
  if useFile then
    match file tree environment with
    | .error failure => .error failure
    | .ok added => ofEnvironment (environment ++ added)
  else ofEnvironment environment

def registry (settings : Settings) : Except Failure Registry :=
  Registry.ofNames settings.dialectNames?

end Settings
end PodManual
