import PodManual.Command.Run

/-!
# The program

From a command line, an environment and a file tree to a run.  The command line
is read first, then the settings, and only then is anything done.
-/

namespace PodManual

namespace Program

def versionLine : Text := "poddoc 0.1.0\n".toList

def setup (file : EnvironmentFile) (tree : FileTree) (environment : Environment) :
    Except Failure Setup :=
  match Settings.load file tree environment true with
  | .error failure => .error failure
  | .ok settings =>
      match settings.registry with
      | .error failure => .error failure
      | .ok registry => .ok ⟨settings, registry⟩

def level (verbose : Bool) (settings : Settings) : Nat :=
  if verbose then Note.level else settings.logLevel

/-- Run a command in an environment.  A wrong setting ends the run with a message
and status 1. -/
def execute (console : Console) (file : EnvironmentFile) (tree : FileTree)
    (environment : Environment) (verbose : Bool) (command : Command) : Run Unit :=
  match setup file tree environment with
  | .error failure =>
      if failure.isWrongSetting then
        (Run.message console tree .errors
          ("[red]Błąd konfiguracji:[/red] ".toList ++ failure.message)).andThen fun tree _ =>
          Run.stop tree (.exit 1)
      else Run.stop tree (.failure failure)
  | .ok setup => command.run (level verbose setup.settings) console tree setup

def run (console : Console) (file : EnvironmentFile) (tree : FileTree)
    (environment : Environment) (arguments : List Text) : Run Unit :=
  match CommandLine.parse arguments with
  | .error refusal => Run.stop tree (.refusal refusal)
  | .ok .help => Run.stop tree (.exit 0)
  | .ok .version => (Run.event tree (.write versionLine)).andThen fun tree _ =>
      Run.stop tree (.exit 0)
  | .ok (.run verbose command) => execute console file tree environment verbose command

end Program
end PodManual
