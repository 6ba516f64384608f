import PodManual.Program
import PodManual.Proofs.Console.Verbatim
import PodManual.Proofs.FileTree.Follow
import PodManual.Settings.EnvFile

/-!
# Fatal conditions

A run is to end with status 1 and one message when the settings are wrong, when the
file of a command is no regular file or when the directory of a command is no
directory.  The message is a heading and the text that it complains of.  That text is
put into the message as it is, so a console reads it as markup; and a run may be refused
what it has to look up first, the settings or the path.

Main statement: such a run changes no file and writes nothing to the output; it ends as
it should, with the text shown as it is, exactly when the console prints the message as
it is and the run is not refused.  Ordinary text is always shown, and a text that begins
with a closing tag never is.
-/

namespace PodManual

/-- What a message complains of, where it is printed and under which heading. -/
structure Complaint where
  stream : Stream
  heading : Text
  subject : Text
  deriving DecidableEq, Repr

namespace Complaint

def settings (failure : Failure) : Complaint :=
  ⟨.errors, "Błąd konfiguracji:".toList, failure.message⟩

def noFile (stream : Stream) (path : Path) : Complaint :=
  ⟨stream, "Plik nie istnieje:".toList, path.toText⟩

def noDirectory (path : Path) : Complaint :=
  ⟨.output, "Katalog nie istnieje:".toList, path.toText⟩

/-- The message as a reader should see it. -/
def text (complaint : Complaint) : Text :=
  complaint.heading ++ " ".toList ++ complaint.subject

/-- The message as a console reads it. -/
def markup (complaint : Complaint) : Text :=
  Console.inRed complaint.heading ++ complaint.subject

def run {α : Type} (console : Console) (tree : FileTree) (complaint : Complaint) : Run α :=
  (Run.message console tree complaint.stream complaint.markup).andThen fun tree _ =>
    Run.stop tree (.exit 1)

variable {α : Type} {console : Console} {tree : FileTree} {complaint : Complaint}

theorem run_of_ok {shown : Text} (h : console.markup complaint.markup = .ok shown) :
    (complaint.run console tree : Run α) =
      ⟨[.print complaint.stream shown], tree, .error (.exit 1)⟩ := by
  simp only [run, Run.message, Event.message, h]
  rfl

theorem run_of_error {failure : Failure}
    (h : console.markup complaint.markup = .error failure) :
    (complaint.run console tree : Run α) = ⟨[], tree, .error (.failure failure)⟩ := by
  simp only [run, Run.message, Event.message, h]
  rfl

theorem run_andThen {β : Type} (complaint : Complaint)
    (second : FileTree -> α -> Run β) :
    (complaint.run console tree : Run α).andThen second = complaint.run console tree := by
  cases h : console.markup complaint.markup with
  | error failure =>
      rw [run_of_error h, run_of_error h]
      rfl
  | ok shown =>
      rw [run_of_ok h, run_of_ok h]
      rfl

end Complaint

/-!
## What a command needs
-/

namespace Command

def path : Command -> Path
  | .html file _ _ => Path.ofText file
  | .deps file _ _ => Path.ofText file
  | .find directory _ _ => Path.ofText directory
  | .parse file _ => Path.ofText file

def isServed (tree : FileTree) (command : Command) : Except Failure Bool :=
  match command with
  | .find _ _ _ => tree.isDirectory command.path
  | _ => tree.isFile command.path

def complaint (command : Command) : Complaint :=
  match command with
  | .html _ _ _ => .noFile .errors command.path
  | .find _ _ _ => .noDirectory command.path
  | _ => .noFile .output command.path

def complaint? (tree : FileTree) (command : Command) : Option Complaint :=
  match command.isServed tree with
  | .ok true => none
  | _ => some command.complaint

theorem complaint?_eq_some {tree : FileTree} {command : Command} {complaint : Complaint} :
    command.complaint? tree = some complaint <->
      command.isServed tree ≠ .ok true ∧ complaint = command.complaint := by
  unfold complaint?
  split
  · rename_i hserved
    simp [hserved]
  · rename_i hother
    rw [Option.some_inj, eq_comm]
    exact (and_iff_right hother).symm

theorem isServed_eq_error_iff {tree : FileTree} {command : Command} {failure : Failure} :
    command.isServed tree = .error failure <->
      exists fault, tree.Fails command.path fault ∧
        failure = .file fault command.path.toText := by
  cases command with
  | html file noContents out? => exact FileTree.isFile_eq_error_iff
  | deps file roots json => exact FileTree.isFile_eq_error_iff
  | find directory subdirectory json => exact FileTree.isDirectory_eq_error_iff
  | parse file json => exact FileTree.isFile_eq_error_iff

variable {console : Console} {tree : FileTree} {command : Command} {level : Nat}

theorem openDocument_of_missing (setup : Setup) (stream : Stream) {file : Text}
    (h : tree.isFile (Path.ofText file) = .ok false) :
    openDocument console tree setup stream file =
      (Complaint.noFile stream (Path.ofText file)).run console tree := by
  have hmarkup : "[red]Plik nie istnieje:[/red] ".toList =
      Console.inRed "Plik nie istnieje:".toList := by decide +kernel
  simp only [openDocument, h, hmarkup]
  rfl

theorem openDocument_of_error (setup : Setup) (stream : Stream) {file : Text}
    {failure : Failure} (h : tree.isFile (Path.ofText file) = .error failure) :
    openDocument console tree setup stream file = Run.stop tree (.failure failure) := by
  simp only [openDocument, h]
  rfl

theorem run_of_missing (setup : Setup) (h : command.isServed tree = .ok false) :
    command.run level console tree setup = command.complaint.run console tree := by
  cases command with
  | html file noContents out? =>
      rw [Command.run, runHtml, openDocument_of_missing setup _ h, Complaint.run_andThen]
      rfl
  | deps file roots json =>
      rw [Command.run, runDeps, openDocument_of_missing setup _ h, Complaint.run_andThen]
      rfl
  | parse file json =>
      rw [Command.run, runParse, openDocument_of_missing setup _ h, Complaint.run_andThen]
      rfl
  | find directory subdirectory json =>
      have hmarkup : "[red]Katalog nie istnieje:[/red] ".toList =
          Console.inRed "Katalog nie istnieje:".toList := by decide +kernel
      change tree.isDirectory (Path.ofText directory) = .ok false at h
      rw [Command.run, runFind, h, hmarkup]
      rfl

theorem run_of_error {failure : Failure} (setup : Setup)
    (h : command.isServed tree = .error failure) :
    command.run level console tree setup = Run.stop tree (.failure failure) := by
  cases command with
  | html file noContents out? =>
      rw [Command.run, runHtml, openDocument_of_error setup _ h]
      rfl
  | deps file roots json =>
      rw [Command.run, runDeps, openDocument_of_error setup _ h]
      rfl
  | parse file json =>
      rw [Command.run, runParse, openDocument_of_error setup _ h]
      rfl
  | find directory subdirectory json =>
      change tree.isDirectory (Path.ofText directory) = .error failure at h
      rw [Command.run, runFind, h]
      rfl

end Command

/-!
## Runs that have to complain
-/

namespace Program

/-- What a run has to complain of: wrong settings, or else that there is not what its
command needs. -/
def complaint? (file : EnvironmentFile) (tree : FileTree) (environment : Environment)
    (command : Command) : Option Complaint :=
  match setup file tree environment with
  | .error failure =>
      if failure.isWrongSetting then some (.settings failure) else command.complaint? tree
  | .ok _ => command.complaint? tree

/-- The settings cannot be had, for another reason than that they are wrong, or they are
had and the path of the command is refused. -/
def IsRefused (file : EnvironmentFile) (tree : FileTree) (environment : Environment)
    (command : Command) : Prop :=
  match setup file tree environment with
  | .error failure => failure.isWrongSetting = false
  | .ok _ => exists fault, tree.Fails command.path fault

variable {console : Console} {file : EnvironmentFile} {tree : FileTree}
variable {environment : Environment} {command : Command} {complaint : Complaint}

theorem isWording_of_complaint?
    (h : complaint? file tree environment command = some complaint) :
    Console.isWording complaint.heading = true := by
  have hsettings : Console.isWording "Błąd konfiguracji:".toList = true := by decide +kernel
  have hfile : Console.isWording "Plik nie istnieje:".toList = true := by decide +kernel
  have hdirectory : Console.isWording "Katalog nie istnieje:".toList = true := by
    decide +kernel
  have hcommand : command.complaint? tree = some complaint ->
      Console.isWording complaint.heading = true := by
    intro hlacks
    rcases Command.complaint?_eq_some.mp hlacks with ⟨_, rfl⟩
    cases command with
    | html file noContents out? => exact hfile
    | deps file roots json => exact hfile
    | find directory subdirectory json => exact hdirectory
    | parse file json => exact hfile
  unfold complaint? at h
  split at h
  · split at h
    · cases h
      exact hsettings
    · exact hcommand h
  · exact hcommand h

/-- A run that has to complain does so, unless it is refused. -/
theorem execute_of_complaint? (verbose : Bool)
    (h : complaint? file tree environment command = some complaint) :
    (IsRefused file tree environment command ∧
      exists failure, execute console file tree environment verbose command =
        Run.stop tree (.failure failure)) ∨
    (¬ IsRefused file tree environment command ∧
      execute console file tree environment verbose command = complaint.run console tree) := by
  unfold complaint? at h
  unfold IsRefused execute
  cases hsetup : setup file tree environment with
  | error failure =>
      have hmarkup : "[red]Błąd konfiguracji:[/red] ".toList =
          Console.inRed "Błąd konfiguracji:".toList := by decide +kernel
      rw [hsetup] at h
      cases hwrong : failure.isWrongSetting with
      | false => exact Or.inl ⟨hwrong, failure, by simp [hwrong]⟩
      | true =>
          simp only [hwrong, if_true] at h
          cases h
          refine Or.inr ⟨by simp [hwrong], ?_⟩
          simp only [hwrong, if_true, hmarkup]
          rfl
  | ok ready =>
      simp only [hsetup] at h
      rcases Command.complaint?_eq_some.mp h with ⟨hlacks, rfl⟩
      cases hserved : command.isServed tree with
      | error failure =>
          rcases Command.isServed_eq_error_iff.mp hserved with ⟨fault, hfails, _⟩
          exact Or.inl ⟨⟨fault, hfails⟩, failure, Command.run_of_error ready hserved⟩
      | ok served =>
          refine Or.inr ⟨?_, ?_⟩
          · rintro ⟨fault, hfails⟩
            rw [Command.isServed_eq_error_iff.mpr ⟨fault, hfails, rfl⟩] at hserved
            cases hserved
          · cases served with
            | true => exact absurd hserved hlacks
            | false => exact Command.run_of_missing ready hserved

/-- A run that has to complain changes no file and writes nothing to the output.  It
shows the complaint as it is and ends with status 1 exactly when the console prints the
message as it is and the run is not refused; otherwise it shows something else behind
the heading, or it shows nothing and ends with a failure.  Where a console reads markup,
it shows every ordinary text, and none that begins with a closing tag. -/
theorem complaint_shown_iff {arguments : List Text} {verbose : Bool} {ended : Run Unit}
    (hconsole : console.ReadsMarkup)
    (hparse : CommandLine.parse arguments = .ok (.run verbose command))
    (hcomplaint : complaint? file tree environment command = some complaint)
    (hrun : run console file tree environment arguments = ended) :
    ended.tree = tree ∧
    (forall t, Event.write t ∉ ended.events) ∧
    (ended.events = [.print complaint.stream complaint.text] ∧ ended.ending = .exit 1 <->
      console.markup complaint.markup = .ok complaint.text ∧
        ¬ IsRefused file tree environment command) ∧
    (Console.isOrdinary complaint.subject = true ->
      ¬ IsRefused file tree environment command ->
      ended.events = [.print complaint.stream complaint.text] ∧ ended.ending = .exit 1) ∧
    (Console.BeginsWithClosingTag complaint.subject -> '\t' ∉ complaint.subject ->
      ended.events = [] ∧ exists failure, ended.ending = .failure failure) ∧
    ((exists shown, ended.events = [.print complaint.stream shown] ∧
        ended.ending = .exit 1 ∧
        ('\t' ∉ complaint.subject ->
          exists later, shown = complaint.heading ++ " ".toList ++ later)) ∨
      (ended.events = [] ∧ exists failure, ended.ending = .failure failure)) := by
  have hexecute : execute console file tree environment verbose command = ended := by
    rw [← hrun, run, hparse]
  have hheading := isWording_of_complaint? hcomplaint
  have hordinary : Console.isOrdinary complaint.subject = true ->
      console.markup complaint.markup = .ok complaint.text :=
    hconsole.markup_of_isOrdinary hheading
  -- A refused look-up ends the run before the message, a tag while it is printed.
  rcases execute_of_complaint? verbose hcomplaint with ⟨hrefused, failure, heq⟩ | ⟨hnot, heq⟩
  · rw [heq] at hexecute
    subst hexecute
    refine ⟨rfl, by simp [Run.stop], ?_, fun _ hnot => absurd hrefused hnot,
      fun _ _ => ⟨rfl, failure, rfl⟩, Or.inr ⟨rfl, failure, rfl⟩⟩
    simp [Run.stop, hrefused]
  · rw [heq] at hexecute
    subst hexecute
    cases hmarkup : console.markup complaint.markup with
    | ok shown =>
        rw [Complaint.run_of_ok hmarkup]
        have hsplit : '\t' ∉ complaint.subject -> exists later,
            console.markup complaint.subject = .ok later ∧
              shown = complaint.heading ++ " ".toList ++ later :=
          fun htab => (hconsole.markup_eq_ok hheading htab).mp hmarkup
        refine ⟨rfl, by simp, ?_, ?_, ?_, Or.inl ⟨shown, rfl, rfl, ?_⟩⟩
        · simp [Run.ending, hnot]
        · intro h _
          rw [hordinary h] at hmarkup
          cases hmarkup
          exact ⟨rfl, rfl⟩
        · intro hclosing htab
          rcases hconsole.closing _ hclosing with ⟨failure, hfails⟩
          rcases hsplit htab with ⟨later, hlater, _⟩
          rw [hfails] at hlater
          cases hlater
        · intro htab
          rcases hsplit htab with ⟨later, _, hlater⟩
          exact ⟨later, hlater⟩
    | error failure =>
        rw [Complaint.run_of_error hmarkup]
        refine ⟨rfl, by simp, by simp, ?_, fun _ _ => ⟨rfl, failure, rfl⟩,
          Or.inr ⟨rfl, failure, rfl⟩⟩
        intro h _
        rw [hordinary h] at hmarkup
        cases hmarkup

/-- A command line that asks for the instructions of a file that is not there. -/
def missingArguments : List Text :=
  ["parse".toList, "a\\b.pm".toList]

theorem missing_is_shown :
    Markup.console.ReadsMarkup ∧
    CommandLine.parse missingArguments =
      .ok (.run false (.parse "a\\b.pm".toList false)) ∧
    complaint? EnvFile.added .empty [] (.parse "a\\b.pm".toList false) =
      some (.noFile .output (Path.ofText "a\\b.pm".toList)) ∧
    (run Markup.console EnvFile.added .empty [] missingArguments).events =
      [.print .output "Plik nie istnieje: a\\b.pm".toList] ∧
    (run Markup.console EnvFile.added .empty [] missingArguments).ending = .exit 1 := by
  have hconsole := Markup.console_readsMarkup
  have hparse : CommandLine.parse missingArguments =
      .ok (.run false (.parse "a\\b.pm".toList false)) := eq_ok_of_toOption (by decide +kernel)
  have hcomplaint : complaint? EnvFile.added .empty [] (.parse "a\\b.pm".toList false) =
      some (.noFile .output (Path.ofText "a\\b.pm".toList)) := by decide +kernel
  have hserved : (Command.parse "a\\b.pm".toList false).isServed .empty = .ok false :=
    eq_ok_of_toOption (by decide +kernel)
  have hnot : ¬ IsRefused EnvFile.added .empty [] (.parse "a\\b.pm".toList false) := by
    rintro ⟨fault, hfails⟩
    rw [Command.isServed_eq_error_iff.mpr ⟨fault, hfails, rfl⟩] at hserved
    cases hserved
  rcases complaint_shown_iff hconsole hparse hcomplaint rfl with ⟨_, _, _, hordinary, _⟩
  exact ⟨hconsole, hparse, hcomplaint, hordinary (by decide +kernel) hnot⟩

def taggedArguments : List Text :=
  ["parse".toList, "[/b].pm".toList]

-- The console cannot print the message, and the run ends without showing anything.
theorem tagged_is_not_shown :
    CommandLine.parse taggedArguments =
      .ok (.run false (.parse "[/b].pm".toList false)) ∧
    complaint? EnvFile.added .empty [] (.parse "[/b].pm".toList false) =
      some (.noFile .output (Path.ofText "[/b].pm".toList)) ∧
    (run Markup.console EnvFile.added .empty [] taggedArguments).events = [] ∧
    (run Markup.console EnvFile.added .empty [] taggedArguments).ending ≠ .exit 1 :=
  ⟨eq_ok_of_toOption (by decide +kernel), by decide +kernel, by decide +kernel,
    by decide +kernel⟩

end Program
end PodManual
