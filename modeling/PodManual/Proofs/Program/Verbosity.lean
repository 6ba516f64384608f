import PodManual.Console.Markup
import PodManual.Proofs.Program.Level
import PodManual.Proofs.Settings.Influence

/-!
# Verbosity

The switch that asks for notes and the log level decide which notes a run takes.  They
decide nothing else: what a command does at a level is what it does when every note is
taken, less the notes that the level does not let through.

Main statement: two runs of one command line that differ in the switch, or in the log
level where this leaves the other settings as they are, end alike, leave the same files
and show the same events but for notes; and the run of the stricter level shows some of
the notes of the other.
-/

namespace PodManual

/-!
## Runs without their notes
-/

namespace Run

variable {α : Type}

def withoutNotes (run : Run α) : List Event :=
  run.events.filter fun event => !event.isNote

def notes (run : Run α) : List Event :=
  run.events.filter Event.isNote

/-- The runs end alike, leave the same files, and show the same events but for notes. -/
structure SameButNotes (first second : Run α) : Prop where
  ending_eq : first.ending = second.ending
  tree_eq : first.tree = second.tree
  withoutNotes_eq : first.withoutNotes = second.withoutNotes

theorem SameButNotes.refl (run : Run α) : SameButNotes run run :=
  ⟨rfl, rfl, rfl⟩

theorem withoutNotes_seenAt (level : Nat) (run : Run α) :
    (run.seenAt level).withoutNotes = run.withoutNotes := by
  rw [withoutNotes, seenAt, List.filter_filter, withoutNotes]
  congr 1
  funext event
  rw [Event.isSeenAt]
  cases event.isNote <;> simp

theorem seenAt_sameButNotes (level other : Nat) (run : Run α) :
    SameButNotes (run.seenAt level) (run.seenAt other) where
  ending_eq := rfl
  tree_eq := rfl
  withoutNotes_eq := by rw [withoutNotes_seenAt, withoutNotes_seenAt]

theorem notes_seenAt (level : Nat) (run : Run α) :
    (run.seenAt level).notes = if level ≤ Note.level then run.notes else [] := by
  rw [notes, seenAt, List.filter_filter]
  unfold Event.isSeenAt
  split
  · rename_i hlevel
    simp [hlevel, notes]
  · rename_i hlevel
    simp [hlevel]

theorem notes_seenAt_sublist {level stricter : Nat} (h : level ≤ stricter) (run : Run α) :
    (run.seenAt stricter).notes.Sublist (run.seenAt level).notes := by
  rw [notes_seenAt, notes_seenAt]
  by_cases hstricter : stricter ≤ Note.level
  · simp only [if_pos hstricter, if_pos (Nat.le_trans h hstricter)]
    exact List.Sublist.refl _
  · rw [if_neg hstricter]
    exact List.nil_sublist _

end Run

/-!
## The switch
-/

def Request.loud : Request -> Request
  | .run _ command => .run true command
  | request => request

namespace CommandLine

theorem readMain_true (verbose : Bool) (leftOver : List Text) (arguments : List Argument) :
    readMain true leftOver arguments =
      (readMain verbose leftOver arguments).map Request.loud := by
  induction arguments generalizing verbose leftOver with
  | nil => rfl
  | cons argument rest ih =>
      cases argument with
      | separator => cases rest <;> rfl
      | operand name =>
          rw [readMain, readMain]
          cases parseNamed name (rest.map Argument.text) with
          | error stop => rfl
          | ok found =>
              cases hleft : leftOver ++ found.2 with
              | nil => simp [hleft, Except.map, Request.loud]
              | cons first others => simp [hleft, Except.map, refuse]
      | switch t reading? =>
          cases reading? with
          | none => rw [readMain, readMain, ih verbose]
          | some reading =>
              rw [readMain, readMain]
              cases CommandLine.give mainSwitches reading with
              | error fault => rfl
              | ok gift =>
                  cases hcomplete : complete gift none with
                  | error fault => simp [hcomplete, Except.map, refuse]
                  | ok taken =>
                      cases hstop : stopOf taken.1 with
                      | some stop => simp [hcomplete, hstop, Except.map]
                      | none =>
                          simp only [hcomplete, hstop, Bool.true_or]
                          exact ih _ leftOver

theorem readArgument_verbose {spelling : Text} (h : spelling ∈ verboseSwitch.spellings) :
    spelling ≠ "--".toList ∧
    readArgument mainSwitches spelling =
      .ok (.switch spelling (some ⟨verboseSwitch, spelling, none⟩)) := by
  simp only [verboseSwitch, List.mem_cons, List.not_mem_nil, or_false] at h
  rcases h with rfl | rfl
  · exact ⟨by decide, eq_ok_of_toOption (by decide +kernel)⟩
  · exact ⟨by decide, eq_ok_of_toOption (by decide +kernel)⟩

theorem parse_verbose {spelling : Text} (h : spelling ∈ verboseSwitch.spellings)
    (arguments : List Text) :
    parse (spelling :: arguments) = (parse arguments).map Request.loud := by
  rcases readArgument_verbose h with ⟨hne, hread⟩
  rw [parse, parse, readArguments, if_neg hne, hread]
  cases readArguments mainSwitches arguments with
  | error fault => rfl
  | ok later =>
      have hmain : readMain false []
          (.switch spelling (some ⟨verboseSwitch, spelling, none⟩) :: later) =
          (readMain false [] later).map Request.loud := by
        rw [← readMain_true]
        rfl
      simp only [hmain]
      cases readMain false [] later with
      | ok request => rfl
      | error stop => cases stop <;> rfl

end CommandLine

/-!
## The level
-/

/-- The commands do not look at the log level. -/
theorem Command.run_of_sameButLevel {first second : Setup}
    (hsettings : first.settings.SameButLevel second.settings)
    (hregistry : first.registry = second.registry) (level : Nat) (console : Console)
    (tree : FileTree) (command : Command) :
    command.run level console tree first = command.run level console tree second := by
  rcases first with ⟨settings, registry⟩
  rcases second with ⟨other, otherRegistry⟩
  cases hregistry
  change other = _ at hsettings
  rw [hsettings]
  cases command with
  | html file noContents out? => rfl
  | deps file roots json => rfl
  | find directory subdirectory json => rfl
  | parse file json => rfl

namespace Program

variable {console : Console} {file : EnvironmentFile} {tree : FileTree}
variable {environment : Environment} {ready : Setup}

theorem setup_eq_ok_iff :
    setup file tree environment = .ok ready <->
      Settings.load file tree environment true = .ok ready.settings ∧
        ready.settings.registry = .ok ready.registry := by
  unfold setup
  constructor
  · intro h
    split at h
    · cases h
    · rename_i settings hload
      split at h
      · cases h
      · rename_i registry hregistry
        cases h
        exact ⟨hload, hregistry⟩
  · intro h
    rw [h.left]
    simp only [h.right]

theorem registry_eq_of_sameButLevel {other : Setup} {second : Environment}
    (hready : setup file tree environment = .ok ready) (hother : setup file tree second = .ok other)
    (h : ready.settings.SameButLevel other.settings) : ready.registry = other.registry := by
  have hfirst := (setup_eq_ok_iff.mp hready).right
  have hsecond := (setup_eq_ok_iff.mp hother).right
  rw [h] at hsecond
  change ready.settings.registry = _ at hsecond
  rw [hfirst] at hsecond
  exact Except.ok.inj hsecond

theorem run_of_command (hready : setup file tree environment = .ok ready)
    {arguments : List Text} {verbose : Bool} {command : Command}
    (hparse : CommandLine.parse arguments = .ok (.run verbose command)) :
    run console file tree environment arguments =
      (command.run 0 console tree ready).seenAt (level verbose ready.settings) := by
  rw [run, hparse]
  simp only [execute, hready]
  exact command.run_seenAt _ console tree ready

theorem run_congr {first second : Environment} {given otherGiven : List Text}
    (hparse : CommandLine.parse given = CommandLine.parse otherGiven)
    (hnone : forall verbose command,
      CommandLine.parse given ≠ .ok (.run verbose command)) :
    run console file tree first given = run console file tree second otherGiven := by
  rw [run, run, ← hparse]
  cases h : CommandLine.parse given with
  | error refusal => rfl
  | ok request =>
      cases request with
      | help => rfl
      | version => rfl
      | run verbose command => exact absurd h (hnone verbose command)

/-- A command line as it is given, or with the switch that asks for notes before it. -/
inductive Variant (arguments : List Text) : Bool -> List Text -> Prop where
  | quiet : Variant arguments false arguments
  | loud {spelling : Text} : spelling ∈ CommandLine.verboseSwitch.spellings ->
      Variant arguments true (spelling :: arguments)

theorem Variant.parse_eq {arguments given : List Text} {loud : Bool}
    (h : Variant arguments loud given) :
    CommandLine.parse given = (CommandLine.parse arguments).map
      fun request => if loud then request.loud else request := by
  cases h with
  | quiet =>
      cases CommandLine.parse arguments with
      | error refusal => rfl
      | ok request => rfl
  | loud hspelling => exact CommandLine.parse_verbose hspelling arguments

theorem Variant.parse_of_run {arguments given : List Text} {loud verbose : Bool}
    {command : Command} (h : Variant arguments loud given)
    (hparse : CommandLine.parse arguments = .ok (.run verbose command)) :
    CommandLine.parse given = .ok (.run (loud || verbose) command) := by
  rw [h.parse_eq, hparse]
  cases loud with
  | false => rfl
  | true => rfl

theorem Variant.parse_of_not_run {arguments given : List Text} {loud : Bool}
    (h : Variant arguments loud given)
    (hnone : forall verbose command,
      CommandLine.parse arguments ≠ .ok (.run verbose command)) :
    CommandLine.parse given = CommandLine.parse arguments := by
  rw [h.parse_eq]
  cases hparse : CommandLine.parse arguments with
  | error refusal => rfl
  | ok request =>
      cases request with
      | help => cases loud <;> rfl
      | version => cases loud <;> rfl
      | run verbose command => exact absurd hparse (hnone verbose command)

theorem run_eq_of_not_run {first second : Environment}
    {arguments given otherGiven : List Text} {loud otherLoud : Bool}
    (hgiven : Variant arguments loud given) (hotherGiven : Variant arguments otherLoud otherGiven)
    (hnone : forall verbose command,
      CommandLine.parse arguments ≠ .ok (.run verbose command)) :
    run console file tree first given = run console file tree second otherGiven := by
  have hparse := hgiven.parse_of_not_run hnone
  apply run_congr
  · rw [hparse, hotherGiven.parse_of_not_run hnone]
  · rw [hparse]
    exact hnone

/-- The switch and the level decide which notes are shown, and nothing else. -/
theorem verbosity_does_not_interfere (console : Console)
    {refers : FileTree -> Text -> Text -> Prop} (hfile : file.Refers refers)
    {first second : Environment} {other : Setup}
    {arguments given otherGiven : List Text} {loud otherLoud : Bool}
    (hready : setup file tree first = .ok ready) (hother : setup file tree second = .ok other)
    (hagree : first.AgreeBut Settings.logLevelVariable second)
    (hgiven : Variant arguments loud given)
    (hotherGiven : Variant arguments otherLoud otherGiven) :
    (first = second ∨
        (forall name, name ≠ Settings.logLevelVariable ->
          ¬ refers tree name Settings.logLevelVariable) ->
      ready.settings.SameButLevel other.settings) ∧
    (ready.settings.SameButLevel other.settings ->
      Run.SameButNotes (run console file tree first given)
        (run console file tree second otherGiven) ∧
      forall verbose command,
        CommandLine.parse arguments = .ok (.run verbose command) ->
        level (loud || verbose) ready.settings ≤
          level (otherLoud || verbose) other.settings ->
        (run console file tree second otherGiven).notes.Sublist
          (run console file tree first given).notes) := by
  constructor
  · rintro (heq | hfree)
    · rw [heq, hother] at hready
      cases hready
      rfl
    · exact Settings.load_sameButLevel hfile hagree hfree (setup_eq_ok_iff.mp hready).left
        (setup_eq_ok_iff.mp hother).left
  · intro hsame
    have hregistry := registry_eq_of_sameButLevel hready hother hsame
    -- Both runs are one run of the command, seen at two levels.
    have hruns : forall verbose command,
        CommandLine.parse arguments = .ok (.run verbose command) ->
        run console file tree first given =
          (command.run 0 console tree ready).seenAt (level (loud || verbose) ready.settings) ∧
        run console file tree second otherGiven =
          (command.run 0 console tree ready).seenAt
            (level (otherLoud || verbose) other.settings) := by
      intro verbose command hparse
      constructor
      · exact run_of_command hready (hgiven.parse_of_run hparse)
      · rw [Command.run_of_sameButLevel hsame hregistry]
        exact run_of_command hother (hotherGiven.parse_of_run hparse)
    constructor
    · by_cases hrun : exists verbose command,
          CommandLine.parse arguments = .ok (.run verbose command)
      · rcases hrun with ⟨verbose, command, hparse⟩
        rw [(hruns verbose command hparse).left, (hruns verbose command hparse).right]
        exact Run.seenAt_sameButNotes _ _ _
      · simp only [not_exists] at hrun
        rw [run_eq_of_not_run hgiven hotherGiven hrun]
        exact Run.SameButNotes.refl _
    · intro verbose command hparse hlevel
      rw [(hruns verbose command hparse).left, (hruns verbose command hparse).right]
      exact Run.notes_seenAt_sublist hlevel _

/-- A module with two dependencies, the file of one of them, and an environment file that
names the search root by another variable. -/
def searchedTree : FileTree :=
  .ofListing (.entry ".env".toList
      (.file (.ofText "LIB=lib\nPODDOC_SEARCH_PATHS=$\x7bLIB\x7d\n".toList))
    (.entry "A.pm".toList
      (.file (.ofText "=head1 DEPENDENCIES\n=item B\n=item C\n".toList))
    (.entry "lib".toList
      (.directory .full (.entry "B.pm".toList (.file (.ofText [])) .empty)) .empty)))

def searchedSetup (level : Nat) : Setup :=
  ⟨⟨[Path.ofText "lib".toList], none, false, level⟩,
    ⟨(Dialect.builtins.flatMap Registry.entriesOf).reverse, some .plain⟩⟩

def searchedArguments : List Text :=
  ["deps".toList, "A.pm".toList, "--json".toList]

def atLevel (value : String) : Environment :=
  [(Settings.logLevelVariable, value.toList)]

theorem agreeBut_atLevel (value other : String) :
    (atLevel value).AgreeBut Settings.logLevelVariable (atLevel other) := by
  intro name hname
  have hne : (name == Settings.logLevelVariable) = false := by simpa using hname
  simp only [atLevel, List.lookup_cons, hne, List.lookup_nil]

def searchedRun (tree : FileTree) (value : String) (arguments : List Text) : Run Unit :=
  run Markup.console EnvFile.added tree (atLevel value) arguments

theorem searched_verbosity :
    setup EnvFile.added searchedTree (atLevel "DEBUG") = .ok (searchedSetup 10) ∧
    setup EnvFile.added searchedTree (atLevel "INFO") = .ok (searchedSetup 20) ∧
    (forall name, name ≠ Settings.logLevelVariable ->
      ¬ EnvFile.Mentions searchedTree name Settings.logLevelVariable) ∧
    Run.SameButNotes (searchedRun searchedTree "DEBUG" searchedArguments)
      (searchedRun searchedTree "INFO" ("-v".toList :: searchedArguments)) ∧
    (searchedRun searchedTree "INFO" ("-v".toList :: searchedArguments)).notes ≠ [] ∧
    (searchedRun searchedTree "INFO" ("-v".toList :: searchedArguments)).notes.Sublist
      (searchedRun searchedTree "DEBUG" searchedArguments).notes := by
  have hdebug : setup EnvFile.added searchedTree (atLevel "DEBUG") = .ok (searchedSetup 10) :=
    setup_eq_ok_iff.mpr
      ⟨eq_ok_of_toOption (by decide +kernel), eq_ok_of_toOption (by decide +kernel)⟩
  have hinfo : setup EnvFile.added searchedTree (atLevel "INFO") = .ok (searchedSetup 20) :=
    setup_eq_ok_iff.mpr
      ⟨eq_ok_of_toOption (by decide +kernel), eq_ok_of_toOption (by decide +kernel)⟩
  have hread : EnvFile.read searchedTree = .ok
      [("LIB".toList, some "lib".toList),
        (Settings.searchPathsVariable, some "$\x7bLIB\x7d".toList)] :=
    eq_ok_of_toOption (by decide +kernel)
  have hfree : forall name, name ≠ Settings.logLevelVariable ->
      ¬ EnvFile.Mentions searchedTree name Settings.logLevelVariable := by
    rintro name hname ⟨assignments, value, hassignments, hmem, hmentions⟩
    rw [hread] at hassignments
    cases hassignments
    have hkeeps : EnvFile.KeepsToItself Settings.logLevelVariable
        [("LIB".toList, some "lib".toList),
          (Settings.searchPathsVariable, some "$\x7bLIB\x7d".toList)] := by decide +kernel
    exact hkeeps name value hmem hname hmentions
  have hparse : CommandLine.parse searchedArguments =
      .ok (.run false (.deps "A.pm".toList [] true)) := eq_ok_of_toOption (by decide +kernel)
  have hboth := verbosity_does_not_interfere Markup.console EnvFile.added_refers
    hdebug hinfo (agreeBut_atLevel _ _)
    (Variant.quiet : Variant searchedArguments false _)
    (Variant.loud (by decide +kernel : "-v".toList ∈ _))
  rcases hboth.right (hboth.left (Or.inr hfree)) with ⟨hsame, hnotes⟩
  exact ⟨hdebug, hinfo, hfree, hsame, by decide +kernel, hnotes _ _ hparse (by decide)⟩

/-- A module with a dependency, its file below a directory that is named like a level, and
an environment file that names the search root by the level. -/
def levelledTree : FileTree :=
  .ofListing (.entry ".env".toList
      (.file (.ofText "PODDOC_SEARCH_PATHS=$\x7bPODDOC_LOG_LEVEL\x7d\n".toList))
    (.entry "A.pm".toList (.file (.ofText "=head1 DEPENDENCIES\n=item B\n".toList))
    (.entry "DEBUG".toList
      (.directory .full (.entry "B.pm".toList (.file (.ofText [])) .empty)) .empty)))

-- The level is also the search root, so the file is found at one level only.
theorem levelled_runs_differ :
    (setup EnvFile.added levelledTree (atLevel "DEBUG")).isOk = true ∧
    (setup EnvFile.added levelledTree (atLevel "INFO")).isOk = true ∧
    (atLevel "DEBUG").AgreeBut Settings.logLevelVariable (atLevel "INFO") ∧
    ¬ Run.SameButNotes (searchedRun levelledTree "DEBUG" searchedArguments)
      (searchedRun levelledTree "INFO" searchedArguments) := by
  refine ⟨by decide +kernel, by decide +kernel, agreeBut_atLevel _ _, ?_⟩
  intro hsame
  exact absurd hsame.withoutNotes_eq (by decide +kernel)

end Program
end PodManual
