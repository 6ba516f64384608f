import PodManual.Program

/-!
# What a level lets through

A function takes its notes where it comes to them, and only if the level that is asked
for lets them through.  The level is handed down to wherever a note is taken: through the
search for dependencies, the reading of files, the walk of a survey and the commands.

Main statement: a command run at a level is the command run with every note, less the
notes that the level does not let through.  There is one law for each way in which
computations are put together, and the law is carried through each recursion.
-/

namespace PodManual

/-!
## Traced results
-/

namespace Traced

variable {α β : Type} {level : Nat}

def seenAt (level : Nat) (traced : Traced α) : Traced α :=
  ⟨traced.notes.filter fun _ => decide (level ≤ Note.level), traced.result⟩

theorem note_seenAt (level : Nat) (notes : List Note) :
    note level notes = (note 0 notes).seenAt level := by
  have hall : (note 0 notes).notes = notes := by
    rw [note, if_pos (Nat.zero_le Note.level)]
  rw [seenAt, hall]
  by_cases hlevel : level ≤ Note.level
  · have hkept : (notes.filter fun _ => decide (level ≤ Note.level)) = notes :=
      List.filter_eq_self.mpr fun _ _ => decide_eq_true hlevel
    rw [hkept, note, if_pos hlevel]
    rfl
  · have hdropped : (notes.filter fun _ => decide (level ≤ Note.level)) = [] :=
      List.filter_eq_nil_iff.mpr fun _ _ => by simpa using hlevel
    rw [hdropped, note, if_neg hlevel]
    rfl

/-- What is done one after the other may be seen one after the other. -/
theorem andThen_seenAt {first full : Traced α} {second rest : α -> Traced β}
    (hfirst : first = full.seenAt level)
    (hsecond : forall a, second a = (rest a).seenAt level) :
    first.andThen second = (full.andThen rest).seenAt level := by
  rw [hfirst]
  unfold andThen
  cases hresult : full.result with
  | error failure => simp [seenAt, hresult]
  | ok a => simp [seenAt, hresult, hsecond a]

end Traced

/-!
## Dependencies
-/

namespace Dependency

variable {level : Nat} {descend full : Declaring -> List Text -> Traced Found}

theorem searchRoots_seenAt
    (h : forall document visited, descend document visited =
      (full document visited).seenAt level)
    (openAt : Path -> Except Failure (Option Declaring)) (roots : List Path)
    (visited : List Text) :
    searchRoots openAt descend roots visited =
      (searchRoots openAt full roots visited).seenAt level := by
  induction roots generalizing visited with
  | nil => rfl
  | cons root roots ih =>
      rw [searchRoots, searchRoots]
      refine Traced.andThen_seenAt rfl fun document? => ?_
      cases document? with
      | none => exact ih visited
      | some document =>
          refine Traced.andThen_seenAt (h document visited) fun below => ?_
          exact Traced.andThen_seenAt (ih below.2) fun later => rfl

theorem searchNames_seenAt
    (h : forall document visited, descend document visited =
      (full document visited).seenAt level)
    (openAt : Path -> Text -> Except Failure (Option Declaring)) (roots : List Path)
    (names visited : List Text) :
    searchNames level openAt descend roots names visited =
      (searchNames 0 openAt full roots names visited).seenAt level := by
  induction names generalizing visited with
  | nil => rfl
  | cons name names ih =>
      rw [searchNames, searchNames]
      split
      · exact Traced.andThen_seenAt (Traced.note_seenAt level _) fun _ => ih visited
      · split
        · exact ih visited
        · refine Traced.andThen_seenAt (searchRoots_seenAt h _ roots _) fun own => ?_
          refine Traced.andThen_seenAt ?_ fun _ => ?_
          · cases own.1 with
            | none => exact Traced.note_seenAt level _
            | some root => rfl
          · exact Traced.andThen_seenAt (ih own.2.2) fun later => rfl

theorem search_seenAt (level : Nat) (tree : FileTree) (registry : Registry)
    (roots : List Path) (depth : Nat) (document : Declaring) (visited : List Text) :
    search level tree registry roots depth document visited =
      (search 0 tree registry roots depth document visited).seenAt level := by
  induction depth generalizing document visited with
  | zero => rfl
  | succ depth ih =>
      rw [search, search]
      refine Traced.andThen_seenAt (Traced.note_seenAt level _) fun _ => ?_
      exact searchNames_seenAt ih _ roots _ visited

theorem resolve_seenAt (level : Nat) (tree : FileTree) (registry : Registry)
    (roots : List Path) (document : Declaring) (visited : List Text) :
    resolve level tree registry roots document visited =
      (resolve 0 tree registry roots document visited).seenAt level :=
  search_seenAt level tree registry roots _ document visited

end Dependency

/-!
## Files
-/

theorem FileTree.extract_seenAt (level : Nat) (tree : FileTree) (path : Path)
    (language : Language) :
    tree.extract level path language = (tree.extract 0 path language).seenAt level := by
  unfold extract
  split
  · rfl
  · exact Traced.andThen_seenAt (Traced.note_seenAt level _) fun _ => rfl
  · exact Traced.andThen_seenAt (Traced.note_seenAt level _) fun _ => rfl

namespace Survey

theorem visitFile_seenAt (level : Nat) (registry : Registry) (path : Path) (file : File) :
    visitFile level registry path file = (visitFile 0 registry path file).seenAt level := by
  unfold visitFile
  split
  · rfl
  · refine Traced.andThen_seenAt (Traced.note_seenAt level _) fun _ => ?_
    split <;> rfl

mutual

theorem visitEntry_seenAt (level : Nat) (registry : Registry) (path : Path) :
    (node : Entry) ->
    visitEntry level registry path node = (visitEntry 0 registry path node).seenAt level
  | .file file => by
      rw [visitEntry, visitEntry]
      exact visitFile_seenAt level registry path file
  | .directory access listing => by
      rw [visitEntry, visitEntry]
      split
      · exact visitListing_seenAt level registry access.search path listing
      · exact Traced.andThen_seenAt (Traced.note_seenAt level _) fun _ => rfl

theorem visitListing_seenAt (level : Nat) (registry : Registry) (searchable : Bool)
    (directory : Path) : (listing : Listing) ->
    visitListing level registry searchable directory listing =
      (visitListing 0 registry searchable directory listing).seenAt level
  | .empty => by
      rw [visitListing, visitListing]
      rfl
  | .entry name node rest => by
      have hrest := visitListing_seenAt level registry searchable directory rest
      rw [visitListing, visitListing]
      split
      · exact hrest
      · split
        · rfl
        · refine Traced.andThen_seenAt
            (visitEntry_seenAt level registry (directory.child name) node) fun first => ?_
          exact Traced.andThen_seenAt hrest fun later => rfl

end

theorem find_seenAt (level : Nat) (tree : FileTree) (registry : Registry)
    (directory : Path) :
    find level tree registry directory = (find 0 tree registry directory).seenAt level := by
  unfold find
  split
  · rfl
  · split
    · exact Traced.andThen_seenAt (Traced.note_seenAt level _) fun _ => rfl
    · exact Traced.andThen_seenAt
        (visitListing_seenAt level registry _ directory _) fun documents => rfl

end Survey

/-!
## Documents
-/

namespace Reply

variable {α β : Type} {level : Nat}

def seenAt (level : Nat) (reply : Reply α) : Reply α :=
  ⟨reply.document, reply.notes.filter fun _ => decide (level ≤ Note.level), reply.result⟩

theorem andThen_seenAt {first full : Reply α} {second rest : Document -> α -> Reply β}
    (hfirst : first = full.seenAt level)
    (hsecond : forall document a, second document a = (rest document a).seenAt level) :
    first.andThen second = (full.andThen rest).seenAt level := by
  rw [hfirst]
  unfold andThen
  cases hresult : full.result with
  | error failure => simp [seenAt, hresult]
  | ok a => simp [seenAt, hresult, hsecond full.document a]

theorem ofTraced_seenAt {traced full : Traced α} (h : traced = full.seenAt level)
    (document : Document) (update : α -> Document) :
    ofTraced document traced update = (ofTraced document full update).seenAt level := by
  rw [h]
  unfold ofTraced
  cases hresult : full.result with
  | error failure => simp [Traced.seenAt, seenAt, hresult]
  | ok a => simp [Traced.seenAt, seenAt, hresult]

end Reply

namespace Document

variable (level : Nat) (tree : FileTree) (document : Document)

theorem dialect_seenAt : document.dialect = document.dialect.seenAt level := by
  unfold dialect chooseDialect
  split
  · rfl
  · split <;> rfl

theorem read_seenAt : document.read level tree = (document.read 0 tree).seenAt level := by
  unfold read
  split
  · rfl
  · refine Reply.andThen_seenAt (document.dialect_seenAt level) fun later dialect => ?_
    exact Reply.ofTraced_seenAt (tree.extract_seenAt level _ dialect.language) later _

theorem instructions_seenAt :
    document.instructions level tree = (document.instructions 0 tree).seenAt level := by
  unfold Document.instructions
  split
  · rfl
  · exact document.read_seenAt level tree

theorem className_seenAt :
    document.className level tree = (document.className 0 tree).seenAt level := by
  unfold className
  split
  · rfl
  · exact Reply.andThen_seenAt (document.instructions_seenAt level tree) fun _ _ => rfl

theorem dependenciesFrom_seenAt (roots : List Path) (visited : List Text) :
    document.dependenciesFrom level tree roots visited =
      (document.dependenciesFrom 0 tree roots visited).seenAt level := by
  unfold dependenciesFrom
  refine Reply.andThen_seenAt (document.instructions_seenAt level tree) fun later _ => ?_
  exact Reply.ofTraced_seenAt (Dependency.resolve_seenAt level tree _ roots _ visited) later _

theorem dependencies_seenAt (roots : List Path) :
    document.dependencies level tree roots =
      (document.dependencies 0 tree roots).seenAt level := by
  unfold dependencies
  split
  · rfl
  · exact Reply.andThen_seenAt (document.dependenciesFrom_seenAt level tree roots [])
      fun _ _ => rfl

theorem page_seenAt (options : PageOptions) :
    document.page level tree options = (document.page 0 tree options).seenAt level :=
  Reply.andThen_seenAt (document.instructions_seenAt level tree) fun _ _ => rfl

end Document

/-!
## Runs
-/

def Event.isSeenAt (level : Nat) (event : Event) : Bool :=
  !event.isNote || decide (level ≤ Note.level)

namespace Run

variable {α β : Type} {level : Nat}

def seenAt (level : Nat) (run : Run α) : Run α :=
  { run with events := run.events.filter (Event.isSeenAt level) }

theorem andThen_seenAt {first full : Run α} {second rest : FileTree -> α -> Run β}
    (hfirst : first = full.seenAt level)
    (hsecond : forall tree a, second tree a = (rest tree a).seenAt level) :
    first.andThen second = (full.andThen rest).seenAt level := by
  rw [hfirst]
  unfold andThen
  cases hresult : full.result with
  | error ending => simp [seenAt, hresult]
  | ok a => simp [seenAt, hresult, hsecond full.tree a]

theorem ofExcept_seenAt (level : Nat) (tree : FileTree) (result : Except Failure α) :
    ofExcept tree result = (ofExcept tree result).seenAt level := by
  cases result <;> rfl

theorem message_seenAt (level : Nat) (console : Console) (tree : FileTree) (stream : Stream)
    (markup : Text) :
    message console tree stream markup =
      (message console tree stream markup).seenAt level := by
  unfold message Event.message
  cases console.markup markup <;> rfl

theorem filter_notes (level : Nat) (notes : List Note) :
    (notes.map Event.note).filter (Event.isSeenAt level) =
      (notes.filter fun _ => decide (level ≤ Note.level)).map Event.note := by
  rw [List.filter_map]
  rfl

theorem ofTraced_seenAt {traced full : Traced α} (h : traced = full.seenAt level)
    (tree : FileTree) : ofTraced tree traced = (ofTraced tree full).seenAt level := by
  rw [h]
  unfold ofTraced seenAt Traced.seenAt
  simp only [List.filter_append, filter_notes]
  congr 2
  cases full.result <;> rfl

theorem ofReply_seenAt {reply full : Reply α} (h : reply = full.seenAt level)
    (tree : FileTree) : ofReply tree reply = (ofReply tree full).seenAt level := by
  rw [h]
  unfold ofReply
  exact andThen_seenAt
    (ofTraced_seenAt (rfl : _ = Traced.seenAt level ⟨full.notes, full.result⟩) tree)
    fun _ _ => rfl

end Run

/-!
## Commands
-/

namespace Command

variable (level : Nat) (console : Console) (tree : FileTree) (setup : Setup)

theorem openDocument_seenAt (stream : Stream) (file : Text) :
    openDocument console tree setup stream file =
      (openDocument console tree setup stream file).seenAt level := by
  unfold openDocument
  refine Run.andThen_seenAt (Run.ofExcept_seenAt level tree _) fun tree found => ?_
  split
  · rfl
  · exact Run.andThen_seenAt (Run.message_seenAt level console tree stream _) fun _ _ => rfl

theorem undocumented_seenAt (stream : Stream) (file : Text) :
    undocumented console tree stream file =
      (undocumented console tree stream file).seenAt level :=
  Run.message_seenAt level console tree stream _

theorem runHtml_seenAt (file : Text) (noContents : Bool) (out? : Option Text) :
    runHtml level console tree setup file noContents out? =
      (runHtml 0 console tree setup file noContents out?).seenAt level := by
  unfold runHtml
  refine Run.andThen_seenAt (openDocument_seenAt level console tree setup _ file)
    fun tree document => ?_
  refine Run.andThen_seenAt (Run.ofReply_seenAt (document.instructions_seenAt level tree) tree)
    fun tree pair => ?_
  rcases pair with ⟨document, instructions⟩
  dsimp only
  split
  · exact undocumented_seenAt level console tree _ file
  · refine Run.andThen_seenAt (Run.ofReply_seenAt (document.page_seenAt level tree _) tree)
      fun tree pair => ?_
    rcases pair with ⟨later, page⟩
    dsimp only
    split
    · refine Run.andThen_seenAt (Run.ofExcept_seenAt level tree _) fun _ tree => ?_
      exact Run.message_seenAt level console tree _ _
    · rfl

theorem runDeps_seenAt (file : Text) (roots : List (Option Text)) (json : Bool) :
    runDeps level console tree setup file roots json =
      (runDeps 0 console tree setup file roots json).seenAt level := by
  unfold runDeps
  refine Run.andThen_seenAt (openDocument_seenAt level console tree setup _ file)
    fun tree document => ?_
  refine Run.andThen_seenAt (Run.ofExcept_seenAt level tree _) fun tree roots => ?_
  refine Run.andThen_seenAt
    (Run.ofReply_seenAt (document.dependencies_seenAt level tree roots) tree)
    fun tree pair => ?_
  rcases pair with ⟨later, dependencies⟩
  dsimp only
  split
  · rfl
  · split
    · exact Run.message_seenAt level console tree _ _
    · exact Run.andThen_seenAt rfl fun tree _ => Run.message_seenAt level console tree _ _

theorem runFind_seenAt (directory subdirectory : Text) (json : Bool) :
    runFind level console tree setup directory subdirectory json =
      (runFind 0 console tree setup directory subdirectory json).seenAt level := by
  unfold runFind
  refine Run.andThen_seenAt (Run.ofExcept_seenAt level tree _) fun tree found => ?_
  split
  · exact Run.andThen_seenAt (Run.message_seenAt level console tree _ _) fun _ _ => rfl
  · refine Run.andThen_seenAt
      (Run.ofTraced_seenAt (Survey.find_seenAt level tree _ _) tree)
      fun tree documents => ?_
    split
    · rfl
    · split
      · exact Run.message_seenAt level console tree _ _
      · exact Run.andThen_seenAt rfl fun tree _ => Run.message_seenAt level console tree _ _

theorem runParse_seenAt (file : Text) (json : Bool) :
    runParse level console tree setup file json =
      (runParse 0 console tree setup file json).seenAt level := by
  unfold runParse
  refine Run.andThen_seenAt (openDocument_seenAt level console tree setup _ file)
    fun tree document => ?_
  refine Run.andThen_seenAt (Run.ofReply_seenAt (document.instructions_seenAt level tree) tree)
    fun tree pair => ?_
  rcases pair with ⟨document, instructions⟩
  dsimp only
  split
  · rfl
  · split
    · exact undocumented_seenAt level console tree _ file
    · refine Run.andThen_seenAt rfl fun tree _ => ?_
      refine Run.andThen_seenAt
        (Run.ofReply_seenAt (document.className_seenAt level tree) tree) fun tree pair => ?_
      rcases pair with ⟨later, name?⟩
      dsimp only
      refine Run.andThen_seenAt ?_ fun tree _ => Run.message_seenAt level console tree _ _
      split <;> rfl

/-- A command run at a level is the command run with every note, less those that the
level does not let through. -/
theorem run_seenAt (command : Command) :
    command.run level console tree setup =
      (command.run 0 console tree setup).seenAt level := by
  cases command with
  | html file noContents out? => exact runHtml_seenAt level console tree setup file noContents out?
  | deps file roots json => exact runDeps_seenAt level console tree setup file roots json
  | find directory subdirectory json =>
      exact runFind_seenAt level console tree setup directory subdirectory json
  | parse file json => exact runParse_seenAt level console tree setup file json

end Command
end PodManual
