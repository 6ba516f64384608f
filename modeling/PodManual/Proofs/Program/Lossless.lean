import PodManual.Proofs.Program.Fatal
import PodManual.Proofs.Program.Level
import PodManual.Proofs.Report.Spelling

/-!
# Listings in JSON

A command that is asked for JSON writes its result as one report.  A reader of the report
gets back from each record what the command has found.

Main statement: the reports of instructions, of dependencies and of documented files are
JSON texts from which the list is read back, so equal reports come from equal lists; and
each command writes the report of its result, or nothing if it has none.
-/

namespace PodManual

/-!
## Values
-/

namespace Json

/-- The value of a field of an object; of two fields of one name the last counts. -/
def field? (name : Text) : Json -> Option Json
  | .object members => members.reverse.lookup name
  | _ => none

def items? : Json -> Option (List Json)
  | .array items => some items
  | _ => none

def text? : Json -> Option Text
  | .string t => some t
  | _ => none

def textOrNull? : Json -> Option (Option Text)
  | .null => some none
  | .string t => some (some t)
  | _ => none

def count? : Json -> Option Nat
  | .integer (.ofNat n) => some n
  | _ => none

def decodeAll? {β : Type} (decode? : Json -> Option β) (t : Text) : Option (List β) := do
  let items <- (<- read? t).items?
  items.mapM decode?

theorem mapM_map {α β : Type} {value : α -> Json} {view : α -> β} {decode? : Json -> Option β}
    (h : forall a, decode? (value a) = some (view a)) (listed : List α) :
    (listed.map value).mapM decode? = some (listed.map view) := by
  induction listed with
  | nil => rfl
  | cons a rest ih => simp [h, ih]

end Json

/-!
## Records
-/

def Instruction.ofJson? (v : Json) : Option Instruction := do
  let element <- (<- v.field? "element".toList).text?
  let title <- (<- v.field? "title".toList).text?
  let items <- (<- v.field? "content".toList).items?
  let content <- items.mapM Json.text?
  return ⟨element, title, content⟩

/-- What a listing shows of a dependency: its name, and the text of the root below which
it was found. -/
def Dependency.shown (dependency : Dependency) : Text × Option Text :=
  (dependency.name, dependency.root?.map Path.toText)

def Dependency.ofJson? (v : Json) : Option (Text × Option Text) := do
  let name <- (<- v.field? "name".toList).text?
  let path? <- (<- v.field? "path".toList).textOrNull?
  return (name, path?)

/-- What a listing shows of a documented file: the text of its path, its class name, and
the number of its instructions. -/
def Documented.shown (found : Documented) : Text × Option Text × Nat :=
  (found.path.toText, Instruction.className found.instructions, found.instructions.length)

def Documented.ofJson? (v : Json) : Option (Text × Option Text × Nat) := do
  let path <- (<- v.field? "path".toList).text?
  let className? <- (<- v.field? "classname".toList).textOrNull?
  let count <- (<- v.field? "instructions".toList).count?
  return (path, className?, count)

namespace Command

theorem ofJson?_instructionRecord (inst : Instruction) :
    Instruction.ofJson? (Report.recordJson (instructionRecord inst)) = some inst := by
  have hcontent : (inst.content.map Json.string).mapM Json.text? = some inst.content := by
    have hitems : (inst.content.map Json.string).mapM Json.text? =
        some (inst.content.map id) := by
      apply Json.mapM_map
      intro t
      rfl
    rwa [List.map_id] at hitems
  show (((inst.content.map Json.string).mapM Json.text?).bind fun content =>
    some (Instruction.mk inst.element inst.title content)) = some inst
  rw [hcontent]
  rfl

theorem ofJson?_dependencyRecord (dependency : Dependency) :
    Dependency.ofJson? (Report.recordJson (dependencyRecord dependency)) =
      some dependency.shown := by
  rcases dependency with ⟨name, root?⟩
  cases root? with
  | none => rfl
  | some root => rfl

theorem ofJson?_documentedRecord (found : Documented) :
    Documented.ofJson? (Report.recordJson (documentedRecord found)) = some found.shown := by
  unfold documentedRecord Documented.shown
  cases Instruction.className found.instructions with
  | none => rfl
  | some name => rfl

/-!
## Reports
-/

def listing {α : Type} (record : α -> Record) (listed : List α) : Text :=
  Report.render (listed.map record) ++ "\n".toList

/-- The reports of lists are JSON texts, and nothing that a listing shows is lost in
them. -/
structure Lossless {α β : Type} (record : α -> Record) (shown : α -> β)
    (decode? : Json -> Option β) : Prop where
  valid : forall listed, exists v, Json.Spelled (.value v) (listing record listed)
  decoded : forall listed,
    Json.decodeAll? decode? (listing record listed) = some (listed.map shown)
  injective : forall listed other, listing record listed = listing record other ->
    listed.map shown = other.map shown

theorem lossless_of_decode {α β : Type} {record : α -> Record} {shown : α -> β}
    {decode? : Json -> Option β}
    (h : forall a, decode? (Report.recordJson (record a)) = some (shown a)) :
    Lossless record shown decode? := by
  have hspelled : forall listed : List α,
      Json.Spelled (.value (Report.json (listed.map record))) (listing record listed) := by
    intro listed
    have hnone : ([] : Text).all Json.isSpace = true := rfl
    have hline : "\n".toList.all Json.isSpace = true := rfl
    have hpadded := (Report.spelled_render (listed.map record)).padded hnone hline
    exact hpadded
  have hdecoded : forall listed : List α,
      Json.decodeAll? decode? (listing record listed) = some (listed.map shown) := by
    intro listed
    rw [Json.decodeAll?, Json.read?_eq_some_iff.mpr (hspelled listed)]
    show ((listed.map record).map Report.recordJson).mapM decode? = _
    rw [List.map_map]
    exact Json.mapM_map h listed
  constructor
  · intro listed
    exact ⟨_, hspelled listed⟩
  · exact hdecoded
  · intro listed other heq
    have hlisted := hdecoded listed
    rw [heq, hdecoded other] at hlisted
    exact (Option.some.inj hlisted).symm

end Command

/-!
## What a run writes
-/

def Event.written? : Event -> Option Text
  | .write t => some t
  | _ => none

namespace Run

variable {α β : Type} {tree : FileTree}

def written (run : Run α) : List Text :=
  run.events.filterMap Event.written?

theorem written_notes (notes : List Note) :
    (notes.map Event.note).filterMap Event.written? = [] := by
  induction notes with
  | nil => rfl
  | cons note rest ih => exact ih

theorem written_seenAt (level : Nat) (run : Run α) :
    (run.seenAt level).written = run.written := by
  rw [written, seenAt, List.filterMap_filter, written]
  congr 1
  funext event
  cases event with
  | write t => rfl
  | print stream t => rfl
  | table stream columns rows => rfl
  | note n => simp [Event.written?]

theorem done_andThen (a : α) (second : FileTree -> α -> Run β) :
    (done tree a).andThen second = second tree a :=
  rfl

theorem written_ofTraced_andThen (traced : Traced α) (second : FileTree -> α -> Run β) :
    ((ofTraced tree traced).andThen second).written =
      traced.result.toOption.toList.flatMap fun a => (second tree a).written := by
  rcases traced with ⟨notes, result⟩
  cases result with
  | error failure =>
      show (notes.map Event.note ++ []).filterMap Event.written? = []
      rw [List.append_nil, written_notes]
  | ok a =>
      show (notes.map Event.note ++ [] ++ (second tree a).events).filterMap Event.written? =
        (second tree a).written ++ []
      rw [List.append_nil, List.filterMap_append, written_notes, List.append_nil]
      rfl

theorem written_ofExcept_andThen (result : Except Failure α)
    (second : FileTree -> α -> Run β) :
    ((ofExcept tree result).andThen second).written =
      result.toOption.toList.flatMap fun a => (second tree a).written :=
  written_ofTraced_andThen ⟨[], result⟩ second

theorem written_ofReply_andThen (reply : Reply α)
    (second : FileTree -> Document × α -> Run β) :
    ((ofReply tree reply).andThen second).written =
      reply.result.toOption.toList.flatMap fun a =>
        (second tree (reply.document, a)).written := by
  have hsame : (ofReply tree reply).andThen second =
      (ofTraced tree ⟨reply.notes, reply.result⟩).andThen fun tree a =>
        second tree (reply.document, a) := by
    rcases reply with ⟨document, notes, result⟩
    cases result with
    | error failure => rfl
    | ok a => simp [ofReply, andThen, ofTraced, ofExcept, done]
  rw [hsame]
  exact written_ofTraced_andThen _ _

end Run

theorem Run.written_message_stop {α : Type} (console : Console) (tree : FileTree)
    (stream : Stream) (markup : Text) (ending : Ending) :
    ((Run.message console tree stream markup).andThen fun tree _ =>
      (Run.stop tree ending : Run α)).written = [] := by
  unfold Run.message Event.message
  cases console.markup markup with
  | error failure => rfl
  | ok shown => rfl

namespace Command

variable {level : Nat} {console : Console} {tree : FileTree} {setup : Setup}

theorem written_of_not_served {command : Command} (h : command.isServed tree ≠ .ok true) :
    (command.run level console tree setup).written = [] := by
  cases hserved : command.isServed tree with
  | error failure =>
      rw [run_of_error setup hserved]
      rfl
  | ok served =>
      cases served with
      | true => exact absurd hserved h
      | false =>
          rw [run_of_missing setup hserved]
          exact Run.written_message_stop console tree _ _ _

theorem openDocument_of_found (setup : Setup) (stream : Stream) {file : Text}
    (h : tree.isFile (Path.ofText file) = .ok true) :
    openDocument console tree setup stream file =
      Run.done tree (Document.new setup.registry (some (Path.ofText file))) := by
  simp only [openDocument, h]
  rfl

theorem written_writeReport {α : Type} (record : α -> Record) (listed : List α) :
    (writeReport tree (listed.map record)).written = [listing record listed] :=
  rfl

end Command

/-!
## Results of commands
-/

namespace Program

def document? (tree : FileTree) (ready : Setup) (file : Text) : Option Document :=
  if tree.isFile (Path.ofText file) = .ok true then
    some (Document.new ready.registry (some (Path.ofText file)))
  else none

def instructions? (file : EnvironmentFile) (tree : FileTree) (environment : Environment)
    (source : Text) : Option (List Instruction) := do
  let ready <- (setup file tree environment).toOption
  let document <- document? tree ready source
  (document.instructions 0 tree).result.toOption

def dependencies? (file : EnvironmentFile) (tree : FileTree) (environment : Environment)
    (source : Text) (roots : List (Option Text)) : Option (List Dependency) := do
  let ready <- (setup file tree environment).toOption
  let document <- document? tree ready source
  let paths <- (Command.searchRoots ready roots).toOption
  (document.dependencies 0 tree paths).result.toOption

def directory? (tree : FileTree) (directory : Text) : Option Path :=
  if tree.isDirectory (Path.ofText directory) = .ok true then some (Path.ofText directory)
  else none

def documents? (file : EnvironmentFile) (tree : FileTree) (environment : Environment)
    (directory subdirectory : Text) : Option (List Documented) := do
  let ready <- (setup file tree environment).toOption
  let path <- directory? tree directory
  (Survey.find 0 tree ready.registry (path.join (Path.ofText subdirectory))).result.toOption

theorem written_execute (console : Console) (file : EnvironmentFile) (tree : FileTree)
    (environment : Environment) (verbose : Bool) (command : Command) :
    (execute console file tree environment verbose command).written =
      (setup file tree environment).toOption.toList.flatMap fun ready =>
        (command.run 0 console tree ready).written := by
  unfold execute
  cases setup file tree environment with
  | error failure =>
      dsimp only
      split
      · exact Run.written_message_stop console tree _ _ _
      · rfl
  | ok ready =>
      dsimp only
      rw [command.run_seenAt, Run.written_seenAt]
      exact (List.append_nil _).symm

theorem toList_bind_map {α β γ : Type} (a? : Option α) (f : α -> Option β) (g : β -> γ) :
    (a?.bind f).toList.map g = a?.toList.flatMap fun a => (f a).toList.map g := by
  cases a? with
  | none => rfl
  | some a => exact (List.append_nil _).symm

theorem written_parse (console : Console) (tree : FileTree) (ready : Setup) (file : Text) :
    (Command.run 0 console tree ready (.parse file true)).written =
      (document? tree ready file).toList.flatMap fun document =>
        (document.instructions 0 tree).result.toOption.toList.map
          (Command.listing Command.instructionRecord) := by
  unfold document?
  split
  · rename_i hfound
    rw [Command.run, Command.runParse, Command.openDocument_of_found ready _ hfound,
      Run.done_andThen, Run.written_ofReply_andThen]
    simp only [if_true, Command.written_writeReport, Option.toList_some, List.flatMap_cons,
      List.flatMap_nil, List.append_nil]
    exact List.map_eq_flatMap.symm
  · rename_i hmissing
    exact Command.written_of_not_served hmissing

theorem written_deps (console : Console) (tree : FileTree) (ready : Setup) (file : Text)
    (roots : List (Option Text)) :
    (Command.run 0 console tree ready (.deps file roots true)).written =
      (document? tree ready file).toList.flatMap fun document =>
        (Command.searchRoots ready roots).toOption.toList.flatMap fun paths =>
          (document.dependencies 0 tree paths).result.toOption.toList.map
            (Command.listing Command.dependencyRecord) := by
  unfold document?
  split
  · rename_i hfound
    rw [Command.run, Command.runDeps, Command.openDocument_of_found ready _ hfound,
      Run.done_andThen, Run.written_ofExcept_andThen]
    simp only [Run.written_ofReply_andThen, if_true, Command.written_writeReport,
      Option.toList_some, List.flatMap_cons, List.flatMap_nil, List.append_nil]
    simp only [List.map_eq_flatMap]
  · rename_i hmissing
    exact Command.written_of_not_served hmissing

theorem written_find (console : Console) (tree : FileTree) (ready : Setup)
    (directory subdirectory : Text) :
    (Command.run 0 console tree ready (.find directory subdirectory true)).written =
      (directory? tree directory).toList.flatMap fun path =>
        (Survey.find 0 tree ready.registry
          (path.join (Path.ofText subdirectory))).result.toOption.toList.map
            (Command.listing Command.documentedRecord) := by
  unfold directory?
  split
  · rename_i hfound
    rw [Command.run, Command.runFind, hfound, Run.ofExcept, Run.done_andThen]
    simp only [Bool.not_true, Bool.false_eq_true, if_false]
    rw [Run.written_ofTraced_andThen]
    simp only [if_true, Command.written_writeReport, Option.toList_some, List.flatMap_cons,
      List.flatMap_nil, List.append_nil]
    exact List.map_eq_flatMap.symm
  · rename_i hmissing
    exact Command.written_of_not_served hmissing

/-- Listings in JSON lose nothing of what commands have found. -/
theorem listings_lose_nothing :
    Command.Lossless Command.instructionRecord id Instruction.ofJson? ∧
    Command.Lossless Command.dependencyRecord Dependency.shown Dependency.ofJson? ∧
    Command.Lossless Command.documentedRecord Documented.shown Documented.ofJson? ∧
    (forall console file tree environment verbose source,
      (execute console file tree environment verbose (.parse source true)).written =
        (instructions? file tree environment source).toList.map
          (Command.listing Command.instructionRecord)) ∧
    (forall console file tree environment verbose source roots,
      (execute console file tree environment verbose (.deps source roots true)).written =
        (dependencies? file tree environment source roots).toList.map
          (Command.listing Command.dependencyRecord)) ∧
    (forall console file tree environment verbose directory subdirectory,
      (execute console file tree environment verbose
          (.find directory subdirectory true)).written =
        (documents? file tree environment directory subdirectory).toList.map
          (Command.listing Command.documentedRecord)) := by
  refine ⟨Command.lossless_of_decode Command.ofJson?_instructionRecord,
    Command.lossless_of_decode Command.ofJson?_dependencyRecord,
    Command.lossless_of_decode Command.ofJson?_documentedRecord, ?_, ?_, ?_⟩
  · intro console file tree environment verbose source
    simp only [written_execute, written_parse, instructions?, Option.bind_eq_bind,
      toList_bind_map]
  · intro console file tree environment verbose source roots
    simp only [written_execute, written_deps, dependencies?, Option.bind_eq_bind,
      toList_bind_map]
  · intro console file tree environment verbose directory subdirectory
    simp only [written_execute, written_find, documents?, Option.bind_eq_bind,
      toList_bind_map]

end Program
end PodManual
