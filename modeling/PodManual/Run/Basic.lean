import PodManual.CommandLine.Request
import PodManual.Document
import PodManual.Event
import PodManual.Settings.Basic

/-!
# Runs

A run of the program leaves events and files behind, and it ends: by an exit
status, by a failure that nothing handles, or by the refusal of the command line.
Notes are events like any other.
-/

namespace PodManual

/-- How a run ends. -/
inductive Ending where
  | exit (status : Nat)
  | failure (failure : Failure)
  | refusal (refusal : Refusal)
  deriving DecidableEq, Repr

/-- A run so far: the events, the files, and a result unless it has ended. -/
structure Run (α : Type) where
  events : List Event
  tree : FileTree
  result : Except Ending α

namespace Run

variable {α β : Type}

/-- Go on with a result; an ended run stays as it is. -/
def andThen (first : Run α) (second : FileTree -> α -> Run β) : Run β :=
  match first.result with
  | .ok a =>
      let next := second first.tree a
      ⟨first.events ++ next.events, next.tree, next.result⟩
  | .error ending => ⟨first.events, first.tree, .error ending⟩

def done (tree : FileTree) (a : α) : Run α :=
  ⟨[], tree, .ok a⟩

def stop (tree : FileTree) (ending : Ending) : Run α :=
  ⟨[], tree, .error ending⟩

def event (tree : FileTree) (e : Event) : Run Unit :=
  ⟨[e], tree, .ok ()⟩

def ofExcept (tree : FileTree) (result : Except Failure α) : Run α :=
  match result with
  | .ok a => done tree a
  | .error failure => stop tree (.failure failure)

def ofTraced (tree : FileTree) (traced : Traced α) : Run α :=
  let next := ofExcept tree traced.result
  ⟨traced.notes.map .note ++ next.events, next.tree, next.result⟩

def ofReply (tree : FileTree) (reply : Reply α) : Run (Document × α) :=
  (ofTraced tree ⟨reply.notes, reply.result⟩).andThen fun tree a =>
    done tree (reply.document, a)

def message (console : Console) (tree : FileTree) (stream : Stream) (markup : Text) :
    Run Unit :=
  (ofExcept tree (Event.message console stream markup)).andThen fun tree e => event tree e

/-- How the run ends: with status 0 unless it has ended otherwise. -/
def ending (run : Run α) : Ending :=
  match run.result with
  | .ok _ => .exit 0
  | .error ending => ending

end Run

end PodManual
