import PodManual.Proofs.Document.Reading

/-!
# Runs of operations

What a caller can do with the current document, as one type of operations, and what
a caller sees of each.  A run performs operations one after the other, each on the
document that the last one left behind.
-/

namespace PodManual

/-- An operation on the current document.  The first two put another document in
its place. -/
inductive Operation where
  | new (path? : Option Path)
  | forClass (root : Path) (name extension : Text)
  | setPath (path : Path)
  | setDialect (extension : Text)
  | dialect
  | read
  | instructions
  | className
  | dependencies (roots : List Path)
  | dependenciesFrom (roots : List Path) (visited : List Text)
  | page (options : PageOptions)
  | fileExists
  | fullPath (directory : Path)
  deriving DecidableEq, Repr

inductive Answer where
  | placed (path? : Option Path) (extension : Text)
  | dialect (dialect : Dialect)
  | instructions (instructions : List Instruction)
  | className (name? : Option Text)
  | dependencies (dependencies : List Dependency)
  | found (found : Dependency.Found)
  | page (page : Text)
  | fileExists (holds : Bool)
  | fullPath (path : Text)
  deriving DecidableEq, Repr

namespace Reply

variable {α β : Type}

def map (f : α -> β) (reply : Reply α) : Reply β :=
  ⟨reply.document, reply.notes, reply.result.map f⟩

@[simp] theorem map_document (f : α -> β) (reply : Reply α) :
    (reply.map f).document = reply.document := rfl

@[simp] theorem map_result (f : α -> β) (reply : Reply α) :
    (reply.map f).result = reply.result.map f := rfl

end Reply

namespace Document

/-- Put another document in the place of this one, unless there is none. -/
def replaceBy (document : Document) : Except Failure Document -> Reply Answer
  | .ok other => ⟨other, [], .ok (.placed other.path? other.extension)⟩
  | .error failure => ⟨document, [], .error failure⟩

def perform (level : Nat) (tree : FileTree) (document : Document) :
    Operation -> Reply Answer
  | .new path? => document.replaceBy (.ok (new document.registry path?))
  | .forClass root name extension =>
      document.replaceBy (forClass document.registry root name extension)
  | .setPath path => document.replaceBy (.ok (document.setPath path))
  | .setDialect extension => document.replaceBy (document.setDialect extension)
  | .dialect => document.dialect.map .dialect
  | .read => (document.read level tree).map .instructions
  | .instructions => (document.instructions level tree).map .instructions
  | .className => (document.className level tree).map .className
  | .dependencies roots => (document.dependencies level tree roots).map .dependencies
  | .dependenciesFrom roots visited =>
      (document.dependenciesFrom level tree roots visited).map .found
  | .page options => (document.page level tree options).map .page
  | .fileExists => ⟨document, [], (document.fileExists tree).map .fileExists⟩
  | .fullPath directory => ⟨document, [], .ok (.fullPath (document.fullPath directory))⟩

/-- The document after a run of operations on files that stay as they are. -/
def after (level : Nat) (tree : FileTree) (document : Document)
    (operations : List Operation) : Document :=
  operations.foldl
    (fun document operation => (document.perform level tree operation).document) document

def answers (level : Nat) (tree : FileTree) (document : Document) :
    List Operation -> List (Except Failure Answer)
  | [] => []
  | operation :: operations =>
      (document.perform level tree operation).result ::
        (document.perform level tree operation).document.answers level tree operations

end Document
end PodManual
