import PodManual.Dependency.Resolve
import PodManual.Page.Basic

/-!
# Documents

A document is a path together with what has been derived from its file: the
dialect, the instructions, the name and the dependencies per list of search
roots.  What has been derived is kept and given again, until the path or the
dialect of the document is set anew; a fresh reading of the file renews the
instructions only.

An operation replies with its result or failure and with the document as it is
then: what was derived before a failure stays.
-/

namespace PodManual

structure Document where
  registry : Registry
  path? : Option Path
  dialect? : Option Dialect
  instructions? : Option (List Instruction)
  className? : Option Text
  resolved : List (List Path × List Dependency)
  deriving DecidableEq, Repr

/-- The reply of an operation: the document afterwards, the notes taken, and the
result. -/
structure Reply (α : Type) where
  document : Document
  notes : List Note
  result : Except Failure α

namespace Reply

variable {α β : Type}

/-- Go on with a result; a failure ends the operation. -/
def andThen (first : Reply α) (second : Document -> α -> Reply β) : Reply β :=
  match first.result with
  | .ok a =>
      let next := second first.document a
      ⟨next.document, first.notes ++ next.notes, next.result⟩
  | .error failure => ⟨first.document, first.notes, .error failure⟩

/-- A traced result as a reply of a document that a result changes. -/
def ofTraced (document : Document) (traced : Traced α)
    (update : α -> Document) : Reply α :=
  match traced.result with
  | .ok a => ⟨update a, traced.notes, .ok a⟩
  | .error failure => ⟨document, traced.notes, .error failure⟩

end Reply

namespace Document

def new (registry : Registry) (path? : Option Path) : Document :=
  ⟨registry, path?, none, none, none, []⟩

/-- The document of a class or module below a root, in the dialect of an
extension. -/
def forClass (registry : Registry) (root : Path) (name extension : Text) :
    Except Failure Document :=
  match registry.forExtension extension with
  | .error failure => .error failure
  | .ok dialect =>
      .ok { new registry (some (Dependency.pathOf dialect root name)) with
        dialect? := some dialect }

/-- Set another path; nothing derived is kept. -/
def setPath (document : Document) (path : Path) : Document :=
  new document.registry (some path)

/-- Set the dialect of an extension; nothing derived is kept. -/
def setDialect (document : Document) (extension : Text) : Except Failure Document :=
  match document.registry.forExtension extension with
  | .error failure => .error failure
  | .ok dialect =>
      .ok { document with
        dialect? := some dialect
        instructions? := none
        className? := none
        resolved := [] }

def extension (document : Document) : Text :=
  match document.path? with
  | none => []
  | some path => path.extension

def fileExists (tree : FileTree) (document : Document) : Except Failure Bool :=
  match document.path? with
  | none => .ok false
  | some path => tree.isFile path

def fullPath (directory : Path) (document : Document) : Text :=
  match document.path? with
  | none => []
  | some path => (directory.join path).toText

def chooseDialect (document : Document) : Reply Dialect :=
  match document.registry.forExtension document.extension with
  | .error failure => ⟨document, [], .error failure⟩
  | .ok dialect => ⟨{ document with dialect? := some dialect }, [], .ok dialect⟩

def dialect (document : Document) : Reply Dialect :=
  match document.dialect? with
  | some dialect => ⟨document, [], .ok dialect⟩
  | none => document.chooseDialect

def read (level : Nat) (tree : FileTree) (document : Document) : Reply (List Instruction) :=
  match document.path? with
  | none => ⟨{ document with instructions? := some [] }, [], .ok []⟩
  | some path =>
      document.dialect.andThen fun document dialect =>
        Reply.ofTraced document (tree.extract level path dialect.language)
          fun instructions => { document with instructions? := some instructions }

def instructions (level : Nat) (tree : FileTree) (document : Document) :
    Reply (List Instruction) :=
  match document.instructions? with
  | some instructions => ⟨document, [], .ok instructions⟩
  | none => document.read level tree

def className (level : Nat) (tree : FileTree) (document : Document) :
    Reply (Option Text) :=
  match document.className? with
  | some name => ⟨document, [], .ok (some name)⟩
  | none =>
      (document.instructions level tree).andThen fun document instructions =>
        let name? := Instruction.className instructions
        ⟨{ document with className? := name? }, [], .ok name?⟩

/-- The dependencies of the document, from names visited before, and the names
visited then. -/
def dependenciesFrom (level : Nat) (tree : FileTree) (document : Document)
    (roots : List Path) (visited : List Text) : Reply Dependency.Found :=
  (document.instructions level tree).andThen fun document instructions =>
    Reply.ofTraced document
      (Dependency.resolve level tree document.registry roots
        ⟨document.extension, Dependency.declared instructions, []⟩ visited)
      fun _ => document

/-- The dependencies of the document, resolved once for each list of search
roots. -/
def dependencies (level : Nat) (tree : FileTree) (document : Document)
    (roots : List Path) : Reply (List Dependency) :=
  match document.resolved.lookup roots with
  | some dependencies => ⟨document, [], .ok dependencies⟩
  | none =>
      (document.dependenciesFrom level tree roots []).andThen fun document found =>
        ⟨{ document with resolved := (roots, found.1) :: document.resolved }, [],
          .ok found.1⟩

def page (level : Nat) (tree : FileTree) (document : Document) (options : PageOptions) :
    Reply Text :=
  (document.instructions level tree).andThen fun document instructions =>
    ⟨document, [], .ok (Page.render options instructions)⟩

end Document
end PodManual
