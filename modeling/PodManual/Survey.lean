import PodManual.Registry
import PodManual.Source

/-!
# Survey of a directory

A survey finds the files below a directory that hold documentation.  Names that
begin with a dot are hidden, and so is all below them.
-/

namespace PodManual

/-- A documented file. -/
structure Documented where
  path : Path
  instructions : List Instruction
  deriving DecidableEq, Repr

namespace Survey

/-- The name begins with a dot. -/
def isHidden (name : Text) : Bool :=
  name.head? == some '.'

/-- A file counts when it has instructions in the dialect of its extension. -/
def visitFile (level : Nat) (registry : Registry) (path : Path) (file : File) :
    Traced (List Documented) :=
  match registry.forExtension path.extension with
  | .error failure => .fail failure
  | .ok dialect =>
      (Traced.note level (file.remarks path)).andThen fun _ =>
        match dialect.language.extractFile file with
        | [] => .done []
        | instructions => .done [⟨path, instructions⟩]

/-- Why an entry cannot be looked up by its path, in a directory that may be searched
or not. -/
def refusal? (searchable : Bool) (path : Path) : Option FileFault :=
  if path.isTooLong then some .nameTooLong
  else if searchable then none
  else some .denied

mutual

def visitEntry (level : Nat) (registry : Registry) (path : Path) :
    Entry -> Traced (List Documented)
  | .file file => visitFile level registry path file
  | .directory access listing =>
      if access.read then visitListing level registry access.search path listing
      else
        (Traced.note level [.unreadableDirectory path .denied]).andThen fun _ => .done []

/-- The documented files of a listing of the directory at a path. -/
def visitListing (level : Nat) (registry : Registry) (searchable : Bool)
    (directory : Path) : Listing -> Traced (List Documented)
  | .empty => .done []
  | .entry name node rest =>
      if isHidden name then visitListing level registry searchable directory rest
      else
        match refusal? searchable (directory.child name) with
        | some fault => .fail (.file fault (directory.child name).toText)
        | none =>
            (visitEntry level registry (directory.child name) node).andThen fun first =>
              (visitListing level registry searchable directory rest).andThen fun later =>
                .done (first ++ later)

end

def sorted (documents : List Documented) : List Documented :=
  documents.mergeSort fun first second =>
    Text.precedes first.path.toText second.path.toText

/-- The documented files below a directory, ordered by path.  A directory that
cannot be listed has none. -/
def find (level : Nat) (tree : FileTree) (registry : Registry) (directory : Path) :
    Traced (List Documented) :=
  if directory.hasNull then .fail .nullCharacter
  else
    match tree.list directory with
    | .error fault =>
        (Traced.note level [.unreadableDirectory directory fault]).andThen fun _ => .done []
    | .ok (searchable, listing) =>
        (visitListing level registry searchable directory listing).andThen fun documents =>
          .done (sorted documents)

end Survey
end PodManual
