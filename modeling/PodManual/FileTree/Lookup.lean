import PodManual.Failure
import PodManual.FileTree.Basic

/-!
# Looking up paths

A path is followed name by name, from the root directory or from the working
directory, and each name is looked up in a directory that may be searched.  A name
longer than 255 bytes cannot be looked up at all, nor can a path of 4096 bytes or
more.
-/

namespace PodManual

/-- The longest name of an entry, in bytes. -/
def maxNameSize : Nat := 255

/-- The longest text of a path, in bytes. -/
def maxPathSize : Nat := 4095

namespace Path

def isTooLong (path : Path) : Bool :=
  decide (maxPathSize < Utf8.size path.toText)

def hasNull (path : Path) : Bool :=
  path.parts.any fun part => part.contains '\x00'

end Path

namespace FileTree

def isFileAt (tree : FileTree) (place : Place) : Bool :=
  match tree.entryAt? place with
  | some (.file _) => true
  | _ => false

def barrier? (tree : FileTree) (place : Place) : Option FileFault :=
  match tree.entryAt? place with
  | none => some .missing
  | some (.file _) => some .notDirectory
  | some (.directory access _) => if access.search then none else some .denied

def enter (tree : FileTree) (place : Place) (name : Text) : Except FileFault Place :=
  match tree.barrier? place with
  | some fault => .error fault
  | none =>
      if name = "..".toList then .ok place.parent
      else if maxNameSize < Utf8.size name then .error .nameTooLong
      else
        match tree.entryAt? (place.child name) with
        | none => .error .missing
        | some _ => .ok (place.child name)

def follow (tree : FileTree) : Place -> List Text -> Except FileFault Place
  | place, [] => .ok place
  | place, name :: names =>
      match tree.enter place name with
      | .error fault => .error fault
      | .ok next => tree.follow next names

/-- The place that a path starts from.  Even without a name to look up, the working
directory is looked into. -/
def start (tree : FileTree) (path : Path) : Except FileFault Place :=
  match path.root with
  | .relative =>
      match tree.barrier? tree.workingDirectory with
      | some fault => .error fault
      | none => .ok tree.workingDirectory
  | _ => .ok (.within [])

def locate (tree : FileTree) (path : Path) : Except FileFault Place :=
  if path.isTooLong then .error .nameTooLong
  else
    match tree.start path with
    | .error fault => .error fault
    | .ok place => tree.follow place path.parts

/-- The place of a path, if there is one.  A name that is too long is a failure, and so
is a directory that may not be searched; anything else that is wrong with a path means
that nothing is there. -/
def placeOf? (tree : FileTree) (path : Path) : Except Failure (Option Place) :=
  if path.hasNull then .ok none
  else
    match tree.locate path with
    | .ok place => .ok (some place)
    | .error .nameTooLong => .error (.file .nameTooLong path.toText)
    | .error .denied => .error (.file .denied path.toText)
    | .error _ => .ok none

def fileAt? (tree : FileTree) (path : Path) : Except Failure (Option File) :=
  match tree.placeOf? path with
  | .error failure => .error failure
  | .ok none => .ok none
  | .ok (some place) =>
      match tree.entryAt? place with
      | some (.file file) => .ok (some file)
      | _ => .ok none

def isFile (tree : FileTree) (path : Path) : Except Failure Bool :=
  match tree.fileAt? path with
  | .error failure => .error failure
  | .ok file? => .ok file?.isSome

def isDirectory (tree : FileTree) (path : Path) : Except Failure Bool :=
  match tree.placeOf? path with
  | .error failure => .error failure
  | .ok none => .ok false
  | .ok (some place) =>
      match tree.entryAt? place with
      | some (.directory _ _) => .ok true
      | _ => .ok false

/-- The directory at a path: whether it may be searched, and its listing.  It has to be
readable. -/
def list (tree : FileTree) (path : Path) : Except FileFault (Bool × Listing) :=
  match tree.locate path with
  | .error fault => .error fault
  | .ok place =>
      match tree.entryAt? place with
      | none => .error .missing
      | some (.file _) => .error .notDirectory
      | some (.directory access listing) =>
          if access.read then .ok (access.search, listing) else .error .denied

end FileTree
end PodManual
