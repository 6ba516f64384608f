import PodManual.FileTree.Lookup

/-!
# Changing a file tree

A file is written into a directory that exists and may be changed, or in place of an
older file, whose access it keeps.
-/

namespace PodManual
namespace FileTree

/-- The place is a directory to which entries may be added, and from which they may be
taken. -/
def isChangeableAt (tree : FileTree) (place : Place) : Bool :=
  match tree.entryAt? place with
  | some (.directory access _) => access.write
  | _ => false

/-- The place of a file of a name to be written into the directory at a place. -/
def placeIn (tree : FileTree) (directory : Place) (name : Text) : Except FileFault Place :=
  match tree.enter directory name with
  | .ok place =>
      match tree.entryAt? place with
      | some (.file file) => if file.access.write then .ok place else .error .denied
      | _ => .error .isDirectory
  | .error .missing =>
      if tree.isChangeableAt directory then .ok (directory.child name) else .error .denied
  | .error fault => .error fault

/-- The place of a file to be written: its directory has to exist, and the file
itself may not be a directory. -/
def locateNew (tree : FileTree) (path : Path) : Except FileFault Place :=
  if path.isTooLong then .error .nameTooLong
  else
    match tree.start path, path.parts.reverse with
    | .error fault, _ => .error fault
    | .ok _, [] => .error .isDirectory
    | .ok place, name :: above =>
        match tree.follow place above.reverse with
        | .error fault => .error fault
        | .ok directory => tree.placeIn directory name

def writeAt (tree : FileTree) (place : Place) (bytes : List UInt8) : FileTree :=
  match tree.entryAt? place with
  | some (.file file) => tree.plant place (.file { file with bytes := bytes })
  | _ => tree.plant place (.file (.ofBytes bytes))

def write (tree : FileTree) (path : Path) (bytes : List UInt8) :
    Except Failure FileTree :=
  if path.hasNull then .error .nullCharacter
  else
    match tree.locateNew path with
    | .error fault => .error (.file fault path.toText)
    | .ok place => .ok (tree.writeAt place bytes)

end FileTree
end PodManual
