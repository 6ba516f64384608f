import PodManual.FileTree.Write

/-!
# Files by name

A file can be named by a text that is followed as it is written: an empty name
leads nowhere, a slash or a dot at its end asks for a directory, and its own
length counts.  A failure shows the name unchanged.  Planting makes the
directories on the way first.
-/

namespace PodManual
namespace FileTree

/-- A name with a slash or a dot at its end can only be that of a directory. -/
def namesDirectory (name : Text) : Bool :=
  match (Text.cutAt '/' name).getLast? with
  | some last => !Path.isPart last
  | none => false

def locateNamed (tree : FileTree) (name : Text) : Except FileFault Place :=
  if name = [] then .error .missing
  else if maxPathSize < Utf8.size name then .error .nameTooLong
  else
    match tree.locate (Path.ofText name) with
    | .error fault => .error fault
    | .ok place =>
        if tree.isFileAt place && namesDirectory name then .error .notDirectory
        else .ok place

/-- The bytes of the file of a name, if it can be read. -/
def fileNamed? (tree : FileTree) (name : Text) : Option (List UInt8) :=
  if name.contains '\x00' then none
  else
    match tree.locateNamed name with
    | .error _ => none
    | .ok place =>
        match tree.entryAt? place with
        | some (.file file) => if file.access.read then some file.bytes else none
        | _ => none

def remove (tree : FileTree) (name : Text) : Except Failure FileTree :=
  if name.contains '\x00' then .error .nullCharacter
  else
    match tree.locateNamed name with
    | .error fault => .error (.file fault name)
    | .ok place =>
        if !tree.isChangeableAt place.parent then .error (.file .denied name)
        else if tree.isFileAt place then .ok (tree.uproot place)
        else .error (.file .isDirectory name)

/-! ## Planting -/

/-- Look up one name in the directory at a place, and make a directory of it if it
is not there. -/
def enterMaking (tree : FileTree) (place : Place) (name : Text) :
    Except FileFault (FileTree × Place) :=
  match tree.enter place name with
  | .ok next => .ok (tree, next)
  | .error .missing =>
      if tree.isChangeableAt place then
        .ok (tree.plant (place.child name) (.directory .full .empty), place.child name)
      else .error .denied
  | .error fault => .error fault

/-- The slashes at the end of a name, and the name without them. -/
def cutSlashes (name : Text) : Text × Text :=
  (name.reverse.takeWhile (· == '/'), (name.reverse.dropWhile (· == '/')).reverse)

def nameOf (pieces : List Text) : Text :=
  Text.joinWith "/".toList pieces.reverse

/-- Make the directories that the pieces of a name lead through.  The pieces
already behind are `done`, the last one first, and have led to a place.
Directories that were made stay, whatever comes after.  After the last piece a
failure shows the slashes at the end of the name too. -/
def makeDirectories (tree : FileTree) (slashes : Text) (place : Place)
    (done : List Text) : List Text -> FileTree × Except Failure Place
  | [] =>
      (tree,
        if tree.isFileAt place then .error (.file .alreadyThere (nameOf done ++ slashes))
        else .ok place)
  | piece :: rest =>
      let name := nameOf (piece :: done) ++ if rest = [] then slashes else []
      if piece = ".".toList ∧ tree.isFileAt place then
        (tree, .error (.file .notDirectory name))
      else if !Path.isPart piece then
        tree.makeDirectories slashes place (piece :: done) rest
      else if maxPathSize < Utf8.size name then
        (tree, .error (.file .nameTooLong name))
      else
        match tree.enterMaking place piece with
        | .error fault => (tree, .error (.file fault name))
        | .ok (tree, next) => tree.makeDirectories slashes next (piece :: done) rest

/-- Give the file of a name its bytes, with the directories on the way. -/
def plantFile (tree : FileTree) (name : Text) (bytes : List UInt8) :
    FileTree × Except Failure Unit :=
  if name.contains '\x00' then (tree, .error .nullCharacter)
  else if name = [] then (tree, .error (.file .missing name))
  else
    let pieces := Text.cutAt '/' name
    let directory := (cutSlashes (nameOf pieces.dropLast.reverse)).2
    let last := pieces.getLast?.getD []
    match tree.start (Path.ofText name) with
    | .error fault => (tree, .error (.file fault name))
    | .ok place =>
        match tree.makeDirectories [] place [] (Text.cutAt '/' directory) with
        | (tree, .error failure) => (tree, .error failure)
        | (tree, .ok directory) =>
            if maxPathSize < Utf8.size name then (tree, .error (.file .nameTooLong name))
            else if !Path.isPart last then (tree, .error (.file .isDirectory name))
            else
              match tree.placeIn directory last with
              | .error fault => (tree, .error (.file fault name))
              | .ok place => (tree.writeAt place bytes, .ok ())

/-- Make the directory of a name, with the directories on the way. -/
def plantDirectory (tree : FileTree) (name : Text) : FileTree × Except Failure Unit :=
  if name.contains '\x00' then (tree, .error .nullCharacter)
  else if name = [] then (tree, .error (.file .missing name))
  else
    let (slashes, directory) := cutSlashes name
    match tree.start (Path.ofText name) with
    | .error fault => (tree, .error (.file fault name))
    | .ok place =>
        match tree.makeDirectories slashes place [] (Text.cutAt '/' directory) with
        | (tree, .error failure) => (tree, .error failure)
        | (tree, .ok _) => (tree, .ok ())

end FileTree
end PodManual
