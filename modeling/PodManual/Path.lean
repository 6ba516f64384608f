import PodManual.Text.Case

/-!
# Paths

A path is relative or has a root, and a list of components.  Empty components
and components `.` carry no meaning and are dropped; `..` is kept, since what it
means depends on the files.  Exactly two leading slashes are a root of its own.
-/

namespace PodManual

inductive PathRoot where
  | relative
  | slash
  | doubleSlash
  deriving DecidableEq, Repr

structure Path where
  root : PathRoot
  parts : List Text
  deriving DecidableEq, Repr

namespace PathRoot

def ofText : Text -> PathRoot
  | '/' :: '/' :: '/' :: _ => .slash
  | '/' :: '/' :: _ => .doubleSlash
  | '/' :: _ => .slash
  | _ => .relative

def toText : PathRoot -> Text
  | .relative => []
  | .slash => "/".toList
  | .doubleSlash => "//".toList

end PathRoot

namespace Path

def isPart (part : Text) : Bool :=
  part != [] && part != ".".toList

def ofText (t : Text) : Path :=
  ⟨PathRoot.ofText t, (Text.cutAt '/' t).filter isPart⟩

/-- The text of a path; without root and components it is `.`. -/
def toText (path : Path) : Text :=
  match path.root.toText ++ Text.joinWith "/".toList path.parts with
  | [] => ".".toList
  | t => t

/-- The second path seen from the first; a rooted path stands on its own. -/
def join (first second : Path) : Path :=
  match second.root with
  | .relative => ⟨first.root, first.parts ++ second.parts⟩
  | _ => second

def child (path : Path) (part : Text) : Path :=
  ⟨path.root, path.parts ++ [part]⟩

def name (path : Path) : Text :=
  path.parts.getLast?.getD []

/-- The part of the last component from its last dot on; empty when that dot is
the first or the last character. -/
def suffix (path : Path) : Text :=
  let backwards := path.name.reverse
  let tail := backwards.takeWhile (· != '.')
  let stem := (backwards.dropWhile (· != '.')).drop 1
  if tail = [] ∨ stem = [] then [] else '.' :: tail.reverse

def extension (path : Path) : Text :=
  Text.lower (path.suffix.dropWhile (· == '.'))

end Path
end PodManual
