import PodManual.Extract
import PodManual.FileTree.Lookup
import PodManual.Text.Utf8
import PodManual.Traced

/-!
# Source files

The instructions of a source file.  A path that is no regular file has none, and
neither has a file that cannot be read.
-/

namespace PodManual

def Language.extractBytes (language : Language) (bytes : List UInt8) :
    List Instruction :=
  language.extract (Utf8.fileLines bytes)

def Language.extractFile (language : Language) (file : File) : List Instruction :=
  if file.access.read then language.extractBytes file.bytes else []

def File.remarks (file : File) (path : Path) : List Note :=
  if file.access.read then [] else [.unreadableFile path .denied]

def FileTree.extract (level : Nat) (tree : FileTree) (path : Path) (language : Language) :
    Traced (List Instruction) :=
  match tree.fileAt? path with
  | .error failure => .fail failure
  | .ok none => (Traced.note level [.notRegularFile path]).andThen fun _ => .done []
  | .ok (some file) =>
      (Traced.note level (file.remarks path)).andThen fun _ =>
        .done (language.extractFile file)

end PodManual
