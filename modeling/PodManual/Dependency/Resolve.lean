import PodManual.Dependency.Declared
import PodManual.Registry
import PodManual.Source

/-!
# Resolution of dependencies

The names that a document declares are looked up below the search roots, in the
order of the roots, and so are the names that the found documents declare, each
name once.  A dependency is followed at once by what its documents depend on.

A search visits each name at most once, and only names that some file declares
are searched for, so the number of those names bounds the depth of the search.
-/

namespace PodManual

/-- A dependency, and the first search root below which it was found. -/
structure Dependency where
  name : Text
  root? : Option Path
  deriving DecidableEq, Repr

/-- What a search needs to know of a document: its extension, which decides how
names become paths, the names that it declares, and what is to be noted of its file
when the search comes to it. -/
structure Declaring where
  extension : Text
  names : List Text
  remarks : List Note
  deriving DecidableEq, Repr

namespace Dependency

/-- The dependencies found, in order, and the names visited, latest first. -/
abbrev Found := List Dependency × List Text

def isNone (name : Text) : Bool :=
  Text.lower name == "none".toList

def pathOf (dialect : Dialect) (root : Path) (name : Text) : Path :=
  root.join (Path.ofText (dialect.language.relativePath name))

/-- The document of a name below a root, if there is one, seen from a document of
an extension. -/
def openBelow (tree : FileTree) (registry : Registry) (extension : Text)
    (root : Path) (name : Text) : Except Failure (Option Declaring) :=
  match registry.forExtension extension with
  | .error failure => .error failure
  | .ok dialect =>
      match tree.fileAt? (pathOf dialect root name) with
      | .error failure => .error failure
      | .ok none => .ok none
      | .ok (some file) =>
          .ok (some ⟨(pathOf dialect root name).extension,
            declared (dialect.language.extractFile file),
            file.remarks (pathOf dialect root name)⟩)

/-- Go through the search roots for one name: the first root that has a document
of the name, and what all its documents lead to. -/
def searchRoots (openAt : Path -> Except Failure (Option Declaring))
    (descend : Declaring -> List Text -> Traced Found) :
    List Path -> List Text -> Traced (Option Path × Found)
  | [], visited => .done (none, [], visited)
  | root :: roots, visited =>
      (Traced.ofExcept (openAt root)).andThen fun
      | none => searchRoots openAt descend roots visited
      | some document =>
          (descend document visited).andThen fun below =>
            (searchRoots openAt descend roots below.2).andThen fun later =>
              .done (some root, below.1 ++ later.2.1, later.2.2)

/-- Go through names: skip those visited before and those that stand for none,
and search for the others. -/
def searchNames (level : Nat) (openAt : Path -> Text -> Except Failure (Option Declaring))
    (descend : Declaring -> List Text -> Traced Found) (roots : List Path) :
    List Text -> List Text -> Traced Found
  | [], visited => .done ([], visited)
  | name :: names, visited =>
      if name ∈ visited then
        (Traced.note level [.alreadyVisited name]).andThen fun _ =>
          searchNames level openAt descend roots names visited
      else if isNone name then searchNames level openAt descend roots names visited
      else
        (searchRoots (fun root => openAt root name) descend roots
          (name :: visited)).andThen fun own =>
          (match own.1 with
            | none => Traced.note level [.dependencyNotFound name]
            | some _ => .done ()).andThen fun _ =>
            (searchNames level openAt descend roots names own.2.2).andThen fun later =>
              .done (Dependency.mk name own.1 :: (own.2.1 ++ later.1), later.2)

def search (level : Nat) (tree : FileTree) (registry : Registry) (roots : List Path) :
    Nat -> Declaring -> List Text -> Traced Found
  | 0, _, _ => .fail .tooDeep
  | depth + 1, document, visited =>
      (Traced.note level document.remarks).andThen fun _ =>
        searchNames level (openBelow tree registry document.extension)
          (search level tree registry roots depth) roots document.names visited

/-- Every name that some file of the tree declares in some dialect of the
registry. -/
def declarable (tree : FileTree) (registry : Registry) : List Text :=
  tree.files.flatMap fun file =>
    registry.dialects.flatMap fun dialect =>
      declared (dialect.language.extractFile file)

/-- A depth that no search exceeds: each step down visits one more of the names
that can be met. -/
def depthBound (tree : FileTree) (registry : Registry) (document : Declaring) : Nat :=
  document.names.length + (declarable tree registry).length + 1

def resolve (level : Nat) (tree : FileTree) (registry : Registry) (roots : List Path)
    (document : Declaring) (visited : List Text) : Traced Found :=
  search level tree registry roots (depthBound tree registry document) document visited

end Dependency
end PodManual
