import PodManual.Text.Utf8

/-!
# File trees

A file tree is what lies below the root directory: a listing of names, each with a
file or another directory.  Whether an entry may be read, changed or looked into is
part of the entry.  The working directory of the program is a place in the tree.

There are no links and no special files.
-/

namespace PodManual

/-- What may be done with an entry.  Only directories can be searched: that is to look
up a name in them. -/
structure Access where
  read : Bool
  write : Bool
  search : Bool
  deriving DecidableEq, Repr

namespace Access

def full : Access :=
  ⟨true, true, true⟩

end Access

structure File where
  access : Access
  bytes : List UInt8
  deriving DecidableEq, Repr

namespace File

def ofBytes (bytes : List UInt8) : File :=
  ⟨.full, bytes⟩

def ofText (t : Text) : File :=
  .ofBytes (Utf8.encode t)

end File

mutual

inductive Entry where
  | file (file : File)
  | directory (access : Access) (listing : Listing)

/-- The named entries of a directory; of two entries of one name the first
counts. -/
inductive Listing where
  | empty
  | entry (name : Text) (node : Entry) (rest : Listing)

end

namespace Listing

def get? (name : Text) : Listing -> Option Entry
  | .empty => none
  | .entry other node rest => if other = name then some node else get? name rest

/-- Give a name an entry; a new name comes last. -/
def put (name : Text) (node : Entry) : Listing -> Listing
  | .empty => .entry name node .empty
  | .entry other old rest =>
      if other = name then .entry other node rest
      else .entry other old (put name node rest)

def erase (name : Text) : Listing -> Listing
  | .empty => .empty
  | .entry other node rest =>
      if other = name then rest else .entry other node (erase name rest)

/-- Give an entry to the name below a listing that the names lead to, with the
directories on the way. -/
def plant (node : Entry) : List Text -> Listing -> Listing
  | [], listing => listing
  | [name], listing => listing.put name node
  | name :: next :: names, listing =>
      match listing.get? name with
      | some (.directory access below) =>
          listing.put name (.directory access (plant node (next :: names) below))
      | _ => listing.put name (.directory .full (plant node (next :: names) .empty))

def uproot : List Text -> Listing -> Listing
  | [], listing => listing
  | [name], listing => listing.erase name
  | name :: next :: names, listing =>
      match listing.get? name with
      | some (.directory access below) =>
          listing.put name (.directory access (uproot (next :: names) below))
      | _ => listing

end Listing

def Entry.descend : List Text -> Entry -> Option Entry
  | [], node => some node
  | _ :: _, .file _ => none
  | name :: names, .directory _ listing =>
      match listing.get? name with
      | none => none
      | some node => descend names node

mutual

def Entry.files : Entry -> List File
  | .file file => [file]
  | .directory _ listing => listing.files

def Listing.files : Listing -> List File
  | .empty => []
  | .entry _ node rest => node.files ++ rest.files

end

/-- A place within the tree: the names from the root directory on, nearest first. -/
structure Place where
  within ::
  names : List Text
  deriving DecidableEq, Repr

namespace Place

/-- The directory that holds a place; the root directory holds itself. -/
def parent (place : Place) : Place :=
  .within place.names.tail

def child (place : Place) (name : Text) : Place :=
  .within (name :: place.names)

end Place

/-- The root directory with what is below it, and the place of the working
directory. -/
structure FileTree where
  access : Access
  top : Listing
  workingDirectory : Place

namespace FileTree

/-- The name of the working directory in a tree that holds nothing beside it. -/
def workName : Text := "work".toList

/-- A tree that holds nothing but the working directory, with a listing. -/
def ofListing (listing : Listing) : FileTree :=
  ⟨.full, .entry workName (.directory .full listing) .empty, .within [workName]⟩

def empty : FileTree :=
  ofListing .empty

def entry? (tree : FileTree) (names : List Text) : Option Entry :=
  (Entry.directory tree.access tree.top).descend names

def entryAt? (tree : FileTree) (place : Place) : Option Entry :=
  tree.entry? place.names.reverse

def files (tree : FileTree) : List File :=
  tree.top.files

def plant (tree : FileTree) (place : Place) (node : Entry) : FileTree :=
  { tree with top := tree.top.plant node place.names.reverse }

def uproot (tree : FileTree) (place : Place) : FileTree :=
  { tree with top := tree.top.uproot place.names.reverse }

end FileTree
end PodManual
