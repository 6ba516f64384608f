import PodManual.Console.Markup
import PodManual.Program
import PodManual.Settings.EnvFile

/-!
# Command line program

The outer layer: it reads the working directory, the environment files above it and the
environment, runs the program on them with a console and an environment file, shows the
events and writes the files that have changed.
-/

namespace PodManual
namespace Main

/-- The listing of directory entries, down to a depth.  What cannot be opened is
listed as unreadable. -/
def listing : Nat -> Array IO.FS.DirEntry -> IO Listing
  | 0, _ => return .empty
  | depth + 1, entries => do
      let mut found := Listing.empty
      for entry in entries do
        let node ←
          if ← entry.path.isDir then
            try
              Entry.directory .full <$> listing depth (← entry.path.readDir)
            catch _ => pure (.directory { Access.full with read := false } .empty)
          else
            try
              (fun bytes => Entry.file (.ofBytes bytes.toList)) <$>
                IO.FS.readBinFile entry.path
            catch _ => pure (.file ⟨{ Access.full with read := false }, []⟩)
        found := found.put entry.fileName.toList node
      return found

def workingNames : IO (List Text) := do
  return (Path.ofText (← IO.currentDir).toString.toList).parts

def withEnvironmentFiles (tree : FileTree) : List Text -> IO FileTree
  | [] => return tree
  | _ :: above => do
      let place := (Place.within above).child ".env".toList
      let path := Path.toText ⟨.slash, place.names.reverse⟩
      try
        let bytes ← IO.FS.readBinFile (String.ofList path)
        withEnvironmentFiles (tree.writeAt place bytes.toList) above
      catch _ => withEnvironmentFiles tree above

/-- The files below the working directory.  No path that can be looked up has
more components than bytes. -/
def workingTree : IO FileTree := do
  let place := Place.within (← workingNames).reverse
  let below ← listing maxPathSize (← (← IO.currentDir).readDir)
  let tree : FileTree := ⟨.full, .empty, place⟩
  withEnvironmentFiles (tree.plant place (.directory .full below)) place.names

def environment : IO Environment := do
  let names := [Settings.searchPathsVariable, Settings.dialectsVariable,
    Settings.noContentsVariable, Settings.logLevelVariable]
  let values ← names.mapM fun name => do
    return (← IO.getEnv (String.ofList name)).map fun value => (name, value.toList)
  return values.filterMap id

def putLine (stream : Stream) (t : Text) : IO Unit :=
  match stream with
  | .output => IO.println (String.ofList t)
  | .errors => IO.eprintln (String.ofList t)

def showEvent : Event -> IO Unit
  | .write t => IO.print (String.ofList t)
  | .print stream t => putLine stream t
  | .table stream columns rows =>
      (columns :: rows).forM fun row => putLine stream (Text.joinWith "  ".toList row)
  | .note n => putLine .errors n.message

/-- Write the file named in a command, as it is after the run. -/
def save (tree : FileTree) (out : Text) : IO Unit :=
  match tree.fileAt? (Path.ofText out) with
  | .ok (some file) => IO.FS.writeBinFile (String.ofList out) ⟨file.bytes.toArray⟩
  | _ => return

def saveOutput (arguments : List Text) (tree : FileTree) : IO Unit :=
  match CommandLine.parse arguments with
  | .ok (.run _ (.html _ _ (some out))) => save tree out
  | _ => return

def finish : Ending -> IO UInt32
  | .exit status => return status.toUInt32
  | .failure failure => do
      putLine .errors failure.message
      return 1
  | .refusal refusal => do
      putLine .errors (refusal.program ++ ": error: ".toList ++ refusal.fault.message)
      return 2

end Main
end PodManual

open PodManual in
def main (arguments : List String) : IO UInt32 := do
  let arguments := arguments.map String.toList
  let run := Program.run Markup.console EnvFile.added (← Main.workingTree)
    (← Main.environment) arguments
  Main.saveOutput arguments run.tree
  run.events.forM Main.showEvent
  Main.finish run.ending
