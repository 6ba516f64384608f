import PodManual.Command.Rows
import PodManual.FileTree.Write
import PodManual.Run.Basic

/-!
# Commands

Each command opens what its arguments name, and writes or prints what it is asked
for.  Pages and reports go to the output as they are; messages and tables are
printed on a console.
-/

namespace PodManual

structure Setup where
  settings : Settings
  registry : Registry

namespace Command

/-- The document of a file named in the arguments; if there is none, a message
says so and the run ends with status 1. -/
def openDocument (console : Console) (tree : FileTree) (setup : Setup) (stream : Stream)
    (file : Text) : Run Document :=
  let path := Path.ofText file
  (Run.ofExcept tree (tree.isFile path)).andThen fun tree found =>
    if found then Run.done tree (Document.new setup.registry (some path))
    else
      (Run.message console tree stream
        ("[red]Plik nie istnieje:[/red] ".toList ++ path.toText)).andThen fun tree _ =>
        Run.stop tree (.exit 1)

def undocumented (console : Console) (tree : FileTree) (stream : Stream) (file : Text) :
    Run Unit :=
  Run.message console tree stream
    ("[yellow]Brak dokumentacji POD w pliku:[/yellow] ".toList ++
      (Path.ofText file).toText)

def writeReport (tree : FileTree) (records : List Record) : Run Unit :=
  Run.event tree (.write (Report.render records ++ "\n".toList))

def printTable (console : Console) (tree : FileTree) (columns : List Text)
    (rows : List (List Text)) : Run Unit :=
  ⟨[.print .output [], .ofTable console .output columns rows], tree, .ok ()⟩

/-- Render the page of a file, and write it to a file or to the output. -/
def runHtml (level : Nat) (console : Console) (tree : FileTree) (setup : Setup)
    (file : Text) (noContents : Bool) (out? : Option Text) : Run Unit :=
  (openDocument console tree setup .errors file).andThen fun tree document =>
    (Run.ofReply tree (document.instructions level tree)).andThen
        fun tree (document, instructions) =>
      if instructions = [] then undocumented console tree .errors file
      else
        let options := PageOptions.mk (noContents || setup.settings.noContents)
        (Run.ofReply tree (document.page level tree options)).andThen fun tree (_, page) =>
          match out? with
          | some (c :: out) =>
              let path := Path.ofText (c :: out)
              (Run.ofExcept tree (tree.write path (Utf8.encode page))).andThen fun _ tree =>
                Run.message console tree .errors
                  ("[green]HTML:[/green] ".toList ++ path.toText ++ "  (".toList ++
                    instructionCount instructions ++ ")".toList)
          | _ => Run.event tree (.write (page ++ "\n".toList))

/-- The paths of the roots given in the arguments; each has to have one. -/
def rootPaths : List (Option Text) -> Except Failure (List Path)
  | [] => .ok []
  | none :: _ => .error .pathWithoutText
  | some t :: rest =>
      match rootPaths rest with
      | .error failure => .error failure
      | .ok paths => .ok (Path.ofText t :: paths)

/-- The roots to search: those of the arguments, or else those of the settings. -/
def searchRoots (setup : Setup) (roots : List (Option Text)) :
    Except Failure (List Path) :=
  if roots = [] then .ok setup.settings.searchPaths else rootPaths roots

def runDeps (level : Nat) (console : Console) (tree : FileTree) (setup : Setup)
    (file : Text) (roots : List (Option Text)) (json : Bool) : Run Unit :=
  (openDocument console tree setup .output file).andThen fun tree document =>
    (Run.ofExcept tree (searchRoots setup roots)).andThen fun tree roots =>
      (Run.ofReply tree (document.dependencies level tree roots)).andThen
          fun tree (_, dependencies) =>
        if json then writeReport tree (dependencies.map dependencyRecord)
        else if dependencies = [] then
          Run.message console tree .output "[yellow]Brak zależności.[/yellow]".toList
        else
          let unresolved := dependencies.countP fun dependency => dependency.root?.isNone
          (printTable console tree ["#".toList, "NAZWA".toList, "KATALOG".toList]
            (numbered 1 (dependencies.map dependencyRow))).andThen fun tree _ =>
            Run.message console tree .output
              ("  [dim]".toList ++ Text.ofNat dependencies.length ++
                " zależności, nierozwiązanych: ".toList ++ Text.ofNat unresolved ++
                "[/dim]\n".toList)

def runFind (level : Nat) (console : Console) (tree : FileTree) (setup : Setup)
    (directory subdirectory : Text) (json : Bool) : Run Unit :=
  let path := Path.ofText directory
  (Run.ofExcept tree (tree.isDirectory path)).andThen fun tree found =>
    if !found then
      (Run.message console tree .output
        ("[red]Katalog nie istnieje:[/red] ".toList ++ path.toText)).andThen fun tree _ =>
        Run.stop tree (.exit 1)
    else
      (Run.ofTraced tree (Survey.find level tree setup.registry
        (path.join (Path.ofText subdirectory)))).andThen fun tree documents =>
        if json then writeReport tree (documents.map documentedRecord)
        else if documents = [] then
          Run.message console tree .output
            "[yellow]Nie znaleziono plików z dokumentacją POD.[/yellow]".toList
        else
          (printTable console tree ["PLIK".toList, "KLASA".toList, "INSTR.".toList]
            (documents.map documentedRow)).andThen fun tree _ =>
            Run.message console tree .output
              ("  [dim]".toList ++ Text.ofNat documents.length ++ " ".toList ++
                filesWord documents.length ++ "[/dim]\n".toList)

def runParse (level : Nat) (console : Console) (tree : FileTree) (setup : Setup)
    (file : Text) (json : Bool) : Run Unit :=
  (openDocument console tree setup .output file).andThen fun tree document =>
    (Run.ofReply tree (document.instructions level tree)).andThen
        fun tree (document, instructions) =>
      if json then writeReport tree (instructions.map instructionRecord)
      else if instructions = [] then undocumented console tree .output file
      else
        (printTable console tree
          ["#".toList, "ELEMENT".toList, "TYTUŁ".toList, "AKAPITY".toList, "TREŚĆ".toList]
          (numbered 1 (instructions.map instructionRow))).andThen fun tree _ =>
          (Run.ofReply tree (document.className level tree)).andThen fun tree (_, name?) =>
            (match name? with
              | some (c :: name) =>
                  Run.event tree (.print .output
                    ("  NAME: ".toList ++ console.plain (c :: name)))
              | _ => Run.done tree ()).andThen fun tree _ =>
              Run.message console tree .output
                ("  [dim]".toList ++ instructionCount instructions ++ "[/dim]\n".toList)

def run (level : Nat) (console : Console) (tree : FileTree) (setup : Setup) :
    Command -> Run Unit
  | .html file noContents out? => runHtml level console tree setup file noContents out?
  | .deps file roots json => runDeps level console tree setup file roots json
  | .find directory subdirectory json =>
      runFind level console tree setup directory subdirectory json
  | .parse file json => runParse level console tree setup file json

end Command
end PodManual
