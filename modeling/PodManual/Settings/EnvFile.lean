import PodManual.FileTree.Lookup
import PodManual.Settings.Basic
import PodManual.Text.Blank

/-!
# Environment files

An environment file assigns values to variables: a name, an equals sign and a
value, with blanks around the equals sign and the word `export` before the name
allowed.  A name may stand between single quotes, and a value between single or
double ones; then it may hold line breaks and escapes.  Without quotes a value ends
with its line or before a comment, and the blanks at its end do not belong to it.
A line that is no assignment is skipped.  A name without a value takes an earlier
value away.

A value may refer to other variables, those of the environment before those that
the file has assigned so far.

The file is the first one named `.env` on the way from the working directory up to the
root directory.  This is the environment file of the command line program; its commands
work with any other as well.
-/

namespace PodManual
namespace EnvFile

def isGap (c : Char) : Bool :=
  Text.isBlank c && c != '\n'

def skipGap (t : Text) : Text :=
  t.dropWhile isGap

/-! ## Names -/

def isNameChar (c : Char) : Bool :=
  c != '=' && c != '#' && !Text.isBlank c

/-- What follows the word `export` and the blanks after it, if it is there. -/
def skipExport (t : Text) : Text :=
  match Text.after? "export".toList t with
  | some (c :: rest) => if isGap c then skipGap rest else t
  | _ => t

def name? (t : Text) : Option (Text × Text) :=
  match t with
  | '\x27' :: rest =>
      match Text.cutFirst '\x27' rest with
      | (_ :: _, none) => none
      | ([], _) => none
      | (name, some rest) => some (name, rest)
  | _ =>
      match t.takeWhile isNameChar with
      | [] => none
      | name => some (name, t.dropWhile isNameChar)

/-! ## Values -/

/-- A value up to the quote that closes it, and what follows.  A quote after a
backslash closes nothing. -/
def closedValue? (quote : Char) : Text -> Option (Text × Text)
  | [] => none
  | [c] => if c = quote then some ([], []) else none
  | c :: d :: rest =>
      if c = quote then some ([], d :: rest)
      else if c = '\\' ∧ d = quote then
        (closedValue? quote rest).map fun (value, after) => (c :: d :: value, after)
      else (closedValue? quote (d :: rest)).map fun (value, after) => (c :: value, after)

/-- A value up to the last of the quotes, all of which come after a backslash. -/
def lastClosedValue? (quote : Char) (t : Text) : Option (Text × Text) :=
  let backwards := t.reverse
  match Text.cutFirst quote backwards with
  | (_, none) => none
  | (after, some value) => some (value.reverse, after.reverse)

/-- Read a value whose opening quote has been read, and what follows it. -/
def quotedValue? (quote : Char) (t : Text) : Option (Text × Text) :=
  match closedValue? quote t with
  | some result => some result
  | none => lastClosedValue? quote t

def singleEscapes : List (Char × Char) :=
  [('\\', '\\'), ('\x27', '\x27')]

/-- The characters that can be escaped between double quotes, with what each of
them stands for. -/
def doubleEscapes : List (Char × Char) :=
  [('\\', '\\'), ('\x27', '\x27'), ('\x22', '\x22'), ('a', '\x07'), ('b', '\x08'),
   ('f', '\x0c'), ('n', '\n'), ('r', '\r'), ('t', '\t'), ('v', '\x0b')]

/-- Text with its escapes replaced; a backslash before any other character stands
for itself. -/
def unescape (escapes : List (Char × Char)) : Text -> Text
  | [] => []
  | [c] => [c]
  | c :: d :: rest =>
      match if c = '\\' then escapes.lookup d else none with
      | some meant => meant :: unescape escapes rest
      | none => c :: unescape escapes (d :: rest)

/-- The text up to a comment: a number sign after white space. -/
def dropComment : Text -> Text
  | [] => []
  | c :: rest =>
      if Text.isBlank c && (rest.dropWhile Text.isBlank).head? == some '#' then []
      else c :: dropComment rest

def value? (t : Text) : Option (Text × Text) :=
  match t with
  | '\x27' :: rest =>
      (quotedValue? '\x27' rest).map fun (value, after) =>
        (unescape singleEscapes value, after)
  | '\x22' :: rest =>
      (quotedValue? '\x22' rest).map fun (value, after) =>
        (unescape doubleEscapes value, after)
  | _ =>
      let line := t.takeWhile (· != '\n')
      some (Text.dropEnd Text.isBlank (dropComment line), t.dropWhile (· != '\n'))

/-! ## Assignments -/

abbrev Assignment := Text × Option Text

def nextLine (t : Text) : Text :=
  (t.dropWhile (· != '\n')).drop 1

def endsLine (t : Text) : Bool :=
  match skipGap t with
  | [] => true
  | c :: _ => c = '#' || c = '\n'

/-- Finish an assignment; the line has to end after it. -/
def finish (assignment : Assignment) (rest : Text) : Option Assignment × Text :=
  (if endsLine rest then some assignment else none, nextLine rest)

/-- Read what begins with a character that is not blank: an assignment or a comment,
and what follows its line. -/
def statement (t : Text) : Option Assignment × Text :=
  let start := skipExport t
  if start.head? = some '#' then (none, nextLine start)
  else
    match name? start with
    | none => (none, nextLine start)
    | some (name, rest) =>
        match skipGap rest with
        | '=' :: rest =>
            match value? (skipGap rest) with
            | none => (none, nextLine (skipGap rest))
            | some (value, rest) => finish (name, some value) rest
        | rest => finish (name, none) rest

/-- The assignments of a text in order.  Every statement takes at least one
character, so the length of the text bounds their number. -/
def assignmentsFrom : Nat -> Text -> List Assignment
  | 0, _ => []
  | bound + 1, t =>
      match t.dropWhile Text.isBlank with
      | [] => []
      | start =>
          match statement start with
          | (none, rest) => assignmentsFrom bound rest
          | (some assignment, rest) => assignment :: assignmentsFrom bound rest

def assignments (t : Text) : List Assignment :=
  assignmentsFrom t.length t

/-! ## References -/

/-- A reference whose dollar sign and brace have been read: its name, what stands
for a missing value, and what follows. -/
def reference? (t : Text) : Option (Text × Text × Text) :=
  let isNamePart := fun c => c != '\x7d' && c != ':'
  let name := t.takeWhile isNamePart
  match t.dropWhile isNamePart with
  | '\x7d' :: rest => some (name, [], rest)
  | ':' :: '-' :: rest =>
      match Text.cutFirst '\x7d' rest with
      | (_, none) => none
      | (standIn, some rest) => some (name, standIn, rest)
  | _ => none

/-- Text with its references resolved.  Every reference is shorter than the text,
the length of which bounds the steps. -/
def resolveFrom (get : Text -> Option Text) : Nat -> Text -> Text
  | 0, t => t
  | _ + 1, [] => []
  | bound + 1, '$' :: '\x7b' :: rest =>
      match reference? rest with
      | none => '$' :: resolveFrom get bound ('\x7b' :: rest)
      | some (name, standIn, rest) =>
          (get name).getD standIn ++ resolveFrom get bound rest
  | bound + 1, c :: rest => c :: resolveFrom get bound rest

def resolve (get : Text -> Option Text) (t : Text) : Text :=
  resolveFrom get t.length t

/-- The value that a reference has: the environment comes before the assignments so
far, and a name without a value refers to the empty text. -/
def referent? (environment : Environment) (before : List Assignment) (name : Text) :
    Option Text :=
  match environment.lookup name with
  | some value => some value
  | none => (before.lookup name).map (·.getD [])

/-- The last assignment of every name, in the order of the first ones, with its
references resolved. -/
def resolved (environment : Environment) (before : List Assignment) :
    List Assignment -> List Assignment
  | [] => before
  | (name, value?) :: rest =>
      let value? := value?.map (resolve (referent? environment before))
      let next :=
        if before.any fun assignment => assignment.1 = name then
          before.map fun assignment =>
            if assignment.1 = name then (name, value?) else assignment
        else before ++ [(name, value?)]
      resolved environment next rest

/-! ## The environment -/

/-- What assignments add to an environment: the variables that they give a value, but
for those that the environment has or an earlier assignment has added. -/
def additions (environment added : Environment) :
    List Assignment -> Except Failure Environment
  | [] => .ok added
  | (_, none) :: rest => additions environment added rest
  | (name, some value) :: rest =>
      if (environment ++ added).any fun binding => binding.1 = name then
        additions environment added rest
      else if name.contains '\x00' || value.contains '\x00' then .error .nullCharacter
      else if name.contains '=' then .error .variableName
      else additions environment (added ++ [(name, value)]) rest

/-- The path and the file of the environment file of a directory, which is given by its
names, nearest first. -/
def fileIn? (tree : FileTree) (names : List Text) : Option (Path × File) :=
  let path : Path := ⟨.slash, (".env".toList :: names).reverse⟩
  match tree.fileAt? path with
  | .ok (some file) => some (path, file)
  | _ => none

/-- The first environment file from a directory up to the root directory. -/
def findFrom? (tree : FileTree) : List Text -> Option (Path × File)
  | [] => fileIn? tree []
  | name :: names => (fileIn? tree (name :: names)).or (findFrom? tree names)

def find? (tree : FileTree) : Option (Path × File) :=
  findFrom? tree tree.workingDirectory.names

def read (tree : FileTree) : Except Failure (List Assignment) :=
  match find? tree with
  | none => .ok []
  | some (path, file) =>
      if !file.access.read then .error (.file .denied path.toText)
      else
        match Utf8.decodeStrict file.bytes with
        | .error fault => .error (.undecodable fault)
        | .ok t => .ok (assignments (Text.unifyNewlines t))

def added : EnvironmentFile := fun tree environment =>
  match read tree with
  | .error failure => .error failure
  | .ok assignments => additions environment [] (resolved environment [] assignments)

end EnvFile
end PodManual
