import PodManual.Console.Basic
import PodManual.Console.Handler
import PodManual.Console.Style

/-!
# Markup of messages

Messages are marked up with style tags in square brackets.  Printing a message
takes the tags away: what is left is its text.  Whatever is put into a message
is read for tags too.  A tag begins with a small letter or one of `#`, `/`, `@`
after the bracket; a backslash before it makes it text.

This is the console that the command line program prints on; nothing but that program
and the examples at its console depends on how it reads markup.
-/

namespace PodManual
namespace Markup

/-- A part of a message: text, or a tag and where its bracket stands. -/
inductive Token where
  | text (t : Text)
  | tag (body : Text) (position : Nat)
  deriving DecidableEq, Repr

/-- The text up to a closing bracket, if no opening one comes before it. -/
def upToBracket : Text -> Option Text
  | [] => none
  | c :: rest =>
      if c = ']' then some []
      else if c = '[' then none
      else (upToBracket rest).map (c :: ·)

/-- The inside of a tag whose opening bracket has just been read. -/
def tagBody? : Text -> Option Text
  | [] => none
  | c :: rest =>
      if ('a' ≤ c ∧ c ≤ 'z') ∨ c = '#' ∨ c = '/' ∨ c = '@' then
        (upToBracket rest).map (c :: ·)
      else none

def backslashes (count : Nat) : Text :=
  List.replicate count '\\'

/-- The tokens of a message from a position on.  `skip` characters belong to the
tag that was read last, and `slashes` backslashes stand just before the
position: half of those before a tag are text, and an odd one makes the tag
text; before any other opening bracket one of them is dropped. -/
def tokens (skip position slashes : Nat) : Text -> List Token
  | [] => [.text (backslashes slashes)]
  | c :: rest =>
      match skip with
      | skip + 1 => tokens skip (position + 1) 0 rest
      | 0 =>
          if c = '\\' then tokens 0 (position + 1) (slashes + 1) rest
          else if c = '[' then
            match tagBody? rest with
            | some body =>
                .text (backslashes (slashes / 2)) ::
                  (if slashes % 2 = 1 then .text ('[' :: body ++ [']'])
                    else .tag body position) ::
                  tokens (body.length + 1) (position + 1) 0 rest
            | none =>
                .text (backslashes (slashes - 1) ++ ['[']) ::
                  tokens 0 (position + 1) 0 rest
          else .text (backslashes slashes ++ [c]) :: tokens 0 (position + 1) 0 rest

/-- A control character that a console acts on. -/
def isConsoleControl (c : Char) : Bool :=
  c == '\x07' || c == '\x08' || c == '\x0B' || c == '\x0C' || c == '\x0D'

def printable (t : Text) : Text :=
  t.filter fun c => !isConsoleControl c

/-- An open tag: its style in normal form, and the parameters after an equals
sign. -/
structure OpenTag where
  style : Text
  parameters : Text
  deriving DecidableEq, Repr

def openTag (body : Text) : Except Failure OpenTag :=
  let (name, parameters?) := Text.cutFirst '=' body
  (Style.normalForm name).map fun style => ⟨style, parameters?.getD []⟩

/-- Take the innermost tag of a style out of the open tags. -/
def takeOut (style : Text) : List OpenTag -> Option (OpenTag × List OpenTag)
  | [] => none
  | tag :: outer =>
      if tag.style = style then some (tag, outer)
      else (takeOut style outer).map fun (found, others) => (found, tag :: others)

/-- Find the tag that a closing tag closes, among the open ones, innermost first. -/
def closing (body : Text) (position : Nat) (name : Text) (tags : List OpenTag) :
    Except Failure (OpenTag × List OpenTag) :=
  match Text.strip name, tags with
  | [], [] => .error (.nothingToClose position)
  | [], tag :: outer => .ok (tag, outer)
  | style, tags =>
      match Style.normalForm style with
      | .error failure => .error failure
      | .ok style =>
          match takeOut style tags with
          | none => .error (.strayClosingTag ('[' :: body ++ [']']) position)
          | some result => .ok result

/-- Close a tag: the tags that stay open.  A handler is checked then. -/
def closeTag (body : Text) (position : Nat) (name : Text) (tags : List OpenTag) :
    Except Failure (List OpenTag) :=
  match closing body position name tags with
  | .error failure => .error failure
  | .ok (tag, others) =>
      if Handler.isHandler tag.style then
        (Handler.check tag.parameters).map fun _ => others
      else .ok others

/-- The text of tokens, while the tags in the list are open, innermost first. -/
def plainFrom : List OpenTag -> List Token -> Except Failure Text
  | _, [] => .ok []
  | tags, .text t :: rest =>
      match plainFrom tags rest with
      | .ok later => .ok (printable t ++ later)
      | .error failure => .error failure
  | tags, .tag body position :: rest =>
      match
        (match (Text.cutFirst '=' body).1 with
          | '/' :: name => closeTag body position name tags
          | _ => (openTag body).map fun tag => tag :: tags) with
      | .ok tags => plainFrom tags rest
      | .error failure => .error failure

def plain (message : Text) : Except Failure Text :=
  plainFrom [] (tokens 0 0 0 message)

/-- A console that knows style tags and handlers, and no names of pictures. -/
def console : Console :=
  ⟨plain, printable⟩

end Markup
end PodManual
