import PodManual.Console.Literal.Expression
import PodManual.Failure
import PodManual.Text.Blank

/-!
# Handlers

A tag whose name begins with `@` attaches a handler to the text inside it.  Its
parameters are a literal, or the name of a function with or without arguments in
parentheses; the arguments have to be a literal then.  They are read when the tag
is closed.

The program's own messages have no such tags: one comes from a path or a setting that
is put into a message, and what is wrong with its literal is then what the run fails
with.
-/

namespace PodManual
namespace Handler

def isHandler (style : Text) : Bool :=
  style.head? == some '@'

def isNameChar (c : Char) : Bool :=
  Text.isWord c || c == '.'

def isParenthesized (t : Text) : Bool :=
  t.head? == some '(' && t.getLast? == some ')' && !t.contains '\n'

/-- What has to be a literal in the parameters of a handler: the arguments of a
function, or everything. -/
def arguments (parameters : Text) : Text :=
  let t := Text.strip parameters
  match t.dropWhile isNameChar with
  | [] => "()".toList
  | rest => if isParenthesized rest then rest else t

/-- Check the parameters of a handler; there may be none. -/
def check (parameters : Text) : Except Failure Unit :=
  if parameters = [] then .ok ()
  else
    match Literal.read (arguments parameters) with
    | .ok _ => .ok ()
    | .error (.inl fault) =>
        .error (.handlerSyntax (arguments parameters) parameters fault)
    | .error (.inr flaw) => .error (.handlerValue parameters flaw)

end Handler
end PodManual
