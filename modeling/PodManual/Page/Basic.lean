import PodManual.Page.Body
import PodManual.Page.Contents

/-!
# Pages

A page is the table of contents, unless it is left out, and the body.
-/

namespace PodManual

structure PageOptions where
  /-- Leave out the table of contents. -/
  noContents : Bool
  deriving DecidableEq, Repr

def Page.render (options : PageOptions) (instructions : List Instruction) : Text :=
  if options.noContents then Page.printBody instructions
  else Page.printContents instructions ++ Page.printBody instructions

end PodManual
