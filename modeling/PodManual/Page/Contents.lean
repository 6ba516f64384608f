import PodManual.Instruction
import PodManual.Page.Fragment

/-!
# Table of contents

The table of contents has an entry for each page heading, inside as many lists
as the level of the heading says.
-/

namespace PodManual
namespace Page

inductive ContentsPiece where
  /-- Open one more list. -/
  | deeper
  /-- Close the innermost list. -/
  | shallower
  /-- The entry of a heading. -/
  | entry (title : Text)
  /-- Close the innermost list at the end of the table. -/
  | finish
  deriving DecidableEq, Repr

namespace ContentsPiece

def print : ContentsPiece -> Text
  | .deeper => "<ul>\n".toList
  | .shallower => "</ul>\n".toList
  | .entry title =>
      "<li><a href=\"#".toList ++ anchor title ++ "\">".toList ++ escape title ++
        "</a></li>".toList
  | .finish => "</ul>".toList

end ContentsPiece

/-- One round on the way from a depth to a level: the piece it writes and the
depth after it.  There is none when the depth is that level. -/
def depthRound? (level depth : Nat) : Option (ContentsPiece × Nat) :=
  if depth = level then none
  else if depth < level then some (.deeper, depth + 1)
  else some (.shallower, depth - 1)

theorem depthRound?_nearer {level depth next : Nat} {piece : ContentsPiece}
    (h : depthRound? level depth = some (piece, next)) :
    (level - next) + (next - level) < (level - depth) + (depth - level) := by
  unfold depthRound? at h
  split at h
  · cases h
  · split at h
    · cases h
      omega
    · cases h
      omega

/-- The pieces that lead from one depth to another, round by round. -/
def changeDepth (depth level : Nat) : List ContentsPiece :=
  match _hround : depthRound? level depth with
  | none => []
  | some (piece, next) => piece :: changeDepth next level
termination_by (level - depth) + (depth - level)
decreasing_by exact depthRound?_nearer _hround

def contentsFrom : Nat -> List Instruction -> List ContentsPiece
  | depth, [] => List.replicate depth .finish
  | depth, inst :: rest =>
      match inst.role with
      | .heading level =>
          changeDepth depth level ++ .entry inst.title :: contentsFrom level rest
      | _ => contentsFrom depth rest

/-- The table of contents below its title. -/
def contents (instructions : List Instruction) : List ContentsPiece :=
  contentsFrom 0 instructions

def contentsTitle : Text :=
  "<h1>CONTENTS</h1>".toList

def printContents (instructions : List Instruction) : Text :=
  contentsTitle ++ (contents instructions).flatMap ContentsPiece.print

end Page
end PodManual
