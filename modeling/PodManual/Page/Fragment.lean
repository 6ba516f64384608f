import PodManual.Text.Basic

/-!
# Page fragments

A page is a list of fragments: the tags that the page itself writes, and text.
Printing a fragment escapes the text in it, so the only markup of a page is that
of its own tags.  A free tag of the documentation is printed as it stands.
-/

namespace PodManual
namespace Page

/-- The character as text of a page: the five characters with a meaning in
markup are written as entities. -/
def escapeChar (c : Char) : Text :=
  if c = '&' then "&amp;".toList
  else if c = '<' then "&lt;".toList
  else if c = '>' then "&gt;".toList
  else if c = '\x22' then "&quot;".toList
  else if c = '\x27' then "&#x27;".toList
  else [c]

def escape (t : Text) : Text :=
  t.flatMap escapeChar

@[simp] theorem escape_cons (c : Char) (t : Text) :
    escape (c :: t) = escapeChar c ++ escape t := rfl

def anchor (title : Text) : Text :=
  "POD_".toList ++ escape title

inductive ListKind where
  | bulleted
  | definition
  deriving DecidableEq, Repr

namespace ListKind

def listTag : ListKind -> Text
  | .bulleted => "ul".toList
  | .definition => "dl".toList

/-- The tag of an entry of a list; of a definition it is the part after the
term. -/
def entryTag : ListKind -> Text
  | .bulleted => "li".toList
  | .definition => "dd".toList

end ListKind

inductive Fragment where
  | openList (kind : ListKind)
  | closeList (kind : ListKind)
  | openEntry (kind : ListKind)
  | closeEntry (kind : ListKind)
  | openTerm
  | closeTerm
  | openHeading (level : Nat) (title : Text)
  | closeHeading (level : Nat)
  | openProse
  | closeProse
  | openCode
  | closeCode
  | lineBreak
  /-- Text, escaped in print. -/
  | text (t : Text)
  /-- A free tag, printed as it stands. -/
  | tag (t : Text)
  deriving DecidableEq, Repr

namespace Fragment

def opening (name : Text) : Text :=
  '<' :: name ++ ['>']

def closing (name : Text) : Text :=
  '<' :: '/' :: name ++ ['>']

def headingTag (level : Nat) : Text :=
  'h' :: Text.ofNat level

def print : Fragment -> Text
  | .openList kind => opening kind.listTag
  | .closeList kind => closing kind.listTag
  | .openEntry kind => opening kind.entryTag
  | .closeEntry kind => closing kind.entryTag
  | .openTerm => opening "dt".toList
  | .closeTerm => closing "dt".toList
  | .openHeading level title =>
      opening (headingTag level ++ " id=\"".toList ++ anchor title ++ "\"".toList)
  | .closeHeading level => closing (headingTag level)
  | .openProse => opening "p".toList
  | .closeProse => closing "p".toList
  | .openCode => opening "code".toList
  | .closeCode => closing "code".toList
  | .lineBreak => opening "br".toList
  | .text t => escape t
  | .tag t => t

def printAll (fragments : List Fragment) : Text :=
  fragments.flatMap print

@[simp] theorem printAll_nil : printAll [] = [] := rfl

@[simp] theorem printAll_cons (fragment : Fragment) (fragments : List Fragment) :
    printAll (fragment :: fragments) = print fragment ++ printAll fragments := rfl

@[simp] theorem printAll_append (first second : List Fragment) :
    printAll (first ++ second) = printAll first ++ printAll second := by
  simp [printAll]

end Fragment
end Page
end PodManual
