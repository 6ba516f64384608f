import PodManual.Page.Fragment
import PodManual.Text.Blank

/-!
# Paragraphs of a page

A paragraph that begins with white space is preformatted and keeps its line
breaks; any other is prose, with a break for each line feed.  The line ends that
close a paragraph are dropped in both.
-/

namespace PodManual
namespace Page

/-- A carriage return or a line feed. -/
def isLineEnd (c : Char) : Bool :=
  c == '\r' || c == '\n'

def paragraphText (paragraph : Text) : Text :=
  Text.dropEnd isLineEnd paragraph

/-- The paragraph begins with white space. -/
def isPreformatted (paragraph : Text) : Bool :=
  paragraph.head?.any Text.isBlank

def paragraphFragments (paragraph : Text) : List Fragment :=
  if isPreformatted paragraph then
    [.openCode, .text (paragraphText paragraph), .closeCode]
  else
    let lines := (Text.cutAt '\n' (paragraphText paragraph)).map Fragment.text
    .openProse :: lines.intersperse .lineBreak ++ [.closeProse]

def contentFragments (content : List Text) : List Fragment :=
  content.flatMap paragraphFragments

def printContent (content : List Text) : Text :=
  Fragment.printAll (contentFragments content)

end Page
end PodManual
