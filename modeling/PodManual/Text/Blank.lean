import PodManual.Text.Basic

/-!
# White space

The blank characters are the ASCII control characters that separate text, the
space, and the separators of the Unicode standard.  Stripping, splitting into
words and the test for a blank line all go by this one class.
-/

namespace PodManual
namespace Text

/-- White space: tabulator to carriage return, the information separators, the
space, next line, and the space, line and paragraph separators. -/
def isBlank (c : Char) : Bool :=
  let n := c.toNat
  (0x09 ≤ n && n ≤ 0x0D) || (0x1C ≤ n && n ≤ 0x20) || n == 0x85 || n == 0xA0 ||
    n == 0x1680 || (0x2000 ≤ n && n ≤ 0x200A) || n == 0x2028 || n == 0x2029 ||
    n == 0x202F || n == 0x205F || n == 0x3000

def strip (t : Text) : Text :=
  dropEnds isBlank t

/-- Every character is white space; so the empty text is blank. -/
def allBlank (t : Text) : Bool :=
  t.all isBlank

def squeeze (t : Text) : Text :=
  t.filter fun c => !isBlank c

def words : Text -> List Text
  | [] => []
  | c :: rest =>
      if isBlank c then words rest
      else
        match rest with
        | [] => [[c]]
        | d :: _ =>
            if isBlank d then [c] :: words rest
            else
              match words rest with
              | [] => [[c]]
              | word :: others => (c :: word) :: others

end Text
end PodManual
