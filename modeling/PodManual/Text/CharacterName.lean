import PodManual.Text.NameTable
import PodManual.Text.Range

/-!
# Names of characters

The names of ideographs end in a code point, and those of Hangul syllables spell the
syllable; both are in capitals.  All other names are in a table, and letter case does
not matter in them.
-/

namespace PodManual
namespace CharacterName

/-! ## Ideographs -/

def ideographs : List Text.CodeRange :=
  [(0x3400, 0x4DBF), (0x4E00, 0x9FFF), (0x20000, 0x2A6DF), (0x2A700, 0x2B738),
   (0x2B740, 0x2B81D), (0x2B820, 0x2CEA1), (0x2CEB0, 0x2EBE0), (0x30000, 0x3134A)]

def number? (digits : Text) : Option Nat :=
  digits.foldlM (fun n c =>
    if c.isDigit then some (n * 16 + (c.toNat - '0'.toNat))
    else if 'A' ≤ c && c ≤ 'F' then some (n * 16 + (c.toNat - 'A'.toNat + 10))
    else none) 0

def isIdeograph (digits : Text) : Bool :=
  (digits.length == 4 || digits.length == 5) &&
    (number? digits).any fun n => Text.inRanges ideographs (Char.ofNat n)

/-! ## Hangul syllables -/

def initials : List String :=
  ["", "G", "GG", "N", "D", "DD", "R", "M", "B", "BB", "S", "SS", "J", "JJ", "C", "K",
    "T", "P", "H"]

def medials : List String :=
  ["A", "AE", "YA", "YAE", "EO", "E", "YEO", "YE", "O", "WA", "WAE", "OE", "YO", "U",
    "WEO", "WE", "WI", "YU", "EU", "YI", "I"]

def finals : List String :=
  ["", "G", "GG", "GS", "N", "NJ", "NH", "D", "L", "LG", "LM", "LB", "LS", "LT", "LP",
    "LH", "M", "B", "BS", "S", "SS", "NG", "J", "C", "K", "T", "P", "H"]

def afterSound? (sounds : List String) (t : Text) : Option Text :=
  (sounds.map String.toList).foldl (fun rest? sound =>
    if !Text.startsWith t sound then rest?
    else
      let rest := t.drop sound.length
      match rest? with
      | some other => some (if rest.length < other.length then rest else other)
      | none => some rest) none

def isSyllable (t : Text) : Bool :=
  [initials, medials, finals].foldlM (fun rest sounds => afterSound? sounds rest) t == some []

/-! ## Names -/

def isNameChar (c : Char) : Bool :=
  c.isUpper || c.isDigit || c == ' ' || c == '-'

def isKnown (name : Text) : Bool :=
  let syllable := "HANGUL SYLLABLE ".toList
  let ideograph := "CJK UNIFIED IDEOGRAPH-".toList
  let capitals := name.map Char.toUpper
  if Text.startsWith capitals syllable then
    Text.startsWith name syllable && isSyllable (name.drop syllable.length)
  else if Text.startsWith capitals ideograph then
    Text.startsWith name ideograph && isIdeograph (name.drop ideograph.length)
  else capitals.all isNameChar && NameTable.holds capitals

end CharacterName
end PodManual
