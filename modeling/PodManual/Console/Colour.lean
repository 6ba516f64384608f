import PodManual.Text.Case
import PodManual.Text.Digit

/-!
# Colours

The colour of a style is named, or numbered `color(n)`, or mixed from red, green
and blue, as six hexadecimal digits after a number sign or as `rgb(r,g,b)`.
-/

namespace PodManual

inductive ColourFault where
  /-- It has no form of a colour. -/
  | unknown
  /-- One of its three components has no digits. -/
  | emptyComponent
  /-- One of its three components has too many digits. -/
  | longComponent (count : Nat)
  deriving DecidableEq, Repr

namespace Colour

def names : List Text :=
  ["default", "black", "red", "green", "yellow", "blue", "magenta", "cyan", "white",
   "bright_black", "bright_red", "bright_green", "bright_yellow", "bright_blue",
   "bright_magenta", "bright_cyan", "bright_white", "grey0", "gray0", "navy_blue",
   "dark_blue", "blue3", "blue1", "dark_green", "deep_sky_blue4", "dodger_blue3",
   "dodger_blue2", "green4", "spring_green4", "turquoise4", "deep_sky_blue3",
   "dodger_blue1", "green3", "spring_green3", "dark_cyan", "light_sea_green",
   "deep_sky_blue2", "deep_sky_blue1", "spring_green2", "cyan3", "dark_turquoise",
   "turquoise2", "green1", "spring_green1", "medium_spring_green", "cyan2", "cyan1",
   "dark_red", "deep_pink4", "purple4", "purple3", "blue_violet", "orange4", "grey37",
   "gray37", "medium_purple4", "slate_blue3", "royal_blue1", "chartreuse4",
   "dark_sea_green4", "pale_turquoise4", "steel_blue", "steel_blue3", "cornflower_blue",
   "chartreuse3", "cadet_blue", "sky_blue3", "steel_blue1", "pale_green3", "sea_green3",
   "aquamarine3", "medium_turquoise", "chartreuse2", "sea_green2", "sea_green1",
   "aquamarine1", "dark_slate_gray2", "dark_magenta", "dark_violet", "purple",
   "light_pink4", "plum4", "medium_purple3", "slate_blue1", "yellow4", "wheat4",
   "grey53", "gray53", "light_slate_grey", "light_slate_gray", "medium_purple",
   "light_slate_blue", "dark_olive_green3", "dark_sea_green", "light_sky_blue3",
   "sky_blue2", "dark_sea_green3", "dark_slate_gray3", "sky_blue1", "chartreuse1",
   "light_green", "pale_green1", "dark_slate_gray1", "red3", "medium_violet_red",
   "magenta3", "dark_orange3", "indian_red", "hot_pink3", "medium_orchid3",
   "medium_orchid", "medium_purple2", "dark_goldenrod", "light_salmon3", "rosy_brown",
   "grey63", "gray63", "medium_purple1", "gold3", "dark_khaki", "navajo_white3",
   "grey69", "gray69", "light_steel_blue3", "light_steel_blue", "yellow3",
   "dark_sea_green2", "light_cyan3", "light_sky_blue1", "green_yellow",
   "dark_olive_green2", "dark_sea_green1", "pale_turquoise1", "deep_pink3", "magenta2",
   "hot_pink2", "orchid", "medium_orchid1", "orange3", "light_pink3", "pink3", "plum3",
   "violet", "light_goldenrod3", "tan", "misty_rose3", "thistle3", "plum2", "khaki3",
   "light_goldenrod2", "light_yellow3", "grey84", "gray84", "light_steel_blue1",
   "yellow2", "dark_olive_green1", "honeydew2", "light_cyan1", "red1", "deep_pink2",
   "deep_pink1", "magenta1", "orange_red1", "indian_red1", "hot_pink", "dark_orange",
   "salmon1", "light_coral", "pale_violet_red1", "orchid2", "orchid1", "orange1",
   "sandy_brown", "light_salmon1", "light_pink1", "pink1", "plum1", "gold1",
   "navajo_white1", "misty_rose1", "thistle1", "yellow1", "light_goldenrod1", "khaki1",
   "wheat1", "cornsilk1", "grey100", "gray100", "grey3", "gray3", "grey7", "gray7",
   "grey11", "gray11", "grey15", "gray15", "grey19", "gray19", "grey23", "gray23",
   "grey27", "gray27", "grey30", "gray30", "grey35", "gray35", "grey39", "gray39",
   "grey42", "gray42", "grey46", "gray46", "grey50", "gray50", "grey54", "gray54",
   "grey58", "gray58", "grey62", "gray62", "grey66", "gray66", "grey70", "gray70",
   "grey74", "gray74", "grey78", "gray78", "grey82", "gray82", "grey85", "gray85",
   "grey89", "gray89", "grey93", "gray93"].map String.toList

def isHexDigit (c : Char) : Bool :=
  ('0' ≤ c && c ≤ '9') || ('a' ≤ c && c ≤ 'f')

/-- The greatest number of a colour, and the greatest share of a component. -/
def maxShare : Nat := 255

def number (digits : Text) : Nat :=
  digits.foldl (fun n c => 10 * n + (Text.digitValue? c).getD 0) 0

def inside? (opening word : Text) : Option Text :=
  match Text.after? opening word with
  | none => none
  | some rest => if rest.getLast? = some ')' then some rest.dropLast else none

def isHex : Text -> Bool
  | '#' :: digits => digits.length == 6 && digits.all isHexDigit
  | _ => false

def isIndex (digits : Text) : Bool :=
  digits != [] && digits.length ≤ 3 && digits.all Char.isDigit &&
    number digits ≤ maxShare

def componentFault? (digits : Text) : Option ColourFault :=
  if digits = [] then some .emptyComponent
  else if Text.maxDigits < digits.length then some (.longComponent digits.length)
  else none

def checkMixture (inside : Text) : Except ColourFault Unit :=
  if inside = [] || inside.any fun c => !Text.isDigit c && c != ',' then .error .unknown
  else
    let components := Text.cutAt ',' inside
    if components.length != 3 then .error .unknown
    else
      match components.findSome? componentFault? with
      | some fault => .error fault
      | none =>
          if components.all fun digits => number digits ≤ maxShare then .ok ()
          else .error .unknown

def check (word : Text) : Except ColourFault Unit :=
  if word ∈ names || isHex word then .ok ()
  else
    match inside? "color(".toList word, inside? "rgb(".toList word with
    | some digits, _ => if isIndex digits then .ok () else .error .unknown
    | none, some components => checkMixture components
    | none, none => .error .unknown

/-- The name of the colour that a word describes, whatever its case. -/
def ofWord (word : Text) : Except ColourFault Text :=
  match check (Text.lower word) with
  | .ok () => .ok (Text.lower word)
  | .error fault => .error fault

end Colour
end PodManual
