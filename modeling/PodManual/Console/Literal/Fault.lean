import PodManual.Text.Digit
import PodManual.Text.Quoted

/-!
# Faults of literals

A text is read as a literal in three steps: it is cut into tokens, the tokens make
up an expression, and the expression is a literal.  The first two steps have
faults, the last one has flaws.
-/

namespace PodManual
namespace Literal

/-! ## Faults of parameters -/

/-- What is wrong with the parameters of a function without a name. -/
inductive ParameterFault where
  | withoutDefault
  | inParentheses
  | nothingBeforeSlash
  | repeatedSlash
  | slashAfterStar
  | starAfterSlash
  | nothingAfterStar
  | defaultOfStarred
  | repeatedStar
  | defaultOfDoubleStarred
  | afterDoubleStarred
  | missingDefault
  deriving DecidableEq, Repr

namespace ParameterFault

def message : ParameterFault -> Text
  | .withoutDefault => "non-default argument follows default argument".toList
  | .inParentheses => "Lambda expression parameters cannot be parenthesized".toList
  | .nothingBeforeSlash => "at least one argument must precede /".toList
  | .repeatedSlash => "/ may appear only once".toList
  | .slashAfterStar => "/ must be ahead of *".toList
  | .starAfterSlash => "expected comma between / and *".toList
  | .nothingAfterStar => "named arguments must follow bare *".toList
  | .defaultOfStarred => "var-positional argument cannot have default value".toList
  | .repeatedStar => "* argument may appear only once".toList
  | .defaultOfDoubleStarred => "var-keyword argument cannot have default value".toList
  | .afterDoubleStarred => "arguments cannot follow var-keyword argument".toList
  | .missingDefault => "expected default value expression".toList

end ParameterFault

/-! ## Faults of formatted strings -/

inductive FormatFault where
  | nestedTooDeep
  | backslash
  | comment
  | unmatched (bracket : Char)
  | mismatched (closing opening : Char)
  | tooManyBrackets
  | unterminated
  | missingBrace
  | loneBrace
  | empty
  | emptyBefore (c : Char)
  | conversion
  deriving DecidableEq, Repr

namespace FormatFault

def message : FormatFault -> Text
  | .nestedTooDeep => "f-string: expressions nested too deeply".toList
  | .backslash => "f-string expression part cannot include a backslash".toList
  | .comment => "f-string expression part cannot include '#'".toList
  | .unmatched bracket => "f-string: unmatched '".toList ++ [bracket, '\x27']
  | .mismatched closing opening =>
      "f-string: closing parenthesis '".toList ++ [closing] ++
        "' does not match opening parenthesis '".toList ++ [opening, '\x27']
  | .tooManyBrackets => "f-string: too many nested parenthesis".toList
  | .unterminated => "f-string: unterminated string".toList
  | .missingBrace => "f-string: expecting '\x7d'".toList
  | .loneBrace => "f-string: single '\x7d' is not allowed".toList
  | .empty => "f-string: empty expression not allowed".toList
  | .emptyBefore c => "f-string: expression required before '".toList ++ [c, '\x27']
  | .conversion =>
      "f-string: invalid conversion character: expected 's', 'r', or 'a'".toList

end FormatFault

/-! ## Faults of escapes -/

inductive EscapeFault where
  | truncated (form : Text)
  | illegal
  | malformedName
  | unknownName
  deriving DecidableEq, Repr

namespace EscapeFault

def wording : EscapeFault -> Text
  | .truncated form => "truncated \\".toList ++ form ++ " escape".toList
  | .illegal => "illegal Unicode character".toList
  | .malformedName => "malformed \\N character escape".toList
  | .unknownName => "unknown Unicode character name".toList

end EscapeFault

/-! ## All faults -/

inductive Fault where
  -- tokens that make up no expression
  | invalid
  | missingComma
  | equalsForEquality
  | cannotAssignHere (what : Text)
  | cannotBind (what : Text)
  | cannotAssign (what : Text)
  | assignmentAsArgument
  | positionalAfterKeyword
  | positionalAfterUnpacking
  | unpackingAfterUnpacking
  | missingElse
  | missingParentheses (name : Text)
  | starred
  | doubleStarred
  | starredEntry
  | missingEntry
  | missingColon
  | bareGenerator
  | bareTargets
  | starredComprehension
  | doubleStarredComprehension
  | parameters (fault : ParameterFault)
  -- brackets, strings and lines
  | neverClosed (opening : Char)
  | unmatched (closing : Char)
  | mismatched (closing opening : Char) (line? : Option Nat)
  | nestedTooDeep
  | unterminated (triple : Bool) (line : Nat)
  | continuation
  | ending
  | indented
  | unindented
  | tabsAndSpaces
  | tooManyIndents
  -- numbers and characters
  | number (kind : Text)
  | digit (c : Char) (kind : Text)
  | leadingZeros
  | tooManyDigits (count : Nat)
  | character (c : Char)
  -- strings
  | mixedStrings
  | wideBytes
  | escape (first last : Nat) (fault : EscapeFault)
  | byteEscape (position : Nat)
  | format (fault : FormatFault)
  /-- The fault of an expression inside a formatted string. -/
  | formatted (fault : Fault)
  /-- The expression is too complex to be read at all. -/
  | tooComplex
  deriving DecidableEq, Repr

namespace Fault

def codePoint (c : Char) : Text :=
  let digits := (Nat.toDigits 16 c.toNat).map Char.toUpper
  "U+".toList ++ List.replicate (4 - digits.length) '0' ++ digits

def message : Fault -> Text
  | .invalid => "invalid syntax".toList
  | .missingComma => "invalid syntax. Perhaps you forgot a comma?".toList
  | .equalsForEquality =>
      "invalid syntax. Maybe you meant '==' or ':=' instead of '='?".toList
  | .cannotAssignHere what =>
      "cannot assign to ".toList ++ what ++
        " here. Maybe you meant '==' instead of '='?".toList
  | .cannotBind what => "cannot use assignment expressions with ".toList ++ what
  | .cannotAssign what => "cannot assign to ".toList ++ what
  | .assignmentAsArgument =>
      "expression cannot contain assignment, perhaps you meant \"==\"?".toList
  | .positionalAfterKeyword => "positional argument follows keyword argument".toList
  | .positionalAfterUnpacking =>
      "positional argument follows keyword argument unpacking".toList
  | .unpackingAfterUnpacking =>
      "iterable argument unpacking follows keyword argument unpacking".toList
  | .missingElse => "expected 'else' after 'if' expression".toList
  | .missingParentheses name =>
      "Missing parentheses in call to '".toList ++ name ++ "'. Did you mean ".toList ++
        name ++ "(...)?".toList
  | .starred => "cannot use starred expression here".toList
  | .doubleStarred => "cannot use double starred expression here".toList
  | .starredEntry => "cannot use a starred expression in a dictionary value".toList
  | .missingEntry => "expression expected after dictionary key and ':'".toList
  | .missingColon => "':' expected after dictionary key".toList
  | .bareGenerator => "Generator expression must be parenthesized".toList
  | .bareTargets => "did you forget parentheses around the comprehension target?".toList
  | .starredComprehension => "iterable unpacking cannot be used in comprehension".toList
  | .doubleStarredComprehension =>
      "dict unpacking cannot be used in dict comprehension".toList
  | .parameters fault => fault.message
  | .neverClosed opening => ['\x27', opening] ++ "' was never closed".toList
  | .unmatched closing => "unmatched '".toList ++ [closing, '\x27']
  | .mismatched closing opening line? =>
      "closing parenthesis '".toList ++ [closing] ++
        "' does not match opening parenthesis '".toList ++ [opening, '\x27'] ++
        (match line? with
          | none => []
          | some line => " on line ".toList ++ Text.ofNat line)
  | .nestedTooDeep => "too many nested parentheses".toList
  | .unterminated triple line =>
      "unterminated ".toList ++ (if triple then "triple-quoted ".toList else []) ++
        "string literal (detected at line ".toList ++ Text.ofNat line ++ ")".toList
  | .continuation => "unexpected character after line continuation character".toList
  | .ending => "unexpected EOF while parsing".toList
  | .indented => "unexpected indent".toList
  | .unindented => "unindent does not match any outer indentation level".toList
  | .tabsAndSpaces => "inconsistent use of tabs and spaces in indentation".toList
  | .tooManyIndents => "too many levels of indentation".toList
  | .number kind => "invalid ".toList ++ kind ++ " literal".toList
  | .digit c kind => "invalid digit '".toList ++ [c] ++ "' in ".toList ++ kind ++
      " literal".toList
  | .leadingZeros =>
      "leading zeros in decimal integer literals are not permitted; ".toList ++
        "use an 0o prefix for octal integers".toList
  | .tooManyDigits count =>
      Text.digitLimit count ++ " - Consider hexadecimal for huge integer literals ".toList ++
        "to avoid decimal conversion limits.".toList
  | .character c =>
      if Text.isPrintable c then
        "invalid character '".toList ++ [c] ++ "' (".toList ++ codePoint c ++ ")".toList
      else "invalid non-printable character ".toList ++ codePoint c
  | .mixedStrings => "cannot mix bytes and nonbytes literals".toList
  | .wideBytes => "bytes can only contain ASCII literal characters".toList
  | .escape first last fault =>
      "(unicode error) 'unicodeescape' codec can't decode bytes in position ".toList ++
        Text.ofNat first ++ "-".toList ++ Text.ofNat last ++ ": ".toList ++ fault.wording
  | .byteEscape position =>
      "(value error) invalid \\x escape at position ".toList ++ Text.ofNat position
  | .format fault => fault.message
  | .formatted fault => "f-string: ".toList ++ fault.message
  | .tooComplex => []

end Fault

/-! ## Flaws -/

inductive Flaw where
  /-- It has a part that has to be computed. -/
  | computed
  /-- A dictionary takes over the entries of another one. -/
  | unpacked
  /-- An element of a set or a key of a dictionary cannot be compared. -/
  | unhashable (typeName : Text)
  /-- The text holds the null character. -/
  | null
  /-- Its parts are nested too deep to be looked at. -/
  | tooDeep
  /-- It is too complex to be read at all. -/
  | tooComplex
  deriving DecidableEq, Repr

namespace Flaw

def message : Flaw -> Text
  | .computed => "malformed node or string on line 1".toList
  | .unpacked => "malformed node or string: None".toList
  | .unhashable typeName => "unhashable type: '".toList ++ typeName ++ "'".toList
  | .null => "source code string cannot contain null bytes".toList
  | .tooDeep => "maximum recursion depth exceeded during ast construction".toList
  | .tooComplex => []

end Flaw
end Literal
end PodManual
