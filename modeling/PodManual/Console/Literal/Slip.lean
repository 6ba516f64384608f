import PodManual.Console.Literal.Rule

/-!
# Slips

The rules for common mistakes.  An alternative that fits says what is wrong, or that
nothing is wrong after all.
-/

namespace PodManual
namespace Literal
namespace Slip

def formerStatements : List Text :=
  ["print".toList, "exec".toList]

def formerStatement? : Node -> Option Text
  | .name t => if t ∈ formerStatements then some t else none
  | _ => none

/-- Two expressions side by side lack a comma, if they are inside brackets. -/
def neighboursFault? (depth : Nat) (nodes : List Node) : Option Fault :=
  if (nodes.head?.bind formerStatement?).isSome || depth = 0 then none
  else some .missingComma

def formerStatementFault? (nodes : List Node) : Option Fault :=
  (nodes.head?.bind formerStatement?).map .missingParentheses

/-- The first part that was found cannot be used in a way. -/
def firstFault? (fault : Text -> Fault) (nodes : List Node) : Option Fault :=
  nodes.head?.map fun node => fault node.display

def targetFault? (nodes : List Node) : Option Fault :=
  (nodes.head?.bind Node.strayTarget?).map fun node => .cannotAssign node.display

def isPositional : Node -> Bool
  | .keyword _ _ => false
  | _ => true

def isUnpacked : Node -> Bool
  | .keyword none _ => true
  | _ => false

def generatorFault? (nodes : List Node) : Option Fault :=
  match nodes with
  | given :: _ =>
      if (given.toList.filter isPositional).length ≤ 1 then none
      else some .bareGenerator
  | [] => none

def orderFault? (nodes : List Node) : Option Fault :=
  match nodes with
  | given :: _ =>
      if given.toList.any isUnpacked then some .positionalAfterUnpacking
      else some .positionalAfterKeyword
  | [] => none

def assignmentMark : Item :=
  .group [[.token "="], [.token ":="]]

def argumentExpression : Item :=
  .group [[.rule .binding], [.rule .expression, .unless (.token ":=")]]

def alternatives : Slip -> List Alternative
  | .expression =>
      [⟨[.unless (.group [[.name, .string], [.softName]]),
          .rule .disjunction, .rule .plainExpression], .diagnose neighboursFault?⟩,
        .refuse [.rule .disjunction, .token "if", .rule .disjunction,
          .unless (.group [[.token "else"], [.token ":"]])] .missingElse]
  | .formerStatement =>
      [.diagnose [.name, .unless (.token "("), .rule .starredExpressions]
        formerStatementFault?]
  | .binding =>
      [.diagnose [.rule .expression, .token ":=", .rule .expression]
          (firstFault? .cannotBind),
        .refuse [.name, .token "=", .rule .bitwiseOr, .unless assignmentMark]
          .equalsForEquality,
        .diagnose [.unless (.group [[.rule .tuple], [.rule .generator], [.token "True"],
            [.token "None"], [.token "False"]]),
          .rule .bitwiseOr, .token "=", .rule .bitwiseOr, .unless assignmentMark]
          (firstFault? .cannotAssignHere)]
  | .group =>
      [.refuse [.token "(", .rule .starredArgument, .token ")"] .starred,
        .refuse [.token "(", .token "**", .rule .expression, .token ")"] .doubleStarred]
  | .arguments =>
      [.refuse [.rule .argumentList, .token ",", .token "*"] .unpackingAfterUnpacking,
        .refuse [.rule .expression, .rule .clauses, .token ",",
          .optional (.group [[.rule .argumentList], [.rule .expression, .rule .clauses]])]
          .bareGenerator,
        .refuse [.name, .token "=", .rule .expression, .rule .clauses] .equalsForEquality,
        .diagnose [.rule .argumentList, .rule .clauses] generatorFault?,
        .refuse [.rule .argumentList, .token ",", .rule .expression, .rule .clauses]
          .bareGenerator,
        .diagnose [.rule .argumentList, .token ",", .rule .argumentList] orderFault?]
  | .keyword =>
      [.refuse [.token "True", .token "="] (.cannotAssign "True".toList),
        .refuse [.token "False", .token "="] (.cannotAssign "False".toList),
        .refuse [.token "None", .token "="] (.cannotAssign "None".toList),
        .refuse [.name, .token "=", .rule .expression, .rule .clauses] .equalsForEquality,
        .refuse [.unless (.group [[.name, .token "="]]), .rule .expression, .token "="]
          .assignmentAsArgument]
  | .comprehension =>
      [.refuse [.group [[.token "("], [.token "\x7b"]], .rule .starredArgument,
          .rule .clauses] .starredComprehension,
        .refuse [.token "\x7b", .rule .element, .token ",", .rule .elements,
          .rule .clauses] .bareTargets,
        .refuse [.token "\x7b", .rule .element, .token ",", .rule .clauses] .bareTargets]
  | .dictionaryComprehension =>
      [.refuse [.token "\x7b", .token "**", .rule .bitwiseOr, .rule .clauses,
        .token "\x7d"] .doubleStarredComprehension]
  | .target =>
      [.diagnose [.optional (.token "async"), .token "for", .rule .starredExpressions]
        targetFault?]
  | .entries =>
      [.pass [.listed (.rule .entry), .token ",", .rule (.slip .entry)],
        .refuse [.rule .expression, .token ":", .token "*", .rule .bitwiseOr]
          .starredEntry,
        .refuse [.rule .expression, .token ":",
          .ahead (.group [[.token "\x7d"], [.token ","]])] .missingEntry]
  | .entry =>
      [.refuse [.rule .expression, .unless (.token ":")] .missingColon,
        .refuse [.rule .expression, .token ":", .token "*", .rule .bitwiseOr]
          .starredEntry,
        .refuse [.rule .expression, .token ":",
          .ahead (.group [[.token "\x7d"], [.token ","]])] .missingEntry]
  | .parameters =>
      [.refuse [.many (.rule .plainParameter), .rule (.slip .defaults),
          .rule .plainParameter] (.parameters .withoutDefault),
        .refuse [.many (.rule .plainParameter), .token "(", .listed (.rule .parameter),
          .optional (.token ","), .token ")"] (.parameters .inParentheses),
        .refuse [.token "/", .token ","] (.parameters .nothingBeforeSlash),
        .refuse [.group [[.rule .plainPositional], [.rule .defaultedPositional]],
          .many (.rule .anyParameter), .token "/"] (.parameters .repeatedSlash),
        .refuse [.optional (.group [[.rule .plainPositional], [.rule .defaultedPositional]]),
          .many (.rule .anyParameter), .token "*",
          .group [[.token ","], [.rule .plainParameter]], .many (.rule .anyParameter),
          .token "/"] (.parameters .slashAfterStar),
        .refuse [.some (.rule .anyParameter), .token "/", .token "*"]
          (.parameters .starAfterSlash)]
  | .defaults =>
      [.pass [.rule .defaultedPositional], .pass [.some (.rule .defaultedParameter)]]
  | .starredParameters =>
      [.refuse [.token "*", .group [[.token ":"],
          [.token ",", .group [[.token ":"], [.token "**"]]]]]
          (.parameters .nothingAfterStar),
        .refuse [.token "*", .rule .parameter, .token "="] (.parameters .defaultOfStarred),
        .refuse [.token "*", .group [[.rule .plainParameter], [.token ","]],
          .many (.rule .anyParameter), .token "*",
          .group [[.rule .plainParameter], [.token ","]]] (.parameters .repeatedStar)]
  | .doubleStarredParameter =>
      [.refuse [.token "**", .rule .parameter, .token "="]
          (.parameters .defaultOfDoubleStarred),
        .refuse [.token "**", .rule .parameter, .token ",", .rule .parameter]
          (.parameters .afterDoubleStarred),
        .refuse [.token "**", .rule .parameter, .token ",",
          .group [[.token "*"], [.token "**"], [.token "/"]]]
          (.parameters .afterDoubleStarred)]
  | .defaultValue =>
      [.refuse [.token "=", .ahead (.group [[.token ")"], [.token ","]])]
        (.parameters .missingDefault)]

end Slip
end Literal
end PodManual
