import PodManual.Console.Literal.Slip

/-!
# The grammar of expressions

The rules, from whole texts down to atoms.  The rules of operators begin with
themselves: what they have found is extended as long as it goes on.  Slips are
looked for first where they could be taken for something else.
-/

namespace PodManual
namespace Literal
/-! ## What alternatives make of their parts -/

namespace Node

def flat (nodes : List Node) : List Node :=
  nodes.flatMap Node.toList

def ofElements (nodes : List Node) : Node :=
  .tuple (flat nodes)

def ofOperands : List Node -> Node
  | [left, right] => .sum left right
  | nodes => .other .operation nodes

def ofSigned : List Node -> Node
  | [node] => .signed node
  | nodes => .other .operation nodes

def ofStarred : List Node -> Node
  | [node] => .starred node
  | nodes => .several nodes

def ofCompared (nodes : List Node) : Node :=
  match flat nodes with
  | left :: .comparison isMembership _ first :: others =>
      .comparison isMembership left (first ++ others)
  | nodes => .several nodes

def ofCall : List Node -> Node
  | called :: given => .call called (flat given)
  | [] => .missing

def ofKeyword : List Node -> Node
  | [.name t, value] => .keyword (some t) value
  | nodes => .several nodes

def ofEntry : List Node -> Node
  | [key, value] => .entry key value
  | nodes => .several nodes

end Node

namespace Rule

/-! ## Parts of alternatives -/

def operation (left : Rule) (operator : String) (right : Rule) : Alternative :=
  .build [.rule left, .token operator, .rule right] (.other .operation)

def signedOperation (left : Rule) (sign : String) (right : Rule) : Alternative :=
  .build [.rule left, .token sign, .rule right] Node.ofOperands

def comparisonWith (operator : List String) (isMembership : Bool) : Alternative :=
  .build [.group [operator.map Item.token ++ [.rule .bitwiseOr]]]
    (.comparison isMembership .missing)

def afterComma (rule : Rule) : Item :=
  .group [[.token ",", .rule rule]]

def positionalArgument : Item :=
  .group [[.rule .starredArgument], [Slip.argumentExpression, .unless (.token "=")]]

def conditions : Item :=
  .many (.group [[.token "if", .rule .disjunction]])

/-! ## The rules -/

def alternatives : Rule -> List Alternative
  | .whole => [.pass [.rule .expressions, .many .lineBreak, .ending]]
  | .embedded => [.pass [.rule .starredExpressions]]
  | .expressions =>
      [.build [.rule .expression, .some (afterComma .expression), .optional (.token ",")]
          Node.ofElements,
        .build [.rule .expression, .token ","] .tuple,
        .pass [.rule .expression]]
  | .expression =>
      [.pass [.rule (.slip .expression)],
        .pass [.rule (.slip .formerStatement)],
        .build [.rule .disjunction, .token "if", .rule .disjunction, .token "else",
          .rule .expression] (.other .conditional),
        .pass [.rule .disjunction],
        .pass [.rule .lambda]]
  | .plainExpression =>
      [.build [.rule .disjunction, .token "if", .rule .disjunction, .token "else",
          .rule .expression] (.other .conditional),
        .pass [.rule .disjunction],
        .pass [.rule .lambda]]
  | .yieldExpression =>
      [.build [.token "yield", .token "from", .rule .expression] (.other .yielding),
        .build [.token "yield", .optional (.rule .starredExpressions)] (.other .yielding)]
  | .starredExpressions =>
      [.build [.rule .starredExpression, .some (afterComma .starredExpression),
          .optional (.token ",")] Node.ofElements,
        .build [.rule .starredExpression, .token ","] .tuple,
        .pass [.rule .starredExpression]]
  | .starredExpression =>
      [.build [.token "*", .rule .bitwiseOr] Node.ofStarred,
        .pass [.rule .expression]]
  | .elements => [.pass [.listed (.rule .element), .optional (.token ",")]]
  | .element =>
      [.build [.token "*", .rule .bitwiseOr] Node.ofStarred,
        .pass [.rule .boundExpression]]
  | .binding =>
      [.build [.name, .token ":=", .cut, .rule .expression] (.other .binding)]
  | .boundExpression =>
      [.pass [.rule .binding],
        .pass [.rule (.slip .binding)],
        .pass [.rule .expression, .unless (.token ":=")]]
  | .disjunction =>
      [.build [.rule .conjunction,
          .some (.group [[.token "or", .rule .conjunction]])] (.other .operation),
        .pass [.rule .conjunction]]
  | .conjunction =>
      [.build [.rule .inversion,
          .some (.group [[.token "and", .rule .inversion]])] (.other .operation),
        .pass [.rule .inversion]]
  | .inversion =>
      [.build [.token "not", .rule .inversion] (.other .operation),
        .pass [.rule .comparison]]
  | .comparison =>
      [.build [.rule .bitwiseOr, .some (.rule .comparisonRest)] Node.ofCompared,
        .pass [.rule .bitwiseOr]]
  | .comparisonRest =>
      [comparisonWith ["=="] false,
        comparisonWith ["!="] false,
        comparisonWith ["<="] false,
        comparisonWith ["<"] false,
        comparisonWith [">="] false,
        comparisonWith [">"] false,
        comparisonWith ["not", "in"] false,
        comparisonWith ["in"] true,
        comparisonWith ["is", "not"] false,
        comparisonWith ["is"] false]
  | .bitwiseOr => [operation .bitwiseOr "|" .bitwiseXor, .pass [.rule .bitwiseXor]]
  | .bitwiseXor => [operation .bitwiseXor "^" .bitwiseAnd, .pass [.rule .bitwiseAnd]]
  | .bitwiseAnd => [operation .bitwiseAnd "&" .shift, .pass [.rule .shift]]
  | .shift =>
      [operation .shift "<<" .sum, operation .shift ">>" .sum, .pass [.rule .sum]]
  | .sum =>
      [signedOperation .sum "+" .term, signedOperation .sum "-" .term, .pass [.rule .term]]
  | .term =>
      [operation .term "*" .factor, operation .term "/" .factor,
        operation .term "//" .factor, operation .term "%" .factor,
        operation .term "@" .factor, .pass [.rule .factor]]
  | .factor =>
      [.build [.token "+", .rule .factor] Node.ofSigned,
        .build [.token "-", .rule .factor] Node.ofSigned,
        .build [.token "~", .rule .factor] (.other .operation),
        .pass [.rule .power]]
  | .power => [operation .awaited "**" .factor, .pass [.rule .awaited]]
  | .awaited =>
      [.build [.token "await", .rule .primary] (.other .awaiting),
        .pass [.rule .primary]]
  | .primary =>
      [.build [.rule .primary, .token ".", .name] (.other .attribute),
        .build [.rule .primary, .rule .generator] Node.ofCall,
        .build [.rule .primary, .token "(", .optional (.rule .arguments), .token ")"] Node.ofCall,
        .pass [.rule .atom]]
  | .atom =>
      [.pass [.name],
        .build [.token "True"] fun _ => .constant "True".toList,
        .build [.token "False"] fun _ => .constant "False".toList,
        .build [.token "None"] fun _ => .constant "None".toList,
        .pass [.ahead .string, .rule .strings],
        .pass [.number],
        .pass [.ahead (.token "("),
          .group [[.rule .tuple], [.rule .group], [.rule .generator]]],
        .pass [.ahead (.token "\x7b"),
          .group [[.rule .dictionary], [.rule .set], [.rule .dictionaryComprehension],
            [.rule .setComprehension]]],
        .build [.token "..."] fun _ => .ellipsis]
  | .strings => [.pass [.strings]]
  | .group =>
      [.pass [.token "(", .group [[.rule .yieldExpression], [.rule .boundExpression]],
          .token ")"],
        .pass [.rule (.slip .group)]]
  | .tuple =>
      [.build [.token "(", .optional (.group [[.rule .element, .token ",",
          .optional (.rule .elements)]]), .token ")"] fun nodes =>
            .tuple (Node.flat (Node.flat nodes))]
  | .set =>
      [.build [.token "\x7b", .rule .elements, .token "\x7d"] fun nodes => .set (Node.flat nodes)]
  | .dictionary =>
      [.build [.token "\x7b", .optional (.rule .entries), .token "\x7d"] fun nodes =>
          .dictionary (Node.flat nodes),
        .pass [.token "\x7b", .rule (.slip .entries), .token "\x7d"]]
  | .entries => [.pass [.listed (.rule .entry), .optional (.token ",")]]
  | .entry =>
      [.build [.token "**", .rule .bitwiseOr] fun nodes =>
          .entry .missing (Alternative.gather nodes),
        .pass [.rule .keyedEntry]]
  | .keyedEntry =>
      [.build [.rule .expression, .token ":", .rule .expression] Node.ofEntry]
  | .clauses => [.pass [.some (.rule .clause)]]
  | .clause =>
      [.pass [.token "async", .token "for", .rule .targets, .token "in", .cut,
          .rule .disjunction, conditions],
        .pass [.token "for", .rule .targets, .token "in", .cut, .rule .disjunction,
          conditions],
        .pass [.rule (.slip .target)]]
  | .generator =>
      [.build [.token "(", Slip.argumentExpression, .rule .clauses, .token ")"]
          (.other .generator),
        .pass [.rule (.slip .comprehension)]]
  | .setComprehension =>
      [.build [.token "\x7b", .rule .boundExpression, .rule .clauses, .token "\x7d"]
          (.other .setComprehension),
        .pass [.rule (.slip .comprehension)]]
  | .dictionaryComprehension =>
      [.build [.token "\x7b", .rule .keyedEntry, .rule .clauses, .token "\x7d"]
          (.other .dictionaryComprehension),
        .pass [.rule (.slip .dictionaryComprehension)]]
  | .arguments =>
      [.pass [.rule .argumentList, .optional (.token ","), .ahead (.token ")")],
        .pass [.rule (.slip .arguments)]]
  | .argumentList =>
      [.build [.listed positionalArgument,
          .optional (.group [[.token ",", .rule .keywordArguments]])] fun nodes =>
            .several (Node.flat nodes),
        .pass [.rule .keywordArguments]]
  | .keywordArguments =>
      [.build [.listed (.rule .keywordOrStarred), .token ",",
          .listed (.rule .keywordOrDoubleStarred)] fun nodes => .several (Node.flat nodes),
        .pass [.listed (.rule .keywordOrStarred)],
        .pass [.listed (.rule .keywordOrDoubleStarred)]]
  | .starredArgument =>
      [.build [.token "*", .rule .expression] Node.ofStarred]
  | .keywordOrStarred =>
      [.pass [.rule (.slip .keyword)],
        .build [.name, .token "=", .rule .expression] Node.ofKeyword,
        .pass [.rule .starredArgument]]
  | .keywordOrDoubleStarred =>
      [.pass [.rule (.slip .keyword)],
        .build [.name, .token "=", .rule .expression] Node.ofKeyword,
        .build [.token "**", .rule .expression] fun nodes =>
          .keyword none (Alternative.gather nodes)]
  | .lambda =>
      [.build [.token "lambda", .optional (.rule .parameters), .token ":",
        .rule .expression] (.other .lambda)]
  | .parameters =>
      [.pass [.rule (.slip .parameters)], .pass [.rule .parameterList]]
  | .parameterList =>
      [.pass [.rule .plainPositional, .many (.rule .plainParameter),
          .many (.rule .defaultedParameter), .optional (.rule .starredParameters)],
        .pass [.rule .defaultedPositional, .many (.rule .defaultedParameter),
          .optional (.rule .starredParameters)],
        .pass [.some (.rule .plainParameter), .many (.rule .defaultedParameter),
          .optional (.rule .starredParameters)],
        .pass [.some (.rule .defaultedParameter), .optional (.rule .starredParameters)],
        .pass [.rule .starredParameters]]
  | .plainPositional =>
      [.pass [.some (.rule .plainParameter), .token "/", .token ","],
        .pass [.some (.rule .plainParameter), .token "/", .ahead (.token ":")]]
  | .defaultedPositional =>
      [.pass [.many (.rule .plainParameter), .some (.rule .defaultedParameter),
          .token "/", .token ","],
        .pass [.many (.rule .plainParameter), .some (.rule .defaultedParameter),
          .token "/", .ahead (.token ":")]]
  | .starredParameters =>
      [.pass [.rule (.slip .starredParameters)],
        .pass [.token "*", .rule .plainParameter, .many (.rule .anyParameter),
          .optional (.rule .doubleStarredParameter)],
        .pass [.token "*", .token ",", .some (.rule .anyParameter),
          .optional (.rule .doubleStarredParameter)],
        .pass [.rule .doubleStarredParameter]]
  | .doubleStarredParameter =>
      [.pass [.rule (.slip .doubleStarredParameter)],
        .pass [.token "**", .rule .plainParameter]]
  | .plainParameter =>
      [.pass [.rule .parameter, .token ","],
        .pass [.rule .parameter, .ahead (.token ":")]]
  | .defaultedParameter =>
      [.pass [.rule .parameter, .rule .defaultValue, .token ","],
        .pass [.rule .parameter, .rule .defaultValue, .ahead (.token ":")]]
  | .anyParameter =>
      [.pass [.rule .parameter, .optional (.rule .defaultValue), .token ","],
        .pass [.rule .parameter, .optional (.rule .defaultValue), .ahead (.token ":")]]
  | .parameter => [.pass [.name]]
  | .defaultValue =>
      [.pass [.token "=", .rule .expression], .pass [.rule (.slip .defaultValue)]]
  | .targets =>
      [.pass [.rule .target, .unless (.token ",")],
        .build [.rule .target, .many (afterComma .target), .optional (.token ",")]
          Node.ofElements]
  | .targetTuple =>
      [.pass [.rule .target, .some (afterComma .target), .optional (.token ",")],
        .pass [.rule .target, .token ","]]
  | .target =>
      [.build [.token "*", .group [[.unless (.token "*"), .rule .target]]] Node.ofStarred,
        .pass [.rule .plainTarget]]
  | .plainTarget =>
      [.build [.rule .targetPrimary, .token ".", .name, .unless (.rule .targetGoesOn)]
          (.other .attribute),
        .pass [.rule .targetAtom]]
  | .targetAtom =>
      [.pass [.name],
        .pass [.token "(", .rule .plainTarget, .token ")"],
        .build [.token "(", .optional (.rule .targetTuple), .token ")"] fun nodes =>
          .tuple (Node.flat nodes)]
  | .targetPrimary =>
      [.build [.rule .targetPrimary, .token ".", .name, .ahead (.rule .targetGoesOn)]
          (.other .attribute),
        .build [.rule .targetPrimary, .rule .generator, .ahead (.rule .targetGoesOn)] Node.ofCall,
        .build [.rule .targetPrimary, .token "(", .optional (.rule .arguments), .token ")",
          .ahead (.rule .targetGoesOn)] Node.ofCall,
        .pass [.rule .atom, .ahead (.rule .targetGoesOn)]]
  | .targetGoesOn => [.pass [.token "("], .pass [.token "."]]
  | .slip s => s.alternatives

def isSlip : Rule -> Bool
  | .slip _ => true
  | _ => false

def isExtended (rule : Rule) : Bool :=
  rule ∈ [.bitwiseOr, .bitwiseXor, .bitwiseAnd, .shift, .sum, .term, .primary,
    .targetPrimary]

/-- What the rule finds at a token is kept, since it may be looked for again. -/
def isKept (rule : Rule) : Bool :=
  rule ∈ [.expression, .starredExpression, .disjunction, .conjunction, .inversion,
    .factor, .awaited, .strings, .arguments, .target, .plainTarget, .slip .binding]

end Rule
end Literal
end PodManual
