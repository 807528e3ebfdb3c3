import NotebookExport.Python.Grammar.Rule

/-!
# The grammar of Python source

One rule for every phrase and every repeated group. The grammar is wider than the language in a few
places: it keeps the statements `print x` and `exec x` of Python 2, backquoted expressions are
strings, and a body may be empty.

Between two tokens there may be blanks, comments and continued line ends; they belong to no rule.
-/

namespace NotebookExport.Python

open Rule

namespace Grammar

/-! ### Parts that many rules share -/

def simpleStatement : Rule :=
  oneOf [
    p .futureImportStatement, p .importStatement, p .importFromStatement, p .printStatement,
    p .assertStatement, p .expressionStatement, p .returnStatement, p .deleteStatement,
    p .raiseStatement, p .passStatement, p .breakStatement, p .continueStatement,
    p .globalStatement, p .nonlocalStatement, p .execStatement, p .typeAliasStatement]

def compoundStatement : Rule :=
  oneOf [
    p .ifStatement, p .forStatement, p .whileStatement, p .tryStatement, p .withStatement,
    p .functionDefinition, p .classDefinition, p .decoratedDefinition, p .matchStatement]

/-- The body of a compound statement: statements on its own line, an indented block, or nothing. -/
def suite : Rule :=
  oneOf [
    shownAs (.phrase .block) (p .simpleStatements),
    seqs [t .indent, p .block],
    shownAs (.phrase .block) (t .newline)]

def expressions : Rule := oneOf [p .expression, p .expressionList]

def leftHandSide : Rule := oneOf [p .pattern, p .patternList]

/-- The keywords that may also be names. -/
def keywordIdentifier : Rule :=
  oneOf [
    binding (-3) .none (shownAs (.token .identifier)
      (oneOf [t .kwPrint, t .kwExec, t .kwAsync, t .kwAwait, t .kwMatch])),
    shownAs (.token .identifier) (t .kwType)]

def importedName : Rule := field .name (oneOf [p .dottedName, p .aliasedImport])

def callArgument : Rule :=
  oneOf [
    p .expression, p .listSplat, p .dictionarySplat,
    shownAs (.phrase .parenthesizedExpression) (p .parenthesizedListSplat),
    p .keywordArgument]

def casePatterns : Rule :=
  seqs [listed (p .casePattern) .furtherCasePatterns, optional (t .comma)]

def splatTarget : Rule := oneOf [t .identifier, keywordIdentifier, p .subscript, p .memberAccess]

def number : Rule := oneOf [t .integer, t .float]

def element : Rule := oneOf [p .expression, p .yield, p .listSplat, p .parenthesizedListSplat]

/-- An operator between two operands of the same kind. -/
def between (operand : Phrase) (level : Int) (side : Associativity) (operator : Token) : Rule :=
  binding level side (seqs [
    field .left (p operand), field .operator (t operator), field .right (p operand)])

def arithmetic (level : Int) (operator : Token) : Rule :=
  between .primaryExpression level .left operator

end Grammar

open Grammar

/-- What a phrase is made of. -/
def Phrase.rule : Phrase → Rule
  | .program => optional (g .statements)
  | .statement => oneOf [p .simpleStatements, compoundStatement]
  | .simpleStatements =>
    seqs [listed simpleStatement .furtherStatements, optional (t .semicolon), t .newline]
  -- Simple statements
  | .importStatement => seqs [t .kwImport, p .importList]
  | .importPrefix => g .dots
  | .relativeImport => seqs [p .importPrefix, optional (p .dottedName)]
  | .futureImportStatement =>
    seqs [
      t .kwFrom, t .kwFuture, t .kwImport,
      oneOf [p .importList, seqs [t .lparen, p .importList, t .rparen]]]
  | .importFromStatement =>
    seqs [
      t .kwFrom, field .moduleName (oneOf [p .relativeImport, p .dottedName]), t .kwImport,
      oneOf [p .wildcardImport, p .importList, seqs [t .lparen, p .importList, t .rparen]]]
  | .importList => seqs [listed importedName .furtherImports, optional (t .comma)]
  | .aliasedImport => seqs [field .name (p .dottedName), t .kwAs, field .asName (t .identifier)]
  | .wildcardImport => t .star
  | .printStatement =>
    oneOf [
      binding 1 .none (seqs [
        t .kwPrint, p .chevron, optional (g .furtherArguments), optional (t .comma)]),
      binding (-3) .none (preferred (-1) (seqs [
        t .kwPrint, listed (field .argument (p .expression)) .furtherArguments,
        optional (t .comma)]))]
  | .chevron => seqs [t .shiftRight, p .expression]
  | .assertStatement => seqs [t .kwAssert, listed (p .expression) .furtherExpressions]
  | .expressionStatement =>
    oneOf [
      p .expression,
      seqs [listed (p .expression) .furtherExpressions, optional (t .comma)],
      p .assignment, p .augmentedAssignment, p .yield]
  | .namedExpression =>
    seqs [field .name (p .namedExpressionTarget), t .walrus, field .value (p .expression)]
  | .namedExpressionTarget => oneOf [t .identifier, keywordIdentifier]
  | .returnStatement => seqs [t .kwReturn, optional expressions]
  | .deleteStatement => seqs [t .kwDel, expressions]
  | .raiseStatement =>
    seqs [
      t .kwRaise, optional expressions,
      optional (seqs [t .kwFrom, field .cause (p .expression)])]
  | .passStatement => binding 0 .left (t .kwPass)
  | .breakStatement => binding 0 .left (t .kwBreak)
  | .continueStatement => binding 0 .left (t .kwContinue)
  | .globalStatement => seqs [t .kwGlobal, listed (t .identifier) .furtherNames]
  | .nonlocalStatement => seqs [t .kwNonlocal, listed (t .identifier) .furtherNames]
  | .execStatement =>
    seqs [
      t .kwExec, field .code (oneOf [p .string, t .identifier]),
      optional (seqs [t .kwIn, listed (p .expression) .furtherExpressions])]
  | .typeAliasStatement =>
    preferred 1 (seqs [t .kwType, p .typeExpression, t .equals, p .typeExpression])
  -- Compound statements
  | .ifStatement =>
    seqs [
      t .kwIf, field .condition (p .expression), t .colon, field .consequence suite,
      optional (g .elifClauses), optional (field .alternative (p .elseClause))]
  | .elifClause =>
    seqs [t .kwElif, field .condition (p .expression), t .colon, field .consequence suite]
  | .elseClause => seqs [t .kwElse, t .colon, field .body suite]
  | .matchStatement =>
    seqs [
      t .kwMatch, listed (field .subject (p .expression)) .furtherSubjects, optional (t .comma),
      t .colon, field .body (shownAs (.phrase .block) (p .matchBlock))]
  | .matchBlock => oneOf [seqs [t .indent, optional (g .caseClauses), t .dedent], t .newline]
  | .caseClause =>
    seqs [
      t .kwCase, casePatterns, optional (field .guard (p .ifClause)), t .colon,
      field .consequence suite]
  | .forStatement =>
    seqs [
      optional (t .kwAsync), t .kwFor, field .left leftHandSide, t .kwIn,
      field .right expressions, t .colon, field .body suite,
      field .alternative (optional (p .elseClause))]
  | .whileStatement =>
    seqs [
      t .kwWhile, field .condition (p .expression), t .colon, field .body suite,
      optional (field .alternative (p .elseClause))]
  | .tryStatement =>
    seqs [
      t .kwTry, t .colon, field .body suite,
      oneOf [
        seqs [g .exceptClauses, optional (p .elseClause), optional (p .finallyClause)],
        seqs [g .exceptGroupClauses, optional (p .elseClause), optional (p .finallyClause)],
        p .finallyClause]]
  | .exceptClause =>
    seqs [
      t .kwExcept,
      optional (seqs [
        p .expression, optional (seqs [oneOf [t .kwAs, t .comma], p .expression])]),
      t .colon, suite]
  | .exceptGroupClause =>
    seqs [
      t .exceptStar, seqs [p .expression, optional (seqs [t .kwAs, p .expression])],
      t .colon, suite]
  | .finallyClause => seqs [t .kwFinally, t .colon, suite]
  | .withStatement =>
    seqs [optional (t .kwAsync), t .kwWith, p .withClause, t .colon, field .body suite]
  | .withClause =>
    oneOf [
      seqs [listed (p .withItem) .furtherWithItems, optional (t .comma)],
      seqs [
        t .lparen, listed (p .withItem) .furtherWithItems, optional (t .comma), t .rparen]]
  | .withItem => preferred 1 (field .value (p .expression))
  | .functionDefinition =>
    seqs [
      optional (t .kwAsync), t .kwDef, field .name (t .identifier),
      field .typeParameters (optional (p .typeParameter)), field .parameters (p .parameters),
      optional (seqs [t .arrow, field .returnType (p .typeExpression)]), t .colon,
      field .body suite]
  | .classDefinition =>
    seqs [
      t .kwClass, field .name (t .identifier),
      field .typeParameters (optional (p .typeParameter)),
      field .superclasses (optional (p .argumentList)), t .colon, field .body suite]
  | .decoratedDefinition =>
    seqs [g .decorators, field .definition (oneOf [p .classDefinition, p .functionDefinition])]
  | .decorator => seqs [t .atSign, p .expression, t .newline]
  | .block => seqs [optional (g .statements), t .dedent]
  -- Parameters and arguments
  | .parameters => seqs [t .lparen, optional (p .parameterItems), t .rparen]
  | .lambdaParameters => p .parameterItems
  | .parameterItems => seqs [listed (p .parameter) .furtherParameters, optional (t .comma)]
  | .parameter =>
    oneOf [
      t .identifier, p .typedParameter, p .defaultParameter, p .typedDefaultParameter,
      p .listSplatPattern, p .tuplePattern, p .keywordSeparator, p .positionalSeparator,
      p .dictionarySplatPattern]
  | .defaultParameter =>
    seqs [
      field .name (oneOf [t .identifier, p .tuplePattern]), t .equals,
      field .value (p .expression)]
  | .typedDefaultParameter =>
    binding (-1) .none (seqs [
      field .name (t .identifier), t .colon, field .declaredType (p .typeExpression), t .equals,
      field .value (p .expression)])
  | .typedParameter =>
    binding (-1) .none (seqs [
      oneOf [t .identifier, p .listSplatPattern, p .dictionarySplatPattern], t .colon,
      field .declaredType (p .typeExpression)])
  | .positionalSeparator => t .slash
  | .keywordSeparator => t .star
  | .listSplat => seqs [t .star, p .expression]
  | .dictionarySplat => seqs [t .starStar, p .expression]
  | .parenthesizedListSplat =>
    binding 1 .none (seqs [
      t .lparen,
      oneOf [
        shownAs (.phrase .parenthesizedExpression) (p .parenthesizedListSplat), p .listSplat],
      t .rparen])
  | .argumentList =>
    seqs [
      t .lparen, optional (listed callArgument .furtherCallArguments), optional (t .comma),
      t .rparen]
  | .keywordArgument =>
    seqs [
      field .name (oneOf [t .identifier, keywordIdentifier]), t .equals,
      field .value (p .expression)]
  -- Patterns of a match statement
  | .casePattern =>
    binding 1 .none (oneOf [
      shownAs (.phrase .asPattern) (p .caseAsPattern), p .keywordPattern, p .simplePattern])
  | .simplePattern =>
    binding 1 .none (oneOf [
      p .classPattern, p .splatPattern, p .unionPattern,
      shownAs (.phrase .listPattern) (p .caseListPattern),
      shownAs (.phrase .tuplePattern) (p .caseTuplePattern), p .dictPattern, p .string,
      p .concatenatedString, t .kwTrue, t .kwFalse, t .kwNone,
      seqs [optional (t .minus), number], p .complexPattern, p .dottedName, t .underscore])
  | .caseAsPattern => seqs [p .casePattern, t .kwAs, t .identifier]
  | .unionPattern => binding 0 .right (seqs [p .simplePattern, g .unionAlternatives])
  | .caseListPattern => seqs [t .lbracket, optional casePatterns, t .rbracket]
  | .caseTuplePattern => seqs [t .lparen, optional casePatterns, t .rparen]
  | .dictPattern =>
    seqs [
      t .lbrace,
      optional (seqs [
        listed (oneOf [p .keyValuePattern, p .splatPattern]) .furtherDictPatterns,
        optional (t .comma)]),
      t .rbrace]
  | .keyValuePattern =>
    seqs [field .key (p .simplePattern), t .colon, field .value (p .casePattern)]
  | .keywordPattern => seqs [t .identifier, t .equals, p .simplePattern]
  | .splatPattern =>
    binding 1 .none (seqs [oneOf [t .star, t .starStar], oneOf [t .identifier, t .underscore]])
  | .classPattern => seqs [p .dottedName, t .lparen, optional casePatterns, t .rparen]
  | .complexPattern =>
    binding 1 .none (seqs [optional (t .minus), number, oneOf [t .plus, t .minus], number])
  | .dottedName => binding 1 .none (listed (t .identifier) .dottedNames)
  -- Targets
  | .patternItems => seqs [listed (p .pattern) .furtherPatterns, optional (t .comma)]
  | .pattern =>
    oneOf [
      t .identifier, keywordIdentifier, p .subscript, p .memberAccess, p .listSplatPattern,
      p .tuplePattern, p .listPattern]
  | .tuplePattern => seqs [t .lparen, optional (p .patternItems), t .rparen]
  | .listPattern => seqs [t .lbracket, optional (p .patternItems), t .rbracket]
  | .listSplatPattern => seqs [t .star, splatTarget]
  | .dictionarySplatPattern => seqs [t .starStar, splatTarget]
  | .patternList =>
    seqs [p .pattern, oneOf [t .comma, seqs [g .furtherPatterns, optional (t .comma)]]]
  | .assignment =>
    seqs [
      field .left leftHandSide,
      oneOf [
        seqs [t .equals, field .right (p .rightHandSide)],
        seqs [t .colon, field .declaredType (p .typeExpression)],
        seqs [
          t .colon, field .declaredType (p .typeExpression), t .equals,
          field .right (p .rightHandSide)]]]
  | .augmentedAssignment =>
    seqs [
      field .left leftHandSide,
      field .operator (oneOf [
        t .plusEq, t .minusEq, t .starEq, t .slashEq, t .atEq, t .slashSlashEq, t .percentEq,
        t .starStarEq, t .shiftRightEq, t .shiftLeftEq, t .ampersandEq, t .caretEq, t .barEq]),
      field .right (p .rightHandSide)]
  | .rightHandSide =>
    oneOf [
      p .expression, p .expressionList, p .assignment, p .augmentedAssignment, p .patternList,
      p .yield]
  -- Types
  | .typeExpression =>
    oneOf [
      p .expression, p .splatType, p .genericType, p .unionType, p .constrainedType,
      p .memberType]
  | .typeParameter =>
    seqs [
      t .lbracket, listed (p .typeExpression) .furtherTypes, optional (t .comma), t .rbracket]
  | .splatType => binding 1 .none (seqs [oneOf [t .star, t .starStar], t .identifier])
  | .genericType => binding 1 .none (seqs [t .identifier, p .typeParameter])
  | .unionType => binding 0 .left (seqs [p .typeExpression, t .bar, p .typeExpression])
  | .constrainedType => binding 0 .right (seqs [p .typeExpression, t .colon, p .typeExpression])
  | .memberType => seqs [p .typeExpression, t .dot, t .identifier]
  -- Expressions
  | .expressionList =>
    binding 0 .right (seqs [
      p .expression, oneOf [t .comma, seqs [g .furtherExpressions, optional (t .comma)]]])
  | .asPattern =>
    binding 0 .left (seqs [
      p .expression, t .kwAs,
      field .asName (shownAs (.phrase .asPatternTarget) (p .expression))])
  | .comprehensionSource => oneOf [p .expression, shownAs (.phrase .lambda) (p .lambdaSource)]
  | .expression =>
    oneOf [
      p .comparisonOperator, p .notOperator, p .booleanOperator, p .lambda, p .primaryExpression,
      p .conditionalExpression, p .namedExpression, p .asPattern]
  | .primaryExpression =>
    oneOf [
      p .await, p .binaryOperator, t .identifier, keywordIdentifier, p .string,
      p .concatenatedString, t .integer, t .float, t .kwTrue, t .kwFalse, t .kwNone,
      p .unaryOperator, p .memberAccess, p .subscript, p .call, p .list, p .listComprehension,
      p .dictionary, p .dictionaryComprehension, p .set, p .setComprehension, p .tuple,
      p .parenthesizedExpression, p .generatorExpression, t .ellipsis,
      shownAs (.phrase .listSplat) (p .listSplatPattern)]
  | .notOperator => binding 12 .none (seqs [t .kwNot, field .argument (p .expression)])
  | .booleanOperator =>
    oneOf [between .expression 11 .left .kwAnd, between .expression 10 .left .kwOr]
  | .binaryOperator =>
    oneOf [
      arithmetic 18 .plus, arithmetic 18 .minus, arithmetic 19 .star, arithmetic 19 .atSign,
      arithmetic 19 .slash, arithmetic 19 .percent, arithmetic 19 .slashSlash,
      between .primaryExpression 21 .right .starStar, arithmetic 14 .bar,
      arithmetic 15 .ampersand, arithmetic 16 .caret, arithmetic 17 .shiftLeft,
      arithmetic 17 .shiftRight]
  | .unaryOperator =>
    binding 20 .none (seqs [
      field .operator (oneOf [t .plus, t .minus, t .tilde]),
      field .argument (p .primaryExpression)])
  | .comparisonOperator => binding 13 .left (seqs [p .primaryExpression, g .comparisons])
  | .lambda =>
    binding (-2) .none (seqs [
      t .kwLambda, field .parameters (optional (p .lambdaParameters)), t .colon,
      field .body (p .expression)])
  | .lambdaSource =>
    seqs [
      t .kwLambda, field .parameters (optional (p .lambdaParameters)), t .colon,
      field .body (p .comprehensionSource)]
  | .yield =>
    binding 0 .right (seqs [
      t .kwYield, oneOf [seqs [t .kwFrom, p .expression], optional expressions]])
  | .memberAccess =>
    binding 22 .none (seqs [
      field .object (p .primaryExpression), t .dot, field .member (t .identifier)])
  | .subscript =>
    binding 22 .none (seqs [
      field .value (p .primaryExpression), t .lbracket,
      listed (field .subscript (oneOf [p .expression, p .slice])) .furtherSubscripts,
      optional (t .comma), t .rbracket])
  | .slice =>
    seqs [
      optional (p .expression), t .colon, optional (p .expression),
      optional (seqs [t .colon, optional (p .expression)])]
  | .call =>
    binding 22 .none (seqs [
      field .function (p .primaryExpression),
      field .arguments (oneOf [p .generatorExpression, p .argumentList])])
  | .conditionalExpression =>
    binding (-1) .right (seqs [
      p .expression, t .kwIf, p .expression, t .kwElse, p .expression])
  | .await => binding 20 .none (seqs [t .kwAwait, p .primaryExpression])
  -- Collections
  | .list => seqs [t .lbracket, optional (p .collectionElements), t .rbracket]
  | .set => seqs [t .lbrace, p .collectionElements, t .rbrace]
  | .tuple => seqs [t .lparen, optional (p .collectionElements), t .rparen]
  | .dictionary =>
    seqs [
      t .lbrace, optional (listed (oneOf [p .pair, p .dictionarySplat]) .furtherPairs),
      optional (t .comma), t .rbrace]
  | .pair => seqs [field .key (p .expression), t .colon, field .value (p .expression)]
  | .listComprehension =>
    seqs [t .lbracket, field .body (p .expression), p .comprehensionClauses, t .rbracket]
  | .dictionaryComprehension =>
    seqs [t .lbrace, field .body (p .pair), p .comprehensionClauses, t .rbrace]
  | .setComprehension =>
    seqs [t .lbrace, field .body (p .expression), p .comprehensionClauses, t .rbrace]
  | .generatorExpression =>
    seqs [t .lparen, field .body (p .expression), p .comprehensionClauses, t .rparen]
  | .comprehensionClauses => seqs [p .forInClause, optional (g .comprehensionClauseRun)]
  | .parenthesizedExpression =>
    binding 1 .none (seqs [t .lparen, oneOf [p .expression, p .yield], t .rparen])
  | .collectionElements => seqs [listed element .furtherElements, optional (t .comma)]
  | .forInClause =>
    binding 0 .left (seqs [
      optional (t .kwAsync), t .kwFor, field .left leftHandSide, t .kwIn,
      field .right (listed (p .comprehensionSource) .furtherSources), optional (t .comma)])
  | .ifClause => seqs [t .kwIf, p .expression]
  -- Strings
  | .concatenatedString => seqs [p .string, g .strings]
  | .string => seqs [t .stringStart, optional (g .stringParts), t .stringEnd]
  | .stringContent => binding 0 .right (g .contentPieces)
  | .interpolation =>
    seqs [
      t .lbrace, field .expression (p .interpolatedExpression), optional (t .equals),
      optional (field .conversion (t .typeConversion)),
      optional (field .formatSpecifier (p .formatSpecifier)), t .rbrace]
  | .interpolatedExpression => oneOf [p .expression, p .expressionList, p .patternList, p .yield]
  | .formatSpecifier => seqs [t .colon, optional (g .formatParts)]
  -- Kinds under which other phrases are shown
  | .asPatternTarget | .formatExpression | .notIn | .isNot => .blank

/-- What one member of a repeated group is made of. -/
def Group.rule : Group → Rule
  | .statements => p .statement
  | .furtherStatements => seqs [t .semicolon, simpleStatement]
  | .dots => t .dot
  | .furtherImports => seqs [t .comma, importedName]
  | .furtherArguments => seqs [t .comma, field .argument (p .expression)]
  | .furtherExpressions => seqs [t .comma, p .expression]
  | .elifClauses => field .alternative (p .elifClause)
  | .furtherSubjects => seqs [t .comma, field .subject (p .expression)]
  | .caseClauses => field .alternative (p .caseClause)
  | .furtherCasePatterns => seqs [t .comma, p .casePattern]
  | .exceptClauses => p .exceptClause
  | .exceptGroupClauses => p .exceptGroupClause
  | .furtherWithItems => seqs [t .comma, p .withItem]
  | .furtherNames => seqs [t .comma, t .identifier]
  | .furtherTypes => seqs [t .comma, p .typeExpression]
  | .furtherCallArguments => seqs [t .comma, callArgument]
  | .decorators => p .decorator
  | .dottedNames => seqs [t .dot, t .identifier]
  | .unionAlternatives => binding 0 .left (seqs [t .bar, p .simplePattern])
  | .furtherDictPatterns => seqs [t .comma, oneOf [p .keyValuePattern, p .splatPattern]]
  | .furtherParameters => seqs [t .comma, p .parameter]
  | .furtherPatterns => seqs [t .comma, p .pattern]
  | .comparisons =>
    seqs [
      field .operator (oneOf [
        t .less, t .lessEq, t .eqEq, t .notEq, t .greaterEq, t .greater, t .lessGreater,
        t .kwIn, shownAs (.phrase .notIn) (seqs [t .kwNot, t .kwIn]), t .kwIs,
        shownAs (.phrase .isNot) (seqs [t .kwIs, t .kwNot])]),
      p .primaryExpression]
  | .furtherSubscripts => seqs [t .comma, field .subscript (oneOf [p .expression, p .slice])]
  | .furtherPairs => seqs [t .comma, oneOf [p .pair, p .dictionarySplat]]
  | .comprehensionClauseRun => oneOf [p .forInClause, p .ifClause]
  | .furtherElements => seqs [t .comma, element]
  | .furtherSources => seqs [t .comma, p .comprehensionSource]
  | .strings => p .string
  | .stringParts => oneOf [p .interpolation, p .stringContent]
  | .contentPieces =>
    oneOf [t .escapeInterpolation, t .escapeSequence, t .backslash, t .stringContent]
  | .formatParts => oneOf [t .formatText, shownAs (.phrase .formatExpression) (p .interpolation)]

end NotebookExport.Python
