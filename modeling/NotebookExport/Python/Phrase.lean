import NotebookExport.Python.Token

/-!
# Phrases

The kinds of phrase that Python source is made of, the parts of phrases that may be repeated, and
the roles that the parts of a phrase play in it. A phrase that is hidden groups others in the
grammar and stands in no syntax tree; its parts stand where it would.
-/

namespace NotebookExport.Python

/-- The kinds of phrase. `program` is a whole text. -/
inductive Phrase where
  | program | statement | simpleStatements | importStatement | importPrefix | relativeImport
  | futureImportStatement | importFromStatement | importList | aliasedImport | wildcardImport
  | printStatement | chevron | assertStatement | expressionStatement | namedExpression
  | namedExpressionTarget | returnStatement | deleteStatement | raiseStatement | passStatement
  | breakStatement | continueStatement | ifStatement | elifClause | elseClause | matchStatement
  | matchBlock | caseClause | forStatement | whileStatement | tryStatement | exceptClause
  | exceptGroupClause | finallyClause | withStatement | withClause | withItem
  | functionDefinition | parameters | lambdaParameters | listSplat | dictionarySplat
  | globalStatement | nonlocalStatement | execStatement | typeAliasStatement | classDefinition
  | typeParameter | parenthesizedListSplat | argumentList | decoratedDefinition | decorator
  | block | expressionList | dottedName | casePattern | simplePattern | caseAsPattern
  | unionPattern | caseListPattern | caseTuplePattern | dictPattern | keyValuePattern
  | keywordPattern | splatPattern | classPattern | complexPattern | parameterItems | patternItems
  | parameter | pattern | tuplePattern | listPattern | defaultParameter | typedDefaultParameter
  | listSplatPattern | dictionarySplatPattern | asPattern | comprehensionSource | expression
  | primaryExpression | notOperator | booleanOperator | binaryOperator | unaryOperator
  | comparisonOperator | lambda | lambdaSource | assignment | augmentedAssignment | patternList
  | rightHandSide | yield | memberAccess | subscript | slice | call | typedParameter
  | typeExpression | splatType | genericType | unionType | constrainedType | memberType
  | keywordArgument | list | set | tuple | dictionary | pair | listComprehension
  | dictionaryComprehension | setComprehension | generatorExpression | comprehensionClauses
  | parenthesizedExpression | collectionElements | forInClause | ifClause | conditionalExpression
  | concatenatedString | string | stringContent | interpolation | interpolatedExpression
  | formatSpecifier | await | positionalSeparator | keywordSeparator | asPatternTarget
  | formatExpression | notIn | isNot
  deriving DecidableEq

namespace Phrase

/-- Every phrase, in the order of its declaration. -/
def all : List Phrase :=
  [.program, .statement, .simpleStatements, .importStatement, .importPrefix, .relativeImport,
  .futureImportStatement, .importFromStatement, .importList, .aliasedImport, .wildcardImport,
  .printStatement, .chevron, .assertStatement, .expressionStatement, .namedExpression,
  .namedExpressionTarget, .returnStatement, .deleteStatement, .raiseStatement, .passStatement,
  .breakStatement, .continueStatement, .ifStatement, .elifClause, .elseClause, .matchStatement,
  .matchBlock, .caseClause, .forStatement, .whileStatement, .tryStatement, .exceptClause,
  .exceptGroupClause, .finallyClause, .withStatement, .withClause, .withItem,
  .functionDefinition, .parameters, .lambdaParameters, .listSplat, .dictionarySplat,
  .globalStatement, .nonlocalStatement, .execStatement, .typeAliasStatement, .classDefinition,
  .typeParameter, .parenthesizedListSplat, .argumentList, .decoratedDefinition, .decorator,
  .block, .expressionList, .dottedName, .casePattern, .simplePattern, .caseAsPattern,
  .unionPattern, .caseListPattern, .caseTuplePattern, .dictPattern, .keyValuePattern,
  .keywordPattern, .splatPattern, .classPattern, .complexPattern, .parameterItems, .patternItems,
  .parameter, .pattern, .tuplePattern, .listPattern, .defaultParameter, .typedDefaultParameter,
  .listSplatPattern, .dictionarySplatPattern, .asPattern, .comprehensionSource, .expression,
  .primaryExpression, .notOperator, .booleanOperator, .binaryOperator, .unaryOperator,
  .comparisonOperator, .lambda, .lambdaSource, .assignment, .augmentedAssignment, .patternList,
  .rightHandSide, .yield, .memberAccess, .subscript, .slice, .call, .typedParameter,
  .typeExpression, .splatType, .genericType, .unionType, .constrainedType, .memberType,
  .keywordArgument, .list, .set, .tuple, .dictionary, .pair, .listComprehension,
  .dictionaryComprehension, .setComprehension, .generatorExpression, .comprehensionClauses,
  .parenthesizedExpression, .collectionElements, .forInClause, .ifClause, .conditionalExpression,
  .concatenatedString, .string, .stringContent, .interpolation, .interpolatedExpression,
  .formatSpecifier, .await, .positionalSeparator, .keywordSeparator, .asPatternTarget,
  .formatExpression, .notIn, .isNot]

/-- The phrases that stand in no tree. -/
def isHidden : Phrase → Bool
  | .statement | .simpleStatements | .importList | .namedExpressionTarget | .matchBlock
  | .simplePattern | .caseAsPattern | .caseListPattern | .caseTuplePattern | .keyValuePattern
  | .parameterItems | .patternItems | .parameter | .pattern | .comprehensionSource | .expression
  | .primaryExpression | .lambdaSource | .rightHandSide | .comprehensionClauses
  | .collectionElements | .interpolatedExpression => true
  | _ => false

/-- The kinds that have no rule of their own: other symbols are shown under their names. -/
def isOnlyLabel : Phrase → Bool
  | .asPatternTarget | .formatExpression | .notIn | .isNot => true
  | _ => false

/-- Whether a phrase stands in the tree under a name. The two-word operators do not. -/
def isNamed : Phrase → Bool
  | .notIn | .isNot => false
  | _ => true

end Phrase

/-- The repeated parts of phrases: one or more of the same kind in a row. -/
inductive Group where
  | statements | furtherStatements | dots | furtherImports | furtherArguments
  | furtherExpressions | elifClauses | furtherSubjects | caseClauses | furtherCasePatterns
  | exceptClauses | exceptGroupClauses | furtherWithItems | furtherNames | furtherTypes
  | furtherCallArguments | decorators | dottedNames | unionAlternatives | furtherDictPatterns
  | furtherParameters | furtherPatterns | comparisons | furtherSubscripts | furtherPairs
  | comprehensionClauseRun | furtherElements | furtherSources | strings | stringParts
  | contentPieces | formatParts
  deriving DecidableEq

/-- Every group, in the order of its declaration. -/
def Group.all : List Group :=
  [.statements, .furtherStatements, .dots, .furtherImports, .furtherArguments,
  .furtherExpressions, .elifClauses, .furtherSubjects, .caseClauses, .furtherCasePatterns,
  .exceptClauses, .exceptGroupClauses, .furtherWithItems, .furtherNames, .furtherTypes,
  .furtherCallArguments, .decorators, .dottedNames, .unionAlternatives, .furtherDictPatterns,
  .furtherParameters, .furtherPatterns, .comparisons, .furtherSubscripts, .furtherPairs,
  .comprehensionClauseRun, .furtherElements, .furtherSources, .strings, .stringParts,
  .contentPieces, .formatParts]

/-- The role of a part in its phrase. -/
inductive Field where
  | moduleName | name | asName | argument | value | cause | condition | consequence | alternative
  | body | subject | guard | left | right | typeParameters | parameters | returnType | code
  | superclasses | definition | key | declaredType | operator | object | member | subscript
  | function | arguments | expression | conversion | formatSpecifier
  deriving DecidableEq

/-- What a node of a syntax tree is: a token, a phrase, or a stretch of text that fits no rule. -/
inductive Kind where
  | token (token : Token)
  | phrase (phrase : Phrase)
  | error
  deriving DecidableEq

namespace Kind

def isNamed : Kind → Bool
  | .token t => t.isNamed
  | .phrase p => p.isNamed
  | .error => true

end Kind

/-- A symbol of the grammar. `start` stands for a program up to the end of its text. -/
inductive Symbol where
  | token (token : Token)
  | phrase (phrase : Phrase)
  | group (group : Group)
  | start
  deriving DecidableEq

namespace Symbol

/-- The place of a symbol in the order of all symbols: tokens, then phrases, then groups. -/
def index : Symbol → Nat
  | .token t => t.ctorIdx
  | .phrase p => 128 + p.ctorIdx
  | .group g => 288 + g.ctorIdx
  | .start => 320

/-- One more than the largest index. -/
def bound : Nat := 321

/-- The symbols that have rules. -/
def heads : List Symbol := Phrase.all.map .phrase ++ Group.all.map .group

end Symbol

end NotebookExport.Python
