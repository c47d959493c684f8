import FieldBridge.Snippet.Rule

/-!
# The grammar of code

The rules of a source file, with two liberties: the package clause may be missing, and
statements may stand beside declarations.  The grammar is ambiguous, as a name can
begin an expression as well as a type.  No category is empty, so what may be missing is
left out where the category is used.
-/

namespace FieldBridge.Snippet

/-- The categories of the grammar. -/
inductive Category where
  | whole
  | items
  | declaration
  | importLine
  | importLines
  | constantLine
  | constantLines
  | variableLine
  | variableLines
  | typeLine
  | typeLines
  | moreNames
  | typeParameter
  | typeParameterList
  | typeParameters
  | parameter
  | parameterList
  | parameters
  | simpleType
  | parenthesizedType
  | qualifiedType
  | genericType
  | typeArguments
  | typeElement
  | typeElements
  | types
  | negatedType
  | arrayType
  | countedType
  | sliceType
  | mapType
  | structType
  | field
  | fields
  | interfaceElement
  | interfaceElements
  | block
  | lines
  | statements
  | statement
  | simpleStatement
  | ifStatement
  | valueClauses
  | typeClauses
  | channelClauses
  | expressions
  | expression
  | allocations
  | allocationArguments
  | argumentList
  | arguments
  | literalElement
  | literalElements
  | literal
deriving DecidableEq, Repr

namespace Grammar

open Forms Rule

def terminator : Forms Category :=
  any [one .lineEnd, one .semicolon]

/-- What ends a line that belongs to no case. -/
def closing : Forms Category :=
  any [terminator, one .caseLabel]

def type : Forms Category :=
  any [of .simpleType, of .parenthesizedType]

def grouped (inner : Forms Category) : Forms Category :=
  all [one .openParen, inner, one .closeParen]

def squared (inner : Forms Category) : Forms Category :=
  all [one .openBracket, inner, one .closeBracket]

def braced (inner : Forms Category) : Forms Category :=
  all [one .openBrace, inner, one .closeBrace]

def trailed (list : Category) : Forms Category :=
  all [of list, opt (one .comma)]

/-- Lines, the last of which may be unended. -/
def lined (list : Category) : Forms Category :=
  opt (all [of list, opt terminator])

/-- The values after an assignment mark. -/
def values : Forms Category :=
  all [one .assign, of .expressions]

def names : Forms Category :=
  all [one .name, opt (of .moreNames)]

/-- What a function returns, after its parameters. -/
def result : Forms Category :=
  opt (any [of .parameters, of .simpleType])

/-- What a declared function returns, and its body. -/
def definition : Forms Category :=
  any [all [result, opt (of .block)], all [of .simpleType, one .caseLabel]]

/-- The names that receive values, with the mark that assigns. -/
def receivers : Forms Category :=
  all [of .expressions, any [one .assign, one .define]]

/-- The statements of a case, after its head. -/
def clause (heads : Forms Category) : Forms Category :=
  all [any [all [one .caseWord, heads], one .defaultWord], one .colon, opt (of .statements)]

/-- A statement before the condition of a header. -/
def opening : Forms Category :=
  opt (all [of .simpleStatement, one .semicolon])

/-- A declaration: one line after its word, or a group of lines in parentheses. -/
def declared (word : Terminal) (line list : Category) : Forms Category :=
  all [one word, any [of line, grouped (opt (of list))]]

def declaredLines (line list : Category) : Forms Category :=
  repeated list (all [of line, closing])

/-- A file: the clauses, declarations and statements, and the end of the text. -/
def fileRules : List (Rule Category) := [
  plain .whole [all [opt (of .items), opt (of .declaration), one .finish]],
  plain .items [
    repeated .items (any [all [of .statement, closing], all [of .declaration, terminator]])],
  plain .declaration [
    all [one .packageWord, one .name],
    all [one .importWord, any [of .importLine, grouped (lined .importLines)]]],
  ranked 1 .right .declaration [
    all [one .funcWord, one .name, opt (of .typeParameters), of .parameters, definition],
    all [one .funcWord, of .parameters, one .name, of .parameters, definition]],
  plain .importLine [all [opt (any [one .dot, one .name]), one .string]],
  plain .importLines [listed .importLines terminator (of .importLine)]]

/-- The declarations that can stand in a block, and lists of names. -/
def declarationRules : List (Rule Category) := [
  ranked 0 .left .constantLine [all [names, opt (all [opt type, values])]],
  plain .constantLines [declaredLines .constantLine .constantLines],
  plain .variableLine [all [names, any [all [type, opt values], values]]],
  plain .variableLines [declaredLines .variableLine .variableLines],
  plain .typeLine [all [one .name, opt (of .typeParameters), opt (one .assign), type]],
  plain .typeLines [declaredLines .typeLine .typeLines],
  plain .moreNames [repeated .moreNames (all [one .comma, one .name])],
  plain .typeParameter [all [names, of .typeElement]],
  plain .typeParameterList [listed .typeParameterList (one .comma) (of .typeParameter)],
  plain .typeParameters [squared (trailed .typeParameterList)],
  plain .parameter [
    all [opt names, type],
    all [opt (one .name), one .ellipsis, type]],
  plain .parameterList [listed .parameterList (one .comma) (of .parameter)],
  plain .parameters [grouped (any [opt (one .comma), trailed .parameterList])]]

def typeRules : List (Rule Category) := [
  plain .simpleType [
    one .name, of .qualifiedType, of .genericType, of .negatedType, of .arrayType,
    of .sliceType, of .mapType, of .structType,
    all [one .interfaceWord, braced (lined .interfaceElements)]],
  ranked 6 .either .simpleType [all [one .star, type]],
  ranked 0 .right .simpleType [all [one .funcWord, of .parameters, result]],
  ranked 0 .left .simpleType [all [one .chanWord, opt (one .arrow), type]],
  ranked 6 .left .simpleType [all [one .arrow, one .chanWord, type]],
  plain .parenthesizedType [grouped type],
  plain .qualifiedType [all [one .name, one .dot, one .name]],
  plain .genericType [
    all [any [one .name, of .qualifiedType, of .negatedType], of .typeArguments]],
  plain .typeArguments [squared (trailed .typeElements)],
  plain .typeElement [listed .typeElement (one .bar) type],
  plain .typeElements [listed .typeElements (one .comma) (of .typeElement)],
  plain .types [listed .types (one .comma) type],
  ranked 0 .left .negatedType [all [one .tilde, type]],
  ranked 0 .right .arrayType [all [squared (of .expression), type]],
  plain .countedType [all [squared (one .ellipsis), type]],
  ranked 0 .right .sliceType [all [squared (all []), type]],
  ranked 0 .right .mapType [all [one .mapWord, squared type, type]],
  plain .structType [all [one .structWord, braced (lined .fields)]],
  plain .field [
    all [
      any [
        all [names, type],
        all [opt (one .star), any [one .name, of .qualifiedType, of .genericType]]],
      opt (one .string)],
    all [names, type, one .caseLabel]],
  plain .fields [listed .fields terminator (of .field)],
  plain .interfaceElement [
    all [one .name, of .parameters, any [result, all [of .simpleType, one .caseLabel]]],
    all [of .typeElement, opt (one .caseLabel)]],
  plain .interfaceElements [listed .interfaceElements terminator (of .interfaceElement)]]

def statementRules : List (Rule Category) := [
  plain .block [
    braced (opt (of .statements)),
    all [one .openBrace, of .statements, one .caseLabel]],
  plain .lines [listed .lines terminator (of .statement)],
  plain .statements [
    all [of .lines, opt (all [terminator, opt (all [one .name, one .colon])])],
    all [one .name, one .colon]],
  plain .statement [
    one .semicolon, of .block, of .simpleStatement, of .ifStatement,
    declared .constWord .constantLine .constantLines,
    declared .varWord .variableLine .variableLines,
    declared .typeWord .typeLine .typeLines,
    all [one .name, one .colon, of .statement],
    all [one .returnWord, opt (of .expressions)],
    all [one .launchWord, of .expression],
    all [one .leaveWord, opt (one .name)],
    all [one .gotoWord, one .name],
    one .fallthroughWord,
    all [one .forWord, opt (of .expression), of .block],
    all [one .forWord, opt (of .simpleStatement), one .semicolon, opt (of .expression),
      one .semicolon, opt (of .simpleStatement), of .block],
    all [one .forWord, opt receivers, one .rangeWord, of .expression, of .block],
    all [one .switchWord, opening, opt (of .expression), braced (opt (of .valueClauses))],
    all [one .switchWord, opening, opt (all [of .expressions, one .define]), of .expression,
      one .dot, grouped (one .typeWord), braced (opt (of .typeClauses))],
    all [one .selectWord, braced (opt (of .channelClauses))]],
  plain .simpleStatement [
    of .expression,
    all [of .expression, one .arrow, of .expression],
    all [of .expression, one .step],
    all [of .expressions, any [one .assign, one .update, one .define], of .expressions]],
  plain .ifStatement [
    all [one .ifWord, opening, of .expression, of .block,
      opt (all [one .elseWord, any [of .block, of .ifStatement]])]],
  plain .valueClauses [repeated .valueClauses (clause (of .expressions))],
  plain .typeClauses [repeated .typeClauses (clause (of .types))],
  plain .channelClauses [
    repeated .channelClauses
      (clause (any [
        all [of .expression, one .arrow, of .expression],
        all [opt receivers, of .expression]]))]]

def expressionRules : List (Rule Category) := [
  plain .expressions [listed .expressions (one .comma) (of .expression)],
  plain .expression [
    one .name, one .number, one .string, one .constant, one .allocator,
    grouped (of .expression),
    all [one .funcWord, of .parameters, result, of .block],
    all [type, grouped (trailed .expression)]],
  ranked 7 .either .expression [
    all [one .allocator, of .allocationArguments],
    all [of .expression, opt (of .typeArguments), of .arguments],
    all [of .expression, one .dot, one .name],
    all [of .expression, one .dot, grouped type],
    all [of .expression, squared (of .expression)],
    all [of .expression,
      squared (all [opt (of .expression), one .colon, opt (of .expression)])],
    all [of .expression,
      squared (all [opt (of .expression), one .colon, of .expression, one .colon,
        of .expression])],
    all [type, squared (trailed .types)]],
  ranked 6 .either .expression [
    all [any [one .sign, one .bang, one .star, one .ampersand, one .arrow], of .expression]],
  ranked 5 .left .expression [
    all [of .expression, any [one .star, one .ampersand, one .multiply], of .expression]],
  ranked 4 .left .expression [
    all [of .expression, any [one .sign, one .bar], of .expression]],
  ranked 3 .left .expression [all [of .expression, one .compare, of .expression]],
  ranked 2 .left .expression [all [of .expression, one .andAlso, of .expression]],
  ranked 1 .left .expression [all [of .expression, one .orElse, of .expression]],
  ranked (-1) .either .expression [
    all [
      any [one .name, of .qualifiedType, of .genericType, of .arrayType, of .countedType,
        of .sliceType, of .mapType, of .structType],
      of .literal]],
  plain .allocations [type, all [of .allocations, one .comma, of .expression]],
  plain .allocationArguments [grouped (opt (trailed .allocations))],
  plain .argumentList [
    listed .argumentList (one .comma) (all [of .expression, opt (one .ellipsis)])],
  plain .arguments [grouped (opt (trailed .argumentList))],
  plain .literalElement [of .expression, of .literal],
  plain .literalElements [
    listed .literalElements (one .comma)
      (all [of .literalElement, opt (all [one .colon, of .literalElement])])],
  plain .literal [braced (any [opt (one .comma), trailed .literalElements])]]

def rules : List (Rule Category) :=
  fileRules ++ declarationRules ++ typeRules ++ statementRules ++ expressionRules

end Grammar

end FieldBridge.Snippet
