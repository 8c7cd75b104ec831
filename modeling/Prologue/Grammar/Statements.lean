import Prologue.Grammar.Classes

/-!
# Statements

Declarations, imports and exports, and control flow. A statement that a semicolon ends holds that
semicolon; where it is implied, the statement holds the comments in front of it.
-/

namespace Prologue.Grammar.Rule

def statement : Rule := goal .statement

/-- A list of statements. -/
def statements : Rule := star (htmlComments ++ statement) ++ htmlComments

def blockRule : Rule :=
  node .statementBlock (sym "\x7b" ++ statements ++ sym "\x7d" ++ settled)

/-! ## Declarations -/

def functionDeclaration (dialect : Dialect) : Rule :=
  let head := opt (async .statement) ++ kw "function"
  let tail := role .name identifier ++ signature dialect .inner
  oneOf [
    node .generatorFunctionDeclaration (head ++ sym "*" ++ tail ++ functionBody),
    frame (head ++ tail ++ oneOf [
      functionBody ++ fold .functionDeclaration,
      typedOnly dialect (semicolon .signature ++ fold .functionSignature)])]

/-- What follows the word `class` in a declaration. -/
def classRest (dialect : Dialect) : Rule :=
  kw "class" ++ role .name identifier ++ typedOpt dialect typeParameters ++
    heritage dialect (chain dialect .inner) ++ goal .classBody

def classDeclaration (dialect : Dialect) : Rule :=
  node .classDeclaration (star (decorator dialect) ++ classRest dialect ++ settled)

def declarator (dialect : Dialect) (mode : Mode) : Rule :=
  node .variableDeclarator (role .name binding ++
    typedOpt dialect (symNot "!" ["!="]) ++ typedOpt dialect (ascription mode) ++
    opt (symNot "=" ["==", "=>"] ++ role .value (goal (.expression mode))))

/-- The end of a declaration of variables, after its last declarator. -/
def declarationStop : Rule :=
  oneOf [lastHas .value ++ semicolon .operand, semicolon .other]

def lexicalDeclaration (dialect : Dialect) : Rule :=
  node .lexicalDeclaration (oneOf [kw "const", kw "let" ++ unbroken .operand] ++
    commas (declarator dialect .statement) ++ declarationStop)

def variableDeclaration (dialect : Dialect) : Rule :=
  node .variableDeclaration (kw "var" ++ commas (declarator dialect .statement) ++ declarationStop)

/-! ## Declarations of the typed dialects -/

def abstractClass (dialect : Dialect) : Rule :=
  node .abstractClassDeclaration (star (decorator dialect) ++ kw "abstract" ++ classRest dialect)

def moduleDeclaration : Rule :=
  node .module (kw "module" ++ unbroken .operand ++ oneOf [dottedName, stringLiteral] ++
    opt (goal .block))

def typeAlias : Rule :=
  node .typeAliasDeclaration (kw "type" ++ unbroken .operand ++ role .name anyName ++
    opt typeParameters ++ sym "=" ++ typeOf .statement ++ semicolon .other)

def interface : Rule :=
  node .interfaceDeclaration (kw "interface" ++ role .name identifier ++ opt typeParameters ++
    opt (kw "extends" ++ commas (typeOf .inner)) ++ goal .objectType)

def enumeration : Rule :=
  node .enumDeclaration (opt (kw "const") ++ kw "enum" ++ role .name identifier ++
    node .enumBody (sym "\x7b" ++
      commaList (propertyName ++ opt (sym "=" ++ innerExpression)) ++ sym "\x7d"))

def importAlias : Rule :=
  node .importAlias (kw "import" ++ identifier ++ sym "=" ++ dottedName ++ semicolon .other)

def typedDeclaration (dialect : Dialect) : Rule :=
  oneOf [abstractClass dialect, moduleDeclaration, typeAlias, interface, enumeration, importAlias]

/-- Declarations other than ambient ones. -/
def plainDeclaration (dialect : Dialect) : Rule :=
  oneOf [
    typedOnly dialect enumeration,
    functionDeclaration dialect,
    classDeclaration dialect,
    lexicalDeclaration dialect,
    variableDeclaration dialect,
    typedOnly dialect (typedDeclaration dialect)]

def ambientDeclaration (dialect : Dialect) : Rule :=
  node .ambientDeclaration (kw "declare" ++ unbroken .operand ++ oneOf [
    plainDeclaration dialect,
    internalModule .inner,
    kw "global" ++ goal .block,
    kw "module" ++ sym "." ++ anyName ++ ascription .statement ++ semicolon .other])

def declaration (dialect : Dialect) : Rule :=
  oneOf [plainDeclaration dialect, typedOnly dialect (ambientDeclaration dialect)]

/-! ## Imports and exports -/

def moduleSource : Rule := kw "from" ++ stringLiteral

/-- Attributes of an import. -/
def importAttributes (dialect : Dialect) : Rule :=
  opt (oneOf [kw "with", kw "assert"] ++ object dialect)

/-- A name that a module exports. -/
def exportedName : Rule := oneOf [anyName, stringLiteral]

/-- One name in the braces of an import or an export. -/
def specifier (dialect : Dialect) : Rule :=
  let stop := ahead (oneOf [sym ",", sym "\x7d"])
  let named := exportedName ++ opt (kw "as" ++ exportedName) ++ stop
  oneOf [named, typedOnly dialect (oneOf [kw "type", kw "typeof"] ++ named)]

def specifiers (dialect : Dialect) : Rule :=
  node .clause (sym "\x7b" ++ commaList (specifier dialect) ++ sym "\x7d")

def importClause (dialect : Dialect) : Rule :=
  let several := oneOf [sym "*" ++ kw "as" ++ identifier, specifiers dialect]
  oneOf [several, identifier ++ opt (sym "," ++ several)]

def importStatement (dialect : Dialect) : Rule :=
  let body := oneOf [
    importClause dialect ++ moduleSource,
    typedOnly dialect
      (identifier ++ sym "=" ++ kw "require" ++ sym "(" ++ stringLiteral ++ sym ")"),
    stringLiteral]
  node .importStatement (kw "import" ++
    oneOf [body, typedOnly dialect (oneOf [kw "type", kw "typeof"] ++ body)] ++
    importAttributes dialect ++ semicolon .other)

/-- The front of a function or class with a name. No expression that stands for a statement begins
so: it would differ from a declaration in nothing. -/
def namedFront : Rule :=
  oneOf [
    opt (async .statement) ++ kw "function" ++ opt (sym "*") ++ identifier,
    kw "class" ++ leaf .identifier (.name ("implements" :: "extends" :: reservedWords))]

def exportBody (dialect : Dialect) : Rule :=
  let source := moduleSource ++ importAttributes dialect
  oneOf [
    sym "*" ++ opt (kw "as" ++ exportedName) ++ source ++ semicolon .other,
    specifiers dialect ++ opt source ++ semicolon .other,
    kw "default" ++ oneOf [
      declaration dialect,
      absent namedFront ++ goal (.expression .statement) ++ semicolon .operand],
    typedOnly dialect (oneOf [
      kw "type" ++ oneOf [sym "*" ++ opt (kw "as" ++ exportedName) ++ source,
        specifiers dialect ++ opt source] ++ semicolon .other,
      sym "=" ++ goal (.expressions .statement) ++ semicolon .operand,
      kw "as" ++ kw "namespace" ++ identifier ++ semicolon .other,
      internalModule .inner]),
    declaration dialect]

def exportStatement (dialect : Dialect) : Rule :=
  node .exportStatement (star (decorator dialect) ++ kw "export" ++ unbroken .operand ++
    exportBody dialect)

/-! ## Control flow -/

def condition (dialect : Dialect) : Rule := parenthesized dialect

def forHeader (dialect : Dialect) : Rule :=
  sym "(" ++ oneOf [
    oneOf [kw "var", kw "let", kw "const"] ++ binding ++ typedOpt dialect (ascription .inner),
    pattern,
    parenthesized dialect] ++ oneOf [kw "in", kw "of"] ++ goal (.expressions .inner) ++ sym ")"

def forDeclaration (dialect : Dialect) : Rule :=
  let list := commas (declarator dialect .inner) ++ sym ";"
  oneOf [
    node .lexicalDeclaration (oneOf [kw "let", kw "const"] ++ list),
    node .variableDeclaration (kw "var" ++ list)]

def forStatement (dialect : Dialect) : Rule :=
  oneOf [
    node .forInStatement (kw "for" ++ opt (kw "await") ++ forHeader dialect ++ statement),
    node .forStatement (kw "for" ++ sym "(" ++
      oneOf [forDeclaration dialect, opt (goal (.expressions .inner)) ++ sym ";"] ++
      opt (goal (.expressions .inner)) ++ sym ";" ++ opt (goal (.expressions .inner)) ++ sym ")" ++
      statement)]

def switchStatement (dialect : Dialect) : Rule :=
  node .switchStatement (kw "switch" ++ condition dialect ++ sym "\x7b" ++
    star (node .switchCase (oneOf [
      kw "case" ++ goal (.expressions .inner) ++ sym ":" ++ statements,
      kw "default" ++ sym ":" ++ statements])) ++
    sym "\x7d")

def tryStatement (dialect : Dialect) : Rule :=
  node .tryStatement (kw "try" ++ goal .block ++
    opt (node .catchClause (kw "catch" ++
      opt (sym "(" ++ binding ++ typedOpt dialect (ascription .inner) ++ sym ")") ++
      goal .block)) ++
    opt (node .catchClause (kw "finally" ++ goal .block)))

/-- A jump to a label. -/
def jump (kind : Kind) (word : String) : Rule :=
  node kind (kw word ++ opt (unbroken .other ++ identifier) ++ semicolon .other)

def controlStatement (dialect : Dialect) : Rule :=
  oneOf [
    node .ifStatement (kw "if" ++ condition dialect ++ statement ++ opt (kw "else" ++ statement)),
    forStatement dialect,
    node .whileStatement (kw "while" ++ condition dialect ++ statement),
    node .doStatement (kw "do" ++ statement ++ kw "while" ++ condition dialect ++
      opt (semicolon .other)),
    switchStatement dialect,
    tryStatement dialect,
    node .withStatement (kw "with" ++ condition dialect ++ statement),
    jump .breakStatement "break",
    jump .continueStatement "continue",
    node .returnStatement (kw "return" ++ oneOf [
      unbroken .other ++ goal (.expressions .statement) ++ semicolon .operand,
      semicolon .other]),
    node .throwStatement (kw "throw" ++ goal (.expressions .statement) ++ semicolon .operand),
    node .debuggerStatement (kw "debugger" ++ semicolon .other)]

def expressionStatement : Rule :=
  node .expressionStatement (absent namedFront ++ goal (.expressions .statement) ++
    semicolon .operand)

def statementRule (dialect : Dialect) : Rule :=
  oneOf [
    node .emptyStatement (sym ";"),
    -- What could be a block with one label is an object.
    ahead (sym "\x7b" ++ token (.name []) ++ sym ":") ++ expressionStatement,
    goal .block,
    controlStatement dialect,
    exportStatement dialect,
    importStatement dialect,
    declaration dialect,
    node .labeledStatement (token (.name reservedWords) ++ sym ":" ++ statement),
    expressionStatement]

end Prologue.Grammar.Rule
