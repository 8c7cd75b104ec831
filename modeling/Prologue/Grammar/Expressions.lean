import Prologue.Grammar.Patterns

/-!
# Expressions

Operands, the operators between them, functions and classes as values, and markup elements. An
operand is read with everything that binds tighter than a binary operator; binary operators are
read as one chain, since only the order of the operands matters here.
-/

namespace Prologue.Grammar.Rule

def innerExpression : Rule := goal (.expression .inner)

def spread : Rule := node .spread (sym "..." ++ innerExpression)

def arguments : Rule :=
  node .arguments (sym "(" ++ slots (oneOf [spread, innerExpression]) ++ sym ")")

/-- A template with its substitutions. -/
def template : Rule :=
  node .template (sym "`" ++
    star (glued .templateText <|>
      node .substitution (glued (.text "$\x7b" []) ++ goal (.expressions .inner) ++ sym "\x7d")) ++
    glued (.text "`" []))

def parenthesized (dialect : Dialect) : Rule :=
  node .parenthesized (sym "(" ++ goal (.expressions .inner) ++
    typedOpt dialect (ascription .inner) ++ sym ")")

def array : Rule := node .array (sym "[" ++ slots (oneOf [spread, innerExpression]) ++ sym "]")

/-! ## Functions and classes -/

/-- The word that makes a function asynchronous. -/
def async (mode : Mode) : Rule := leaf .asyncModifier (.word "async") ++ goesOn mode

/-- The block of a function. -/
def functionBody : Rule := role .body (goal .block)

def functionExpression (dialect : Dialect) (mode : Mode) : Rule :=
  let head := opt (async mode) ++ kw "function"
  let tail := opt (role .name identifier) ++ signature dialect .inner ++ functionBody
  oneOf [
    node .generatorFunction (head ++ sym "*" ++ tail),
    node .functionExpression (head ++ tail)]

/-- The body of an arrow: a block or an expression. What could be a block with one label is an
object. -/
def arrowBody (mode : Mode) : Rule :=
  oneOf [
    ahead (sym "\x7b" ++ token (.name []) ++ sym ":") ++ role .body (goal (.expression mode)),
    functionBody,
    role .body (goal (.expression mode))]

def arrow (dialect : Dialect) (mode : Mode) : Rule :=
  let typedSignature :=
    if mode = .branch then typedOpt dialect typeParameters ++ goal .parameters
    else signature dialect .inner
  let tail := oneOf [identifier, typedSignature] ++ sym "=>" ++ arrowBody mode
  oneOf [
    node .arrowFunction (async mode ++ tail),
    node .arrowFunction tail]

/-- A word in front of a method of an object. -/
def methodModifier (word : String) (kind : Option Kind) : Rule :=
  (match kind with
    | some kind => leaf kind (.word word)
    | none => kw word) ++ absent memberEnd

def method (dialect : Dialect) : Rule :=
  node .methodDefinition (
    star (oneOf [methodModifier "async" (some .asyncModifier), methodModifier "get" none,
      methodModifier "set" none, methodModifier "static" none]) ++
    opt (sym "*") ++ role .name propertyName ++ typedOpt dialect (sym "?") ++
    signature dialect .inner ++ functionBody)

def object (dialect : Dialect) : Rule :=
  node .object (sym "\x7b" ++
    slots (oneOf [
      spread,
      node .pair (propertyName ++ sym ":" ++ innerExpression),
      method dialect,
      leaf .shorthand (.name [])]) ++
    sym "\x7d")

/-! ## Operands -/

/-- The name of a member behind a dot. -/
def memberName : Rule := oneOf [anyName, privateName]

/-- Tokens that can follow an expression with type arguments and no call. -/
def instantiationEnd : Rule :=
  oneOf [sym ")", sym "]", sym ",", sym ";", sym ":", sym "\x7d", sym ".", sym "?", sym "="]

/-- What may follow the constructor in `new`, calls apart. -/
def memberLink : Rule :=
  oneOf [
    symNot "." ["..."] ++ memberName ++ fold .member,
    sym "[" ++ goal (.expressions .inner) ++ sym "]" ++ fold .subscript,
    template ++ fold .call]

def optionalMark : Rule :=
  symNot "?." ["?.0", "?.1", "?.2", "?.3", "?.4", "?.5", "?.6", "?.7", "?.8", "?.9"]

/-- What may follow an operand and binds tighter than any operator. -/
def link (dialect : Dialect) : Rule :=
  oneOf [
    memberLink,
    arguments ++ fold .call,
    optionalMark ++ oneOf [
      typedOpt dialect typeArguments ++ arguments ++ fold .call,
      sym "[" ++ goal (.expressions .inner) ++ sym "]" ++ fold .subscript,
      template ++ fold .call,
      memberName ++ fold .member],
    typedOnly dialect (typeArguments ++ oneOf [arguments, template] ++ fold .call),
    typedOnly dialect (typeArguments ++ oneOf [ahead instantiationEnd, absent (token (.name []) <|>
      oneOf [token .string, token .number, sym "(", sym "[", sym "\x7b", sym "<", sym "`", sym "!",
        sym "~", sym "+", sym "-", sym "/", sym "@", sym "#"])] ++ fold .call),
    typedOnly dialect (symNot "!" ["!="] ++ fold .nonNull),
    oneOf [sym "++", sym "--"] ++ fold .update]

/-- The heritage of a class. -/
def heritage (dialect : Dialect) (chain : Rule) : Rule :=
  if dialect.typed then
    opt (node .classHeritage (kw "extends" ++ commas (chain ++ opt typeArguments))) ++
      opt (node .classHeritage (kw "implements" ++ commas (typeOf .inner)))
  else opt (node .classHeritage (kw "extends" ++ chain))

/-- A module of the typed dialects that is an expression. -/
def internalModule (mode : Mode) : Rule :=
  node .internalModule (kw "namespace" ++ goesOn mode ++ oneOf [dottedName, stringLiteral] ++
    opt (goal .block))

/-- Words that stand for a value. -/
def keywordValue : Rule :=
  oneOf (["this", "super", "null", "true", "false"].map fun word => leaf .keyword (.word word))

/-- Operands without what may follow them. The rule for class expressions is handed in, since a
class may extend any operand. -/
def primary (dialect : Dialect) (mode : Mode) (classValue : Rule) : Rule :=
  oneOf [
    stringLiteral,
    numberLiteral,
    arrow dialect mode,
    functionExpression dialect mode,
    goal .construction,
    classValue,
    leaf .keyword (.word "import") ++ ahead (oneOf [sym "(", sym "."]),
    keywordValue,
    typedOnly dialect (internalModule mode),
    identifier,
    parenthesized dialect,
    array,
    object dialect,
    template,
    leaf .regex .regex,
    privateName,
    if dialect.markup then goal .markup else never]

/-- A class as a value. -/
def classExpression (dialect : Dialect) (chain : Rule) : Rule :=
  node .classExpression (star (decorator dialect) ++ kw "class" ++
    opt (role .name (leaf .identifier (.name ("implements" :: reservedWords)))) ++
    typedOpt dialect typeParameters ++ heritage dialect chain ++ goal .classBody)

/-- An operand with everything that follows it, classes apart. -/
def plainChain (dialect : Dialect) : Rule :=
  frame (primary dialect .inner never ++ star (link dialect))

/-- What a class may extend. -/
def parentClass (dialect : Dialect) : Rule :=
  oneOf [plainChain dialect,
    frame (classExpression dialect (plainChain dialect) ++ star (link dialect))]

/-- An operand with everything that follows it and binds tighter than any operator. -/
def chain (dialect : Dialect) (mode : Mode) : Rule :=
  frame (primary dialect mode (classExpression dialect (parentClass dialect)) ++
    star (goesOn mode ++ link dialect))

/-- `new` with a constructor and perhaps arguments. -/
def constructionRule (dialect : Dialect) : Rule :=
  node .newExpression (kw "new" ++ oneOf [
    sym "." ++ kw "target",
    frame (oneOf [goal .construction,
        primary dialect .inner (classExpression dialect (parentClass dialect))] ++
      star (oneOf [memberLink, typedOnly dialect (symNot "!" ["!="] ++ fold .nonNull)])) ++
      typedOpt dialect typeArguments ++ opt arguments])

/-- What an assignment may change. -/
def targets : List Kind :=
  [.identifier, .member, .subscript, .parenthesized, .nonNull, .objectPattern, .arrayPattern]

def assignmentMark : Rule :=
  oneOf (symNot "=" ["==", "=>"] ::
    ["+=", "-=", "*=", "/=", "%=", "^=", "&=", "|=", ">>=", ">>>=", "<<=", "**=", "&&=", "||=",
      "??="].map sym)

def unaryMark : Rule :=
  oneOf [sym "!", sym "~", symNot "-" ["--"], symNot "+" ["++"], kw "typeof", kw "void",
    kw "delete"]

def operandRule (dialect : Dialect) (mode : Mode) : Rule :=
  let operand := goal (.operand mode)
  oneOf [
    node .unary (unaryMark ++ operand),
    node .awaitExpression (kw "await" ++ operand),
    node .update (oneOf [sym "++", sym "--"] ++ operand),
    node .yieldExpression (kw "yield" ++ oneOf [
      sym "*" ++ goal (.expression mode),
      goesOn mode ++ goal (.expression mode),
      done]),
    frame (destructuring ++ symNot "=" ["==", "=>"] ++ goal (.expression mode) ++
      fold .assignment),
    frame (chain dialect mode ++
      opt (lastIs targets ++ assignmentMark ++ goal (.expression mode) ++ fold .assignment)),
    if dialect = .typescript then node .typeAssertion (typeArguments ++ operand) else never]

/-! ## Operators -/

def binaryMark : Rule :=
  oneOf [
    symNot "&&" ["&&="], symNot "||" ["||="], symNot "??" ["??="],
    sym "===", sym "!==", symNot "==" ["==="], symNot "!=" ["!=="],
    symNot "<<" ["<<="], symNot ">>>" [">>>="], symNot ">>" [">>=", ">>>"],
    sym "<=", sym ">=", symNot "<" ["<=", "<<"], symNot ">" [">=", ">>"],
    symNot "+" ["++", "+="], symNot "-" ["--", "-="],
    symNot "**" ["**="], symNot "*" ["**", "*="], symNot "/" ["/="], symNot "%" ["%="],
    symNot "&" ["&&", "&="], symNot "|" ["||", "|="], symNot "^" ["^="],
    kw "instanceof", kw "in"]

/-- The mark of a conditional: a question mark that starts neither `??` nor an optional chain. -/
def conditionalMark : Rule :=
  oneOf [
    symNot "?" ["??", "?."],
    absent optionalMark ++ symNot "?" ["??"]]

def conditional (dialect : Dialect) (mode : Mode) : Rule :=
  conditionalMark ++
    oneOf [
      innerExpression ++ sym ":",
      typedOnly dialect (goal (.expression .branch) ++ sym ":")] ++
    goal (.expression mode) ++ fold .ternary

def expressionRule (dialect : Dialect) (mode : Mode) : Rule :=
  frame (goal (.operand mode) ++
    star (goesOn mode ++ oneOf [
      binaryMark ++ goal (.operand mode) ++ fold .binary,
      conditional dialect mode,
      typedOnly dialect (kw "as" ++ oneOf [kw "const", typeOf .inner] ++ fold .asExpression),
      typedOnly dialect (kw "satisfies" ++ typeOf .inner ++ fold .asExpression)]))

def expressionsRule (mode : Mode) : Rule :=
  frame (goal (.expression mode) ++
    star (sym "," ++ goal (.expression mode) ++ fold .sequence))

/-! ## Markup -/

/-- Names of tags, with members or a namespace. -/
def tagName : Rule :=
  token .markupName ++
    oneOf [sym ":" ++ token .markupName, star (symNot "." ["..."] ++ token .markupName)]

def markupExpression : Rule :=
  node .jsxExpression (sym "\x7b" ++ opt (oneOf [spread, goal (.expressions .inner)]) ++
    sym "\x7d")

def markupAttribute : Rule :=
  oneOf [
    markupExpression,
    node .jsxAttribute (token .markupName ++ opt (sym ":" ++ token .markupName) ++
      opt (sym "=" ++ oneOf [token .markupString, markupExpression, goal .markup]))]

def markupChild : Rule :=
  oneOf [glued .markupText, glued .reference, markupExpression, goal .markup]

def markupRule (dialect : Dialect) : Rule :=
  node .jsxElement (symNot "<" ["</"] ++ oneOf [
    tagName ++ typedOpt dialect typeArguments ++ star markupAttribute ++ oneOf [
      sym "/>",
      sym ">" ++ star markupChild ++ sym "</" ++ tagName ++ sym ">"],
    sym ">" ++ star markupChild ++ sym "</" ++ sym ">"])

end Prologue.Grammar.Rule
