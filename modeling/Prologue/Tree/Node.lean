import Prologue.Bytes

/-!
# Concrete trees

A node has a kind, the part it plays in its parent, the bytes it covers and its children in source
order. Comments are nodes like any other. Punctuation and keywords leave no node, save the `async`
of a function, which decides whether the function is asynchronous.
-/

namespace Prologue

/-- What a node stands for. -/
inductive Kind where
  -- Whole texts and what is not code
  | program
  | comment
  | htmlComment
  | hashBangLine
  | error
  -- Statements
  | expressionStatement
  | emptyStatement
  | lexicalDeclaration
  | variableDeclaration
  | functionDeclaration
  | generatorFunctionDeclaration
  | functionSignature
  | classDeclaration
  | abstractClassDeclaration
  | importStatement
  | importAlias
  | exportStatement
  | typeAliasDeclaration
  | interfaceDeclaration
  | enumDeclaration
  | ambientDeclaration
  | module
  | internalModule
  | labeledStatement
  | statementBlock
  | ifStatement
  | forStatement
  | forInStatement
  | whileStatement
  | doStatement
  | switchStatement
  | tryStatement
  | withStatement
  | throwStatement
  | returnStatement
  | breakStatement
  | continueStatement
  | debuggerStatement
  -- Functions and classes as expressions
  | functionExpression
  | generatorFunction
  | arrowFunction
  | methodDefinition
  | classExpression
  -- Parts of statements, functions and classes
  | asyncModifier
  | parameters
  | decorator
  | classBody
  | classHeritage
  | fieldDefinition
  | methodSignature
  | staticBlock
  | variableDeclarator
  | enumBody
  | switchCase
  | catchClause
  | clause
  -- Names and patterns
  | identifier
  | propertyIdentifier
  | privateIdentifier
  | computedName
  | objectPattern
  | arrayPattern
  | restPattern
  -- Expressions
  | string
  | template
  | substitution
  | number
  | regex
  | keyword
  | array
  | object
  | pair
  | shorthand
  | spread
  | parenthesized
  | sequence
  | assignment
  | ternary
  | binary
  | unary
  | update
  | yieldExpression
  | awaitExpression
  | member
  | subscript
  | call
  | newExpression
  | arguments
  | nonNull
  | asExpression
  | typeAssertion
  | jsxElement
  | jsxAttribute
  | jsxExpression
  | jsxText
  -- Types
  | type
  deriving DecidableEq, Repr

/-- The part that a node plays in its parent, where it matters. -/
inductive Role where
  | plain
  | name
  | body
  | value
  deriving DecidableEq, Repr

/-- A node of a concrete tree. `start` and `stop` are byte offsets, `stop` excluded. -/
inductive Node where
  | mk (kind : Kind) (role : Role) (start stop : Nat) (children : List Node)

namespace Node

def kind : Node → Kind
  | mk kind _ _ _ _ => kind

def role : Node → Role
  | mk _ role _ _ _ => role

def start : Node → Nat
  | mk _ _ start _ _ => start

def stop : Node → Nat
  | mk _ _ _ stop _ => stop

def children : Node → List Node
  | mk _ _ _ _ children => children

/-- The same node in another part. -/
def withRole (role : Role) : Node → Node
  | mk kind _ start stop children => mk kind role start stop children

instance : Inhabited Node := ⟨mk .error .plain 0 0 []⟩

/-- The first child that plays the given part. -/
def child? (node : Node) (role : Role) : Option Node :=
  node.children.find? (·.role = role)

/-- The bytes that a node covers. -/
def bytes (node : Node) (source : Bytes) : Bytes := source.slice node.start node.stop

/-- Whether one of the children is the keyword `async`. -/
def hasAsync (node : Node) : Bool := node.children.any (·.kind = .asyncModifier)

mutual

/-- A node and all its descendants, parents before children and children in order, each with the
nodes above it, nearest first. -/
def walkUnder (above : List Node) : Node → List (Node × List Node)
  | mk kind role start stop children =>
    let node := mk kind role start stop children
    (node, above) :: walkAllUnder (node :: above) children

/-- The walks of a list of siblings, one after the other. -/
def walkAllUnder (above : List Node) : List Node → List (Node × List Node)
  | [] => []
  | node :: rest => walkUnder above node ++ walkAllUnder above rest

end

/-- All nodes in pre-order, each with the nodes above it, nearest first. -/
def walk (root : Node) : List (Node × List Node) := root.walkUnder []

mutual

/-- Puts notes, which lie between the tokens of a node, into the innermost node around each. -/
def weave (notes : List Node) : Node → Node
  | mk kind role start stop children => mk kind role start stop (weaveAll notes children)

/-- Puts notes among and into siblings: those before a sibling stand in front of it, those that
start inside it go into it. -/
def weaveAll (notes : List Node) : List Node → List Node
  | [] => notes
  | node :: rest =>
    let before := notes.takeWhile (·.start < node.start)
    let later := notes.dropWhile (·.start < node.start)
    let inside := later.takeWhile (·.start < node.stop)
    let after := later.dropWhile (·.start < node.stop)
    before ++ weave inside node :: weaveAll after rest

end

mutual

/-- Whether the tree has a node of the kind. -/
def has (kind : Kind) : Node → Bool
  | mk own _ _ _ children => own = kind || hasAny kind children

/-- Whether one of the trees has a node of the kind. -/
def hasAny (kind : Kind) : List Node → Bool
  | [] => false
  | node :: rest => node.has kind || hasAny kind rest

end

end Node

end Prologue
