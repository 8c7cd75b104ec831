import Prologue.Grammar.Rule

/-!
# Names and simple literals

Words that never stand for a name, and the rules for names in their several places: as a value or
binding, as a member of an object or class, and as a private member.
-/

namespace Prologue.Grammar

/-- Words that cannot be used as the name of a value. -/
def reservedWords : List String :=
  ["await", "break", "case", "catch", "class", "const", "continue", "debugger", "default", "delete",
    "do", "else", "extends", "false", "finally", "for", "function", "if", "import", "in",
    "instanceof", "new", "null", "return", "super", "switch", "this", "throw", "true", "try",
    "typeof", "var", "void", "while", "with", "yield"]

namespace Rule

/-- The name of a value. -/
def identifier : Rule := leaf .identifier (.name reservedWords)

/-- Any word, reserved or not. -/
def anyName : Rule := leaf .propertyIdentifier (.name [])

def privateName : Rule := leaf .privateIdentifier .privateName

def stringLiteral : Rule := leaf .string .string

def numberLiteral : Rule := leaf .number .number

/-- The name of a member in brackets. -/
def computedName : Rule :=
  node .computedName (sym "[" ++ goal (.expression .inner) ++ sym "]")

/-- The name of a member of an object, a class or an enumeration. -/
def propertyName : Rule :=
  oneOf [anyName, privateName, stringLiteral, numberLiteral, computedName]

/-- Names with dots between them. -/
def dottedName : Rule := node .member (identifier ++ star (symNot "." ["..."] ++ anyName))

/-- No line break ends the statement here, as far as the mode lets it end. -/
def goesOn (mode : Mode) : Rule :=
  match mode with
  | .statement => unbroken .operand
  | _ => done

end Rule

end Prologue.Grammar
