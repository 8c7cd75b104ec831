import Prologue.Grammar.Types

/-!
# Patterns and parameters

What may stand on the left of an assignment, in a declaration and in a list of parameters.
-/

namespace Prologue.Grammar.Rule

/-- An equals sign and a value. -/
def byDefault : Rule := symNot "=" ["==", "=>"] ++ goal (.expression .inner)

def pattern : Rule := goal .pattern

/-- A pattern with a default. -/
def patternSlot : Rule := pattern ++ opt byDefault

def restPattern : Rule := node .restPattern (sym "..." ++ pattern)

def objectPattern : Rule :=
  node .objectPattern (sym "\x7b" ++
    slots (oneOf [
      restPattern,
      propertyName ++ sym ":" ++ patternSlot,
      leaf .shorthand (.name []) ++ opt byDefault]) ++
    sym "\x7d")

def arrayPattern : Rule :=
  node .arrayPattern (sym "[" ++ slots (oneOf [restPattern, patternSlot]) ++ sym "]")

def destructuring : Rule := oneOf [objectPattern, arrayPattern]

/-- A name or a pattern that declares names. -/
def binding : Rule := oneOf [identifier, destructuring]

/-- A name with members behind it, which can be assigned to. -/
def memberTarget : Rule :=
  frame (oneOf [identifier, leaf .keyword (.word "this"), leaf .keyword (.word "super")] ++
    star (oneOf [
      symNot "." ["..."] ++ oneOf [anyName, privateName] ++ fold .member,
      sym "[" ++ goal (.expressions .inner) ++ sym "]" ++ fold .subscript]))

def patternRule : Rule := oneOf [destructuring, memberTarget]

/-- A decorator: a name or a call, or any expression in parentheses. -/
def decorator (dialect : Dialect) : Rule :=
  let arguments := node .arguments
    (sym "(" ++ slots (oneOf [node .spread (sym "..." ++ goal (.expression .inner)),
      goal (.expression .inner)]) ++ sym ")")
  node .decorator (sym "@" ++
    frame (oneOf [identifier,
        node .parenthesized (sym "(" ++ goal (.expressions .inner) ++ sym ")")] ++
      star (oneOf [
        symNot "." ["..."] ++ anyName ++ fold .member,
        typedOpt dialect typeArguments ++ arguments ++ fold .call])))

/-- A word in front of a parameter. -/
def parameterModifier (word : String) : Rule :=
  kw word ++ absent (oneOf [sym ",", sym ")", sym ":", sym "=", sym "?"])

def parameter (dialect : Dialect) : Rule :=
  if dialect.typed then
    star (decorator dialect) ++
      star (oneOf [parameterModifier "public", parameterModifier "private",
        parameterModifier "protected", parameterModifier "override",
        parameterModifier "readonly"]) ++
      oneOf [node .restPattern (sym "..." ++ binding), leaf .keyword (.word "this"), binding] ++
      opt (sym "?") ++ opt (ascription .inner) ++ opt byDefault
  else
    oneOf [node .restPattern (sym "..." ++ binding), binding] ++ opt byDefault

def parametersRule (dialect : Dialect) : Rule :=
  node .parameters (sym "(" ++ commaList (parameter dialect) ++ sym ")")

end Prologue.Grammar.Rule
