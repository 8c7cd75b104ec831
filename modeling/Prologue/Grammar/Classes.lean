import Prologue.Grammar.Expressions

/-!
# Class bodies
-/

namespace Prologue.Grammar.Rule

/-- The end of a member without a body. -/
def memberStop (dialect : Dialect) (context : Context) : Rule :=
  oneOf [semicolon context, typedOnly dialect (sym ",")]

/-- Words in front of a member's name. -/
def memberModifier (dialect : Dialect) : Rule :=
  let words :=
    if dialect.typed then
      ["static", "get", "set", "public", "private", "protected", "readonly", "override",
        "abstract", "declare", "accessor"]
    else ["static", "get", "set", "accessor"]
  oneOf ((leaf .asyncModifier (.word "async") ++ absent memberEnd ++ unbroken .other) ::
    words.map modifier)

def classMember (dialect : Dialect) : Rule :=
  oneOf [
    sym ";",
    node .staticBlock (kw "static" ++ goal .block),
    typedOnly dialect (star (oneOf [modifier "static", modifier "readonly"]) ++
      indexSignature .statement ++ memberStop dialect .other),
    frame (star (decorator dialect) ++ star (memberModifier dialect) ++ opt (sym "*") ++
      role .name propertyName ++ typedOpt dialect (oneOf [sym "?", symNot "!" ["!="]]) ++
      oneOf [
        signature dialect .statement ++ oneOf [
          functionBody ++ fold .methodDefinition,
          typedOnly dialect (memberStop dialect .signature ++ fold .methodSignature)],
        typedOpt dialect (ascription .statement) ++ oneOf [
          sym "=" ++ role .value (goal (.expression .statement)) ++ memberStop dialect .operand,
          memberStop dialect .other] ++ fold .fieldDefinition])]

def classBodyRule (dialect : Dialect) : Rule :=
  node .classBody (sym "\x7b" ++ star (classMember dialect) ++ sym "\x7d")

end Prologue.Grammar.Rule
