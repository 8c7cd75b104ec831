import Prologue.Grammar.Name

/-!
# Types

The type language of the typed dialects. Types hold no functions and no statements, so all of them
become nodes of one kind.
-/

namespace Prologue.Grammar.Rule

/-- No line break ends the statement behind a type. -/
def typeGoesOn (mode : Mode) : Rule :=
  match mode with
  | .statement => unbroken .other
  | _ => done

def typeOf (mode : Mode) : Rule := goal (.type mode)

/-- A colon and a type. -/
def ascription (mode : Mode) : Rule := sym ":" ++ typeOf mode

def typeArguments : Rule :=
  node .type (symNot "<" ["<<", "<="] ++ commaList (typeOf .inner) ++ sym ">")

/-- Words that may stand in front of a type parameter. -/
def typeParameterMark : Rule :=
  oneOf [kw "const", kw "in", kw "out"] ++ ahead (token (.name ["extends"]))

def typeParameters : Rule :=
  node .type (sym "<" ++
    commas (star typeParameterMark ++ token (.name []) ++ opt (kw "extends" ++ typeOf .inner) ++
      opt (sym "=" ++ typeOf .inner)) ++
    opt (sym ",") ++ sym ">")

/-- Parameters of a function with the type of its result. -/
def signature (dialect : Dialect) (mode : Mode) : Rule :=
  typedOpt dialect typeParameters ++ goal .parameters ++ typedOpt dialect (ascription mode)

/-- The type of a function or of a constructor. -/
def functionType (mode : Mode) : Rule :=
  opt (opt (kw "abstract") ++ kw "new") ++ opt typeParameters ++ goal .parameters ++ sym "=>" ++
    typeOf mode

/-- Words that no type name may have. -/
def reservedTypeNames : List String :=
  reservedWords.filter fun word => !(["null", "true", "false", "this", "void"].contains word)

/-- A template made of types. -/
def templateType : Rule :=
  sym "`" ++
    star (glued .templateText <|>
      glued (.text "$\x7b" []) ++ typeOf .inner ++ sym "\x7d") ++
    glued (.text "`" [])

/-- A member of a tuple, which may have a name and may be optional or a rest. -/
def tupleMember : Rule :=
  opt (sym "...") ++
    (token (.name []) ++ opt (sym "?") ++ ascription .inner <|> typeOf .inner ++ opt (sym "?"))

/-- A type name with arguments. -/
def namedType : Rule :=
  token (.name reservedTypeNames) ++ star (symNot "." ["..."] ++ token (.name [])) ++
    opt typeArguments

/-- What a query of a value's type may name. -/
def queriedValue : Rule :=
  oneOf [kw "import" ++ sym "(" ++ token .string ++ sym ")", token (.name [])] ++
    star (oneOf [symNot "." ["..."] ++ oneOf [token (.name []), token .privateName],
      sym "[" ++ typeOf .inner ++ sym "]"]) ++
    opt typeArguments

/-- Types that start with an operator. -/
def operatorType (mode : Mode) : Rule :=
  oneOf [
    oneOf [kw "keyof", kw "unique", kw "readonly"] ++ goal (.type mode),
    kw "infer" ++ token (.name []) ++ opt (kw "extends" ++ typeOf .inner),
    kw "typeof" ++ queriedValue,
    kw "asserts" ++ token (.name []) ++ opt (kw "is" ++ typeOf mode),
    token (.name []) ++ typeGoesOn mode ++ kw "is" ++ typeOf mode]

def primaryType (mode : Mode) : Rule :=
  oneOf [
    functionType mode,
    operatorType mode,
    kw "import" ++ sym "(" ++ token .string ++ sym ")" ++
      star (symNot "." ["..."] ++ token (.name [])) ++ opt typeArguments,
    namedType,
    sym "(" ++ typeOf .inner ++ sym ")",
    goal .objectType,
    sym "[" ++ commaList tupleMember ++ sym "]",
    templateType,
    token .string,
    opt (sym "-") ++ token .number,
    sym "*",
    sym "?" ++ typeOf mode]

/-- A type with what may follow it in brackets. -/
def arrayType (mode : Mode) : Rule :=
  primaryType mode ++ star (typeGoesOn mode ++ sym "[" ++ opt (typeOf .inner) ++ sym "]")

def unionType (mode : Mode) : Rule :=
  opt (oneOf [sym "|", sym "&"]) ++ arrayType mode ++
    star (oneOf [symNot "|" ["||"], symNot "&" ["&&"]] ++ arrayType mode)

/-- A type, perhaps one that depends on a condition. -/
def typeRule (mode : Mode) : Rule :=
  node .type (unionType mode ++
    opt (typeGoesOn mode ++ kw "extends" ++ unionType .inner ++ sym "?" ++ typeOf .inner ++
      sym ":" ++ typeOf mode))

/-- What ends a member's name, so that the word before it is no modifier. -/
def memberEnd : Rule :=
  oneOf [sym "(", sym "=", sym ";", sym "\x7d", sym ":", sym "?", sym "!", sym ",", sym "<"]

/-- A word in front of a member's name. -/
def modifier (word : String) : Rule := kw word ++ absent memberEnd ++ unbroken .other

/-- An index signature or a mapped member. -/
def indexSignature (mode : Mode) : Rule :=
  opt (oneOf [sym "-", sym "+"]) ++ opt (kw "readonly") ++ sym "[" ++ token (.name []) ++
    oneOf [ascription .inner, kw "in" ++ typeOf .inner ++ opt (kw "as" ++ typeOf .inner)] ++
    sym "]" ++ opt (oneOf [sym "?", sym "-?", sym "+?"]) ++ opt (ascription mode)

/-- A member of an object type. -/
def typeMember (dialect : Dialect) : Rule :=
  oneOf [
    indexSignature .statement,
    kw "new" ++ signature dialect .statement,
    signature dialect .statement,
    star (oneOf [modifier "readonly", modifier "get", modifier "set", modifier "async",
        modifier "static", modifier "public", modifier "private", modifier "protected"]) ++
      propertyName ++ opt (sym "?") ++
      oneOf [signature dialect .statement, opt (ascription .statement)]]

def objectTypeRule (dialect : Dialect) : Rule :=
  let opening := oneOf [sym "\x7b|", sym "\x7b"]
  let closing := oneOf [sym "|\x7d", sym "\x7d"]
  node .type (opening ++ opt (oneOf [sym ",", sym ";"]) ++
    star (typeMember dialect ++ oneOf [sym ",", semicolon .other, ahead closing]) ++ closing)

end Prologue.Grammar.Rule
