/-!
# Dialects

The three grammars a source can be read with. They differ in whether types may be written and in
whether markup elements may be written.
-/

namespace Prologue

inductive Dialect where
  | javascript
  | tsx
  | typescript
  deriving DecidableEq, Repr

namespace Dialect

/-- The canonical name of a dialect. -/
def name : Dialect → String
  | javascript => "javascript"
  | tsx => "tsx"
  | typescript => "typescript"

/-- Whether type annotations and type declarations are part of the dialect. -/
def typed : Dialect → Bool
  | javascript => false
  | tsx => true
  | typescript => true

/-- Whether markup elements are part of the dialect. -/
def markup : Dialect → Bool
  | javascript => true
  | tsx => true
  | typescript => false

end Dialect

end Prologue
