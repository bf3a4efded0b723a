/-
# Reckon.Value.View — a value as a number, a value as a text

Operators convert their operands by two views. The *numeric view* exists for the scalars
only, and for a text only when it spells a decimal number. The *display* exists for every
value: it is the text that a value contributes to a concatenation, and the key it stands for
as a selector.
-/
import Reckon.Json.Printer
import Reckon.Number.Decimal

namespace Reckon.Value

/-- The value as a number: nothing counts as zero, the truth values as zero and one, and a
text as the number it spells. -/
def number? : Value → Option Float
  | null => some 0.0
  | bool b => some (if b then 1.0 else 0.0)
  | number x => some x
  | text s => Number.ofText? s.toList
  | array _ => none
  | object _ => none

/-- The value as a text: nothing and `false` are empty, `true` is `1`, a container is its
canonical JSON. -/
def display : Value → String
  | null => ""
  | bool b => if b then "1" else ""
  | number x => String.ofList (Number.display x)
  | text s => s
  | v@(array _) => v.json
  | v@(object _) => v.json

end Reckon.Value
