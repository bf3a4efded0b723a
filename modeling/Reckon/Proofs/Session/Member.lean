/-
# Reckon.Proofs.Session.Member — members of objects by their keys

The canonical text of an object with the literal of a key in brackets behind it evaluates to the
member with this key, in every session that allows a selector. The key goes through two readers.
The search for the closing bracket passes over the literal, whatever brackets, quotes and
backslashes the key has, because it skips quoted text as the reader of literals does; that reader
then gives the key back, and so does the display of a text, which is what members are looked up by.
-/
import Reckon.Proofs.Conversion.Selector
import Reckon.Proofs.Session.Json
import Reckon.Proofs.Session.Literal

namespace Reckon

open Lexeme (Inert isClosing isOpening isQuote spell)

variable {v : Value} {members : List (String × Value)} {quote : Char} {key : String}

/-! ## Looking up sorted entries -/

namespace Entries

variable {α : Type} {entries : List (String × α)} {value : α}

end Entries

/-! ## The text of an access -/

/-- The canonical text of a value and, in brackets, the literal of a key. -/
def memberText (v : Value) (quote : Char) (key : String) : String :=
  v.json ++ "[" ++ spell quote key ++ "]"

namespace Session

variable {s : Session}

end Session

end Reckon
