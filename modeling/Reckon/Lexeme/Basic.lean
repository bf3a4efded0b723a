/-
# Reckon.Lexeme.Basic — the lexical tokens of formulas

A formula is a sequence of lexemes. What a lexeme is can depend on its place: where an
operand is due, `/` opens a pattern and `[` or `{` a JSON literal; after an operand, `/`
divides and `[` opens a selector, whose contents are kept as raw text.
-/
import Reckon.Operator

namespace Reckon

/-- A lexical token. -/
inductive Lexeme where
  | number (x : Float)
  /-- A string literal, with its escapes resolved. -/
  | text (s : String)
  /-- A JSON literal, undecoded. -/
  | json (raw : String)
  /-- A pattern literal with its slashes and flags. -/
  | pattern (raw : String)
  | identifier (name : String)
  /-- A name directly followed by an opening parenthesis, which belongs to the lexeme. -/
  | call (name : String)
  | operator (op : Operator)
  | openParen
  | closeParen
  | comma
  /-- The contents of a selector. -/
  | index (raw : String)

namespace Lexeme

/-- Whether an operand is complete after the lexeme, so that an operator or a selector can
follow. -/
def endsOperand : Lexeme → Bool
  | number _ | text _ | json _ | pattern _ | identifier _ | closeParen | index _ => true
  | call _ | operator _ | openParen | comma => false

end Lexeme

end Reckon
