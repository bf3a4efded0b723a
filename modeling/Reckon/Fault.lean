/-
# Reckon.Fault — everything that can go wrong

A failure is its cause, with what the cause is about. The wording of every message is in
this module and nowhere else, so that two faults can be compared without comparing texts.
-/
import Reckon.Operator
import Reckon.Value.Basic

namespace Reckon

/-- The operands that an operand may not stand directly before. -/
inductive OperandKind where
  | string | literal | pattern
deriving DecidableEq, Repr

/-- What messages call a kind of operand. -/
def OperandKind.name : OperandKind → String
  | string => "string"
  | literal => "literal"
  | pattern => "regex"

/-- Ways in which the text of a formula or a name is malformed. -/
inductive GrammarFault where
  /-- There is nothing to evaluate. -/
  | empty
  | illegalCharacter (c : Char)
  | unterminatedString
  /-- A string literal with an escape that spells nothing, by its raw body. -/
  | invalidString (raw : String)
  | unterminatedPattern
  | emptyPattern
  /-- A bracket without a partner. -/
  | unterminatedBracket (c : Char)
  | invalidNumber (text : String)
  | unexpectedOperand (kind : OperandKind)
  | unexpectedOperator (op : Operator)
  /-- A closing parenthesis where an operand is due. -/
  | unexpectedClose
  | unexpectedComma
  /-- A selector without anything to select from. -/
  | unexpectedBracket
  | emptySelector
  | unexpectedEnd
  /-- An opening parenthesis without a partner. -/
  | missingClose
  /-- A closing parenthesis without a partner. -/
  | unmatchedClose
  | duplicateParameter (parameter function : String)
  | invalidVariableName (name : String)
  | invalidFunctionName (name : String)
deriving DecidableEq, Repr

/-- The message of a malformed formula. -/
def GrammarFault.message : GrammarFault → String
  | empty => "empty expression"
  | illegalCharacter c => "illegal character '" ++ c.toString ++ "'"
  | unterminatedString => "unterminated string literal"
  | invalidString raw => "invalid string literal '" ++ raw ++ "'"
  | unterminatedPattern => "unterminated regex literal"
  | emptyPattern => "empty regex literal"
  | unterminatedBracket c => "unterminated '" ++ c.toString ++ "'"
  | invalidNumber text => "invalid number '" ++ text ++ "'"
  | unexpectedOperand kind => "unexpected " ++ kind.name ++ " after an operand"
  | unexpectedOperator op => "unexpected operator '" ++ op.symbol ++ "'"
  | unexpectedClose => "unexpected ')'"
  | unexpectedComma => "unexpected ','"
  | unexpectedBracket => "unexpected '['"
  | emptySelector => "invalid array access"
  | unexpectedEnd => "unexpected end of expression"
  | missingClose => "missing closing parenthesis"
  | unmatchedClose => "unexpected closing parenthesis"
  | duplicateParameter parameter function =>
    "duplicate parameter '" ++ parameter ++ "' in " ++ function ++ "()"
  | invalidVariableName name => "invalid variable name '" ++ name ++ "'"
  | invalidFunctionName name => "invalid function name '" ++ name ++ "'"

/-- Ways in which the right side of a match is no pattern. -/
inductive PatternFault where
  /-- A container was given. -/
  | notText (kind : Value.Kind)
  | empty
  | badDelimiter
  /-- The closing delimiter does not occur. -/
  | unclosed (closing : Char)
  | unknownModifier (c : Char)
  /-- The text between the delimiters is refused by the grammar of patterns. -/
  | refused
deriving DecidableEq, Repr

/-- Why a pattern is invalid. A text that the grammar of patterns refuses is marked as such,
without the details. -/
def PatternFault.message : PatternFault → String
  | notText kind => "expected a pattern string, got " ++ kind.name
  | empty => "empty pattern"
  | badDelimiter => "delimiter must not be alphanumeric, backslash or whitespace"
  | unclosed closing => "no ending delimiter '" ++ closing.toString ++ "' found"
  | unknownModifier c => "unknown modifier '" ++ c.toString ++ "'"
  | refused => "<engine>"

/-- Contradictions that code converted from a formula cannot run into, and code put together
by a host can. -/
inductive Inconsistency where
  | missingOperand
  | leftoverValues (count : Nat)
  | prefixUsedAsBinary (op : Operator)
  | notBuiltin (name : String)
  | argumentOutsideCall
  | countWithoutCall
  | vanishedFunction (name : String)
deriving DecidableEq, Repr

/-- The message of a contradiction. -/
def Inconsistency.message : Inconsistency → String
  | missingOperand => "missing operand"
  | leftoverValues count => toString count ++ " values left on the stack"
  | prefixUsedAsBinary op => "prefix operator '" ++ op.symbol ++ "' used as binary"
  | notBuiltin name => "'" ++ name ++ "' is not a built-in"
  | argumentOutsideCall => "argument outside of a call"
  | countWithoutCall => "argument count without a call"
  | vanishedFunction name => "'" ++ name ++ "' is no longer a function"

/-- Everything that can go wrong while a formula is converted or evaluated. -/
inductive Fault where
  | grammar (cause : GrammarFault)
  | arity (name : String) (given expected : Nat)
  | undefinedVariable (name : String)
  | constantReassignment (name : String)
  | undefinedFunction (name : String)
  | builtinRedefinition (name : String)
  | divisionByZero
  | invalidPattern (pattern : String) (cause : PatternFault)
  /-- A selector was applied to something that has no items or members. -/
  | invalidSelector (kind : Value.Kind) (selector : String)
  | invalidJson (text : String)
  /-- An operand without a numeric view, or a container where a scalar is due. -/
  | typeMismatch (operator : String) (operand : Value.Kind)
  | hostFunction (name message : String)
  | recursionLimit (limit : Nat)
  | inconsistent (cause : Inconsistency)
deriving DecidableEq, Repr

/-- The message of a fault. -/
def Fault.message : Fault → String
  | grammar cause => "syntax error: " ++ cause.message
  | arity name given expected =>
    "wrong number of arguments for " ++ name ++ "() (" ++ toString given ++ " given, "
      ++ toString expected ++ " expected)"
  | undefinedVariable name => "undefined variable '" ++ name ++ "'"
  | constantReassignment name => "cannot assign to constant '" ++ name ++ "'"
  | undefinedFunction name => "undefined function '" ++ name ++ "()'"
  | builtinRedefinition name => "cannot redefine built-in function '" ++ name ++ "()'"
  | divisionByZero => "division by zero"
  | invalidPattern pattern cause => "invalid regex " ++ pattern ++ ": " ++ cause.message
  | invalidSelector kind selector =>
    "invalid object for selector: cannot index " ++ kind.name ++ " with " ++ selector
  | invalidJson text => "invalid json " ++ text
  | typeMismatch operator operand =>
    "unsupported operand for '" ++ operator ++ "': " ++ operand.name
  | hostFunction name message => name ++ "() failed: " ++ message
  | recursionLimit limit => "maximum recursion depth of " ++ toString limit ++ " exceeded"
  | inconsistent cause => "internal error: " ++ cause.message

end Reckon
