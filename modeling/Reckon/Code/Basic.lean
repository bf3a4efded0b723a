/-
# Reckon.Code.Basic — converted formulas

A formula is converted once into *code* and evaluated any number of times. Code is a list of
instructions in the order of evaluation: operands before the operator that takes them. The
contents of a selector are code of their own inside one instruction.
-/
import Reckon.Number.Notation
import Reckon.Operator
import Reckon.Text.Quoted
import Reckon.Value.View

namespace Reckon

/-- What an instruction puts on the stack. -/
inductive Operand where
  | number (x : Float)
  | text (s : String)
  | identifier (name : String)
  /-- A JSON literal, decoded when it is evaluated. -/
  | json (raw : String)
  /-- A pattern with its delimiters and flags. -/
  | pattern (raw : String)
  /-- The value that an identifier had when the function around it was defined. -/
  | value (v : Value)
deriving Inhabited

/-- One step of an evaluation. -/
inductive Instruction where
  | operand (o : Operand)
  | operator (op : Operator)
  /-- Evaluates the contents of a selector. -/
  | selector (body : List Instruction)
  /-- Takes a selector and its target. -/
  | index
  | call (name : String) (count : Nat)
deriving Inhabited

/-- A converted formula. -/
abbrev Code := List Instruction

/-! ## Code on one line -/

/-- An operand as it is shown. -/
def Operand.render : Operand → String
  | number x => String.ofList (Number.plain x)
  | text s => Text.quoted s
  | identifier name => name
  | json raw => raw
  | pattern raw => raw
  | value v => "<" ++ v.display ++ ">"

mutual

/-- An instruction as it is shown. -/
def Instruction.render : Instruction → String
  | .operand o => o.render
  | .operator op => op.symbol
  | .selector body => "[" ++ Code.render body ++ "]"
  | .index => "@["
  | .call name count => name ++ "/" ++ toString count

/-- Code on one line, its instructions separated by spaces. -/
def Code.render : List Instruction → String
  | [] => ""
  | [i] => i.render
  | i :: rest => i.render ++ " " ++ Code.render rest

end

end Reckon
