/-
# Reckon.Proofs.Session.Stages — evaluating an expression in two stages

An expression can be evaluated at once, or converted first and executed then. Evaluation at once
prepares the text twice, for it reads the kind of the statement off the prepared text and
converts that text, and conversion prepares what it is given. The two ways agree as far as the
second preparation changes nothing: on all texts that do not end in a second semicolon.
-/
import Reckon.Proofs.Session.Frame
import Reckon.Proofs.Statement.Preparation

namespace Reckon.Session

/-- Converts an expression, and executes the code if there is any. -/
def convertThenExecute (s : Session) (source : String) : Except Fault Value × Session :=
  match s.convert source with
  | .error e => (.error e, s)
  | .ok code => s.execute code

theorem evaluateExpression_eq (s : Session) (source : String) :
    s.evaluateExpression source
      = ((s.convertThenExecute source).1.map .value, (s.convertThenExecute source).2) := by
  rw [evaluateExpression, convertThenExecute]
  cases s.convert source with
  | error e => rfl
  | ok code => rfl

theorem toValue_map_value (outcome : Except Fault Value) :
    (outcome.map Evaluation.value).map Evaluation.toValue = outcome := by
  cases outcome with
  | error e => rfl
  | ok v => rfl

/-- A text of which preparation leaves nothing cannot be converted. -/
theorem convert_of_prepare_eq_nil {s : Session} {source : String}
    (h : Statement.prepare source.toList = []) : s.convert source = .error (.grammar .empty) := by
  have hscan : Lexeme.scan (String.ofList []) = .ok [] := by
    rw [Lexeme.scan, String.toList_ofList, Lexeme.scanFrom]
    rfl
  rw [convert, Statement.prepareText, h, Code.ofFormula, hscan]
  rfl

theorem convert_prepareText {s : Session} {source : String}
    (h : (Statement.prepare source.toList).getLast? ≠ some ';') :
    s.convert (Statement.prepareText source) = s.convert source := by
  rw [convert, convert, Statement.prepareText, Statement.prepareText, String.toList_ofList,
    Statement.prepare_prepare h]

/-- The same outcome, and the same environment left. -/
def SameResult (x y : Except Fault Value × Session) : Prop :=
  x.1 = y.1 ∧ x.2.environment = y.2.environment

theorem runStatement_of_expression {s : Session} {source text : String}
    (h : Statement.classify (Statement.prepare source.toList) = .expression text) :
    s.runStatement source = s.evaluateExpression (Statement.prepareText source) := by
  have htext := (Statement.classify_eq_expression_iff.1 h).2.2
  rw [runStatement]
  by_cases hempty : (Statement.prepare source.toList).isEmpty = true
  · -- the text of nothing is not converted, but would be refused in the same way
    have hnil : Statement.prepare (Statement.prepareText source).toList = [] := by
      rw [Statement.prepareText, String.toList_ofList, List.isEmpty_iff.1 hempty]
      rfl
    rw [if_pos hempty, evaluateExpression, convert_of_prepare_eq_nil hnil]
  · rw [if_neg hempty, h, htext]
    rfl

/-- An expression is evaluated as its prepared text is converted and executed; and as the text
itself is, if the prepared text ends in no semicolon. -/
theorem evaluate_of_expression {s : Session} {source text : String}
    (h : Statement.classify (Statement.prepare source.toList) = .expression text) :
    SameResult (s.evaluate source) (s.convertThenExecute (Statement.prepareText source)) ∧
      ((Statement.prepare source.toList).getLast? ≠ some ';' →
        SameResult (s.evaluate source) (s.convertThenExecute source)) := by
  have hprepared :
      SameResult (s.evaluate source) (s.convertThenExecute (Statement.prepareText source)) := by
    have hrun := runStatement_of_expression (s := s) h
    rw [evaluateExpression_eq] at hrun
    constructor
    · rw [evaluate_fst, hrun]
      exact toValue_map_value _
    · rw [environment_evaluate, hrun]
  refine ⟨hprepared, fun hend => ?_⟩
  rwa [convertThenExecute, convert_prepareText hend] at hprepared

/-- A text with a semicolon and a line break after it. -/
theorem evaluate_of_expression_ended :
    Statement.classify (Statement.prepare "pi + e ;\n".toList) = .expression "pi + e" ∧
      (Statement.prepare "pi + e ;\n".toList).getLast? ≠ some ';' ∧
      SameResult (evaluate {} "pi + e ;\n") (convertThenExecute {} "pi + e ;\n") := by
  have h : Statement.classify (Statement.prepare "pi + e ;\n".toList) = .expression "pi + e" := by
    decide +kernel
  have hend : (Statement.prepare "pi + e ;\n".toList).getLast? ≠ some ';' := by
    decide +kernel
  exact ⟨h, hend, (evaluate_of_expression h).2 hend⟩

/-- With two semicolons the two ways part: one is dropped in each preparation, and conversion
alone prepares the text only once. -/
theorem evaluate_two_semicolons :
    Statement.classify (Statement.prepare "true;;".toList) = .expression "true;" ∧
      (evaluate {} "true;;").1.map Value.isTruthy = .ok true ∧
      (convertThenExecute {} "true;;").1.map Value.isTruthy
        = .error (.grammar (.illegalCharacter ';')) := by
  decide +kernel

end Reckon.Session
