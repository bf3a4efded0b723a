/-
# Reckon.Proofs.Session.Repetition — an expression evaluated twice

An expression that names no captures gives the same when it is evaluated once more, and the second
evaluation changes nothing any more. The first one may have changed the captures, and may have
stopped half way. But nothing looks at them: not the expression, nor any function that it calls,
for these read nothing but their parameters. So the second evaluation makes the matches that the
first one made. The last of them leaves the captures that the first evaluation left; and without a
match the captures stay as they are, both times.
-/
import Reckon.Proofs.Session.Locality
import Reckon.Proofs.Session.Stages

namespace Reckon

variable {env : Environment} {code : Code}

/-! ## Code -/

/-- Code that reads no captures has the same outcome whatever they are, and then leaves them alone
or leaves the same ones. -/
theorem Environment.Reached.evaluate_captures (h : env.Reached)
    (hreads : ∀ x, code.Reads x → ¬ IsCaptureName x) (captures : Captures) (limit depth : Nat)
    (frame : Frame) :
    (code.evaluate env limit depth frame).1
        = (code.evaluate { env with captures } limit depth frame).1 ∧
      Captures.Linked env.captures captures (code.evaluate env limit depth frame).2
        (code.evaluate { env with captures } limit depth frame).2 := by
  have halike : Machine.Alike env.captures captures env.scope env.scope frame frame code :=
    { names := by
        intro x hx c c' _
        rw [Scope.lookup?, Scope.lookup?, env.scope.value?_of_not_isCaptureName (hreads x hx) c c']
      functions := fun _ _ => rfl }
  exact Machine.runWithin_agree (fun _ _ => h.closed_of_resolve?) limit (limit - depth) frame
    frame code halike env.captures captures (.inl ⟨rfl, rfl⟩)

/-- From the captures that it has left, code does once more what it did. -/
theorem Environment.Reached.evaluate_again (h : env.Reached)
    (hreads : ∀ x, code.Reads x → ¬ IsCaptureName x) (limit depth : Nat) (frame : Frame) :
    code.evaluate { env with captures := (code.evaluate env limit depth frame).2 } limit depth frame
      = code.evaluate env limit depth frame := by
  obtain ⟨houtcome, hlinked⟩ :=
    h.evaluate_captures hreads (code.evaluate env limit depth frame).2 limit depth frame
  refine Prod.ext houtcome.symm ?_
  rcases hlinked with ⟨-, hleft⟩ | hleft
  · exact hleft
  · exact hleft.symm

namespace Session

variable {s : Session} {source : String}

theorem execute_again (h : s.environment.Reached)
    (hreads : ∀ x, code.Reads x → ¬ IsCaptureName x) :
    (s.execute code).2.execute code = s.execute code := by
  have hagain := h.evaluate_again hreads s.settings.recursionLimit 0 .empty
  simp only [execute, hagain]

/-- An expression is converted the second time as it was the first time, as the captures make no
difference to a conversion. -/
theorem convertThenExecute_again (h : s.environment.Reached)
    (hreads : ∀ code, s.convert source = .ok code → ∀ x, code.Reads x → ¬ IsCaptureName x) :
    (s.convertThenExecute source).2.convertThenExecute source = s.convertThenExecute source := by
  cases hconvert : s.convert source with
  | error e =>
      have hrun : s.convertThenExecute source = (.error e, s) := by
        rw [convertThenExecute, hconvert]
      rw [hrun]
      exact hrun
  | ok code =>
      have hrun : s.convertThenExecute source = s.execute code := by
        rw [convertThenExecute, hconvert]
      have hconvert' : (s.execute code).2.convert source = .ok code := hconvert
      rw [hrun, convertThenExecute, hconvert']
      exact execute_again h (hreads code hconvert)

theorem evaluateExpression_again (h : s.environment.Reached)
    (hreads : ∀ code, s.convert source = .ok code → ∀ x, code.Reads x → ¬ IsCaptureName x) :
    (s.evaluateExpression source).2.evaluateExpression source = s.evaluateExpression source := by
  rw [s.evaluateExpression_eq, evaluateExpression_eq, convertThenExecute_again h hreads]

/-! ## The record of a statement -/

/-- The record of the last statement is replaced as a whole. -/
theorem record_record (s : Session) (earlier later : Except Fault Evaluation) :
    (s.record earlier).record later = s.record later := by
  cases earlier with
  | error e => cases later <;> rfl
  | ok result => cases later <;> rfl

/-- No expression looks at the record, or changes it. -/
theorem evaluateExpression_record (s : Session) (earlier : Except Fault Evaluation)
    (source : String) :
    (s.record earlier).evaluateExpression source
      = ((s.evaluateExpression source).1, (s.evaluateExpression source).2.record earlier) := by
  have hconvert : (s.record earlier).convert source = s.convert source := by
    cases earlier <;> rfl
  rw [evaluateExpression, evaluateExpression, hconvert]
  cases s.convert source with
  | error e => rfl
  | ok code => cases earlier <;> rfl

/-! ## Statements -/

/-- An expression in which no capture is named, in selectors neither, has the same outcome when it
is evaluated again right away, and the session stays as the first evaluation has left it: what is
bound, the captures and the record of the last failure. -/
theorem evaluate_twice (settings : Settings) (requests : List Request) {source text : String}
    (hkind : Statement.classify (Statement.prepare source.toList) = .expression text)
    (hreads : ∀ code,
      ((History.start settings).after requests).session.convert text = .ok code →
        ∀ x, code.Reads x → ¬ IsCaptureName x) :
    let s := ((History.start settings).after requests).session
    (s.evaluateStatement source).2.evaluateStatement source = s.evaluateStatement source ∧
      (s.evaluate source).2.evaluate source = s.evaluate source := by
  intro s
  have hreached : s.environment.Reached := ⟨settings, requests, rfl⟩
  have htext : text = Statement.prepareText source :=
    (Statement.classify_eq_expression_iff.1 hkind).2.2
  subst htext
  have hstatement : (s.evaluateStatement source).2.evaluateStatement source
      = s.evaluateStatement source := by
    rw [s.evaluateStatement_eq, evaluateStatement_eq, runStatement_of_expression hkind,
      runStatement_of_expression hkind, evaluateExpression_record,
      evaluateExpression_again hreached hreads, record_record]
  refine ⟨hstatement, ?_⟩
  have hleft : (s.evaluate source).2 = (s.evaluateStatement source).2 := rfl
  rw [hleft, evaluate, hstatement]
  rfl

/-- A match with a variable, after the call of a function that matches. -/
theorem evaluate_twice_matches :
    let requests := [Request.evaluate "f(x) = x =~ /(a+)b/", .setVariable "p" (.text "/y/")]
    let s := ((History.start {}).after requests).session
    Statement.classify (Statement.prepare "f('aab') && 'xy' =~ p;".toList)
        = .expression "f('aab') && 'xy' =~ p" ∧
      (∀ code, s.convert "f('aab') && 'xy' =~ p" = .ok code →
        ∀ x, code.Reads x → ¬ IsCaptureName x) ∧
      (s.evaluateStatement "f('aab') && 'xy' =~ p;").2.evaluateStatement
          "f('aab') && 'xy' =~ p;"
        = s.evaluateStatement "f('aab') && 'xy' =~ p;" ∧
      (s.evaluate "f('aab') && 'xy' =~ p;").2.evaluate "f('aab') && 'xy' =~ p;"
        = s.evaluate "f('aab') && 'xy' =~ p;" := by
  intro requests s
  have hkind : Statement.classify (Statement.prepare "f('aab') && 'xy' =~ p;".toList)
      = .expression "f('aab') && 'xy' =~ p" := by
    decide +kernel
  have hnames : (s.convert "f('aab') && 'xy' =~ p").toOption.map Code.names = some ["p"] := by
    decide +kernel
  have hreads : ∀ code, s.convert "f('aab') && 'xy' =~ p" = .ok code →
      ∀ x, code.Reads x → ¬ IsCaptureName x := by
    intro code hcode x hx
    rw [hcode] at hnames
    have hread : code.names = ["p"] := Option.some.inj hnames
    rw [← Code.mem_names_iff, hread, List.mem_singleton] at hx
    rw [hx, IsCaptureName]
    decide
  exact ⟨hkind, hreads, evaluate_twice {} requests hkind hreads⟩

end Session

end Reckon
