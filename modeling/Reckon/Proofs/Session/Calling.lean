/-
# Reckon.Proofs.Session.Calling — names and calls in a session

What a name stands for is what its text evaluates to, and what is written as a call is converted
to a call. Preparing a text might get in the way of this: it takes line breaks out of the
arguments as well, but it drops a semicolon only at the end of the call. An argument that could
be converted only because a semicolon was dropped from it can therefore not stand in a call.

The arguments of a call are executed from left to right, as if one after the other
(`Session.executeAll`). A function whose body is the name of a parameter gives back the value of
the argument in its place.
-/
import Mathlib.Data.List.Nodup
import Reckon.Proofs.Conversion.Call
import Reckon.Proofs.Expression.Evaluation
import Reckon.Proofs.Session.Stages
import Reckon.Proofs.Statement.Expression

namespace Reckon

open Lexeme (Usable)
open Text (isName isBlank isNameChar)

/-! ## Preparing names and calls -/

namespace Statement

/-- The text ends in a semicolon that its preparation drops. -/
def EndsInSemicolon (source : String) : Prop :=
  (Text.trim (unbroken source.toList)).getLast? = some ';'

/-- A text without its line breaks. -/
def unbrokenText (source : String) : String :=
  String.ofList (unbroken source.toList)

theorem unbroken_append (cs ds : List Char) : unbroken (cs ++ ds) = unbroken cs ++ unbroken ds :=
  List.filter_append cs ds

theorem unbroken_intercalate_comma (css : List (List Char)) :
    unbroken ([','].intercalate css) = [','].intercalate (css.map unbroken) :=
  map_intercalate_of_append rfl unbroken_append [','] css

theorem notBreak_of_mem_name {name : String} (h : isName name.toList = true) :
    ∀ c ∈ name.toList, c ≠ '\r' ∧ c ≠ '\n' := by
  intro c hc
  have hchar := Lexeme.isNameChar_of_mem h c hc
  exact ⟨Text.ne_of_class hchar rfl, Text.ne_of_class hchar rfl⟩

theorem unbroken_name {name : String} (h : isName name.toList = true) :
    unbroken name.toList = name.toList :=
  unbroken_eq_self (notBreak_of_mem_name h)

theorem startsVisibly_name {name : String} (h : isName name.toList = true) :
    Text.StartsVisibly name.toList := by
  intro c hc
  exact Lexeme.isBlank_of_isNameChar (Lexeme.isNameChar_of_mem h c (List.mem_of_mem_head? hc))

/-- Names are prepared as they stand. -/
theorem prepare_name {name : String} (h : isName name.toList = true) :
    prepare name.toList = name.toList := by
  have hchar : ∀ c ∈ name.toList.getLast?, isNameChar c = true := fun c hc =>
    Lexeme.isNameChar_of_mem h c (List.mem_of_getLast? hc)
  apply prepare_eq_self (notBreak_of_mem_name h) (startsVisibly_name h)
  · exact fun c hc => Lexeme.isBlank_of_isNameChar (hchar c hc)
  · exact fun hlast => Text.ne_of_class (hchar ';' hlast) rfl rfl

theorem getLast?_callText (name : String) (args : List String) :
    (callText name args).toList.getLast? = some ')' := by
  rw [toList_callText, ← List.cons_append, ← List.append_assoc, List.getLast?_concat]

/-- Preparing a call takes the line breaks out of its arguments, and does nothing else. -/
theorem prepare_callText {name : String} (h : isName name.toList = true) (args : List String) :
    prepare (callText name args).toList = (callText name (args.map unbrokenText)).toList := by
  have hunbroken : unbroken (callText name args).toList
      = (callText name (args.map unbrokenText)).toList := by
    have hargs : (args.map unbrokenText).map String.toList
        = (args.map String.toList).map unbroken := by
      simp [unbrokenText, Function.comp_def]
    have hcons : ∀ cs, unbroken ('(' :: cs) = '(' :: unbroken cs := fun _ => rfl
    rw [toList_callText, toList_callText, hargs, ← unbroken_intercalate_comma, unbroken_append,
      unbroken_name h, hcons, unbroken_append]
    rfl
  have hlast : (unbroken (callText name args).toList).getLast? = some ')' := by
    rw [hunbroken, getLast?_callText]
  refine (prepare_eq_unbroken ?_ ?_ ?_).trans hunbroken
  · rw [hunbroken, toList_callText]
    cases hname : name.toList with
    | nil =>
        rw [hname] at h
        cases h
    | cons c cs =>
        have hstart := startsVisibly_name h
        rw [hname] at hstart
        exact hstart
  · intro c hc
    rw [hlast] at hc
    cases hc
    rfl
  · rw [hlast]
    decide

end Statement

/-! ## Converting names and calls -/

namespace Session

open Statement (EndsInSemicolon unbrokenText prepare_name prepare_callText)

variable {s : Session} {name source : String} {code : Code}

/-- An argument is converted as it stands, but for its line breaks, unless it ends in a
semicolon. -/
theorem ofFormula_unbrokenText (h : s.convert source = .ok code)
    (hend : ¬ EndsInSemicolon source) :
    Code.ofFormula s.environment.scope.arity? s.settings.recursionLimit (unbrokenText source)
      = .ok code := by
  obtain ⟨ts, p, hscan, hp, hcode⟩ := Code.ofFormula_eq_ok_iff.1 h
  refine Code.ofFormula_eq_ok_iff.2 ⟨ts, p, ?_, hp, hcode⟩
  rw [Lexeme.scan, Statement.prepareText, String.toList_ofList,
    Statement.prepare_eq_trim hend] at hscan
  rw [Lexeme.scan, unbrokenText, String.toList_ofList]
  exact Lexeme.scanFrom_of_trim hscan

/-- A text that preparation leaves alone, and that is one lexeme, is converted to the operand that
this lexeme is. -/
theorem convert_operand (s : Session) {t : Lexeme} {o : Operand}
    (hprepare : Statement.prepare source.toList = source.toList)
    (hscan : Lexeme.scan source = .ok [t]) (ht : t.operand? = some o) :
    s.convert source = .ok [.operand o] := by
  have hreadings : Lexeme.readings s.environment.scope.arity? [t] = [t] := by
    cases t with
    | call name => cases ht
    | _ => rfl
  have hderives : Derives s.environment.scope.arity? s.settings.recursionLimit .primary
      (Lexeme.readings s.environment.scope.arity? [t]) (.operand o) := by
    rw [hreadings]
    exact .operand ht
  rw [convert, Statement.prepareText, hprepare, String.ofList_toList]
  exact Code.ofFormula_eq_ok_iff.2 ⟨_, _, hscan, hderives.loosen (by decide), rfl⟩

/-- The name of a variable is converted to itself. -/
theorem convert_name (s : Session) (h : Usable name) :
    s.convert name = .ok [.operand (.identifier name)] :=
  s.convert_operand (prepare_name h.isName) (Lexeme.scan_eq_identifier_iff.2 (.inl h)) rfl

/-- An argument that can be converted and may stand in a call, and its code. -/
def Converts (s : Session) (arg : String) (code : Code) : Prop :=
  s.convert arg = .ok code ∧ ¬ EndsInSemicolon arg

theorem ofFormula_of_converts {args : List String} {codes : List Code}
    (h : List.Forall₂ s.Converts args codes) :
    List.Forall₂ (fun arg code => Code.ofFormula s.environment.scope.arity?
      s.settings.recursionLimit arg = .ok code) (args.map unbrokenText) codes := by
  rw [List.forall₂_map_left_iff]
  exact h.imp fun arg code h => ofFormula_unbrokenText h.1 h.2

/-- The text of a call is converted to the code of its arguments, and then the call. -/
theorem convert_callText (hname : Usable name) {args : List String} {codes : List Code}
    (harity : s.environment.scope.arity? name = some args.length)
    (hargs : List.Forall₂ s.Converts args codes) :
    s.convert (callText name args) = .ok (codes.flatten ++ [.call name args.length]) := by
  have hformulas := ofFormula_of_converts hargs
  have hlength : (args.map unbrokenText).length = args.length := List.length_map _
  rw [convert, Statement.prepareText, prepare_callText hname.isName, String.ofList_toList,
    Code.ofFormula_callText hname (harity.trans (by rw [hlength])) hformulas, hlength]

/-- A text that can be converted is evaluated by executing its code. -/
theorem evaluate_of_convert (h : s.convert source = .ok code)
    (hend : (Statement.prepare source.toList).getLast? ≠ some ';') :
    SameResult (s.evaluate source) (s.execute code) := by
  have hclassify : Statement.classify (Statement.prepare source.toList)
      = .expression (Statement.prepareText source) := by
    obtain ⟨ts, -, hscan, -⟩ := Code.ofFormula_eq_ok_iff.1 h
    rw [Lexeme.scan, Statement.prepareText, String.toList_ofList] at hscan
    exact Statement.Scannable.classify_eq ⟨true, ts, hscan⟩
  have hrun : s.runStatement source
      = ((s.execute code).1.map .value, (s.execute code).2) := by
    rw [runStatement_of_expression hclassify, evaluateExpression_eq, convertThenExecute,
      convert_prepareText hend, h]
  constructor
  · rw [evaluate_fst, hrun]
    exact toValue_map_value _
  · rw [environment_evaluate, hrun]

end Session

/-! ## Executing names and calls -/

/-- A function whose body is the name of a parameter gives the value of the argument in its
place. -/
theorem Expression.evaluate_call_parameter {scope : Scope} {limit depth : Nat} {frame : Frame}
    {f : UserFunction} {name p : String} {i : Nat} {args : List Expression}
    (hresolve : scope.resolve? name = some (.user f)) (hdepth : depth < limit)
    (hargs : args.length = f.arity) (hbody : f.body = [.operand (.identifier p)])
    (hnodup : f.parameters.Nodup) (hp : f.parameters[i]? = some p) :
    (Expression.call name args).evaluate scope limit depth frame
      = Expression.evaluateAll scope limit depth frame args >>= fun vs => pure (vs.getD i .null) := by
  rw [evaluate]
  apply evaluateAll_bind_congr args
  intro vs hvs
  have htree : f.body.tree? = some (.operand (.identifier p)) := by
    rw [hbody]
    exact tree?_postorder (.operand (.identifier p))
  obtain ⟨hi, rfl⟩ := List.getElem?_eq_some_iff.1 hp
  have hlast : f.parameters[i] ∉ f.parameters.drop (i + 1) := by
    rw [← List.take_append_drop (i + 1) f.parameters, List.nodup_append] at hnodup
    have hmem : f.parameters[i] ∈ f.parameters.take (i + 1) := by
      rw [List.mem_take_iff_getElem]
      exact ⟨i, by omega, rfl⟩
    intro hdrop
    exact hnodup.2.2 _ hmem _ hdrop rfl
  have hframe : (f.frame vs).get? f.parameters[i] = some (vs.getD i .null) := by
    have hlt : i < vs.length := by
      rw [hvs, hargs]
      exact hi
    rw [f.get?_frame vs hi (hvs.trans hargs) hlast, List.getD_eq_getElem?_getD,
      List.getElem?_eq_getElem hlt]
    rfl
  have harity : ¬ args.length ≠ (Callee.user f).arity := fun h => h hargs
  rw [hresolve]
  dsimp only
  rw [if_neg harity, dif_pos hdepth, htree]
  dsimp only
  rw [evaluate, Machine.load, hframe]

namespace Session

variable {s : Session}

/-- The session with other captures. -/
def withCaptures (s : Session) (captures : Captures) : Session :=
  { s with environment := { s.environment with captures } }

/-- Executing the code of a tree evaluates the tree. -/
theorem execute_postorder (s : Session) (e : Expression) :
    let r := (e.evaluate s.environment.scope s.settings.recursionLimit 0 .empty).run
      s.environment.captures
    s.execute e.postorder = (r.1, s.withCaptures r.2) := by
  intro r
  have hrun : Code.evaluate s.environment s.settings.recursionLimit 0 .empty e.postorder = r := by
    rw [Code.evaluate, Expression.run_postorder]
  rw [execute, hrun]
  rfl

/-- A text that is one operand evaluates to what the operand is loaded as. -/
theorem evaluate_operand (s : Session) {source : String} {t : Lexeme} {o : Operand} {v : Value}
    (hprepare : Statement.prepare source.toList = source.toList)
    (hlast : source.toList.getLast? ≠ some ';') (hscan : Lexeme.scan source = .ok [t])
    (ht : t.operand? = some o)
    (hload : Machine.loadOutcome s.environment.scope .empty s.environment.captures o = .ok v) :
    SameResult (s.evaluate source) (.ok v, s) := by
  have hexecute : s.execute [.operand o] = (.ok v, s) := by
    have hpostorder := s.execute_postorder (.operand o)
    rw [Expression.evaluate, Machine.load_run, hload] at hpostorder
    exact hpostorder
  rw [← hexecute]
  refine evaluate_of_convert (s.convert_operand hprepare hscan ht) ?_
  rwa [hprepare]

/-- Executes codes one after the other, up to the first that fails. -/
def executeAll (s : Session) : List Code → Except Fault (List Value) × Session
  | [] => (.ok [], s)
  | code :: codes =>
    match s.execute code with
    | (.error e, s) => (.error e, s)
    | (.ok v, s) =>
      let (outcome, s) := s.executeAll codes
      (outcome.map (v :: ·), s)

/-- Executing the codes of trees evaluates the trees. -/
theorem executeAll_postorder (s : Session) (es : List Expression) :
    let r := (Expression.evaluateAll s.environment.scope s.settings.recursionLimit 0 .empty es).run
      s.environment.captures
    s.executeAll (es.map Expression.postorder) = (r.1, s.withCaptures r.2) := by
  induction es generalizing s with
  | nil =>
      rw [Expression.evaluateAll]
      rfl
  | cons e es ih =>
      intro r
      have hexecute := s.execute_postorder e
      rcases hrun : (e.evaluate s.environment.scope s.settings.recursionLimit 0 .empty).run
        s.environment.captures with ⟨fault | v, left⟩
      · rw [hrun] at hexecute
        have hr : r = (.error fault, left) := by
          simp only [r, Expression.evaluateAll]
          rw [Run.run_bind_of_error hrun]
        rw [hr, List.map_cons, executeAll, hexecute]
      · rw [hrun] at hexecute
        have hrest := ih (s.withCaptures left)
        dsimp only [withCaptures] at hrest
        have hr : r = (((Expression.evaluateAll s.environment.scope s.settings.recursionLimit 0
            .empty es).run left).1.map (v :: ·), ((Expression.evaluateAll s.environment.scope
            s.settings.recursionLimit 0 .empty es).run left).2) := by
          simp only [r, Expression.evaluateAll]
          rw [Run.run_bind_of_ok hrun, Run.run_bind_pure]
        rw [hr, List.map_cons, executeAll, hexecute]
        dsimp only [withCaptures]
        rw [hrest]

theorem length_of_executeAll {codes : List Code} {vs : List Value} {s' : Session}
    (h : s.executeAll codes = (.ok vs, s')) : vs.length = codes.length := by
  induction codes generalizing s vs s' with
  | nil =>
      cases h
      rfl
  | cons code codes ih =>
      rw [executeAll] at h
      split at h
      · cases h
      · rename_i v left hexecute
        rcases hrest : left.executeAll codes with ⟨fault | ws, last⟩
        · rw [hrest] at h
          cases h
        · rw [hrest] at h
          cases h
          rw [List.length_cons, List.length_cons, ih hrest]

/-- Executing the call of a function whose body is the name of a parameter executes the arguments
and takes the value in the place of the parameter. -/
theorem execute_call_parameter {f : UserFunction} {name p : String} {i : Nat} {ps : List Phrase}
    (hresolve : s.environment.scope.resolve? name = some (.user f))
    (hlimit : 0 < s.settings.recursionLimit) (hargs : ps.length = f.arity)
    (hbody : f.body = [.operand (.identifier p)]) (hnodup : f.parameters.Nodup)
    (hp : f.parameters[i]? = some p) :
    let r := s.executeAll (ps.map Phrase.code)
    s.execute ((ps.map Phrase.code).flatten ++ [.call name ps.length])
      = (r.1.map fun vs => vs.getD i .null, r.2) := by
  have hcode : (ps.map Phrase.code).flatten ++ [.call name ps.length]
      = (Expression.call name (ps.map Phrase.expression)).postorder := by
    rw [← Phrase.code_call, Phrase.code, Phrase.expression, Phrase.expressions_eq_map]
  have hcodes : ps.map Phrase.code = (ps.map Phrase.expression).map Expression.postorder := by
    rw [List.map_map]
    rfl
  have hlength : (ps.map Phrase.expression).length = f.arity :=
    (List.length_map _).trans hargs
  intro r
  have hr : r = _ := (congrArg s.executeAll hcodes).trans (s.executeAll_postorder _)
  rw [hcode, execute_postorder,
    Expression.evaluate_call_parameter hresolve hlimit hlength hbody hnodup hp,
    Run.run_bind_pure, hr]

/-- The text evaluates to what the code in one place executes to, if all of the codes are executed
one after the other; or to the fault of the first one that fails. -/
def ReturnsArgument (s : Session) (i : Nat) (codes : List Code) (source : String) : Prop :=
  match s.executeAll codes with
  | (.ok vs, s') => ∃ v, vs[i]? = some v ∧ SameResult (s.evaluate source) (.ok v, s')
  | (.error e, s') => SameResult (s.evaluate source) (.error e, s')

/-- A call of a function whose body is the name of a parameter returns the value of the argument in
its place. -/
theorem returnsArgument_callText {f : UserFunction} {name p : String} {i : Nat}
    {args : List String} {codes : List Code} (hname : Usable name)
    (hargs : List.Forall₂ s.Converts args codes)
    (hresolve : s.environment.scope.resolve? name = some (.user f))
    (harity : args.length = f.arity) (hlimit : 0 < s.settings.recursionLimit)
    (hbody : f.body = [.operand (.identifier p)]) (hnodup : f.parameters.Nodup)
    (hp : f.parameters[i]? = some p) : s.ReturnsArgument i codes (callText name args) := by
  have hcount : s.environment.scope.arity? name = some args.length := by
    rw [Scope.arity?, hresolve, harity]
    rfl
  have hlast : (Statement.prepare (callText name args).toList).getLast? ≠ some ';' := by
    rw [Statement.prepare_callText hname.isName, Statement.getLast?_callText]
    decide
  have hevaluate : SameResult (s.evaluate (callText name args))
      (s.execute (codes.flatten ++ [.call name args.length])) :=
    evaluate_of_convert (convert_callText hname hcount hargs) hlast
  have hlength : args.length = codes.length := hargs.length_eq
  obtain ⟨parts, -, -, hcodes⟩ := Code.exists_parts_of_ofFormula (ofFormula_of_converts hargs)
  have hparts : (parts.map Prod.snd).length = f.arity := by
    rw [← harity, hlength, hcodes, List.length_map Phrase.code]
  have hexecute : s.execute (codes.flatten ++ [.call name args.length])
      = ((s.executeAll codes).1.map fun vs => vs.getD i .null, (s.executeAll codes).2) := by
    rw [harity, ← hparts, hcodes]
    exact execute_call_parameter hresolve hlimit hparts hbody hnodup hp
  rw [hexecute] at hevaluate
  rw [ReturnsArgument]
  rcases hall : s.executeAll codes with ⟨e | vs, s'⟩
  · rw [hall] at hevaluate
    exact hevaluate
  · rw [hall] at hevaluate
    have hi : i < vs.length := by
      rw [length_of_executeAll hall, ← hlength, harity]
      exact (List.getElem?_eq_some_iff.1 hp).1
    refine ⟨vs[i], List.getElem?_eq_getElem hi, ?_⟩
    have hvalue : vs.getD i .null = vs[i] := by
      rw [List.getD_eq_getElem?_getD, List.getElem?_eq_getElem hi, Option.getD_some]
    rw [← hvalue]
    exact hevaluate

end Session

end Reckon
