import GroovyLowering.Lower.Unit
import GroovyLowering.Proofs.Step

/-!
# What a sink holds

A sink is handed records, and trees to lower.  Its records are those of the failures, in the order
they came: the records handed to it, and one for each tree that was refused.  Nothing that is in
the sink is ever changed (`ErrorSink.run_errors`, `ErrorSink.run_prefix`).

What a call answers depends on the tree and on what the parser reported, and not on the sink.  The
first syntax error is relayed, wherever it stands among the notices.  Without one, the answer is
that of the tree alone (`Call.Answers`).
-/

namespace GroovyLowering

/-! ## Calls and their answers -/

/-- Not an error in the source. -/
def ParserDiagnostic.IsNotice (d : ParserDiagnostic) : Prop :=
  ∀ message line column, d ≠ .syntaxError message line column

/-- What is asked of a sink. -/
inductive SinkCall where
  /-- Add a record. -/
  | add (record : ErrorRecord)
  /-- Lower what a parser hands over. -/
  | lower (options : LowerOptions) (file : ParsedFile)

/-- What a call gives back. -/
inductive SinkAnswer where
  /-- Nothing: the record was added. -/
  | added (record : ErrorRecord)
  /-- The result of a lowering. -/
  | lowered (result : Lowered CompilationUnit)

/-- The record that a call leaves in the sink. -/
def SinkAnswer.record? : SinkAnswer → Option ErrorRecord
  | .added record => some record
  | .lowered (.error e) => some ⟨e.message, e.span⟩
  | .lowered (.ok _) => none

/-- The answer that a call should have.  A syntax error is relayed if only notices are in front of
it, and without any the tree is lowered as if the parser had reported nothing. -/
inductive SinkCall.Answers : SinkCall → SinkAnswer → Prop
  | add {record : ErrorRecord} : Answers (.add record) (.added record)
  | relay {options : LowerOptions} {file : ParsedFile} {before after : List ParserDiagnostic}
      {message : String} {line column : Nat} :
      file.diagnostics = before ++ .syntaxError message line column :: after →
      (∀ d ∈ before, d.IsNotice) →
      Answers (.lower options file)
        (.lowered (.error (.relayed message (.point line (column + 1)))))
  | tree {options : LowerOptions} {file : ParsedFile} : (∀ d ∈ file.diagnostics, d.IsNotice) →
      Answers (.lower options file) (.lowered (GroovyLowering.lower options ⟨file.root, []⟩))

namespace ErrorSink

/-- Carry out a call. -/
def perform (sink : ErrorSink) : SinkCall → SinkAnswer × ErrorSink
  | .add record => (.added record, sink.add record)
  | .lower options file =>
    let (result, sink) := sink.lower options file
    (.lowered result, sink)

/-- Carry out calls one after the other. -/
def run (sink : ErrorSink) : List SinkCall → List SinkAnswer × ErrorSink
  | [] => ([], sink)
  | call :: rest =>
    let (answer, sink) := sink.perform call
    let (answers, sink) := sink.run rest
    (answer :: answers, sink)

end ErrorSink

/-! ## Diagnostics -/

theorem ParserDiagnostic.IsNotice.error?_eq {d : ParserDiagnostic} (h : d.IsNotice) :
    d.error? = none := by
  cases d with
  | syntaxError message line column => exact absurd rfl (h message line column)
  | _ => rfl

/-- A list of diagnostics has a first syntax error, or notices only. -/
theorem exists_syntaxError_or_notices (ds : List ParserDiagnostic) :
    (∃ before message line column after,
      ds = before ++ .syntaxError message line column :: after ∧ ∀ d ∈ before, d.IsNotice) ∨
    ∀ d ∈ ds, d.IsNotice := by
  have hone : ∀ d ∈ ds, d.IsNotice ∨
      ∃ message line column, d = .syntaxError message line column := by
    intro d _
    cases d with
    | syntaxError message line column => exact .inr ⟨message, line, column, rfl⟩
    | _ => exact .inl nofun
  rcases forall_or_exists_first hone with
    hall | ⟨before, d, after, heq, hbefore, message, line, column, rfl⟩
  · exact .inr hall
  · exact .inl ⟨before, message, line, column, after, heq, hbefore⟩

theorem findSome?_error?_of_notices {ds : List ParserDiagnostic} (h : ∀ d ∈ ds, d.IsNotice) :
    ds.findSome? ParserDiagnostic.error? = none :=
  List.findSome?_eq_none_iff.2 fun d hd => (h d hd).error?_eq

/-- A lowering answers as a call should. -/
theorem SinkCall.answers_lower (options : LowerOptions) (file : ParsedFile) :
    Answers (.lower options file) (.lowered (GroovyLowering.lower options file)) := by
  rcases exists_syntaxError_or_notices file.diagnostics with
    ⟨before, message, line, column, after, heq, hbefore⟩ | hnotices
  · have hfirst : file.diagnostics.findSome? ParserDiagnostic.error? =
        some (.relayed message (.point line (column + 1))) := by
      rw [heq, List.findSome?_append, findSome?_error?_of_notices hbefore]
      rfl
    have hlower : GroovyLowering.lower options file =
        .error (.relayed message (.point line (column + 1))) := by
      rw [GroovyLowering.lower, hfirst]
    rw [hlower]
    exact .relay heq hbefore
  · have hlower : GroovyLowering.lower options file =
        GroovyLowering.lower options ⟨file.root, []⟩ := by
      rw [GroovyLowering.lower, findSome?_error?_of_notices hnotices]
      rfl
    rw [hlower]
    exact .tree hnotices

/-! ## One call -/

namespace ErrorSink

/-- A call puts its record behind the others, if it leaves one. -/
theorem perform_errors (sink : ErrorSink) (call : SinkCall) :
    (sink.perform call).2.errors =
      sink.errors ++ (sink.perform call).1.record?.toList := by
  cases call with
  | add record => rfl
  | lower options file =>
    rw [perform, ErrorSink.lower]
    cases GroovyLowering.lower options file with
    | ok unit => exact (List.append_nil _).symm
    | error e => rfl

theorem perform_answers (sink : ErrorSink) (call : SinkCall) :
    call.Answers (sink.perform call).1 := by
  cases call with
  | add record => exact .add
  | lower options file =>
    have hlower := SinkCall.answers_lower options file
    rw [perform, ErrorSink.lower]
    cases hresult : GroovyLowering.lower options file with
    | ok unit =>
      rw [hresult] at hlower
      exact hlower
    | error e =>
      rw [hresult] at hlower
      exact hlower

/-! ## Any number of calls -/

theorem run_cons (sink : ErrorSink) (call : SinkCall) (rest : List SinkCall) :
    sink.run (call :: rest) =
      ((sink.perform call).1 :: ((sink.perform call).2.run rest).1,
        ((sink.perform call).2.run rest).2) := rfl

theorem run_errors (sink : ErrorSink) (calls : List SinkCall) :
    (sink.run calls).2.errors =
      sink.errors ++ (sink.run calls).1.filterMap SinkAnswer.record? := by
  induction calls generalizing sink with
  | nil => exact (List.append_nil _).symm
  | cons call rest ih =>
    rw [run_cons, ih, perform_errors, List.append_assoc]
    cases hrecord : (sink.perform call).1.record? with
    | none =>
      rw [List.filterMap_cons_none hrecord]
      rfl
    | some record =>
      rw [List.filterMap_cons_some hrecord]
      rfl

theorem run_answers (sink : ErrorSink) (calls : List SinkCall) :
    List.Forall₂ SinkCall.Answers calls (sink.run calls).1 := by
  induction calls generalizing sink with
  | nil => exact .nil
  | cons call rest ih => exact .cons (perform_answers sink call) (ih _)

theorem run_append (sink : ErrorSink) (front back : List SinkCall) :
    sink.run (front ++ back) =
      ((sink.run front).1 ++ ((sink.run front).2.run back).1, ((sink.run front).2.run back).2) := by
  induction front generalizing sink with
  | nil => rfl
  | cons call rest ih =>
    rw [List.cons_append, run_cons, ih]
    rfl

/-- Later calls leave the records of earlier ones as they are. -/
theorem run_prefix (sink : ErrorSink) (front back : List SinkCall) :
    (sink.run front).2.errors <+: (sink.run (front ++ back)).2.errors := by
  rw [run_append, run_errors (sink.run front).2]
  exact List.prefix_append _ _

/-- **A sink is the log of the failures.**  After any number of calls it holds what it held, and
behind that the record of every call that leaves one, in order.  No record is changed by the calls
behind it.  Every call has the answer it should have. -/
theorem run_log (sink : ErrorSink) (calls : List SinkCall) :
    (sink.run calls).2.errors =
      sink.errors ++ (sink.run calls).1.filterMap SinkAnswer.record? ∧
    (∀ n, (sink.run (calls.take n)).2.errors <+: (sink.run calls).2.errors) ∧
    List.Forall₂ SinkCall.Answers calls (sink.run calls).1 := by
  refine ⟨run_errors sink calls, ?_, run_answers sink calls⟩
  intro n
  have hprefix := run_prefix sink (calls.take n) (calls.drop n)
  rw [List.take_append_drop] at hprefix
  exact hprefix

end ErrorSink

end GroovyLowering
