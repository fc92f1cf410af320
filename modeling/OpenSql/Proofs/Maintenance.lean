/-
# OpenSql.Proofs.Maintenance — what operations keep, however they end.

An operation can stop at any call, and what it has done by then stays done.  So it keeps a property of
the session's state exactly when its steps keep it one by one.  The steps do little: the bookkeeping
observes a flag, counts a statement or starts anew, and calls, notices and entries of the trace join the
events.  A property of the bookkeeping and the events that survives each of these is steady, and a steady
property is kept by every request; one that does not survive entries of the trace is still kept by the
requests that write none.
-/
import OpenSql.Proofs.Conversation

namespace OpenSql

variable {H W α β σ : Type}

/-! ## Programs that keep a property -/

/-- A program that keeps a property of its state, with and without a result. -/
def Maintains (inv : σ → Prop) (x : ExceptT Stop (StateM σ) α) : Prop := ∀ s, inv s → inv (x s).2

namespace Maintains

variable {inv : σ → Prop}

theorem pure (a : α) : Maintains inv (Pure.pure a) := fun _ hs => hs

theorem throw (stop : Stop) : Maintains inv (MonadExcept.throw stop : ExceptT Stop (StateM σ) α) :=
  fun _ hs => hs

theorem get : Maintains inv (MonadState.get : ExceptT Stop (StateM σ) σ) := fun _ hs => hs

theorem bind {x : ExceptT Stop (StateM σ) α} {f : α → ExceptT Stop (StateM σ) β}
    (hx : Maintains inv x) (hf : ∀ a, Maintains inv (f a)) : Maintains inv (x >>= f) := by
  intro s hs
  have hnext := hx s hs
  rw [run_bind]
  rcases hr : x s with ⟨stop | a, s'⟩
  · rw [hr] at hnext
    exact hnext
  · rw [hr] at hnext
    exact hf a s' hnext

theorem tryCatch {x : ExceptT Stop (StateM σ) α} {f : Stop → ExceptT Stop (StateM σ) α}
    (hx : Maintains inv x) (hf : ∀ stop, Maintains inv (f stop)) :
    Maintains inv (MonadExcept.tryCatch x f) := by
  intro s hs
  have hnext := hx s hs
  rw [run_tryCatch]
  rcases hr : x s with ⟨stop | a, s'⟩
  · rw [hr] at hnext
    exact hf stop s' hnext
  · rw [hr] at hnext
    exact hnext

end Maintains

/-! ## Steady properties -/

/-- A property of the bookkeeping and the events that every step of an operation keeps, but for the
writing of the trace. -/
structure Steady (inv : Transactions → List Event → Prop) : Prop where
  idle : ∀ {t events}, inv t events → inv .idle events
  begun : ∀ {t events}, inv t events → inv ⟨true, 0⟩ events
  observed : ∀ {t events} flag, inv t events → inv (t.observe flag) events
  counted : ∀ {t events}, inv t events → inv t.count events
  called : ∀ {t events} call, inv t events → inv t (events ++ [.call call])
  noted : ∀ {t events} notice, inv t events → inv t (events ++ [.notice notice])

/-- The property survives the writing of the trace as well. -/
def Traceable (inv : Transactions → List Event → Prop) : Prop :=
  ∀ {t events} entry, inv t events → inv t (events ++ [.trace entry])

variable {inv : Transactions → List Event → Prop}

theorem Steady.notes (hinv : Steady inv) {t : Transactions} {events : List Event}
    (notices : List Notice) (h : inv t events) : inv t (events ++ notices.map .notice) := by
  induction notices generalizing events with
  | nil => simpa using h
  | cons notice notices ih => simpa using ih (hinv.noted notice h)

namespace Line

/-- A line whose bookkeeping and events have the property. -/
def Keeps (inv : Transactions → List Event → Prop) (line : Line H W) : Prop :=
  inv line.transactions line.events

variable (hinv : Steady inv)

include hinv

theorem maintains_note (notice : Notice) : Maintains (Keeps inv) (note notice : LineM H W Unit) :=
  fun _ hline => hinv.noted notice hline

theorem maintains_sync (b : Backend H W) : Maintains (Keeps inv) (sync b) :=
  fun _ hline => hinv.observed _ hline

theorem maintains_reset : Maintains (Keeps inv) (reset : LineM H W Unit) :=
  fun _ hline => hinv.idle hline

theorem maintains_record (b : Backend H W) : Maintains (Keeps inv) (record b) :=
  fun _ hline => hinv.counted (hinv.observed _ hline)

theorem maintains_attempt (call : Call) (run : H → W → Reply α × H × W) :
    Maintains (Keeps inv) (attempt call run) := by
  intro line hline
  rw [attempt_run]
  exact hinv.called call hline

theorem maintains_ask (call : Call) (run : H → W → Reply α × H × W) :
    Maintains (Keeps inv) (ask call run) := by
  intro line hline
  rw [ask_run]
  exact hinv.called call hline

theorem maintains_begin (b : Backend H W) : Maintains (Keeps inv) (begin b) := by
  refine .bind (maintains_sync hinv b) fun _ => .bind .get fun line => ?_
  split
  · exact maintains_note hinv _
  · exact .bind (maintains_ask hinv _ _) fun _ =>
      .bind (fun _ hline => hinv.begun hline) fun _ => maintains_note hinv _

theorem maintains_commit (b : Backend H W) : Maintains (Keeps inv) (commit b) := by
  refine .bind (maintains_sync hinv b) fun _ => .bind .get fun line => ?_
  split
  · exact .bind (maintains_ask hinv _ _) fun _ => .bind .get fun _ =>
      .bind (maintains_note hinv _) fun _ => maintains_reset hinv
  · exact .pure ()

theorem maintains_rollback (b : Backend H W) : Maintains (Keeps inv) (rollback b) := by
  refine .bind (maintains_sync hinv b) fun _ => .bind .get fun line => ?_
  split
  · refine .bind (maintains_attempt hinv _ _) fun received => .bind .get fun _ =>
      .bind (maintains_note hinv _) fun _ => .bind (maintains_sync hinv b) fun _ => ?_
    cases received with
    | ok _ => exact .pure ()
    | error fault => exact .throw _
  · exact .pure ()

end Line

namespace Session

/-- A machine whose bookkeeping and events have the property. -/
def Keeps (inv : Transactions → List Event → Prop) (m : Machine H W) : Prop :=
  inv m.session.transactions m.events

variable {b : Backend H W}

theorem maintains_onHandle {operation : LineM H W α}
    (hoperation : Maintains (Line.Keeps inv) operation) (handle : H) (keep : H → Option H) :
    Maintains (Keeps inv) (onHandle handle keep operation) := by
  intro m hm
  rw [onHandle_run]
  exact hoperation (m.line handle) hm

theorem maintains_connected {operation : LineM H W α}
    (hoperation : Maintains (Line.Keeps inv) operation) :
    Maintains (Keeps inv) (connected operation) := by
  intro m hm
  cases hhandle : m.session.handle with
  | none =>
      rw [connected_run_of_none hhandle]
      exact hm
  | some handle =>
      rw [connected_run_of_some hhandle]
      exact hoperation (m.line handle) hm

variable (hinv : Steady inv)

include hinv

theorem maintains_note (notice : Notice) : Maintains (Keeps inv) (note notice : SessionM H W Unit) :=
  fun _ hm => hinv.noted notice hm

theorem maintains_executeAll (scripts : List String) :
    Maintains (Keeps inv) (executeAll b scripts) := by
  have hone (sql : String) : Maintains (Keeps inv) (executeOne b sql) := by
    unfold executeOne
    split
    · exact .pure ()
    · exact maintains_connected (.bind (Line.maintains_note hinv _) fun _ =>
        .bind (Line.maintains_ask hinv _ _) fun _ => Line.maintains_record hinv b)
  induction scripts with
  | nil => exact .pure ()
  | cons sql rest ih => exact .bind (hone sql) fun _ => ih

theorem maintains_disconnect : Maintains (Keeps inv) (disconnect b) := by
  refine .bind .get fun m => ?_
  simp only
  split
  · exact .pure ()
  · refine .bind (maintains_onHandle ?_ _ _) fun told => .bind (maintains_note hinv _) fun _ => ?_
    · refine .bind (.tryCatch ?_ fun stop => ?_) fun _ => .bind (Line.maintains_reset hinv) fun _ =>
        .bind (Line.maintains_attempt hinv _ _) fun _ => .pure _
      · exact .bind (Line.maintains_rollback hinv b) fun _ => .pure none
      · cases stop with
        | error e => exact .pure (some e)
        | crash => exact .throw .crash
    · split
      · exact .throw _
      · exact .throw _
      · exact .pure ()

theorem maintains_release : Maintains (Keeps inv) (release b) := by
  refine .bind .get fun m => .tryCatch (maintains_disconnect hinv) fun stop => ?_
  cases stop with
  | error e => exact maintains_note hinv _
  | crash => exact .throw .crash

theorem opened_keeps (config : SessionConfig) {m : Machine H W} (hm : Keeps inv m) :
    Keeps inv (opened b config m).2 := by
  have hasked := hinv.called (.openHandle config.database) hm
  unfold opened
  rcases b.openHandle config m.world with ⟨_ | _ | _, w⟩
  · have htold := hinv.noted (.connected config.context b.name)
      (hinv.notes (b.openNotices config) hasked)
    simpa [Keeps, Machine.reported] using hinv.idle htold
  · exact hasked
  · exact hasked

theorem maintains_connect : Maintains (Keeps inv) (connect b) := by
  intro m hm
  have hcleared : Keeps inv (cleared b m).2 := by
    unfold cleared
    split
    · exact maintains_release hinv _ (maintains_note hinv _ m hm)
    · exact hm
  rw [connect_run]
  rcases hrun : cleared b m with ⟨stop | _, m'⟩
  · rw [hrun] at hcleared
    exact hcleared
  · rw [hrun] at hcleared
    exact opened_keeps hinv _ hcleared

end Session

/-! ## Requests -/

/-- The SQL that a query or a mutation is put into.  Scripts are run as they are. -/
def Request.sql? : Request → Option String
  | .select options | .openCursor options => some options.sql
  | .insert options => some (Dialect.insertSql options.table options.columns options.values)
  | .update options =>
    some (Dialect.updateSql options.table options.assignments options.predicate)
  | .delete options => some (Dialect.deleteSql options.table options.predicate)
  | _ => none

namespace Session

variable {b : Backend H W}

theorem maintains_trace (htrace : Traceable inv) (entry : Trace) :
    Maintains (Keeps inv) (trace entry : SessionM H W Unit) := by
  intro m hm
  rw [trace_run]
  unfold traced
  split
  · exact htrace entry hm
  · simpa [Keeps, Machine.reported] using hm

variable (hinv : Steady inv)

include hinv

theorem maintains_select (htrace : Traceable inv) (options : SelectOptions) :
    Maintains (Keeps inv) (select b options) := by
  refine .bind (maintains_trace htrace _) fun _ =>
    .bind (maintains_connected (Line.maintains_attempt hinv _ _)) fun received => ?_
  cases received with
  | ok rows => exact .pure rows
  | error fault => exact .bind .get fun _ => .throw _

theorem maintains_insert (htrace : Traceable inv) (options : InsertOptions) :
    Maintains (Keeps inv) (insert b options) := by
  have hcounted (outcome : Outcome) : Maintains (Keeps inv) (do
      connected (Line.record b)
      return outcome) :=
    .bind (maintains_connected (Line.maintains_record hinv b)) fun _ => .pure outcome
  refine .bind (maintains_trace htrace _) fun _ =>
    .bind (maintains_connected (Line.maintains_attempt hinv _ _)) fun received => ?_
  cases received with
  | ok done => exact .bind (.pure _) fun _ => hcounted _
  | error fault =>
      exact .bind (maintains_trace htrace _) fun _ => .bind (.pure _) fun _ => hcounted _

theorem maintains_mutate (htrace : Traceable inv) (sql : String) :
    Maintains (Keeps inv) (mutate b sql) := by
  have hcounted (outcome : Outcome) : Maintains (Line.Keeps inv) (do
      Line.record b
      return outcome) :=
    .bind (Line.maintains_record hinv b) fun _ => .pure outcome
  refine .bind (maintains_trace htrace _) fun _ => maintains_connected
    (.bind (Line.maintains_attempt hinv _ _) fun received => ?_)
  cases received with
  | ok count => exact .bind (.pure _) fun _ => hcounted _
  | error fault =>
      exact .bind (Line.maintains_note hinv _) fun _ => .bind (.pure _) fun _ => hcounted _

/-- What is put into SQL is traced, and for the rest the property need not survive the trace. -/
theorem maintains_perform {request : Request} (htrace : request.sql? ≠ none → Traceable inv) :
    Maintains (Keeps inv) (perform b request) := by
  have htraced {sql : String} (h : request.sql? = some sql) : Traceable inv :=
    htrace (by simp [h])
  cases request with
  | connect => exact .bind (maintains_connect hinv) fun _ => .pure _
  | disconnect => exact .bind (maintains_disconnect hinv) fun _ => .pure _
  | execute script =>
      refine .bind ?_ fun _ => .pure _
      rw [execute_eq]
      exact maintains_executeAll hinv script.toList
  | select options => exact .bind (maintains_select hinv (htraced rfl) options) fun _ => .pure _
  | openCursor options =>
      exact .bind (.bind (maintains_select hinv (htraced rfl) options) fun _ =>
        .bind (maintains_note hinv _) fun _ => .pure _) fun _ => .pure _
  | insert options => exact .bind (maintains_insert hinv (htraced rfl) options) fun _ => .pure _
  | update options => exact .bind (maintains_mutate hinv (htraced rfl) _) fun _ => .pure _
  | delete options => exact .bind (maintains_mutate hinv (htraced rfl) _) fun _ => .pure _
  | begin => exact .bind (maintains_connected (Line.maintains_begin hinv b)) fun _ => .pure _
  | commit => exact .bind (maintains_connected (Line.maintains_commit hinv b)) fun _ => .pure _
  | rollback => exact .bind (maintains_connected (Line.maintains_rollback hinv b)) fun _ => .pure _

end Session

end OpenSql
