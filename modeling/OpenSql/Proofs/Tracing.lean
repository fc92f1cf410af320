/-
# OpenSql.Proofs.Tracing — what stands in the SQL trace, and what the trace does not touch.

Queries and mutations are traced, by the text into which they have been put, before the session looks at
its handle; nothing else is.  An insertion that the backend refuses is traced a second time, by its fault.
So the trace of a run can be read off its requests and the refusals among them, and on a handle the text
in the trace is the text of the one call that is made.

The trace is written and never read.  Two sessions that differ in the flag for it alone resemble each
other, and do the same.
-/
import OpenSql.Engine.Backend
import OpenSql.Proofs.Lifecycle
import OpenSql.Proofs.Maintenance
import OpenSql.Proofs.Resemblance

namespace OpenSql

variable {H W : Type}

/-! ## The trace among the events -/

namespace Event

@[simp]
theorem traces_append (events more : List Event) :
    traces (events ++ more) = traces events ++ traces more :=
  List.filterMap_append

@[simp]
theorem traces_nil : traces [] = [] := rfl

@[simp]
theorem traces_cons_trace (entry : Trace) (events : List Event) :
    traces (.trace entry :: events) = entry :: traces events := rfl

@[simp]
theorem traces_cons_call (call : Call) (events : List Event) :
    traces (.call call :: events) = traces events := rfl

@[simp]
theorem traces_cons_notice (notice : Notice) (events : List Event) :
    traces (.notice notice :: events) = traces events := rfl

@[simp]
theorem traces_notices (notices : List Notice) : traces (notices.map .notice) = [] := by
  induction notices with
  | nil => rfl
  | cons notice notices ih => exact ih

/-- The reports of a weight that go to the trace. -/
def traceReports (level : Level) (events : List Event) : List Report :=
  ((traces events).map Trace.report).filter fun report => report.level = level

end Event

@[simp]
theorem Session.traces_traced (s : Session H) (entry : Trace) :
    Event.traces (s.traced entry) = if s.config.trace then [entry] else [] := by
  unfold traced
  split <;> rfl

/-- Only entries of the trace change the trace. -/
theorem steady_traces (entries : List Trace) : Steady fun _ events => Event.traces events = entries where
  idle h := h
  begun h := h
  observed _ h := h
  counted h := h
  called call h := by simpa using h
  noted notice h := by simpa using h

/-! ## What a request writes -/

/-- The call that brings a text to the backend. -/
def Request.roundTrip (sql : String) : Request → Call
  | .select _ | .openCursor _ => .query sql
  | .insert _ => .executeBatch sql
  | _ => .execute sql

namespace Machine

/-- The fault with which the backend refuses an insertion. -/
def refusal? (b : Backend H W) (m : Machine H W) : Request → Option Fault
  | .insert options => m.session.handle.bind fun h =>
    match (b.executeBatch (Dialect.insertSql options.table options.columns options.values) h
      m.world).1 with
    | .failed fault => some fault
    | _ => none
  | _ => none

/-- The entries of the trace that a request is worth: its text, and then the fault of an insertion. -/
def entries (b : Backend H W) (m : Machine H W) (request : Request) : List Trace :=
  (request.sql?.map Trace.statement).toList ++ ((m.refusal? b request).map Trace.insertFailed).toList

/-- What is added to the trace of a machine when it is on. -/
def Writes (m m' : Machine H W) (written : List Trace) : Prop :=
  Event.traces m'.events = Event.traces m.events ++ if m.session.config.trace then written else []

end Machine

namespace Session

variable {b : Backend H W} {m : Machine H W} {h : H}

open Machine

theorem select_writes (options : SelectOptions) :
    m.Writes (select b options m).2 [.statement options.sql] := by
  unfold Writes
  cases hm : m.session.handle with
  | none =>
      rw [select_run_of_none hm]
      simp [reported]
  | some h =>
      rw [select_run_of_some hm]
      simp [reported, moved]

/-- A cursor is opened by a query, and what comes on top is a notice. -/
theorem openCursor_events (options : SelectOptions) : ∃ notices : List Notice,
    (openCursor b options m).2.events =
      (select b options m).2.events ++ notices.map .notice := by
  rw [openCursor_run]
  rcases select b options m with ⟨stop | rows, m'⟩
  · exact ⟨[], (List.append_nil _).symm⟩
  · exact ⟨[.cursorOpened rows.length], rfl⟩

theorem openCursor_writes (options : SelectOptions) :
    m.Writes (openCursor b options m).2 [.statement options.sql] := by
  obtain ⟨notices, hevents⟩ := openCursor_events (b := b) (m := m) options
  unfold Writes
  rw [hevents, Event.traces_append, Event.traces_notices, List.append_nil]
  exact select_writes options

theorem mutate_writes (sql : String) : m.Writes (mutate b sql m).2 [.statement sql] := by
  unfold Writes
  cases hm : m.session.handle with
  | none =>
      rw [mutate_run_of_none hm]
      simp [reported]
  | some h =>
      rw [mutate_run_of_some hm]
      rcases b.execute sql h m.world with ⟨count | fault | _, place⟩ <;>
        simp [reported, moved, recorded]

theorem insert_writes (options : InsertOptions) :
    m.Writes (insert b options m).2 (m.entries b (.insert options)) := by
  unfold Writes entries
  cases hm : m.session.handle with
  | none =>
      rw [insert_run_of_none hm]
      simp [reported, refusal?, hm, Request.sql?]
  | some h =>
      rw [insert_run_of_some hm]
      rcases hr : b.executeBatch
        (Dialect.insertSql options.table options.columns options.values) h m.world with
        ⟨_ | fault | _, place⟩
      · simp [reported, moved, recorded, refusal?, hm, hr, Request.sql?]
      · cases htrace : m.session.config.trace <;>
          simp [reported, moved, recorded, refusal?, hm, hr, Request.sql?, htrace]
      · simp [reported, moved, refusal?, hm, hr, Request.sql?]

theorem select_calls (hm : m.session.handle = some h) (options : SelectOptions) :
    Event.calls (select b options m).2.events = Event.calls m.events ++ [.query options.sql] := by
  rw [select_run_of_some hm]
  simp [reported, moved, calls_traced]

theorem openCursor_calls (hm : m.session.handle = some h) (options : SelectOptions) :
    Event.calls (openCursor b options m).2.events =
      Event.calls m.events ++ [.query options.sql] := by
  obtain ⟨notices, hevents⟩ := openCursor_events (b := b) (m := m) options
  rw [hevents, Event.calls_append, Event.calls_notices, List.append_nil]
  exact select_calls hm options

theorem mutate_calls (hm : m.session.handle = some h) (sql : String) :
    Event.calls (mutate b sql m).2.events = Event.calls m.events ++ [.execute sql] := by
  rw [mutate_run_of_some hm]
  rcases b.execute sql h m.world with ⟨count | fault | _, place⟩ <;>
    simp [reported, moved, recorded, calls_traced]

theorem insert_calls (hm : m.session.handle = some h) (options : InsertOptions) :
    Event.calls (insert b options m).2.events = Event.calls m.events ++
      [.executeBatch (Dialect.insertSql options.table options.columns options.values)] := by
  rw [insert_run_of_some hm]
  rcases hr : b.executeBatch
    (Dialect.insertSql options.table options.columns options.values) h m.world with
    ⟨_ | fault | _, place⟩ <;>
    simp [hr, reported, moved, recorded, calls_traced]

end Session

namespace Machine

/-- A request adds its entries to the trace when it is on. -/
theorem perform_writes (b : Backend H W) (m : Machine H W) (request : Request) :
    m.Writes (m.perform b request).2 (m.entries b request) := by
  have hsilent (hsql : request.sql? = none) (hrefusal : m.refusal? b request = none) :
      m.Writes (m.perform b request).2 (m.entries b request) := by
    have hkept : Event.traces (m.perform b request).2.events = Event.traces m.events :=
      Session.maintains_perform (steady_traces _) (fun h => absurd hsql h) m rfl
    simp [Writes, entries, hsql, hrefusal, hkept]
  have hanswered {m' : Machine H W} {sql : String} (hsql : request.sql? = some sql)
      (hrefusal : m.refusal? b request = none) (h : m.Writes m' [.statement sql]) :
      m.Writes m' (m.entries b request) := by
    simpa [Writes, entries, hsql, hrefusal] using h
  cases request with
  | select options =>
      rw [perform_run]
      exact hanswered rfl rfl (Session.select_writes options)
  | openCursor options =>
      rw [perform_run]
      exact hanswered rfl rfl (Session.openCursor_writes options)
  | insert options =>
      rw [perform_run]
      exact Session.insert_writes options
  | update options =>
      rw [perform_run]
      exact hanswered rfl rfl (Session.mutate_writes _)
  | delete options =>
      rw [perform_run]
      exact hanswered rfl rfl (Session.mutate_writes _)
  | _ => exact hsilent rfl rfl

/-- On a handle, what is put into SQL makes one call, with its text. -/
theorem perform_roundTrip {b : Backend H W} {m : Machine H W} {h : H} {request : Request}
    {sql : String} (hsql : request.sql? = some sql) (hm : m.session.handle = some h) :
    Event.calls (m.perform b request).2.events =
      Event.calls m.events ++ [request.roundTrip sql] := by
  rw [perform_run]
  cases request with
  | select options =>
      obtain rfl := Option.some.inj hsql
      exact Session.select_calls hm options
  | openCursor options =>
      obtain rfl := Option.some.inj hsql
      exact Session.openCursor_calls hm options
  | insert options =>
      obtain rfl := Option.some.inj hsql
      exact Session.insert_calls hm options
  | update options =>
      obtain rfl := Option.some.inj hsql
      exact Session.mutate_calls hm _
  | delete options =>
      obtain rfl := Option.some.inj hsql
      exact Session.mutate_calls hm _
  | _ => cases hsql

/-! ## What a run writes -/

/-- The faults with which the backend refuses the insertions of a run, in their order. -/
def refusals (b : Backend H W) (m : Machine H W) : List Request → List Fault
  | [] => []
  | request :: rest => (m.refusal? b request).toList ++ (m.perform b request).2.refusals b rest

/-- The entries that the requests of a run are worth, in their order. -/
def allEntries (b : Backend H W) (m : Machine H W) : List Request → List Trace
  | [] => []
  | request :: rest => m.entries b request ++ (m.perform b request).2.allEntries b rest

theorem performAll_writes (b : Backend H W) (m : Machine H W) (requests : List Request) :
    m.Writes (m.performAll b requests).2 (m.allEntries b requests) := by
  induction requests generalizing m with
  | nil => simp [Writes, allEntries, performAll]
  | cons request requests ih =>
      -- The flag that decides about the rest is the one that the request has found.
      have hfirst := m.perform_writes b request
      have hrest := ih (m.perform b request).2
      unfold Writes at hfirst hrest ⊢
      rw [perform_config, hfirst] at hrest
      show Event.traces ((m.perform b request).2.performAll b requests).2.events = _
      rw [hrest, allEntries]
      cases m.session.config.trace <;> simp

theorem infos_allEntries (b : Backend H W) (m : Machine H W) (requests : List Request) :
    ((m.allEntries b requests).map Trace.report).filter (fun report => report.level = .info) =
      (requests.filterMap Request.sql?).map fun sql => ⟨.info, sql, []⟩ := by
  induction requests generalizing m with
  | nil => rfl
  | cons request requests ih =>
      have hfirst : ((m.entries b request).map Trace.report).filter
          (fun report => report.level = .info) =
          request.sql?.toList.map fun sql => ⟨.info, sql, []⟩ := by
        unfold entries
        cases request.sql? <;> cases m.refusal? b request <;> simp [Trace.report]
      rw [allEntries, List.map_append, List.filter_append, hfirst, ih]
      cases hsql : request.sql? <;> simp [hsql]

theorem warnings_allEntries (b : Backend H W) (m : Machine H W) (requests : List Request) :
    ((m.allEntries b requests).map Trace.report).filter (fun report => report.level = .warn) =
      (m.refusals b requests).map fun fault => (Trace.insertFailed fault).report := by
  induction requests generalizing m with
  | nil => rfl
  | cons request requests ih =>
      have hfirst : ((m.entries b request).map Trace.report).filter
          (fun report => report.level = .warn) =
          (m.refusal? b request).toList.map fun fault => (Trace.insertFailed fault).report := by
        unfold entries
        cases request.sql? <;> cases m.refusal? b request <;> simp [Trace.report]
      rw [allEntries, List.map_append, List.filter_append, hfirst, ih, refusals, List.map_append]

/-- Giving the handle back at the end is not traced. -/
theorem drop_traces (b : Backend H W) (m : Machine H W) :
    Event.traces (m.drop b).2.events = Event.traces m.events :=
  Session.maintains_release (steady_traces _) m rfl

end Machine

/-- The trace of a run that the dropping of its session ends.  When it is on, its reports of weight
"info" are the texts of the queries and mutations, one for each in their order, connected or not, and its
reports of weight "warn" are the refusals of insertions; when it is off it is empty.  And in every state
with a handle a query or a mutation makes one call, with the text that it is traced by. -/
theorem trace_is_faithful (b : Backend H W) (config : SessionConfig)
    (mapper : Option ConditionMapper) (world : W) (requests : List Request) :
    let fresh : Machine H W := .start config mapper world
    let m := (fresh.performAll b requests).2
    let events := (m.drop b).2.events
    (config.trace = true →
      Event.traceReports .info events =
          (requests.filterMap Request.sql?).map (fun sql => ⟨.info, sql, []⟩) ∧
        Event.traceReports .warn events = (fresh.refusals b requests).map fun fault =>
          ⟨.warn, "INSERT failed",
            [("error", .text fault.message), ("kind", .text fault.kind.name)]⟩) ∧
    (config.trace = false → Event.traces events = []) ∧
    ∀ request sql, request.sql? = some sql → m.session.isConnected = true →
      Event.calls (m.perform b request).2.events =
        Event.calls m.events ++ [request.roundTrip sql] := by
  intro fresh m events
  have hwrites : Event.traces m.events =
      [] ++ if config.trace then fresh.allEntries b requests else [] :=
    fresh.performAll_writes b requests
  have htraces : Event.traces events = if config.trace then fresh.allEntries b requests else [] :=
    (m.drop_traces b).trans hwrites
  refine ⟨fun hon => ?_, fun hoff => ?_, fun request sql hsql hconnected => ?_⟩
  · rw [if_pos hon] at htraces
    unfold Event.traceReports
    rw [htraces]
    exact ⟨fresh.infos_allEntries b requests, fresh.warnings_allEntries b requests⟩
  · rw [htraces, if_neg (by simp [hoff])]
  · obtain ⟨h, hm⟩ := Option.isSome_iff_exists.mp hconnected
    exact Machine.perform_roundTrip hsql hm

/-! ## Sessions that differ in the trace -/

/-- The session with the trace switched on or off. -/
def Session.traceSet (s : Session H) (trace : Bool) : Session H :=
  { s with config := { s.config with trace } }

/-- Two sessions of which only one is traced resemble each other, if the backend opens the same handle for
both. -/
theorem Machine.Resembles.ofTrace {b : Backend H W}
    (hopen : ∀ config trace w, b.openHandle { config with trace } w = b.openHandle config w)
    (s : Session H) (trace trace' : Bool) (world : W) :
    (⟨s.traceSet trace, world, []⟩ : Machine H W).Resembles b .same
      ⟨s.traceSet trace', world, []⟩ where
  context := rfl
  database := rfl
  opens w := (hopen s.config trace' w).trans (hopen s.config trace w).symm
  mapper := rfl
  handle := rfl
  world := rfl
  calls := rfl
  transactions := rfl

/-- Tracing never shows but in the trace.  On a backend that opens its handles without a look at the flag,
a run gives the same results with the trace on and off, one by one, makes the same calls, and ends with
the same handle in the same place and the same bookkeeping; and so does the dropping of the session. -/
theorem trace_never_steers (b : Backend H W)
    (hopen : ∀ config trace w, b.openHandle { config with trace } w = b.openHandle config w)
    (s : Session H) (trace trace' : Bool) (world : W) (requests : List Request) :
    let run (trace : Bool) :=
      (⟨s.traceSet trace, world, []⟩ : Machine H W).performAll b requests
    let dropped (trace : Bool) := (run trace).2.drop b
    ((run trace').1 = (run trace).1 ∧
      Event.calls (run trace').2.events = Event.calls (run trace).2.events ∧
      (run trace').2.session.handle = (run trace).2.session.handle ∧
      (run trace').2.world = (run trace).2.world ∧
      (run trace').2.session.transactions = (run trace).2.session.transactions) ∧
    (dropped trace').1 = (dropped trace).1 ∧
      Event.calls (dropped trace').2.events = Event.calls (dropped trace).2.events ∧
      (dropped trace').2.world = (dropped trace).2.world := by
  intro run dropped
  obtain ⟨hresults, hrun⟩ : (run trace').1 = (run trace).1 ∧
      (run trace).2.Resembles b .same (run trace').2 :=
    (Machine.Resembles.ofTrace hopen s trace trace' world).performAll fun _ _ _ => rfl
  obtain ⟨hresult, hdropped⟩ : (dropped trace').1 = (dropped trace).1 ∧
      (dropped trace).2.Resembles b .same (dropped trace').2 :=
    Session.parallel_release _ _ hrun
  have hbookkeeping : (run trace).2.session.transactions = (run trace').2.session.transactions :=
    hrun.transactions
  exact ⟨⟨hresults, hrun.calls, hrun.handle, hrun.world, hbookkeeping.symm⟩, hresult,
    hdropped.calls, hdropped.world⟩

/-- An insertion that the engine refuses, and that the trace takes down twice. -/
def refusedInsertion : List Request := [.connect, .insert ⟨"missing", ["A"], ["1"]⟩]

/-- The machine that the insertion leaves on the engine, with the trace on or off. -/
def afterRefusal (trace : Bool) : Machine Engine.Connection Engine.Disk :=
  ((⟨Session.traceSet { config := {} } trace, {}, []⟩ : Machine _ _).performAll Engine.backend
    refusedInsertion).2

set_option maxRecDepth 10000 in
/-- The engine does not look at the trace when it opens a database; and an insertion that it refuses is
the same whether its refusal is traced or not. -/
theorem trace_never_steers_refusal :
    (∀ config trace w, Engine.backend.openHandle { config with trace } w =
      Engine.backend.openHandle config w) ∧
    ((Event.traces (afterRefusal true).events).length = 2 ∧
      (Event.traces (afterRefusal false).events).length = 0) ∧
    (Event.calls (afterRefusal true).events = Event.calls (afterRefusal false).events ∧
      (afterRefusal true).session.handle = (afterRefusal false).session.handle ∧
      (afterRefusal true).session.transactions = (afterRefusal false).session.transactions) := by
  have hopen : ∀ config trace w, Engine.backend.openHandle { config with trace } w =
      Engine.backend.openHandle config w := fun _ _ _ => rfl
  refine ⟨hopen, by decide +kernel, ?_⟩
  obtain ⟨⟨-, hcalls, hhandle, -, hbookkeeping⟩, -⟩ :=
    trace_never_steers Engine.backend hopen { config := {} } false true {} refusedInsertion
  exact ⟨hcalls, hhandle, hbookkeeping⟩

end OpenSql
