/-
# OpenSql.Proofs.Resemblance — two sessions that ask the same of their backend.

Two sessions resemble each other when they hold the same handle in the same world, have made the same
calls and would open the same handle next.  In what remains, their bookkeepings and their mappers, they
may differ as far as a given likeness allows.  Resemblance is kept: whatever both are asked, they answer
the same and resemble each other again, because every operation that looks at the bookkeeping has first
observed the backend's flag, and only queries look at the mapper.
-/
import OpenSql.Proofs.Conversation

namespace OpenSql

variable {H W α β σ : Type}

/-! ## Programs on two states -/

/-- A program that gives the same result on states that are alike, and leaves states that are alike. -/
def Parallel (alike : σ → σ → Prop) (x : ExceptT Stop (StateM σ) α) : Prop :=
  ∀ s s', alike s s' → (x s').1 = (x s).1 ∧ alike (x s).2 (x s').2

namespace Parallel

variable {alike : σ → σ → Prop}

theorem pure (a : α) : Parallel alike (Pure.pure a) := fun _ _ h => ⟨rfl, h⟩

theorem throw (stop : Stop) : Parallel alike (MonadExcept.throw stop : ExceptT Stop (StateM σ) α) :=
  fun _ _ h => ⟨rfl, h⟩

theorem bind {x : ExceptT Stop (StateM σ) α} {f : α → ExceptT Stop (StateM σ) β}
    (hx : Parallel alike x) (hf : ∀ a, Parallel alike (f a)) : Parallel alike (x >>= f) := by
  intro s s' h
  obtain ⟨hresult, hstate⟩ := hx s s' h
  rw [run_bind, run_bind]
  rcases hr : x s with ⟨stop | a, ended⟩ <;> rcases hr' : x s' with ⟨stop' | a', ended'⟩ <;>
    rw [hr, hr'] at hresult hstate <;> cases hresult
  · exact ⟨rfl, hstate⟩
  · exact hf a ended ended' hstate

theorem tryCatch {x : ExceptT Stop (StateM σ) α} {f : Stop → ExceptT Stop (StateM σ) α}
    (hx : Parallel alike x) (hf : ∀ stop, Parallel alike (f stop)) :
    Parallel alike (MonadExcept.tryCatch x f) := by
  intro s s' h
  obtain ⟨hresult, hstate⟩ := hx s s' h
  rw [run_tryCatch, run_tryCatch]
  rcases hr : x s with ⟨stop | a, ended⟩ <;> rcases hr' : x s' with ⟨stop' | a', ended'⟩ <;>
    rw [hr, hr'] at hresult hstate <;> cases hresult
  · exact hf stop ended ended' hstate
  · exact ⟨rfl, hstate⟩

end Parallel

/-! ## Likeness -/

/-- How much two sessions may differ in their bookkeepings and in their mappers.  Bookkeepings that are
alike stay so when both observe the same flag and when both count a statement. -/
structure Likeness where
  bookkeeping : Transactions → Transactions → Prop
  mapper : Option ConditionMapper → Option ConditionMapper → Prop
  refl : ∀ t, bookkeeping t t
  observe : ∀ {t t'} flag, bookkeeping t t' → bookkeeping (t.observe flag) (t'.observe flag)
  count : ∀ {t t'}, bookkeeping t t' → bookkeeping t.count t'.count

namespace Likeness

/-- Any two bookkeepings are alike, and a mapper only to itself. -/
def anyBookkeeping : Likeness where
  bookkeeping _ _ := True
  mapper := Eq
  refl _ := trivial
  observe _ _ := trivial
  count _ := trivial

/-- A bookkeeping is alike only to itself, and any two mappers are. -/
def anyMapper : Likeness where
  bookkeeping := Eq
  mapper _ _ := True
  refl _ := rfl
  observe flag h := congrArg (·.observe flag) h
  count h := congrArg Transactions.count h

/-- Bookkeepings and mappers are alike only to themselves. -/
def same : Likeness := { anyMapper with mapper := Eq }

end Likeness

/-! ## Lines -/

namespace Line

/-- Lines on the same place, with the same calls behind them and bookkeepings that are alike. -/
structure Resembles (like : Likeness) (line line' : Line H W) : Prop where
  handle : line'.handle = line.handle
  world : line'.world = line.world
  calls : Event.calls line'.events = Event.calls line.events
  transactions : like.bookkeeping line.transactions line'.transactions

variable {like : Likeness} {line line' : Line H W}

namespace Resembles

theorem inTransaction (h : line.Resembles like line') (b : Backend H W) :
    line'.inTransaction b = line.inTransaction b := by
  rw [Line.inTransaction, h.handle, h.world]
  rfl

/-- What is noted need not be the same. -/
theorem noted (h : line.Resembles like line') (notice notice' : Notice) :
    (line.noted notice).Resembles like (line'.noted notice') where
  handle := h.handle
  world := h.world
  calls := by simp [Line.noted, h.calls]
  transactions := h.transactions

theorem moved (h : line.Resembles like line') (call : Call) (place : H × W) :
    (line.moved call place).Resembles like (line'.moved call place) where
  handle := rfl
  world := rfl
  calls := by simp [Line.moved, h.calls]
  transactions := h.transactions

theorem kept (h : line.Resembles like line') {t t' : Transactions} (ht : like.bookkeeping t t') :
    ({ line with transactions := t } : Line H W).Resembles like { line' with transactions := t' } where
  handle := h.handle
  world := h.world
  calls := h.calls
  transactions := ht

theorem observed (h : line.Resembles like line') (b : Backend H W) :
    (line.observed b).Resembles like (line'.observed b) := by
  unfold Line.observed
  rw [h.inTransaction b]
  exact h.kept (like.observe _ h.transactions)

end Resembles

theorem parallel_note (notice : Notice) : Parallel (Resembles like) (note notice : LineM H W Unit) :=
  fun _ _ h => ⟨rfl, h.noted notice notice⟩

theorem parallel_reset : Parallel (Resembles like) (reset : LineM H W Unit) :=
  fun _ _ h => ⟨rfl, h.kept (like.refl .idle)⟩

theorem parallel_attempt (call : Call) (run : H → W → Reply α × H × W) :
    Parallel (Resembles like) (attempt call run) := by
  intro line line' h
  rw [attempt_run, attempt_run, h.handle, h.world]
  exact ⟨rfl, h.moved call _⟩

theorem parallel_ask (call : Call) (run : H → W → Reply α × H × W) :
    Parallel (Resembles like) (ask call run) := by
  intro line line' h
  rw [ask_run, ask_run, h.handle, h.world]
  exact ⟨rfl, h.moved call _⟩

variable (b : Backend H W)

theorem parallel_record : Parallel (Resembles like) (record b) := by
  intro line line' h
  rw [record_run, record_run]
  exact ⟨rfl, h.kept (like.count (h.observed b).transactions)⟩

/-- The flag that was just observed decides, and not what was believed before. -/
theorem parallel_begin : Parallel (Resembles like) (begin b) := by
  intro line line' h
  have hobserved := h.observed b
  cases hflag : line.inTransaction b with
  | true =>
      rw [begin_run_of_open hflag, begin_run_of_open ((h.inTransaction b).trans hflag)]
      exact ⟨rfl, hobserved.noted _ _⟩
  | false =>
      rw [begin_run_of_closed hflag, begin_run_of_closed ((h.inTransaction b).trans hflag),
        h.handle, h.world]
      have hmoved := hobserved.moved .begin (b.begin line.handle line.world).2
      rcases (b.begin line.handle line.world).1 with _ | fault | _
      · exact ⟨rfl, (hmoved.kept (like.refl ⟨true, 0⟩)).noted _ _⟩
      · exact ⟨rfl, hmoved⟩
      · exact ⟨rfl, hmoved⟩

theorem parallel_commit : Parallel (Resembles like) (commit b) := by
  intro line line' h
  have hobserved := h.observed b
  cases hflag : line.inTransaction b with
  | true =>
      rw [commit_run_of_open hflag, commit_run_of_open ((h.inTransaction b).trans hflag),
        h.handle, h.world]
      have hmoved := hobserved.moved .commit (b.commit line.handle line.world).2
      rcases (b.commit line.handle line.world).1 with _ | fault | _
      · -- The numbers of statements that are reported differ; after that both forget theirs.
        exact ⟨rfl, (hmoved.noted _ _).kept (like.refl .idle)⟩
      · exact ⟨rfl, hmoved⟩
      · exact ⟨rfl, hmoved⟩
  | false =>
      rw [commit_run_of_closed hflag, commit_run_of_closed ((h.inTransaction b).trans hflag)]
      exact ⟨rfl, hobserved⟩

theorem parallel_rollback : Parallel (Resembles like) (rollback b) := by
  intro line line' h
  have hobserved := h.observed b
  cases hflag : line.inTransaction b with
  | true =>
      rw [rollback_run_of_open hflag, rollback_run_of_open ((h.inTransaction b).trans hflag),
        h.handle, h.world]
      have hmoved := hobserved.moved .rollback (b.rollback line.handle line.world).2
      refine ⟨rfl, ?_⟩
      rcases (b.rollback line.handle line.world).1 with _ | fault | _
      · exact (hmoved.noted _ _).observed b
      · exact (hmoved.noted _ _).observed b
      · exact hmoved
  | false =>
      rw [rollback_run_of_closed hflag, rollback_run_of_closed ((h.inTransaction b).trans hflag)]
      exact ⟨rfl, hobserved⟩

end Line

/-! ## Sessions -/

/-- Machines whose sessions hold the same handle in the same world, with the same calls behind them, and
would open the same handle next. -/
structure Machine.Resembles (b : Backend H W) (like : Likeness) (m m' : Machine H W) : Prop where
  context : m'.session.config.context = m.session.config.context
  database : m'.session.config.database = m.session.config.database
  opens : ∀ w, b.openHandle m'.session.config w = b.openHandle m.session.config w
  mapper : like.mapper m.session.mapper m'.session.mapper
  handle : m'.session.handle = m.session.handle
  world : m'.world = m.world
  calls : Event.calls m'.events = Event.calls m.events
  transactions : like.bookkeeping m.session.transactions m'.session.transactions

namespace Machine.Resembles

variable {b : Backend H W} {like : Likeness} {m m' : Machine H W}

theorem line (h : m.Resembles b like m') (handle : H) :
    (m.line handle).Resembles like (m'.line handle) where
  handle := rfl
  world := h.world
  calls := h.calls
  transactions := h.transactions

theorem withLine (h : m.Resembles b like m') {line line' : Line H W}
    (hline : line.Resembles like line') (handle : Option H) :
    (m.withLine handle line).Resembles b like (m'.withLine handle line') where
  context := h.context
  database := h.database
  opens := h.opens
  mapper := h.mapper
  handle := rfl
  world := hline.world
  calls := hline.calls
  transactions := hline.transactions

/-- What is reported need not be the same, as long as it holds no calls. -/
theorem reported (h : m.Resembles b like m') {events events' : List Event}
    (hevents : Event.calls events = []) (hevents' : Event.calls events' = []) :
    (m.reported events).Resembles b like (m'.reported events') where
  context := h.context
  database := h.database
  opens := h.opens
  mapper := h.mapper
  handle := h.handle
  world := h.world
  calls := by simp [Machine.reported, h.calls, hevents, hevents']
  transactions := h.transactions

end Machine.Resembles

namespace Session

variable {b : Backend H W} {like : Likeness}

theorem parallel_note (notice : Notice) :
    Parallel (Machine.Resembles b like) (note notice : SessionM H W Unit) :=
  fun _ _ h => ⟨rfl, h.reported rfl rfl⟩

theorem parallel_trace (entry : Trace) :
    Parallel (Machine.Resembles b like) (trace entry : SessionM H W Unit) := by
  intro m m' h
  rw [trace_run, trace_run]
  exact ⟨rfl, h.reported (calls_traced m.session entry) (calls_traced m'.session entry)⟩

theorem parallel_onHandle {operation : LineM H W α}
    (hoperation : Parallel (Line.Resembles like) operation) (handle : H) (keep : H → Option H) :
    Parallel (Machine.Resembles b like) (onHandle handle keep operation) := by
  intro m m' h
  obtain ⟨hresult, hline⟩ := hoperation _ _ (h.line handle)
  rw [onHandle_run, onHandle_run]
  refine ⟨hresult, ?_⟩
  simp only
  rw [hline.handle]
  exact h.withLine hline _

theorem parallel_connected {operation : LineM H W α}
    (hoperation : Parallel (Line.Resembles like) operation) :
    Parallel (Machine.Resembles b like) (connected operation) := by
  intro m m' h
  unfold connected
  rw [run_bind, run_get, run_bind, run_get]
  simp only
  rw [h.handle, h.context]
  cases m.session.handle with
  | none => exact ⟨rfl, h⟩
  | some handle => exact parallel_onHandle hoperation handle some m m' h

theorem parallel_executeOne (sql : String) :
    Parallel (Machine.Resembles b like) (executeOne b sql) := by
  unfold executeOne
  split
  · exact .pure ()
  · exact parallel_connected (.bind (Line.parallel_note _) fun _ =>
      .bind (Line.parallel_ask _ _) fun _ => Line.parallel_record b)

theorem parallel_executeAll (scripts : List String) :
    Parallel (Machine.Resembles b like) (executeAll b scripts) := by
  induction scripts with
  | nil => exact .pure ()
  | cons sql rest ih => exact .bind (parallel_executeOne sql) fun _ => ih

theorem parallel_insert (options : InsertOptions) :
    Parallel (Machine.Resembles b like) (insert b options) := by
  have hcounted (outcome : Outcome) : Parallel (Machine.Resembles b like) (do
      connected (Line.record b)
      return outcome) :=
    .bind (parallel_connected (Line.parallel_record b)) fun _ => .pure outcome
  refine .bind (parallel_trace _) fun _ =>
    .bind (parallel_connected (Line.parallel_attempt _ _)) fun received => ?_
  cases received with
  | ok done => exact .bind (.pure _) fun _ => hcounted _
  | error fault =>
      exact .bind (parallel_trace _) fun _ => .bind (.pure _) fun _ => hcounted _

theorem parallel_mutate (sql : String) : Parallel (Machine.Resembles b like) (mutate b sql) := by
  have hcounted (outcome : Outcome) : Parallel (Line.Resembles like) (do
      Line.record b
      return outcome) :=
    .bind (Line.parallel_record b) fun _ => Parallel.pure outcome
  refine .bind (parallel_trace _) fun _ => parallel_connected
    (.bind (Line.parallel_attempt _ _) fun received => ?_)
  cases received with
  | ok count => exact .bind (Parallel.pure _) fun _ => hcounted _
  | error fault =>
      exact .bind (Line.parallel_note _) fun _ => .bind (Parallel.pure _) fun _ => hcounted _

/-- A fault is raised through the mapper, so here the mappers have to be the same. -/
theorem parallel_select (hmapper : like.mapper = Eq) (options : SelectOptions) :
    Parallel (Machine.Resembles b like) (select b options) := by
  refine .bind (parallel_trace _) fun _ =>
    .bind (parallel_connected (Line.parallel_attempt _ _)) fun received => ?_
  cases received with
  | ok rows => exact .pure rows
  | error fault =>
      intro m m' h
      have hsame : m.session.mapper = m'.session.mapper := hmapper ▸ h.mapper
      have hraise : m'.session.raise fault = m.session.raise fault := by
        unfold raise
        rw [hsame]
      exact ⟨congrArg (fun error => Except.error (Stop.error error)) hraise, h⟩

theorem parallel_openCursor (hmapper : like.mapper = Eq) (options : SelectOptions) :
    Parallel (Machine.Resembles b like) (openCursor b options) :=
  .bind (parallel_select hmapper options) fun _ => .bind (parallel_note _) fun _ => .pure _

theorem parallel_disconnect : Parallel (Machine.Resembles b like) (disconnect b) := by
  intro m m' h
  unfold disconnect
  rw [run_bind, run_get, run_bind, run_get]
  simp only
  rw [h.handle, h.context]
  cases m.session.handle with
  | none => exact ⟨rfl, h⟩
  | some handle =>
      -- First what is done to the handle, then what is told of it, which the two have in common.
      refine Parallel.bind (parallel_onHandle ?_ handle _) (fun told => ?_) m m' h
      · refine .bind (Parallel.tryCatch ?_ fun stop => ?_) fun rolledBack =>
          .bind Line.parallel_reset fun _ => .bind (Line.parallel_attempt _ _) fun closed =>
            Parallel.pure (rolledBack, closed)
        · exact .bind (Line.parallel_rollback b) fun _ => Parallel.pure none
        · cases stop with
          | error e => exact Parallel.pure (some e)
          | crash => exact .throw .crash
      · obtain ⟨rolledBack, closed⟩ := told
        refine .bind (parallel_note _) fun _ => ?_
        rcases rolledBack with _ | error
        · cases closed with
          | ok _ => exact .pure ()
          | error fault => exact .throw _
        · exact .throw _

theorem parallel_release : Parallel (Machine.Resembles b like) (release b) := by
  intro m m' h
  obtain ⟨hresult, hm⟩ := parallel_disconnect m m' h
  rw [release_run, release_run, h.context]
  rcases hr : disconnect b m with ⟨result, ended⟩
  rcases hr' : disconnect b m' with ⟨result', ended'⟩
  rw [hr, hr'] at hresult hm
  obtain rfl : result' = result := hresult
  rcases result' with (error | _) | _
  · exact ⟨rfl, hm.reported rfl rfl⟩
  · exact ⟨rfl, hm⟩
  · exact ⟨rfl, hm⟩

theorem parallel_cleared : Parallel (Machine.Resembles b like) (cleared b) := by
  intro m m' h
  have hconnected : m'.session.isConnected = m.session.isConnected :=
    congrArg Option.isSome h.handle
  -- Both hold a handle or neither does.
  unfold cleared
  rw [hconnected]
  split
  · exact parallel_release _ _ (h.reported rfl rfl)
  · exact ⟨rfl, h⟩

theorem parallel_opened {config config' : SessionConfig} {m m' : Machine H W}
    (h : m.Resembles b like m') (hcontext : config'.context = config.context)
    (hdatabase : config'.database = config.database)
    (hopens : ∀ w, b.openHandle config' w = b.openHandle config w) :
    (opened b config' m').1 = (opened b config m).1 ∧
      (opened b config m).2.Resembles b like (opened b config' m').2 := by
  unfold opened
  rw [hopens, h.world, hdatabase, hcontext]
  let asked (m : Machine H W) (w : W) : Machine H W :=
    { m with world := w, events := m.events ++ [.call (.openHandle config.database)] }
  have hasked (w : W) : (asked m w).Resembles b like (asked m' w) :=
    { h with world := rfl, calls := by simp [asked, h.calls] }
  rcases b.openHandle config m.world with ⟨handle | fault | _, w⟩
  · refine ⟨rfl, ?_⟩
    let told (config' : SessionConfig) : List Event :=
      (b.openNotices config').map .notice ++ [.notice (.connected config.context b.name)]
    have hsilent (config' : SessionConfig) : Event.calls (told config') = [] := by simp [told]
    have htold := (hasked w).reported (hsilent config) (hsilent config')
    exact { htold with handle := rfl, transactions := like.refl .idle }
  · exact ⟨rfl, hasked w⟩
  · exact ⟨rfl, hasked w⟩

theorem parallel_connect : Parallel (Machine.Resembles b like) (connect b) := by
  intro m m' h
  obtain ⟨hresult, hm⟩ := parallel_cleared m m' h
  rw [connect_run, connect_run]
  rcases hr : cleared b m with ⟨result, ended⟩
  rcases hr' : cleared b m' with ⟨result', ended'⟩
  rw [hr, hr'] at hresult hm
  obtain rfl : result' = result := hresult
  cases result' with
  | error stop => exact ⟨rfl, hm⟩
  | ok _ => exact parallel_opened hm h.context h.database h.opens

end Session

/-! ## Requests and runs -/

/-- The request reads rows; its fault is raised through the mapper. -/
def Request.queries : Request → Bool
  | .select _ | .openCursor _ => true
  | _ => false

theorem Session.parallel_perform {b : Backend H W} {like : Likeness} {request : Request}
    (hmapper : request.queries = true → like.mapper = Eq) :
    Parallel (Machine.Resembles b like) (perform b request) := by
  cases request with
  | connect => exact .bind parallel_connect fun _ => .pure _
  | disconnect => exact .bind parallel_disconnect fun _ => .pure _
  | execute script =>
      refine .bind ?_ fun _ => .pure _
      rw [execute_eq]
      exact parallel_executeAll script.toList
  | select options => exact .bind (parallel_select (hmapper rfl) options) fun _ => .pure _
  | openCursor options => exact .bind (parallel_openCursor (hmapper rfl) options) fun _ => .pure _
  | insert options => exact .bind (parallel_insert options) fun _ => .pure _
  | update options => exact .bind (parallel_mutate _) fun _ => .pure _
  | delete options => exact .bind (parallel_mutate _) fun _ => .pure _
  | begin => exact .bind (parallel_connected (Line.parallel_begin b)) fun _ => .pure _
  | commit => exact .bind (parallel_connected (Line.parallel_commit b)) fun _ => .pure _
  | rollback => exact .bind (parallel_connected (Line.parallel_rollback b)) fun _ => .pure _

namespace Machine.Resembles

variable {b : Backend H W} {like : Likeness} {m m' : Machine H W}

/-- A run in which the mapper is asked for nothing that could tell two of them apart. -/
theorem performAll (hm : m.Resembles b like m') {requests : List Request}
    (hmapper : ∀ request ∈ requests, request.queries = true → like.mapper = Eq) :
    (m'.performAll b requests).1 = (m.performAll b requests).1 ∧
      (m.performAll b requests).2.Resembles b like (m'.performAll b requests).2 := by
  induction requests generalizing m m' with
  | nil => exact ⟨rfl, hm⟩
  | cons request requests ih =>
      obtain ⟨hresult, hnext⟩ :=
        Session.parallel_perform (hmapper request List.mem_cons_self) m m' hm
      obtain ⟨hresults, hlast⟩ := ih hnext fun r hr => hmapper r (List.mem_cons_of_mem _ hr)
      exact ⟨List.cons_eq_cons.mpr ⟨hresult, hresults⟩, hlast⟩

/-- Sessions that differ in their bookkeepings alone. -/
theorem ofBookkeepings (s : Session H) (t t' : Transactions) (world : W) :
    (⟨{ s with transactions := t }, world, []⟩ : Machine H W).Resembles b .anyBookkeeping
      ⟨{ s with transactions := t' }, world, []⟩ where
  context := rfl
  database := rfl
  opens _ := rfl
  mapper := rfl
  handle := rfl
  world := rfl
  calls := rfl
  transactions := trivial

end Machine.Resembles

/-- What a session believes about its transaction never reaches the backend or the caller.  Whatever
two sessions believe that agree in everything else, a run gives the same results, one by one, and makes
the same calls, which lead the same handle to the same place; and so does the dropping of the session
at its end. -/
theorem belief_never_shows (b : Backend H W) (s : Session H) (t t' : Transactions) (world : W)
    (requests : List Request) :
    let run (t : Transactions) :=
      (⟨{ s with transactions := t }, world, []⟩ : Machine H W).performAll b requests
    let dropped (t : Transactions) := (run t).2.drop b
    ((run t').1 = (run t).1 ∧
      Event.calls (run t').2.events = Event.calls (run t).2.events ∧
      (run t').2.session.handle = (run t).2.session.handle ∧ (run t').2.world = (run t).2.world) ∧
    (dropped t').1 = (dropped t).1 ∧
      Event.calls (dropped t').2.events = Event.calls (dropped t).2.events ∧
      (dropped t').2.world = (dropped t).2.world := by
  intro run dropped
  obtain ⟨hresults, hrun⟩ : (run t').1 = (run t).1 ∧
      (run t).2.Resembles b .anyBookkeeping (run t').2 :=
    (Machine.Resembles.ofBookkeepings s t t' world).performAll fun _ _ _ => rfl
  obtain ⟨hresult, hdropped⟩ : (dropped t').1 = (dropped t).1 ∧
      (dropped t).2.Resembles b .anyBookkeeping (dropped t').2 :=
    Session.parallel_release _ _ hrun
  exact ⟨⟨hresults, hrun.calls, hrun.handle, hrun.world⟩, hresult, hdropped.calls, hdropped.world⟩

end OpenSql
