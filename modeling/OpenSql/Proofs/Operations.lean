/-
# OpenSql.Proofs.Operations — what every operation does, as an equation.

The operations are programs that may stop, on a state that stays whatever they had made of it when they
stopped.  Here each one is run on an arbitrary state once and for all.  The equations name the reply that
decides the result, the place to which the handle has come, the bookkeeping and the events; what is
proved about sessions cites them and opens no operation again.

Three states come back everywhere: a line that has `moved` to another place by a call, a line that has
`observed` the backend's flag, and a machine that took over the end of a line.
-/
import OpenSql.Request

namespace OpenSql

variable {H W α β σ : Type}

/-! ## Programs that may stop -/

theorem run_bind (x : ExceptT Stop (StateM σ) α) (f : α → ExceptT Stop (StateM σ) β) (s : σ) :
    (x >>= f) s = match x s with
      | (.ok a, s') => f a s'
      | (.error stop, s') => (.error stop, s') := by
  simp only [bind, ExceptT.bind, ExceptT.mk, StateT.bind, ExceptT.bindCont]
  rcases x s with ⟨_ | _, _⟩ <;> rfl

@[simp]
theorem run_pure (a : α) (s : σ) : (pure a : ExceptT Stop (StateM σ) α) s = (.ok a, s) := rfl

@[simp]
theorem run_throw (stop : Stop) (s : σ) :
    (throw stop : ExceptT Stop (StateM σ) α) s = (.error stop, s) := rfl

@[simp]
theorem run_get (s : σ) : (get : ExceptT Stop (StateM σ) σ) s = (.ok s, s) := rfl

@[simp]
theorem run_set (s s' : σ) : (set s' : ExceptT Stop (StateM σ) PUnit) s = (.ok (), s') := rfl

@[simp]
theorem run_modify (f : σ → σ) (s : σ) :
    (modify f : ExceptT Stop (StateM σ) PUnit) s = (.ok (), f s) := rfl

@[simp]
theorem run_map (f : α → β) (x : ExceptT Stop (StateM σ) α) (s : σ) :
    (f <$> x) s = ((x s).1.map f, (x s).2) := by
  simp only [Functor.map, ExceptT.map, ExceptT.mk, bind, StateT.bind]
  rcases x s with ⟨_ | _, _⟩ <;> rfl

/-- A program that only gives its result another form. -/
theorem run_answer (x : ExceptT Stop (StateM σ) α) (f : α → β) (s : σ) :
    (do return f (← x) : ExceptT Stop (StateM σ) β) s = ((x s).1.map f, (x s).2) := by
  rw [run_bind]
  rcases x s with ⟨_ | _, _⟩ <;> rfl

theorem run_tryCatch (x : ExceptT Stop (StateM σ) α) (f : Stop → ExceptT Stop (StateM σ) α) (s : σ) :
    (tryCatch x f) s = match x s with
      | (.ok a, s') => (.ok a, s')
      | (.error stop, s') => f stop s' := by
  simp only [tryCatch, tryCatchThe, MonadExceptOf.tryCatch, ExceptT.tryCatch, ExceptT.mk, bind,
    StateT.bind]
  rcases x s with ⟨_ | _, _⟩ <;> rfl

/-! ## Replies -/

namespace Reply

/-- What a caller that takes faults into its own hands is told. -/
def received : Reply α → Except Stop (Except Fault α)
  | done a => .ok (.ok a)
  | failed fault => .ok (.error fault)
  | crashed => .error .crash

/-- What a caller that passes faults on is told. -/
def result : Reply α → Except Stop α
  | done a => .ok a
  | failed fault => .error (.error (.backend fault))
  | crashed => .error .crash

end Reply

/-! ## Operations on a line -/

namespace Line

variable (b : Backend H W) (line : Line H W)

/-- The backend's flag for the handle of the line. -/
def inTransaction : Bool := b.inTransaction line.handle line.world

/-- The line after a call that led to a place. -/
def moved (call : Call) (place : H × W) : Line H W :=
  { line with handle := place.1, world := place.2, events := line.events ++ [.call call] }

/-- The line after a notice. -/
def noted (notice : Notice) : Line H W := { line with events := line.events ++ [.notice notice] }

/-- The line after it has observed the backend's flag. -/
def observed : Line H W :=
  { line with transactions := line.transactions.observe (line.inTransaction b) }

theorem note_run (notice : Notice) : note notice line = (.ok (), line.noted notice) := rfl

theorem sync_run : sync b line = (.ok (), line.observed b) := rfl

theorem reset_run : reset line = (.ok (), { line with transactions := .idle }) := rfl

theorem record_run :
    record b line =
      (.ok (), { line with transactions := (line.observed b).transactions.count }) := rfl

theorem attempt_run (call : Call) (run : H → W → Reply α × H × W) :
    attempt call run line =
      ((run line.handle line.world).1.received, line.moved call (run line.handle line.world).2) := by
  unfold attempt emit
  rcases h : run line.handle line.world with ⟨_ | _ | _, place⟩ <;>
    simp [run_bind, h, moved, Reply.received]

theorem ask_run (call : Call) (run : H → W → Reply α × H × W) :
    ask call run line =
      ((run line.handle line.world).1.result, line.moved call (run line.handle line.world).2) := by
  unfold ask
  rw [run_bind, attempt_run]
  rcases (run line.handle line.world).1 with _ | _ | _ <;> rfl

theorem close_run :
    close b line =
      ((b.close line.handle line.world).1.received,
        line.moved .close (line.handle, (b.close line.handle line.world).2)) := by
  unfold close
  rw [attempt_run]

variable {b line}

theorem begin_run_of_open (hopen : line.inTransaction b = true) :
    begin b line = (.ok (), (line.observed b).noted .beginIgnored) := by
  unfold begin
  simp [run_bind, sync_run, observed, hopen, note_run]

theorem begin_run_of_closed (hclosed : line.inTransaction b = false) :
    begin b line =
      let moved := (line.observed b).moved .begin (b.begin line.handle line.world).2
      match (b.begin line.handle line.world).1 with
      | .done () => (.ok (), ({ moved with transactions := ⟨true, 0⟩ } : Line H W).noted .started)
      | .failed fault => (.error (.error (.backend fault)), moved)
      | .crashed => (.error .crash, moved) := by
  unfold begin
  rcases h : b.begin line.handle line.world with ⟨_ | _ | _, place⟩ <;>
    simp [run_bind, sync_run, observed, hclosed, note_run, ask_run, h, Reply.result]

theorem commit_run_of_open (hopen : line.inTransaction b = true) :
    commit b line =
      let moved := (line.observed b).moved .commit (b.commit line.handle line.world).2
      match (b.commit line.handle line.world).1 with
      | .done () =>
        (.ok (),
          { moved.noted (.committed moved.transactions.statements) with transactions := .idle })
      | .failed fault => (.error (.error (.backend fault)), moved)
      | .crashed => (.error .crash, moved) := by
  unfold commit
  rcases h : b.commit line.handle line.world with ⟨_ | _ | _, place⟩ <;>
    simp [run_bind, sync_run, observed, hopen, note_run, ask_run, h, Reply.result, reset_run]

theorem commit_run_of_closed (hclosed : line.inTransaction b = false) :
    commit b line = (.ok (), line.observed b) := by
  unfold commit
  simp [run_bind, sync_run, observed, hclosed]

/-- The bookkeeping follows the backend's flag whatever the answer is, as long as there is one. -/
theorem rollback_run_of_open (hopen : line.inTransaction b = true) :
    rollback b line =
      let reply := (b.rollback line.handle line.world).1
      let moved := (line.observed b).moved .rollback (b.rollback line.handle line.world).2
      (reply.result, match reply with
        | .crashed => moved
        | _ => (moved.noted (.rolledBack moved.transactions.statements)).observed b) := by
  unfold rollback
  rcases h : b.rollback line.handle line.world with ⟨_ | _ | _, place⟩ <;>
    simp [run_bind, sync_run, observed, hopen, note_run, attempt_run, h, Reply.received,
      Reply.result]

theorem rollback_run_of_closed (hclosed : line.inTransaction b = false) :
    rollback b line = (.ok (), line.observed b) := by
  unfold rollback
  simp [run_bind, sync_run, observed, hclosed]

end Line

/-! ## Operations of a session -/

namespace Machine

variable (m : Machine H W)

/-- The line of a handle with the session's bookkeeping. -/
def line (handle : H) : Line H W := ⟨m.session.transactions, handle, m.world, m.events⟩

/-- The machine that takes over the end of a line, and a handle. -/
def withLine (handle : Option H) (line : Line H W) : Machine H W :=
  { session := { m.session with handle, transactions := line.transactions }
    world := line.world
    events := line.events }

/-- The machine after some events. -/
def reported (events : List Event) : Machine H W := { m with events := m.events ++ events }

/-- The machine after a call that led its handle to a place. -/
def moved (call : Call) (place : H × W) : Machine H W :=
  { session := { m.session with handle := some place.1 }
    world := place.2
    events := m.events ++ [.call call] }

@[simp]
theorem reported_session (events : List Event) : (m.reported events).session = m.session := rfl

@[simp]
theorem reported_world (events : List Event) : (m.reported events).world = m.world := rfl

@[simp]
theorem moved_handle (call : Call) (place : H × W) :
    (m.moved call place).session.handle = some place.1 := rfl

@[simp]
theorem moved_world (call : Call) (place : H × W) : (m.moved call place).world = place.2 := rfl

@[simp]
theorem moved_mapper (call : Call) (place : H × W) :
    (m.moved call place).session.mapper = m.session.mapper := rfl

/-- The machine that has counted a statement, under the flag found at a place. -/
def recorded (b : Backend H W) (place : H × W) : Machine H W :=
  let observed := m.session.transactions.observe (b.inTransaction place.1 place.2)
  { m with session := { m.session with transactions := observed.count } }

end Machine

namespace Session

/-- The events of an entry of the SQL trace; there are none when the trace is off. -/
def traced (s : Session H) (entry : Trace) : List Event :=
  if s.config.trace then [.trace entry] else []

/-- What the caller of a query is told. -/
def queried (s : Session H) : Reply α → Except Stop α
  | .done a => .ok a
  | .failed fault => .error (.error (s.raise fault))
  | .crashed => .error .crash

variable {b : Backend H W} {m : Machine H W} {h : H}

theorem note_run (notice : Notice) (m : Machine H W) :
    note notice m = (.ok (), m.reported [.notice notice]) := rfl

theorem trace_run (entry : Trace) (m : Machine H W) :
    trace entry m = (.ok (), m.reported (m.session.traced entry)) := by
  unfold trace traced
  by_cases h : m.session.config.trace <;> simp [run_bind, h, Machine.reported, emit]

theorem onHandle_run (h : H) (keep : H → Option H) (operation : LineM H W α) (m : Machine H W) :
    onHandle h keep operation m =
      let ended := operation (m.line h)
      (ended.1, m.withLine (keep ended.2.handle) ended.2) := rfl

theorem connected_run_of_some (hm : m.session.handle = some h) (operation : LineM H W α) :
    connected operation m =
      let ended := operation (m.line h)
      (ended.1, m.withLine (some ended.2.handle) ended.2) := by
  unfold connected
  simp only [run_bind, run_get, hm]
  exact onHandle_run h some operation m

theorem connected_run_of_none (hm : m.session.handle = none) (operation : LineM H W α) :
    connected operation m = (.error (.error (.notConnected m.session.config.context)), m) := by
  unfold connected
  simp [run_bind, hm]

theorem attempt_run_of_some (hm : m.session.handle = some h) (call : Call)
    (run : H → W → Reply α × H × W) :
    connected (Line.attempt call run) m =
      ((run h m.world).1.received, m.moved call (run h m.world).2) := by
  rw [connected_run_of_some hm, Line.attempt_run]
  rfl

theorem record_run_of_some {w : W} (hm : m.session.handle = some h) (hw : m.world = w) :
    connected (Line.record b) m = (.ok (), m.recorded b (h, w)) := by
  subst hw
  rw [connected_run_of_some hm, Line.record_run]
  simp only [Machine.withLine, Machine.recorded, Machine.line, Line.observed, Line.inTransaction,
    ← hm]

theorem select_run_of_some (hm : m.session.handle = some h) (options : SelectOptions) :
    select b options m =
      let sql := Dialect.selectSql options.select options.primaryKey
      (m.session.queried (b.query sql h m.world).1,
        (m.reported (m.session.traced (.statement sql))).moved (.query sql)
          (b.query sql h m.world).2) := by
  unfold select
  rw [run_bind, trace_run]
  simp only
  rw [run_bind, attempt_run_of_some (by exact hm)]
  rcases hr : b.query (Dialect.selectSql options.select options.primaryKey) h m.world with
    ⟨_ | _ | _, place⟩ <;>
    simp [hr, Reply.received, queried, run_bind, raise]

/-- Without a handle nothing is done but to write the text to the trace, and the same holds of mutations. -/
theorem select_run_of_none (hm : m.session.handle = none) (options : SelectOptions) :
    select b options m =
      (.error (.error (.notConnected m.session.config.context)),
        m.reported (m.session.traced
          (.statement (Dialect.selectSql options.select options.primaryKey)))) := by
  unfold select
  rw [run_bind, trace_run]
  simp only
  rw [run_bind, connected_run_of_none (by exact hm)]
  rfl

theorem openCursor_run (options : SelectOptions) (m : Machine H W) :
    openCursor b options m =
      match select b options m with
      | (.ok rows, m') => (.ok (.ofRows rows), m'.reported [.notice (.cursorOpened rows.length)])
      | (.error stop, m') => (.error stop, m') := by
  unfold openCursor
  rw [run_bind]
  rcases select b options m with ⟨_ | rows, m'⟩ <;> rfl

theorem insert_run_of_some (hm : m.session.handle = some h) (options : InsertOptions) :
    insert b options m =
      let sql := Dialect.insertSql options.table options.columns options.values
      let place := (b.executeBatch sql h m.world).2
      let moved := (m.reported (m.session.traced (.statement sql))).moved (.executeBatch sql) place
      match (b.executeBatch sql h m.world).1 with
      | .done () => (.ok (.ok 1), moved.recorded b place)
      | .failed fault =>
        (.ok .notFound, (moved.reported (m.session.traced (.insertFailed fault))).recorded b place)
      | .crashed => (.error .crash, moved) := by
  unfold insert
  rw [run_bind, trace_run]
  simp only
  rw [run_bind, attempt_run_of_some (by exact hm)]
  rcases hr : b.executeBatch (Dialect.insertSql options.table options.columns options.values) h
    m.world with ⟨_ | fault | _, h', w'⟩
  · simp [hr, Reply.received, run_bind, record_run_of_some, Except.map]
  · simp [hr, Reply.received, run_bind, record_run_of_some, trace_run, Except.map]
    rfl
  · simp [hr, Reply.received]

theorem insert_run_of_none (hm : m.session.handle = none) (options : InsertOptions) :
    insert b options m =
      (.error (.error (.notConnected m.session.config.context)),
        m.reported (m.session.traced
          (.statement (Dialect.insertSql options.table options.columns options.values)))) := by
  unfold insert
  rw [run_bind, trace_run]
  simp only
  rw [run_bind, connected_run_of_none (by exact hm)]
  rfl

theorem mutate_run_of_none (hm : m.session.handle = none) (sql : String) :
    mutate b sql m =
      (.error (.error (.notConnected m.session.config.context)),
        m.reported (m.session.traced (.statement sql))) := by
  unfold mutate
  rw [run_bind, trace_run]
  simp only
  rw [connected_run_of_none (by exact hm)]
  rfl

theorem mutate_run_of_some (hm : m.session.handle = some h) (sql : String) :
    mutate b sql m =
      let place := (b.execute sql h m.world).2
      let moved := (m.reported (m.session.traced (.statement sql))).moved (.execute sql) place
      match (b.execute sql h m.world).1 with
      | .done count => (.ok (.ofCount count), moved.recorded b place)
      | .failed fault =>
        (.ok .notFound, (moved.reported [.notice (.mutationFailed fault)]).recorded b place)
      | .crashed => (.error .crash, moved) := by
  unfold mutate
  rw [run_bind, trace_run]
  simp only
  rw [connected_run_of_some (by exact hm), run_bind, Line.attempt_run]
  rcases hr : b.execute sql h m.world with ⟨_ | fault | _, h', w'⟩
  all_goals
    simp [hr, Reply.received, run_bind, Line.record_run, Line.note_run, Machine.line]
    try rfl

theorem executeOne_run_of_empty {sql : String} (hsql : sql.isEmpty = true) (m : Machine H W) :
    executeOne b sql m = (.ok (), m) := by
  unfold executeOne
  rw [if_pos hsql]
  rfl

theorem executeOne_run_of_some {sql : String} (hsql : sql.isEmpty = false)
    (hm : m.session.handle = some h) :
    executeOne b sql m =
      let place := (b.executeBatch sql h m.world).2
      let moved := (m.reported [.notice (.executing sql)]).moved (.executeBatch sql) place
      match (b.executeBatch sql h m.world).1 with
      | .done () => (.ok (), moved.recorded b place)
      | .failed fault => (.error (.error (.backend fault)), moved)
      | .crashed => (.error .crash, moved) := by
  unfold executeOne
  rw [if_neg (by simp [hsql]), connected_run_of_some hm, run_bind, Line.note_run]
  simp only
  rw [run_bind, Line.ask_run]
  rcases hr : b.executeBatch sql h m.world with ⟨_ | fault | _, h', w'⟩
  all_goals
    simp [hr, Reply.result, Line.record_run, Machine.line, Line.noted]
    rfl

theorem executeOne_run_of_none {sql : String} (hsql : sql.isEmpty = false)
    (hm : m.session.handle = none) :
    executeOne b sql m = (.error (.error (.notConnected m.session.config.context)), m) := by
  unfold executeOne
  rw [if_neg (by simp [hsql]), connected_run_of_none hm]

theorem executeAll_run_cons (sql : String) (rest : List String) (m : Machine H W) :
    executeAll b (sql :: rest) m = match executeOne b sql m with
      | (.ok (), m') => executeAll b rest m'
      | (.error stop, m') => (.error stop, m') := by
  rw [executeAll, run_bind]
  rcases executeOne b sql m with ⟨stop | _, m'⟩ <;> rfl

/-- A script by itself is run as the only one of a batch. -/
theorem execute_eq (b : Backend H W) (script : Script) :
    execute b script = executeAll b script.toList := by
  cases script with
  | batch scripts => rfl
  | single sql =>
      funext m
      show executeOne b sql m = executeAll b [sql] m
      rw [executeAll_run_cons]
      rcases executeOne b sql m with ⟨stop | _, m'⟩ <;> rfl

theorem disconnect_run_of_none (hm : m.session.handle = none) : disconnect b m = (.ok (), m) := by
  unfold disconnect
  simp [run_bind, hm]

/-- The handle is gone however the calls end, and a fault of the first call hides one of the second. -/
theorem disconnect_run_of_some (hm : m.session.handle = some h) :
    disconnect b m =
      match Line.rollback b (m.line h) with
      | (.error .crash, line) => (.error .crash, m.withLine none line)
      | (rolledBack, line) =>
        let closed := m.withLine none
          ({ line with transactions := .idle }.moved .close
            (line.handle, (b.close line.handle line.world).2))
        let ended := closed.reported [.notice (.disconnected m.session.config.context)]
        match (b.close line.handle line.world).1, rolledBack with
        | .crashed, _ => (.error .crash, closed)
        | _, .error stop => (.error stop, ended)
        | reply, .ok () => (reply.result, ended) := by
  unfold disconnect
  rw [run_bind, run_get]
  simp only [hm]
  rw [run_bind, onHandle_run, run_bind, run_tryCatch, run_bind]
  rcases Line.rollback b (m.line h) with ⟨(_ | _) | _, line⟩ <;>
    rcases hr : b.close line.handle line.world with ⟨_ | _ | _, w⟩ <;>
    simp [run_bind, Line.reset_run, Line.close_run, hr, Reply.received, Reply.result, note_run,
      Except.map]

theorem release_run (b : Backend H W) (m : Machine H W) :
    release b m =
      match disconnect b m with
      | (.ok (), m') => (.ok (), m')
      | (.error (.error e), m') =>
        (.ok (), m'.reported [.notice (.releaseFailed m.session.config.context e)])
      | (.error .crash, m') => (.error .crash, m') := by
  unfold release
  rw [run_bind, run_get]
  simp only
  rw [run_tryCatch]
  rcases disconnect b m with ⟨(e | _) | _, m'⟩ <;> rfl

/-- Gives back the handle that a new one is to replace. -/
def cleared (b : Backend H W) (m : Machine H W) : Except Stop Unit × Machine H W :=
  if m.session.isConnected then
    release b (m.reported [.notice (.replacingConnection m.session.config.context)])
  else (.ok (), m)

theorem notes_run (notices : List Notice) (m : Machine H W) :
    (notices.foldlM (fun _ notice => note notice) PUnit.unit : SessionM H W PUnit) m =
      (.ok (), m.reported (notices.map .notice)) := by
  induction notices generalizing m with
  | nil => simp [Machine.reported]
  | cons notice notices ih =>
      rw [List.foldlM_cons, run_bind, note_run]
      simp only [ih, Machine.reported, List.map_cons, List.append_assoc, List.singleton_append]

/-- Asks for a handle and takes it. -/
def opened (b : Backend H W) (config : SessionConfig) (m : Machine H W) :
    Except Stop Unit × Machine H W :=
  let asked : Machine H W :=
    { m with
      world := (b.openHandle config m.world).2
      events := m.events ++ [.call (.openHandle config.database)] }
  match (b.openHandle config m.world).1 with
  | .failed fault => (.error (.error (.backend fault)), asked)
  | .crashed => (.error .crash, asked)
  | .done handle =>
    let told := asked.reported
      ((b.openNotices config).map .notice ++ [.notice (.connected config.context b.name)])
    (.ok (), { told with session := { m.session with handle := some handle, transactions := .idle } })

theorem connect_run (b : Backend H W) (m : Machine H W) :
    connect b m =
      match cleared b m with
      | (.ok (), m') => opened b m.session.config m'
      | (.error stop, m') => (.error stop, m') := by
  unfold connect cleared
  simp only [run_bind, run_get]
  split
  · simp only [run_bind, note_run]
    rcases release b (m.reported [.notice (.replacingConnection m.session.config.context)]) with
      ⟨_ | _, m'⟩
    · rfl
    · rcases hr : b.openHandle m.session.config m'.world with ⟨_ | _ | _, w⟩ <;>
        simp [opened, hr, run_bind, emit, notes_run, note_run, Machine.reported]
  · rcases hr : b.openHandle m.session.config m.world with ⟨_ | _ | _, w⟩ <;>
      simp [opened, hr, run_bind, emit, notes_run, note_run, Machine.reported]

end Session

/-! ## Requests and runs -/

namespace Machine

variable (b : Backend H W) (m : Machine H W)

/-- A request gives the result of its operation as an answer. -/
theorem perform_run (request : Request) :
    m.perform b request = match request with
      | .connect => ((Session.connect b m).1.map fun _ => .done, (Session.connect b m).2)
      | .disconnect => ((Session.disconnect b m).1.map fun _ => .done, (Session.disconnect b m).2)
      | .execute script =>
        ((Session.execute b script m).1.map fun _ => .done, (Session.execute b script m).2)
      | .select options =>
        ((Session.select b options m).1.map .rows, (Session.select b options m).2)
      | .openCursor options =>
        ((Session.openCursor b options m).1.map .cursor, (Session.openCursor b options m).2)
      | .insert options =>
        ((Session.insert b options m).1.map .outcome, (Session.insert b options m).2)
      | .update options =>
        ((Session.update b options m).1.map .outcome, (Session.update b options m).2)
      | .delete options =>
        ((Session.delete b options m).1.map .outcome, (Session.delete b options m).2)
      | .begin => ((Session.begin b m).1.map fun _ => .done, (Session.begin b m).2)
      | .commit => ((Session.commit b m).1.map fun _ => .done, (Session.commit b m).2)
      | .rollback => ((Session.rollback b m).1.map fun _ => .done, (Session.rollback b m).2) := by
  cases request <;> exact run_answer _ _ m

theorem performAll_append (requests more : List Request) :
    m.performAll b (requests ++ more) =
      ((m.performAll b requests).1 ++ ((m.performAll b requests).2.performAll b more).1,
        ((m.performAll b requests).2.performAll b more).2) := by
  induction requests generalizing m with
  | nil => rfl
  | cons request requests ih =>
      rw [List.cons_append]
      simp only [performAll, ih, List.cons_append]

/-- What every request of a run keeps, the run keeps. -/
theorem performAll_preserves {Inv : Machine H W → Prop} {requests : List Request}
    (hstep : ∀ request ∈ requests, ∀ m, Inv m → Inv (m.perform b request).2) (hm : Inv m) :
    Inv (m.performAll b requests).2 := by
  induction requests generalizing m with
  | nil => exact hm
  | cons request requests ih =>
      exact ih _ (fun r hr => hstep r (List.mem_cons_of_mem _ hr))
        (hstep request List.mem_cons_self m hm)

/-- What holds of the result of a request in any state holds of every result of a run. -/
theorem performAll_results {P : Result → Prop}
    (hstep : ∀ (m : Machine H W) request, P (m.perform b request).1)
    {requests : List Request} {result : Result} (hmem : result ∈ (m.performAll b requests).1) :
    P result := by
  induction requests generalizing m with
  | nil => cases hmem
  | cons request requests ih =>
      obtain rfl | hmem := List.mem_cons.mp hmem
      · exact hstep m request
      · exact ih _ hmem

end Machine

end OpenSql
