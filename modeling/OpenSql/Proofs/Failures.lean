/-
# OpenSql.Proofs.Failures — what an operation fails with, and what is to blame.

Faults of the backend end in one of three ways.  Mutations fold them into an outcome and never fail,
queries raise them through the mapper, and every other operation passes them on as they are.  The only
failure that no fault is behind is the one of a session without a handle.

What is to blame is found in the calls: those that an operation has made on its handle tell how it
ended, and a fault is the one with which the first failing call came back.
-/
import OpenSql.Proofs.Atomicity
import OpenSql.Proofs.Lifecycle
import OpenSql.Proofs.Resemblance

namespace OpenSql

variable {H W : Type}

/-! ## What calls tell -/

/-- What is told of a call and of those after it: the first fault, unless one did not come back. -/
def Reply.before : Reply Unit → Except Stop Unit → Except Stop Unit
  | .done _, rest => rest
  | .failed _, .error .crash => .error .crash
  | .failed fault, _ => .error (.error (.backend fault))
  | .crashed, _ => .error .crash

theorem Reply.error_of_failed_before {fault : Fault} {rest : Except Stop Unit} {error : DbError}
    (h : (Reply.failed fault).before rest = .error (.error error)) : error = .backend fault := by
  rcases rest with (_ | _) | _ <;> cases h <;> rfl

/-- How a call on a handle ends at a place, whatever it answers.  Opening is no call on a handle. -/
def Backend.reply (b : Backend H W) (place : H × W) : Call → Reply Unit
  | .begin => (b.begin place.1 place.2).1
  | .commit => (b.commit place.1 place.2).1
  | .rollback => (b.rollback place.1 place.2).1
  | .executeBatch sql => (b.executeBatch sql place.1 place.2).1
  | .execute sql => (b.execute sql place.1 place.2).1.map fun _ => ()
  | .query sql => (b.query sql place.1 place.2).1.map fun _ => ()
  | .close => (b.close place.1 place.2).1
  | .openHandle _ => .done ()

/-- What calls on a handle tell that were made one after another. -/
def Backend.told (b : Backend H W) (place : H × W) : List Call → Except Stop Unit
  | [] => .ok ()
  | call :: calls =>
    (b.reply place call).before ((b.act place call).elim (.ok ()) (b.told · calls))

namespace Backend

variable {b : Backend H W} {place : H × W}

theorem told_singleton (call : Call) : b.told place [call] = (b.reply place call).result := by
  have hrest : (b.act place call).elim (.ok ()) (b.told · []) = .ok () := by
    cases b.act place call <;> rfl
  rw [told, hrest]
  cases b.reply place call <;> rfl

theorem told_cons_of_done {call : Call} {next : H × W} {calls : List Call}
    (hreply : b.reply place call = .done ()) (hact : b.act place call = some next) :
    b.told place (call :: calls) = b.told next calls := by
  rw [told, hreply, hact]
  rfl

/-- An error that calls tell is the fault of one of them, and those before it did not fail. -/
theorem exists_of_told_error {calls : List Call} {error : DbError}
    (htold : b.told place calls = .error (.error error)) :
    ∃ before call after next fault, calls = before ++ call :: after ∧ b.told place before = .ok () ∧
      b.replay place before = some next ∧ b.reply next call = .failed fault ∧
      error = .backend fault := by
  -- The first call fails, or the rest tells the error from the place to which it has led.
  induction calls generalizing place with
  | nil => cases htold
  | cons call calls ih =>
      rw [told] at htold
      cases hreply : b.reply place call with
      | crashed =>
          rw [hreply] at htold
          cases htold
      | failed fault =>
          rw [hreply] at htold
          exact ⟨[], call, calls, place, fault, rfl, rfl, rfl, hreply,
            Reply.error_of_failed_before htold⟩
      | done _ =>
          rw [hreply] at htold
          cases hact : b.act place call with
          | none =>
              rw [hact] at htold
              cases htold
          | some next =>
              rw [hact] at htold
              obtain ⟨before, failing, after, last, fault, rfl, hbefore, hplace, hfails, herror⟩ :=
                ih htold
              refine ⟨call :: before, failing, after, last, fault, rfl, ?_, ?_, hfails, herror⟩
              · rw [told_cons_of_done hreply hact]
                exact hbefore
              · rw [replay, hact]
                exact hplace

end Backend

/-- What is told of giving up a handle is what the calls tell that give it up. -/
theorem Teardown.told_eq {b : Backend H W} {h : H} {w w' : W} {calls : List Call}
    {told : Except Stop Unit} (hteardown : Teardown b h w calls told w') :
    told = b.told (h, w) calls := by
  cases hteardown with
  -- A single call tells its own reply; of two the fault of the rollback goes first.
  | closed hflag hclose =>
      rw [Backend.told_singleton, Backend.reply, hclose]
  | @rolledBack first second _ _ _ hflag hroll hback hclose =>
      rw [Backend.told, Backend.reply, Backend.act, hroll, Option.elim, Backend.told_singleton,
        Backend.reply, hclose]
      cases first with
      | crashed => exact absurd rfl hback
      | done _ | failed _ => cases second <;> rfl
  | lost hflag hroll =>
      rw [Backend.told_singleton, Backend.reply, hroll]
      rfl

/-! ## Operations that pass faults on -/

/-- An operation on a line whose result is what its calls tell. -/
def Line.Tells (b : Backend H W) (operation : LineM H W Unit) : Prop :=
  ∀ line, ∃ calls, Event.calls (operation line).2.events = Event.calls line.events ++ calls ∧
    (operation line).1 = b.told (line.handle, line.world) calls

/-- An operation of a session whose result is what its calls on the session's handle tell. -/
def Session.Tells (b : Backend H W) (operation : SessionM H W Unit) : Prop :=
  ∀ m h, m.session.handle = some h → ∃ calls,
    Event.calls (operation m).2.events = Event.calls m.events ++ calls ∧
    (operation m).1 = b.told (h, m.world) calls

namespace Line

variable (b : Backend H W)

theorem begin_tells : Tells b (begin b) := by
  intro line
  cases hflag : line.inTransaction b with
  | true =>
      rw [begin_run_of_open hflag]
      exact ⟨[], by simp [noted, observed], rfl⟩
  | false =>
      refine ⟨[.begin], ?_⟩
      rw [begin_run_of_closed hflag, Backend.told_singleton, Backend.reply]
      rcases (b.begin line.handle line.world).1 with _ | fault | _ <;>
        exact ⟨by simp [noted, moved, observed], rfl⟩

theorem commit_tells : Tells b (commit b) := by
  intro line
  cases hflag : line.inTransaction b with
  | true =>
      refine ⟨[.commit], ?_⟩
      rw [commit_run_of_open hflag, Backend.told_singleton, Backend.reply]
      rcases (b.commit line.handle line.world).1 with _ | fault | _ <;>
        exact ⟨by simp [noted, moved, observed], rfl⟩
  | false =>
      rw [commit_run_of_closed hflag]
      exact ⟨[], by simp [observed], rfl⟩

theorem rollback_tells : Tells b (rollback b) := by
  intro line
  cases hflag : line.inTransaction b with
  | true =>
      refine ⟨[.rollback], ?_⟩
      rw [rollback_run_of_open hflag, Backend.told_singleton, Backend.reply]
      rcases (b.rollback line.handle line.world).1 with _ | fault | _ <;>
        exact ⟨by simp [noted, moved, observed], rfl⟩
  | false =>
      rw [rollback_run_of_closed hflag]
      exact ⟨[], by simp [observed], rfl⟩

end Line

namespace Session

variable {b : Backend H W} {m : Machine H W}

theorem tells_connected {operation : LineM H W Unit} (hoperation : Line.Tells b operation) :
    Tells b (connected operation) := by
  intro m h hm
  rw [connected_run_of_some hm]
  exact hoperation (m.line h)

/-- Scripts are run up to the first that fails, which is the last call. -/
theorem executeAll_tells (b : Backend H W) (scripts : List String) : Tells b (executeAll b scripts) := by
  induction scripts with
  | nil => exact fun m h _ => ⟨[], (List.append_nil _).symm, rfl⟩
  | cons sql rest ih =>
      intro m h hm
      rw [executeAll_run_cons]
      cases hsql : sql.isEmpty with
      | true =>
          rw [executeOne_run_of_empty hsql]
          exact ih m h hm
      | false =>
          rw [executeOne_run_of_some hsql hm]
          have hsingle : b.told (h, m.world) [.executeBatch sql] =
              (b.executeBatch sql h m.world).1.result := Backend.told_singleton _
          rcases hr : b.executeBatch sql h m.world with ⟨_ | fault | _, place⟩
          · -- The rest begins where this script has led the handle, and tells what is left to tell.
            obtain ⟨calls, hcalls, htold⟩ := ih
              (((m.reported [.notice (.executing sql)]).moved (.executeBatch sql) place).recorded b
                place) place.1 rfl
            refine ⟨.executeBatch sql :: calls, ?_, ?_⟩
            · simp only
              rw [hcalls]
              simp [Machine.recorded, Machine.moved, Machine.reported]
            · have hreply : b.reply (h, m.world) (.executeBatch sql) = .done () := by
                simp [Backend.reply, hr]
              have hact : b.act (h, m.world) (.executeBatch sql) = some place := by
                simp [Backend.act, hr]
              simp only
              rw [htold, Backend.told_cons_of_done hreply hact]
              rfl
          · rw [hr] at hsingle
            exact ⟨[.executeBatch sql], by simp [Machine.moved, Machine.reported], hsingle.symm⟩
          · rw [hr] at hsingle
            exact ⟨[.executeBatch sql], by simp [Machine.moved, Machine.reported], hsingle.symm⟩

theorem disconnect_tells (b : Backend H W) : Tells b (disconnect b) := by
  intro m h hm
  obtain ⟨calls, hteardown, hcalls⟩ := (disconnect_givesUp (b := b) hm).calls
  exact ⟨calls, hcalls, hteardown.told_eq⟩

end Session

/-! ## Sessions without a handle -/

/-- The error of a session without a handle. -/
def Session.unconnected (s : Session H) : DbError := .notConnected s.config.context

namespace Session

variable {b : Backend H W} {α β : Type}

/-- An operation that fails without a handle, for that reason. -/
def NeedsHandle (operation : SessionM H W α) : Prop :=
  ∀ m, m.session.handle = none → (operation m).1 = .error (.error m.session.unconnected)

theorem needsHandle_connected (operation : LineM H W α) : NeedsHandle (connected operation) := by
  intro m hnone
  rw [connected_run_of_none hnone]
  rfl

theorem NeedsHandle.bind {x : SessionM H W α} (hx : NeedsHandle x) (f : α → SessionM H W β) :
    NeedsHandle (x >>= f) := by
  intro m hnone
  have hfails := hx m hnone
  rw [run_bind]
  rcases hr : x m with ⟨result, m'⟩
  rw [hr] at hfails
  obtain rfl : result = _ := hfails
  rfl

/-- The trace is written before the session looks at its connection. -/
theorem NeedsHandle.traced {x : SessionM H W α} (hx : NeedsHandle x) (entry : Trace) :
    NeedsHandle (trace entry >>= fun _ => x) := by
  intro m hnone
  rw [run_bind, trace_run]
  exact hx (m.reported (m.session.traced entry)) hnone

theorem needsHandle_select (options : SelectOptions) : NeedsHandle (select b options) :=
  ((needsHandle_connected _).bind _).traced _

theorem needsHandle_insert (options : InsertOptions) : NeedsHandle (insert b options) :=
  ((needsHandle_connected _).bind _).traced _

theorem needsHandle_mutate (sql : String) : NeedsHandle (mutate b sql) :=
  (needsHandle_connected _).traced _

/-- Empty texts are passed over with and without a handle. -/
theorem executeAll_result_of_none {m : Machine H W} (hnone : m.session.handle = none)
    (scripts : List String) :
    (executeAll b scripts m).1 =
      if scripts.any fun sql => !sql.isEmpty then .error (.error m.session.unconnected) else .ok () := by
  induction scripts with
  | nil => rfl
  | cons sql rest ih =>
      rw [executeAll_run_cons, List.any_cons]
      cases hsql : sql.isEmpty with
      | true =>
          rw [executeOne_run_of_empty hsql]
          exact ih
      | false =>
          rw [executeOne_run_of_none hsql hnone]
          rfl

end Session

/-- The request cannot do without a handle; a script can when there is nothing in it. -/
def Request.needsHandle : Request → Bool
  | .connect | .disconnect => false
  | .execute script => script.toList.any fun sql => !sql.isEmpty
  | _ => true

/-- Without a handle an operation but the connecting one has two results, and nothing happens. -/
theorem Machine.perform_of_none {b : Backend H W} {m : Machine H W} (hnone : m.session.handle = none)
    {request : Request} (hconnect : request ≠ .connect) :
    (m.perform b request).1 = (if request.needsHandle then
      .error (.error m.session.unconnected) else .ok .done) ∧
    (m.perform b request).2.session = m.session ∧ (m.perform b request).2.world = m.world ∧
    Event.calls (m.perform b request).2.events = Event.calls m.events := by
  have hanswer {α : Type} {x : SessionM H W α} (hx : Session.NeedsHandle x) (answer : α → Answer) :
      (x m).1.map answer = .error (.error m.session.unconnected) := by
    rw [hx m hnone]
    rfl
  constructor
  · rw [perform_run]
    cases request with
    | connect => exact absurd rfl hconnect
    | disconnect =>
        simp only
        rw [Session.disconnect_run_of_none hnone]
        rfl
    | execute script =>
        have hresult : (Session.execute b script m).1 = if (Request.execute script).needsHandle then
            .error (.error m.session.unconnected) else .ok () := by
          rw [Session.execute_eq]
          exact Session.executeAll_result_of_none hnone script.toList
        simp only [hresult]
        cases (Request.execute script).needsHandle <;> rfl
    | select options => exact hanswer (Session.needsHandle_select options) _
    | openCursor options => exact hanswer ((Session.needsHandle_select options).bind _) _
    | insert options => exact hanswer (Session.needsHandle_insert options) _
    | update options => exact hanswer (Session.needsHandle_mutate _) _
    | delete options => exact hanswer (Session.needsHandle_mutate _) _
    | begin => exact hanswer (Session.needsHandle_connected _) _
    | commit => exact hanswer (Session.needsHandle_connected _) _
    | rollback => exact hanswer (Session.needsHandle_connected _) _
  · by_cases hkeeps : request.keepsHandle = true
    · exact (m.perform_follows b hkeeps).ofNone hnone
    · cases request with
      | connect => exact absurd rfl hconnect
      | disconnect =>
          rw [perform_run]
          simp only
          rw [Session.disconnect_run_of_none hnone]
          exact ⟨rfl, rfl, rfl⟩
      | _ => exact absurd rfl hkeeps

/-! ## Requests with a handle -/

/-- Opening a cursor goes as the query does. -/
theorem Session.openCursor_as_select {b : Backend H W} (options : SelectOptions) (m : Machine H W) :
    (openCursor b options m).1 = (select b options m).1.map .ofRows ∧
      (openCursor b options m).2.session = (select b options m).2.session := by
  rw [openCursor_run]
  rcases select b options m with ⟨stop | rows, m'⟩ <;> exact ⟨rfl, rfl⟩

/-- The request passes on the faults of its calls on the handle. -/
def Request.passesFaults : Request → Bool
  | .disconnect | .execute _ | .begin | .commit | .rollback => true
  | _ => false

namespace Machine

variable {b : Backend H W} {m : Machine H W} {h : H}

/-- The calls of a request that passes faults on tell its result. -/
theorem perform_tells (hm : m.session.handle = some h) {request : Request}
    (hpasses : request.passesFaults = true) :
    ∃ calls, Event.calls (m.perform b request).2.events = Event.calls m.events ++ calls ∧
      (m.perform b request).1 = (b.told (h, m.world) calls).map fun _ => .done := by
  have htells {operation : SessionM H W Unit} (hoperation : Session.Tells b operation) :
      ∃ calls, Event.calls (operation m).2.events = Event.calls m.events ++ calls ∧
        (operation m).1.map (fun _ => Answer.done) =
          (b.told (h, m.world) calls).map fun _ => .done := by
    obtain ⟨calls, hcalls, htold⟩ := hoperation m h hm
    exact ⟨calls, hcalls, congrArg _ htold⟩
  rw [perform_run]
  cases request with
  | disconnect => exact htells (Session.disconnect_tells b)
  | execute script =>
      simp only [Session.execute_eq]
      exact htells (Session.executeAll_tells b script.toList)
  | begin => exact htells (Session.tells_connected (Line.begin_tells b))
  | commit => exact htells (Session.tells_connected (Line.commit_tells b))
  | rollback => exact htells (Session.tells_connected (Line.rollback_tells b))
  | _ => cases hpasses

/-- A query raises the fault of its one call, and leaves the session as it was but for the place to
which that call has led the handle. -/
theorem perform_query (hm : m.session.handle = some h) (options : SelectOptions) {request : Request}
    (hrequest : request = .select options ∨ request = .openCursor options) :
    (∃ answer, (m.perform b request).1 =
      (m.session.queried (b.query options.sql h m.world).1).map answer) ∧
    (m.perform b request).2.session =
      { m.session with handle := some (b.query options.sql h m.world).2.1 } := by
  have hselect := Session.select_run_of_some (b := b) hm options
  rw [perform_run]
  obtain rfl | rfl := hrequest
  · simp only
    rw [hselect]
    exact ⟨⟨.rows, rfl⟩, rfl⟩
  · obtain ⟨hresult, hsession⟩ := Session.openCursor_as_select (b := b) options m
    simp only
    rw [hresult, hsession, hselect]
    refine ⟨⟨fun rows => .cursor (.ofRows rows), ?_⟩, rfl⟩
    simp only
    cases m.session.queried (b.query options.sql h m.world).1 <;> rfl

/-- The faults met in giving the old handle up are dropped, and the one of the opening is passed on. -/
theorem connect_error_iff (b : Backend H W) (m : Machine H W) :
    ∃ calls told w, m.Releases b calls told w ∧
      (told ≠ .error .crash → Event.calls (m.perform b .connect).2.events =
        Event.calls m.events ++ (calls ++ [.openHandle m.session.config.database])) ∧
      ∀ error, (m.perform b .connect).1 = .error (.error error) ↔ told ≠ .error .crash ∧
        ∃ fault, (b.openHandle m.session.config w).1 = .failed fault ∧ error = .backend fault := by
  obtain ⟨result, hconnects, hresult⟩ := m.perform_connects b
  rw [hresult]
  cases hconnects with
  | lost hreleases _ _ =>
      refine ⟨_, _, _, hreleases, fun hback => absurd rfl hback, fun error => ?_⟩
      simp [Except.map]
  | @asked calls told w reply _ hreleases hback hopen _ _ hcalls =>
      refine ⟨calls, told, w, hreleases, fun _ => hcalls, fun error => ?_⟩
      rw [hopen]
      cases reply <;> simp [Reply.result, Except.map, hback, eq_comm]

theorem mutation_ne_error (hm : m.session.handle = some h) (u : Mutation) :
    (∀ error, (m.perform b u.request).1 ≠ .error (.error error)) ∧
      ((b.mutate u h m.world).1 ≠ .crashed →
        ∃ outcome, (m.perform b u.request).1 = .ok (.outcome outcome)) := by
  rw [(perform_mutation hm u).1]
  cases (b.mutate u h m.world).1 with
  | done count => exact ⟨by simp, fun _ => ⟨_, rfl⟩⟩
  | failed fault => exact ⟨by simp, fun _ => ⟨_, rfl⟩⟩
  | crashed => exact ⟨by simp, fun hback => absurd rfl hback⟩

theorem query_error_iff (hm : m.session.handle = some h) (options : SelectOptions) {request : Request}
    (hrequest : request = .select options ∨ request = .openCursor options) :
    (∀ error, (m.perform b request).1 = .error (.error error) ↔
      ∃ fault, (b.query options.sql h m.world).1 = .failed fault ∧
        error = m.session.raise fault) ∧
    ((m.perform b request).1 = .error .crash ↔ (b.query options.sql h m.world).1 = .crashed) := by
  obtain ⟨answer, hresult⟩ := (perform_query (b := b) hm options hrequest).1
  rw [hresult]
  rcases (b.query options.sql h m.world).1 with rows | fault | _ <;>
    simp [Session.queried, Except.map, eq_comm]

theorem passed_error (hm : m.session.handle = some h) {request : Request}
    (hpasses : request.passesFaults = true) :
    ∃ calls, Event.calls (m.perform b request).2.events = Event.calls m.events ++ calls ∧
      (m.perform b request).1 = ((b.told (h, m.world) calls).map fun _ => .done) ∧
      ∀ error, (m.perform b request).1 = .error (.error error) →
        ∃ before call after place fault, calls = before ++ call :: after ∧
          b.told (h, m.world) before = .ok () ∧ b.replay (h, m.world) before = some place ∧
          b.reply place call = .failed fault ∧ error = .backend fault := by
  obtain ⟨calls, hcalls, hresult⟩ := perform_tells (b := b) hm hpasses
  refine ⟨calls, hcalls, hresult, fun error herror => ?_⟩
  rw [hresult] at herror
  have htold : b.told (h, m.world) calls = .error (.error error) := by
    rcases htold : b.told (h, m.world) calls with stop | _ <;> rw [htold] at herror <;> cases herror
    rfl
  exact Backend.exists_of_told_error htold

/-- The mapper is for queries alone. -/
theorem perform_mapper (b : Backend H W) (m : Machine H W) {request : Request}
    (hqueries : request.queries = false) (mapper : Option ConditionMapper) :
    let other : Machine H W := { m with session := { m.session with mapper } }
    (other.perform b request).1 = (m.perform b request).1 ∧
      (m.perform b request).2.Resembles b .anyMapper (other.perform b request).2 := by
  intro other
  have halike : m.Resembles b .anyMapper other := {
    context := rfl
    database := rfl
    opens := fun _ => rfl
    mapper := trivial
    handle := rfl
    world := rfl
    calls := rfl
    transactions := rfl }
  exact Session.parallel_perform (fun h => by rw [hqueries] at h; cases h) m other halike

/-- Every error met with a handle at hand carries a fault or a condition. -/
theorem error_of_some (hm : m.session.handle = some h) {request : Request} {error : DbError}
    (herror : (m.perform b request).1 = .error (.error error)) :
    (∃ fault, error = .backend fault) ∨ ∃ condition, error = .condition condition := by
  have hquery {options : SelectOptions}
      (hrequest : request = .select options ∨ request = .openCursor options) :
      (∃ fault, error = .backend fault) ∨ ∃ condition, error = .condition condition := by
    obtain ⟨fault, -, rfl⟩ := ((query_error_iff hm options hrequest).1 error).mp herror
    unfold Session.raise
    cases m.session.mapper with
    | none => exact .inl ⟨fault, rfl⟩
    | some mapper => exact .inr ⟨mapper fault, rfl⟩
  have hpassed (hpasses : request.passesFaults = true) : ∃ fault, error = .backend fault := by
    obtain ⟨_, _, _, hcause⟩ := passed_error (b := b) hm hpasses
    obtain ⟨_, _, _, _, fault, _, _, _, _, rfl⟩ := hcause error herror
    exact ⟨fault, rfl⟩
  cases request with
  | connect =>
      obtain ⟨_, _, _, _, _, hcause⟩ := connect_error_iff b m
      obtain ⟨_, fault, _, rfl⟩ := (hcause error).mp herror
      exact .inl ⟨fault, rfl⟩
  | select options => exact hquery (.inl rfl)
  | openCursor options => exact hquery (.inr rfl)
  | insert options => exact absurd herror ((mutation_ne_error hm (.insert options)).1 error)
  | update options => exact absurd herror ((mutation_ne_error hm (.update options)).1 error)
  | delete options => exact absurd herror ((mutation_ne_error hm (.delete options)).1 error)
  | _ => exact .inl (hpassed rfl)

/-- The want of a handle is told exactly when there is none and one is needed. -/
theorem notConnected_iff (b : Backend H W) (m : Machine H W) (request : Request) (context : String) :
    (m.perform b request).1 = .error (.error (.notConnected context)) ↔
      m.session.handle = none ∧ request.needsHandle = true ∧ context = m.session.config.context := by
  cases hm : m.session.handle with
  | some h =>
      refine ⟨fun herror => ?_, fun hnone => by cases hnone.1⟩
      obtain ⟨_, hother⟩ | ⟨_, hother⟩ := error_of_some hm herror <;> cases hother
  | none =>
      by_cases hconnect : request = .connect
      · subst hconnect
        obtain ⟨_, _, _, _, _, hcause⟩ := connect_error_iff b m
        refine ⟨fun herror => ?_, fun hneeds => by cases hneeds.2.1⟩
        obtain ⟨_, _, _, hother⟩ := (hcause _).mp herror
        cases hother
      · rw [(perform_of_none hm hconnect).1]
        cases request.needsHandle <;> simp [Session.unconnected, eq_comm]

end Machine

/-! ## The causes of failures -/

/-- What every operation fails with, in any state, with any mapper and on any backend.  Only a request
that needs a handle and finds none fails for want of one, and then nothing happens.  On a handle
mutations do not fail; a query fails exactly with the fault of its call, as the mapper has it; and the
rest fails with the fault of a call that it made, as it is.  Connecting fails exactly with the fault of
the opening, whatever went wrong with the handle before. -/
theorem failures_classified (b : Backend H W) (m : Machine H W) :
    -- Without a handle, whatever needs one says so, and nothing happens.
    ((∀ request context, (m.perform b request).1 = .error (.error (.notConnected context)) ↔
          m.session.handle = none ∧ request.needsHandle = true ∧
            context = m.session.config.context) ∧
        (m.session.handle = none → ∀ request, request ≠ .connect →
          ((m.perform b request).1 = if request.needsHandle then
            .error (.error m.session.unconnected) else .ok .done) ∧
          (m.perform b request).2.session = m.session ∧ (m.perform b request).2.world = m.world ∧
          Event.calls (m.perform b request).2.events = Event.calls m.events)) ∧
    -- Mutations do not fail.
    (∀ h, m.session.handle = some h → ∀ u : Mutation,
        (∀ error, (m.perform b u.request).1 ≠ .error (.error error)) ∧
        ((b.mutate u h m.world).1 ≠ .crashed →
          ∃ outcome, (m.perform b u.request).1 = .ok (.outcome outcome))) ∧
    -- Queries raise the fault of their call, and leave the bookkeeping and the handle.
    (∀ h, m.session.handle = some h → ∀ options,
        ∀ request ∈ [Request.select options, Request.openCursor options],
        let queried := b.query options.sql h m.world
        (∀ error, (m.perform b request).1 = .error (.error error) ↔
          ∃ fault, queried.1 = .failed fault ∧ error = match m.session.mapper with
            | some mapper => .condition (mapper fault)
            | none => .backend fault) ∧
        ((m.perform b request).1 = .error .crash ↔ queried.1 = .crashed) ∧
        (m.perform b request).2.session = { m.session with handle := some queried.2.1 }) ∧
    -- Nothing else asks the mapper.
    (∀ request : Request, request.queries = false → ∀ mapper,
        let run := m.perform b request
        let other := ({ m with session := { m.session with mapper } } : Machine H W).perform b request
        other.1 = run.1 ∧ Event.calls other.2.events = Event.calls run.2.events ∧
        other.2.world = run.2.world ∧ other.2.session.handle = run.2.session.handle ∧
        other.2.session.transactions = run.2.session.transactions) ∧
    -- The rest passes on the fault of a call on the handle, or the one of the opening.
    (∀ h, m.session.handle = some h → ∀ request : Request, request.passesFaults = true →
        ∃ calls, Event.calls (m.perform b request).2.events = Event.calls m.events ++ calls ∧
          (m.perform b request).1 = ((b.told (h, m.world) calls).map fun _ => .done) ∧
          ∀ error, (m.perform b request).1 = .error (.error error) →
            ∃ before call after place fault, calls = before ++ call :: after ∧
              b.told (h, m.world) before = .ok () ∧ b.replay (h, m.world) before = some place ∧
              b.reply place call = .failed fault ∧ error = .backend fault) ∧
    ∃ calls told w, m.Releases b calls told w ∧
      (told ≠ .error .crash → Event.calls (m.perform b .connect).2.events =
        Event.calls m.events ++ (calls ++ [.openHandle m.session.config.database])) ∧
      ∀ error, (m.perform b .connect).1 = .error (.error error) ↔ told ≠ .error .crash ∧
        ∃ fault, (b.openHandle m.session.config w).1 = .failed fault ∧ error = .backend fault := by
  refine ⟨⟨m.notConnected_iff b, fun hnone request hconnect => Machine.perform_of_none hnone hconnect⟩,
    fun h hm u => Machine.mutation_ne_error hm u, ?_, ?_,
    fun h hm request hpasses => Machine.passed_error hm hpasses, m.connect_error_iff b⟩
  · intro h hm options request hrequest queried
    have heither : request = .select options ∨ request = .openCursor options := by
      simpa using hrequest
    obtain ⟨herror, hcrash⟩ := Machine.query_error_iff (b := b) hm options heither
    exact ⟨herror, hcrash, (Machine.perform_query hm options heither).2⟩
  · intro request hqueries mapper run other
    obtain ⟨hresult, halike⟩ := m.perform_mapper b hqueries mapper
    exact ⟨hresult, halike.calls, halike.world, halike.handle, halike.transactions.symm⟩

end OpenSql
