/-
# OpenSql.Proofs.Conversation — the calls that operations make on a handle they hold.

A call leads a handle from one place to another, and calls can be replayed: the place behind a list of
calls depends on the backend alone.  An operation converses when all it does to its handle is to make
calls, each at the place to which the one before it has led.  Everything that neither opens nor closes a
handle converses, and asks for nothing but the calls of its request.
-/
import OpenSql.Proofs.Operations

namespace OpenSql

variable {H W α β : Type}

/-! ## Replaying calls -/

/-- The place to which a call on a handle leads.  Opening and closing are no calls on a handle. -/
def Backend.act (b : Backend H W) (place : H × W) : Call → Option (H × W)
  | .begin => some (b.begin place.1 place.2).2
  | .commit => some (b.commit place.1 place.2).2
  | .rollback => some (b.rollback place.1 place.2).2
  | .executeBatch sql => some (b.executeBatch sql place.1 place.2).2
  | .execute sql => some (b.execute sql place.1 place.2).2
  | .query sql => some (b.query sql place.1 place.2).2
  | .openHandle _ => none
  | .close => none

/-- The place to which calls on a handle lead, one after another. -/
def Backend.replay (b : Backend H W) (place : H × W) : List Call → Option (H × W)
  | [] => some place
  | call :: calls => (b.act place call).bind (b.replay · calls)

theorem Backend.replay_append (b : Backend H W) (place : H × W) (calls more : List Call) :
    b.replay place (calls ++ more) = (b.replay place calls).bind (b.replay · more) := by
  induction calls generalizing place with
  | nil => rfl
  | cons call calls ih =>
      rw [List.cons_append]
      simp only [replay]
      cases b.act place call with
      | none => rfl
      | some next => exact ih next

namespace Event

@[simp]
theorem calls_append (events more : List Event) : calls (events ++ more) = calls events ++ calls more :=
  List.filterMap_append

@[simp]
theorem calls_nil : calls [] = [] := rfl

@[simp]
theorem calls_cons_call (call : Call) (events : List Event) :
    calls (.call call :: events) = call :: calls events := rfl

@[simp]
theorem calls_cons_notice (notice : Notice) (events : List Event) :
    calls (.notice notice :: events) = calls events := rfl

@[simp]
theorem calls_notices (notices : List Notice) : calls (notices.map .notice) = [] := by
  induction notices with
  | nil => rfl
  | cons notice notices ih => exact ih

end Event

/-! ## Operations on a line -/

namespace Line

/-- An operation that does nothing to its handle but make calls of a kind. -/
def Converses (b : Backend H W) (asks : Call → Prop) (operation : LineM H W α) : Prop :=
  ∀ line, ∃ calls, (∀ call ∈ calls, asks call) ∧
    Event.calls (operation line).2.events = Event.calls line.events ++ calls ∧
    b.replay (line.handle, line.world) calls =
      some ((operation line).2.handle, (operation line).2.world)

variable {b : Backend H W} {asks : Call → Prop}

/-- A step that leaves handle, world and calls alone. -/
theorem Converses.silent {operation : LineM H W α}
    (h : ∀ line, (operation line).2.handle = line.handle ∧ (operation line).2.world = line.world ∧
      Event.calls (operation line).2.events = Event.calls line.events) :
    Converses b asks operation := by
  intro line
  obtain ⟨hhandle, hworld, hcalls⟩ := h line
  refine ⟨[], by simp, by simp [hcalls], ?_⟩
  rw [hhandle, hworld]
  rfl

theorem converses_pure (a : α) : Converses b asks (pure a : LineM H W α) :=
  .silent fun _ => ⟨rfl, rfl, rfl⟩

theorem converses_note (notice : Notice) : Converses b asks (note notice : LineM H W Unit) :=
  .silent fun line => ⟨rfl, rfl, by simp [note_run, noted]⟩

theorem converses_sync : Converses b asks (sync b) := .silent fun _ => ⟨rfl, rfl, rfl⟩

theorem converses_modify (f : Transactions → Transactions) :
    Converses b asks
      (modify fun line : Line H W => { line with transactions := f line.transactions }) :=
  .silent fun _ => ⟨rfl, rfl, rfl⟩

theorem Converses.bind {x : LineM H W α} {f : α → LineM H W β} (hx : Converses b asks x)
    (hf : ∀ a, Converses b asks (f a)) : Converses b asks (x >>= f) := by
  intro line
  obtain ⟨calls, hasks, hcalls, hplace⟩ := hx line
  rw [run_bind]
  rcases hr : x line with ⟨stop | a, line'⟩
  · rw [hr] at hcalls hplace
    exact ⟨calls, hasks, hcalls, hplace⟩
  · rw [hr] at hcalls hplace
    obtain ⟨more, hasks', hcalls', hplace'⟩ := hf a line'
    refine ⟨calls ++ more, ?_, ?_, ?_⟩
    · intro call hcall
      rcases List.mem_append.mp hcall with hcall | hcall
      · exact hasks call hcall
      · exact hasks' call hcall
    · rw [hcalls', hcalls, List.append_assoc]
    · rw [Backend.replay_append, hplace]
      exact hplace'

/-- The one step that moves the handle: a call whose place is the one the backend gives it. -/
theorem converses_attempt {call : Call} {run : H → W → Reply α × H × W} (hcall : asks call)
    (hact : ∀ h w, b.act (h, w) call = some (run h w).2) : Converses b asks (attempt call run) := by
  intro line
  refine ⟨[call], by simpa using hcall, ?_, ?_⟩
  · rw [attempt_run]
    simp [moved]
  · rw [attempt_run, Backend.replay, hact]
    rfl

theorem converses_ask {call : Call} {run : H → W → Reply α × H × W} (hcall : asks call)
    (hact : ∀ h w, b.act (h, w) call = some (run h w).2) : Converses b asks (ask call run) := by
  refine .bind (converses_attempt hcall hact) fun received => ?_
  cases received with
  | ok a => exact converses_pure a
  | error fault => exact .silent fun _ => ⟨rfl, rfl, rfl⟩

theorem converses_record : Converses b asks (record b) :=
  .bind converses_sync fun _ => converses_modify Transactions.count

theorem converses_begin (hcall : asks .begin) : Converses b asks (begin b) := by
  refine .bind converses_sync fun _ => .bind (.silent fun _ => ⟨rfl, rfl, rfl⟩) fun line => ?_
  split
  · exact converses_note _
  · exact .bind (converses_ask hcall fun _ _ => rfl) fun _ =>
      .bind (converses_modify fun _ => ⟨true, 0⟩) fun _ => converses_note _

theorem converses_commit (hcall : asks .commit) : Converses b asks (commit b) := by
  refine .bind converses_sync fun _ => .bind (.silent fun _ => ⟨rfl, rfl, rfl⟩) fun line => ?_
  split
  · exact .bind (converses_ask hcall fun _ _ => rfl) fun _ =>
      .bind (.silent fun _ => ⟨rfl, rfl, rfl⟩) fun _ =>
        .bind (converses_note _) fun _ => converses_modify fun _ => .idle
  · exact converses_pure ()

theorem converses_rollback (hcall : asks .rollback) : Converses b asks (rollback b) := by
  refine .bind converses_sync fun _ => .bind (.silent fun _ => ⟨rfl, rfl, rfl⟩) fun line => ?_
  split
  · refine .bind (converses_attempt hcall fun _ _ => rfl) fun received =>
      .bind (.silent fun _ => ⟨rfl, rfl, rfl⟩) fun _ =>
        .bind (converses_note _) fun _ => .bind converses_sync fun _ => ?_
    cases received with
    | ok a => exact converses_pure ()
    | error fault => exact .silent fun _ => ⟨rfl, rfl, rfl⟩
  · exact converses_pure ()

end Line

/-! ## Operations of a session -/

/-- A machine from which another has come by nothing but calls of a kind on the handle it holds.  One
without a handle has only reported. -/
structure Machine.Follows (b : Backend H W) (asks : Call → Prop) (m m' : Machine H W) : Prop where
  config : m'.session.config = m.session.config
  mapper : m'.session.mapper = m.session.mapper
  ofNone : m.session.handle = none → m'.session = m.session ∧ m'.world = m.world ∧
    Event.calls m'.events = Event.calls m.events
  ofSome : ∀ h, m.session.handle = some h → ∃ h' calls, m'.session.handle = some h' ∧
    (∀ call ∈ calls, asks call) ∧ Event.calls m'.events = Event.calls m.events ++ calls ∧
    b.replay (h, m.world) calls = some (h', m'.world)

namespace Machine.Follows

variable {b : Backend H W} {asks : Call → Prop} {m m' m'' : Machine H W}

theorem refl (m : Machine H W) : m.Follows b asks m where
  config := rfl
  mapper := rfl
  ofNone _ := ⟨rfl, rfl, rfl⟩
  ofSome h hm := ⟨h, [], hm, by simp, by simp, rfl⟩

theorem trans (h₁ : m.Follows b asks m') (h₂ : m'.Follows b asks m'') : m.Follows b asks m'' where
  config := h₂.config.trans h₁.config
  mapper := h₂.mapper.trans h₁.mapper
  ofNone hm := by
    obtain ⟨hsession, hworld, hcalls⟩ := h₁.ofNone hm
    obtain ⟨hsession', hworld', hcalls'⟩ := h₂.ofNone (by rw [hsession, hm])
    exact ⟨hsession'.trans hsession, hworld'.trans hworld, hcalls'.trans hcalls⟩
  ofSome h hm := by
    -- The second way starts at the handle to which the first has led.
    obtain ⟨h', calls, hm', hasks, hcalls, hplace⟩ := h₁.ofSome h hm
    obtain ⟨h'', more, hm'', hasks', hcalls', hplace'⟩ := h₂.ofSome h' hm'
    refine ⟨h'', calls ++ more, hm'', ?_, ?_, ?_⟩
    · intro call hcall
      rcases List.mem_append.mp hcall with hcall | hcall
      · exact hasks call hcall
      · exact hasks' call hcall
    · rw [hcalls', hcalls, List.append_assoc]
    · rw [Backend.replay_append, hplace]
      exact hplace'

/-- A handle is not lost on the way. -/
theorem handle_of_none (h : m.Follows b asks m') (hnone : m'.session.handle = none) :
    m.session.handle = none := by
  cases hm : m.session.handle with
  | none => rfl
  | some handle =>
      obtain ⟨handle', calls, hm', -⟩ := h.ofSome handle hm
      rw [hnone] at hm'
      cases hm'

theorem reported {events : List Event} (h : Event.calls events = []) :
    m.Follows b asks (m.reported events) where
  config := rfl
  mapper := rfl
  ofNone _ := ⟨rfl, rfl, by simp [Machine.reported, h]⟩
  ofSome h' hm := ⟨h', [], hm, by simp, by simp [Machine.reported, h], rfl⟩

end Machine.Follows

namespace Session

/-- An operation that does nothing to the session's handle but make calls of a kind. -/
def Converses (b : Backend H W) (asks : Call → Prop) (operation : SessionM H W α) : Prop :=
  ∀ m : Machine H W, m.Follows b asks (operation m).2

variable {b : Backend H W} {asks : Call → Prop}

theorem converses_pure (a : α) : Converses b asks (pure a : SessionM H W α) :=
  fun m => .refl m

theorem converses_note (notice : Notice) : Converses b asks (note notice : SessionM H W Unit) :=
  fun m => .reported (m := m) rfl

theorem calls_traced (s : Session H) (entry : Trace) : Event.calls (s.traced entry) = [] := by
  unfold traced
  split <;> rfl

theorem converses_trace (entry : Trace) : Converses b asks (trace entry : SessionM H W Unit) := by
  intro m
  rw [trace_run]
  exact .reported (calls_traced m.session entry)

theorem Converses.bind {x : SessionM H W α} {f : α → SessionM H W β} (hx : Converses b asks x)
    (hf : ∀ a, Converses b asks (f a)) : Converses b asks (x >>= f) := by
  intro m
  have hm := hx m
  rw [run_bind]
  rcases hr : x m with ⟨stop | a, m'⟩
  · rw [hr] at hm
    exact hm
  · rw [hr] at hm
    exact hm.trans (hf a m')

theorem converses_connected {operation : LineM H W α} (h : Line.Converses b asks operation) :
    Converses b asks (connected operation) := by
  intro m
  cases hm : m.session.handle with
  | none =>
      rw [connected_run_of_none hm]
      exact .refl m
  | some handle =>
      rw [connected_run_of_some hm]
      obtain ⟨calls, hasks, hcalls, hplace⟩ := h (m.line handle)
      exact {
        config := rfl
        mapper := rfl
        ofNone := fun hnone => by rw [hm] at hnone; cases hnone
        ofSome := fun handle' hm' => by
          obtain rfl : handle = handle' := Option.some.inj (hm.symm.trans hm')
          exact ⟨_, calls, rfl, hasks, hcalls, hplace⟩ }

theorem converses_executeOne {sql : String} (hcall : asks (.executeBatch sql)) :
    Converses b asks (executeOne b sql) := by
  unfold executeOne
  split
  · exact converses_pure ()
  · exact converses_connected (.bind (Line.converses_note _) fun _ =>
      .bind (Line.converses_ask hcall fun _ _ => rfl) fun _ => Line.converses_record)

theorem converses_executeAll {scripts : List String}
    (hcalls : ∀ sql ∈ scripts, asks (.executeBatch sql)) :
    Converses b asks (executeAll b scripts) := by
  induction scripts with
  | nil => exact converses_pure ()
  | cons sql rest ih =>
      refine .bind (converses_executeOne (hcalls sql List.mem_cons_self)) fun _ => ?_
      exact ih fun sql hsql => hcalls sql (List.mem_cons_of_mem _ hsql)

theorem converses_select {options : SelectOptions}
    (hcall : asks (.query (Dialect.selectSql options.select options.primaryKey))) :
    Converses b asks (select b options) := by
  refine .bind (converses_trace _) fun _ =>
    .bind (converses_connected (Line.converses_attempt hcall fun _ _ => rfl)) fun received => ?_
  cases received with
  | ok rows => exact converses_pure rows
  | error fault => exact fun m => .refl m

theorem converses_insert {options : InsertOptions}
    (hcall : asks (.executeBatch
      (Dialect.insertSql options.table options.columns options.values))) :
    Converses b asks (insert b options) := by
  have hcounted (outcome : Outcome) : Converses b asks (do
      connected (Line.record b)
      return outcome) :=
    .bind (converses_connected Line.converses_record) fun _ => converses_pure outcome
  refine .bind (converses_trace _) fun _ =>
    .bind (converses_connected (Line.converses_attempt hcall fun _ _ => rfl)) fun received => ?_
  cases received with
  | ok done => exact .bind (converses_pure _) fun _ => hcounted _
  | error fault =>
      exact .bind (converses_trace _) fun _ => .bind (converses_pure _) fun _ => hcounted _

theorem converses_mutate {sql : String} (hcall : asks (.execute sql)) :
    Converses b asks (mutate b sql) := by
  have hcounted (outcome : Outcome) : Line.Converses b asks (do
      Line.record b
      return outcome) :=
    .bind Line.converses_record fun _ => Line.converses_pure outcome
  refine .bind (converses_trace _) fun _ => converses_connected
    (.bind (Line.converses_attempt hcall fun _ _ => rfl) fun received => ?_)
  cases received with
  | ok count => exact .bind (Line.converses_pure _) fun _ => hcounted _
  | error fault =>
      exact .bind (Line.converses_note _) fun _ => .bind (Line.converses_pure _) fun _ => hcounted _

end Session

/-! ## Requests -/

/-- The SQL that a SELECT is put into. -/
abbrev SelectOptions.sql (options : SelectOptions) : String :=
  Dialect.selectSql options.select options.primaryKey

/-- The calls that a request may make on the handle it finds. -/
def Request.Asks : Request → Call → Prop
  | .connect, _ | .disconnect, _ => False
  | .execute script, call => ∃ sql ∈ script.toList, call = .executeBatch sql
  | .select options, call | .openCursor options, call =>
    call = .query options.sql
  | .insert options, call =>
    call = .executeBatch (Dialect.insertSql options.table options.columns options.values)
  | .update options, call =>
    call = .execute (Dialect.updateSql options.table options.assignments options.predicate)
  | .delete options, call => call = .execute (Dialect.deleteSql options.table options.predicate)
  | .begin, call => call = .begin
  | .commit, call => call = .commit
  | .rollback, call => call = .rollback

/-- The request keeps the session's handle. -/
def Request.keepsHandle : Request → Bool
  | .connect | .disconnect => false
  | _ => true

/-- All that a request does to the handle it finds and keeps is to make its calls on it. -/
theorem Machine.perform_follows (b : Backend H W) (m : Machine H W) {request : Request}
    (hkeeps : request.keepsHandle = true) :
    m.Follows b request.Asks (m.perform b request).2 := by
  have hbare {α : Type} {operation : SessionM H W α} (answer : α → Answer)
      (h : Session.Converses b request.Asks operation) :
      Session.Converses b request.Asks (do return answer (← operation)) :=
    h.bind fun a => Session.converses_pure (answer a)
  cases request with
  | connect => cases hkeeps
  | disconnect => cases hkeeps
  | execute script =>
      refine hbare (fun _ => .done) ?_ m
      rw [Session.execute_eq]
      exact Session.converses_executeAll fun sql hsql => ⟨sql, hsql, rfl⟩
  | select options => exact hbare .rows (Session.converses_select rfl) m
  | openCursor options =>
      exact hbare .cursor (.bind (Session.converses_select rfl) fun rows =>
        .bind (Session.converses_note _) fun _ => Session.converses_pure _) m
  | insert options => exact hbare .outcome (Session.converses_insert rfl) m
  | update options => exact hbare .outcome (Session.converses_mutate rfl) m
  | delete options => exact hbare .outcome (Session.converses_mutate rfl) m
  | begin => exact hbare (fun _ => .done) (Session.converses_connected (Line.converses_begin rfl)) m
  | commit =>
      exact hbare (fun _ => .done) (Session.converses_connected (Line.converses_commit rfl)) m
  | rollback =>
      exact hbare (fun _ => .done) (Session.converses_connected (Line.converses_rollback rfl)) m

end OpenSql
