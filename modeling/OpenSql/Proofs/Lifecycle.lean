/-
# OpenSql.Proofs.Lifecycle — the life of a handle, from its opening to its end.

The calls of a whole run fall into lifespans, one after another: either the backend refuses to open a
handle, or it opens one, statements run on that handle, and the handle is given up.  What gives it up is
always the same: a rollback exactly when a transaction is open, then the closing, whatever the rollback
answered.

Connecting gives an old handle up in the same way, and asks for the new one in the world that this has left.

A call that does not come back is no answer of a backend; it can only cut the end of a lifespan short.
-/
import OpenSql.Proofs.Conversation

namespace OpenSql

variable {H W : Type}

/-! ## Giving a handle up -/

/-- What is told of a rollback and the closing after it: the first fault. -/
def Reply.told (rolledBack closed : Reply Unit) : Except Stop Unit :=
  match closed, rolledBack with
  | .crashed, _ => .error .crash
  | _, .failed fault => .error (.error (.backend fault))
  | closed, _ => closed.result

/-- What a call has given, if it was answered. -/
def Reply.given? : Reply α → Option α
  | .done a => some a
  | _ => none

/-- The calls that give up a handle, what is told of them, and the world behind them. -/
inductive Teardown (b : Backend H W) (h : H) (w : W) : List Call → Except Stop Unit → W → Prop
  /-- No transaction is open, and the handle is closed. -/
  | closed {reply : Reply Unit} {w' : W} :
      b.inTransaction h w = false → b.close h w = (reply, w') →
      Teardown b h w [.close] reply.result w'
  /-- An open transaction is rolled back, and the handle is closed whatever came of that. -/
  | rolledBack {first second : Reply Unit} {h' : H} {w' w'' : W} :
      b.inTransaction h w = true → b.rollback h w = (first, h', w') → first ≠ .crashed →
      b.close h' w' = (second, w'') →
      Teardown b h w [.rollback, .close] (first.told second) w''
  /-- The rollback does not come back. -/
  | lost {h' : H} {w' : W} :
      b.inTransaction h w = true → b.rollback h w = (.crashed, h', w') →
      Teardown b h w [.rollback] (.error .crash) w'

/-- A machine whose session has given its handle up. -/
structure Machine.GivesUp (b : Backend H W) (m : Machine H W) (h : H) (told : Except Stop Unit)
    (m' : Machine H W) : Prop where
  config : m'.session.config = m.session.config
  handle : m'.session.handle = none
  idle : told ≠ .error .crash → m'.session.transactions = .idle
  calls : ∃ calls, Teardown b h m.world calls told m'.world ∧
    Event.calls m'.events = Event.calls m.events ++ calls

namespace Machine.GivesUp

variable {b : Backend H W} {m m' : Machine H W} {h : H} {told : Except Stop Unit}

theorem ofLine {line : Line H W} {calls : List Call}
    (hidle : told ≠ .error .crash → line.transactions = .idle)
    (hteardown : Teardown b h m.world calls told line.world)
    (hcalls : Event.calls line.events = Event.calls m.events ++ calls) :
    m.GivesUp b h told (m.withLine none line) where
  config := rfl
  handle := rfl
  idle := hidle
  calls := ⟨calls, hteardown, hcalls⟩

theorem reported (hm : m.GivesUp b h told m') {events : List Event} (hcalls : Event.calls events = []) :
    m.GivesUp b h told (m'.reported events) where
  config := hm.config
  handle := hm.handle
  idle := hm.idle
  calls := by
    obtain ⟨calls, hteardown, happend⟩ := hm.calls
    exact ⟨calls, hteardown, by simp [Machine.reported, happend, hcalls]⟩

/-- What was only reported before does not count. -/
theorem ofReported {events : List Event} (hcalls : Event.calls events = [])
    (hm : (m.reported events).GivesUp b h told m') : m.GivesUp b h told m' where
  config := hm.config
  handle := hm.handle
  idle := hm.idle
  calls := by
    obtain ⟨calls, hteardown, happend⟩ := hm.calls
    exact ⟨calls, hteardown, by simpa [Machine.reported, hcalls] using happend⟩

end Machine.GivesUp

namespace Session

variable {b : Backend H W} {m : Machine H W} {h : H}

/-- Once a rollback has come back, the closing is all that is left. -/
theorem disconnect_givesUp_of_settled {line : Line H W} {before : List Call}
    {first second : Reply Unit} {w : W} (hm : m.session.handle = some h)
    (hsettled : Line.rollback b (m.line h) = (first.result, line)) (hfirst : first ≠ .crashed)
    (hcalls : Event.calls line.events = Event.calls m.events ++ before)
    (hclose : b.close line.handle line.world = (second, w))
    (hteardown : Teardown b h m.world (before ++ [.close]) (first.told second) w) :
    m.GivesUp b h (disconnect b m).1 (disconnect b m).2 := by
  let closed := m.withLine none
    ({ line with transactions := .idle }.moved .close (line.handle, w))
  have hgone : m.GivesUp b h (first.told second) closed :=
    .ofLine (fun _ => rfl) hteardown (by simp [Line.moved, hcalls])
  have hended := hgone.reported (Event.calls_cons_notice (.disconnected m.session.config.context) [])
  rw [disconnect_run_of_some hm, hsettled]
  cases first with
  | crashed => exact absurd rfl hfirst
  | done _ | failed _ =>
      cases second with
      | crashed => simpa [hclose, Reply.told, Reply.result, closed] using hgone
      | done _ | failed _ => simpa [hclose, Reply.told, Reply.result, closed] using hended

theorem disconnect_givesUp (hm : m.session.handle = some h) :
    m.GivesUp b h (disconnect b m).1 (disconnect b m).2 := by
  cases hflag : b.inTransaction h m.world with
  | false =>
      have hrun : Line.rollback b (m.line h) =
          ((Reply.done ()).result, (m.line h).observed b) := Line.rollback_run_of_closed hflag
      rcases hclose : b.close h m.world with ⟨reply, w⟩
      have hteardown : Teardown b h m.world ([] ++ [.close]) ((Reply.done ()).told reply) w := by
        cases reply <;> exact .closed hflag hclose
      exact disconnect_givesUp_of_settled hm hrun (by simp) (List.append_nil _).symm hclose hteardown
  | true =>
      have hrun : Line.rollback b (m.line h) = _ := Line.rollback_run_of_open hflag
      rcases hroll : b.rollback h m.world with ⟨first, h', w⟩
      simp only [Machine.line, hroll] at hrun
      cases first with
      | crashed =>
          have hlost : Teardown b h m.world [.rollback] (.error .crash) w := .lost hflag hroll
          rw [disconnect_run_of_some hm, Machine.line, hrun]
          exact .ofLine (fun hc => absurd rfl hc) hlost (by simp [Line.moved, Line.observed])
      | done _ | failed _ =>
          rcases hclose : b.close h' w with ⟨second, w'⟩
          exact disconnect_givesUp_of_settled hm hrun (by simp)
            (by simp [Line.moved, Line.observed, Line.noted]; rfl) hclose
            (.rolledBack hflag hroll (by simp) hclose)

/-- A release tells only of a call that did not come back. -/
theorem release_givesUp (hm : m.session.handle = some h) :
    ∃ told, m.GivesUp b h told (release b m).2 ∧
      (told ≠ .error .crash ∧ (release b m).1 = .ok () ∨
        told = .error .crash ∧ (release b m).1 = .error .crash) := by
  have hgone := disconnect_givesUp (b := b) hm
  rw [release_run]
  rcases hrun : disconnect b m with ⟨(e | _) | _, m'⟩
  · rw [hrun] at hgone
    exact ⟨_, hgone.reported rfl, .inl ⟨by simp, rfl⟩⟩
  · rw [hrun] at hgone
    exact ⟨_, hgone, .inr ⟨rfl, rfl⟩⟩
  · rw [hrun] at hgone
    exact ⟨_, hgone, .inl ⟨by simp, rfl⟩⟩

theorem cleared_of_none (hnone : m.session.handle = none) : cleared b m = (.ok (), m) := by
  unfold cleared
  rw [if_neg (by simp [isConnected, hnone])]

/-- The handle that a new one is to replace is released. -/
theorem cleared_givesUp (hm : m.session.handle = some h) :
    ∃ told, m.GivesUp b h told (cleared b m).2 ∧
      (told ≠ .error .crash ∧ (cleared b m).1 = .ok () ∨
        told = .error .crash ∧ (cleared b m).1 = .error .crash) := by
  let replaced := m.reported [.notice (.replacingConnection m.session.config.context)]
  have hreplaced : replaced.session.handle = some h := hm
  unfold cleared
  rw [if_pos (by simp [isConnected, hm])]
  obtain ⟨told, hgone, htold⟩ := release_givesUp (b := b) hreplaced
  exact ⟨told, .ofReported rfl hgone, htold⟩

theorem cleared_handle (b : Backend H W) (m : Machine H W) :
    (cleared b m).2.session.handle = none := by
  cases hm : m.session.handle with
  | none =>
      rw [cleared_of_none hm]
      exact hm
  | some h =>
      obtain ⟨told, hgone, -⟩ := cleared_givesUp (b := b) hm
      exact hgone.handle

/-- A handle that is given starts without a transaction, and one that is refused changes nothing. -/
theorem opened_transactions (b : Backend H W) (config : SessionConfig) (m : Machine H W) :
    (opened b config m).2.session.transactions = .idle ∨
      (opened b config m).2.session.transactions = m.session.transactions := by
  unfold opened
  rcases b.openHandle config m.world with ⟨_ | _ | _, w⟩
  · exact .inl rfl
  · exact .inr rfl
  · exact .inr rfl

theorem opened_idle {config : SessionConfig} (hidle : m.session.transactions = .idle) :
    (opened b config m).2.session.transactions = .idle := by
  obtain hfresh | hsame := opened_transactions b config m
  · exact hfresh
  · rw [hsame]
    exact hidle

end Session

/-! ## Connecting -/

/-- What becomes of the handle that a new one is to replace: there is none, or it is given up. -/
def Machine.Releases (b : Backend H W) (m : Machine H W) (calls : List Call) (told : Except Stop Unit)
    (w : W) : Prop :=
  match m.session.handle with
  | none => calls = [] ∧ told = .ok () ∧ w = m.world
  | some h => Teardown b h m.world calls told w

theorem Machine.Releases.teardown {b : Backend H W} {m : Machine H W} {calls : List Call}
    {told : Except Stop Unit} {w : W} {h : H} (hreleases : m.Releases b calls told w)
    (hm : m.session.handle = some h) : Teardown b h m.world calls told w := by
  unfold Machine.Releases at hreleases
  rw [hm] at hreleases
  exact hreleases

/-- What connecting comes to.  The handle that a new one is to replace is released, and in the world that
this has left the new one is asked for. -/
inductive Machine.Connects (b : Backend H W) (m : Machine H W) : Except Stop Unit → Machine H W → Prop
  /-- The release does not come back. -/
  | lost {calls : List Call} {m' : Machine H W} :
      m.Releases b calls (.error .crash) m'.world → m'.session.handle = none →
      Event.calls m'.events = Event.calls m.events ++ calls → m.Connects b (.error .crash) m'
  /-- The session holds what the backend gives, and the faults met before are not told. -/
  | asked {calls : List Call} {told : Except Stop Unit} {w : W} {reply : Reply H} {m' : Machine H W} :
      m.Releases b calls told w → told ≠ .error .crash →
      b.openHandle m.session.config w = (reply, m'.world) → m'.session.handle = reply.given? →
      (∀ h, reply = .done h → m'.session.transactions = .idle) →
      Event.calls m'.events =
        Event.calls m.events ++ (calls ++ [.openHandle m.session.config.database]) →
      m.Connects b (reply.result.map fun _ => ()) m'

namespace Session

variable (b : Backend H W) (m : Machine H W)

theorem cleared_releases :
    ∃ calls told, m.Releases b calls told (cleared b m).2.world ∧
      Event.calls (cleared b m).2.events = Event.calls m.events ++ calls ∧
      (told ≠ .error .crash ∧ (cleared b m).1 = .ok () ∨
        told = .error .crash ∧ (cleared b m).1 = .error .crash) := by
  unfold Machine.Releases
  cases hm : m.session.handle with
  | none =>
      rw [cleared_of_none hm]
      exact ⟨[], .ok (), ⟨rfl, rfl, rfl⟩, (List.append_nil _).symm, .inl ⟨by simp, rfl⟩⟩
  | some h =>
      obtain ⟨told, hgone, htold⟩ := cleared_givesUp (b := b) hm
      obtain ⟨calls, hteardown, hcalls⟩ := hgone.calls
      exact ⟨calls, told, hteardown, hcalls, htold⟩

/-- A session without a handle holds what asking for one gives. -/
theorem opened_gives (config : SessionConfig) (hnone : m.session.handle = none) :
    let given := b.openHandle config m.world
    let ended := opened b config m
    ended.1 = (given.1.result.map fun _ => ()) ∧ ended.2.world = given.2 ∧
      ended.2.session.handle = given.1.given? ∧
      (∀ h, given.1 = .done h → ended.2.session.transactions = .idle) ∧
      Event.calls ended.2.events = Event.calls m.events ++ [.openHandle config.database] := by
  simp only [opened]
  rcases b.openHandle config m.world with ⟨h | fault | _, w⟩
  · exact ⟨rfl, rfl, rfl, fun _ _ => rfl, by simp [Machine.reported]⟩
  · exact ⟨rfl, rfl, hnone, fun _ hdone => (by cases hdone), by simp⟩
  · exact ⟨rfl, rfl, hnone, fun _ hdone => (by cases hdone), by simp⟩

theorem connect_connects : m.Connects b (connect b m).1 (connect b m).2 := by
  obtain ⟨calls, told, hreleases, hcalls, hcleared⟩ := cleared_releases b m
  have hnone := cleared_handle b m
  rw [connect_run]
  rcases hrun : cleared b m with ⟨result, m'⟩
  rw [hrun] at hreleases hcalls hcleared hnone
  obtain ⟨hback, rfl⟩ | ⟨rfl, rfl⟩ := hcleared
  · -- The opening begins in the world that the release has left, whatever was told of it.
    obtain ⟨hresult, hworld, hhandle, hidle, hlast⟩ := opened_gives b m' m.session.config hnone
    show m.Connects b (opened b m.session.config m').1 (opened b m.session.config m').2
    rw [hresult]
    refine .asked hreleases hback ?_ hhandle hidle ?_
    · rw [hworld]
    · rw [hlast, hcalls, List.append_assoc]
  · exact .lost hreleases hnone hcalls

end Session

namespace Machine.Connects

variable {b : Backend H W} {m m' : Machine H W} {result : Except Stop Unit}

/-- A connection that fails leaves no handle, whether the old one or the new one is to blame. -/
theorem handle_of_error (hm : m.Connects b result m') {stop : Stop} (herror : result = .error stop) :
    m'.session.handle = none := by
  cases hm with
  | lost _ hnone _ => exact hnone
  | @asked _ _ _ reply _ _ _ _ hhandle _ _ =>
      rw [hhandle]
      cases reply with
      | done h => cases herror
      | failed _ | crashed => rfl

/-- What the session ends with is what the opening gives, unless the release did not come back. -/
theorem asks (hm : m.Connects b result m') :
    ∃ calls told w, m.Releases b calls told w ∧
      (told = .error .crash → (result.map fun _ => Answer.done) = .error .crash ∧
        Event.calls m'.events = Event.calls m.events ++ calls) ∧
      (told ≠ .error .crash →
        let opened := b.openHandle m.session.config w
        (result.map fun _ => Answer.done) = (opened.1.result.map fun _ => .done) ∧
          m'.world = opened.2 ∧ m'.session.handle = opened.1.given? ∧
          (∀ h, opened.1 = .done h → m'.session.transactions = .idle) ∧
          Event.calls m'.events =
            Event.calls m.events ++ (calls ++ [.openHandle m.session.config.database])) := by
  cases hm with
  | lost hreleases _ hcalls =>
      exact ⟨_, _, _, hreleases, fun _ => ⟨rfl, hcalls⟩, fun hback => absurd rfl hback⟩
  | @asked calls told w reply _ hreleases hback hopen hhandle hidle hcalls =>
      refine ⟨calls, told, w, hreleases, fun hcrash => absurd hcrash hback, fun _ => ?_⟩
      rw [hopen]
      exact ⟨by cases reply <;> rfl, rfl, hhandle, hidle, hcalls⟩

/-- A connection that succeeds holds a handle that was opened for it, with no transaction on it. -/
theorem opened_of_ok (hm : m.Connects b result m') (hok : result = .ok ()) :
    ∃ calls told w h, m.Releases b calls told w ∧
      b.openHandle m.session.config w = (.done h, m'.world) ∧
      m'.session.handle = some h ∧ m'.session.transactions = .idle ∧
      Event.calls m'.events =
        Event.calls m.events ++ (calls ++ [.openHandle m.session.config.database]) := by
  cases hm with
  | lost _ _ _ => cases hok
  | @asked calls told w reply _ hreleases _ hopen hhandle hidle hcalls =>
      cases reply with
      | done h => exact ⟨calls, told, w, h, hreleases, hopen, hhandle, hidle h rfl, hcalls⟩
      | failed _ | crashed => cases hok

end Machine.Connects

/-! ## The configuration -/

theorem Session.cleared_config (b : Backend H W) (m : Machine H W) :
    (cleared b m).2.session.config = m.session.config := by
  cases hm : m.session.handle with
  | none => rw [cleared_of_none hm]
  | some h =>
      obtain ⟨told, hgone, -⟩ := cleared_givesUp (b := b) hm
      exact hgone.config

theorem Session.opened_config (b : Backend H W) (config : SessionConfig) (m : Machine H W) :
    (opened b config m).2.session.config = m.session.config := by
  unfold opened
  rcases b.openHandle config m.world with ⟨_ | _ | _, w⟩ <;> rfl

/-- No request touches the configuration. -/
theorem Machine.perform_config (b : Backend H W) (m : Machine H W) (request : Request) :
    (m.perform b request).2.session.config = m.session.config := by
  by_cases hkeeps : request.keepsHandle = true
  · exact (m.perform_follows b hkeeps).config
  · rw [perform_run]
    cases request with
    | connect =>
        have hcleared := Session.cleared_config b m
        simp only [Session.connect_run]
        rcases hrun : Session.cleared b m with ⟨stop | _, m'⟩
        · rw [hrun] at hcleared
          exact hcleared
        · rw [hrun] at hcleared
          exact (Session.opened_config b _ m').trans hcleared
    | disconnect =>
        cases hm : m.session.handle with
        | none => simp only [Session.disconnect_run_of_none hm]
        | some h => exact (Session.disconnect_givesUp hm).config
    | _ => exact absurd rfl hkeeps

/-! ## Lifespans -/

/-- The calls from one asking for a handle to the end of that handle, and the world behind them. -/
inductive Lifespan (b : Backend H W) (config : SessionConfig) (w : W) : List Call → W → Prop
  /-- The backend gives no handle. -/
  | refused {reply : Reply H} {w' : W} :
      b.openHandle config w = (reply, w') → (∀ h, reply ≠ .done h) →
      Lifespan b config w [.openHandle config.database] w'
  /-- The backend gives a handle, statements lead it to another place, and there it is given up. -/
  | lived {h h' : H} {opened place w' : W} {statements ending : List Call} {told : Except Stop Unit} :
      b.openHandle config w = (.done h, opened) →
      b.replay (h, opened) statements = some (h', place) → Teardown b h' place ending told w' →
      Lifespan b config w (.openHandle config.database :: statements ++ ending) w'

/-- Lifespans one after another, each in the world that the one before it has left. -/
inductive Lifespans (b : Backend H W) (config : SessionConfig) (w : W) : List Call → W → Prop
  | none : Lifespans b config w [] w
  | more {calls next : List Call} {w' w'' : W} :
      Lifespans b config w calls w' → Lifespan b config w' next w'' →
      Lifespans b config w (calls ++ next) w''

/-- A machine whose calls are lifespans, up to the one of the handle it holds. -/
structure Machine.Accounted (b : Backend H W) (config : SessionConfig) (w : W) (m : Machine H W) :
    Prop where
  configured : m.session.config = config
  ofNone : m.session.handle = none → Lifespans b config w (Event.calls m.events) m.world
  ofSome : ∀ h', m.session.handle = some h' → ∃ past statements h asked opened,
    Lifespans b config w past asked ∧ b.openHandle config asked = (.done h, opened) ∧
    b.replay (h, opened) statements = some (h', m.world) ∧
    Event.calls m.events = past ++ .openHandle config.database :: statements

namespace Machine.Accounted

variable {b : Backend H W} {config : SessionConfig} {w : W} {m m' : Machine H W}

theorem start (config : SessionConfig) (mapper : Option ConditionMapper) (w : W) :
    (Machine.start config mapper w : Machine H W).Accounted b config w where
  configured := rfl
  ofNone _ := .none
  ofSome h hm := by cases hm

/-- Calls on the handle lengthen its lifespan. -/
theorem follows {asks : Call → Prop} (hm : m.Accounted b config w) (hfollows : m.Follows b asks m') :
    m'.Accounted b config w where
  configured := hfollows.config.trans hm.configured
  ofNone hnone := by
    have hbefore := hfollows.handle_of_none hnone
    obtain ⟨-, hworld, hcalls⟩ := hfollows.ofNone hbefore
    rw [hworld, hcalls]
    exact hm.ofNone hbefore
  ofSome h' hsome := by
    cases hhandle : m.session.handle with
    | none =>
        obtain ⟨hsession, -⟩ := hfollows.ofNone hhandle
        rw [hsession, hhandle] at hsome
        cases hsome
    | some h =>
        obtain ⟨past, statements, first, asked, opened, hpast, hopen, hplace, hcalls⟩ :=
          hm.ofSome h hhandle
        obtain ⟨h'', calls, hsome', -, hcalls', hplace'⟩ := hfollows.ofSome h hhandle
        obtain rfl : h'' = h' := Option.some.inj (hsome'.symm.trans hsome)
        -- The new calls start where the statements so far have led.
        refine ⟨past, statements ++ calls, first, asked, opened, hpast, hopen, ?_, ?_⟩
        · rw [Backend.replay_append, hplace]
          exact hplace'
        · rw [hcalls', hcalls, List.append_assoc, List.cons_append]

/-- Giving the handle up completes its lifespan. -/
theorem givesUp {h : H} {told : Except Stop Unit} (hm : m.Accounted b config w)
    (hsome : m.session.handle = some h) (hgone : m.GivesUp b h told m') :
    m'.Accounted b config w where
  configured := hgone.config.trans hm.configured
  ofNone _ := by
    obtain ⟨past, statements, first, asked, opened, hpast, hopen, hplace, hcalls⟩ :=
      hm.ofSome h hsome
    obtain ⟨ending, hteardown, hcalls'⟩ := hgone.calls
    have hlife : Lifespan b config asked (.openHandle config.database :: statements ++ ending)
        m'.world := .lived hopen hplace hteardown
    rw [hcalls', hcalls, List.append_assoc]
    exact hpast.more hlife
  ofSome h' hsome' := by
    rw [hgone.handle] at hsome'
    cases hsome'

/-- A handle that is refused is a lifespan of its own. -/
theorem refused {reply : Reply H} {w' : W} (hm : m.Accounted b config w)
    (hnone : m.session.handle = none) (hopen : b.openHandle config m.world = (reply, w'))
    (hreply : ∀ h, reply ≠ .done h) :
    ({ m with world := w', events := m.events ++ [.call (.openHandle config.database)] } :
      Machine H W).Accounted b config w where
  configured := hm.configured
  ofNone _ := by
    have hlife : Lifespan b config m.world [.openHandle config.database] w' := .refused hopen hreply
    simpa using (hm.ofNone hnone).more hlife
  ofSome h' hsome := by
    rw [hnone] at hsome
    cases hsome

/-- Asking for a handle begins the next lifespan. -/
theorem opened (hm : m.Accounted b config w) (hnone : m.session.handle = none) :
    (Session.opened b config m).2.Accounted b config w := by
  unfold Session.opened
  rcases hopen : b.openHandle config m.world with ⟨h | fault | _, w'⟩
  · exact {
      configured := hm.configured
      ofNone := fun hnone' => by cases hnone'
      ofSome := fun h' hsome => by
        obtain rfl : h = h' := Option.some.inj hsome
        exact ⟨_, [], h, m.world, w', hm.ofNone hnone, hopen, rfl, by simp [Machine.reported]⟩ }
  · exact hm.refused hnone hopen (by simp)
  · exact hm.refused hnone hopen (by simp)

theorem cleared (hm : m.Accounted b config w) : (Session.cleared b m).2.Accounted b config w := by
  cases hhandle : m.session.handle with
  | none =>
      rw [Session.cleared_of_none hhandle]
      exact hm
  | some h =>
      obtain ⟨told, hgone, -⟩ := Session.cleared_givesUp hhandle
      exact hm.givesUp hhandle hgone

/-- Every request goes on with the lifespan of the handle, ends it, or begins another. -/
theorem perform (hm : m.Accounted b config w) (request : Request) :
    (m.perform b request).2.Accounted b config w := by
  by_cases hkeeps : request.keepsHandle = true
  · exact hm.follows (m.perform_follows b hkeeps)
  · cases request with
    | connect =>
        have hcleared := hm.cleared
        have hnone := Session.cleared_handle b m
        simp only [Machine.perform_run]
        rw [Session.connect_run]
        rcases hrun : Session.cleared b m with ⟨stop | _, m'⟩
        · rw [hrun] at hcleared
          exact hcleared
        · rw [hrun] at hcleared hnone
          rw [hm.configured]
          exact hcleared.opened hnone
    | disconnect =>
        simp only [Machine.perform_run]
        cases hhandle : m.session.handle with
        | none =>
            rw [Session.disconnect_run_of_none hhandle]
            exact hm
        | some h => exact hm.givesUp hhandle (Session.disconnect_givesUp hhandle)
    | _ => exact absurd rfl hkeeps

theorem drop (hm : m.Accounted b config w) :
    (m.drop b).2.Accounted b config w ∧ (m.drop b).2.session.handle = none := by
  unfold Machine.drop
  cases hhandle : m.session.handle with
  | none =>
      rw [Session.release_run, Session.disconnect_run_of_none hhandle]
      exact ⟨hm, hhandle⟩
  | some h =>
      obtain ⟨told, hgone, -⟩ := Session.release_givesUp hhandle
      exact ⟨hm.givesUp hhandle hgone, hgone.handle⟩

end Machine.Accounted

/-! ## The session without a handle -/

namespace Machine

variable {b : Backend H W} {m m' : Machine H W}

/-- Nothing is left of a transaction once the handle is gone. -/
def Rests (m : Machine H W) : Prop :=
  m.session.handle = none → m.session.transactions = .idle

theorem Rests.follows {asks : Call → Prop} (hm : m.Rests) (hfollows : m.Follows b asks m') :
    m'.Rests := by
  intro hnone
  have hbefore := hfollows.handle_of_none hnone
  obtain ⟨hsession, -⟩ := hfollows.ofNone hbefore
  rw [hsession]
  exact hm hbefore

theorem Rests.cleared (hm : m.Rests) (hback : (Session.cleared b m).1 ≠ .error .crash) :
    (Session.cleared b m).1 = .ok () ∧ (Session.cleared b m).2.session.transactions = .idle := by
  cases hhandle : m.session.handle with
  | none =>
      rw [Session.cleared_of_none hhandle]
      exact ⟨rfl, hm hhandle⟩
  | some h =>
      obtain ⟨told, hgone, ⟨htold, hok⟩ | ⟨-, hcrash⟩⟩ := Session.cleared_givesUp (b := b) hhandle
      · exact ⟨hok, hgone.idle htold⟩
      · exact absurd hcrash hback

theorem Rests.perform (hm : m.Rests) {request : Request}
    (hback : (m.perform b request).1 ≠ .error .crash) : (m.perform b request).2.Rests := by
  by_cases hkeeps : request.keepsHandle = true
  · exact hm.follows (m.perform_follows b hkeeps)
  · cases request with
    | connect =>
        simp only [perform_run] at hback ⊢
        rw [Session.connect_run] at hback ⊢
        by_cases hcleared : (Session.cleared b m).1 = .error .crash
        · rw [← Prod.eta (Session.cleared b m), hcleared] at hback
          exact absurd rfl hback
        · obtain ⟨hok, hidle⟩ := hm.cleared hcleared
          rw [← Prod.eta (Session.cleared b m), hok] at hback ⊢
          exact fun _ => Session.opened_idle hidle
    | disconnect =>
        simp only [perform_run] at hback ⊢
        cases hhandle : m.session.handle with
        | none =>
            rw [Session.disconnect_run_of_none hhandle]
            exact hm
        | some h =>
            intro _
            refine (Session.disconnect_givesUp hhandle).idle fun hcrash => ?_
            rw [hcrash] at hback
            exact hback rfl
    | _ => exact absurd rfl hkeeps

theorem Rests.performAll {requests : List Request} (hm : m.Rests)
    (hback : .error .crash ∉ (m.performAll b requests).1) : (m.performAll b requests).2.Rests := by
  induction requests generalizing m with
  | nil => exact hm
  | cons request requests ih =>
      obtain ⟨hfirst, hrest⟩ := not_or.mp (fun h => hback (List.mem_cons.mpr h))
      exact ih (hm.perform fun h => hfirst h.symm) hrest

end Machine

/-! ## Disconnecting and connecting as requests -/

namespace Machine

variable (b : Backend H W) (m : Machine H W)

/-- Disconnecting gives the handle up, if there is one, and tells what came of it. -/
theorem perform_disconnects :
    let gone := m.perform b .disconnect
    gone.2.session.handle = none ∧
      match m.session.handle with
      | none => gone = (.ok .done, m)
      | some h => ∃ calls told, Teardown b h m.world calls told gone.2.world ∧
        Event.calls gone.2.events = Event.calls m.events ++ calls ∧
        gone.1 = (told.map fun _ => .done) ∧
        (told ≠ .error .crash → gone.2.session.transactions = .idle) := by
  intro gone
  have hgone : gone = ((Session.disconnect b m).1.map fun _ => .done, (Session.disconnect b m).2) :=
    perform_run b m .disconnect
  cases hhandle : m.session.handle with
  | none =>
      rw [Session.disconnect_run_of_none hhandle] at hgone
      rw [hgone]
      exact ⟨hhandle, rfl⟩
  | some h =>
      have hgiven := Session.disconnect_givesUp (b := b) hhandle
      obtain ⟨calls, hteardown, hcalls⟩ := hgiven.calls
      rw [hgone]
      exact ⟨hgiven.handle, calls, _, hteardown, hcalls, rfl, hgiven.idle⟩

theorem perform_connects :
    ∃ result, m.Connects b result (m.perform b .connect).2 ∧
      (m.perform b .connect).1 = result.map fun _ => .done := by
  rw [perform_run]
  exact ⟨_, Session.connect_connects b m, rfl⟩

end Machine

/-! ## Whole runs -/

/-- The calls of a run that the dropping of its session ends are lifespans one after another.  After a
disconnection, and after a connection that failed, the session holds no handle, and nothing is left of
a transaction unless a call never came back; what a disconnection tells is the first fault among the
rollback and the closing that it made.  Connecting gives the old handle up and, when that comes back, asks
for another and holds what it is given; it succeeds exactly when it is given one. -/
theorem calls_are_lifespans (b : Backend H W) (config : SessionConfig)
    (mapper : Option ConditionMapper) (world : W) (requests : List Request) :
    let run := (Machine.start config mapper world : Machine H W).performAll b requests
    let m := run.2
    let gone := m.perform b .disconnect
    let replaced := m.perform b .connect
    (Lifespans b config world (Event.calls (m.drop b).2.events) (m.drop b).2.world ∧
      (m.drop b).2.session.handle = none) ∧
    (gone.2.session.handle = none ∧
      (.error .crash ∉ run.1 ++ [gone.1] → gone.2.session.transactions = .idle) ∧
      match m.session.handle with
      | none => gone = (.ok .done, m)
      | some h => ∃ calls told, Teardown b h m.world calls told gone.2.world ∧
        Event.calls gone.2.events = Event.calls m.events ++ calls ∧
        gone.1 = (told.map fun _ => .done) ∧
        (told ≠ .error .crash → gone.2.session.transactions = .idle)) ∧
    (∀ stop, replaced.1 = .error stop → replaced.2.session.handle = none ∧
      (.error .crash ∉ run.1 ++ [replaced.1] → replaced.2.session.transactions = .idle)) ∧
    ∃ calls told w, m.Releases b calls told w ∧
      (told = .error .crash → replaced.1 = .error .crash ∧
        Event.calls replaced.2.events = Event.calls m.events ++ calls) ∧
      (told ≠ .error .crash →
        let opened := b.openHandle config w
        replaced.1 = (opened.1.result.map fun _ => .done) ∧ replaced.2.world = opened.2 ∧
          replaced.2.session.handle = opened.1.given? ∧
          (∀ h, opened.1 = .done h → replaced.2.session.transactions = .idle) ∧
          Event.calls replaced.2.events =
            Event.calls m.events ++ (calls ++ [.openHandle config.database])) := by
  intro run m gone replaced
  have haccounted : m.Accounted b config world :=
    Machine.performAll_preserves b _ (fun request _ m' hm' => hm'.perform request)
      (.start config mapper world)
  have hrests (hback : .error .crash ∉ run.1) : m.Rests :=
    Machine.Rests.performAll (fun _ => rfl) hback
  -- Only a crash leaves something in the bookkeeping, and a crash shows in a result.
  have hidle {request : Request} (hnone : (m.perform b request).2.session.handle = none)
      (hback : .error .crash ∉ run.1 ++ [(m.perform b request).1]) :
      (m.perform b request).2.session.transactions = .idle := by
    obtain ⟨hbefore, hlast⟩ := not_or.mp (fun h => hback (List.mem_append.mpr h))
    exact (hrests hbefore).perform (fun h => hlast (List.mem_singleton.mpr h.symm)) hnone
  obtain ⟨hnone, hdisconnected⟩ := m.perform_disconnects b
  obtain ⟨result, hconnects, hresult⟩ := m.perform_connects b
  have hreplaced : replaced.1 = result.map fun _ => .done := hresult
  refine ⟨⟨haccounted.drop.1.ofNone haccounted.drop.2, haccounted.drop.2⟩,
    ⟨hnone, hidle hnone, hdisconnected⟩, ?_, ?_⟩
  · intro stop herror
    have hfailed : result = .error stop := by
      rw [hreplaced] at herror
      cases result <;> cases herror
      rfl
    exact ⟨hconnects.handle_of_error hfailed, hidle (hconnects.handle_of_error hfailed)⟩
  · rw [hreplaced, ← haccounted.configured]
    exact hconnects.asks

end OpenSql
