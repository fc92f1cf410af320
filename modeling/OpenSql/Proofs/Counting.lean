/-
# OpenSql.Proofs.Counting — the number of statements that a transaction has seen.

The bookkeeping counts statements and starts anew in several places: when it finds the flag changed, when
a transaction is begun or ended, and when a handle comes or goes.  What the count amounts to can be said
without any of these places.  A run falls into stages, one for each request and one for each script of a
batch.  Some of them start a count and some record a statement; and as long as a transaction is believed
to be open, the count is the number of recordings since the last start.
-/
import OpenSql.Proofs.Batches
import OpenSql.Proofs.Bookkeeping

namespace OpenSql

variable {H W : Type}

/-! ## Stages of a run -/

theorem isOk_map {ε α β : Type} (x : Except ε α) (f : α → β) : (x.map f).isOk = x.isOk := by
  cases x <;> rfl

/-- The request has ended, with a fault or without one. -/
def Result.returned : Result → Bool
  | .error .crash => false
  | _ => true

/-- A request with what it has answered and the states around it. -/
structure Stage (H W : Type) where
  before : Machine H W
  request : Request
  result : Result
  after : Machine H W

namespace Stage

/-- A transaction was begun, by a call that has succeeded. -/
def Begins (s : Stage H W) : Prop :=
  s.request = .begin ∧ s.result = .ok .done ∧
    Event.calls s.after.events = Event.calls s.before.events ++ [.begin]

/-- The session has come to believe that a transaction is open. -/
def Turns (s : Stage H W) : Prop :=
  s.before.session.transactions.active = false ∧ s.after.session.transactions.active = true

/-- A count starts here. -/
def Starts (s : Stage H W) : Prop := s.Begins ∨ s.Turns

/-- A statement was recorded: a mutation on a connected session, with a fault or without one, or a script
that is not empty and has succeeded. -/
def records (s : Stage H W) : Bool :=
  match s.request with
  | .insert _ | .update _ | .delete _ => s.before.session.isConnected && s.result.returned
  | .execute (.single sql) => !sql.isEmpty && s.result.isOk
  | _ => false

/-- The number of statements recorded since the last start of a count.  The one that starts it counts as
well, if it records. -/
def Counted (stages : List (Stage H W)) (n : Nat) : Prop :=
  ∃ past start later, stages = past ++ start :: later ∧ start.Starts ∧
    (∀ s ∈ later, ¬ s.Starts) ∧ n = (start :: later).countP (·.records)

theorem counted_of_starts (past : List (Stage H W)) {s : Stage H W} (hs : s.Starts) :
    Counted (past ++ [s]) s.records.toNat := by
  refine ⟨past, s, [], rfl, hs, by simp, ?_⟩
  cases h : s.records <;> simp [h]

theorem Counted.snoc {stages : List (Stage H W)} {n : Nat} {s : Stage H W} (h : Counted stages n)
    (hs : ¬ s.Starts) : Counted (stages ++ [s]) (n + s.records.toNat) := by
  obtain ⟨past, start, later, rfl, hstart, hlater, rfl⟩ := h
  refine ⟨past, start, later ++ [s], by simp, hstart, ?_, ?_⟩
  · intro s' hs'
    obtain hs' | hs' := List.mem_append.mp hs'
    · exact hlater s' hs'
    · rwa [List.mem_singleton.mp hs']
  · rw [← List.cons_append, List.countP_append]
    cases h : s.records <;> simp [h]

end Stage

namespace Machine

/-- A request as one stage. -/
def stage (b : Backend H W) (m : Machine H W) (request : Request) : Stage H W :=
  ⟨m, request, (m.perform b request).1, (m.perform b request).2⟩

/-- Scripts as stages, up to the first that does not succeed. -/
def scriptStages (b : Backend H W) (m : Machine H W) : List String → List (Stage H W)
  | [] => []
  | sql :: rest =>
    let s := m.stage b (.execute (.single sql))
    if s.result.isOk then s :: s.after.scriptStages b rest else [s]

/-- The stages of a request: a batch has one for each script that is run. -/
def stagesOf (b : Backend H W) (m : Machine H W) : Request → List (Stage H W)
  | .execute script => m.scriptStages b script.toList
  | request => [m.stage b request]

/-- The stages of a run. -/
def stages (b : Backend H W) (m : Machine H W) : List Request → List (Stage H W)
  | [] => []
  | request :: rest => m.stagesOf b request ++ (m.perform b request).2.stages b rest

/-- Stages that lead from one state to another, each in the state that the one before it has left.  None of
them is a batch. -/
inductive Leads (b : Backend H W) : Machine H W → List (Stage H W) → Machine H W → Prop
  | nil (m : Machine H W) : Leads b m [] m
  | cons {m m' : Machine H W} {request : Request} {stages : List (Stage H W)}
      (hsingle : ∀ scripts, request ≠ .execute (.batch scripts))
      (hrest : Leads b (m.stage b request).after stages m') :
      Leads b m (m.stage b request :: stages) m'

variable {b : Backend H W} {m m' m'' : Machine H W}

theorem Leads.append {stages more : List (Stage H W)} (h : Leads b m stages m')
    (h' : Leads b m' more m'') : Leads b m (stages ++ more) m'' := by
  induction h with
  | nil => exact h'
  | cons hsingle _ ih => exact .cons hsingle (ih h')

/-- A script by itself is one stage. -/
theorem stage_single (b : Backend H W) (m : Machine H W) (sql : String) :
    m.stage b (.execute (.single sql)) = ⟨m, .execute (.single sql),
      (Session.executeOne b sql m).1.map fun _ => .done, (Session.executeOne b sql m).2⟩ := by
  unfold stage
  simp only [perform_run, Session.execute]

theorem leads_scriptStages (b : Backend H W) (m : Machine H W) (scripts : List String) :
    Leads b m (m.scriptStages b scripts) (Session.executeAll b scripts m).2 := by
  induction scripts generalizing m with
  | nil => exact .nil m
  | cons sql rest ih =>
      have hstage := stage_single b m sql
      have hok : (m.stage b (.execute (.single sql))).result.isOk =
          (Session.executeOne b sql m).1.isOk := by
        rw [hstage]
        exact isOk_map _ _
      have hafter : (m.stage b (.execute (.single sql))).after = (Session.executeOne b sql m).2 := by
        rw [hstage]
      have hcons {stages : List (Stage H W)} {m' : Machine H W}
          (hrest : Leads b (Session.executeOne b sql m).2 stages m') :
          Leads b m (m.stage b (.execute (.single sql)) :: stages) m' := by
        rw [← hafter] at hrest
        exact .cons (by simp) hrest
      rw [Session.executeAll_run_cons]
      simp only [scriptStages, hok, hafter]
      rcases hrun : Session.executeOne b sql m with ⟨stop | _, m'⟩
      · -- A script that fails is the last stage.
        rw [hrun] at hcons
        exact hcons (.nil m')
      · rw [hrun] at hcons
        exact hcons (ih m')

theorem leads_stagesOf (b : Backend H W) (m : Machine H W) (request : Request) :
    Leads b m (m.stagesOf b request) (m.perform b request).2 := by
  cases request with
  | execute script =>
      rw [perform_run]
      simp only [Session.execute_eq]
      exact leads_scriptStages b m script.toList
  | _ => exact .cons (by simp) (.nil _)

/-- The stages of a run lead to where the run leads. -/
theorem leads_stages (b : Backend H W) (m : Machine H W) (requests : List Request) :
    Leads b m (m.stages b requests) (m.performAll b requests).2 := by
  induction requests generalizing m with
  | nil => exact .nil m
  | cons request requests ih => exact (leads_stagesOf b m request).append (ih _)

end Machine

/-! ## What a stage adds to a count -/

namespace Transactions

/-- The bookkeeping that is left believes in an open transaction only with so many statements more than
there were before. -/
def Gains (n : Nat) (t t' : Transactions) : Prop :=
  t'.active = true → t'.statements = t.statements + n

variable {n : Nat} {t : Transactions}

theorem gains_idle : Gains n t .idle := by
  intro hactive
  cases hactive

theorem gains_zero : Gains 0 t t := fun _ => rfl

theorem gains_of_flag (flag : Bool) :
    Gains n t (if flag then ⟨true, t.statements + n⟩ else .idle) := by
  cases flag with
  | true => exact fun _ => rfl
  | false => exact gains_idle

theorem Sound.gains_observe (ht : t.Sound) (flag : Bool) : Gains 0 t (t.observe flag) := by
  rw [ht.observe_eq]
  exact gains_of_flag flag

theorem Sound.gains_count (ht : t.Sound) (flag : Bool) : Gains 1 t (t.observe flag).count := by
  rw [ht.count_observe]
  exact gains_of_flag flag

end Transactions

open Transactions (Gains gains_idle gains_zero gains_of_flag)

namespace Line

variable {b : Backend H W} {line : Line H W}

theorem commit_gains (line : Line H W) (hsound : line.transactions.Sound) :
    Gains 0 line.transactions (commit b line).2.transactions := by
  have hobserved : Gains 0 line.transactions (line.observed b).transactions :=
    hsound.gains_observe _
  cases hflag : line.inTransaction b with
  | true =>
      rw [commit_run_of_open hflag]
      cases (b.commit line.handle line.world).1 with
      | done _ => exact gains_idle
      | failed fault => exact hobserved
      | crashed => exact hobserved
  | false =>
      rw [commit_run_of_closed hflag]
      exact hobserved

theorem rollback_gains (line : Line H W) (hsound : line.transactions.Sound) :
    Gains 0 line.transactions (rollback b line).2.transactions := by
  by_cases hback : (rollback b line).1 = .error .crash
  · -- Without an answer nothing has looked at the flag after the call.
    obtain ⟨hflag, hreply⟩ := (rollback_drives b line).lost.mp hback
    rw [rollback_run_of_open hflag, hreply]
    exact hsound.gains_observe _
  · rw [(rollback_rollsBack hsound).back hback]
    exact gains_of_flag _

/-- A transaction that is not begun by a call is the one that was open. -/
theorem begin_gains (line : Line H W) (hsound : line.transactions.Sound)
    (hcall : line.inTransaction b = true ∨ (b.begin line.handle line.world).1 ≠ .done ()) :
    Gains 0 line.transactions (begin b line).2.transactions := by
  cases hflag : line.inTransaction b with
  | true =>
      rw [begin_run_of_open hflag]
      exact hsound.gains_observe _
  | false =>
      have hrefused : (b.begin line.handle line.world).1 ≠ .done () := by
        simpa [hflag] using hcall
      rw [begin_run_of_closed hflag]
      cases hreply : (b.begin line.handle line.world).1 with
      | done _ => exact absurd hreply hrefused
      | failed fault => exact hsound.gains_observe _
      | crashed => exact hsound.gains_observe _

end Line

namespace Session

variable {b : Backend H W} {m : Machine H W}

theorem connected_gains {operation : LineM H W Unit} (hsound : m.session.transactions.Sound)
    (hoperation : ∀ line : Line H W, line.transactions.Sound →
      Gains 0 line.transactions (operation line).2.transactions) :
    Gains 0 m.session.transactions (connected operation m).2.session.transactions := by
  cases hm : m.session.handle with
  | none =>
      rw [connected_run_of_none hm]
      exact gains_zero
  | some h =>
      rw [connected_run_of_some hm]
      exact hoperation (m.line h) hsound

/-- Only a rollback that does not come back leaves anything in the bookkeeping. -/
theorem disconnect_transactions {h : H} (hm : m.session.handle = some h) :
    (disconnect b m).2.session.transactions = .idle ∨
      (disconnect b m).2.session.transactions = (Line.rollback b (m.line h)).2.transactions := by
  rw [disconnect_run_of_some hm]
  rcases Line.rollback b (m.line h) with ⟨(e | _) | _, line⟩
  · refine .inl ?_
    rcases hclose : b.close line.handle line.world with ⟨_ | _ | _, w⟩ <;> simp only [hclose] <;> rfl
  · exact .inr rfl
  · refine .inl ?_
    rcases hclose : b.close line.handle line.world with ⟨_ | _ | _, w⟩ <;> simp only [hclose] <;> rfl

theorem disconnect_gains (hsound : m.session.transactions.Sound) :
    Gains 0 m.session.transactions (disconnect b m).2.session.transactions := by
  cases hm : m.session.handle with
  | none =>
      rw [disconnect_run_of_none hm]
      exact gains_zero
  | some h =>
      obtain hidle | hrolled := disconnect_transactions (b := b) hm
      · rw [hidle]
        exact gains_idle
      · rw [hrolled]
        exact Line.rollback_gains (b := b) (m.line h) hsound

theorem release_session (b : Backend H W) (m : Machine H W) :
    (release b m).2.session = (disconnect b m).2.session := by
  rw [release_run]
  rcases disconnect b m with ⟨(e | _) | _, m'⟩ <;> rfl

theorem cleared_gains (hsound : m.session.transactions.Sound) :
    Gains 0 m.session.transactions (cleared b m).2.session.transactions := by
  unfold cleared
  split
  · rw [release_session]
    exact disconnect_gains (m := m.reported _) hsound
  · exact gains_zero

theorem connect_gains (hsound : m.session.transactions.Sound) :
    Gains 0 m.session.transactions (connect b m).2.session.transactions := by
  have hcleared := cleared_gains (b := b) hsound
  rw [connect_run]
  rcases hrun : cleared b m with ⟨stop | _, m'⟩
  · rw [hrun] at hcleared
    exact hcleared
  · rw [hrun] at hcleared
    show Gains 0 m.session.transactions (opened b m.session.config m').2.session.transactions
    obtain hidle | hsame := opened_transactions b m.session.config m'
    · rw [hidle]
      exact gains_idle
    · rw [hsame]
      exact hcleared

/-- A script is counted exactly when it is not empty and succeeds. -/
theorem executeOne_counts (b : Backend H W) (m : Machine H W) (sql : String) :
    let counted := !sql.isEmpty && (executeOne b sql m).1.isOk
    let left := (executeOne b sql m).2.session.transactions
    counted = false ∧ left = m.session.transactions ∨
      counted = true ∧ ∃ flag, left = (m.session.transactions.observe flag).count := by
  cases hsql : sql.isEmpty with
  | true =>
      rw [executeOne_run_of_empty hsql]
      exact .inl ⟨rfl, rfl⟩
  | false =>
      cases hm : m.session.handle with
      | none =>
          rw [executeOne_run_of_none hsql hm]
          exact .inl ⟨rfl, rfl⟩
      | some h =>
          rw [executeOne_run_of_some hsql hm]
          cases (b.executeBatch sql h m.world).1 with
          | done _ => exact .inr ⟨rfl, _, rfl⟩
          | failed fault => exact .inl ⟨rfl, rfl⟩
          | crashed => exact .inl ⟨rfl, rfl⟩

end Session

/-- The operation by which a transaction is begun or ended. -/
def Request.onLine? (b : Backend H W) : Request → Option (LineM H W Unit)
  | .begin => some (Line.begin b)
  | .commit => some (Line.commit b)
  | .rollback => some (Line.rollback b)
  | _ => none

namespace Machine

variable {b : Backend H W} {m m' : Machine H W} {request : Request}

theorem mutation_gains (hsound : m.session.transactions.Sound) (u : Mutation) :
    Gains (m.stage b u.request).records.toNat m.session.transactions
      (m.perform b u.request).2.session.transactions := by
  cases hm : m.session.handle with
  | none =>
      have hconnect : u.request ≠ .connect := by cases u <;> simp [Mutation.request]
      have hrecords : (m.stage b u.request).records = false := by
        cases u <;> simp [stage, Stage.records, Mutation.request, Session.isConnected, hm]
      rw [(perform_of_none hm hconnect).2.1, hrecords]
      exact gains_zero
  | some h =>
      have hrecords : (m.stage b u.request).records =
          Result.returned (m.perform b u.request).1 := by
        cases u <;> simp [stage, Stage.records, Mutation.request, Session.isConnected, hm]
      rw [hrecords, (perform_mutation hm u).1, mutation_transactions hm]
      rcases b.mutate u h m.world with ⟨_ | _ | _, place⟩
      · exact hsound.gains_count _
      · exact hsound.gains_count _
      · exact gains_zero

theorem query_transactions (b : Backend H W) (m : Machine H W) {options : SelectOptions}
    (hrequest : request = .select options ∨ request = .openCursor options) :
    (m.perform b request).2.session.transactions = m.session.transactions := by
  cases hm : m.session.handle with
  | none =>
      have hconnect : request ≠ .connect := by
        obtain rfl | rfl := hrequest <;> simp
      rw [(perform_of_none hm hconnect).2.1]
  | some h => rw [(perform_query hm options hrequest).2]

/-- A request for a transaction is an operation on the line of the handle. -/
theorem perform_on_line {h : H} (hm : m.session.handle = some h) {operation : LineM H W Unit}
    (hoperation : request.onLine? b = some operation) :
    m.perform b request = ((operation (m.line h)).1.map fun _ => .done,
      m.withLine (some (operation (m.line h)).2.handle) (operation (m.line h)).2) := by
  rw [perform_run]
  cases request with
  | begin | commit | rollback =>
      cases hoperation
      simp only [Session.begin, Session.commit, Session.rollback, Session.connected_run_of_some hm]
  | _ => cases hoperation

/-- Beginning makes its call exactly when no transaction is open. -/
theorem begin_calls {h : H} (hm : m.session.handle = some h) :
    Event.calls (m.perform b .begin).2.events = Event.calls m.events ++
      if b.inTransaction h m.world then [] else [.begin] := by
  rw [perform_on_line hm rfl]
  show Event.calls (Line.begin b (m.line h)).2.events = _
  rw [(Line.begin_drives b (m.line h)).calls]
  show _ ++ (if !b.inTransaction h m.world then [Call.begin] else []) = _
  cases b.inTransaction h m.world <;> rfl

/-- A transaction is begun exactly when none is open and the call succeeds. -/
theorem begins_iff : (m.stage b request).Begins ↔ request = .begin ∧
    ∃ h, m.session.handle = some h ∧ b.inTransaction h m.world = false ∧
      (b.begin h m.world).1 = .done () := by
  constructor
  · rintro ⟨hrequest, hresult, hcalls⟩
    obtain rfl : request = .begin := hrequest
    have hdone : (m.perform b .begin).1 = .ok .done := hresult
    have hbegun : Event.calls (m.perform b .begin).2.events = Event.calls m.events ++ [.begin] := hcalls
    cases hm : m.session.handle with
    | none =>
        have herror : (m.perform b .begin).1 = .error (.error m.session.unconnected) :=
          (perform_of_none hm (by simp)).1
        rw [herror] at hdone
        cases hdone
    | some h =>
        have hclosed : (m.line h).inTransaction b = false := by
          rw [begin_calls hm] at hbegun
          cases hflag : b.inTransaction h m.world with
          | true => simp [hflag] at hbegun
          | false => exact hflag
        refine ⟨rfl, h, rfl, hclosed, ?_⟩
        rw [perform_on_line hm rfl, Line.begin_run_of_closed hclosed] at hdone
        show (b.begin (m.line h).handle (m.line h).world).1 = .done ()
        cases hreply : (b.begin (m.line h).handle (m.line h).world).1 with
        | done _ => rfl
        | failed _ | crashed => simp [hreply, Except.map] at hdone
  · rintro ⟨rfl, h, hm, hclosed, hreply⟩
    refine ⟨rfl, ?_, ?_⟩
    · show (m.perform b .begin).1 = .ok .done
      have hline : (m.line h).inTransaction b = false := hclosed
      have hdone : (b.begin (m.line h).handle (m.line h).world).1 = .done () := hreply
      rw [perform_on_line hm rfl, Line.begin_run_of_closed hline, hdone]
      rfl
    · show Event.calls (m.perform b .begin).2.events = Event.calls m.events ++ [.begin]
      rw [begin_calls hm, hclosed]
      rfl

/-- A transaction that was begun has seen no statement. -/
theorem begins_transactions (hbegins : (m.stage b request).Begins) :
    (m.stage b request).after.session.transactions = ⟨true, 0⟩ := by
  obtain ⟨rfl, h, hm, hclosed, hreply⟩ := begins_iff.mp hbegins
  have hline : (m.line h).inTransaction b = false := hclosed
  have hdone : (b.begin (m.line h).handle (m.line h).world).1 = .done () := hreply
  show (m.perform b .begin).2.session.transactions = ⟨true, 0⟩
  rw [perform_on_line hm rfl, Line.begin_run_of_closed hline, hdone]
  rfl

theorem begin_gains (hsound : m.session.transactions.Sound)
    (hbegins : ¬ (m.stage b .begin).Begins) :
    Gains 0 m.session.transactions (m.perform b .begin).2.session.transactions := by
  cases hm : m.session.handle with
  | none =>
      rw [(perform_of_none hm (by simp)).2.1]
      exact gains_zero
  | some h =>
      have hcall : (m.line h).inTransaction b = true ∨
          (b.begin (m.line h).handle (m.line h).world).1 ≠ .done () := by
        cases hflag : (m.line h).inTransaction b with
        | true => exact .inl rfl
        | false => exact .inr fun hreply => hbegins (begins_iff.mpr ⟨rfl, h, hm, hflag, hreply⟩)
      have hgains := Line.begin_gains (b := b) (m.line h) hsound hcall
      rw [perform_on_line hm rfl]
      exact hgains

theorem stage_single_counts (b : Backend H W) (m : Machine H W) (sql : String) :
    let s := m.stage b (.execute (.single sql))
    s.records = false ∧ s.after.session.transactions = m.session.transactions ∨
      s.records = true ∧ ∃ flag, s.after.session.transactions =
        (m.session.transactions.observe flag).count := by
  have hcounts := Session.executeOne_counts b m sql
  rw [stage_single]
  simp only [Stage.records, isOk_map]
  exact hcounts

/-- What is not begun gains what it records. -/
theorem stage_gains (hsound : m.session.transactions.Sound)
    (hsingle : ∀ scripts, request ≠ .execute (.batch scripts))
    (hbegins : ¬ (m.stage b request).Begins) :
    Gains (m.stage b request).records.toNat m.session.transactions
      (m.stage b request).after.session.transactions := by
  have hperform : (m.stage b request).after = (m.perform b request).2 := rfl
  cases request with
  | connect =>
      rw [hperform, perform_run]
      exact Session.connect_gains hsound
  | disconnect =>
      rw [hperform, perform_run]
      exact Session.disconnect_gains hsound
  | execute script =>
      cases script with
      | single sql =>
          obtain ⟨hcounted, hkept⟩ | ⟨hcounted, flag, hleft⟩ := stage_single_counts b m sql
          · rw [hcounted, hkept]
            exact gains_zero
          · rw [hcounted, hleft]
            exact hsound.gains_count flag
      | batch scripts => exact absurd rfl (hsingle scripts)
  | select options =>
      rw [hperform, query_transactions b m (.inl rfl)]
      exact gains_zero
  | openCursor options =>
      rw [hperform, query_transactions b m (.inr rfl)]
      exact gains_zero
  | insert options => exact mutation_gains hsound (.insert options)
  | update options => exact mutation_gains hsound (.update options)
  | delete options => exact mutation_gains hsound (.delete options)
  | begin => exact begin_gains hsound hbegins
  | commit =>
      rw [hperform, perform_run]
      exact Session.connected_gains hsound Line.commit_gains
  | rollback =>
      rw [hperform, perform_run]
      exact Session.connected_gains hsound Line.rollback_gains

/-! ## The count of a run -/

/-- The session counts what the stages behind it have recorded. -/
structure Exact (past : List (Stage H W)) (m : Machine H W) : Prop where
  sound : m.session.transactions.Sound
  counted : m.session.transactions.active = true →
    Stage.Counted past m.session.transactions.statements

/-- One more stage starts the count anew, or adds to it what it records. -/
theorem Exact.stage {past : List (Stage H W)} (h : Exact past m)
    (hsingle : ∀ scripts, request ≠ .execute (.batch scripts)) :
    Exact (past ++ [m.stage b request]) (m.stage b request).after where
  sound := sound_perform h.sound request
  counted := by
    intro hactive
    by_cases hbegins : (m.stage b request).Begins
    · have hrecords : (m.stage b request).records = false := by
        simp [Stage.records, hbegins.1]
      have hstarted := Stage.counted_of_starts past (.inl hbegins)
      rw [hrecords] at hstarted
      rw [begins_transactions hbegins]
      exact hstarted
    · have hgains := stage_gains h.sound hsingle hbegins hactive
      rw [hgains]
      cases hbefore : m.session.transactions.active with
      | false =>
          rw [h.sound hbefore, Nat.zero_add]
          exact Stage.counted_of_starts past (.inr ⟨hbefore, hactive⟩)
      | true =>
          refine (h.counted hbefore).snoc fun hstarts => ?_
          obtain hbegun | ⟨hinactive, -⟩ := hstarts
          · exact hbegins hbegun
          · have hboth : m.session.transactions.active = false := hinactive
            rw [hbefore] at hboth
            cases hboth

theorem Exact.leads {past stages : List (Stage H W)} (h : Exact past m)
    (hleads : Leads b m stages m') : Exact (past ++ stages) m' := by
  induction hleads generalizing past with
  | nil => simpa using h
  | @cons m m' request stages hsingle _ ih =>
      have hnext := ih (h.stage (b := b) hsingle)
      simpa using hnext

theorem exact_start (config : SessionConfig) (mapper : Option ConditionMapper) (world : W) :
    Exact [] (Machine.start config mapper world : Machine H W) where
  sound _ := rfl
  counted hactive := by cases hactive

end Machine

/-! ## What leaves a count alone -/

/-- The stage has no part in the count of an open transaction: a query, a script that is empty or fails, a
beginning that makes no call, a commit that fails, or a rollback that fails and leaves the transaction
open. -/
def Stage.Quiet (b : Backend H W) (s : Stage H W) : Prop :=
  match s.request with
  | .select _ | .openCursor _ => True
  | .execute (.single sql) => sql.isEmpty = true ∨ s.result.isOk = false
  | .begin => Event.calls s.after.events = Event.calls s.before.events
  | .commit => s.result.isOk = false
  | .rollback => s.result.isOk = false ∧ s.after.inTransaction b = true
  | _ => False

/-- Nothing that is recorded is quiet. -/
theorem Stage.Quiet.records_eq {b : Backend H W} {s : Stage H W} (h : s.Quiet b) :
    s.records = false := by
  obtain ⟨before, request, result, after⟩ := s
  cases request with
  | insert options | update options | delete options => exact absurd h id
  | execute script =>
      cases script with
      | batch scripts => rfl
      | single sql =>
          have hcase : sql.isEmpty = true ∨ result.isOk = false := h
          obtain hempty | hfails := hcase
          · simp [records, hempty]
          · simp [records, hfails]
  | _ => rfl

namespace Line

variable {b : Backend H W} {line : Line H W}

/-- An open transaction that is found open stays as it is believed to be. -/
theorem observed_of_active (hactive : line.transactions.active = true)
    (hflag : line.inTransaction b = true) : line.observed b = line := by
  have hsame : line.transactions.observe true = line.transactions := by
    simp [Transactions.observe, hactive]
  rw [observed, hflag, hsame]

theorem commit_keeps (line : Line H W) (hactive : line.transactions.active = true)
    (hfails : (commit b line).1.isOk = false) :
    (commit b line).2.transactions = line.transactions := by
  cases hflag : line.inTransaction b with
  | false =>
      rw [commit_run_of_closed hflag] at hfails
      cases hfails
  | true =>
      rw [commit_run_of_open hflag, observed_of_active hactive hflag] at hfails ⊢
      cases hreply : (b.commit line.handle line.world).1 with
      | done _ =>
          rw [hreply] at hfails
          cases hfails
      | failed fault => rfl
      | crashed => rfl

theorem rollback_keeps (line : Line H W) (hactive : line.transactions.active = true)
    (hfails : (rollback b line).1.isOk = false)
    (hopen : (rollback b line).2.inTransaction b = true) :
    (rollback b line).2.transactions = line.transactions := by
  cases hflag : line.inTransaction b with
  | false =>
      rw [rollback_run_of_closed hflag] at hfails
      cases hfails
  | true =>
      rw [rollback_run_of_open hflag, observed_of_active hactive hflag] at hfails hopen ⊢
      cases hreply : (b.rollback line.handle line.world).1 with
      | done _ =>
          rw [hreply] at hfails
          cases hfails
      | crashed => rfl
      | failed fault =>
          -- The flag is found set before the call and after it.
          rw [hreply] at hopen
          let back := (line.moved .rollback (b.rollback line.handle line.world).2).noted
            (.rolledBack line.transactions.statements)
          have hstill : back.transactions.active = true := hactive
          have hfound : back.inTransaction b = true := hopen
          show (back.observed b).transactions = line.transactions
          rw [observed_of_active hstill hfound]
          rfl

end Line

namespace Machine

variable {b : Backend H W} {m : Machine H W} {request : Request}

theorem quiet_keeps (hactive : m.session.transactions.active = true)
    (hquiet : (m.stage b request).Quiet b) :
    (m.perform b request).2.session.transactions = m.session.transactions := by
  cases hm : m.session.handle with
  | none =>
      have hconnect : request ≠ .connect := by
        rintro rfl
        exact hquiet
      rw [(perform_of_none hm hconnect).2.1]
  | some h =>
      cases request with
      | select options => exact query_transactions b m (.inl rfl)
      | openCursor options => exact query_transactions b m (.inr rfl)
      | execute script =>
          cases script with
          | batch scripts => exact absurd hquiet id
          | single sql =>
              obtain ⟨-, hkept⟩ | ⟨hcounted, -⟩ := stage_single_counts b m sql
              · exact hkept
              · rw [hquiet.records_eq] at hcounted
                cases hcounted
      | begin =>
          have hcalls : Event.calls (m.perform b .begin).2.events = Event.calls m.events := hquiet
          rw [begin_calls hm] at hcalls
          have hflag : (m.line h).inTransaction b = true := by
            by_cases hopen : b.inTransaction h m.world = true
            · exact hopen
            · simp [hopen] at hcalls
          have hline : (m.line h).transactions.active = true := hactive
          rw [perform_on_line hm rfl, Line.begin_run_of_open hflag,
            Line.observed_of_active hline hflag]
          rfl
      | commit =>
          have hfails : (m.perform b .commit).1.isOk = false := hquiet
          rw [perform_on_line hm rfl] at hfails ⊢
          rw [isOk_map] at hfails
          exact Line.commit_keeps (m.line h) hactive hfails
      | rollback =>
          obtain ⟨hfails, hopen⟩ : (m.perform b .rollback).1.isOk = false ∧
            (m.perform b .rollback).2.inTransaction b = true := hquiet
          rw [perform_on_line hm rfl] at hfails hopen ⊢
          rw [isOk_map] at hfails
          exact Line.rollback_keeps (m.line h) hactive hfails hopen
      | _ => exact absurd hquiet id

end Machine

/-- The statements that a session counts, on every backend and after every request of every run.  Without a
handle nothing is left of a transaction, unless a call never came back; outside a transaction nothing is
counted; and while a transaction is believed to be open, the count is the number of statements recorded
since the last stage that began one by a call or came to believe in one.  Queries, scripts that are empty
or fail, beginnings that make no call, and commits and rollbacks that fail and leave the transaction open
change nothing.  The stages are those of the run itself, in which a batch is as many stages as scripts. -/
theorem count_is_exact (b : Backend H W) (config : SessionConfig) (mapper : Option ConditionMapper)
    (world : W) (requests : List Request) :
    let fresh : Machine H W := .start config mapper world
    let run := fresh.performAll b requests
    let t := run.2.session.transactions
    (.error .crash ∉ run.1 → run.2.session.handle = none → t = .idle) ∧
    (t.active = false → t.statements = 0) ∧
    (Machine.Leads b fresh (fresh.stages b requests) run.2 ∧
      (t.active = true → Stage.Counted (fresh.stages b requests) t.statements)) ∧
    (t.active = true → ∀ request, (run.2.stage b request).Quiet b →
      (run.2.perform b request).2.session.transactions = t) := by
  intro fresh run t
  have hleads : Machine.Leads b fresh (fresh.stages b requests) run.2 :=
    Machine.leads_stages b fresh requests
  have hexact : Machine.Exact ([] ++ fresh.stages b requests) run.2 :=
    (Machine.exact_start config mapper world).leads hleads
  refine ⟨?_, hexact.sound, ⟨hleads, hexact.counted⟩, ?_⟩
  · intro hback
    exact Machine.Rests.performAll (fun _ => rfl) hback
  · intro hactive request hquiet
    exact Machine.quiet_keeps hactive hquiet

end OpenSql
