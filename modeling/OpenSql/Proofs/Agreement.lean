/-
# OpenSql.Proofs.Agreement — when the bookkeeping says what the backend says.

The bookkeeping is a copy of the backend's flag, and a copy is right as long as every call that changes
the flag is followed by a look at it.  Mutations look after the call whatever its answer; beginning and
rolling back look too.  Three paths do not: a script that is refused, a query, and a commit that is
refused.  A call of these that changes the flag is a slip, and slips are all that can go wrong: on a
backend with transactions of its own, bookkeeping and backend agree along a run exactly when no request
of the run slips.
-/
import Mathlib.Data.List.Induction
import OpenSql.Proofs.Engine.Transactions
import OpenSql.Proofs.Lifecycle

namespace OpenSql

variable {H W α : Type}

/-! ## Slips -/

/-- A backend whose calls for transactions do what they say.  Nothing is said of scripts, of queries and
of commits that are refused. -/
structure Backend.Native (b : Backend H W) : Prop where
  opened : ∀ {config w h w'}, b.openHandle config w = (.done h, w') → b.inTransaction h w' = false
  begun : ∀ {h w h' w'}, b.begin h w = (.done (), h', w') → b.inTransaction h' w' = true
  refused : ∀ {h w fault h' w'}, b.begin h w = (.failed fault, h', w') →
    b.inTransaction h' w' = b.inTransaction h w
  committed : ∀ {h w h' w'}, b.commit h w = (.done (), h', w') → b.inTransaction h' w' = false

/-- The engine is such a backend. -/
theorem Engine.backend_native : Engine.backend.Native where
  opened := inTransaction_of_opened
  begun := inTransaction_of_begun
  refused := inTransaction_of_refused
  committed := inTransaction_of_committed

namespace Backend

/-- A call changes the flag. -/
def Turns (b : Backend H W) (run : H → W → Reply α × H × W) (h : H) (w : W) : Prop :=
  b.inTransaction (run h w).2.1 (run h w).2.2 ≠ b.inTransaction h w

/-- Of scripts that run one after another, the first that does not succeed changes the flag. -/
def TurnsRefused (b : Backend H W) : List String → H → W → Prop
  | [], _, _ => False
  | sql :: rest, h, w =>
    if sql.isEmpty then b.TurnsRefused rest h w
    else match b.executeBatch sql h w with
      | (.done (), h', w') => b.TurnsRefused rest h' w'
      | _ => b.Turns (b.executeBatch sql) h w

/-- A request makes a call that changes the flag, and does not look at the flag after it. -/
def Slips (b : Backend H W) (h : H) (w : W) : Request → Prop
  | .connect | .disconnect => False
  | .execute script => b.TurnsRefused script.toList h w
  | .select options | .openCursor options => b.Turns (b.query options.sql) h w
  | .insert options =>
    let run := b.executeBatch (Dialect.insertSql options.table options.columns options.values)
    (run h w).1 = .crashed ∧ b.Turns run h w
  | .update options =>
    let run := b.execute
      (Dialect.updateSql options.table options.assignments options.predicate)
    (run h w).1 = .crashed ∧ b.Turns run h w
  | .delete options =>
    let run := b.execute (Dialect.deleteSql options.table options.predicate)
    (run h w).1 = .crashed ∧ b.Turns run h w
  | .begin => b.inTransaction h w = false ∧ (b.begin h w).1 = .crashed ∧ b.Turns b.begin h w
  | .commit => b.inTransaction h w = true ∧ (b.commit h w).1 ≠ .done () ∧ b.Turns b.commit h w
  | .rollback =>
    b.inTransaction h w = true ∧ (b.rollback h w).1 = .crashed ∧ b.Turns b.rollback h w

end Backend

namespace Machine

/-- The bookkeeping says what the backend says of the handle. -/
def InStep (b : Backend H W) (m : Machine H W) : Prop :=
  ∀ h, m.session.handle = some h → m.session.transactions.active = b.inTransaction h m.world

/-- A request slips on the handle of the session. -/
def Slips (b : Backend H W) (m : Machine H W) (request : Request) : Prop :=
  ∃ h, m.session.handle = some h ∧ b.Slips h m.world request

end Machine

/-! ## The states that operations leave -/

@[simp]
theorem Transactions.active_count (t : Transactions) : t.count.active = t.active := by
  unfold count
  split <;> rfl

namespace Machine

variable {b : Backend H W} {m : Machine H W} {h : H}

theorem inStep_of_none (hnone : m.session.handle = none) : m.InStep b := by
  intro h hm
  rw [hnone] at hm
  cases hm

theorem inStep_iff_of_some (hm : m.session.handle = some h) :
    m.InStep b ↔ m.session.transactions.active = b.inTransaction h m.world := by
  constructor
  · intro hstep
    exact hstep h hm
  · intro hactive h' hm'
    obtain rfl : h = h' := Option.some.inj (hm.symm.trans hm')
    exact hactive

@[simp]
theorem inStep_reported (events : List Event) : (m.reported events).InStep b ↔ m.InStep b := Iff.rfl

theorem active_observed (m : Machine H W) (h : H) :
    ((m.line h).observed b).transactions.active = b.inTransaction h m.world :=
  Transactions.active_observe ..

/-- A counted statement has looked at the flag. -/
theorem inStep_recorded {place : H × W} (hm : m.session.handle = some place.1)
    (hw : m.world = place.2) : (m.recorded b place).InStep b := by
  rw [inStep_iff_of_some (h := place.1) (by exact hm)]
  simp [recorded, hw]

/-- After a call at which nobody has looked, agreement is lost exactly when the call changed the flag. -/
theorem inStep_iff_of_unseen {m' : Machine H W} {run : H → W → Reply α × H × W} {place : H × W}
    (hm : m.session.handle = some h) (hstep : m.InStep b) (hplace : (run h m.world).2 = place)
    (hhandle : m'.session.handle = some place.1) (hworld : m'.world = place.2)
    (hactive : m'.session.transactions.active = m.session.transactions.active) :
    m'.InStep b ↔ ¬ b.Turns run h m.world := by
  rw [inStep_iff_of_some hhandle, hactive, hstep h hm, hworld, Backend.Turns, hplace, Ne,
    Classical.not_not]
  exact eq_comm

end Machine

/-! ## Operations -/

namespace Session

open Machine

variable {b : Backend H W} {m : Machine H W} {h : H}

theorem select_inStep_iff (hm : m.session.handle = some h) (hstep : m.InStep b)
    (options : SelectOptions) :
    (select b options m).2.InStep b ↔ ¬ b.Slips h m.world (.select options) := by
  rw [select_run_of_some hm]
  exact inStep_iff_of_unseen hm hstep rfl rfl rfl rfl

theorem openCursor_inStep_iff (options : SelectOptions) :
    (openCursor b options m).2.InStep b ↔ (select b options m).2.InStep b := by
  rw [openCursor_run]
  rcases select b options m with ⟨_ | rows, m'⟩
  · exact Iff.rfl
  · exact inStep_reported _

theorem insert_inStep_iff (hm : m.session.handle = some h) (hstep : m.InStep b)
    (options : InsertOptions) :
    (insert b options m).2.InStep b ↔ ¬ b.Slips h m.world (.insert options) := by
  rw [insert_run_of_some hm]
  simp only [Backend.Slips]
  generalize b.executeBatch (Dialect.insertSql options.table options.columns options.values) = run
  rcases hr : run h m.world with ⟨reply, place⟩
  cases reply with
  | done _ | failed _ =>
      exact iff_of_true (inStep_recorded rfl rfl) (fun hslip => by cases hslip.1)
  | crashed =>
      rw [and_iff_right rfl]
      exact inStep_iff_of_unseen hm hstep (congrArg Prod.snd hr) rfl rfl rfl

theorem mutate_inStep_iff (hm : m.session.handle = some h) (hstep : m.InStep b) (sql : String) :
    (mutate b sql m).2.InStep b ↔
      ¬ ((b.execute sql h m.world).1 = .crashed ∧ b.Turns (b.execute sql) h m.world) := by
  rw [mutate_run_of_some hm]
  rcases hr : b.execute sql h m.world with ⟨reply, place⟩
  cases reply with
  | done _ | failed _ =>
      exact iff_of_true (inStep_recorded rfl rfl) (fun hslip => by cases hslip.1)
  | crashed =>
      rw [and_iff_right rfl]
      exact inStep_iff_of_unseen hm hstep (congrArg Prod.snd hr) rfl rfl rfl

/-- Scripts agree up to the first that does not succeed, and that one is never looked at. -/
theorem executeAll_inStep_iff (hm : m.session.handle = some h) (hstep : m.InStep b)
    (scripts : List String) :
    (executeAll b scripts m).2.InStep b ↔ ¬ b.TurnsRefused scripts h m.world := by
  induction scripts generalizing m h with
  | nil => exact iff_of_true hstep id
  | cons sql rest ih =>
      unfold executeAll Backend.TurnsRefused
      rw [run_bind]
      cases hempty : sql.isEmpty with
      | true =>
          rw [executeOne_run_of_empty hempty]
          exact ih hm hstep
      | false =>
          rw [executeOne_run_of_some hempty hm, if_neg (by simp)]
          rcases hr : b.executeBatch sql h m.world with ⟨reply, h', w'⟩
          cases reply with
          | done _ => exact ih rfl (inStep_recorded rfl rfl)
          | failed _ | crashed =>
              exact inStep_iff_of_unseen hm hstep (congrArg Prod.snd hr) rfl rfl rfl

/-- The start of a transaction looks before the call, and an answer says what has become of the flag. -/
theorem begin_inStep_iff (hb : b.Native) (hm : m.session.handle = some h) (hstep : m.InStep b) :
    (begin b m).2.InStep b ↔ ¬ b.Slips h m.world .begin := by
  unfold begin
  rw [connected_run_of_some hm]
  have hlooked := active_observed (b := b) m h
  cases hflag : b.inTransaction h m.world with
  | true =>
      have hopen : (m.line h).inTransaction b = true := hflag
      rw [Line.begin_run_of_open hopen]
      exact iff_of_true ((inStep_iff_of_some rfl).mpr hlooked) (by simp [Backend.Slips, hflag])
  | false =>
      have hclosed : (m.line h).inTransaction b = false := hflag
      rw [Line.begin_run_of_closed hclosed]
      simp only [Machine.line]
      rcases hr : b.begin h m.world with ⟨reply, h', w'⟩
      cases reply with
      | done _ =>
          have hin : true = b.inTransaction h' w' := (hb.begun hr).symm
          exact iff_of_true ((inStep_iff_of_some rfl).mpr hin) (by simp [Backend.Slips, hr])
      | failed fault =>
          -- Nobody looks after the call, but a refusal leaves the flag as it was found.
          have hin := hlooked.trans (hb.refused hr).symm
          exact iff_of_true ((inStep_iff_of_some rfl).mpr hin) (by simp [Backend.Slips, hr])
      | crashed =>
          simp only [Backend.Slips, hr, hflag, true_and]
          exact inStep_iff_of_unseen hm hstep (congrArg Prod.snd hr) rfl rfl
            (hlooked.trans (hstep h hm).symm)

/-- A commit that is not answered by "done" may have ended the transaction all the same. -/
theorem commit_inStep_iff (hb : b.Native) (hm : m.session.handle = some h) (hstep : m.InStep b) :
    (commit b m).2.InStep b ↔ ¬ b.Slips h m.world .commit := by
  unfold commit
  rw [connected_run_of_some hm]
  have hlooked := active_observed (b := b) m h
  cases hflag : b.inTransaction h m.world with
  | false =>
      have hclosed : (m.line h).inTransaction b = false := hflag
      rw [Line.commit_run_of_closed hclosed]
      exact iff_of_true ((inStep_iff_of_some rfl).mpr hlooked) (by simp [Backend.Slips, hflag])
  | true =>
      have hopen : (m.line h).inTransaction b = true := hflag
      rw [Line.commit_run_of_open hopen]
      simp only [Machine.line]
      rcases hr : b.commit h m.world with ⟨reply, h', w'⟩
      cases reply with
      | done _ =>
          have hin : false = b.inTransaction h' w' := (hb.committed hr).symm
          exact iff_of_true ((inStep_iff_of_some rfl).mpr hin) (by simp [Backend.Slips, hr])
      | failed _ | crashed =>
          simp only [Backend.Slips, hr, hflag, true_and, ne_eq, reduceCtorEq, not_false_eq_true]
          exact inStep_iff_of_unseen hm hstep (congrArg Prod.snd hr) rfl rfl
            (hlooked.trans (hstep h hm).symm)

/-- A rollback looks again after the call. -/
theorem rollback_inStep_iff (hm : m.session.handle = some h) (hstep : m.InStep b) :
    (rollback b m).2.InStep b ↔ ¬ b.Slips h m.world .rollback := by
  unfold rollback
  rw [connected_run_of_some hm]
  have hlooked := active_observed (b := b) m h
  cases hflag : b.inTransaction h m.world with
  | false =>
      have hclosed : (m.line h).inTransaction b = false := hflag
      rw [Line.rollback_run_of_closed hclosed]
      exact iff_of_true ((inStep_iff_of_some rfl).mpr hlooked) (by simp [Backend.Slips, hflag])
  | true =>
      have hopen : (m.line h).inTransaction b = true := hflag
      rw [Line.rollback_run_of_open hopen]
      simp only [Machine.line]
      rcases hr : b.rollback h m.world with ⟨reply, h', w'⟩
      cases reply with
      | done _ | failed _ =>
          exact iff_of_true ((inStep_iff_of_some rfl).mpr (Transactions.active_observe ..))
            (by simp [Backend.Slips, hr])
      | crashed =>
          simp only [Backend.Slips, hr, hflag, true_and]
          exact inStep_iff_of_unseen hm hstep (congrArg Prod.snd hr) rfl rfl
            (hlooked.trans (hstep h hm).symm)

/-- A fresh handle agrees with a bookkeeping that starts anew, and without a handle nothing can differ. -/
theorem connect_inStep (hb : b.Native) (m : Machine H W) : (connect b m).2.InStep b := by
  have hconnects := connect_connects b m
  cases hresult : (connect b m).1 with
  | error stop => exact inStep_of_none (hconnects.handle_of_error hresult)
  | ok _ =>
      obtain ⟨_, _, w, h, -, hopen, hhandle, hidle, -⟩ := hconnects.opened_of_ok hresult
      refine (inStep_iff_of_some hhandle).mpr ?_
      rw [hidle]
      exact (hb.opened hopen).symm

theorem disconnect_inStep (m : Machine H W) : (disconnect b m).2.InStep b := by
  cases hm : m.session.handle with
  | none =>
      rw [disconnect_run_of_none hm]
      exact inStep_of_none hm
  | some h => exact inStep_of_none (disconnect_givesUp hm).handle

end Session

/-! ## Runs -/

namespace Machine

variable {b : Backend H W} {m : Machine H W}

/-- From agreement, a request leads to agreement exactly when it does not slip. -/
theorem perform_inStep_iff (hb : b.Native) (hstep : m.InStep b) (request : Request) :
    (m.perform b request).2.InStep b ↔ ¬ m.Slips b request := by
  cases hm : m.session.handle with
  | none =>
      refine iff_of_true ?_ fun hslip => ?_
      · cases request with
        | connect =>
            simp only [perform_run]
            exact Session.connect_inStep hb m
        | disconnect =>
            simp only [perform_run]
            exact Session.disconnect_inStep m
        | _ =>
            refine inStep_of_none ?_
            rw [((m.perform_follows b rfl).ofNone hm).1]
            exact hm
      · obtain ⟨h, hsome, -⟩ := hslip
        rw [hm] at hsome
        cases hsome
  | some h =>
      have hslips : m.Slips b request ↔ b.Slips h m.world request := by
        simp [Slips, hm]
      rw [hslips, perform_run]
      cases request with
      | connect => exact iff_of_true (Session.connect_inStep hb m) id
      | disconnect => exact iff_of_true (Session.disconnect_inStep m) id
      | execute script =>
          simp only [Session.execute_eq]
          exact Session.executeAll_inStep_iff hm hstep script.toList
      | select options => exact Session.select_inStep_iff hm hstep options
      | openCursor options =>
          exact (Session.openCursor_inStep_iff options).trans
            (Session.select_inStep_iff hm hstep options)
      | insert options => exact Session.insert_inStep_iff hm hstep options
      | update options => exact Session.mutate_inStep_iff hm hstep _
      | delete options => exact Session.mutate_inStep_iff hm hstep _
      | begin => exact Session.begin_inStep_iff hb hm hstep
      | commit => exact Session.commit_inStep_iff hb hm hstep
      | rollback => exact Session.rollback_inStep_iff hm hstep

end Machine

/-- Along a run, bookkeeping and backend agree in every state exactly when no request slips. -/
theorem inStep_throughout_iff {b : Backend H W} (hb : b.Native) (config : SessionConfig)
    (mapper : Option ConditionMapper) (world : W) (requests : List Request) :
    let after (done : List Request) : Machine H W :=
      ((Machine.start config mapper world).performAll b done).2
    (∀ done, done <+: requests → (after done).InStep b) ↔
      ∀ done request, done ++ [request] <+: requests → ¬ (after done).Slips b request := by
  intro after
  have hafter (done : List Request) (request : Request) :
      after (done ++ [request]) = ((after done).perform b request).2 := by
    show ((Machine.start config mapper world).performAll b (done ++ [request])).2 = _
    rw [Machine.performAll_append]
    rfl
  constructor
  · intro hstep done request hdone
    have hnext := hstep (done ++ [request]) hdone
    rw [hafter] at hnext
    have hbefore := hstep done ((List.prefix_append done [request]).trans hdone)
    exact (Machine.perform_inStep_iff hb hbefore request).mp hnext
  · -- By induction on the run from its end: agreement in one state is what the next one rests on.
    intro hslip done
    induction done using List.reverseRecOn with
    | nil => exact fun _ => Machine.inStep_of_none rfl
    | append_singleton done request ih =>
        intro hdone
        have hbefore := ih ((List.prefix_append done [request]).trans hdone)
        rw [hafter]
        exact (Machine.perform_inStep_iff hb hbefore request).mpr (hslip done request hdone)

/-! ## A slip on the engine -/

namespace Engine

/-- A script whose second statement fails when its first one has opened a transaction. -/
def staleRun : List Request :=
  [.connect, .execute (.single "BEGIN; INSERT INTO missing VALUES (1)")]

/-- The machine behind the first requests of a run on the engine, with an empty disk. -/
def ran (requests : List Request) : Machine Connection Disk :=
  ((Machine.start {} none {}).performAll backend requests).2

set_option maxRecDepth 10000 in
theorem ran_staleRun :
    ((ran staleRun).session.handle.map fun c => backend.inTransaction c (ran staleRun).world) =
        some true ∧
      (ran staleRun).session.transactions = .idle := by
  decide +kernel

theorem not_inStep_staleRun : ¬ (ran staleRun).InStep backend := by
  intro hstep
  obtain ⟨hflag, hidle⟩ := ran_staleRun
  obtain ⟨c, hhandle, hopen⟩ := Option.map_eq_some_iff.mp hflag
  have hactive := hstep c hhandle
  rw [hopen, hidle] at hactive
  cases hactive

/-- A request of the run slips, since bookkeeping and engine disagree behind it. -/
theorem slips_staleRun : ∃ done request, done ++ [request] <+: staleRun ∧
    (ran done).Slips backend request := by
  refine Classical.byContradiction fun hnone => not_inStep_staleRun ?_
  refine (inStep_throughout_iff backend_native {} none {} staleRun).mpr ?_ _ (List.prefix_refl _)
  intro done request hdone hslip
  exact hnone ⟨done, request, hdone, hslip⟩

/-- Not every state of every run on the engine is one of agreement. -/
theorem not_inStep_throughout : ¬ ∀ requests, (ran requests).InStep backend :=
  fun hall => not_inStep_staleRun (hall staleRun)

end Engine

end OpenSql
