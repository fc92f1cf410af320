/-
# OpenSql.Proofs.Batches — scripts one after another, up to the first that fails.

A batch is run from its front, and a script has no part in what happens before its turn.  So a batch can
be cut anywhere: what stands behind the cut is a batch of its own, run in the state that the front has
left, unless the front has failed.  Empty texts are passed over.

Where a batch stops is all there is to tell of it.  The scripts before that point have succeeded and
were counted, each under the flag that it has left; the script at that point has told the result; and
the ones behind it were never sent.
-/
import OpenSql.Proofs.Failures

namespace OpenSql

variable {H W : Type}

/-! ## Cutting a batch -/

namespace Session

variable {b : Backend H W}

/-- The front of a batch and then the rest of it. -/
theorem executeAll_run_append (scripts more : List String) (m : Machine H W) :
    executeAll b (scripts ++ more) m = match executeAll b scripts m with
      | (.ok (), m') => executeAll b more m'
      | (.error stop, m') => (.error stop, m') := by
  induction scripts generalizing m with
  | nil => rfl
  | cons sql rest ih =>
      rw [List.cons_append, executeAll_run_cons, executeAll_run_cons]
      rcases executeOne b sql m with ⟨stop | _, m'⟩
      · rfl
      · exact ih m'

theorem executeAll_run_filter (scripts : List String) (m : Machine H W) :
    executeAll b (scripts.filter fun sql => !sql.isEmpty) m = executeAll b scripts m := by
  induction scripts generalizing m with
  | nil => rfl
  | cons sql rest ih =>
      rw [executeAll_run_cons]
      cases hsql : sql.isEmpty with
      | true =>
          rw [List.filter_cons_of_neg (by simp [hsql]), executeOne_run_of_empty hsql]
          exact ih m
      | false =>
          rw [List.filter_cons_of_pos (by simp [hsql]), executeAll_run_cons]
          rcases executeOne b sql m with ⟨stop | _, m'⟩
          · rfl
          · exact ih m'

end Session

/-! ## Where a batch stops -/

/-- The bookkeeping that has counted scripts one after another, each under the flag that it has left. -/
def Backend.counted (b : Backend H W) (place : H × W) (t : Transactions) : List String → Transactions
  | [] => t
  | sql :: rest =>
    let next := (b.executeBatch sql place.1 place.2).2
    b.counted next (t.observe (b.inTransaction next.1 next.2)).count rest

/-- A transaction is open behind every one of some scripts. -/
def Backend.StaysOpen (b : Backend H W) (place : H × W) : List String → Prop
  | [] => True
  | sql :: rest =>
    let next := (b.executeBatch sql place.1 place.2).2
    b.inTransaction next.1 next.2 = true ∧ b.StaysOpen next rest

/-- Scripts that stay within a transaction are counted one by one. -/
theorem Backend.counted_of_staysOpen {b : Backend H W} {place : H × W} {t : Transactions}
    {scripts : List String} (hactive : t.active = true) (hopen : b.StaysOpen place scripts) :
    b.counted place t scripts = ⟨true, t.statements + scripts.length⟩ := by
  induction scripts generalizing place t with
  | nil =>
      rw [counted, ← hactive]
      rfl
  | cons sql rest ih =>
      obtain ⟨hflag, hrest⟩ := hopen
      have hsame : (t.observe true).count = ⟨true, t.statements + 1⟩ := by
        simp [Transactions.observe, Transactions.count, hactive]
      simp only [counted, hflag, hsame]
      rw [ih rfl hrest, List.length_cons]
      simp only [Transactions.mk.injEq, true_and]
      omega

/-- What has come of scripts on a handle.  The ones that are not empty fall into those that succeeded
and those that are left; the first of these, if there is any, was sent and has failed. -/
structure Machine.RanScripts (b : Backend H W) (m : Machine H W) (h : H)
    (scripts succeeded left : List String) (place last : H × W)
    (ended : Except Stop Unit × Machine H W) : Prop where
  parted : scripts.filter (fun sql => !sql.isEmpty) = succeeded ++ left
  told : b.told (h, m.world) (succeeded.map .executeBatch) = .ok ()
  led : b.replay (h, m.world) (succeeded.map .executeBatch) = some place
  failed : ∀ sql ∈ left.head?, (b.executeBatch sql place.1 place.2).1 ≠ .done ()
  result : ended.1 =
    left.head?.elim (.ok ()) fun sql => (b.executeBatch sql place.1 place.2).1.result
  /-- Every script is sent once and in its turn, up to the one that fails. -/
  calls : Event.calls ended.2.events =
    Event.calls m.events ++ (succeeded ++ left.take 1).map .executeBatch
  stopped : b.replay place ((left.take 1).map .executeBatch) = some last
  world : ended.2.world = last.2
  session : ended.2.session = { m.session with
    handle := some last.1
    transactions := b.counted (h, m.world) m.session.transactions succeeded }

namespace Machine.RanScripts

variable {b : Backend H W} {m : Machine H W} {h : H} {sql : String}
  {rest succeeded left : List String} {place last next : H × W}
  {ended : Except Stop Unit × Machine H W}

theorem nil (hm : m.session.handle = some h) :
    m.RanScripts b h [] [] [] (h, m.world) (h, m.world) (.ok (), m) where
  parted := rfl
  told := rfl
  led := rfl
  failed := by simp
  result := rfl
  calls := (List.append_nil _).symm
  stopped := rfl
  world := rfl
  session := by
    show m.session = { m.session with handle := some h }
    rw [← hm]

theorem cons_of_empty (hsql : sql.isEmpty = true)
    (hrest : m.RanScripts b h rest succeeded left place last ended) :
    m.RanScripts b h (sql :: rest) succeeded left place last ended :=
  { hrest with parted := by simpa [hsql] using hrest.parted }

/-- The rest is run where the first script has led, by bookkeeping that has counted it. -/
theorem cons_of_done (hsql : sql.isEmpty = false)
    (hreply : b.executeBatch sql h m.world = (.done (), next))
    (hrest : (((m.reported [.notice (.executing sql)]).moved (.executeBatch sql) next).recorded b
      next).RanScripts b next.1 rest succeeded left place last ended) :
    m.RanScripts b h (sql :: rest) (sql :: succeeded) left place last ended := by
  have hact : b.act (h, m.world) (.executeBatch sql) = some next := by simp [Backend.act, hreply]
  exact {
    parted := by rw [List.filter_cons_of_pos (by simp [hsql]), hrest.parted, List.cons_append]
    told := by
      rw [List.map_cons, Backend.told_cons_of_done (by simp [Backend.reply, hreply]) hact]
      exact hrest.told
    led := by
      rw [List.map_cons, Backend.replay, hact]
      exact hrest.led
    failed := hrest.failed
    result := hrest.result
    calls := by
      rw [hrest.calls]
      simp [Machine.recorded, Machine.moved, Machine.reported]
    stopped := hrest.stopped
    world := hrest.world
    session := by
      rw [hrest.session, Backend.counted, hreply]
      rfl }

/-- A script that fails is the last that is sent, and it is not counted. -/
theorem cons_of_failed (hsql : sql.isEmpty = false) (rest : List String)
    (hreply : (b.executeBatch sql h m.world).1 ≠ .done ()) :
    m.RanScripts b h (sql :: rest) [] (sql :: rest.filter fun sql => !sql.isEmpty)
      (h, m.world) (b.executeBatch sql h m.world).2
      ((b.executeBatch sql h m.world).1.result,
        (m.reported [.notice (.executing sql)]).moved (.executeBatch sql)
          (b.executeBatch sql h m.world).2) where
  parted := List.filter_cons_of_pos (by simp [hsql])
  told := rfl
  led := rfl
  failed := by simpa using hreply
  result := rfl
  calls := by simp [Machine.moved, Machine.reported]
  stopped := rfl
  world := rfl
  session := rfl

end Machine.RanScripts

/-- A batch stops behind its last script or at the first that fails. -/
theorem Session.executeAll_ranScripts {b : Backend H W} {m : Machine H W} {h : H}
    (hm : m.session.handle = some h) (scripts : List String) :
    ∃ succeeded left place last,
      m.RanScripts b h scripts succeeded left place last (executeAll b scripts m) := by
  induction scripts generalizing m h with
  | nil => exact ⟨[], [], _, _, .nil hm⟩
  | cons sql rest ih =>
      rw [executeAll_run_cons]
      cases hsql : sql.isEmpty with
      | true =>
          rw [executeOne_run_of_empty hsql]
          obtain ⟨succeeded, left, place, last, hrest⟩ := ih hm
          exact ⟨succeeded, left, place, last, hrest.cons_of_empty hsql⟩
      | false =>
          have hfailed (hreply : (b.executeBatch sql h m.world).1 ≠ .done ()) :=
            Machine.RanScripts.cons_of_failed hsql rest hreply
          rw [executeOne_run_of_some hsql hm]
          rcases hreply : b.executeBatch sql h m.world with ⟨_ | fault | _, next⟩
          · obtain ⟨succeeded, left, place, last, hrest⟩ := ih (m := ((m.reported
              [.notice (.executing sql)]).moved (.executeBatch sql) next).recorded b next) rfl
            exact ⟨sql :: succeeded, left, place, last, .cons_of_done hsql hreply hrest⟩
          · rw [hreply] at hfailed
            exact ⟨[], _, _, _, hfailed (by simp)⟩
          · rw [hreply] at hfailed
            exact ⟨[], _, _, _, hfailed (by simp)⟩

/-! ## Batches -/

/-- Batches run in their order and stop at the first failure, on every backend and in every state.  A
batch that is cut does what its parts do one after the other, the second only when the first succeeds; a
script by itself is a batch of one; and empty texts make no difference.  On a handle the scripts that
are not empty are sent once each and in order, up to the first that fails and none behind it; its fault
is the error; and the bookkeeping has counted exactly the ones before it, one by one as long as they stay
within a transaction. -/
theorem batches_run_in_order (b : Backend H W) (m : Machine H W) :
    (∀ scripts more, Session.execute b (.batch (scripts ++ more)) m =
      match Session.execute b (.batch scripts) m with
      | (.ok (), m') => Session.execute b (.batch more) m'
      | (.error stop, m') => (.error stop, m')) ∧
    (∀ sql, Session.execute b (.single sql) m = Session.execute b (.batch [sql]) m) ∧
    (∀ scripts, Session.execute b (.batch (scripts.filter fun sql => !sql.isEmpty)) m =
      Session.execute b (.batch scripts) m) ∧
    ∀ h, m.session.handle = some h → ∀ scripts,
      let ended := Session.execute b (.batch scripts) m
      ∃ succeeded left place last, m.RanScripts b h scripts succeeded left place last ended ∧
        (m.session.transactions.active = true → b.StaysOpen (h, m.world) succeeded →
          ended.2.session.transactions =
            ⟨true, m.session.transactions.statements + succeeded.length⟩) := by
  refine ⟨?_, ?_, ?_, ?_⟩
  · intro scripts more
    exact Session.executeAll_run_append scripts more m
  · intro sql
    exact congrFun (Session.execute_eq b (.single sql)) m
  · intro scripts
    exact Session.executeAll_run_filter scripts m
  · intro h hm scripts ended
    obtain ⟨succeeded, left, place, last, hran⟩ := Session.executeAll_ranScripts (b := b) hm scripts
    refine ⟨succeeded, left, place, last, hran, fun hactive hopen => ?_⟩
    show (Session.executeAll b scripts m).2.session.transactions = _
    rw [hran.session]
    exact Backend.counted_of_staysOpen hactive hopen

end OpenSql
