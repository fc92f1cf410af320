/-
# OpenSql.Proofs.Bookkeeping — transactions on a backend that may do anything.

Nothing is assumed of the backend here: a call may come back with any answer and leave the flag as it
likes.  What is called depends on the flag alone and never on what the bookkeeping said before, and an
operation fails exactly when its call does.  The three operations part in what they believe afterwards.
Beginning and committing believe the answer of their call, and a commit that was refused keeps its
transaction and its count.  Rolling back believes the flag that it finds after the call.
-/
import OpenSql.Proofs.Status
import OpenSql.Scripted

namespace OpenSql

variable {H W : Type}

namespace Reply

variable {reply : Reply Unit}

theorem result_eq_error_iff {error : DbError} :
    reply.result = .error (.error error) ↔ ∃ fault, reply = .failed fault ∧ error = .backend fault := by
  cases reply with
  | failed fault =>
      constructor
      · intro h
        cases h
        exact ⟨fault, rfl, rfl⟩
      · rintro ⟨fault', hfault, rfl⟩
        cases hfault
        rfl
  | done _ | crashed => simp [result]

theorem result_eq_crash_iff : reply.result = .error .crash ↔ reply = .crashed := by
  cases reply <;> simp [result]

end Reply

namespace Line

variable {b : Backend H W} {line : Line H W}

/-! ## One call or none -/

/-- An operation that makes one call when it is needed and none when it is not.  It leaves the handle
where the call has led it, and ends as the call does. -/
structure Drives (call : Call) (primitive : H → W → Reply Unit × H × W) (needed : Bool)
    (line : Line H W) (ended : Except Stop Unit × Line H W) : Prop where
  calls : Event.calls ended.2.events = Event.calls line.events ++ if needed then [call] else []
  /-- Nothing but the call moves the handle or changes its world. -/
  place : (ended.2.handle, ended.2.world) =
    if needed then (primitive line.handle line.world).2 else (line.handle, line.world)
  /-- It fails with the fault of the call, and with nothing else. -/
  refused : ∀ error, ended.1 = .error (.error error) ↔ needed = true ∧
    ∃ fault, (primitive line.handle line.world).1 = .failed fault ∧ error = .backend fault
  lost : ended.1 = .error .crash ↔
    needed = true ∧ (primitive line.handle line.world).1 = .crashed

section Drives

variable {call : Call} {primitive : H → W → Reply Unit × H × W} {ended : Except Stop Unit × Line H W}

theorem Drives.made (hcalls : Event.calls ended.2.events = Event.calls line.events ++ [call])
    (hplace : (ended.2.handle, ended.2.world) = (primitive line.handle line.world).2)
    (hresult : ended.1 = (primitive line.handle line.world).1.result) :
    Drives call primitive true line ended where
  calls := hcalls
  place := hplace
  refused error := by
    rw [hresult, Reply.result_eq_error_iff]
    simp
  lost := by
    rw [hresult, Reply.result_eq_crash_iff]
    simp

theorem Drives.unmade (hcalls : Event.calls ended.2.events = Event.calls line.events)
    (hplace : (ended.2.handle, ended.2.world) = (line.handle, line.world))
    (hresult : ended.1 = .ok ()) : Drives call primitive false line ended where
  calls := by simp [hcalls]
  place := hplace
  refused error := by simp [hresult]
  lost := by simp [hresult]

end Drives

variable (b line)

theorem begin_drives : Drives .begin b.begin (!line.inTransaction b) line (begin b line) := by
  cases hflag : line.inTransaction b with
  | true =>
      rw [begin_run_of_open hflag]
      exact .unmade (by simp [noted, observed]) rfl rfl
  | false =>
      rw [begin_run_of_closed hflag]
      cases hreply : (b.begin line.handle line.world).1 with
      | done _ => exact .made (by simp [noted, moved, observed]) rfl (by rw [hreply]; rfl)
      | failed fault => exact .made (by simp [moved, observed]) rfl (by rw [hreply]; rfl)
      | crashed => exact .made (by simp [moved, observed]) rfl (by rw [hreply]; rfl)

theorem commit_drives : Drives .commit b.commit (line.inTransaction b) line (commit b line) := by
  cases hflag : line.inTransaction b with
  | true =>
      rw [commit_run_of_open hflag]
      cases hreply : (b.commit line.handle line.world).1 with
      | done _ => exact .made (by simp [noted, moved, observed]) rfl (by rw [hreply]; rfl)
      | failed fault => exact .made (by simp [moved, observed]) rfl (by rw [hreply]; rfl)
      | crashed => exact .made (by simp [moved, observed]) rfl (by rw [hreply]; rfl)
  | false =>
      rw [commit_run_of_closed hflag]
      exact .unmade rfl rfl rfl

theorem rollback_drives :
    Drives .rollback b.rollback (line.inTransaction b) line (rollback b line) := by
  cases hflag : line.inTransaction b with
  | true =>
      rw [rollback_run_of_open hflag]
      cases hreply : (b.rollback line.handle line.world).1 with
      | done _ => exact .made (by simp [noted, moved, observed]) rfl (by rw [hreply])
      | failed fault => exact .made (by simp [noted, moved, observed]) rfl (by rw [hreply])
      | crashed => exact .made (by simp [moved, observed]) rfl (by rw [hreply])
  | false =>
      rw [rollback_run_of_closed hflag]
      exact .unmade rfl rfl rfl

variable {b line}

/-! ## What is believed afterwards -/

/-- How a transaction is begun: by a call when none is open.  The count of an open transaction goes on
when there was one. -/
structure Begins (b : Backend H W) (line : Line H W) (ended : Except Stop Unit × Line H W) : Prop
    extends Drives .begin b.begin (!line.inTransaction b) line ended where
  done : ended.1 = .ok () → ended.2.transactions =
    ⟨true, if line.inTransaction b && line.transactions.active then line.transactions.statements else 0⟩
  failed : ∀ error, ended.1 = .error (.error error) → ended.2.transactions = .idle

/-- How a transaction is committed: by a call when one is open.  One that was not committed is believed
to be open with its count, and while it is, the next commit makes the call again. -/
structure Commits (b : Backend H W) (line : Line H W) (ended : Except Stop Unit × Line H W) : Prop
    extends Drives .commit b.commit (line.inTransaction b) line ended where
  done : ended.1 = .ok () → ended.2.transactions = .idle
  failed : ∀ error, ended.1 = .error (.error error) →
    ended.2.transactions = ⟨true, line.transactions.statements⟩
  again : ∀ error, ended.1 = .error (.error error) → ended.2.inTransaction b = true →
    Drives .commit b.commit true ended.2 (commit b ended.2)

/-- How a transaction is rolled back: by a call when one is open.  Whatever the call answers, the
bookkeeping follows the flag that is found after it. -/
structure RollsBack (b : Backend H W) (line : Line H W) (ended : Except Stop Unit × Line H W) : Prop
    extends Drives .rollback b.rollback (line.inTransaction b) line ended where
  back : ended.1 ≠ .error .crash → ended.2.transactions =
    if ended.2.inTransaction b then ⟨true, line.transactions.statements⟩ else .idle

theorem transactions_observed (hsound : line.transactions.Sound) :
    (line.observed b).transactions =
      if line.inTransaction b then ⟨true, line.transactions.statements⟩ else .idle :=
  hsound.observe_eq _

theorem begin_begins (hsound : line.transactions.Sound) : Begins b line (begin b line) := by
  have hobserved := transactions_observed (b := b) hsound
  refine { toDrives := begin_drives b line, done := ?_, failed := ?_ }
  · cases hflag : line.inTransaction b with
    | true =>
        rw [begin_run_of_open hflag]
        intro _
        show (line.observed b).transactions = _
        rw [hobserved, hflag]
        cases hactive : line.transactions.active with
        | true => rfl
        | false => simp [hsound hactive]
    | false =>
        rw [begin_run_of_closed hflag]
        cases (b.begin line.handle line.world).1 with
        | done _ => exact fun _ => rfl
        | failed fault => intro h; cases h
        | crashed => intro h; cases h
  · intro error herror
    obtain ⟨hneeded, fault, hreply, -⟩ := (begin_drives b line).refused error |>.mp herror
    have hflag : line.inTransaction b = false := by simpa using hneeded
    rw [begin_run_of_closed hflag, hreply]
    show (line.observed b).transactions = _
    rw [hobserved, hflag]
    rfl

theorem commit_commits (hsound : line.transactions.Sound) : Commits b line (commit b line) := by
  have hobserved := transactions_observed (b := b) hsound
  refine { toDrives := commit_drives b line, done := ?_, failed := ?_, again := ?_ }
  · cases hflag : line.inTransaction b with
    | true =>
        rw [commit_run_of_open hflag]
        cases (b.commit line.handle line.world).1 with
        | done _ => exact fun _ => rfl
        | failed fault => intro h; cases h
        | crashed => intro h; cases h
    | false =>
        rw [commit_run_of_closed hflag]
        intro _
        show (line.observed b).transactions = _
        rw [hobserved, hflag]
        rfl
  · intro error herror
    obtain ⟨hflag, fault, hreply, -⟩ := (commit_drives b line).refused error |>.mp herror
    rw [commit_run_of_open hflag, hreply]
    show (line.observed b).transactions = _
    rw [hobserved, hflag]
    rfl
  · intro error _ hstill
    have hdrives := commit_drives b (commit b line).2
    rwa [hstill] at hdrives

theorem rollback_rollsBack (hsound : line.transactions.Sound) :
    RollsBack b line (rollback b line) := by
  have hobserved := transactions_observed (b := b) hsound
  refine { toDrives := rollback_drives b line, back := ?_ }
  cases hflag : line.inTransaction b with
  | true =>
      rw [rollback_run_of_open hflag]
      cases (b.rollback line.handle line.world).1 with
      | crashed => exact fun h => absurd rfl h
      | done _ | failed fault =>
          intro _
          -- The flag is looked at once more after the call, by bookkeeping that counts already.
          show (line.observed b).transactions.observe _ = _
          rw [hobserved, hflag]
          exact Transactions.Sound.observe_eq (t := ⟨true, line.transactions.statements⟩)
            (fun h => by cases h) _
  | false =>
      rw [rollback_run_of_closed hflag]
      intro _
      exact hobserved

/-- Transactions of a backend about which nothing is known.  Whatever the bookkeeping said before, the
flag decides which call is made, the call decides how the operation ends, and each operation leaves its
own belief behind. -/
theorem transactions_follow_flag (b : Backend H W) (line : Line H W)
    (hsound : line.transactions.active = false → line.transactions.statements = 0) :
    Begins b line (begin b line) ∧ Commits b line (commit b line) ∧
      RollsBack b line (rollback b line) :=
  ⟨begin_begins hsound, commit_commits hsound, rollback_rollsBack hsound⟩

/-- What an engine says that waits for a lock. -/
def locked : Fault := ⟨.busy, "database is locked", true⟩

/-- A transaction of two statements on an engine that is to refuse two calls. -/
def refusing : Line Scripted.Handle Scripted.Queue where
  transactions := ⟨true, 2⟩
  handle := ⟨true⟩
  world := [{ fault := some locked }, { fault := some locked }]

/-- Neither a commit nor a rollback that was refused loses the count, and a second commit is tried. -/
theorem transactions_follow_flag_refused :
    (refusing.transactions.active = false → refusing.transactions.statements = 0) ∧
    (commit Scripted.backend refusing).1 = .error (.error (.backend locked)) ∧
    (commit Scripted.backend refusing).2.transactions = ⟨true, 2⟩ ∧
    Event.calls (commit Scripted.backend (commit Scripted.backend refusing).2).2.events =
      [.commit, .commit] ∧
    (rollback Scripted.backend refusing).2.transactions = ⟨true, 2⟩ := by
  have hsound : refusing.transactions.active = false → refusing.transactions.statements = 0 := by
    decide
  obtain ⟨-, hcommits, hrollsBack⟩ := transactions_follow_flag Scripted.backend refusing hsound
  have hrefused : (commit Scripted.backend refusing).1 = .error (.error (.backend locked)) :=
    (hcommits.refused _).mpr ⟨rfl, locked, rfl, rfl⟩
  have hback : (rollback Scripted.backend refusing).1 = .error (.error (.backend locked)) :=
    (hrollsBack.refused _).mpr ⟨rfl, locked, rfl, rfl⟩
  have hanswered : (rollback Scripted.backend refusing).1 ≠ .error .crash := by
    rw [hback]
    simp
  refine ⟨hsound, hrefused, hcommits.failed _ hrefused, ?_, hrollsBack.back hanswered⟩
  rw [(hcommits.again _ hrefused rfl).calls, hcommits.calls]
  rfl

end Line

end OpenSql
