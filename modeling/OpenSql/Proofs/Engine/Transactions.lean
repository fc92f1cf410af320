/-
# OpenSql.Proofs.Engine.Transactions — beginning and ending transactions on the engine.

The engine has no calls of its own for transactions: they are scripts of one statement.  A script of one
statement does what the statement does, so what is shown of the statements holds of the calls.
-/
import OpenSql.Engine.Backend

namespace OpenSql.Engine

/-! ## Scripts of one statement -/

namespace Connection

variable {c c' : Connection} {d d' : Disk}

/-- A text that holds one statement runs like the statement. -/
theorem runAll_of_single {text : String} {s : Statement} {t : Tokens}
    (hfirst : nextStatement? (Tokens.ofText text) = .ok (some (s, t)))
    (hlast : nextStatement? t = .ok none) (c : Connection) (d : Disk) :
    c.runAll text d =
      ⟨(c.run s d).result.map fun _ => (), (c.run s d).connection, (c.run s d).disk⟩ := by
  have hrest (fuel : Nat) (c : Connection) (d : Disk) : runRest fuel t c d = ⟨.ok (), c, d⟩ := by
    cases fuel with
    | zero => rfl
    | succ fuel => simp only [runRest, hlast]
  unfold runAll
  simp only [runRest, hfirst]
  cases hresult : (c.run s d).result with
  | error failure => rfl
  | ok returned => exact hrest ..

theorem runAll_begin (c : Connection) (d : Disk) : c.runAll "BEGIN" d = c.begin .deferred d := by
  obtain ⟨t, hfirst, hlast⟩ : ∃ t, nextStatement? (Tokens.ofText "BEGIN") =
      .ok (some (.begin .deferred, t)) ∧ nextStatement? t = .ok none := ⟨_, rfl, rfl⟩
  rw [runAll_of_single hfirst hlast]
  rcases h : c.begin .deferred d with ⟨_ | _, _, _⟩ <;> simp [run, silent, h, Except.map]

theorem runAll_commit (c : Connection) (d : Disk) : c.runAll "COMMIT" d = c.commit d := by
  obtain ⟨t, hfirst, hlast⟩ : ∃ t, nextStatement? (Tokens.ofText "COMMIT") =
      .ok (some (.commit, t)) ∧ nextStatement? t = .ok none := ⟨_, rfl, rfl⟩
  rw [runAll_of_single hfirst hlast]
  rcases h : c.commit d with ⟨_ | _, _, _⟩ <;> simp [run, silent, h, Except.map]

/-! ## The flag of a connection -/

/-- A transaction begins exactly when none is open, and the flag follows. -/
theorem begin_deferred (c : Connection) (d : Disk) :
    c.begin .deferred d =
      if c.inTransaction then
        ⟨.error (generalFailure "cannot start a transaction within a transaction"), c, d⟩
      else ⟨.ok (), { c with inTransaction := true }, d⟩ := rfl

theorem inTransaction_publish (h : c.publish d = (true, c', d')) : c'.inTransaction = false := by
  unfold publish at h
  split at h
  · cases h; rfl
  · cases h; rfl
  · split at h
    · cases h; rfl
    · split at h
      · cases h
      · cases h; rfl

theorem inTransaction_commit {u : Unit} (h : c.commit d = ⟨.ok u, c', d'⟩) :
    c'.inTransaction = false := by
  unfold commit at h
  split at h
  · cases h
  · split at h
    · cases h
    · split at h
      · next hpublish =>
          cases h
          exact inTransaction_publish hpublish
      · cases h

theorem inTransaction_connect {name : String} (h : connect name d = .ok (c', d')) :
    c'.inTransaction = false := by
  unfold connect at h
  simp only [bind, Except.bind, pure, Except.pure] at h
  split at h
  · cases h
  · split at h
    · cases h; rfl
    · split at h
      · cases h
      · cases h; rfl

end Connection

/-! ## The calls for transactions -/

/-- A step that only succeeds or fails is answered in kind. -/
theorem reply_of_ended (result : Except EngineFailure Unit) (c : Connection) (d : Disk) :
    (⟨result, c, d⟩ : Ended Unit).reply .ok =
      (match result with
        | .ok () => .done ()
        | .error failure => .failed failure.fault, c, d) := by
  cases result <;> rfl

theorem backend_begin (c : Connection) (d : Disk) :
    backend.begin c d = (c.begin .deferred d).reply .ok := by
  show (c.runAll "BEGIN" d).reply .ok = _
  rw [Connection.runAll_begin]

theorem backend_commit (c : Connection) (d : Disk) :
    backend.commit c d = (c.commit d).reply .ok := by
  show (c.runAll "COMMIT" d).reply .ok = _
  rw [Connection.runAll_commit]

/-- A handle is opened outside a transaction. -/
theorem inTransaction_of_opened {config : SessionConfig} {c : Connection} {d d' : Disk}
    (h : backend.openHandle config d = (.done c, d')) : backend.inTransaction c d' = false := by
  have hopen : Connection.openFor config d = (.done c, d') := h
  unfold Connection.openFor at hopen
  split at hopen
  · cases hopen
  · next c' d'' hconnect =>
      split at hopen
      · cases hopen
      · cases hopen
        exact Connection.inTransaction_connect hconnect

variable {c c' : Connection} {d d' : Disk}

theorem inTransaction_of_begun (h : backend.begin c d = (.done (), c', d')) :
    backend.inTransaction c' d' = true := by
  rw [backend_begin, Connection.begin_deferred] at h
  split at h
  · cases h
  · cases h
    rfl

/-- A beginning that is refused changes nothing. -/
theorem inTransaction_of_refused {fault : Fault} (h : backend.begin c d = (.failed fault, c', d')) :
    backend.inTransaction c' d' = backend.inTransaction c d := by
  rw [backend_begin, Connection.begin_deferred] at h
  split at h
  · cases h
    rfl
  · cases h

theorem inTransaction_of_committed (h : backend.commit c d = (.done (), c', d')) :
    backend.inTransaction c' d' = false := by
  rw [backend_commit] at h
  rcases hcommit : c.commit d with ⟨_ | u, c'', d''⟩
  · rw [hcommit, reply_of_ended] at h
    cases h
  · rw [hcommit, reply_of_ended] at h
    cases h
    exact Connection.inTransaction_commit hcommit

end OpenSql.Engine
