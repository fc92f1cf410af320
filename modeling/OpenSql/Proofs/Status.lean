/-
# OpenSql.Proofs.Status — what is told of a mutation.

A mutation is told by a return code and a count.  An insertion runs as a script, and its one row is taken
for granted; an update or a deletion has its rows counted by the backend, in a number that may be greater
than a count can be.  A fault and a mutation that meets no row are told in the same way.  So the code and
the count say the same thing twice: there is a count exactly when the code is 0.

Whatever is told, the bookkeeping goes on: a mutation that fails inside a transaction is counted as well.
-/
import Mathlib.Algebra.Group.Int.Defs
import OpenSql.Proofs.Failures
import OpenSql.Proofs.Maintenance

namespace OpenSql

variable {H W : Type}

/-! ## Outcomes -/

namespace Outcome

/-- Code and count belong together. -/
structure Sound (o : Outcome) : Prop where
  code : o.subrc = 0 ∨ o.subrc = 4
  counted : o.subrc = 0 ↔ 1 ≤ o.dbcnt.toInt
  either : o.isOk = !o.isNotFound
  nonneg : 0 ≤ o.dbcnt.toInt

theorem sound_notFound : notFound.Sound := ⟨by decide, by decide, by decide, by decide⟩

theorem sound_ok {count : Int64} (hcount : 1 ≤ count.toInt) : (ok count).Sound where
  code := .inl rfl
  counted := iff_of_true rfl hcount
  either := rfl
  nonneg := by
    show 0 ≤ count.toInt
    omega

/-- A number of rows is told as it is, up to the greatest count. -/
theorem toInt_dbcnt_ofCount (count : UInt64) :
    (ofCount count).dbcnt.toInt = min (count.toNat : Int) (2 ^ 63 - 1) := by
  unfold ofCount
  split
  · next hcount =>
      subst hcount
      rfl
  · have hfits : min count.toNat maxCount < 2 ^ 63 := by
      unfold maxCount
      omega
    have hmost : (maxCount : Int) = 2 ^ 63 - 1 := by decide
    show (Int64.ofNat (min count.toNat maxCount)).toInt = _
    rw [Int64.toInt_ofNat_of_lt hfits, ← hmost]
    omega

theorem toInt_subrc_ofCount (count : UInt64) :
    (ofCount count).subrc.toInt = if count = 0 then 4 else 0 := by
  unfold ofCount
  split <;> rfl

theorem sound_ofCount (count : UInt64) : (ofCount count).Sound := by
  have hdbcnt := toInt_dbcnt_ofCount count
  unfold ofCount at hdbcnt ⊢
  split
  · exact sound_notFound
  · next hcount =>
      have hrows : count.toNat ≠ 0 := fun hzero => hcount (UInt64.toNat_inj.mp hzero)
      rw [if_neg hcount] at hdbcnt
      refine sound_ok ?_
      show 1 ≤ (ok (Int64.ofNat (min count.toNat maxCount))).dbcnt.toInt
      rw [hdbcnt]
      omega

end Outcome

/-- The result tells an outcome with a return code and a count. -/
def Reports (result : Result) (subrc dbcnt : Int) : Prop :=
  ∃ o : Outcome, result = .ok (.outcome o) ∧ o.subrc.toInt = subrc ∧ o.dbcnt.toInt = dbcnt

/-! ## The bookkeeping of mutations -/

namespace Transactions

/-- Nothing is counted while no transaction is open. -/
def Sound (t : Transactions) : Prop := t.active = false → t.statements = 0

/-- The bookkeeping takes over the flag, and with it the count that it has while a transaction is open. -/
theorem Sound.observe_eq {t : Transactions} (ht : t.Sound) (flag : Bool) :
    t.observe flag = if flag then ⟨true, t.statements⟩ else .idle := by
  obtain ⟨active, statements⟩ := t
  cases active with
  | true => cases flag <;> rfl
  | false =>
      obtain rfl : statements = 0 := ht rfl
      cases flag <;> rfl

/-- What the bookkeeping says after a statement, by the flag that it finds. -/
theorem Sound.count_observe {t : Transactions} (ht : t.Sound) (flag : Bool) :
    (t.observe flag).count = if flag then ⟨true, t.statements + 1⟩ else .idle := by
  rw [ht.observe_eq]
  cases flag <;> rfl

theorem steady_sound : Steady fun t _ => t.Sound where
  idle _ _ := rfl
  begun _ hactive := by cases hactive
  observed {t _} flag ht hactive := by
    unfold observe at hactive ⊢
    split at hactive
    · next hsame =>
        rw [if_pos hsame]
        exact ht hactive
    · next hother => rw [if_neg hother]
  counted {t _} ht hactive := by
    unfold count at hactive ⊢
    cases hopen : t.active with
    | true => simp [hopen] at hactive
    | false => simpa [hopen] using ht hopen
  called _ ht := ht
  noted _ ht := ht

end Transactions

namespace Machine

variable {b : Backend H W} {m : Machine H W} {h : H}

theorem sound_perform (hm : m.session.transactions.Sound) (request : Request) :
    (m.perform b request).2.session.transactions.Sound :=
  Session.maintains_perform Transactions.steady_sound (fun _ _ _ _ ht => ht) m hm

/-- In every state of every run the bookkeeping counts nothing outside a transaction. -/
theorem sound_transactions (b : Backend H W) (config : SessionConfig)
    (mapper : Option ConditionMapper) (world : W) (requests : List Request) :
    ((Machine.start config mapper world : Machine H W).performAll b
      requests).2.session.transactions.Sound := by
  have hstep (request : Request) (_ : request ∈ requests) (m : Machine H W)
      (hm : m.session.transactions.Sound) : (m.perform b request).2.session.transactions.Sound :=
    sound_perform hm request
  exact performAll_preserves b _ hstep fun _ => rfl

/-! ## Mutations -/

/-- A mutation is told by the answer of its call. -/
theorem mutation_reports (hm : m.session.handle = some h) (u : Mutation) :
    match (b.mutate u h m.world).1 with
    | .done count => Reports (m.perform b u.request).1 (if count = 0 then 4 else 0)
        (min (count.toNat : Int) (2 ^ 63 - 1))
    | .failed _ => Reports (m.perform b u.request).1 4 0
    | .crashed => (m.perform b u.request).1 = .error .crash := by
  have hresult := (perform_mutation (b := b) hm u).1
  cases hreply : (b.mutate u h m.world).1 with
  | done count =>
      rw [hreply] at hresult
      exact ⟨_, hresult, Outcome.toInt_subrc_ofCount count, Outcome.toInt_dbcnt_ofCount count⟩
  | failed fault =>
      rw [hreply] at hresult
      exact ⟨_, hresult, rfl, rfl⟩
  | crashed =>
      rw [hreply] at hresult
      exact hresult

/-- What a mutation leaves in the bookkeeping depends on whether its call comes back. -/
theorem mutation_transactions (hm : m.session.handle = some h) (u : Mutation) :
    (m.perform b u.request).2.session.transactions =
      match b.mutate u h m.world with
      | (.crashed, _) => m.session.transactions
      | (_, place) => (m.session.transactions.observe (b.inTransaction place.1 place.2)).count := by
  have hmutate (sql : String) :
      (Session.mutate b sql m).2.session.transactions =
        match b.execute sql h m.world with
        | (.crashed, _) => m.session.transactions
        | (_, place) =>
          (m.session.transactions.observe (b.inTransaction place.1 place.2)).count := by
    rw [Session.mutate_run_of_some hm]
    rcases b.execute sql h m.world with ⟨_ | _ | _, place⟩ <;> rfl
  rw [perform_run]
  cases u with
  | insert options =>
      simp only [Mutation.request, Backend.mutate, Mutation.sql]
      rw [Session.insert_run_of_some hm]
      rcases hr : b.executeBatch
        (Dialect.insertSql options.table options.columns options.values) h m.world with
        ⟨_ | _ | _, place⟩ <;> simp only [hr] <;> rfl
  | update options => exact hmutate _
  | delete options => exact hmutate _

/-- A mutation that comes back is counted, under the flag that it has left. -/
theorem mutation_recorded (hm : m.session.handle = some h) (u : Mutation)
    (hback : (b.mutate u h m.world).1 ≠ .crashed) :
    (m.perform b u.request).2.session.transactions =
      (m.session.transactions.observe
        (b.inTransaction (b.mutate u h m.world).2.1 (b.mutate u h m.world).2.2)).count := by
  rw [mutation_transactions hm]
  rcases hr : b.mutate u h m.world with ⟨_ | _ | _, place⟩
  · rfl
  · rfl
  · exact absurd (congrArg Prod.fst hr) hback

/-- Whatever a request tells as an outcome is sound. -/
theorem perform_sound (b : Backend H W) (m : Machine H W) (request : Request) (o : Outcome)
    (hresult : (m.perform b request).1 = .ok (.outcome o)) : o.Sound := by
  have hmutation (u : Mutation) (hresult : (m.perform b u.request).1 = .ok (.outcome o)) :
      o.Sound := by
    cases hm : m.session.handle with
    | none =>
        have hconnect : u.request ≠ .connect := by cases u <;> simp [Mutation.request]
        have hneeds : u.request.needsHandle = true := by cases u <;> rfl
        rw [(perform_of_none hm hconnect).1, if_pos hneeds] at hresult
        cases hresult
    | some h =>
        rw [(perform_mutation hm u).1] at hresult
        cases hreply : (b.mutate u h m.world).1 with
        | done count =>
            rw [hreply] at hresult
            cases hresult
            exact Outcome.sound_ofCount count
        | failed fault =>
            rw [hreply] at hresult
            cases hresult
            exact Outcome.sound_notFound
        | crashed =>
            rw [hreply] at hresult
            cases hresult
  cases request with
  | insert options => exact hmutation (.insert options) hresult
  | update options => exact hmutation (.update options) hresult
  | delete options => exact hmutation (.delete options) hresult
  | _ =>
      -- Every other request gives its result another form.
      rw [perform_run] at hresult
      simp only [Except.map] at hresult
      split at hresult <;> cases hresult

end Machine

/-- What is told of mutations, in every state of a session that holds a handle and whatever the backend
replies.  An insertion whose script succeeds tells one row; an update or a deletion tells the rows that
the backend has counted, up to the greatest count, and no row as code 4; and so does every fault, which
leaves the handle in place and is counted as long as the transaction is open.  Over a whole run code and
count of every outcome belong together. -/
theorem mutations_are_told (b : Backend H W) (config : SessionConfig)
    (mapper : Option ConditionMapper) (world : W) (requests : List Request) :
    let run := (Machine.start config mapper world : Machine H W).performAll b requests
    let m := run.2
    (∀ h, m.session.handle = some h →
      (∀ options, (b.executeBatch (Mutation.insert options).sql h m.world).1 = .done () →
        Reports (m.perform b (.insert options)).1 0 1) ∧
      (∀ u : Mutation, (∀ options, u ≠ .insert options) →
        ∀ count, (b.execute u.sql h m.world).1 = .done count →
          Reports (m.perform b u.request).1 (if count = 0 then 4 else 0)
            (min (count.toNat : Int) (2 ^ 63 - 1))) ∧
      ∀ (u : Mutation) fault h' w', b.mutate u h m.world = (.failed fault, h', w') →
        Reports (m.perform b u.request).1 4 0 ∧
        (m.perform b u.request).2.session.handle = some h' ∧
        (m.perform b u.request).2.session.transactions =
          if b.inTransaction h' w' then ⟨true, m.session.transactions.statements + 1⟩
          else .idle) ∧
    ∀ o, .ok (.outcome o) ∈ run.1 → o.Sound := by
  intro run m
  refine ⟨fun h hm => ⟨?_, ?_, ?_⟩, fun o hmem => ?_⟩
  · intro options hscript
    have hreports := Machine.mutation_reports (b := b) hm (.insert options)
    have hreply : (b.mutate (.insert options) h m.world).1 = .done 1 := by
      simp [Backend.mutate, hscript, Reply.map]
    rw [hreply] at hreports
    exact hreports
  · intro u hinsert count hcall
    have hreports := Machine.mutation_reports (b := b) hm u
    have hreply : (b.mutate u h m.world).1 = .done count := by
      cases u with
      | insert options => exact absurd rfl (hinsert options)
      | update options => exact hcall
      | delete options => exact hcall
    rw [hreply] at hreports
    exact hreports
  · intro u fault h' w' hcall
    have hreports := Machine.mutation_reports (b := b) hm u
    have hhandle := (Machine.perform_mutation (b := b) hm u).2.1
    have hrecorded := Machine.mutation_recorded (b := b) hm u (by simp [hcall])
    have hsound : m.session.transactions.Sound :=
      Machine.sound_transactions b config mapper world requests
    rw [hcall] at hreports hhandle hrecorded
    exact ⟨hreports, hhandle, hrecorded.trans (hsound.count_observe _)⟩
  · exact Machine.performAll_results b _
      (P := fun result => ∀ o, result = .ok (.outcome o) → o.Sound)
      (Machine.perform_sound b) hmem o rfl

end OpenSql
