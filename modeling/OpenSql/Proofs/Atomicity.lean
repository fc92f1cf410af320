/-
# OpenSql.Proofs.Atomicity — what a commit publishes when statements may abort the transaction.

A mutation that fails is folded into its outcome, and its failure may have ended the transaction.  The
session then takes over the backend's flag without a word: the mutations after it commit one by one, and
the commit at the end finds nothing to do and succeeds.  So a commit publishes exactly the mutations
reported as successful since the transaction was aborted, if it was.  These are all of them or none,
unless the abort falls between two of them.
-/
import OpenSql.Engine.Backend
import OpenSql.Proofs.Storage

namespace OpenSql

/-! ## Histories -/

/-- A change of rows by an operation that folds faults into an outcome. -/
inductive Mutation where
  | insert (options : InsertOptions)
  | update (options : UpdateOptions)
  | delete (options : DeleteOptions)
deriving DecidableEq

/-- The request of a mutation. -/
def Mutation.request : Mutation → Request
  | insert options => .insert options
  | update options => .update options
  | delete options => .delete options

/-- The SQL that a mutation is put into. -/
def Mutation.sql : Mutation → String
  | insert options => Dialect.insertSql options.table options.columns options.values
  | update options => Dialect.updateSql options.table options.assignments options.predicate
  | delete options => Dialect.deleteSql options.table options.predicate

/-- A mutation as it went in a run. -/
structure Step where
  mutation : Mutation
  /-- It was reported with return code zero. -/
  succeeded : Bool
  /-- It found a transaction open and left none. -/
  aborted : Bool
deriving DecidableEq

namespace Step

/-- The mutations reported as successful. -/
def reported (steps : List Step) : List Mutation :=
  (steps.filter fun step => step.succeeded).map fun step => step.mutation

/-- The mutations reported as successful after which no transaction was aborted any more. -/
def survivors : List Step → List Mutation
  | [] => []
  | step :: rest =>
    if step.succeeded && !rest.any (·.aborted) then step.mutation :: survivors rest
    else survivors rest

/-- An abort falls between two mutations that were reported as successful. -/
def Torn (steps : List Step) : Prop :=
  ∃ before step after, steps = before ++ step :: after ∧ step.aborted = true ∧
    reported before ≠ [] ∧ reported after ≠ []

/-- A step that aborts fails, and it is the last to abort. -/
def Orderly (steps : List Step) : Prop :=
  ∀ before step after, steps = before ++ step :: after → step.aborted = true →
    step.succeeded = false ∧ after.any (·.aborted) = false

theorem orderly_of_none {steps : List Step} (hnone : steps.any (·.aborted) = false) :
    Orderly steps := by
  rintro before step after rfl habort
  simp [habort] at hnone

theorem orderly_cons {step : Step} {rest : List Step}
    (hstep : step.aborted = true → step.succeeded = false ∧ rest.any (·.aborted) = false)
    (hrest : Orderly rest) : Orderly (step :: rest) := by
  intro before middle after hsplit habort
  cases before with
  | nil =>
      obtain ⟨rfl, rfl⟩ := List.cons.inj hsplit
      exact hstep habort
  | cons first before =>
      obtain ⟨-, hsplit⟩ := List.cons.inj hsplit
      exact hrest before middle after hsplit habort

theorem reported_append (steps more : List Step) :
    reported (steps ++ more) = reported steps ++ reported more := by
  rw [reported, List.filter_append, List.map_append]
  rfl

theorem reported_cons_of_failed {step : Step} (hfails : step.succeeded = false) (rest : List Step) :
    reported (step :: rest) = reported rest := by
  rw [reported, List.filter_cons_of_neg (by simp [hfails])]
  rfl

/-- Without an abort everything reported survives. -/
theorem survivors_of_none {steps : List Step} (hnone : steps.any (·.aborted) = false) :
    survivors steps = reported steps := by
  induction steps with
  | nil => rfl
  | cons step rest ih =>
      rw [List.any_cons, Bool.or_eq_false_iff] at hnone
      unfold survivors reported
      rw [hnone.2, ih hnone.2, List.filter_cons]
      cases step.succeeded <;> rfl

/-- What was reported before an abort does not survive it. -/
theorem survivors_of_abort {step : Step} (habort : step.aborted = true)
    (hfails : step.succeeded = false) (before after : List Step) :
    survivors (before ++ step :: after) = survivors after := by
  induction before with
  | nil =>
      show survivors (step :: after) = _
      rw [survivors, hfails]
      rfl
  | cons first before ih =>
      have hlater : (before ++ step :: after).any (·.aborted) = true := by
        simp [habort]
      show survivors (first :: (before ++ step :: after)) = _
      rw [survivors, hlater, ih, Bool.not_true, Bool.and_false]
      rfl

/-- All of the reported mutations survive, or none, unless the history is torn. -/
theorem survivors_all_or_none_iff {steps : List Step} (horderly : Orderly steps) :
    survivors steps = reported steps ∨ survivors steps = [] ↔ ¬ Torn steps := by
  constructor
  · rintro hall ⟨before, step, after, rfl, habort, hbefore, hafter⟩
    obtain ⟨hfails, hlast⟩ := horderly before step after rfl habort
    rw [survivors_of_abort habort hfails, survivors_of_none hlast] at hall
    obtain hall | hnone := hall
    · -- What was reported before the abort would have to be nothing, by its length.
      rw [reported_append, reported_cons_of_failed hfails] at hall
      have hlength := congrArg List.length hall
      rw [List.length_append] at hlength
      exact hbefore (List.length_eq_zero_iff.mp (by omega))
    · exact hafter hnone
  · intro htorn
    cases hany : steps.any (·.aborted) with
    | false => exact .inl (survivors_of_none hany)
    | true =>
        obtain ⟨step, hmem, habort⟩ := List.any_eq_true.mp hany
        obtain ⟨before, after, rfl⟩ := List.append_of_mem hmem
        obtain ⟨hfails, hlast⟩ := horderly before step after rfl habort
        rw [survivors_of_abort habort hfails, survivors_of_none hlast, reported_append,
          reported_cons_of_failed hfails]
        by_cases hbefore : reported before = []
        · exact .inl (by rw [hbefore, List.nil_append])
        · refine .inr (Classical.byContradiction fun hafter => htorn ?_)
          exact ⟨before, step, after, rfl, habort, hbefore, hafter⟩

end Step

/-! ## Backends whose transactions may be aborted -/

variable {H W S : Type}

/-- The call of a mutation, with the number of rows as its answer; an insertion answers one. -/
def Backend.mutate (b : Backend H W) (u : Mutation) (h : H) (w : W) : Reply UInt64 × H × W :=
  match u with
  | .insert _ =>
    let (reply, place) := b.executeBatch u.sql h w
    (reply.map fun _ => 1, place)
  | .update _ | .delete _ => b.execute u.sql h w

/-- The store after mutations in their order. -/
def applied (effect : Mutation → S → S) (mutations : List Mutation) (store : S) : S :=
  mutations.foldl (fun store u => effect u store) store

/-- A backend that publishes the working copy with a commit.  A mutation that succeeds has its effect on
what the handle sees, at once when no transaction is open, and no effect when it meets no row.  One that
fails changes nothing, or it aborts the open transaction, and the working copy is gone. -/
structure Backend.Publishes (b : Backend H W) (storage : Storage H W S)
    (effect : Mutation → S → S) : Prop where
  begins : ∀ {h w h' w'}, b.inTransaction h w = false → b.begin h w = (.done (), h', w') →
    b.inTransaction h' w' = true ∧ storage.committed w' = storage.committed w ∧
      storage.working h' w' = storage.committed w
  commits : ∀ {h w h' w'}, b.inTransaction h w = true → b.commit h w = (.done (), h', w') →
    storage.committed w' = storage.working h w
  /-- Mutations come back. -/
  answers : ∀ u h w, (b.mutate u h w).1 ≠ .crashed
  mutates : ∀ {u h w count h' w'}, b.mutate u h w = (.done count, h', w') →
    b.inTransaction h' w' = b.inTransaction h w ∧
      (b.inTransaction h w = true → storage.committed w' = storage.committed w) ∧
      storage.visible b h' w' =
        if count = 0 then storage.visible b h w else effect u (storage.visible b h w)
  fails : ∀ {u h w fault h' w'}, b.mutate u h w = (.failed fault, h', w') →
    storage.committed w' = storage.committed w ∧
      (b.inTransaction h' w' = b.inTransaction h w ∧
          storage.visible b h' w' = storage.visible b h w ∨
        b.inTransaction h w = true ∧ b.inTransaction h' w' = false)

namespace Ledger

theorem mutate_eq (u : Mutation) (own : Option Texts) (all : Texts) :
    backend.mutate u own all = enter 1 u.sql own all := by
  have hinsert : ((enter () u.sql own all).1.map fun _ => (1 : UInt64),
      (enter () u.sql own all).2) = enter 1 u.sql own all := by
    cases own with
    | none => by_cases hheld : u.sql ∈ all <;> simp [enter, hheld, Reply.map]
    | some texts => by_cases hheld : u.sql ∈ texts <;> simp [enter, hheld, Reply.map]
  cases u with
  | insert options => exact hinsert
  | update options => rfl
  | delete options => rfl

/-- The ledger is such a backend: a mutation enters its text, and a fatal one that is refused aborts. -/
theorem publishes : backend.Publishes storage (fun u texts => texts ++ [u.sql]) where
  begins {own all own' all'} hflag hcall := by
    cases own with
    | none =>
        cases hcall
        exact ⟨rfl, rfl, rfl⟩
    | some texts => cases hflag
  commits {own all own' all'} hflag hcall := by
    cases own with
    | none => cases hflag
    | some texts =>
        cases hcall
        rfl
  answers u own all := by
    rw [mutate_eq]
    cases own with
    | none => by_cases hheld : u.sql ∈ all <;> simp [enter, hheld]
    | some texts => by_cases hheld : u.sql ∈ texts <;> simp [enter, hheld]
  mutates {u own all count own' all'} hcall := by
    rw [mutate_eq] at hcall
    cases own with
    | none =>
        by_cases hheld : u.sql ∈ all
        · simp [enter, hheld] at hcall
        · simp only [enter, hheld, if_false] at hcall
          cases hcall
          exact ⟨rfl, fun _ => by contradiction, rfl⟩
    | some texts =>
        by_cases hheld : u.sql ∈ texts
        · simp [enter, hheld] at hcall
        · simp only [enter, hheld, if_false] at hcall
          cases hcall
          exact ⟨rfl, fun _ => rfl, rfl⟩
  fails {u own all fault own' all'} hcall := by
    rw [mutate_eq] at hcall
    cases own with
    | none =>
        by_cases hheld : u.sql ∈ all
        · simp only [enter, hheld, if_true] at hcall
          cases hcall
          exact ⟨rfl, .inl ⟨rfl, rfl⟩⟩
        · simp [enter, hheld] at hcall
    | some texts =>
        by_cases hheld : u.sql ∈ texts
        · simp only [enter, hheld, if_true] at hcall
          cases hfatal : isFatal u.sql with
          | true =>
              rw [hfatal] at hcall
              cases hcall
              exact ⟨rfl, .inr ⟨rfl, rfl⟩⟩
          | false =>
              rw [hfatal] at hcall
              cases hcall
              exact ⟨rfl, .inl ⟨rfl, rfl⟩⟩
        · simp [enter, hheld] at hcall

end Ledger

namespace Machine

/-- A transaction is open on the handle of the session. -/
def inTransaction (b : Backend H W) (m : Machine H W) : Bool :=
  m.session.handle.any fun h => b.inTransaction h m.world

/-- How a mutation goes. -/
def step (b : Backend H W) (m : Machine H W) (u : Mutation) : Step where
  mutation := u
  succeeded := match (m.perform b u.request).1 with
    | .ok (.outcome outcome) => outcome.isOk
    | _ => false
  aborted := m.inTransaction b && !(m.perform b u.request).2.inTransaction b

/-- How mutations go, one after another. -/
def steps (b : Backend H W) (m : Machine H W) : List Mutation → List Step
  | [] => []
  | u :: rest => m.step b u :: (m.perform b u.request).2.steps b rest

variable {b : Backend H W} {m : Machine H W} {h : H}

/-- A mutation makes its call, and folds the answer into an outcome. -/
theorem perform_mutation (hm : m.session.handle = some h) (u : Mutation) :
    (m.perform b u.request).1 = (match (b.mutate u h m.world).1 with
      | .done count => .ok (.outcome (.ofCount count))
      | .failed _ => .ok (.outcome .notFound)
      | .crashed => .error .crash) ∧
    (m.perform b u.request).2.session.handle = some (b.mutate u h m.world).2.1 ∧
    (m.perform b u.request).2.world = (b.mutate u h m.world).2.2 := by
  have hmutate (sql : String) :
      (Session.mutate b sql m).1.map Answer.outcome = (match (b.execute sql h m.world).1 with
        | .done count => .ok (.outcome (.ofCount count))
        | .failed _ => .ok (.outcome .notFound)
        | .crashed => .error .crash) ∧
      (Session.mutate b sql m).2.session.handle = some (b.execute sql h m.world).2.1 ∧
      (Session.mutate b sql m).2.world = (b.execute sql h m.world).2.2 := by
    rw [Session.mutate_run_of_some hm]
    rcases hr : b.execute sql h m.world with ⟨_ | _ | _, place⟩ <;> exact ⟨rfl, rfl, rfl⟩
  rw [perform_run]
  cases u with
  | insert options =>
      simp only [Mutation.request, Backend.mutate, Mutation.sql]
      rw [Session.insert_run_of_some hm]
      rcases hr : b.executeBatch
        (Dialect.insertSql options.table options.columns options.values) h m.world with
        ⟨_ | _ | _, place⟩ <;> simp only [hr] <;> exact ⟨rfl, rfl, rfl⟩
  | update options => exact hmutate _
  | delete options => exact hmutate _

end Machine

/-! ## Runs of mutations -/

section

variable {b : Backend H W} {storage : Storage H W S} {effect : Mutation → S → S} {m : Machine H W}
  {h : H} {store common own : S}

/-- How a mutation goes is read off its call. -/
theorem Machine.step_eq (hm : m.session.handle = some h) (u : Mutation) :
    m.step b u = {
      mutation := u
      succeeded := match (b.mutate u h m.world).1 with
        | .done count => count != 0
        | _ => false
      aborted := b.inTransaction h m.world &&
        !b.inTransaction (b.mutate u h m.world).2.1 (b.mutate u h m.world).2.2 } := by
  obtain ⟨hresult, hhandle, hworld⟩ := Machine.perform_mutation (b := b) hm u
  unfold Machine.step Machine.inTransaction
  rw [hresult, hhandle, hworld, hm]
  rcases (b.mutate u h m.world).1 with count | fault | _
  · by_cases hcount : count = 0
    · subst hcount
      rfl
    · have hok : (Outcome.ofCount count).isOk = true := by
        rw [Outcome.ofCount, if_neg hcount]
        rfl
      simp [hok, hcount]
  · rfl
  · rfl

/-- Outside a transaction a mutation commits at once. -/
theorem Machine.Stands.mutate (hb : b.Publishes storage effect)
    (hm : m.Stands b storage false store h) (u : Mutation) :
    (m.step b u).aborted = false ∧ ∃ h', (m.perform b u.request).2.Stands b storage false
      (if (m.step b u).succeeded then effect u store else store) h' := by
  obtain ⟨-, hhandle, hworld⟩ := Machine.perform_mutation (b := b) hm.handle u
  have hseen : storage.visible b h m.world = store := by
    rw [Storage.visible, hm.flag]
    exact hm.committed
  rw [Machine.step_eq hm.handle, hm.flag]
  rcases hcall : b.mutate u h m.world with ⟨count | fault | _, h', w'⟩
  · obtain ⟨hflag, -, hvisible⟩ := hb.mutates hcall
    rw [hcall] at hhandle hworld
    rw [hm.flag] at hflag
    rw [hseen, Storage.visible, hflag] at hvisible
    refine ⟨rfl, h', hhandle, by rw [hworld]; exact hflag, ?_⟩
    rw [hworld]
    by_cases hcount : count = 0
    · simpa [hcount] using hvisible
    · simpa [hcount] using hvisible
  · obtain ⟨hcommitted, ⟨hflag, -⟩ | ⟨hopen, -⟩⟩ := hb.fails hcall
    · rw [hcall] at hhandle hworld
      refine ⟨rfl, h', hhandle, by rw [hworld]; exact hflag.trans hm.flag, ?_⟩
      rw [hworld]
      exact hcommitted.trans hm.committed
    · rw [hm.flag] at hopen
      cases hopen
  · exact absurd (by rw [hcall]) (hb.answers u h m.world)

/-- The session is in a transaction, with a common store and a working copy. -/
structure Machine.Works (b : Backend H W) (storage : Storage H W S) (common own : S)
    (m : Machine H W) (h : H) : Prop extends m.Stands b storage true common h where
  working : storage.working h m.world = own

/-- Inside a transaction a mutation changes the working copy, or nothing, or its failure aborts the
transaction. -/
theorem Machine.Works.mutate (hb : b.Publishes storage effect)
    (hm : m.Works b storage common own h) (u : Mutation) :
    ((m.step b u).aborted = false ∧ ∃ h', (m.perform b u.request).2.Works b storage common
      (if (m.step b u).succeeded then effect u own else own) h') ∨
    ((m.step b u).aborted = true ∧ (m.step b u).succeeded = false ∧
      ∃ h', (m.perform b u.request).2.Stands b storage false common h') := by
  obtain ⟨-, hhandle, hworld⟩ := Machine.perform_mutation (b := b) hm.handle u
  have hseen : storage.visible b h m.world = own := by
    rw [Storage.visible, hm.flag]
    exact hm.working
  rw [Machine.step_eq hm.handle, hm.flag]
  rcases hcall : b.mutate u h m.world with ⟨count | fault | _, h', w'⟩
  · obtain ⟨hflag, hcommon, hvisible⟩ := hb.mutates hcall
    rw [hcall] at hhandle hworld
    rw [hm.flag] at hflag
    rw [hseen, Storage.visible, hflag] at hvisible
    refine .inl ⟨by simp [hflag], h', ⟨hhandle, by rw [hworld]; exact hflag, ?_⟩, ?_⟩
    · rw [hworld]
      exact (hcommon hm.flag).trans hm.committed
    · rw [hworld]
      by_cases hcount : count = 0
      · simpa [hcount] using hvisible
      · simpa [hcount] using hvisible
  · rw [hcall] at hhandle hworld
    obtain ⟨hcommon, ⟨hflag, hvisible⟩ | ⟨-, hflag⟩⟩ := hb.fails hcall
    · rw [hm.flag] at hflag
      rw [hseen, Storage.visible, hflag] at hvisible
      refine .inl ⟨by simp [hflag], h', ⟨hhandle, by rw [hworld]; exact hflag, ?_⟩, ?_⟩
      · rw [hworld]
        exact hcommon.trans hm.committed
      · rw [hworld]
        exact hvisible
    · refine .inr ⟨by simp [hflag], rfl, h', hhandle, by rw [hworld]; exact hflag, ?_⟩
      rw [hworld]
      exact hcommon.trans hm.committed
  · exact absurd (by rw [hcall]) (hb.answers u h m.world)

/-- Outside a transaction everything reported is committed, one mutation after another. -/
theorem Machine.Stands.mutateAll (hb : b.Publishes storage effect)
    (hm : m.Stands b storage false store h) (mutations : List Mutation) :
    (m.steps b mutations).any (·.aborted) = false ∧
      ∃ h', (m.performAll b (mutations.map Mutation.request)).2.Stands b storage false
        (applied effect (Step.reported (m.steps b mutations)) store) h' := by
  induction mutations generalizing m store h with
  | nil => exact ⟨rfl, h, hm⟩
  | cons u rest ih =>
      obtain ⟨hkept, h₁, hnext⟩ := hm.mutate hb u
      obtain ⟨hrest, h₂, hend⟩ := ih hnext
      refine ⟨by simp [Machine.steps, hkept, hrest], h₂, ?_⟩
      have hreported : applied effect (Step.reported (m.steps b (u :: rest))) store =
          applied effect (Step.reported ((m.perform b u.request).2.steps b rest))
            (if (m.step b u).succeeded then effect u store else store) := by
        simp only [Machine.steps, Step.reported, List.filter_cons]
        split <;> rfl
      rw [hreported]
      exact hend

/-- Inside a transaction the survivors are in the working copy, or on the common store when the
transaction was aborted. -/
theorem Machine.Works.mutateAll (hb : b.Publishes storage effect)
    (hm : m.Works b storage common own h) (mutations : List Mutation) :
    let steps := m.steps b mutations
    let ended := (m.performAll b (mutations.map Mutation.request)).2
    Step.Orderly steps ∧
      (steps.any (·.aborted) = false ∧
          (∃ h', ended.Works b storage common (applied effect (Step.survivors steps) own) h') ∨
        steps.any (·.aborted) = true ∧
          ∃ h', ended.Stands b storage false (applied effect (Step.survivors steps) common) h') := by
  -- The working copy changes from step to step, and the common store is what an abort falls back on.
  induction mutations generalizing m own h with
  | nil => exact ⟨Step.orderly_of_none rfl, .inl ⟨rfl, h, hm⟩⟩
  | cons u rest ih =>
      intro steps ended
      obtain ⟨hkept, h₁, hnext⟩ | ⟨habort, hfails, h₁, hnext⟩ := hm.mutate hb u
      · obtain ⟨horderly, hrest⟩ := ih hnext
        -- Whether this step survives depends on whether a later one aborts.
        refine ⟨Step.orderly_cons (by simp [hkept]) horderly, ?_⟩
        obtain ⟨hnone, h₂, hend⟩ | ⟨hany, h₂, hend⟩ := hrest
        · refine .inl ⟨by simp [steps, Machine.steps, hkept, hnone], h₂, ?_⟩
          have happlied : applied effect (Step.survivors steps) own =
              applied effect (Step.survivors ((m.perform b u.request).2.steps b rest))
                (if (m.step b u).succeeded then effect u own else own) := by
            simp only [steps, Machine.steps, Step.survivors, hnone, Bool.not_false, Bool.and_true]
            split <;> rfl
          rw [happlied]
          exact hend
        · refine .inr ⟨by simp [steps, Machine.steps, hany], h₂, ?_⟩
          have hsame : Step.survivors steps =
              Step.survivors ((m.perform b u.request).2.steps b rest) := by
            simp only [steps, Machine.steps, Step.survivors, hany, Bool.not_true, Bool.and_false]
            rfl
          rw [hsame]
          exact hend
      · -- No transaction is open any more, so there is nothing left to abort.
        obtain ⟨hnone, h₂, hend⟩ := hnext.mutateAll hb rest
        refine ⟨Step.orderly_cons (fun _ => ⟨hfails, hnone⟩) (Step.orderly_of_none hnone), .inr ?_⟩
        refine ⟨by simp [steps, Machine.steps, habort], h₂, ?_⟩
        have hafter : Step.survivors steps =
            Step.reported ((m.perform b u.request).2.steps b rest) :=
          (Step.survivors_of_abort habort hfails [] _).trans (Step.survivors_of_none hnone)
        rw [hafter]
        exact hend

/-! ## The commit at the end -/

/-- A beginning that succeeds opens a working copy of what the handle sees, or finds one open. -/
theorem Machine.begin_works (hb : b.Publishes storage effect) (hm : m.session.handle = some h)
    (hbegun : (m.perform b .begin).1 = .ok .done) :
    ∃ h', (m.perform b .begin).2.Works b storage (storage.committed m.world)
      (storage.visible b h m.world) h' := by
  simp only [Machine.perform_run, Session.begin] at hbegun ⊢
  rw [Session.connected_run_of_some hm] at hbegun ⊢
  cases hflag : b.inTransaction h m.world with
  | true =>
      have hopen : (m.line h).inTransaction b = true := hflag
      rw [Line.begin_run_of_open hopen]
      refine ⟨h, ⟨rfl, hflag, rfl⟩, ?_⟩
      rw [Storage.visible, hflag]
      rfl
  | false =>
      have hclosed : (m.line h).inTransaction b = false := hflag
      rw [Line.begin_run_of_closed hclosed] at hbegun ⊢
      simp only [Machine.line] at hbegun ⊢
      rcases hcall : b.begin h m.world with ⟨done | fault | _, h', w'⟩
      · obtain ⟨hopen, hcommon, hworking⟩ := hb.begins hflag hcall
        refine ⟨h', ⟨rfl, hopen, hcommon⟩, ?_⟩
        rw [Storage.visible, hflag]
        exact hworking
      · rw [hcall] at hbegun
        cases hbegun
      · rw [hcall] at hbegun
        cases hbegun

/-- A commit that succeeds publishes the working copy. -/
theorem Machine.Works.commit (hb : b.Publishes storage effect)
    (hm : m.Works b storage common own h) (hdone : (m.perform b .commit).1 = .ok .done) :
    storage.committed (m.perform b .commit).2.world = own := by
  have hopen : (m.line h).inTransaction b = true := hm.flag
  simp only [Machine.perform_run, Session.commit] at hdone ⊢
  rw [Session.connected_run_of_some hm.handle, Line.commit_run_of_open hopen] at hdone ⊢
  simp only [Machine.line] at hdone ⊢
  rcases hcall : b.commit h m.world with ⟨done | fault | _, h', w'⟩
  · exact (hb.commits hm.flag hcall).trans hm.working
  · rw [hcall] at hdone
    cases hdone
  · rw [hcall] at hdone
    cases hdone

/-- A commit without a transaction leaves the backend alone. -/
theorem Machine.Stands.commit (hm : m.Stands b storage false store h) :
    storage.committed (m.perform b .commit).2.world = store := by
  have hclosed : (m.line h).inTransaction b = false := hm.flag
  simp only [Machine.perform_run, Session.commit]
  rw [Session.connected_run_of_some hm.handle, Line.commit_run_of_closed hclosed]
  exact hm.committed

end

/-- What a commit publishes that succeeds after a beginning that succeeded: the mutations reported as
successful since the transaction was aborted, or all that were reported.  They are all or none exactly
when no abort falls between two of them, and then the common store shows all or nothing; where effects
can be told apart, only then. -/
theorem commit_publishes_survivors {b : Backend H W} {storage : Storage H W S}
    {effect : Mutation → S → S} (hb : b.Publishes storage effect) {m : Machine H W} {h : H}
    (hhandle : m.session.handle = some h) (mutations : List Mutation) :
    let begun := m.perform b .begin
    let mutated := begun.2.performAll b (mutations.map Mutation.request)
    let committed := mutated.2.perform b .commit
    let steps := begun.2.steps b mutations
    let store := storage.committed m.world
    let published := storage.committed committed.2.world
    begun.1 = .ok .done → committed.1 = .ok .done →
      published = applied effect (Step.survivors steps)
        (if steps.any (·.aborted) then store else storage.visible b h m.world) ∧
      (Step.survivors steps = Step.reported steps ∨ Step.survivors steps = [] ↔
        ¬ Step.Torn steps) ∧
      (b.inTransaction h m.world = false →
        (¬ Step.Torn steps → published = applied effect (Step.reported steps) store ∨
          published = store) ∧
        ((∀ us vs, applied effect us store = applied effect vs store → us = vs) →
          published = applied effect (Step.reported steps) store ∨ published = store →
          ¬ Step.Torn steps)) := by
  intro begun mutated committed steps store published hbegun hcommitted
  obtain ⟨h₁, hworks⟩ := Machine.begin_works hb hhandle hbegun
  obtain ⟨horderly, hrun⟩ := hworks.mutateAll hb mutations
  have hiff := Step.survivors_all_or_none_iff horderly
  have hpublished : published = applied effect (Step.survivors steps)
      (if steps.any (·.aborted) then store else storage.visible b h m.world) := by
    obtain ⟨hnone, h₂, hend⟩ | ⟨hany, h₂, hend⟩ := hrun
    · rw [if_neg (by simp [steps, begun, hnone])]
      exact hend.commit hb hcommitted
    · rw [if_pos hany]
      exact hend.commit
  refine ⟨hpublished, hiff, fun hflag => ?_⟩
  have hstore : published = applied effect (Step.survivors steps) store := by
    rw [hpublished, Storage.visible, hflag]
    split <;> rfl
  rw [hstore]
  constructor
  · intro htorn
    obtain hall | hnone := hiff.mpr htorn
    · exact .inl (by rw [hall])
    · exact .inr (by rw [hnone]; rfl)
  · intro hdistinct hclaim
    refine hiff.mp ?_
    obtain hall | hnone := hclaim
    · exact .inl (hdistinct _ _ hall)
    · exact .inr (hdistinct _ [] hnone)

namespace Ledger

/-- Mutations of which the third repeats the second, which is fatal. -/
def torn : List Mutation :=
  [.insert ⟨"t", ["a"], ["2"]⟩, .update ⟨"OR ROLLBACK t", ["a = 1"], "a = 2"⟩,
    .update ⟨"OR ROLLBACK t", ["a = 1"], "a = 2"⟩, .insert ⟨"t", ["a"], ["3"]⟩]

/-- A session on a ledger with one text. -/
def opened : Machine (Option Texts) Texts :=
  ((Machine.start {} none ["INSERT INTO t VALUES (1)"]).perform backend .connect).2

set_option maxRecDepth 10000 in
/-- Of the mutations only the last one is published, beside the text from before. -/
theorem commit_publishes_last :
    (((opened.perform backend .begin).2.performAll backend (torn.map Mutation.request)).2.perform
      backend .commit).2.world =
      ["INSERT INTO t VALUES (1)", "INSERT INTO t (\"a\") VALUES (3)"] := by
  have hhandle : opened.session.handle = some none := rfl
  have hpublished := (commit_publishes_survivors publishes hhandle torn (by rfl) (by rfl)).1
  exact hpublished.trans (by decide +kernel)

end Ledger

namespace Engine

/-- A transaction of insertions. -/
def transaction (values : List String) : List Request :=
  .begin :: values.map (fun value => .insert ⟨"t", ["A"], [value]⟩) ++ [.commit]

/-- A run on a table with one row, whose key rolls back on a conflict.  In the end each row is looked for by
itself. -/
def keyedRun (requests : List Request) : List Result :=
  ((Machine.start {} none {}).performAll backend
    ([.connect,
      .execute (.batch ["CREATE TABLE t (a INTEGER PRIMARY KEY ON CONFLICT ROLLBACK)",
        "INSERT INTO t VALUES (1)"])] ++ requests ++
      [.select ⟨"SELECT a FROM t WHERE a = 1", none⟩, .select ⟨"SELECT a FROM t WHERE a = 2", none⟩,
        .select ⟨"SELECT a FROM t WHERE a = 3", none⟩])).1

/-- The return codes of the mutations of a run. -/
def returnCodes (results : List Result) : List Int32 :=
  results.filterMap fun result => match result with
    | .ok (.outcome outcome) => some outcome.subrc
    | _ => none

/-- The integers in the rows that a run has read. -/
def integersRead (results : List Result) : List Int64 :=
  results.flatMap fun result => match result with
    | .ok (.rows rows) => rows.flatMap fun row => row.values.toList.filterMap fun value =>
      match value with
      | .integer n => some n
      | _ => none
    | _ => []

set_option maxRecDepth 10000 in
/-- The engine publishes part of a transaction.  The second of three insertions repeats the row.  No request
fails, the first and the last insertion are reported as successful, and of their rows only the last is there
after the commit.  That is neither what these two insertions lead to nor what there was at the beginning. -/
theorem commit_publishes_part :
    let torn := keyedRun (transaction ["2", "1", "3"])
    let whole := keyedRun (transaction ["2", "3"])
    let untouched := keyedRun []
    (torn.all fun result => result.isOk) = true ∧ returnCodes torn = [0, 4, 0] ∧
      integersRead torn = [1, 3] ∧
      (returnCodes whole = [0, 0] ∧ integersRead whole = [1, 2, 3] ∧
        integersRead torn ≠ integersRead whole) ∧
      integersRead untouched = [1] ∧ integersRead torn ≠ integersRead untouched := by
  intro torn whole untouched
  have htorn : (torn.all fun result => result.isOk) = true ∧ returnCodes torn = [0, 4, 0] ∧
      integersRead torn = [1, 3] := by decide +kernel
  have hwhole : returnCodes whole = [0, 0] ∧ integersRead whole = [1, 2, 3] := by decide +kernel
  have huntouched : integersRead untouched = [1] := by decide +kernel
  refine ⟨htorn.1, htorn.2.1, htorn.2.2, ⟨hwhole.1, hwhole.2, ?_⟩, huntouched, ?_⟩
  · rw [htorn.2.2, hwhole.2]
    decide
  · rw [htorn.2.2, huntouched]
    decide

end Engine

end OpenSql
