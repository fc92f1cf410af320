/-
# OpenSql.Proofs.Errands — errands run by themselves, whole or in pieces.

What a session has reported so far does not reach what it does next.  So two machines that differ in their
reports alone, and not in their calls, answer an errand in the same way and differ in their reports alone
after it.  An errand that is run in pieces does the same as one that is run whole, as long as nothing comes
between the pieces but such reports.
-/
import OpenSql.Proofs.Lifecycle
import OpenSql.Proofs.Resemblance
import OpenSql.Shared

namespace OpenSql

variable {H W : Type}

/-! ## Machines that differ in their reports -/

/-- Machines with the same session in the same world and the same calls behind them.  What else they have
reported may differ. -/
structure Machine.Agrees (m m' : Machine H W) : Prop where
  session : m'.session = m.session
  world : m'.world = m.world
  calls : Event.calls m'.events = Event.calls m.events

namespace Machine.Agrees

variable {b : Backend H W} {m m' m'' : Machine H W}

theorem refl (m : Machine H W) : m.Agrees m := ⟨rfl, rfl, rfl⟩

theorem trans (h : m.Agrees m') (h' : m'.Agrees m'') : m.Agrees m'' where
  session := h'.session.trans h.session
  world := h'.world.trans h.world
  calls := h'.calls.trans h.calls

theorem resembles (h : m.Agrees m') (b : Backend H W) : m.Resembles b .same m' where
  context := by rw [h.session]
  database := by rw [h.session]
  opens _ := by rw [h.session]
  mapper := by rw [h.session]; rfl
  handle := by rw [h.session]
  world := h.world
  calls := h.calls
  transactions := by rw [h.session]; rfl

theorem ofResembles (h : m.Resembles b .same m')
    (hconfig : m'.session.config = m.session.config) : m.Agrees m' where
  session := by
    have hmapper : m.session.mapper = m'.session.mapper := h.mapper
    have htransactions : m.session.transactions = m'.session.transactions := h.transactions
    have hhandle := h.handle
    -- Of the configuration a resemblance leaves the trace flag open.
    cases hs : m.session
    cases hs' : m'.session
    simp_all
  world := h.world
  calls := h.calls

theorem reported (h : m.Agrees m') {events : List Event} (hcalls : Event.calls events = []) :
    m.Agrees (m'.reported events) where
  session := h.session
  world := h.world
  calls := by simp [Machine.reported, h.calls, hcalls]

theorem perform (h : m.Agrees m') (b : Backend H W) (request : Request) :
    (m'.perform b request).1 = (m.perform b request).1 ∧
      (m.perform b request).2.Agrees (m'.perform b request).2 := by
  obtain ⟨hresult, hresembles⟩ :=
    Session.parallel_perform (fun _ => rfl) m m' (h.resembles b)
  refine ⟨hresult, .ofResembles hresembles ?_⟩
  exact ((m'.perform_config b request).trans (by rw [h.session])).trans (m.perform_config b request).symm

end Machine.Agrees

/-! ## Errands -/

namespace Errand

theorem perform_agrees {m m' : Machine H W} (h : m.Agrees m') (b : Backend H W) (errand : Errand) :
    (errand.perform b m').1 = (errand.perform b m).1 ∧
      (errand.perform b m).2.Agrees (errand.perform b m').2 := by
  cases errand with
  | request asked =>
      obtain ⟨hresult, hagrees⟩ := h.perform b asked
      exact ⟨congrArg (Except.map Response.answer) hresult, hagrees⟩
  | view shown =>
      refine ⟨?_, h⟩
      simp only [perform, h.session]

end Errand

namespace Progress

/-- Runs what is left of an errand to its end. -/
def complete (b : Backend H W) (m : Machine H W) : Progress → Except Stop Response × Machine H W
  | .left errand => errand.perform b m
  | .ended result => (result, m)

theorem complete_agrees {m m' : Machine H W} (h : m.Agrees m') (b : Backend H W) (p : Progress) :
    (p.complete b m').1 = (p.complete b m).1 ∧ (p.complete b m).2.Agrees (p.complete b m').2 := by
  cases p with
  | left errand => exact Errand.perform_agrees h b errand
  | ended result => exact ⟨rfl, h⟩

end Progress

/-- The first script of a batch, and then the rest of it. -/
theorem Errand.perform_batch_cons (b : Backend H W) (m : Machine H W) (sql : String)
    (rest : List String) :
    (Errand.request (.execute (.batch (sql :: rest)))).perform b m =
      match Session.executeOne b sql m with
      | (.ok (), m') => (Errand.request (.execute (.batch rest))).perform b m'
      | (.error stop, m') => (.error stop, m') := by
  have hcons : Session.execute b (.batch (sql :: rest)) m =
      match Session.executeOne b sql m with
      | (.ok (), m') => Session.execute b (.batch rest) m'
      | (.error stop, m') => (.error stop, m') := Session.executeAll_run_cons sql rest m
  simp only [perform, Machine.perform_run, hcons]
  rcases Session.executeOne b sql m with ⟨stop | _, m'⟩ <;> rfl

/-- Doing one piece first makes no difference to the whole. -/
theorem Progress.complete_work (b : Backend H W) (m : Machine H W) (p : Progress) :
    (p.work b m).1.complete b (p.work b m).2 = p.complete b m := by
  cases p with
  | ended result => rfl
  | left errand =>
      show (errand.work b m).1.complete b (errand.work b m).2 = errand.perform b m
      unfold Errand.work
      split
      · next sql rest =>
          rw [Errand.perform_batch_cons]
          rcases Session.executeOne b sql m with ⟨stop | _, m'⟩ <;> rfl
      · rfl

/-- The number of pieces that are left. -/
def Progress.pieces : Progress → Nat
  | .left errand => errand.pieces
  | .ended _ => 0

theorem Progress.pieces_work (b : Backend H W) (m : Machine H W) (p : Progress) :
    (p.work b m).1.pieces ≤ p.pieces - 1 := by
  cases p with
  | ended result => exact Nat.zero_le _
  | left errand =>
      show (errand.work b m).1.pieces ≤ errand.pieces - 1
      unfold Errand.work
      split
      · next sql rest =>
          rcases Session.executeOne b sql m with ⟨stop | _, m'⟩
          · exact Nat.zero_le _
          · exact Nat.le_refl _
      · exact Nat.zero_le _

theorem Progress.eq_ended_of_pieces {p : Progress} (h : p.pieces = 0) : ∃ result, p = .ended result := by
  cases p with
  | ended result => exact ⟨result, rfl⟩
  | left errand =>
      have hpositive : 0 < errand.pieces := by
        unfold Errand.pieces
        split <;> exact Nat.succ_pos _
      exact absurd h (Nat.ne_of_gt hpositive)

/-! ## Tickets one after another -/

/-- Runs the errands of tickets on a session that nobody else uses, one after another, with what the tasks
are told. -/
def alone (b : Backend H W) (m : Machine H W) :
    List Ticket → List (Nat × Except DbError Response) × Machine H W
  | [] => ([], m)
  | ticket :: rest =>
    let (result, m) := ticket.errand.perform b m
    let (results, m) := alone b m rest
    ((ticket.number, Shared.told result) :: results, m)

theorem alone_append (b : Backend H W) (m : Machine H W) (tickets more : List Ticket) :
    alone b m (tickets ++ more) =
      ((alone b m tickets).1 ++ (alone b (alone b m tickets).2 more).1,
        (alone b (alone b m tickets).2 more).2) := by
  induction tickets generalizing m with
  | nil => rfl
  | cons ticket tickets ih =>
      rw [List.cons_append]
      simp only [alone, ih, List.cons_append]

theorem alone_agrees {m m' : Machine H W} (h : m.Agrees m') (b : Backend H W) (tickets : List Ticket) :
    (alone b m' tickets).1 = (alone b m tickets).1 ∧
      (alone b m tickets).2.Agrees (alone b m' tickets).2 := by
  induction tickets generalizing m m' with
  | nil => exact ⟨rfl, h⟩
  | cons ticket tickets ih =>
      obtain ⟨hresult, hagrees⟩ := ticket.errand.perform_agrees h b
      obtain ⟨hresults, hended⟩ := ih hagrees
      simp only [alone, hresult, hresults]
      exact ⟨trivial, hended⟩

theorem alone_numbers (b : Backend H W) (m : Machine H W) (tickets : List Ticket) :
    (alone b m tickets).1.map (·.1) = tickets.map (·.number) := by
  induction tickets generalizing m with
  | nil => rfl
  | cons ticket tickets ih => simp only [alone, List.map_cons, ih]

end OpenSql
