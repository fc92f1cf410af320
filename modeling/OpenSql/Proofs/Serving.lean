/-
# OpenSql.Proofs.Serving — a fair lock serves every task.

What holds of every run of a shared session does not say that anybody is served.  The run of a fair lock
serves everybody: errands that are handed in together are run one after the other in the order in which they
came, each task is told what its errand gives on a session that nobody else uses, and nothing is left under
way.  So a shared session that is only ever used in this way answers as a session without sharing does.
-/
import OpenSql.Proofs.Sharing

namespace OpenSql.Shared

variable {H W : Type} {b : Backend H W} {s : Shared H W}

/-! ## The run of a fair lock -/

/-- The tickets of errands that are handed in together. -/
def ticketsOf (first : Nat) (errands : List Errand) : List Ticket :=
  (errands.zipIdx first).map fun (errand, number) => ⟨number, errand⟩

/-- The steps in which a ticket is served. -/
def turn (t : Ticket) : List Step :=
  .acquire t.number :: List.replicate t.errand.pieces .work ++ [.release, .deliver t.number]

theorem schedule_eq (first : Nat) (errands : List Errand) :
    schedule first errands = errands.map .submit ++ (ticketsOf first errands).flatMap turn := by
  rw [ticketsOf, List.flatMap_map]
  rfl

theorem ticketsOf_cons (first : Nat) (errand : Errand) (errands : List Errand) :
    ticketsOf first (errand :: errands) = ⟨first, errand⟩ :: ticketsOf (first + 1) errands := rfl

theorem ticketsOf_numbers (first : Nat) (errands : List Errand) :
    (ticketsOf first errands).map (·.number) = List.range' first errands.length := by
  induction errands generalizing first with
  | nil => rfl
  | cons errand errands ih =>
      rw [ticketsOf_cons, List.map_cons, ih]
      rfl

theorem steps_submit (b : Backend H W) (s : Shared H W) (errands : List Errand) :
    s.steps b (errands.map .submit) =
      ([], { s with
        next := s.next + errands.length
        waiting := s.waiting ++ ticketsOf s.next errands }) := by
  induction errands generalizing s with
  | nil =>
      show ([], s) = _
      simp [ticketsOf]
  | cons errand errands ih =>
      have hnext : s.next + 1 + errands.length = s.next + (errands.length + 1) := by omega
      show (s.submit errand).steps b (errands.map .submit) = _
      rw [ih, ticketsOf_cons]
      simp [submit, hnext]

/-! ## The turn of a ticket -/

/-- Tickets wait in this order, and nothing else is under way. -/
structure Queues (s : Shared H W) (queue : List Ticket) : Prop where
  free : s.holder = none
  waiting : s.waiting = queue
  collected : s.finished = []
  once : (queue.map (·.number)).Nodup
  stayed : ∀ t ∈ queue, t.number ∉ s.abandoned

namespace Queues

variable {t : Ticket} {queue : List Ticket}

/-- The first ticket is given the lock, and the others go on waiting. -/
theorem acquire (hs : s.Queues (t :: queue)) :
    s.acquire t.number = { s with holder := some ⟨t, .left t.errand⟩, waiting := queue } := by
  have hgranted : s.granted? t.number = some t := by
    rw [granted?, hs.free, hs.waiting]
    exact List.find?_cons_of_pos (by simp)
  have hothers : queue.filter (·.number != t.number) = queue :=
    filter_of_not_mem Ticket.number (List.nodup_cons.mp hs.once).1
  rw [Shared.acquire, hgranted, hs.waiting]
  simp [hothers]

/-- In its turn the first ticket is run to its end, and its task is told what came of it. -/
theorem turn (hs : s.Queues (t :: queue)) (b : Backend H W) :
    ∃ machine, (t.errand.perform b s.machine).2.Agrees machine ∧
      s.steps b (turn t) = ([(t.number, told (t.errand.perform b s.machine).1)],
        { s with machine, waiting := queue }) := by
  -- The state in which the worker has ended, and the one in which its result is on its way.
  let worked : Shared H W :=
    { s with
      machine := (t.errand.perform b s.machine).2
      holder := some ⟨t, .ended (t.errand.perform b s.machine).1⟩
      waiting := queue }
  let released : Shared H W :=
    { worked with
      holder := none
      finished := [(t.number, told (t.errand.perform b s.machine).1)] }
  have hworked : (s.acquire t.number).steps b (List.replicate t.errand.pieces .work) = ([], worked) := by
    rw [hs.acquire, works b rfl (Nat.le_refl t.errand.pieces)]
    rfl
  have hreleased : worked.release = released := by
    have hstayed : t.number ∉ s.abandoned := hs.stayed t List.mem_cons_self
    simp [Shared.release, worked, released, hs.collected, hstayed]
  have hfound : released.finished.find? (·.1 == t.number) =
      some (t.number, told (t.errand.perform b s.machine).1) := List.find?_cons_of_pos (by simp)
  obtain ⟨machine, hagrees, hdelivered⟩ := deliver_of_find hfound
  refine ⟨machine, hagrees, ?_⟩
  have hleft : { released with finished := released.finished.filter (·.1 != t.number), machine } =
      { s with machine, waiting := queue } := by
    simp [released, worked, hs.free, hs.collected]
  show (s.acquire t.number).steps b
    (List.replicate t.errand.pieces .work ++ [.release, .deliver t.number]) = _
  rw [steps_append, hworked]
  simp [Shared.steps, Shared.step, hreleased, hdelivered, hleft]

/-- The tickets are served one after the other. -/
theorem turns (hs : s.Queues queue) (b : Backend H W) :
    ∃ machine, (alone b s.machine queue).2.Agrees machine ∧
      s.steps b (queue.flatMap Shared.turn) =
        ((alone b s.machine queue).1, { s with machine, waiting := [] }) := by
  induction queue generalizing s with
  | nil =>
      refine ⟨s.machine, .refl s.machine, ?_⟩
      show ([], s) = ([], _)
      rw [← hs.waiting]
  | cons t queue ih =>
      obtain ⟨machine, hagrees, hturn⟩ := hs.turn b
      have hrest : Queues { s with machine, waiting := queue } queue :=
        ⟨hs.free, rfl, hs.collected, (List.nodup_cons.mp hs.once).2,
          fun u hu => hs.stayed u (List.mem_cons_of_mem t hu)⟩
      obtain ⟨machine', hagrees', hturns⟩ := ih hrest
      -- The turn may have left a report behind, which the tickets after it do not look at.
      obtain ⟨hresults, hended⟩ := alone_agrees hagrees b queue
      refine ⟨machine', hended.trans hagrees', ?_⟩
      rw [List.flatMap_cons, steps_append, hturn, hturns]
      simp only [alone, hresults]
      rfl

end Queues

/-! ## Everybody is served -/

/-- Nobody holds the lock or waits for it, and no result is on its way; who has walked away had a ticket. -/
structure Idle (s : Shared H W) : Prop where
  free : s.holder = none
  nobody : s.waiting = []
  collected : s.finished = []
  walked : ∀ number ∈ s.abandoned, number < s.next

/-- A shared session is idle when it has just been made. -/
theorem Idle.ofMachine (m : Machine H W) : (ofMachine m).Idle :=
  ⟨rfl, rfl, rfl, fun _ hmem => absurd hmem List.not_mem_nil⟩

/-- A fair lock serves every errand.  Handed in together while nobody uses the session, they are run in the
order in which they came; every task is told, in this order, what its errand gives without sharing; and the
session is left where they lead it, with nobody using it. -/
theorem schedule_serves_all (hs : s.Idle) (b : Backend H W) (errands : List Errand) :
    let lone := alone b s.machine (ticketsOf s.next errands)
    let ended := s.steps b (schedule s.next errands)
    ended.1 = lone.1 ∧ lone.2.Agrees ended.2.machine ∧ ended.2.Idle ∧
      ended.2.next = s.next + errands.length := by
  intro lone ended
  have hqueues : Queues { s with
      next := s.next + errands.length
      waiting := s.waiting ++ ticketsOf s.next errands } (ticketsOf s.next errands) := by
    refine ⟨hs.free, by rw [hs.nobody]; rfl, hs.collected, ?_, fun t ht hmem => ?_⟩
    · rw [ticketsOf_numbers]
      exact List.nodup_range'
    · -- The numbers are new, so nobody has walked away with one of them.
      have hnumber : t.number ∈ (ticketsOf s.next errands).map (·.number) := List.mem_map_of_mem ht
      rw [ticketsOf_numbers] at hnumber
      have hwalked := hs.walked _ hmem
      have hnew := (List.mem_range'_1.mp hnumber).1
      omega
  obtain ⟨machine, hagrees, hturns⟩ := hqueues.turns b
  have hended : ended = (lone.1, { s with
      machine
      next := s.next + errands.length
      waiting := [] }) := by
    show s.steps b (schedule s.next errands) = _
    rw [schedule_eq, steps_append, steps_submit, hturns]
    rfl
  rw [hended]
  refine ⟨rfl, hagrees, ⟨hs.free, rfl, hs.collected, fun number hmem => ?_⟩, rfl⟩
  exact Nat.lt_of_lt_of_le (hs.walked number hmem) (Nat.le_add_right _ _)

/-- Requests one after another on a session without sharing, as the errands of tasks. -/
theorem alone_requests (b : Backend H W) (m : Machine H W) (first : Nat) (requests : List Request) :
    let lone := alone b m (ticketsOf first (requests.map .request))
    (lone.1.filterMap fun (_, result) => answer? result) = (m.performAll b requests).1.map told ∧
      lone.2 = (m.performAll b requests).2 := by
  induction requests generalizing m first with
  | nil => exact ⟨rfl, rfl⟩
  | cons request requests ih =>
      obtain ⟨hanswers, hended⟩ := ih (m.perform b request).2 (first + 1)
      have hanswer : answer? (told ((m.perform b request).1.map .answer)) =
          some (told (m.perform b request).1) := by
        rcases (m.perform b request).1 with (_ | _) | _ <;> rfl
      rw [List.map_cons, ticketsOf_cons]
      simp only [alone, Errand.perform, Machine.performAll, List.filterMap_cons, hanswer, List.map_cons]
      exact ⟨congrArg _ hanswers, hended⟩

/-- A shared session that serves requests answers them, one for one and in their order, as a session without
sharing would; a crash is told as the failure of the worker. -/
theorem serve_answers (hs : s.Idle) (b : Backend H W) (requests : List Request) :
    let lone := s.machine.performAll b requests
    let served := s.serve b requests
    served.1 = lone.1.map told ∧ lone.2.Agrees served.2.machine ∧ served.2.Idle := by
  intro lone served
  obtain ⟨hdelivered, hagrees, hidle, -⟩ := schedule_serves_all hs b (requests.map .request)
  obtain ⟨hanswers, hended⟩ := alone_requests b s.machine s.next requests
  refine ⟨?_, hended ▸ hagrees, hidle⟩
  show ((s.steps b (schedule s.next (requests.map .request))).1.filterMap
    fun (_, result) => answer? result) = _
  rw [hdelivered, hanswers]

end OpenSql.Shared
