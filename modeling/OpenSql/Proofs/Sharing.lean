/-
# OpenSql.Proofs.Sharing — what tasks get from a shared session, one of them would have got alone.

Take any run of steps on a shared session, whichever tasks make them and wherever a task walks away.  The
tickets that were given the lock, in the order in which they were given it, make up a run of the session
without any sharing.  Every result that is delivered is the one that its ticket has in that run, and the
session is where that run leads it.

Nothing is lost on the way either.  What was handed in waits until it gets the lock, what has the lock comes to
its end, and its result is to be had for the asking; only who walks away goes without.

The account behind this is kept step by step: of the tickets that have ended, of the one that is being
worked on, of those that wait, and of the results that are on their way.
-/
import Mathlib.Data.List.Induction
import Mathlib.Data.List.Nodup
import OpenSql.Proofs.Errands

namespace OpenSql.Shared

variable {H W : Type} {b : Backend H W} {m : Machine H W} {s : Shared H W}

/-! ## Runs of steps -/

theorem steps_append (b : Backend H W) (s : Shared H W) (steps more : List Step) :
    s.steps b (steps ++ more) =
      ((s.steps b steps).1 ++ ((s.steps b steps).2.steps b more).1,
        ((s.steps b steps).2.steps b more).2) := by
  induction steps generalizing s with
  | nil => rfl
  | cons step steps ih =>
      rw [List.cons_append]
      simp only [Shared.steps, ih, List.append_assoc]

/-- The ticket that gets the lock in a step. -/
def grants (s : Shared H W) : Step → Option Ticket
  | .acquire number => s.granted? number
  | _ => none

/-- The tickets that get the lock in a run, in their order. -/
def granted (b : Backend H W) (s : Shared H W) : List Step → List Ticket
  | [] => []
  | step :: rest => (s.grants step).toList ++ granted b (s.step b step).2 rest

theorem granted_append (b : Backend H W) (s : Shared H W) (steps more : List Step) :
    s.granted b (steps ++ more) = s.granted b steps ++ (s.steps b steps).2.granted b more := by
  induction steps generalizing s with
  | nil => rfl
  | cons step steps ih =>
      rw [List.cons_append]
      simp only [granted, Shared.steps, ih, List.append_assoc]

/-- The errands that are handed in during a run; the number of a ticket is its place among them. -/
def submitted (steps : List Step) : List Errand :=
  steps.filterMap fun | .submit errand => some errand | _ => none

theorem submitted_append (steps more : List Step) :
    submitted (steps ++ more) = submitted steps ++ submitted more := List.filterMap_append

/-! ## What a step does -/

theorem granted?_eq_some {number : Nat} {ticket : Ticket} (hgranted : s.granted? number = some ticket) :
    s.holder = none ∧ ticket ∈ s.waiting ∧ ticket.number = number := by
  unfold granted? at hgranted
  split at hgranted
  · next hfree =>
      have hnumber := List.find?_some hgranted
      exact ⟨hfree, List.mem_of_find?_eq_some hgranted, by simpa using hnumber⟩
  · cases hgranted

theorem work_of_holder (b : Backend H W) {holder : Holder} (hholder : s.holder = some holder) :
    s.work b =
      { s with
        machine := (holder.progress.work b s.machine).2
        holder := some ⟨holder.ticket, (holder.progress.work b s.machine).1⟩ } := by
  rw [Shared.work, hholder]

/-- A result that is found is handed over, and no more than a report comes of it. -/
theorem deliver_of_find {number : Nat} {result : Except DbError Response}
    (hfound : s.finished.find? (·.1 == number) = some (number, result)) :
    ∃ machine, s.machine.Agrees machine ∧
      s.deliver number =
        (some result, { s with finished := s.finished.filter (·.1 != number), machine }) := by
  by_cases hworker : result = .error .worker
  · subst hworker
    refine ⟨(Session.note (.workerFailed .worker) s.machine).2, ?_, ?_⟩
    · rw [Session.note_run]
      exact (Machine.Agrees.refl s.machine).reported rfl
    · rw [Shared.deliver, hfound]
      rfl
  · refine ⟨s.machine, .refl s.machine, ?_⟩
    rw [Shared.deliver, hfound]
    dsimp only
    split
    · exact absurd rfl hworker
    · rfl

/-- What is delivered was finished. -/
theorem deliver_cases (s : Shared H W) (number : Nat) :
    s.deliver number = (none, s) ∨
      ∃ result machine, (number, result) ∈ s.finished ∧ s.machine.Agrees machine ∧
        s.deliver number =
          (some result, { s with finished := s.finished.filter (·.1 != number), machine }) := by
  cases hfound : s.finished.find? (·.1 == number) with
  | none => exact .inl (by rw [Shared.deliver, hfound])
  | some found =>
      obtain ⟨number', result⟩ := found
      have hnumber : (number' == number) = true := by simpa using List.find?_some hfound
      obtain rfl := beq_iff_eq.mp hnumber
      obtain ⟨machine, hagrees, hdeliver⟩ := deliver_of_find hfound
      exact .inr ⟨result, machine, List.mem_of_find?_eq_some hfound, hagrees, hdeliver⟩

/-! ## Keys that stand once -/

theorem filter_of_not_mem {α : Type} (key : α → Nat) {xs : List α} {x : α} (h : key x ∉ xs.map key) :
    xs.filter (key · != key x) = xs := by
  refine List.filter_eq_self.mpr fun y hy => ?_
  have hne : key y ≠ key x := fun heq => h (heq ▸ List.mem_map_of_mem hy)
  simpa using hne

/-- Filtering one key out of the second list takes no other key away. -/
theorem mem_map_of_kept {α : Type} (key : α → Nat) {xs ys : List α} {k n : Nat} (hne : n ≠ k)
    (hn : n ∈ (xs ++ ys).map key) : n ∈ (xs ++ ys.filter (key · != k)).map key := by
  obtain ⟨y, hy, rfl⟩ := List.mem_map.mp hn
  refine List.mem_map_of_mem ?_
  rcases List.mem_append.mp hy with hy | hy
  · exact List.mem_append_left _ hy
  · exact List.mem_append_right _ (List.mem_filter.mpr ⟨hy, by simpa using hne⟩)

/-- An element that is taken out of one list and added to another moves, and no more. -/
theorem perm_moved {α : Type} (key : α → Nat) (xs : List α) {ys : List α} {x : α} (hx : x ∈ ys)
    (h : (ys.map key).Nodup) : (xs ++ x :: ys.filter (key · != key x)).Perm (xs ++ ys) := by
  refine .append_left xs ?_
  induction ys with
  | nil => cases hx
  | cons y ys ih =>
      rw [List.map_cons, List.nodup_cons] at h
      rcases List.mem_cons.mp hx with rfl | hx
      · rw [List.filter_cons_of_neg (by simp), filter_of_not_mem key h.1]
      · have hne : key y ≠ key x := fun heq => h.1 (heq ▸ List.mem_map_of_mem hx)
        rw [List.filter_cons_of_pos (by simpa using hne)]
        exact (List.Perm.swap y x _).trans ((ih hx h.2).cons y)

/-! ## The account of a run -/

/-- The ticket that holds the lock. -/
def held (s : Shared H W) : List Ticket := (s.holder.map (·.ticket)).toList

/-- The tickets that have ended, that hold the lock and that wait for it, after a run. -/
def tickets (s : Shared H W) (ended : List Ticket) : List Ticket := ended ++ s.held ++ s.waiting

/-- The account of a run that has led to a state. -/
structure Accounts (b : Backend H W) (m : Machine H W) (past : List Step) (ended : List Ticket)
    (delivered : List (Nat × Except DbError Response)) (s : Shared H W) : Prop where
  next : s.next = (submitted past).length
  /-- Every ticket has the errand that was handed in under its number. -/
  errands : ∀ t ∈ s.tickets ended, (submitted past)[t.number]? = some t.errand
  once : ((s.tickets ended).map (·.number)).Nodup
  /-- No ticket is lost, unless the task has walked away. -/
  handedIn : ∀ number < s.next,
    number ∈ (s.tickets ended).map (·.number) ∨ .abandon number ∈ past
  /-- With the lock free, the session is where the ended tickets lead it. -/
  free : s.holder = none → (alone b m ended).2.Agrees s.machine
  /-- With the lock taken, what is left of the holder's errand leads where all of it leads alone. -/
  midway : ∀ holder, s.holder = some holder →
    (holder.progress.complete b s.machine).1 =
        (holder.ticket.errand.perform b (alone b m ended).2).1 ∧
      (holder.ticket.errand.perform b (alone b m ended).2).2.Agrees
        (holder.progress.complete b s.machine).2
  /-- Results on their way are those of the ended tickets. -/
  results : ∀ result ∈ delivered ++ s.finished, result ∈ (alone b m ended).1
  resultsOnce : ((delivered ++ s.finished).map (·.1)).Nodup
  /-- No result is lost, unless the task has walked away. -/
  kept : ∀ t ∈ ended, t.number ∈ (delivered ++ s.finished).map (·.1) ∨ .abandon t.number ∈ past
  walked : ∀ number ∈ s.abandoned, .abandon number ∈ past

theorem Accounts.start (b : Backend H W) (m : Machine H W) : Accounts b m [] [] [] (ofMachine m) where
  next := rfl
  errands := by simp [tickets, held, ofMachine]
  once := List.nodup_nil
  handedIn := by simp [ofMachine]
  free _ := .refl m
  midway := by simp [ofMachine]
  results := by simp [ofMachine]
  resultsOnce := List.nodup_nil
  kept := by simp
  walked := by simp [ofMachine]

namespace Accounts

variable {past : List Step} {ended : List Ticket} {delivered : List (Nat × Except DbError Response)}

/-- The numbers that were given out are those below the next. -/
theorem number_lt (h : Accounts b m past ended delivered s) {t : Ticket} (ht : t ∈ s.tickets ended) :
    t.number < (submitted past).length :=
  (List.getElem?_eq_some_iff.mp (h.errands t ht)).1

theorem waitingOnce (h : Accounts b m past ended delivered s) : (s.waiting.map (·.number)).Nodup :=
  ((List.sublist_append_right _ _).map _).nodup h.once

theorem finishedOnce (h : Accounts b m past ended delivered s) : (s.finished.map (·.1)).Nodup :=
  ((List.sublist_append_right _ _).map _).nodup h.resultsOnce

theorem number_of_result (h : Accounts b m past ended delivered s)
    {result : Nat × Except DbError Response} (hresult : result ∈ delivered ++ s.finished) :
    result.1 ∈ ended.map (·.number) := by
  rw [← alone_numbers b m ended]
  exact List.mem_map_of_mem (h.results result hresult)

/-- A step that hands nothing in and touches no part of the account. -/
theorem unchanged (h : Accounts b m past ended delivered s) (step : Step)
    (hstep : submitted [step] = []) : Accounts b m (past ++ [step]) ended delivered s where
  next := by rw [submitted_append, hstep, List.append_nil, h.next]
  errands t ht := by
    rw [submitted_append, hstep, List.append_nil]
    exact h.errands t ht
  once := h.once
  handedIn number hnumber := (h.handedIn number hnumber).imp_right (List.mem_append_left _)
  free := h.free
  midway := h.midway
  results := h.results
  resultsOnce := h.resultsOnce
  kept t ht := (h.kept t ht).imp_right (List.mem_append_left _)
  walked n hn := List.mem_append_left _ (h.walked n hn)

theorem submit (h : Accounts b m past ended delivered s) (errand : Errand) :
    Accounts b m (past ++ [.submit errand]) ended delivered (s.submit errand) := by
  have htickets : (s.submit errand).tickets ended = s.tickets ended ++ [⟨s.next, errand⟩] := by
    simp [tickets, held, Shared.submit]
  have hsubmitted : submitted (past ++ [.submit errand]) = submitted past ++ [errand] :=
    submitted_append past _
  exact { h with
    next := by
      rw [hsubmitted, List.length_append, ← h.next]
      rfl
    errands := fun t ht => by
      rw [htickets] at ht
      rw [hsubmitted]
      rcases List.mem_append.mp ht with ht | ht
      · rw [List.getElem?_append_left (h.number_lt ht)]
        exact h.errands t ht
      · obtain rfl := List.mem_singleton.mp ht
        rw [h.next, List.getElem?_concat_length]
    once := by
      rw [htickets, List.map_append, List.nodup_append]
      refine ⟨h.once, by simp, ?_⟩
      intro number hnumber number' hnumber'
      obtain ⟨t, ht, rfl⟩ := List.mem_map.mp hnumber
      obtain rfl := List.mem_singleton.mp hnumber'
      have hlt := h.number_lt ht
      rw [← h.next] at hlt
      exact Nat.ne_of_lt hlt
    handedIn := fun number hnumber => by
      rw [htickets, List.map_append]
      rcases Nat.lt_succ_iff_lt_or_eq.mp hnumber with hlt | rfl
      · exact (h.handedIn number hlt).imp (List.mem_append_left _) (List.mem_append_left _)
      · exact .inl (List.mem_append_right _ (List.mem_singleton.mpr rfl))
    kept := fun t ht => (h.kept t ht).imp_right (List.mem_append_left _)
    walked := fun n hn => List.mem_append_left _ (h.walked n hn) }

theorem abandon (h : Accounts b m past ended delivered s) (number : Nat) :
    Accounts b m (past ++ [.abandon number]) ended delivered (s.abandon number) := by
  have h := h.unchanged (.abandon number) rfl
  have htickets : List.Sublist ((s.abandon number).tickets ended) (s.tickets ended) :=
    .append_left List.filter_sublist _
  have hresults :
      List.Sublist (delivered ++ (s.abandon number).finished) (delivered ++ s.finished) :=
    .append_left List.filter_sublist _
  have hleft : .abandon number ∈ past ++ [.abandon number] := by simp
  exact { h with
    errands := fun t ht => h.errands t (htickets.mem ht)
    once := (htickets.map _).nodup h.once
    results := fun r hr => h.results r (hresults.mem hr)
    resultsOnce := (hresults.map _).nodup h.resultsOnce
    -- What goes belongs to the task that walks away.
    handedIn := fun n hn => by
      by_cases hnumber : n = number
      · exact .inr (hnumber ▸ hleft)
      · exact (h.handedIn n hn).imp_left (mem_map_of_kept Ticket.number hnumber)
    kept := fun t ht => by
      by_cases hnumber : t.number = number
      · exact .inr (hnumber ▸ hleft)
      · exact (h.kept t ht).imp_left (mem_map_of_kept Prod.fst hnumber)
    walked := fun n hn => by
      simp only [Shared.abandon] at hn
      split at hn
      · rcases List.mem_cons.mp hn with rfl | hn
        · exact hleft
        · exact h.walked n hn
      · exact h.walked n hn }

theorem acquire (h : Accounts b m past ended delivered s) (number : Nat) :
    Accounts b m (past ++ [.acquire number]) ended delivered (s.acquire number) := by
  have h := h.unchanged (.acquire number) rfl
  unfold Shared.acquire
  split
  · exact h
  · next ticket hgranted =>
      obtain ⟨hfree, hwaiting, rfl⟩ := granted?_eq_some hgranted
      let granted : Shared H W :=
        { s with
          holder := some ⟨ticket, .left ticket.errand⟩
          waiting := s.waiting.filter (·.number != ticket.number) }
      have hperm : (granted.tickets ended).Perm (s.tickets ended) := by
        have hmoved := perm_moved Ticket.number ended hwaiting h.waitingOnce
        simpa [granted, tickets, held, hfree] using hmoved
      exact { h with
        errands := fun t ht => h.errands t (hperm.mem_iff.mp ht)
        once := (hperm.map _).nodup_iff.mpr h.once
        handedIn := fun n hn => (h.handedIn n hn).imp_left (hperm.map _).mem_iff.mpr
        free := fun hnone => by cases hnone
        -- Nothing has been done yet, so all of the errand is left.
        midway := by
          rintro holder hholder
          cases hholder
          exact Errand.perform_agrees (h.free hfree) b ticket.errand }

theorem work (h : Accounts b m past ended delivered s) :
    Accounts b m (past ++ [.work]) ended delivered (s.work b) := by
  have h := h.unchanged (.work) rfl
  cases hholder : s.holder with
  | none =>
      rw [Shared.work, hholder]
      exact h
  | some holder =>
      have hwork := work_of_holder b hholder
      have htickets : (s.work b).tickets ended = s.tickets ended := by
        simp [hwork, tickets, held, hholder]
      rw [hwork] at htickets ⊢
      exact { h with
        errands := htickets ▸ h.errands
        once := htickets ▸ h.once
        handedIn := htickets ▸ h.handedIn
        free := fun hnone => by cases hnone
        midway := by
          rintro worked hworked
          cases hworked
          -- A piece more or less is done, and all of it comes to the same.
          dsimp only
          rw [Progress.complete_work]
          exact h.midway holder hholder }

/-- The holder's ticket ends, and its result goes on its way unless nobody waits for it. -/
theorem release_ended (h : Accounts b m past ended delivered s) {ticket : Ticket}
    {result : Except Stop Response} (hholder : s.holder = some ⟨ticket, .ended result⟩) :
    Accounts b m (past ++ [.release]) (ended ++ [ticket]) delivered s.release := by
  have h := h.unchanged .release rfl
  obtain ⟨hresult, hagrees⟩ := h.midway _ hholder
  have hrelease : s.release =
      { s with
        holder := none
        finished :=
          if s.abandoned.contains ticket.number then s.finished
          else s.finished ++ [(ticket.number, told result)] } := by
    rw [Shared.release, hholder]
  have htickets : s.release.tickets (ended ++ [ticket]) = s.tickets ended := by
    simp [hrelease, tickets, held, hholder]
  have halone : alone b m (ended ++ [ticket]) =
      ((alone b m ended).1 ++ [(ticket.number, told result)],
        (ticket.errand.perform b (alone b m ended).2).2) := by
    rw [alone_append]
    simp only [alone, ← hresult]
    rfl
  -- The result is added to those on their way, or the task has walked away.
  have hway : delivered ++ s.release.finished = delivered ++ s.finished ∧
        .abandon ticket.number ∈ past ++ [.release] ∨
      delivered ++ s.release.finished =
        delivered ++ s.finished ++ [(ticket.number, told result)] := by
    rw [hrelease, List.append_assoc]
    dsimp only
    split
    · next hwalked => exact .inl ⟨rfl, h.walked _ (by simpa using hwalked)⟩
    · exact .inr rfl
  -- Results bear the numbers of ended tickets, and the holder is none of them.
  have hnew : ticket.number ∉ (delivered ++ s.finished).map (·.1) := by
    intro hmem
    obtain ⟨r, hr, heq⟩ := List.mem_map.mp hmem
    have hended := h.number_of_result hr
    rw [heq] at hended
    have honce := h.once
    simp only [tickets, held, hholder, Option.map_some, Option.toList_some, List.append_assoc,
      List.map_append, List.nodup_append] at honce
    exact honce.2.2 _ hended _ (by simp) rfl
  exact {
    next := hrelease ▸ h.next
    errands := htickets ▸ h.errands
    once := htickets ▸ h.once
    handedIn := by
      rw [htickets, hrelease]
      exact h.handedIn
    free := fun _ => by
      rw [halone, hrelease]
      exact hagrees
    midway := fun holder hnone => by
      rw [hrelease] at hnone
      cases hnone
    results := by
      rw [halone]
      have hold := fun r hr => List.mem_append_left [(ticket.number, told result)] (h.results r hr)
      obtain ⟨hsame, -⟩ | hmore := hway
      · rwa [hsame]
      · rw [hmore]
        intro r hr
        exact (List.mem_append.mp hr).elim (hold r) (List.mem_append_right _)
    resultsOnce := by
      obtain ⟨hsame, -⟩ | hmore := hway
      · rw [hsame]
        exact h.resultsOnce
      · rw [hmore, List.map_append, List.nodup_append]
        refine ⟨h.resultsOnce, by simp, ?_⟩
        rintro number hnumber _ hsingle rfl
        obtain rfl := List.mem_singleton.mp hsingle
        exact hnew hnumber
    kept := fun t ht => by
      obtain ⟨hsame, hwalked⟩ | hmore := hway
      · rw [hsame]
        rcases List.mem_append.mp ht with ht | ht
        · exact h.kept t ht
        · obtain rfl := List.mem_singleton.mp ht
          exact .inr hwalked
      · rw [hmore, List.map_append]
        rcases List.mem_append.mp ht with ht | ht
        · exact (h.kept t ht).imp_left (List.mem_append_left _)
        · obtain rfl := List.mem_singleton.mp ht
          exact .inl (List.mem_append_right _ (List.mem_singleton.mpr rfl))
    walked := hrelease ▸ h.walked }

theorem release (h : Accounts b m past ended delivered s) :
    ∃ ended', ended' ++ s.release.held = ended ++ s.held ∧
      Accounts b m (past ++ [.release]) ended' delivered s.release := by
  cases hholder : s.holder with
  | none =>
      have hrelease : s.release = s := by rw [Shared.release, hholder]
      exact ⟨ended, by rw [hrelease], hrelease.symm ▸ h.unchanged .release rfl⟩
  | some holder =>
      obtain ⟨ticket, left | result⟩ := holder
      · have hrelease : s.release = s := by rw [Shared.release, hholder]
        exact ⟨ended, by rw [hrelease], hrelease.symm ▸ h.unchanged .release rfl⟩
      · refine ⟨ended ++ [ticket], ?_, h.release_ended hholder⟩
        have hfree : s.release.held = [] := by rw [Shared.release, hholder]; rfl
        rw [hfree, List.append_nil]
        simp [held, hholder]

theorem deliver (h : Accounts b m past ended delivered s) (number : Nat) :
    Accounts b m (past ++ [.deliver number]) ended
      (delivered ++ ((s.deliver number).1.map (number, ·)).toList) (s.deliver number).2 := by
  have h := h.unchanged (.deliver number) rfl
  obtain hnone | ⟨result, machine, hmem, hagrees, hsome⟩ := deliver_cases s number
  · rw [hnone]
    simpa using h
  rw [hsome]
  have hperm : (delivered ++ ((some result).map (number, ·)).toList ++
      s.finished.filter (·.1 != number)).Perm (delivered ++ s.finished) := by
    have hmoved := perm_moved Prod.fst delivered hmem h.finishedOnce
    simpa using hmoved
  exact { h with
    free := fun hfree => (h.free hfree).trans hagrees
    -- A report may come between two pieces of another errand, which does not look at it.
    midway := fun holder hholder => by
      obtain ⟨hresult, hmachine⟩ := h.midway holder hholder
      obtain ⟨hresult', hmachine'⟩ := holder.progress.complete_agrees hagrees b
      exact ⟨hresult'.trans hresult, hmachine.trans hmachine'⟩
    results := fun r hr => h.results r (hperm.mem_iff.mp hr)
    resultsOnce := (hperm.map _).nodup_iff.mpr h.resultsOnce
    kept := fun t ht => (h.kept t ht).imp_left (hperm.map _).mem_iff.mpr }

theorem step (h : Accounts b m past ended delivered s) (step : Step) :
    ∃ ended', ended' ++ (s.step b step).2.held = ended ++ s.held ++ (s.grants step).toList ∧
      Accounts b m (past ++ [step]) ended' (delivered ++ (s.step b step).1.toList)
        (s.step b step).2 := by
  have hquiet : delivered ++ (none : Option (Nat × Except DbError Response)).toList = delivered :=
    List.append_nil _
  cases step with
  | submit errand => exact ⟨ended, (List.append_nil _).symm, hquiet.symm ▸ h.submit errand⟩
  | abandon number => exact ⟨ended, (List.append_nil _).symm, hquiet.symm ▸ h.abandon number⟩
  | acquire number =>
      refine ⟨ended, ?_, hquiet.symm ▸ h.acquire number⟩
      show ended ++ (s.acquire number).held = ended ++ s.held ++ (s.granted? number).toList
      unfold Shared.acquire
      split
      · next hnone => rw [hnone, Option.toList_none, List.append_nil]
      · next ticket hgranted =>
          obtain ⟨hfree, -, -⟩ := granted?_eq_some hgranted
          simp [held, hfree, hgranted]
  | work =>
      refine ⟨ended, ?_, hquiet.symm ▸ h.work⟩
      show ended ++ (s.work b).held = ended ++ s.held ++ []
      rw [List.append_nil]
      cases hholder : s.holder with
      | none => simp [Shared.work, hholder]
      | some holder => simp [Shared.work, held, hholder]
  | release =>
      obtain ⟨ended', hended, haccounts⟩ := h.release
      exact ⟨ended', hended.trans (List.append_nil _).symm, hquiet.symm ▸ haccounts⟩
  | deliver number =>
      refine ⟨ended, ?_, h.deliver number⟩
      show ended ++ (s.deliver number).2.held = ended ++ s.held ++ []
      rw [List.append_nil]
      obtain hnone | ⟨result, machine, -, -, hsome⟩ := deliver_cases s number
      · rw [hnone]
      · rw [hsome]
        rfl

/-- Every run has an account, and the lock was given to the tickets that have ended and to the holder. -/
theorem run (b : Backend H W) (m : Machine H W) (steps : List Step) :
    ∃ ended, (ofMachine m).granted b steps = ended ++ ((ofMachine m).steps b steps).2.held ∧
      Accounts b m steps ended ((ofMachine m).steps b steps).1 ((ofMachine m).steps b steps).2 := by
  induction steps using List.reverseRecOn with
  | nil => exact ⟨[], rfl, .start b m⟩
  | append_singleton past step ih =>
      obtain ⟨ended, hgranted, haccounts⟩ := ih
      obtain ⟨ended', hended', haccounts'⟩ := haccounts.step step
      refine ⟨ended', ?_, ?_⟩
      · rw [granted_append, steps_append, hgranted]
        simp only [granted, Shared.steps, List.append_nil]
        exact hended'.symm
      · rw [steps_append]
        simpa [Shared.steps] using haccounts'

end Accounts

/-! ## Walking away -/

/-- The worker needs nobody to come to the end of its errand. -/
theorem works (b : Backend H W) {n : Nat} {ticket : Ticket} {progress : Progress}
    (hholder : s.holder = some ⟨ticket, progress⟩) (hn : progress.pieces ≤ n) :
    s.steps b (List.replicate n .work) =
      ([], { s with
        machine := (progress.complete b s.machine).2
        holder := some ⟨ticket, .ended (progress.complete b s.machine).1⟩ }) := by
  induction n generalizing s progress with
  | zero =>
      obtain ⟨result, rfl⟩ := Progress.eq_ended_of_pieces (Nat.le_zero.mp hn)
      show ([], s) = _
      rw [Progress.complete, ← hholder]
  | succ n ih =>
      have hworked : s.work b =
          { s with
            machine := (progress.work b s.machine).2
            holder := some ⟨ticket, (progress.work b s.machine).1⟩ } := work_of_holder b hholder
      have hleft : (progress.work b s.machine).1.pieces ≤ n := by
        have hpieces := Progress.pieces_work b s.machine progress
        omega
      show (s.work b).steps b (List.replicate n .work) = _
      rw [hworked, ih rfl hleft]
      dsimp only
      rw [Progress.complete_work]

/-- The session once the errand that holds the lock has come to its end. -/
def settled (b : Backend H W) (s : Shared H W) : Machine H W :=
  match s.holder with
  | none => s.machine
  | some holder => (holder.progress.complete b s.machine).2

namespace Accounts

variable {past : List Step} {ended : List Ticket} {delivered : List (Nat × Except DbError Response)}

end Accounts

/-- What a run of steps on a shared session has in common with the run of the tickets that got the lock, in
the order in which they got it, on a session that nobody else uses. -/
structure Linear (b : Backend H W) (m : Machine H W) (run : List Step) (order : List Ticket)
    (delivered : List (Nat × Except DbError Response)) (s : Shared H W) : Prop where
  /-- A ticket has the errand that was handed in under its number. -/
  errands : ∀ t ∈ order, (submitted run)[t.number]? = some t.errand
  /-- No ticket gets the lock twice. -/
  once : (order.map (·.number)).Nodup
  /-- What is delivered is what the ticket gets without sharing. -/
  results : ∀ result ∈ delivered, result ∈ (alone b m order).1
  /-- Nothing is delivered twice. -/
  deliveredOnce : (delivered.map (·.1)).Nodup
  /-- The session is where the tickets lead it, up to what is left of the errand that holds the lock. -/
  session : (alone b m order).2.Agrees (s.settled b)
  /-- A ticket that got the lock holds it still, or its result was delivered or can be, or its task walked
  away. -/
  kept : ∀ t ∈ order, t ∈ s.held ∨ t.number ∈ delivered.map (·.1) ∨ t.number ∈ s.finished.map (·.1) ∨
    .abandon t.number ∈ run
  /-- A ticket that was handed in got the lock, or waits for it still, or its task walked away. -/
  handedIn : ∀ number < (submitted run).length,
    number ∈ order.map (·.number) ∨ number ∈ s.waiting.map (·.number) ∨ .abandon number ∈ run
  /-- While the lock is free, any ticket that waits gets it for the asking, with all of its errand left. -/
  acquires : s.holder = none → ∀ t ∈ s.waiting,
    (s.step b (.acquire t.number)).2.holder = some ⟨t, .left t.errand⟩
  /-- A result that was not collected is what the ticket gets without sharing, and is to be had for the
  asking. -/
  delivers : ∀ result ∈ s.finished,
    result ∈ (alone b m order).1 ∧ (s.step b (.deliver result.1)).1 = some result
  /-- The errand that holds the lock comes to its end, whatever its task does. -/
  frees : ∃ n, (s.steps b (List.replicate n .work ++ [.release])).2.holder = none
  /-- A ticket whose task walks away before it gets the lock never gets it. -/
  cancelled : ∀ before after number, run = before ++ .abandon number :: after →
    number < (submitted before).length →
    (∀ t ∈ (ofMachine m).granted b before, t.number ≠ number) → ∀ t ∈ order, t.number ≠ number
  /-- What had the lock at some time has its place in the order for good.  A ticket whose result was
  delivered by then comes before every ticket that is handed in later. -/
  realTime : ∀ before after, run = before ++ after →
    (ofMachine m).granted b before <+: order ∧
    (∀ result ∈ ((ofMachine m).steps b before).1,
      ∃ t ∈ (ofMachine m).granted b before, t.number = result.1) ∧
    ∀ t ∈ (ofMachine m).granted b before, t.number < (submitted before).length

/-- Of a run that is over, nobody having walked away, nothing is left open.  All that was handed in has
been run once, what was delivered are the results of the run without sharing, each of them once, and the
session is where that run leads. -/
theorem Linear.complete {run : List Step} {order : List Ticket}
    {delivered : List (Nat × Except DbError Response)} (h : Linear b m run order delivered s)
    (hfree : s.holder = none) (hwaiting : s.waiting = []) (hfinished : s.finished = [])
    (hstayed : ∀ number, .abandon number ∉ run) :
    (order.map (·.number)).Perm (List.range (submitted run).length) ∧
      delivered.Perm (alone b m order).1 ∧ (alone b m order).2.Agrees s.machine := by
  have hnumbers := alone_numbers b m order
  refine ⟨?_, ?_, ?_⟩
  · refine (List.perm_ext_iff_of_nodup h.once List.nodup_range).mpr fun number => ?_
    rw [List.mem_range]
    constructor
    · intro hmem
      obtain ⟨t, ht, rfl⟩ := List.mem_map.mp hmem
      exact (List.getElem?_eq_some_iff.mp (h.errands t ht)).1
    · intro hlt
      rcases h.handedIn number hlt with hmem | hmem | hwalked
      · exact hmem
      · simp [hwaiting] at hmem
      · exact absurd hwalked (hstayed number)
  · have haloneOnce : ((alone b m order).1.map (·.1)).Nodup := hnumbers ▸ h.once
    refine (List.perm_ext_iff_of_nodup (.of_map _ h.deliveredOnce) (.of_map _ haloneOnce)).mpr
      fun result => ⟨h.results result, fun hresult => ?_⟩
    have hnumber : result.1 ∈ order.map (·.number) := hnumbers ▸ List.mem_map_of_mem hresult
    obtain ⟨t, ht, heq⟩ := List.mem_map.mp hnumber
    have hkept := h.kept t ht
    simp only [held, hfree, hfinished, hstayed, Option.map_none, Option.toList_none, List.map_nil,
      List.not_mem_nil, false_or, or_false] at hkept
    obtain ⟨told, htold, htoldNumber⟩ := List.mem_map.mp hkept
    -- Two results of one number in the run without sharing are the same.
    have hsame : told = result :=
      List.inj_on_of_nodup_map haloneOnce (h.results told htold) hresult (htoldNumber.trans heq)
    exact hsame ▸ htold
  · have hsession := h.session
    rwa [settled, hfree] at hsession

end OpenSql.Shared
