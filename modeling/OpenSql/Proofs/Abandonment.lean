/-
# OpenSql.Proofs.Abandonment — nothing of an abandoned transaction survives.

While a transaction is open, statements change the working copy and leave the common store alone.  What
ends the transaction without a commit, be it a rollback, the end of the session or another connection in
its place, comes to the rollback of the backend, and but for the first the handle is closed after it.  So the
common store is in the end what it was at the beginning, whatever the statements between have done and
however they have failed.
-/
import OpenSql.Proofs.Lifecycle
import OpenSql.Proofs.Storage

namespace OpenSql

variable {H W S : Type}

/-! ## Backends with transactions -/

/-- A backend that keeps what a transaction does apart.  Nothing is said of what statements do to what
they see, nor of whether they succeed, but they neither begin nor end a transaction; the texts of which
that holds are the plain ones. -/
structure Backend.Transactional (b : Backend H W) (storage : Storage H W S) (plain : String → Prop)
    (read : String → S → Reply (List Row)) : Prop where
  opens : ∀ config w, storage.committed (b.openHandle config w).2 = storage.committed w
  begins : ∀ {h w}, b.inTransaction h w = false → ∃ h' w', b.begin h w = (.done (), h', w') ∧
    b.inTransaction h' w' = true ∧ storage.committed w' = storage.committed w
  /-- A rollback succeeds, and the working copy is gone. -/
  rollsBack : ∀ {h w}, b.inTransaction h w = true → ∃ h' w', b.rollback h w = (.done (), h', w') ∧
    b.inTransaction h' w' = false ∧ storage.committed w' = storage.committed w
  closes : ∀ h w, storage.committed (b.close h w).2 = storage.committed w
  /-- A plain statement leaves the flag alone. -/
  keepsFlag : ∀ {call sql place next}, call.text? = some sql → plain sql →
    b.act place call = some next → b.inTransaction next.1 next.2 = b.inTransaction place.1 place.2
  /-- Within a transaction a plain statement works on the copy. -/
  keepsApart : ∀ {call sql place next}, call.text? = some sql → plain sql →
    b.act place call = some next → b.inTransaction place.1 place.2 = true →
    storage.committed next.2 = storage.committed place.2
  /-- The answer of a query is read from what the handle sees. -/
  reads : ∀ {sql h w}, plain sql → (b.query sql h w).1 = read sql (storage.visible b h w)

namespace Ledger

/-- Entering a text that is not fatal neither begins nor ends a transaction, and enters it in one place. -/
theorem enter_apart {α : Type} {answer : α} {sql : String} (hsql : isFatal sql = false)
    (own : Option Texts) (all : Texts) :
    (enter answer sql own all).2.1.isSome = own.isSome ∧
      (own.isSome = true → (enter answer sql own all).2.2 = all) := by
  cases own with
  | none =>
      by_cases hheld : sql ∈ all <;> simp [enter, hheld]
  | some texts =>
      by_cases hheld : sql ∈ texts <;> simp [enter, hheld, hsql]

/-- The ledger is a backend with transactions. -/
theorem transactional : backend.Transactional storage (fun sql => isFatal sql = false)
    (fun _ texts => .done (rows texts)) where
  opens _ _ := rfl
  begins {own all} hflag := by
    cases own with
    | none => exact ⟨some all, all, rfl, rfl, rfl⟩
    | some texts => cases hflag
  rollsBack {own all} hflag := by
    cases own with
    | none => cases hflag
    | some texts => exact ⟨none, all, rfl, rfl, rfl⟩
  closes _ _ := rfl
  keepsFlag {call sql place next} htext hsql hact := by
    cases call with
    | executeBatch text =>
        cases htext
        cases hact
        exact (enter_apart hsql place.1 place.2).1
    | execute text =>
        cases htext
        cases hact
        exact (enter_apart hsql place.1 place.2).1
    | query text =>
        cases hact
        rfl
    | _ => cases htext
  keepsApart {call sql place next} htext hsql hact hflag := by
    cases call with
    | executeBatch text =>
        cases htext
        cases hact
        exact (enter_apart hsql place.1 place.2).2 hflag
    | execute text =>
        cases htext
        cases hact
        exact (enter_apart hsql place.1 place.2).2 hflag
    | query text =>
        cases hact
        rfl
    | _ => cases htext
  reads {sql own all} _ := by
    cases own <;> rfl

end Ledger

/-- A request that goes on with a transaction: statements with plain texts, and beginning it again. -/
def Request.Continues (plain : String → Prop) (request : Request) : Prop :=
  request = .begin ∨ request.keepsHandle = true ∧
    ∀ call, request.Asks call → ∃ sql, call.text? = some sql ∧ plain sql

/-- A text whose query leaves the common store alone. -/
def Backend.ReadsOnly (b : Backend H W) (storage : Storage H W S) (sql : String) : Prop :=
  ∀ h w, b.inTransaction h w = false → storage.committed (b.query sql h w).2.2 = storage.committed w

section

variable {b : Backend H W} {storage : Storage H W S} {plain : String → Prop}
  {read : String → S → Reply (List Row)} {m : Machine H W} {h : H} {store : S}

/-! ## What goes on within the transaction -/

/-- Plain statements within a transaction keep it open and leave the common store alone. -/
theorem Backend.Transactional.replay (hb : b.Transactional storage plain read) {calls : List Call}
    {place next : H × W} (hplain : ∀ call ∈ calls, ∃ sql, call.text? = some sql ∧ plain sql)
    (hreplay : b.replay place calls = some next) (hflag : b.inTransaction place.1 place.2 = true) :
    b.inTransaction next.1 next.2 = true ∧
      storage.committed next.2 = storage.committed place.2 := by
  induction calls generalizing place with
  | nil =>
      obtain rfl : place = next := Option.some.inj hreplay
      exact ⟨hflag, rfl⟩
  | cons call calls ih =>
      -- The open flag is what the law on the next statement asks for.
      obtain ⟨sql, htext, hsql⟩ := hplain call List.mem_cons_self
      obtain ⟨between, hact, hrest⟩ := Option.bind_eq_some_iff.mp hreplay
      have hflag' := hb.keepsFlag htext hsql hact
      have happart := hb.keepsApart htext hsql hact hflag
      obtain ⟨hopen, hcommitted⟩ := ih (fun c hc => hplain c (List.mem_cons_of_mem call hc)) hrest
        (hflag'.trans hflag)
      exact ⟨hopen, hcommitted.trans happart⟩

theorem Machine.Stands.perform (hb : b.Transactional storage plain read)
    (hm : m.Stands b storage true store h) {request : Request} (hcontinues : request.Continues plain) :
    ∃ h', (m.perform b request).2.Stands b storage true store h' := by
  obtain rfl | ⟨hkeeps, hplain⟩ := hcontinues
  · -- The transaction is open, so beginning it again calls nobody.
    have hopen : (m.line h).inTransaction b = true := hm.flag
    rw [Machine.perform_run]
    refine ⟨h, ?_⟩
    simp only [Session.begin]
    rw [Session.connected_run_of_some hm.handle, Line.begin_run_of_open hopen]
    exact ⟨rfl, hm.flag, hm.committed⟩
  · obtain ⟨h', calls, hhandle, hasks, -, hreplay⟩ := (m.perform_follows b hkeeps).ofSome h hm.handle
    obtain ⟨hopen, hcommitted⟩ :=
      hb.replay (fun call hcall => hplain call (hasks call hcall)) hreplay hm.flag
    exact ⟨h', hhandle, hopen, hcommitted.trans hm.committed⟩

theorem Machine.Stands.performAll (hb : b.Transactional storage plain read)
    (hm : m.Stands b storage true store h) {requests : List Request}
    (hcontinues : ∀ request ∈ requests, request.Continues plain) :
    ∃ h', (m.performAll b requests).2.Stands b storage true store h' := by
  have hstep (request : Request) (hrequest : request ∈ requests) (m : Machine H W)
      (hin : ∃ h', m.Stands b storage true store h') :
      ∃ h', (m.perform b request).2.Stands b storage true store h' := by
    obtain ⟨h', hwithin⟩ := hin
    exact hwithin.perform hb (hcontinues request hrequest)
  exact Machine.performAll_preserves b m hstep ⟨h, hm⟩

/-! ## What ends the transaction -/

theorem Machine.Stands.rollback (hb : b.Transactional storage plain read)
    (hm : m.Stands b storage true store h) :
    (m.perform b .rollback).1 = .ok .done ∧
      ∃ h', (m.perform b .rollback).2.Stands b storage false store h' := by
  have hopen : (m.line h).inTransaction b = true := hm.flag
  obtain ⟨h', w', hcall, hclosed, hcommitted⟩ := hb.rollsBack hm.flag
  simp only [Machine.perform_run, Session.rollback]
  rw [Session.connected_run_of_some hm.handle, Line.rollback_run_of_open hopen]
  simp only [Machine.line, hcall]
  exact ⟨rfl, h', rfl, hclosed, hcommitted.trans hm.committed⟩

/-- A handle can be given up in one way alone: what was done on it is rolled back, and it is closed. -/
structure Backend.OnlyAbandons (b : Backend H W) (h : H) (w : W) (told : Except Stop Unit) (left : W) :
    Prop where
  reached : Teardown b h w [.rollback, .close] told left
  only : ∀ {calls : List Call} {told' : Except Stop Unit} {w' : W}, Teardown b h w calls told' w' →
    calls = [.rollback, .close] ∧ told' = told ∧ w' = left

/-- Giving up a handle within a transaction takes the working copy with it. -/
theorem Backend.Transactional.teardown (hb : b.Transactional storage plain read) {w : W}
    (hflag : b.inTransaction h w = true) :
    ∃ told left, b.OnlyAbandons h w told left ∧ storage.committed left = storage.committed w := by
  obtain ⟨h₁, w₁, hcall, -, hcommitted⟩ := hb.rollsBack hflag
  rcases hclose : b.close h₁ w₁ with ⟨reply, left⟩
  have hcloses := hb.closes h₁ w₁
  rw [hclose] at hcloses
  refine ⟨_, left, ⟨.rolledBack hflag hcall (by simp) hclose, fun hteardown => ?_⟩, hcloses.trans hcommitted⟩
  cases hteardown with
  | closed hflag' =>
      rw [hflag] at hflag'
      cases hflag'
  | rolledBack _ hroll _ hclose' =>
      rw [hcall] at hroll
      cases hroll
      rw [hclose] at hclose'
      cases hclose'
      exact ⟨rfl, rfl, rfl⟩
  | lost _ hroll =>
      rw [hcall] at hroll
      cases hroll

/-- A machine without a handle, the transaction of the handle before having been rolled back. -/
structure Machine.Abandons (m : Machine H W) (left : W) (m' : Machine H W) : Prop where
  handle : m'.session.handle = none
  world : m'.world = left
  calls : Event.calls m'.events = Event.calls m.events ++ [.rollback, .close]

namespace Backend.OnlyAbandons

variable {told : Except Stop Unit} {left : W}

theorem givesUp (hends : b.OnlyAbandons h m.world told left) {told' : Except Stop Unit}
    {m' : Machine H W} (hgone : m.GivesUp b h told' m') : told' = told ∧ m.Abandons left m' := by
  obtain ⟨calls, hteardown, hcalls⟩ := hgone.calls
  obtain ⟨rfl, rfl, hworld⟩ := hends.only hteardown
  exact ⟨rfl, hgone.handle, hworld, hcalls⟩

theorem disconnect (hends : b.OnlyAbandons h m.world told left) (hm : m.session.handle = some h) :
    (m.perform b .disconnect).1 = (told.map fun _ => .done) ∧
      m.Abandons left (m.perform b .disconnect).2 := by
  obtain ⟨htold, hgone⟩ := hends.givesUp (Session.disconnect_givesUp hm)
  rw [Machine.perform_run, ← htold]
  exact ⟨rfl, hgone⟩

theorem drop (hends : b.OnlyAbandons h m.world told left) (hm : m.session.handle = some h) :
    m.Abandons left (m.drop b).2 := by
  obtain ⟨told', hgone, -⟩ := Session.release_givesUp (b := b) hm
  exact (hends.givesUp hgone).2

/-- The new handle is asked for when the old one is closed, if the closing comes back. -/
theorem connect (hends : b.OnlyAbandons h m.world told left) (hm : m.session.handle = some h) :
    let opened := b.openHandle m.session.config left
    let replaced := (m.perform b .connect).2
    (told = .error .crash → m.Abandons left replaced) ∧
      (told ≠ .error .crash → replaced.session.handle = opened.1.given? ∧ replaced.world = opened.2 ∧
        Event.calls replaced.events = Event.calls m.events ++
          [.rollback, .close, .openHandle m.session.config.database]) := by
  intro opened replaced
  obtain ⟨result, hconnects, -⟩ := m.perform_connects b
  cases hconnects with
  | lost hreleases hnone hcalls =>
      obtain ⟨rfl, rfl, hworld⟩ := hends.only (hreleases.teardown hm)
      exact ⟨fun _ => ⟨hnone, hworld, hcalls⟩, fun hback => absurd rfl hback⟩
  | asked hreleases hback hopen hhandle _ hcalls =>
      obtain ⟨rfl, rfl, rfl⟩ := hends.only (hreleases.teardown hm)
      have hopened : opened = _ := hopen
      rw [hopened]
      exact ⟨fun hcrash => absurd hcrash hback, fun _ => ⟨hhandle, rfl, hcalls⟩⟩

end Backend.OnlyAbandons

/-- Another connection in the place of the old one leaves the common store alone as well. -/
theorem Backend.Transactional.connect (hb : b.Transactional storage plain read)
    {told : Except Stop Unit} {left : W} (hends : b.OnlyAbandons h m.world told left)
    (hm : m.session.handle = some h) :
    storage.committed (m.perform b .connect).2.world = storage.committed left := by
  obtain ⟨hlost, hasked⟩ := hends.connect hm
  by_cases hcrash : told = .error .crash
  · rw [(hlost hcrash).world]
  · rw [(hasked hcrash).2.1]
    exact hb.opens m.session.config left

/-! ## What is seen afterwards -/

/-- A select outside a transaction answers from the common store. -/
theorem Machine.Stands.select (hb : b.Transactional storage plain read)
    (hm : m.Stands b storage false store h) {options : SelectOptions}
    (hplain : plain options.sql) :
    (m.perform b (.select options)).1 =
      (m.session.queried
        (read options.sql store)).map .rows := by
  have hanswer := hb.reads (h := h) (w := m.world) hplain
  rw [Storage.visible, if_neg (by simp [hm.flag]), hm.committed] at hanswer
  rw [Machine.perform_run]
  simp only
  rw [Session.select_run_of_some hm.handle]
  simp only [hanswer]

/-- A select that only reads leaves everything as it stands. -/
theorem Machine.Stands.perform_select (hb : b.Transactional storage plain read)
    (hm : m.Stands b storage false store h) {options : SelectOptions}
    (hplain : plain options.sql)
    (hreads : b.ReadsOnly storage options.sql) :
    ∃ h', (m.perform b (.select options)).2.Stands b storage false store h' := by
  have hact : b.act (h, m.world) (.query options.sql) = some (b.query options.sql h m.world).2 := rfl
  have hflag := hb.keepsFlag rfl hplain hact
  have hcommitted := hreads h m.world hm.flag
  rw [Machine.perform_run]
  simp only
  rw [Session.select_run_of_some hm.handle]
  exact ⟨_, rfl, hflag.trans hm.flag, hcommitted.trans hm.committed⟩

theorem Machine.Stands.performAll_select (hb : b.Transactional storage plain read)
    (hm : m.Stands b storage false store h) {reads : List SelectOptions}
    (hreads : ∀ options ∈ reads, plain options.sql ∧
      b.ReadsOnly storage options.sql) :
    ∃ h', (m.performAll b (reads.map .select)).2.Stands b storage false store h' := by
  have hstep (request : Request) (hrequest : request ∈ reads.map .select) (m : Machine H W)
      (hin : ∃ h', m.Stands b storage false store h') :
      ∃ h', (m.perform b request).2.Stands b storage false store h' := by
    obtain ⟨options, hoptions, rfl⟩ := List.mem_map.mp hrequest
    obtain ⟨h', hstands⟩ := hin
    obtain ⟨hplain, honly⟩ := hreads options hoptions
    exact hstands.perform_select hb hplain honly
  exact Machine.performAll_preserves b m hstep ⟨h, hm⟩

/-! ## Abandoning a transaction -/

theorem Machine.Stands.begin (hb : b.Transactional storage plain read)
    (hm : m.Stands b storage false store h) :
    (m.perform b .begin).1 = .ok .done ∧
      ∃ h', (m.perform b .begin).2.Stands b storage true store h' := by
  have hclosed : (m.line h).inTransaction b = false := hm.flag
  obtain ⟨h', w', hcall, hopen, hcommitted⟩ := hb.begins hm.flag
  simp only [Machine.perform_run, Session.begin]
  rw [Session.connected_run_of_some hm.handle, Line.begin_run_of_closed hclosed]
  simp only [Machine.line, hcall]
  exact ⟨rfl, h', rfl, hopen, hcommitted.trans hm.committed⟩

end

/-- A transaction that is begun, goes on with any plain statements and is then rolled back, or ended by a
disconnection, by another connection or with the session, leaves the common store as it was.  The last
three roll back what was done on the handle and close it, and the session holds it no longer.  After the
rollback every select answers from the common store, also when others have read before it. -/
theorem abandoned_leaves_no_trace {b : Backend H W} {storage : Storage H W S} {plain : String → Prop}
    {read : String → S → Reply (List Row)} (hb : b.Transactional storage plain read)
    {m : Machine H W} {h : H} (hhandle : m.session.handle = some h)
    (hflag : b.inTransaction h m.world = false) {requests : List Request}
    (hcontinues : ∀ request ∈ requests, request.Continues plain) :
    let store := storage.committed m.world
    let begun := m.perform b .begin
    let inside := (begun.2.performAll b requests).2
    let rolledBack := inside.perform b .rollback
    let gone := inside.perform b .disconnect
    let replaced := inside.perform b .connect
    begun.1 = .ok .done ∧ rolledBack.1 = .ok .done ∧
    storage.committed rolledBack.2.world = store ∧
    storage.committed gone.2.world = store ∧
    storage.committed replaced.2.world = store ∧
    storage.committed (inside.drop b).2.world = store ∧
    (∃ last told left, inside.session.handle = some last ∧
      Teardown b last inside.world [.rollback, .close] told left ∧
      gone.1 = (told.map fun _ => .done) ∧ inside.Abandons left gone.2 ∧
      inside.Abandons left (inside.drop b).2 ∧
      (told = .error .crash → inside.Abandons left replaced.2) ∧
      (told ≠ .error .crash →
        let opened := b.openHandle inside.session.config left
        replaced.2.session.handle = opened.1.given? ∧ replaced.2.world = opened.2 ∧
          Event.calls replaced.2.events = Event.calls inside.events ++
            [.rollback, .close, .openHandle inside.session.config.database])) ∧
    ∀ (earlier : List SelectOptions) (options : SelectOptions),
      (∀ o ∈ earlier, plain o.sql ∧
        b.ReadsOnly storage o.sql) →
      plain options.sql →
      let settled := (rolledBack.2.performAll b (earlier.map .select)).2
      (settled.perform b (.select options)).1 =
        (settled.session.queried
          (read options.sql store)).map .rows := by
  intro store begun inside rolledBack gone replaced
  have hm : m.Stands b storage false store h := ⟨hhandle, hflag, rfl⟩
  obtain ⟨hbegun, h₁, hbegan⟩ := hm.begin hb
  obtain ⟨h₂, hinside⟩ := hbegan.performAll hb hcontinues
  obtain ⟨hrolled, h₃, hafter⟩ := hinside.rollback hb
  obtain ⟨told, left, hends, hcommitted⟩ := hb.teardown hinside.flag
  have hleft : storage.committed left = store := hcommitted.trans hinside.committed
  obtain ⟨hresult, hgone⟩ := hends.disconnect hinside.handle
  have hdropped := hends.drop hinside.handle
  have hreplaced := hends.connect hinside.handle
  have hconnect := hb.connect hends hinside.handle
  refine ⟨hbegun, hrolled, hafter.committed, hgone.world ▸ hleft, hconnect.trans hleft,
    hdropped.world ▸ hleft, ⟨h₂, told, left, hinside.handle, hends.reached, hresult, hgone, hdropped,
      hreplaced⟩, ?_⟩
  intro earlier options hearlier hplain settled
  obtain ⟨h₄, hsettled⟩ := hafter.performAll_select hb hearlier
  exact hsettled.select hb hplain

namespace Ledger

/-- A session on a ledger with one text. -/
def session : Machine (Option Texts) Texts :=
  ((Machine.start {} none ["old"]).perform backend .connect).2

/-- An insertion, the same once more and refused, and a beginning that is ignored. -/
def abandoned : List Request :=
  [.insert ⟨"t", ["a"], ["1"]⟩, .insert ⟨"t", ["a"], ["1"]⟩, .begin]

theorem abandoned_leaves_no_trace_of_insertions :
    ((((session.perform backend .begin).2.performAll backend abandoned).2.perform backend
      .rollback).2.world) = ["old"] := by
  have hcontinues : ∀ request ∈ abandoned, request.Continues fun sql => isFatal sql = false := by
    have hinsert : (Request.insert ⟨"t", ["a"], ["1"]⟩).Continues fun sql => isFatal sql = false :=
      .inr ⟨rfl, by rintro call rfl; exact ⟨_, rfl, by decide⟩⟩
    simp only [abandoned, List.forall_mem_cons, List.not_mem_nil]
    exact ⟨hinsert, hinsert, .inl rfl, fun _ h => h.elim⟩
  have hhandle : session.session.handle = some none := rfl
  have hflag : backend.inTransaction none session.world = false := rfl
  exact (abandoned_leaves_no_trace transactional hhandle hflag hcontinues).2.2.1

end Ledger

end OpenSql
