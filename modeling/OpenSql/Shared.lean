/-
# OpenSql.Shared — one session used by many tasks.

Tasks hand their errands in and wait for the session's lock.  When it is free, any of them may take it; a
worker then goes on the errand and frees the lock when it has ended, and the task collects the result.  The
lock goes with the worker and not with the task.  So a task may walk away: before it has the lock its errand
is never run, afterwards the errand is run to its end all the same and nobody collects the result.  A worker
that does not come back frees the lock too, and its task gets an error of its own.

The worker makes its way through a batch script by script, and other tasks make steps meanwhile.  Which step
comes next is left open, so that what holds of every run holds of a fair lock too, whichever tasks there are
and whatever each of them asks for in turn.  A `schedule` is the run of a fair lock: the tasks take it in the
order in which they came.
-/
import OpenSql.Request

namespace OpenSql

/-! ## Errands -/

/-- A look at a session, which asks nothing of the backend. -/
inductive View where
  | isConnected
  | dbsys
  | context
  | transactionState
deriving DecidableEq

/-- What a look shows. -/
inductive Sight where
  | isConnected (connected : Bool)
  | dbsys (name : Option String)
  | context (name : String)
  | transactionState (active : Bool)
deriving DecidableEq

/-- What the session shows to a look. -/
def Session.look (b : Backend H W) (s : Session H) : View → Sight
  | .isConnected => .isConnected s.isConnected
  | .dbsys => .dbsys (s.dbsys? b)
  | .context => .context s.config.context
  | .transactionState => .transactionState s.transactions.active

/-- What a task wants of the session. -/
inductive Errand where
  | request (request : Request)
  | view (view : View)
deriving DecidableEq

/-- What a task gets for its errand. -/
inductive Response where
  | answer (answer : Answer)
  | sight (sight : Sight)

/-- How far a worker has come. -/
inductive Progress where
  /-- What is left of the errand. -/
  | left (errand : Errand)
  | ended (result : Except Stop Response)

namespace Errand

/-- Runs an errand on a session that nobody else uses. -/
def perform (b : Backend H W) (m : Machine H W) : Errand → Except Stop Response × Machine H W
  | .request asked =>
    let (result, m) := m.perform b asked
    (result.map .answer, m)
  | .view shown => (.ok (.sight (m.session.look b shown)), m)

/-- Does one piece of an errand: the next script of a batch, or all of any other errand. -/
def work (b : Backend H W) (m : Machine H W) : Errand → Progress × Machine H W
  | .request (.execute (.batch (sql :: rest))) =>
    match Session.executeOne b sql m with
    | (.ok (), m) => (.left (.request (.execute (.batch rest))), m)
    | (.error stop, m) => (.ended (.error stop), m)
  | errand =>
    let (result, m) := errand.perform b m
    (.ended result, m)

/-- The number of pieces in which an errand is over. -/
def pieces : Errand → Nat
  | .request (.execute (.batch scripts)) => scripts.length + 1
  | _ => 1

end Errand

/-- Does one more piece, if anything is left. -/
def Progress.work (b : Backend H W) (m : Machine H W) : Progress → Progress × Machine H W
  | .left errand => errand.work b m
  | .ended result => (.ended result, m)

/-! ## The session and its lock -/

/-- An errand under the number it was handed in with. -/
structure Ticket where
  number : Nat
  errand : Errand

/-- The ticket that holds the lock, with the progress of its worker. -/
structure Holder where
  ticket : Ticket
  progress : Progress

/-- A session behind a lock. -/
structure Shared (H W : Type) where
  machine : Machine H W
  /-- The number of the next ticket. -/
  next : Nat := 0
  /-- Tickets that wait for the lock, in the order in which they came. -/
  waiting : List Ticket := []
  holder : Option Holder := none
  /-- Results that have not been collected. -/
  finished : List (Nat × Except DbError Response) := []
  /-- Tickets whose tasks have walked away with the lock taken. -/
  abandoned : List Nat := []

namespace Shared

/-- One step of some task or of the worker. -/
inductive Step where
  | submit (errand : Errand)
  | abandon (number : Nat)
  | acquire (number : Nat)
  | work
  | release
  | deliver (number : Nat)
deriving DecidableEq

/-- A shared session that nobody uses. -/
def ofMachine (machine : Machine H W) : Shared H W := { machine }

/-- What a task is told about a result. -/
def told : Except Stop α → Except DbError α
  | .ok a => .ok a
  | .error (.error e) => .error e
  | .error .crash => .error .worker

/-- Lets an errand wait for the lock. -/
def submit (s : Shared H W) (errand : Errand) : Shared H W :=
  { s with next := s.next + 1, waiting := s.waiting ++ [⟨s.next, errand⟩] }

/-- Forgets a waiting ticket or an uncollected result, or marks the ticket that holds the lock. -/
def abandon (s : Shared H W) (number : Nat) : Shared H W :=
  { s with
    waiting := s.waiting.filter (·.number != number)
    finished := s.finished.filter (·.1 != number)
    abandoned :=
      if s.holder.any (·.ticket.number == number) then number :: s.abandoned else s.abandoned }

/-- The ticket that gets the lock when it asks: a waiting one, if the lock is free. -/
def granted? (s : Shared H W) (number : Nat) : Option Ticket :=
  match s.holder with
  | none => s.waiting.find? (·.number == number)
  | some _ => none

/-- Gives the lock to a waiting ticket, if it is free, and sends the worker on its errand. -/
def acquire (s : Shared H W) (number : Nat) : Shared H W :=
  match s.granted? number with
  | none => s
  | some ticket =>
    { s with
      holder := some ⟨ticket, .left ticket.errand⟩
      waiting := s.waiting.filter (·.number != number) }

/-- Does one more piece of the errand that holds the lock. -/
def work (b : Backend H W) (s : Shared H W) : Shared H W :=
  match s.holder with
  | none => s
  | some holder =>
    let (progress, machine) := holder.progress.work b s.machine
    { s with machine, holder := some { holder with progress } }

/-- Frees the lock when the errand that holds it is over. -/
def release (s : Shared H W) : Shared H W :=
  match s.holder with
  | some ⟨ticket, .ended result⟩ =>
    { s with
      holder := none
      finished :=
        if s.abandoned.contains ticket.number then s.finished
        else s.finished ++ [(ticket.number, told result)] }
  | _ => s

/-- Hands a result to its task; a worker's failure is reported on the way. -/
def deliver (s : Shared H W) (number : Nat) : Option (Except DbError Response) × Shared H W :=
  match s.finished.find? (·.1 == number) with
  | none => (none, s)
  | some (_, result) =>
    let s := { s with finished := s.finished.filter (·.1 != number) }
    match result with
    | .error .worker =>
      let (_, machine) := Session.note (.workerFailed .worker) s.machine
      (some result, { s with machine })
    | _ => (some result, s)

/-- Makes one step, with the result it delivers. -/
def step (b : Backend H W) (s : Shared H W) :
    Step → Option (Nat × Except DbError Response) × Shared H W
  | .submit errand => (none, s.submit errand)
  | .abandon number => (none, s.abandon number)
  | .acquire number => (none, s.acquire number)
  | .work => (none, s.work b)
  | .release => (none, s.release)
  | .deliver number =>
    let (result, s) := s.deliver number
    (result.map (number, ·), s)

/-- Makes steps one after another, with the results they deliver. -/
def steps (b : Backend H W) (s : Shared H W) :
    List Step → List (Nat × Except DbError Response) × Shared H W
  | [] => ([], s)
  | step :: rest =>
    let (delivered, s) := s.step b step
    let (more, s) := steps b s rest
    (delivered.toList ++ more, s)

/-- The steps of errands that are handed in together and then run. -/
def schedule (first : Nat) (errands : List Errand) : List Step :=
  errands.map .submit ++
    (errands.zipIdx first).flatMap fun (errand, number) =>
      .acquire number :: List.replicate errand.pieces .work ++ [.release, .deliver number]

/-- The answer in a result; a look gives none. -/
def answer? : Except DbError Response → Option (Except DbError Answer)
  | .ok (.answer answer) => some (.ok answer)
  | .ok (.sight _) => none
  | .error e => some (.error e)

/-- Serves requests that are handed in together; their results come in the same order. -/
def serve (b : Backend H W) (s : Shared H W) (requests : List Request) :
    List (Except DbError Answer) × Shared H W :=
  let (delivered, s) := s.steps b (schedule s.next (requests.map .request))
  (delivered.filterMap fun (_, result) => answer? result, s)

end Shared

end OpenSql
