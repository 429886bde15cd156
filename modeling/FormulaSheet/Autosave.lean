import FormulaSheet.Store.Basic

/-!
Saving in the background. Requests wait until a quiet moment or until they are flushed; those for
one table are merged while they wait. A request that arrives while a save of its table is under way
cancels that save, and a cancelled save waits again, below what arrives later.
-/

namespace FormulaSheet

/-- An update that is to be saved. -/
structure SaveRequest where
  owner : String
  id : String
  update : Update
  deriving DecidableEq, Repr

/-- What happens while one save is under way. -/
structure Flight where
  /-- The save is cancelled before the store sees it. -/
  cancelled : Bool := false
  /-- The store fails. -/
  failure : Option Error := none
  arrivals : List SaveRequest := []
  deriving DecidableEq, Repr

/-- Whether a save of a table is cancelled. -/
def Flight.cancels (f : Flight) (id : String) : Bool :=
  f.cancelled || f.arrivals.any fun r => r.id == id

/-- A save that was made, or why it was not. -/
structure SaveReport where
  request : SaveRequest
  failure : Option Error := none
  deriving DecidableEq, Repr

/-- What the saver is told. -/
inductive Message where
  | save (request : SaveRequest)
  | flush
  deriving DecidableEq, Repr

/-- A saver with its store. -/
structure Autosaver (σ : Type) where
  store : σ
  /-- The requests that wait, at most one for each owner and table. -/
  pending : List SaveRequest := []
  /-- What the saver was told and has not heard yet. -/
  inbox : List Message := []
  /-- What will happen during the coming saves; nothing will happen during later ones. -/
  flights : List Flight := []
  /-- The saves that were made, the latest first. -/
  reports : List SaveReport := []

namespace Autosaver

/-- Adds a request to those that wait. -/
def enqueue (r : SaveRequest) : List SaveRequest → List SaveRequest
  | [] => [r]
  | p :: ps =>
    if p.id = r.id ∧ p.owner = r.owner then { p with update := p.update.merge r.update } :: ps
    else p :: enqueue r ps

/-- Tells the saver to save something. -/
def schedule (a : Autosaver σ) (r : SaveRequest) : Autosaver σ :=
  { a with inbox := a.inbox ++ [.save r] }

variable [TableStore σ]

/-- Tries to make one save. -/
def attempt (o : Occasion) (f : Flight) (r : SaveRequest) (store : σ) : Except Error σ :=
  match f.failure with
  | some e => .error e
  | none => TableStore.save o r.owner r.id r.update (f.cancels r.id) store

/-- Makes one save. -/
def saveOne (o : Occasion) (a : Autosaver σ) (r : SaveRequest) : Autosaver σ :=
  let f := a.flights.headD {}
  let a := { a with flights := a.flights.tail, inbox := a.inbox ++ f.arrivals.map Message.save }
  match attempt o f r a.store with
  | .ok store => { a with store := store, reports := ⟨r, none⟩ :: a.reports }
  | .error e =>
    { a with
      reports := ⟨r, some e⟩ :: a.reports
      pending := if e = Error.cancelled then a.pending ++ [r] else a.pending }

/-- Saves everything that waits. What was cancelled waits again, and other failures are final. -/
def dispatch (o : Occasion) (a : Autosaver σ) : Autosaver σ :=
  (a.pending.filter fun r => !r.update.isEmpty).foldl (saveOne o) { a with pending := [] }

/-- Hears the first message. -/
def receive (o : Occasion) (a : Autosaver σ) : Autosaver σ :=
  match a.inbox with
  | [] => a
  | .save r :: rest => { a with inbox := rest, pending := enqueue r a.pending }
  | .flush :: rest => dispatch o { a with inbox := rest }

/-- How many messages there are and may still arrive. -/
def workload (a : Autosaver σ) : Nat :=
  a.flights.foldl (fun n f => n + f.arrivals.length) a.inbox.length

/-- Hears as many messages at most. -/
def receiveUpTo (o : Occasion) : Nat → Autosaver σ → Autosaver σ
  | 0, a => a
  | n + 1, a => if a.inbox.isEmpty then a else receiveUpTo o n (receive o a)

/-- Hears all messages. -/
def settle (o : Occasion) (a : Autosaver σ) : Autosaver σ := receiveUpTo o a.workload a

/-- What the saver does after a quiet moment. -/
def timeout (o : Occasion) (a : Autosaver σ) : Autosaver σ :=
  if a.inbox.isEmpty then dispatch o a else a

/-- Hears all messages up to a flush of its own, and makes that flush. Messages that arrive
meanwhile are not heard. -/
def flush (o : Occasion) (a : Autosaver σ) : Autosaver σ :=
  receive o (receiveUpTo o a.inbox.length { a with inbox := a.inbox ++ [.flush] })

/-- Lets quiet moments pass until nothing waits, so many at most. -/
def waitUpTo (o : Occasion) : Nat → Autosaver σ → Autosaver σ
  | 0, a => a
  | n + 1, a =>
    let a := settle o a
    if a.pending.isEmpty then a else waitUpTo o n (timeout o a)

/-- Lets quiet moments pass until nothing waits. Every cancelled save takes one, and what arrives
during a save takes one more. -/
def wait (o : Occasion) (a : Autosaver σ) : Autosaver σ := waitUpTo o (a.flights.length + 3) a

/-- Hears all messages and makes one last dispatch, during which nothing can arrive. -/
def close (o : Occasion) (a : Autosaver σ) : Autosaver σ :=
  let a := settle o a
  let a := dispatch o { a with flights := a.flights.map fun f => { f with arrivals := [] } }
  { a with pending := [], inbox := [] }

end Autosaver

end FormulaSheet
