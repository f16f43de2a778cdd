import Clearance.Monitor
import Clearance.Screening.Context
import Clearance.Service.Answer
import Clearance.Store.Basic

/-!
# Sessions and procedures

A session is all that lives while requests are served: the store with the block that may be open
on it, the compiled vocabularies kept for reuse with the generations they belong to, the clock and
the configuration, and what has been reported to the monitor. A procedure runs in a session and
comes to a result or a fault; what it has done to the session before a fault stays done.
-/

set_option autoImplicit false

namespace Clearance

/-- A compiled vocabulary. Each compilation has a serial number of its own. -/
structure Compiled where
  serial : Nat
  matcher : Word.Matcher
  deriving DecidableEq, Repr

/-- All that lives while requests are served. -/
structure Session where
  store : Store
  /-- Whether a block is open, whose changes are not final yet. -/
  inBlock : Bool
  /-- Whether a change has been refused in the open block, so that it takes no further statement. -/
  isBroken : Bool
  /-- The vocabularies touched in the open block, one for each row saved or deleted. -/
  pending : List Word.Vocabulary
  /-- The generation counters; a counter may be lost. -/
  generations : Word.PerVocabulary (Option Int)
  /-- The vocabularies compiled last, with the generations they belong to. -/
  compiled : Word.PerVocabulary (Option (Int × Compiled))
  /-- How many compilations there have been. -/
  compilations : Nat
  /-- The serial numbers of the compiled vocabularies shown last. -/
  shown : Word.PerVocabulary (Option Nat)
  /-- The seconds that have passed. -/
  clock : Int
  /-- The longest time, in seconds, that a job may take. -/
  timeLimit : Int
  backend : Word.Backend
  outages : Monitor.Outages
  /-- What has been reported and not been asked for yet. -/
  events : List Monitor.Event
  /-- The contexts that have been kept. -/
  contexts : List (String × Screening.Context)
  /-- How many jobs have been made. -/
  jobs : Nat
  /-- The answers given so far while the job that is running now waited. -/
  transcript : List Answer

namespace Session

/-- The time limit of a job where none is configured. -/
def defaultTimeLimit : Int := 7200

/-- A session in which nothing has happened. -/
def start (backend : Word.Backend) (outages : Monitor.Outages) : Session where
  store := .empty
  inBlock := false
  isBroken := false
  pending := []
  generations := .both none
  compiled := .both none
  compilations := 0
  shown := .both none
  clock := 0
  timeLimit := defaultTimeLimit
  backend := backend
  outages := outages
  events := []
  contexts := []
  jobs := 0
  transcript := []

/-- The seconds from the first of January 1970 to the start of the clock. -/
def clockStart : Int := 1705320000

/-- The day of the clock. -/
def today (session : Session) : Commodity.Day :=
  Int.fdiv (clockStart + session.clock) Commodity.Day.seconds

end Session

/-- What runs in a session and comes to a result or a fault. -/
def Proc (α : Type) : Type := Session → Except Fault α × Session

namespace Proc

variable {α β : Type}

/-- A procedure that does nothing and has a result. -/
def done (a : α) : Proc α := fun s => (.ok a, s)

/-- A procedure and what follows it unless it fails. -/
def andThen (first : Proc α) (next : α → Proc β) : Proc β := fun s =>
  match first s with
  | (.ok a, t) => next a t
  | (.error fault, t) => (.error fault, t)

instance : Monad Proc where
  pure := done
  bind := andThen

/-- A procedure that fails. -/
def fail (fault : Fault) : Proc α := fun s => (.error fault, s)

/-- A procedure that may have failed before it began. -/
def lift (result : Except Fault α) : Proc α := fun s => (result, s)

/-- What a procedure comes to, a fault included, as a result. -/
def attempt (proc : Proc α) : Proc (Except Fault α) := fun s =>
  let (result, t) := proc s
  (.ok result, t)

/-- A value of the session. -/
def ask (value : Session → α) : Proc α := fun s => (.ok (value s), s)

/-- A change of the session. -/
def alter (change : Session → Session) : Proc Unit := fun s => (.ok (), change s)

@[simp] theorem pure_apply (a : α) (s : Session) : (pure a : Proc α) s = (.ok a, s) := rfl

@[simp] theorem fail_apply (fault : Fault) (s : Session) :
    (fail fault : Proc α) s = (.error fault, s) := rfl

@[simp] theorem ask_apply (value : Session → α) (s : Session) :
    ask value s = (.ok (value s), s) := rfl

@[simp] theorem alter_apply (change : Session → Session) (s : Session) :
    alter change s = (.ok (), change s) := rfl

theorem bind_apply (first : Proc α) (next : α → Proc β) (s : Session) :
    (first >>= next) s = match first s with
      | (.ok a, t) => next a t
      | (.error fault, t) => (.error fault, t) := rfl

/-- A procedure that comes to its result goes on with what follows. -/
theorem bind_of_ok {first : Proc α} {next : α → Proc β} {s t : Session} {a : α}
    (h : first s = (.ok a, t)) : (first >>= next) s = next a t := by
  rw [bind_apply, h]

/-- A procedure that fails is not followed by anything. -/
theorem bind_of_error {first : Proc α} {next : α → Proc β} {s t : Session} {fault : Fault}
    (h : first s = (.error fault, t)) : (first >>= next) s = (.error fault, t) := by
  rw [bind_apply, h]

/-- An attempt does not fail, whatever the procedure comes to. -/
theorem attempt_of_eq {proc : Proc α} {s t : Session} {result : Except Fault α}
    (h : proc s = (result, t)) : attempt proc s = (.ok result, t) := by
  unfold attempt
  rw [h]

instance : LawfulMonad Proc := LawfulMonad.mk' Proc
  (fun x => by
    funext s
    change (x >>= fun a => pure (id a)) s = x s
    rw [bind_apply]
    cases h : x s with
    | mk result t => cases result <;> rfl)
  (fun _ _ => rfl)
  (fun x f g => by
    funext s
    rw [bind_apply, bind_apply, bind_apply]
    cases h : x s with
    | mk result t => cases result <;> rfl)

end Proc

end Clearance
