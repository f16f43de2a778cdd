import Clearance.CommandLine.ScreenRegister
import Clearance.Service.Operation

/-!
# Serving requests

A request is always answered, a failed one with its fault. A block ends at its first failed request
and is undone then; a block inside it that was undone alone is no failure. While a job waits before
a parcel, the requests of all interludes for that parcel are served in their order and their
answers are kept for the answer of the job; a request to raise an error is not answered but raised
in the job. A job run by a request of an interlude has no interludes but its own.
-/

set_option autoImplicit false

namespace Clearance.Service

/-- The answer of a procedure, or its fault as an answer. -/
def answered (proc : Proc Answer) : Proc Answer := do
  match ← Proc.attempt proc with
  | .ok answer => pure answer
  | .error fault => pure (.failed fault)

/-- A piece of work done, with `before k` done just before the `k`-th parcel is screened. -/
def doWork (before : Nat → Proc Unit) : Work → Proc Answer
  | .run handle => .job <$> Job.run (Handle.ofLiteral? handle) before
  | .task handle => .summary <$> Job.run (Handle.ofLiteral? handle) before
  | .command arguments => do
    let (text, fault) ← CommandLine.screenRegister arguments before
    pure (.printed text fault)

/-- An answer put behind those given while the job waits. -/
def note (answer : Answer) : Proc Unit :=
  Proc.alter fun s => { s with transcript := s.transcript ++ [answer] }

/-- A piece of work answered together with the answers given while it waited. -/
def interrupted (before : Nat → Proc Unit) (work : Work) : Proc Answer := do
  let outer ← Proc.ask (·.transcript)
  Proc.alter fun s => { s with transcript := [] }
  let answer ← answered (doWork before work)
  let meanwhile ← Proc.ask (·.transcript)
  Proc.alter fun s => { s with transcript := outer }
  pure (.interrupted answer meanwhile)

/-- Whether the answers of a block, which ends at its first failure, have none. -/
def hasNoFault (answers : List Answer) : Bool := answers.all fun answer => answer.fault?.isNone

/-- A block of answers. -/
def blockOf (answers : List Answer) : Answer := .block (hasNoFault answers) answers

mutual

/-- A request answered. -/
def serve : Request → Proc Answer
  | .single operation => answered (perform operation)
  | .block requests => answered (blockOf <$> Proc.atomicIf hasNoFault (serveUntilFault requests))
  | .work work none => answered (doWork (fun _ => pure ()) work)
  | .work work (some interludes) => interrupted (serveInterludes interludes) work

/-- Requests answered one by one, up to the first failure. -/
def serveUntilFault : List Request → Proc (List Answer)
  | [] => pure []
  | request :: rest => do
    let answer ← serve request
    if answer.fault?.isSome then pure [answer]
    else pure (answer :: (← serveUntilFault rest))

/-- The interludes before the `k`-th parcel. -/
def serveInterludes : List Interlude → Nat → Proc Unit
  | [], _ => pure ()
  | interlude :: rest, k => do
    serveInterlude interlude k
    serveInterludes rest k

/-- An interlude, if it is before the `k`-th parcel. -/
def serveInterlude : Interlude → Nat → Proc Unit
  | .mk position requests, k => if position == k then serveMeanwhile requests else pure ()

/-- Requests served while a job waits. -/
def serveMeanwhile : List Request → Proc Unit
  | [] => pure ()
  | request :: rest =>
    match request.raised? with
    | some fault => Proc.fail fault
    | none => do
      note (← serve request)
      serveMeanwhile rest

end

/-- Requests answered one by one, whatever fails. -/
def serveAll : List Request → Proc (List Answer)
  | [] => pure []
  | request :: rest => do
    let answer ← serve request
    pure (answer :: (← serveAll rest))

/-- The answers to requests in a session in which nothing has happened. -/
def answers (backend : Word.Backend) (outages : Monitor.Outages) (requests : List Request) :
    List Answer :=
  match (serveAll requests (Session.start backend outages)).1 with
  | .ok answers => answers
  | .error fault => [.failed fault]

end Clearance.Service
