import Clearance.Monitor
import Clearance.Parcel.Priority
import Clearance.Screening.Context

/-!
# Answers

What a request is answered with. A request that fails is answered with its fault; an answer of a
block holds the answers of its requests, and the answer of a job that was interrupted holds those
of the requests served meanwhile.
-/

set_option autoImplicit false

namespace Clearance

/-- What is shown of a parcel: its check status and the rules linked to it, ascending. -/
structure ParcelView where
  id : Int
  checkStatus : Int
  stopWords : List Int
  keyWords : List Int
  prefixes : List Int
  deriving DecidableEq, Repr

/-- What is shown of a compiled vocabulary. -/
structure MatcherView where
  rules : List Int
  /-- How many rules cannot be used. -/
  skipped : Nat
  /-- The rules that are left to the morphology engine. -/
  morphology : List Int
  /-- Whether it is the one that was shown last. -/
  isSame : Bool
  generation : Int
  deriving DecidableEq, Repr

/-- How far a job has come; of a handle that no job has, only the handle is known. -/
structure Progress where
  handle : Option String
  total : Int
  processed : Int
  finished : Bool
  error : Option String
  status : Option JobStatus
  deriving DecidableEq, Repr

/-- What a request is answered with. -/
inductive Answer where
  | nothing
  /-- The id of a new row. -/
  | id (id : Int)
  | ids (ids : List Int)
  /-- The first and the last of many ids. -/
  | span (first last : Int)
  /-- How many rows have been changed. -/
  | rows (count : Nat)
  /-- How many rows are left. -/
  | left (count : Nat)
  | state (parcels : List ParcelView) (jobs : List Job)
  | now (seconds : Int)
  | timeLimit (seconds : Int)
  | backend (engine : Word.Engine)
  | events (events : List Monitor.Event)
  /-- Whether a block has become final, and the answers up to its first failure. -/
  | block (committed : Bool) (answers : List Answer)
  | matcher (view : MatcherView)
  | matched (ids : List Int)
  | generation (number : Int)
  /-- Whether there was a counter to be lost. -/
  | evicted (existed : Bool)
  /-- How many rules are filed, and what classification says of each code. -/
  | classes (size : Nat) (results : List Commodity.Classification)
  | codes (codes : List String)
  | tier (tier : Parcel.Tier)
  | next (id : Option Int)
  /-- The parcels gone through, and whether the last of all was reached. -/
  | walked (ids : List Int) (done : Bool)
  | context (hasWords hasCodes : Bool)
  /-- What came of screening, and the check status of the record that was handed in. -/
  | outcome (outcome : Screening.Outcome) (ownStatus : Int)
  | job (job : Job)
  | storedJob (job : Job) (isStale : Bool)
  | summary (job : Job)
  | progress (progress : Progress)
  | cancelled (wasActive : Bool)
  /-- What a command has printed, and why it failed if it did. -/
  | printed (text : String) (fault : Option Fault)
  /-- The answer of an interrupted job and those of the requests served meanwhile. -/
  | interrupted (answer : Answer) (meanwhile : List Answer)
  | failed (fault : Fault)

namespace Answer

/-- The most ids that are listed one by one. -/
def mostIds : Nat := 50

/-- New ids, which are shown by the first and the last of them if there are many. -/
def ofIds (ids : List Int) : Answer :=
  if ids.length ≤ mostIds then .ids ids
  else match ids.head?, ids.getLast? with
    | some first, some last => span first last
    | _, _ => .ids ids

/-- The fault because of which an answer ends the block that it is given in. -/
def fault? : Answer → Option Fault
  | failed fault => some fault
  | printed _ fault => fault
  | interrupted answer _ => answer.fault?
  | _ => none

end Answer

end Clearance
