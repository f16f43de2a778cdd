import Clearance.Commodity.Catalogue
import Clearance.Fault
import Clearance.Job.Basic
import Clearance.Paging.Next
import Clearance.Store.Change
import Clearance.Word.Morphology

/-!
# Requests

What can be asked for. An operation is a single thing to do. A block of requests is done as a whole
or not at all. A piece of work runs a job, and requests can be served while it waits between two
parcels: an interlude says before which parcel, and which requests.
-/

set_option autoImplicit false

namespace Clearance

/-- The rule that a parcel is linked to. -/
structure LinkTarget where
  kind : LinkKind
  rule : Int
  deriving DecidableEq, Repr

/-- A single thing to do. -/
inductive Operation where
  | addRegister (register : Register)
  /-- A parcel of a register, of the register's kind unless the draft names one. -/
  | addParcel (register : Int) (draft : Store.ParcelEdit)
  /-- The parcels of several drafts, as many times over as `repeats` says. -/
  | addParcels (register : Int) (drafts : List Store.ParcelEdit) (repeats : Nat)
  | updateParcel (parcel : Int) (edit : Store.ParcelEdit)
  | delete (entity : Entity) (id : Int)
  | addStopWord (entry : WordEntry)
  | addKeyWord (entry : WordEntry) (codes : List String)
  | addKeyWordCode (entry : KeyWordCode)
  /-- A code of a keyword loaded, edited and saved. -/
  | saveKeyWordCode (id : Int) (edit : Store.CodeEdit)
  /-- A word loaded, edited and saved. -/
  | saveWord (vocabulary : Word.Vocabulary) (id : Int) (edit : Store.WordEdit)
  /-- A word edited in place. -/
  | updateWord (vocabulary : Word.Vocabulary) (id : Int) (edit : Store.WordEdit)
  | addOrder (order : CodeOrder)
  | setOrder (id : Int) (enabled : Bool)
  | addPrefix (entry : StoredPrefix) (exceptions : List String)
  | addCatalogueCode (code : String) (validFrom validTo : Option String)
  | link (parcel : Int) (target : LinkTarget)
  | showState
  | advance (seconds : Int)
  | setTimeLimit (seconds : Int)
  | setBackend (backend : Word.Backend)
  | takeEvents
  | raise (kind : ErrorKind) (message : Option String)
  | showMatcher (vocabulary : Word.Vocabulary)
  | matchText (vocabulary : Word.Vocabulary) (text : Option String)
  | generation (vocabulary : Word.Vocabulary)
  | bump (vocabulary : Word.Vocabulary)
  | evict (vocabulary : Word.Vocabulary)
  | clearMatchers
  | classify (codes : List (Option String))
  /-- The codes in force on a day, or today and each once. -/
  | codesInForce (day : Option String)
  | priority (parcel : Int) (catalogue : Option (List String))
  | next (query : Paging.Query) (cursor : Option Int)
  | walk (query : Paging.Query) (cursor : Option Int) (limit : Nat)
  | loadContext (name : String) (words codes : Bool)
  | screen (parcel : Int) (scope : Scope) (context : Option String)
  | openParcels (register : Int)
  | start (register : Int) (kind : Text.Literal) (runsNow : Bool)
  | progress (handle : Text.Literal)
  | cancel (handle : Text.Literal)
  | showJob (handle : Text.Literal)
  | markStarted (handle : Text.Literal) (total : Int)

/-- What runs a job. -/
inductive Work where
  /-- A job run, and shown. -/
  | run (handle : Text.Literal)
  /-- A job run, and summarized. -/
  | task (handle : Text.Literal)
  | command (arguments : List String)

mutual

/-- What can be asked for. -/
inductive Request where
  | single (operation : Operation)
  /-- Requests done as a whole or not at all. -/
  | block (requests : List Request)
  /-- A piece of work, and the requests served meanwhile if there may be any. -/
  | work (work : Work) (interludes : Option (List Interlude))

/-- Requests served just before a job screens its `position`-th parcel. -/
inductive Interlude where
  | mk (position : Int) (requests : List Request)

end

instance : Inhabited Request := ⟨.block []⟩

/-- The error that a request raises, if that is all it asks for. -/
def Request.raised? : Request → Option Fault
  | single (.raise kind message) => some (.raised kind message)
  | _ => none

end Clearance
