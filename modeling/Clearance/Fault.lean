import Clearance.Commodity.Day
import Clearance.Text.Literal

/-!
# Faults

The causes for which a request fails. A fault has a kind, by which callers tell faults apart, and
a text; the message of a fault is given only for some kinds.
-/

set_option autoImplicit false

namespace Clearance

/-- The kinds of stored rows. -/
inductive Entity where
  | register
  | parcel
  | stopWord
  | keyWord
  | keyWordCode
  | codeOrder
  | codePrefix
  | codePrefixException
  | catalogueCode
  | stopWordLink
  | keyWordLink
  | codePrefixLink
  | job
  deriving DecidableEq, Repr

namespace Entity

/-- What a kind of row is called. -/
def name : Entity → String
  | register => "Register"
  | parcel => "Parcel"
  | stopWord => "StopWord"
  | keyWord => "KeyWord"
  | keyWordCode => "KeyWordCode"
  | codeOrder => "CodeOrder"
  | codePrefix => "CodePrefix"
  | codePrefixException => "CodePrefixException"
  | catalogueCode => "CatalogueCode"
  | stopWordLink => "ParcelStopWord"
  | keyWordLink => "ParcelKeyWord"
  | codePrefixLink => "ParcelCodePrefix"
  | job => "ScreeningJob"

/-- A row of a kind that has no words of its own. -/
def describe (entity : Entity) (id : Option Int) : String :=
  let shown := match id with
    | some n => toString n
    | none => Text.Literal.shown .null
  s!"{entity.name} object ({shown})"

/-- Every kind of row. -/
def all : List Entity :=
  [register, parcel, stopWord, keyWord, keyWordCode, codeOrder, codePrefix, codePrefixException,
    catalogueCode, stopWordLink, keyWordLink, codePrefixLink, job]

/-- The kind of row of a name. -/
def ofName? (name : String) : Option Entity := all.find? fun entity => entity.name == name

end Entity

/-- The kinds of errors that a request may raise on purpose or report. Every kind has a name. -/
inductive ErrorKind where
  | runtime
  | value
  | key
  | softTimeLimit
  | other (name : String) (isNamed : name ≠ "")
  deriving DecidableEq, Repr

namespace ErrorKind

/-- What a kind of error is called. -/
def name : ErrorKind → String
  | runtime => "RuntimeError"
  | value => "ValueError"
  | key => "KeyError"
  | softTimeLimit => "SoftTimeLimitExceeded"
  | other name _ => name

/-- The kind of error of a name; a missing name counts as that of a runtime error. -/
def ofName (name : String) : ErrorKind :=
  if name == "RuntimeError" then runtime
  else if name == "ValueError" then value
  else if name == "KeyError" then key
  else if name == "SoftTimeLimitExceeded" then softTimeLimit
  else if h : name = "" then runtime
  else other name h

/-- The text of an error of a kind, from the message that it was raised with. An empty message
counts as none. -/
def text (kind : ErrorKind) (message : Option String) : String :=
  match kind, message.filter (· != "") with
  | key, some message => Text.quoted message
  | softTimeLimit, some message => s!"SoftTimeLimitExceeded({Text.quoted message},)"
  | softTimeLimit, none => "SoftTimeLimitExceeded()"
  | _, message => message.getD ""

theorem name_ne_empty (kind : ErrorKind) : kind.name ≠ "" := by
  cases kind with
  | other name isNamed => exact isNamed
  | runtime | value | key | softTimeLimit => decide

end ErrorKind

/-- Why a request fails. -/
inductive Fault where
  /-- No row of a kind is the one asked for. -/
  | missing (entity : Entity)
  /-- A job of another kind is in flight for the register. -/
  | alreadyRunning (register : Int) (running requested : String)
  /-- A value that names no kind of job. -/
  | unknownJobKind (shown : String)
  /-- A value that names no tier of match priority. -/
  | unknownTier (shown : String)
  /-- A date that cannot be read. -/
  | unreadableDate (reason : Commodity.DateFault)
  /-- A number that cannot be read. -/
  | unreadableNumber (reason : Text.NumeralFault)
  /-- The configured morphology backend leads to no engine. -/
  | noEngine (reason : String)
  /-- A row repeats what may occur only once. -/
  | duplicate
  /-- A row refers to another that does not exist. -/
  | dangling
  /-- A number that the store cannot hold. -/
  | outOfRange
  /-- A time limit that is too long to be counted in days. -/
  | limitTooLong
  /-- A searched text that is too long to be looked for. -/
  | searchTooLong
  /-- The row to be saved does not exist any more. -/
  | vanished
  /-- An earlier statement of the block has failed. -/
  | blockBroken
  /-- An error raised on purpose. -/
  | raised (kind : ErrorKind) (message : Option String)
  /-- The command cannot do what it was asked for. -/
  | command (message : String)
  /-- The command's arguments cannot be read. -/
  | arguments
  /-- The command's arguments ask for a text about the command itself. -/
  | leave
  deriving DecidableEq, Repr

namespace Fault

/-- The kind of a fault. -/
def kind : Fault → String
  | missing _ => "DoesNotExist"
  | alreadyRunning .. => "ScreeningAlreadyRunning"
  | unknownJobKind _ | unknownTier _ | unreadableDate _ | unreadableNumber _ => "ValueError"
  | noEngine _ => "MorphologyBackendError"
  | duplicate | dangling => "IntegrityError"
  | outOfRange | limitTooLong => "OverflowError"
  | searchTooLong => "OperationalError"
  | vanished => "DatabaseError"
  | blockBroken => "TransactionManagementError"
  | raised kind _ => kind.name
  | command _ | arguments => "CommandError"
  | leave => "SystemExit"

/-- The text of a fault. -/
def text : Fault → String
  | missing entity => s!"{entity.name} matching query does not exist."
  | alreadyRunning register running requested =>
    s!"Register {register} is already being screened ({running}); cannot start {requested}"
  | unknownJobKind shown => s!"{shown} is not a valid ScreeningJobKind"
  | unknownTier shown => s!"{shown} is not a valid MatchPriority"
  | unreadableDate reason => reason.message
  | unreadableNumber reason => reason.message
  | noEngine reason => reason
  | duplicate => "UNIQUE constraint failed"
  | dangling => "FOREIGN KEY constraint failed"
  | outOfRange => "number too large to be stored"
  | limitTooLong => "time limit too long to be counted in days"
  | searchTooLong => "text too long to be searched for"
  | vanished => "Save with update_fields did not affect any rows."
  | blockBroken =>
    "An error occurred in the current transaction. You can't execute queries until the end of " ++
      "the 'atomic' block."
  | raised kind message => kind.text message
  | command message => message
  | arguments => ""
  | leave => "0"

/-- The text of a fault, or its kind if the text is empty. -/
def reason (fault : Fault) : String := if fault.text == "" then fault.kind else fault.text

/-- Every fault has a reason that can be told. -/
theorem reason_ne_empty (fault : Fault) : fault.reason ≠ "" := by
  unfold reason
  by_cases htext : fault.text = ""
  · rw [if_pos (beq_iff_eq.2 htext)]
    cases fault with
    | raised kind message => exact kind.name_ne_empty
    | _ => simp [kind]
  · rwa [if_neg (by simpa using htext)]

/-- The message that is given with a fault; the kinds without one are told by their kind alone. -/
def message? (fault : Fault) : Option String :=
  match fault with
  | missing _ | alreadyRunning .. | unknownJobKind _ | unknownTier _ | unreadableDate _
  | unreadableNumber _ | noEngine _ | command _ => some fault.text
  | raised .runtime _ | raised .value _ => some fault.text
  | _ => none

end Fault

end Clearance
