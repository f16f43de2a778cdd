import Clearance.Job.Basic
import Clearance.Fault
import Clearance.Text.Numeral
import Clearance.Text.Search

/-!
# Command-line arguments

The command takes one value, the number of a register, and options. An option is spelled with one
hyphen and a letter or with two hyphens and a name, and a name may be cut short as long as only one
option goes on so. Its value follows it, behind an equals sign or as the next argument; behind a
letter it may follow at once. What does not look like an option is a value, and so is a negative
number, and all that comes after the divider `--`. The divider may only stand beside the number of
the register.
-/

set_option autoImplicit false

namespace Clearance.CommandLine

/-- The options of the command. -/
inductive Switch where
  | help
  | version
  | verbosity
  | settings
  | searchPath
  | traceback
  | noColor
  | forceColor
  | skipChecks
  | kind
  | sync
  deriving DecidableEq, Repr

namespace Switch

/-- Every spelling of an option. -/
def spellings : List (String × Switch) :=
  [("-h", help), ("--help", help), ("--version", version), ("-v", verbosity),
    ("--verbosity", verbosity), ("--settings", settings), ("--pythonpath", searchPath),
    ("--traceback", traceback), ("--no-color", noColor), ("--force-color", forceColor),
    ("--skip-checks", skipChecks), ("--kind", kind), ("--sync", sync)]

/-- The option spelled exactly so. -/
def ofSpelling? (spelling : List Char) : Option Switch :=
  (spellings.find? fun entry => entry.1.toList == spelling).map (·.2)

/-- The options whose spellings begin so, one for each spelling. -/
def beginning (part : List Char) : List Switch :=
  (spellings.filter fun entry => Text.startsWith part entry.1.toList).map (·.2)

/-- Whether an option takes a value. -/
def takesValue : Switch → Bool
  | verbosity | settings | searchPath | kind => true
  | _ => false

end Switch

/-- What stands in one argument with an option. -/
inductive Attached where
  | nothing
  /-- A value behind an equals sign. -/
  | equals (value : List Char)
  /-- What follows the letter of an option at once. -/
  | joined (value : List Char)
  deriving DecidableEq, Repr

/-- One argument. -/
inductive Token where
  | value (text : List Char)
  | divider
  | option (switch : Switch) (attached : Attached)
  /-- What looks like an option and is none. -/
  | unknownOption
  deriving DecidableEq, Repr

/-- A text up to its first equals sign, and what follows that sign if there is one. -/
def splitAtEquals (text : List Char) : List Char × Option (List Char) :=
  let name := text.takeWhile (· != '=')
  (name, match text.dropWhile (· != '=') with
    | [] => none
    | _ :: value => some value)

/-- Whether a text is a negative number: a hyphen before digits, among which there may be a point.
One line end at the end does not count. -/
def isNegativeNumber (text : List Char) : Bool :=
  match text with
  | '-' :: rest =>
    let body := if rest.getLast? == some '\n' then rest.dropLast else rest
    let behindDigits := body.dropWhile Text.isDecimal
    match behindDigits with
    | [] => !body.isEmpty
    | '.' :: fraction => !fraction.isEmpty && fraction.all Text.isDecimal
    | _ => false
  | _ => false

/-- The options that an argument may mean if it is no full spelling, with what is attached. -/
def abbreviated (text : List Char) : List (Switch × Attached) :=
  match text with
  | '-' :: '-' :: _ =>
    let (name, value) := splitAtEquals text
    let attached := match value with
      | some value => .equals value
      | none => .nothing
    (Switch.beginning name).map fun switch => (switch, attached)
  | _ =>
    match Switch.ofSpelling? (text.take 2) with
    | some switch => [(switch, .joined (text.drop 2))]
    | none => []

/-- An argument with more than one meaning is refused, one without any may be a value. -/
def classifyRest (text : List Char) : Except Fault Token :=
  match abbreviated text with
  | [(switch, attached)] => .ok (.option switch attached)
  | _ :: _ :: _ => .error .arguments
  | [] =>
    if isNegativeNumber text || text.contains ' ' then .ok (.value text) else .ok .unknownOption

/-- What an argument is, as long as no divider has come. -/
def classify (text : List Char) : Except Fault Token :=
  if text.head? != some '-' || text.length == 1 then .ok (.value text)
  else match Switch.ofSpelling? text with
    | some switch => .ok (.option switch .nothing)
    | none =>
      match splitAtEquals text with
      | (name, some value) => match Switch.ofSpelling? name with
        | some switch => .ok (.option switch (.equals value))
        | none => classifyRest text
      | _ => classifyRest text

/-- What the arguments are. -/
def tokens : List String → Except Fault (List Token)
  | [] => .ok []
  | "--" :: rest => .ok (.divider :: rest.map fun text => .value text.toList)
  | text :: rest => do
    let token ← classify text.toList
    pure (token :: (← tokens rest))

/-- What the arguments ask for. -/
structure Options where
  register : Option Int
  scope : Scope
  sync : Bool
  noColor : Bool
  forceColor : Bool
  /-- Whether there are arguments that nothing takes. -/
  hasExtras : Bool
  deriving DecidableEq, Repr

namespace Options

/-- Nothing is asked for yet. -/
def start : Options := ⟨none, .full, false, false, false, false⟩

/-- The greatest verbosity. -/
def maxVerbosity : Int := 3

/-- The options with the value of one. -/
def withValue (options : Options) (switch : Switch) (value : List Char) : Except Fault Options :=
  match switch with
  | .kind => match Scope.ofName? (String.ofList value) with
    | some scope => .ok { options with scope := scope }
    | none => .error .arguments
  | .verbosity => match Text.readInt 10 (String.ofList value) with
    | .ok n => if 0 ≤ n && n ≤ maxVerbosity then .ok options else .error .arguments
    | .error _ => .error .arguments
  | _ => .ok options

/-- The options with one that takes no value. -/
def withFlag (options : Options) (switch : Switch) : Except Fault Options :=
  match switch with
  | .help | .version => .error .leave
  | .sync => .ok { options with sync := true }
  | .noColor => .ok { options with noColor := true }
  | .forceColor => .ok { options with forceColor := true }
  | _ => .ok options

/-- The options with one that takes no value and yet has one attached. Only letters without an
equals sign may be joined, each an option of its own. -/
def withJoinedFlag (options : Options) (switch : Switch) : Attached → Except Fault Options
  | .nothing => options.withFlag switch
  | .joined ('-' :: _) => .error .arguments
  | .joined _ => do
    let options ← options.withFlag switch
    pure { options with hasExtras := true }
  | .equals _ => .error .arguments

/-- The options with the number of the register. -/
def withRegister (options : Options) (value : List Char) : Except Fault Options :=
  match Text.readInt 10 (String.ofList value) with
  | .ok n => .ok { options with register := some n }
  | .error _ => .error .arguments

/-- The options with an argument that nothing takes. -/
def withExtra (options : Options) : Options := { options with hasExtras := true }

/-- The options with one that has no argument of its own behind it for a value. -/
def withSwitch (options : Options) (switch : Switch) (attached : Attached) :
    Except Fault Options :=
  if switch.takesValue then
    match attached with
    | .equals value | .joined value => options.withValue switch value
    | .nothing => .error .arguments
  else options.withJoinedFlag switch attached

/-- What arguments ask for, read one after the other. -/
def read (options : Options) : List Token → Except Fault Options
  | [] => .ok options
  | .unknownOption :: rest => options.withExtra.read rest
  | .option switch .nothing :: .value value :: rest =>
    if switch.takesValue then
      (options.withValue switch value).bind fun options => options.read rest
    else (options.withFlag switch).bind fun options => options.read (.value value :: rest)
  | .option switch attached :: rest =>
    (options.withSwitch switch attached).bind fun options => options.read rest
  | .value value :: .divider :: rest =>
    if options.register.isNone then
      (options.withRegister value).bind fun options => options.read rest
    else options.withExtra.read (.divider :: rest)
  | .value value :: rest =>
    if options.register.isNone then
      (options.withRegister value).bind fun options => options.read rest
    else options.withExtra.read rest
  | .divider :: .value value :: rest =>
    if options.register.isNone then
      (options.withRegister value).bind fun options => options.read rest
    else options.withExtra.read rest
  | .divider :: rest => options.withExtra.read rest

end Options

/-- What arguments ask for, with the number of the register. -/
def parse (arguments : List String) : Except Fault (Int × Options) := do
  let options ← Options.start.read (← tokens arguments)
  match options.register with
  | some register => if options.hasExtras then .error .arguments else pure (register, options)
  | none => .error .arguments

end Clearance.CommandLine
