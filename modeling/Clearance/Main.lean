import Clearance.CommandLine.ScreenRegister

/-!
# The program

The command on a store in which nothing is stored yet: what it prints goes to the standard output,
why it fails to the standard error.
-/

set_option autoImplicit false

open Clearance

/-- Runs the command with its arguments. -/
def main (arguments : List String) : IO UInt32 := do
  let session := Session.start (.engine .null) .none
  let (text, fault) := match (CommandLine.screenRegister arguments (fun _ => pure ()) session).1 with
    | .ok printed => printed
    | .error fault => ("", some fault)
  IO.print text
  match fault with
  | none => return 0
  | some .leave => return 0
  | some fault =>
    IO.eprintln s!"{fault.kind}: {fault.text}"
    return 1
