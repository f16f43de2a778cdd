import Clearance.Screening.Screen
import Clearance.Session.Compilation

/-!
# Screening in a session

Loading a context takes the compiled vocabularies, then the engine of the configured backend, then
the code prefixes in use. Screening a parcel is one block.
-/

set_option autoImplicit false

namespace Clearance.Screening

/-- The vocabularies compiled and the engine of the configured backend. -/
def loadWords : Proc WordContext := do
  let stopWords ← Proc.compiled .stopWords
  let keyWords ← Proc.compiled .keyWords
  match (← Proc.ask (·.backend)).load with
  | .ok engine => pure ⟨stopWords.matcher, keyWords.matcher, engine⟩
  | .error reason => Proc.fail (.noEngine reason)

/-- The code prefixes in use, filed for classification. -/
def loadCodes : Proc Commodity.PrefixIndex :=
  Proc.query fun store =>
    match store.prefixRules with
    | .ok rules => .ok (.ofList rules)
    | .error fault => .error (.unreadableNumber fault)

/-- The parts of a context that are asked for. -/
def loadContext (words codes : Bool) : Proc Context := do
  let wordContext ← if words then do pure (some (← loadWords)) else pure none
  let prefixes ← if codes then do pure (some (← loadCodes)) else pure none
  pure ⟨wordContext, prefixes⟩

/-- A context that suffices for a scope: the one given, or one loaded now. -/
def contextFor (scope : Scope) (given : Option Context) : Proc Context :=
  match given with
  | some context =>
    if context.suffices scope then pure context else loadContext scope.hasWords scope.hasCodes
  | none => loadContext scope.hasWords scope.hasCodes

/-- A parcel screened in one block with a context that suffices, while errors may strike. -/
def Strikes.screenWith (strikes : Strikes) (context : Context) (scope : Scope) (id : Int) :
    Proc Outcome :=
  Proc.atomic (screenSteps strikes context scope id)

/-- A parcel screened while errors may strike, once there is a context. -/
def Strikes.screen (strikes : Strikes) (scope : Scope) (given : Option Context) (id : Int) :
    Proc Outcome := do
  let context ← contextFor scope given
  strikes.screenWith context scope id

/-- A parcel screened in one block with a context that suffices. -/
def screenWith (context : Context) (scope : Scope) (id : Int) : Proc Outcome :=
  Strikes.calm.screenWith context scope id

/-- A parcel screened. -/
def screen (scope : Scope) (given : Option Context) (id : Int) : Proc Outcome :=
  Strikes.calm.screen scope given id

end Clearance.Screening
