import Clearance.Screening.Context
import Clearance.Session.Transaction
import Clearance.Store.Deletion

/-!
# Screening one parcel

Screening replaces the links of a parcel by those to the rules that match it now, and sets its
check status from what is then linked. A scope of words or codes replaces only its own links and
takes the others as they are. A parcel that the partner has marked is left alone. Keyword links
have no part in the check status.

This takes several statements, one after another, and an error may strike before any of them: a
limit of time that is reached, an engine that gives up, a store that is lost.
-/

set_option autoImplicit false

namespace Clearance.Screening

open Clearance.Parcel (CheckStatus)

/-! ## Errors that strike -/

/-- A place in the screening of a parcel at which an error may strike. -/
inductive Point where
  /-- Before the parcel is looked up. -/
  | start
  /-- Before the links of a kind are read or erased, or while the rules for them are looked for. -/
  | links (kind : LinkKind)
  /-- When the links of a kind are erased and the new ones are not yet there. -/
  | newLinks (kind : LinkKind)
  /-- Before the check status is saved. -/
  | status
  /-- After the last statement. -/
  | finish
  deriving DecidableEq

/-- The errors that strike while a parcel is screened. -/
abbrev Strikes : Type := Point → Option Fault

/-- No error strikes. -/
def Strikes.calm : Strikes := fun _ => none

/-- The error that strikes at a place, if any. -/
def Strikes.meet (strikes : Strikes) (point : Point) : Proc Unit :=
  match strikes point with
  | some fault => Proc.fail fault
  | none => pure ()

/-! ## Statements -/

/-- The links of a kind that a parcel has are erased. -/
def eraseLinks (kind : LinkKind) (parcel : Int) : Proc Unit :=
  Proc.execute fun store => .ok ⟨store.eraseLinks kind fun link => link.parcel == parcel, (), []⟩

/-- A parcel is linked to some rules. A rule cannot be linked twice. -/
def addLinks (kind : LinkKind) (parcel : Int) (rules : List Int) : Proc Unit :=
  Proc.execute fun store =>
    if rules.Nodup ∧ ∀ rule ∈ rules, rule ∉ store.linkedRules kind parcel then
      let links := (store.links kind).insertAll (rules.map fun rule => ⟨parcel, rule⟩)
      .ok ⟨store.setLinks kind links, (), []⟩
    else .error .duplicate

/-- A parcel's check status is saved. A parcel that has been deleted cannot be saved. -/
def saveStatus (id : Int) (status : Int) : Proc Unit :=
  Proc.execute fun store =>
    if store.parcels.has id then
      .ok ⟨{ store with
        parcels := store.parcels.modify id fun parcel => { parcel with checkStatus := status } },
        (), []⟩
    else .error .vanished

/-! ## Steps -/

variable (strikes : Strikes)

/-- The links of a kind that a parcel has are replaced by links to some rules. -/
def relink (kind : LinkKind) (parcel : Int) (rules : List Int) : Proc Unit := do
  strikes.meet (.links kind)
  eraseLinks kind parcel
  if rules.isEmpty then pure ()
  else
    strikes.meet (.newLinks kind)
    addLinks kind parcel rules

/-- The rules of a kind that a parcel is linked to. -/
def linked (kind : LinkKind) (parcel : Int) : Proc (List Int) := do
  strikes.meet (.links kind)
  Proc.query fun store => .ok (store.linkedRules kind parcel)

/-- The stop words and keywords of a parcel: those that match its texts, to which the parcel is
linked from now on, or those linked already if the context has no words to compare. -/
def renewWords (words : Option WordContext) (id : Int) (parcel : Parcel) :
    Proc (List Int × List Int) :=
  match words with
  | some context => do
    let stopWords := foundIds context.engine context.stopWords parcel.texts
    let keyWords := foundIds context.engine context.keyWords parcel.texts
    relink strikes .stopWord id stopWords
    relink strikes .keyWord id keyWords
    pure (stopWords, keyWords)
  | none => do
    let stopWords ← linked strikes .stopWord id
    let keyWords ← linked strikes .keyWord id
    pure (stopWords, keyWords)

/-- Whether a parcel's code is invalid, and its code prefixes: those that match its code, to which
the parcel is linked from now on, or those linked already if there are none to compare. -/
def renewCodes (prefixes : Option Commodity.PrefixIndex) (id : Int) (parcel : Parcel) :
    Proc (Bool × List Int) :=
  match prefixes with
  | some index => do
    let result := Commodity.classify parcel.code index
    relink strikes .codePrefix id result.ids
    pure (result.verdict == .invalidFormat, result.ids)
  | none => do
    let codePrefixes ← linked strikes .codePrefix id
    pure (!Commodity.hasCodeFormat parcel.code, codePrefixes)

/-- A parcel's check status is set, unless it is that already. -/
def renewStatus (id : Int) (parcel : Parcel) (status : Int) : Proc Unit :=
  if parcel.checkStatus == status then pure ()
  else do
    strikes.meet .status
    saveStatus id status

/-- A parcel that is not marked is screened, statement by statement. -/
def renew (context : Context) (scope : Scope) (id : Int) (parcel : Parcel) : Proc Outcome := do
  let (stopWords, keyWords) ←
    renewWords strikes (if scope.hasWords then context.words else none) id parcel
  let (invalid, codePrefixes) ←
    renewCodes strikes (if scope.hasCodes then context.prefixes else none) id parcel
  let status := CheckStatus.ofFindings invalid (!stopWords.isEmpty) (!codePrefixes.isEmpty)
  renewStatus strikes id parcel status.number
  strikes.meet .finish
  pure ⟨id, status.number, stopWords, keyWords, codePrefixes, invalid, false⟩

/-- A parcel is screened, statement by statement. -/
def screenSteps (context : Context) (scope : Scope) (id : Int) : Proc Outcome := do
  strikes.meet .start
  match ← Proc.query fun store => .ok (store.parcels.find? id) with
  | none => Proc.fail (.missing .parcel)
  | some parcel =>
    if parcel.isMarked then
      strikes.meet .finish
      pure ⟨id, parcel.checkStatus, [], [], [], false, true⟩
    else renew strikes context scope id parcel

end Clearance.Screening
