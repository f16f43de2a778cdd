import Clearance.Commodity.Catalogue
import Clearance.Commodity.PrefixRule
import Clearance.Job.Basic
import Clearance.Parcel.Register
import Clearance.Store.Table
import Clearance.Word.Rule
import Clearance.Word.Vocabulary

/-!
# The store

Everything that is stored: registers with their parcels and jobs, the two vocabularies with the
codes that keywords imply, code prefixes with their exceptions and the orders they come from, the
catalogue, and the links between parcels and the rules that match them. The store is a value, and
what a request does to it is a function of it.
-/

set_option autoImplicit false

namespace Clearance

/-- A configured word. -/
structure WordEntry where
  word : String
  matchType : Int
  deriving DecidableEq, Repr

/-- A commodity code that a keyword implies. -/
structure KeyWordCode where
  keyWord : Int
  code : String
  deriving DecidableEq, Repr

/-- An order that code prefixes come from and that can be switched off. -/
structure CodeOrder where
  title : String
  enabled : Bool
  deriving DecidableEq, Repr

/-- A code prefix and the order it comes from. -/
structure StoredPrefix where
  codePrefix : Commodity.CodePrefix
  order : Option Int
  deriving DecidableEq, Repr

/-- An exception of a code prefix. -/
structure PrefixException where
  codePrefix : Int
  code : String
  deriving DecidableEq, Repr

/-- A link between a parcel and a rule. -/
structure Link where
  parcel : Int
  rule : Int
  deriving DecidableEq, Repr

/-- The three kinds of links. -/
inductive LinkKind where
  | stopWord
  | keyWord
  | codePrefix
  deriving DecidableEq, Repr

/-- Everything that is stored. -/
structure Store where
  registers : Table Register
  parcels : Table Parcel
  stopWords : Table WordEntry
  keyWords : Table WordEntry
  keyWordCodes : Table KeyWordCode
  orders : Table CodeOrder
  prefixes : Table StoredPrefix
  exceptions : Table PrefixException
  catalogue : Table Commodity.CatalogueCode
  stopWordLinks : Table Link
  keyWordLinks : Table Link
  prefixLinks : Table Link
  jobs : Table Job
  deriving DecidableEq, Repr

namespace Store

/-- Nothing is stored. -/
def empty : Store where
  registers := .empty
  parcels := .empty
  stopWords := .empty
  keyWords := .empty
  keyWordCodes := .empty
  orders := .empty
  prefixes := .empty
  exceptions := .empty
  catalogue := .empty
  stopWordLinks := .empty
  keyWordLinks := .empty
  prefixLinks := .empty
  jobs := .empty

/-- The words of a vocabulary. -/
def words (store : Store) : Word.Vocabulary → Table WordEntry
  | .stopWords => store.stopWords
  | .keyWords => store.keyWords

/-- The store with the words of a vocabulary replaced. -/
def setWords (store : Store) (vocabulary : Word.Vocabulary) (words : Table WordEntry) : Store :=
  match vocabulary with
  | .stopWords => { store with stopWords := words }
  | .keyWords => { store with keyWords := words }

/-- The links of a kind. -/
def links (store : Store) : LinkKind → Table Link
  | .stopWord => store.stopWordLinks
  | .keyWord => store.keyWordLinks
  | .codePrefix => store.prefixLinks

/-- The store with the links of a kind replaced. -/
def setLinks (store : Store) (kind : LinkKind) (links : Table Link) : Store :=
  match kind with
  | .stopWord => { store with stopWordLinks := links }
  | .keyWord => { store with keyWordLinks := links }
  | .codePrefix => { store with prefixLinks := links }

/-- Whether there is a rule under an id that a link of a kind can refer to. -/
def hasRule (store : Store) : LinkKind → Int → Bool
  | .stopWord, id => store.stopWords.has id
  | .keyWord, id => store.keyWords.has id
  | .codePrefix, id => store.prefixes.has id

/-- The ids of the rules linked to a parcel, in the order of the links. -/
def linkedRules (store : Store) (kind : LinkKind) (parcel : Int) : List Int :=
  ((store.links kind).rows.filter fun row => row.val.parcel == parcel).map (·.val.rule)

/-- The rules of a vocabulary, in the order of their words. -/
def rules (store : Store) (vocabulary : Word.Vocabulary) : List Word.Rule :=
  let sorted := (store.words vocabulary).rows.mergeSort fun a b => !(b.val.word < a.val.word)
  sorted.map fun row => ⟨row.id, some row.val.word, row.val.matchType⟩

/-- Whether a code prefix is in use: its order, if it has one, is switched on. -/
def isInUse (store : Store) (entry : StoredPrefix) : Bool :=
  match entry.order with
  | none => true
  | some order => match store.orders.find? order with
    | some o => o.enabled
    | none => false

/-- The rule of a stored code prefix. -/
def prefixRule (store : Store) (row : Row StoredPrefix) :
    Except Text.NumeralFault Commodity.PrefixRule :=
  let own := store.exceptions.rows.filter fun entry => entry.val.codePrefix == row.id
  Commodity.PrefixRule.ofCodePrefix row.id row.val.codePrefix (own.map (·.val.code))

/-- The rules of the code prefixes in use, in the order of their ids; those without a code are left
out. -/
def prefixRules (store : Store) : Except Text.NumeralFault (List Commodity.PrefixRule) :=
  (store.prefixes.rows.filter fun row =>
    store.isInUse row.val && row.val.codePrefix.code != some "").mapM store.prefixRule

/-- The codes of the catalogue rows in force on a day, one for each row. -/
def codesInForce (store : Store) (day : Commodity.Day) : List String :=
  (store.catalogue.rows.filter fun row => row.val.isInForce day).map (·.val.code)

/-- The codes implied by each keyword linked to a parcel. -/
def impliedCodes (store : Store) (parcel : Int) : List (List String) :=
  (store.linkedRules .keyWord parcel).map fun keyWord =>
    (store.keyWordCodes.rows.filter fun row => row.val.keyWord == keyWord).map (·.val.code)

/-- The parcels of a register that screening it again screens, in the order of their ids. -/
def openParcels (store : Store) (register : Int) : List Int :=
  (store.parcels.rows.filter fun row => row.val.register == register && row.val.isOpen).map (·.id)

/-- The job known by a handle. -/
def jobOf? (store : Store) (handle : Option Handle) : Option (Row Job) :=
  store.jobs.rows.find? fun row => some row.val.handle == handle

@[simp] theorem words_setWords (store : Store) (vocabulary : Word.Vocabulary)
    (words : Table WordEntry) : (store.setWords vocabulary words).words vocabulary = words := by
  cases vocabulary <;> rfl

@[simp] theorem links_setLinks (store : Store) (kind : LinkKind) (links : Table Link) :
    (store.setLinks kind links).links kind = links := by
  cases kind <;> rfl

theorem links_setLinks_of_ne (store : Store) {kind other : LinkKind} (links : Table Link)
    (h : other ≠ kind) : (store.setLinks kind links).links other = store.links other := by
  cases kind <;> cases other <;> first | rfl | exact absurd rfl h

end Store

end Clearance
