import Clearance.Fault
import Clearance.Store.Soundness

/-!
# Changes of the store

The statements that insert or update rows. A statement is refused if it would hold a number beyond
64 bits or repeat what may occur only once: a word of a vocabulary, a code of a keyword, a link of
a parcel to a rule. A change that goes through says which vocabularies it touches, because the
rules compiled from these are out of date once the change is final.
-/

set_option autoImplicit false

namespace Clearance

/-- What a statement comes to: the store after it, its result, and a vocabulary for each row of
one that is saved or deleted. -/
structure Change (α : Type) where
  store : Store
  result : α
  touched : List Word.Vocabulary

namespace Store

/-- Whether the store can hold a number: one of 64 bits with a sign. -/
def canHold (n : Int) : Bool := decide (-0x8000000000000000 ≤ n ∧ n < 0x8000000000000000)

/-- A statement goes on only if the store can hold the numbers in it. -/
def guardNumbers (numbers : List Int) : Except Fault Unit :=
  if numbers.all canHold then .ok () else .error .outOfRange

/-- A new register. -/
def addRegister (store : Store) (register : Register) : Change Int :=
  let registers := store.registers.insert register
  ⟨{ store with registers := registers }, registers.lastId, []⟩

/-- The numbers of a parcel. -/
def parcelNumbers (parcel : Parcel) : List Int :=
  [parcel.register, parcel.status, parcel.checkStatus]

/-- New parcels, all or none; their ids. -/
def addParcels (store : Store) (parcels : List Parcel) : Except Fault (Change (List Int)) := do
  guardNumbers (parcels.flatMap parcelNumbers)
  let table := store.parcels.insertAll parcels
  pure ⟨{ store with parcels := table },
    (Table.numbered store.parcels.lastId parcels).map (·.id), []⟩

/-- A new word of a vocabulary. -/
def addWord (store : Store) (vocabulary : Word.Vocabulary) (entry : WordEntry) :
    Except Fault (Change Int) := do
  guardNumbers [entry.matchType]
  let words := store.words vocabulary
  if words.rows.any fun row => row.val.word == entry.word then .error .duplicate
  else
    let words := words.insert entry
    pure ⟨store.setWords vocabulary words, words.lastId, [vocabulary]⟩

/-- A new code of a keyword. -/
def addKeyWordCode (store : Store) (entry : KeyWordCode) : Except Fault (Change Int) := do
  guardNumbers [entry.keyWord]
  if store.keyWordCodes.rows.any fun row => row.val == entry then .error .duplicate
  else
    let codes := store.keyWordCodes.insert entry
    pure ⟨{ store with keyWordCodes := codes }, codes.lastId, [.keyWords]⟩

/-- A new order. -/
def addOrder (store : Store) (order : CodeOrder) : Change Int :=
  let orders := store.orders.insert order
  ⟨{ store with orders := orders }, orders.lastId, []⟩

/-- A new code prefix. -/
def addPrefix (store : Store) (entry : StoredPrefix) : Except Fault (Change Int) := do
  guardNumbers entry.order.toList
  let prefixes := store.prefixes.insert entry
  pure ⟨{ store with prefixes := prefixes }, prefixes.lastId, []⟩

/-- A new exception of a code prefix. -/
def addException (store : Store) (entry : PrefixException) : Except Fault (Change Int) := do
  guardNumbers [entry.codePrefix]
  let exceptions := store.exceptions.insert entry
  pure ⟨{ store with exceptions := exceptions }, exceptions.lastId, []⟩

/-- A new catalogue row. -/
def addCatalogueCode (store : Store) (row : Commodity.CatalogueCode) : Change Int :=
  let catalogue := store.catalogue.insert row
  ⟨{ store with catalogue := catalogue }, catalogue.lastId, []⟩

/-- A new link. -/
def addLink (store : Store) (kind : LinkKind) (link : Link) : Except Fault (Change Int) := do
  guardNumbers [link.parcel, link.rule]
  let links := store.links kind
  if links.rows.any fun row => row.val == link then .error .duplicate
  else
    let links := links.insert link
    pure ⟨store.setLinks kind links, links.lastId, []⟩

/-- A new job. -/
def addJob (store : Store) (job : Job) : Change (Row Job) :=
  let jobs := store.jobs.insert job
  ⟨{ store with jobs := jobs }, ⟨jobs.lastId, job⟩, []⟩

/-- What an edit makes of a word; a missing part is left as it is. -/
structure WordEdit where
  word : Option String
  matchType : Option Int
  deriving DecidableEq, Repr

/-- Whether an edit leaves everything as it is. -/
def WordEdit.isEmpty (edit : WordEdit) : Bool := edit.word.isNone && edit.matchType.isNone

/-- An entry after an edit. -/
def WordEdit.apply (edit : WordEdit) (entry : WordEntry) : WordEntry :=
  ⟨edit.word.getD entry.word, edit.matchType.getD entry.matchType⟩

/-- A word put under an id in place of the one that is there. -/
def putWord (store : Store) (vocabulary : Word.Vocabulary) (id : Int) (entry : WordEntry) :
    Except Fault Store := do
  guardNumbers [entry.matchType]
  let words := store.words vocabulary
  if words.rows.any fun row => row.id != id && row.val.word == entry.word then .error .duplicate
  else pure (store.setWords vocabulary (words.modify id fun _ => entry))

/-- A word loaded, edited and saved; how many rows that changes. -/
def saveWord (store : Store) (vocabulary : Word.Vocabulary) (id : Int) (edit : WordEdit) :
    Except Fault (Change Nat) :=
  match (store.words vocabulary).find? id with
  | none => .error (.missing (match vocabulary with
    | .stopWords => .stopWord
    | .keyWords => .keyWord))
  | some entry => do
    let store ← store.putWord vocabulary id (edit.apply entry)
    pure ⟨store, 1, [vocabulary]⟩

/-- A word edited in place, which touches no vocabulary; how many rows that changes. -/
def updateWord (store : Store) (vocabulary : Word.Vocabulary) (id : Int) (edit : WordEdit) :
    Except Fault (Change Nat) :=
  if edit.isEmpty || !canHold id then pure ⟨store, 0, []⟩
  else do
    guardNumbers edit.matchType.toList
    match (store.words vocabulary).find? id with
    | none => pure ⟨store, 0, []⟩
    | some entry =>
      let store ← store.putWord vocabulary id (edit.apply entry)
      pure ⟨store, 1, []⟩

/-- What an edit makes of a code of a keyword; a missing part is left as it is. -/
structure CodeEdit where
  keyWord : Option Int
  code : Option String
  deriving DecidableEq, Repr

/-- A code of a keyword after an edit. -/
def CodeEdit.apply (edit : CodeEdit) (entry : KeyWordCode) : KeyWordCode :=
  ⟨edit.keyWord.getD entry.keyWord, edit.code.getD entry.code⟩

/-- A code of a keyword put under an id in place of the one that is there. -/
def putKeyWordCode (store : Store) (id : Int) (entry : KeyWordCode) : Except Fault Store := do
  guardNumbers [entry.keyWord]
  if store.keyWordCodes.rows.any fun row => row.id != id && row.val == entry then .error .duplicate
  else pure { store with keyWordCodes := store.keyWordCodes.modify id fun _ => entry }

/-- A code of a keyword loaded, edited and saved; how many rows that changes. -/
def saveKeyWordCode (store : Store) (id : Int) (edit : CodeEdit) : Except Fault (Change Nat) :=
  match store.keyWordCodes.find? id with
  | none => .error (.missing .keyWordCode)
  | some entry => do
    let store ← store.putKeyWordCode id (edit.apply entry)
    pure ⟨store, 1, [.keyWords]⟩

/-- What an edit makes of a parcel; a missing part is left as it is, and a text may be edited to
be missing. -/
structure ParcelEdit where
  register : Option Int
  kind : Option String
  status : Option Int
  checkStatus : Option Int
  code : Option (Option String)
  product : Option (Option String)
  description : Option (Option String)
  tracking : Option (Option String)
  posting : Option (Option String)
  deriving DecidableEq, Repr

/-- An edit that leaves everything as it is. -/
def ParcelEdit.nothing : ParcelEdit := ⟨none, none, none, none, none, none, none, none, none⟩

/-- A parcel after an edit. -/
def ParcelEdit.apply (edit : ParcelEdit) (parcel : Parcel) : Parcel where
  register := edit.register.getD parcel.register
  kind := edit.kind.getD parcel.kind
  status := edit.status.getD parcel.status
  checkStatus := edit.checkStatus.getD parcel.checkStatus
  code := edit.code.getD parcel.code
  product := edit.product.getD parcel.product
  description := edit.description.getD parcel.description
  tracking := edit.tracking.getD parcel.tracking
  posting := edit.posting.getD parcel.posting

/-- A parcel edited in place; how many rows that changes. -/
def updateParcel (store : Store) (id : Int) (edit : ParcelEdit) : Except Fault (Change Nat) :=
  if edit = .nothing || !canHold id then pure ⟨store, 0, []⟩
  else do
    guardNumbers (edit.register.toList ++ edit.status.toList ++ edit.checkStatus.toList)
    let rows := if store.parcels.has id then 1 else 0
    pure ⟨{ store with parcels := store.parcels.modify id edit.apply }, rows, []⟩

/-- An order switched on or off; how many rows that changes. -/
def setOrder (store : Store) (id : Int) (enabled : Bool) : Change Nat :=
  ⟨{ store with orders := store.orders.modify id fun order => { order with enabled := enabled } },
    if store.orders.has id then 1 else 0, []⟩

/-- The record of a job saved in part: `save` puts what is saved into the stored record. Saving a
job that is not stored any more is refused. -/
def saveJob (store : Store) (id : Int) (numbers : List Int) (save : Job → Job) :
    Except Fault (Change Unit) := do
  guardNumbers numbers
  if store.jobs.has id then pure ⟨{ store with jobs := store.jobs.modify id save }, (), []⟩
  else .error .vanished

end Store

end Clearance
