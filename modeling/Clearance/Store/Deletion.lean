import Clearance.Store.Change

/-!
# Deleting rows

Deleting a row deletes all rows that depend on it, directly or through others: the parcels and jobs
of a register, the links of a parcel and of a rule, the codes of a keyword, the exceptions of a
code prefix and the code prefixes of an order. Every deleted row of a vocabulary touches it, and a
code of a keyword counts as one.
-/

set_option autoImplicit false

namespace Clearance.Store

/-- The links of a kind without those of which `gone` holds. -/
def eraseLinks (store : Store) (kind : LinkKind) (gone : Link → Bool) : Store :=
  store.setLinks kind ((store.links kind).eraseIf fun row => gone row.val)

/-- The store without the parcels under some ids and all that depends on them. -/
def eraseParcels (store : Store) (gone : List Int) : Store :=
  let ofParcel := fun (link : Link) => gone.contains link.parcel
  let store := ((store.eraseLinks .stopWord ofParcel).eraseLinks .keyWord ofParcel).eraseLinks
    .codePrefix ofParcel
  { store with parcels := store.parcels.eraseIf fun row => gone.contains row.id }

/-- The store without a register and all that depends on it. -/
def eraseRegister (store : Store) (id : Int) : Store :=
  let own := (store.parcels.rows.filter fun row => row.val.register == id).map (·.id)
  let store := store.eraseParcels own
  { store with
    jobs := store.jobs.eraseIf fun row => row.val.register == id
    registers := store.registers.eraseIf fun row => row.id == id }

/-- The store without a stop word and all that depends on it. -/
def eraseStopWord (store : Store) (id : Int) : Store :=
  let store := store.eraseLinks .stopWord fun link => link.rule == id
  { store with stopWords := store.stopWords.eraseIf fun row => row.id == id }

/-- The store without a keyword and all that depends on it. -/
def eraseKeyWord (store : Store) (id : Int) : Store :=
  let store := store.eraseLinks .keyWord fun link => link.rule == id
  { store with
    keyWordCodes := store.keyWordCodes.eraseIf fun row => row.val.keyWord == id
    keyWords := store.keyWords.eraseIf fun row => row.id == id }

/-- The store without the code prefixes under some ids and all that depends on them. -/
def erasePrefixes (store : Store) (gone : List Int) : Store :=
  let store := store.eraseLinks .codePrefix fun link => gone.contains link.rule
  { store with
    exceptions := store.exceptions.eraseIf fun row => gone.contains row.val.codePrefix
    prefixes := store.prefixes.eraseIf fun row => gone.contains row.id }

/-- The store without an order and all that depends on it. -/
def eraseOrder (store : Store) (id : Int) : Store :=
  let own := (store.prefixes.rows.filter fun row => row.val.order == some id).map (·.id)
  let store := store.erasePrefixes own
  { store with orders := store.orders.eraseIf fun row => row.id == id }

/-- Whether there is a row of a kind under an id. -/
def hasRow (store : Store) (entity : Entity) (id : Int) : Bool :=
  match entity with
  | .register => store.registers.has id
  | .parcel => store.parcels.has id
  | .stopWord => store.stopWords.has id
  | .keyWord => store.keyWords.has id
  | .keyWordCode => store.keyWordCodes.has id
  | .codeOrder => store.orders.has id
  | .codePrefix => store.prefixes.has id
  | .codePrefixException => store.exceptions.has id
  | .catalogueCode => store.catalogue.has id
  | .stopWordLink => store.stopWordLinks.has id
  | .keyWordLink => store.keyWordLinks.has id
  | .codePrefixLink => store.prefixLinks.has id
  | .job => store.jobs.has id

/-- How many rows of a kind there are. -/
def count (store : Store) : Entity → Nat
  | .register => store.registers.size
  | .parcel => store.parcels.size
  | .stopWord => store.stopWords.size
  | .keyWord => store.keyWords.size
  | .keyWordCode => store.keyWordCodes.size
  | .codeOrder => store.orders.size
  | .codePrefix => store.prefixes.size
  | .codePrefixException => store.exceptions.size
  | .catalogueCode => store.catalogue.size
  | .stopWordLink => store.stopWordLinks.size
  | .keyWordLink => store.keyWordLinks.size
  | .codePrefixLink => store.prefixLinks.size
  | .job => store.jobs.size

/-- The store without a row and all that depends on it. -/
def erase (store : Store) (entity : Entity) (id : Int) : Store :=
  match entity with
  | .register => store.eraseRegister id
  | .parcel => store.eraseParcels [id]
  | .stopWord => store.eraseStopWord id
  | .keyWord => store.eraseKeyWord id
  | .keyWordCode =>
    { store with keyWordCodes := store.keyWordCodes.eraseIf fun row => row.id == id }
  | .codeOrder => store.eraseOrder id
  | .codePrefix => store.erasePrefixes [id]
  | .codePrefixException =>
    { store with exceptions := store.exceptions.eraseIf fun row => row.id == id }
  | .catalogueCode =>
    { store with catalogue := store.catalogue.eraseIf fun row => row.id == id }
  | .stopWordLink =>
    { store with stopWordLinks := store.stopWordLinks.eraseIf fun row => row.id == id }
  | .keyWordLink =>
    { store with keyWordLinks := store.keyWordLinks.eraseIf fun row => row.id == id }
  | .codePrefixLink =>
    { store with prefixLinks := store.prefixLinks.eraseIf fun row => row.id == id }
  | .job => { store with jobs := store.jobs.eraseIf fun row => row.id == id }

/-- A vocabulary for each row of one that deleting a row deletes. -/
def touchedByErasing (store : Store) (entity : Entity) (id : Int) : List Word.Vocabulary :=
  match entity with
  | .stopWord => [.stopWords]
  | .keyWord =>
    let codes := store.keyWordCodes.rows.countP fun row => row.val.keyWord == id
    List.replicate (codes + 1) .keyWords
  | .keyWordCode => [.keyWords]
  | _ => []

/-- A row deleted with all that depends on it; how many rows of its kind are left. -/
def delete (store : Store) (entity : Entity) (id : Int) : Except Fault (Change Nat) :=
  if store.hasRow entity id then
    let after := store.erase entity id
    .ok ⟨after, after.count entity, store.touchedByErasing entity id⟩
  else .error (.missing entity)

end Clearance.Store
