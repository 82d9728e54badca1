import SingBox.Foundation.Bolt
import SingBox.Foundation.Netip
import SingBox.Foundation.TwoWayMap

/-! # FakeIP storages

`MemoryStorage` keeps three maps: the domain of an address, and the address of
a domain for each address family. `CacheFile` keeps the same data in three
buckets that are created when they are first needed, and looks at the saves
that are still on their way before it reads the database.
-/

namespace SingBox.FakeIP

open Netip Bolt Function

/-- The addresses a FakeIP range hands out: valid and without a zone. -/
@[ext] structure Address where
  addr : Addr
  isValid : addr.isValid = true
  noZone : addr.withoutZone = addr

namespace Address

instance : DecidableEq Address := fun _ _ => decidable_of_iff _ Address.ext_iff.symm

variable (address : Address)

def is4 : Bool := address.addr.is4

def asSlice : Bytes := address.addr.asSlice

theorem fromSlice_asSlice : Addr.fromSlice address.asSlice = address.addr := by
  rw [asSlice, Addr.fromSlice_asSlice, address.noZone]

theorem asSlice_injective : Function.Injective asSlice := by
  intro left right equal
  have addresses : left.addr = right.addr := by
    rw [← left.fromSlice_asSlice, ← right.fromSlice_asSlice, equal]
  cases left
  cases right
  cases addresses
  rfl

theorem asSlice_length : address.asSlice.length = 4 ∨ address.asSlice.length = 16 := by
  rcases address with ⟨addr, isValid, _⟩
  cases addr with
  | invalid => cases isValid
  | v4 bits => exact .inl (Bytes.bigEndian_length 4 _)
  | v6 => exact .inr (Bytes.bigEndian_length 16 _)

end Address

structure Domain where
  name : Bytes
  nonempty : name ≠ []
  deriving DecidableEq

/-- What both storages are asked to do. Loads change nothing. -/
inductive Update
  | store (address : Address) (domain : Domain)
  | reset
  deriving DecidableEq

/-! ## The memory storage -/

structure MemoryStorage where
  addressCache : Addr → Option Bytes
  domainCache4 : Bytes → Option Addr
  domainCache6 : Bytes → Option Addr

namespace MemoryStorage

def new : MemoryStorage where
  addressCache _ := none
  domainCache4 _ := none
  domainCache6 _ := none

def fakeIPStore (storage : MemoryStorage) (address : Addr) (domain : Bytes) : MemoryStorage where
  addressCache := Function.update storage.addressCache address (some domain)
  domainCache4 :=
    if address.is4 then
      TwoWayMap.rename storage.domainCache4 (storage.addressCache address) address domain
    else storage.domainCache4
  domainCache6 :=
    if address.is4 then storage.domainCache6
    else TwoWayMap.rename storage.domainCache6 (storage.addressCache address) address domain

def fakeIPReset (_ : MemoryStorage) : MemoryStorage := new

def fakeIPLoad (storage : MemoryStorage) (address : Addr) : Bytes × Bool :=
  match storage.addressCache address with
  | some domain => (domain, true)
  | none => ([], false)

def fakeIPLoadDomain (storage : MemoryStorage) (domain : Bytes) (isIPv6 : Bool) : Addr × Bool :=
  match if isIPv6 then storage.domainCache6 domain else storage.domainCache4 domain with
  | some address => (address, true)
  | none => (.invalid, false)

def update (storage : MemoryStorage) : Update → MemoryStorage
  | .store address domain => storage.fakeIPStore address.addr domain.name
  | .reset => storage.fakeIPReset

/-- The maps of the storage; the families are `false` for IPv4 and `true` for
all other addresses. -/
def twoWay (storage : MemoryStorage) : TwoWayMap Bool Addr Bytes where
  name := storage.addressCache
  key isIPv6 := if isIPv6 then storage.domainCache6 else storage.domainCache4

def isIPv6 (address : Addr) : Bool := !address.is4

theorem twoWay_fakeIPStore (storage : MemoryStorage) (address : Addr) (domain : Bytes) :
    (storage.fakeIPStore address domain).twoWay =
      storage.twoWay.assign isIPv6 address domain := by
  unfold twoWay TwoWayMap.assign
  congr 1
  funext group
  cases family : address.is4 <;> cases group <;> simp [fakeIPStore, isIPv6, family]

variable {address : Addr} {domain : Bytes} {storage : MemoryStorage} {group : Bool}

theorem fakeIPLoad_eq_iff :
    storage.fakeIPLoad address = (domain, true) ↔ storage.twoWay.name address = some domain := by
  change (match storage.addressCache address with
    | some domain => (domain, true)
    | none => ([], false)) = _ ↔ storage.addressCache address = _
  cases storage.addressCache address <;> simp

theorem fakeIPLoadDomain_eq_iff :
    storage.fakeIPLoadDomain domain group = (address, true) ↔
      storage.twoWay.key group domain = some address := by
  have isKey : storage.twoWay.key group domain =
      if group then storage.domainCache6 domain else storage.domainCache4 domain := by
    cases group <;> rfl
  rw [fakeIPLoadDomain, isKey]
  cases if group then storage.domainCache6 domain else storage.domainCache4 domain <;> simp

theorem fakeIPLoadDomain_of_none (missing : storage.twoWay.key group domain = none) :
    storage.fakeIPLoadDomain domain group = (.invalid, false) := by
  cases isLoaded : storage.fakeIPLoadDomain domain group with
  | mk _ loaded =>
    cases loaded with
    | true =>
      rw [fakeIPLoadDomain_eq_iff.mp isLoaded] at missing
      cases missing
    | false =>
      unfold fakeIPLoadDomain at isLoaded
      split at isLoaded
      · cases isLoaded
      · exact isLoaded.symm

end MemoryStorage

/-! ## The cache file -/

def bucketFakeIP : Bytes := Bytes.ofString "fakeip_address"
def bucketFakeIPDomain4 : Bytes := Bytes.ofString "fakeip_domain4"
def bucketFakeIPDomain6 : Bytes := Bytes.ofString "fakeip_domain6"

def domainBucket (isIPv6 : Bool) : Bytes :=
  if isIPv6 then bucketFakeIPDomain6 else bucketFakeIPDomain4

/-- The fields of `CacheFile` that serve the FakeIP storage. -/
structure CacheFile where
  saveDomain : Address → Option Bytes
  saveAddress4 : Bytes → Option Address
  saveAddress6 : Bytes → Option Address
  db : Database

namespace CacheFile

def new : CacheFile where
  saveDomain _ := none
  saveAddress4 _ := none
  saveAddress6 _ := none
  db := .empty

variable (address : Address)

def storeTransaction (domain : Domain) : Tx Unit := do
  Tx.createBucketIfNotExists [] bucketFakeIP
  let oldDomain ← Tx.get [bucketFakeIP] address.asSlice
  Tx.put [bucketFakeIP] address.asSlice domain.name
  let bucket := domainBucket !address.is4
  Tx.createBucketIfNotExists [] bucket
  match oldDomain with
  | some oldDomain => Tx.delete [bucket] oldDomain
  | none => pure ()
  Tx.put [bucket] domain.name address.asSlice

def resetTransaction : Tx Unit := do
  Tx.deleteBucket [] bucketFakeIP
  Tx.deleteBucket [] bucketFakeIPDomain4
  Tx.deleteBucket [] bucketFakeIPDomain6

variable (file : CacheFile) {domain : Domain}

def fakeIPStore (address : Address) (domain : Domain) : CacheFile :=
  { file with db := (batch (storeTransaction address domain) file.db).1 }

def fakeIPReset : CacheFile :=
  { file with db := (batch resetTransaction file.db).1 }

def fakeIPLoad (address : Address) : Bytes × Bool :=
  match file.saveDomain address with
  | some cachedDomain => (cachedDomain, true)
  | none =>
    let domain := (file.db.get [bucketFakeIP] address.asSlice).getD []
    (domain, domain != [])

/-- `addrFromIP` is `M.AddrFromIP` of the `sing` library. -/
def fakeIPLoadDomain (addrFromIP : Bytes → Addr) (file : CacheFile) (domain : Bytes)
    (isIPv6 : Bool) : Addr × Bool :=
  match if isIPv6 then file.saveAddress6 domain else file.saveAddress4 domain with
  | some cachedAddress => (cachedAddress.addr, true)
  | none =>
    let address := addrFromIP ((file.db.get [domainBucket isIPv6] domain).getD [])
    (address, address.isValid)

def update : Update → CacheFile
  | .store address domain => file.fakeIPStore address domain
  | .reset => file.fakeIPReset

/-! ## What the transactions do -/

def stored (db : Database) (address : Address) (domain : Domain) : Database :=
  let bucket := domainBucket !address.is4
  let created := ((db.create [bucketFakeIP]).insert [bucketFakeIP] address.asSlice
    domain.name).create [bucket]
  let cleared :=
    match db.get [bucketFakeIP] address.asSlice with
    | some oldDomain => created.erase [bucket] oldDomain
    | none => created
  cleared.insert [bucket] domain.name address.asSlice

private theorem createBucketIfNotExists_ok {name : Bytes} (named : name ≠ [])
    (fits : name.length ≤ maxKeySize) (db : Database) :
    Tx.createBucketIfNotExists [] name db = .ok ((), db.create [name]) := by
  simp [Tx.createBucketIfNotExists, named, Nat.not_lt.mpr fits]

private theorem domainBucket_named (isIPv6 : Bool) : domainBucket isIPv6 ≠ [] := by
  cases isIPv6 <;> decide

private theorem domainBucket_fits (isIPv6 : Bool) : (domainBucket isIPv6).length ≤ maxKeySize := by
  cases isIPv6 <;> decide

private theorem put_ok {key value : Bytes} (named : key ≠ []) (fits : key.length ≤ maxKeySize)
    (valueFits : value.length ≤ maxValueSize) (path : Path) (db : Database) :
    Tx.put path key value db = .ok ((), db.insert path key value) := by
  simp [Tx.put, named, Nat.not_lt.mpr fits, Nat.not_lt.mpr valueFits]

private theorem asSlice_ne_nil : address.asSlice ≠ [] := by
  intro isNil
  rcases address.asSlice_length with short | long
  · rw [isNil] at short
    cases short
  · rw [isNil] at long
    cases long

private theorem asSlice_fits : address.asSlice.length ≤ maxKeySize := by
  rcases address.asSlice_length with short | long
  · rw [short]
    decide
  · rw [long]
    decide

theorem storeTransaction_of_fits (fits : domain.name.length ≤ maxKeySize) (db : Database) :
    storeTransaction address domain db = .ok ((), stored db address domain) := by
  have sliceFits := asSlice_fits address
  have small : maxKeySize ≤ maxValueSize := by decide
  have created := createBucketIfNotExists_ok (by decide : bucketFakeIP ≠ []) (by decide) db
  have put := put_ok (asSlice_ne_nil address) sliceFits (fits.trans small) [bucketFakeIP]
    (db.create [bucketFakeIP])
  have bucket := createBucketIfNotExists_ok (domainBucket_named !address.is4)
    (domainBucket_fits !address.is4)
    ((db.create [bucketFakeIP]).insert [bucketFakeIP] address.asSlice domain.name)
  have putDomain := put_ok domain.nonempty fits (sliceFits.trans small) [domainBucket !address.is4]
  simp only [storeTransaction, stored, bind, StateT.bind, Except.bind, created, Tx.run_get, put,
    bucket, Database.get_create]
  cases db.get [bucketFakeIP] address.asSlice with
  | none | some oldDomain => exact putDomain _

theorem storeTransaction_of_long (long : maxKeySize < domain.name.length) (db : Database) :
    ∃ error, storeTransaction address domain db = .error error := by
  have created := createBucketIfNotExists_ok (by decide : bucketFakeIP ≠ []) (by decide) db
  have bucket := createBucketIfNotExists_ok (domainBucket_named !address.is4)
    (domainBucket_fits !address.is4)
  have putDomain : ∀ db : Database, Tx.put [domainBucket !address.is4] domain.name
      address.asSlice db = .error .keyTooLarge := by
    intro db
    simp [Tx.put, domain.nonempty, long]
  simp only [storeTransaction, bind, StateT.bind, Except.bind, created, Tx.run_get]
  cases Tx.put [bucketFakeIP] address.asSlice domain.name (db.create [bucketFakeIP]) with
  | error error => exact ⟨error, rfl⟩
  | ok =>
    simp only [bucket, Database.get_create]
    cases db.get [bucketFakeIP] address.asSlice with
    | none | some oldDomain => exact ⟨_, putDomain _⟩

def cleared (db : Database) : Database :=
  ((db.remove [bucketFakeIP]).remove [bucketFakeIPDomain4]).remove [bucketFakeIPDomain6]

private theorem bucketNames : bucketFakeIP ≠ bucketFakeIPDomain4 ∧
    bucketFakeIP ≠ bucketFakeIPDomain6 ∧ bucketFakeIPDomain4 ≠ bucketFakeIPDomain6 := by
  decide

theorem batch_resetTransaction (db : Database) :
    (batch resetTransaction db).1 =
      if db.hasBucket [bucketFakeIP] && db.hasBucket [bucketFakeIPDomain4] &&
        db.hasBucket [bucketFakeIPDomain6] then cleared db else db := by
  rcases bucketNames with ⟨not4, not6, different⟩
  simp only [batch, resetTransaction, bind, StateT.bind, Except.bind, Tx.deleteBucket,
    List.nil_append]
  cases hasAddress : db.hasBucket [bucketFakeIP] with
  | false => simp
  | true =>
    cases has4 : db.hasBucket [bucketFakeIPDomain4] with
    | false => simp [Database.hasBucket_remove, has4]
    | true =>
      cases has6 : db.hasBucket [bucketFakeIPDomain6] with
      | false => simp [Database.hasBucket_remove, has4, has6, not4]
      | true => simp [Database.hasBucket_remove, has4, has6, not4, not6, different, cleared]

end CacheFile

end SingBox.FakeIP
