import SingBox.FakeIP.Storage

/-! # The persistent FakeIP storage and the memory storage

`Represents` relates the buckets of the cache file to the maps of the memory
storage. Stores of domains that fit a database key keep it. A reset keeps it
when nothing is stored or when both address families are: with one family
only, the bucket of the other is missing, deleting it fails, and the failed
transaction leaves everything in place.
-/

namespace SingBox.FakeIP

open Netip Bolt MemoryStorage Database List

def SameLoads (addrFromIP : Bytes → Addr) (file : CacheFile) (memory : MemoryStorage) : Prop :=
  (∀ address : Address, file.fakeIPLoad address = memory.fakeIPLoad address.addr) ∧
    ∀ domain isIPv6, file.fakeIPLoadDomain addrFromIP domain isIPv6 =
      memory.fakeIPLoadDomain domain isIPv6

def MemoryStorage.HasFamily (memory : MemoryStorage) (isIPv6 : Bool) : Prop :=
  ∃ address : Address, address.is4 = !isIPv6 ∧ (memory.addressCache address.addr).isSome

structure Represents (file : CacheFile) (memory : MemoryStorage) : Prop where
  saveDomain : ∀ address, file.saveDomain address = none
  saveAddress4 : ∀ domain, file.saveAddress4 domain = none
  saveAddress6 : ∀ domain, file.saveAddress6 domain = none
  address : ∀ address : Address,
    file.db.get [bucketFakeIP] address.asSlice = memory.addressCache address.addr
  domain : ∀ isIPv6 domain, ∃ address : Option Address,
    memory.twoWay.key isIPv6 domain = address.map Address.addr ∧
      file.db.get [domainBucket isIPv6] domain = address.map Address.asSlice
  addressBucket : file.db.hasBucket [bucketFakeIP] = true ↔
    ∃ isIPv6, memory.HasFamily isIPv6
  familyBucket : ∀ isIPv6, file.db.hasBucket [domainBucket isIPv6] = true ↔
    memory.HasFamily isIPv6
  fits : ∀ (address : Address) domain, memory.addressCache address.addr = some domain →
    domain ≠ [] ∧ domain.length ≤ maxKeySize

theorem represents_new : Represents .new .new where
  saveDomain _ := rfl
  saveAddress4 _ := rfl
  saveAddress6 _ := rfl
  address _ := rfl
  domain isIPv6 _ := ⟨none, by cases isIPv6 <;> rfl, rfl⟩
  addressBucket := by
    simp [CacheFile.new, MemoryStorage.HasFamily, new]
  familyBucket isIPv6 := by
    simp [CacheFile.new, MemoryStorage.HasFamily, new]
  fits _ _ isStored := by cases isStored

variable {file : CacheFile} {memory : MemoryStorage} {addrFromIP : Bytes → Addr}

/-! ## Loads -/

theorem Represents.sameLoads (parses : ∀ slice, addrFromIP slice = Addr.fromSlice slice)
    (represents : Represents file memory) : SameLoads addrFromIP file memory := by
  constructor
  · intro address
    simp only [CacheFile.fakeIPLoad, fakeIPLoad, represents.saveDomain, represents.address]
    cases isStored : memory.addressCache address.addr with
    | none => rfl
    | some domain =>
      have nonempty := (represents.fits address domain isStored).1
      simp [nonempty]
  · intro domain isIPv6
    have noSave : (if isIPv6 then file.saveAddress6 domain else file.saveAddress4 domain) =
        none := by
      cases isIPv6
      · exact represents.saveAddress4 domain
      · exact represents.saveAddress6 domain
    rcases represents.domain isIPv6 domain with ⟨address, isKey, isGet⟩
    simp only [CacheFile.fakeIPLoadDomain, noSave, isGet]
    cases address with
    | none =>
      rw [fakeIPLoadDomain_of_none isKey]
      simp [parses, Addr.fromSlice, Addr.isValid]
    | some address =>
      rw [fakeIPLoadDomain_eq_iff.mpr isKey]
      simp [parses, address.fromSlice_asSlice, address.isValid]

/-! ## Stores -/

private theorem domainBucket_ne (isIPv6 : Bool) : domainBucket isIPv6 ≠ bucketFakeIP := by
  cases isIPv6 <;> decide

private theorem domainBucket_injective {left right : Bool}
    (equal : domainBucket left = domainBucket right) : left = right := by
  cases left <;> cases right <;> first | rfl | exact absurd equal (by decide)

section

variable (db : Database) (address : Address) (domain : Domain)

private theorem stored_get_address (key : Bytes) :
    (CacheFile.stored db address domain).get [bucketFakeIP] key =
      if key = address.asSlice then some domain.name else db.get [bucketFakeIP] key := by
  have different := (domainBucket_ne !address.is4).symm
  simp only [CacheFile.stored]
  cases db.get [bucketFakeIP] address.asSlice <;>
    simp [get_insert, get_erase, different]

private theorem stored_get_domain (isIPv6 : Bool) (key : Bytes) :
    (CacheFile.stored db address domain).get [domainBucket isIPv6] key =
      if isIPv6 = !address.is4 then
        if key = domain.name then some address.asSlice
        else if db.get [bucketFakeIP] address.asSlice = some key then none
        else db.get [domainBucket isIPv6] key
      else db.get [domainBucket isIPv6] key := by
  have different := domainBucket_ne isIPv6
  by_cases family : isIPv6 = !address.is4
  · subst family
    simp only [CacheFile.stored]
    cases db.get [bucketFakeIP] address.asSlice with
    | none => simp [get_insert, different]
    | some oldDomain =>
      by_cases same : key = domain.name
      · simp [get_insert, same]
      by_cases old : key = oldDomain
      · simp [get_insert, get_erase, old]
      · simp [get_insert, get_erase, different, old, Ne.symm old]
  · have other : domainBucket isIPv6 ≠ domainBucket !address.is4 :=
      fun equal => family (domainBucket_injective equal)
    simp only [CacheFile.stored, family]
    cases db.get [bucketFakeIP] address.asSlice <;>
      simp [get_insert, get_erase, different, other]

private theorem stored_hasBucket (name : Bytes) :
    (CacheFile.stored db address domain).hasBucket [name] =
      (decide (name = domainBucket !address.is4) || decide (name = bucketFakeIP) ||
        db.hasBucket [name]) := by
  simp only [CacheFile.stored]
  cases db.get [bucketFakeIP] address.asSlice <;> simp [Bool.or_assoc]

end

theorem MemoryStorage.hasFamily_fakeIPStore (memory : MemoryStorage) (address : Address)
    (domain : Domain) (isIPv6 : Bool) :
    (memory.fakeIPStore address.addr domain.name).HasFamily isIPv6 ↔
      isIPv6 = (!address.is4) ∨ memory.HasFamily isIPv6 := by
  constructor
  · rintro ⟨other, family, isStored⟩
    by_cases same : other = address
    · subst same
      exact .inl (by rw [family, Bool.not_not])
    · refine .inr ⟨other, family, ?_⟩
      simpa [fakeIPStore, Address.ext_iff.not.mp same] using isStored
  · rintro (family | ⟨other, family, isStored⟩)
    · refine ⟨address, by rw [family, Bool.not_not], ?_⟩
      simp [fakeIPStore]
    · refine ⟨other, family, ?_⟩
      by_cases same : other = address
      · simp [fakeIPStore, same]
      · simpa [fakeIPStore, Address.ext_iff.not.mp same] using isStored

theorem Represents.fakeIPStore (represents : Represents file memory) (address : Address)
    {domain : Domain} (fits : domain.name.length ≤ maxKeySize) :
    Represents (file.fakeIPStore address domain) (memory.fakeIPStore address.addr domain.name) := by
  have committed : (file.fakeIPStore address domain).db =
      CacheFile.stored file.db address domain := by
    rw [CacheFile.fakeIPStore, batch_of_ok (CacheFile.storeTransaction_of_fits address fits _)]
  constructor
  · exact represents.saveDomain
  · exact represents.saveAddress4
  · exact represents.saveAddress6
  · intro other
    rw [committed, stored_get_address, represents.address]
    by_cases same : other = address
    · simp [MemoryStorage.fakeIPStore, same]
    have slices : other.asSlice ≠ address.asSlice :=
      fun equal => same (Address.asSlice_injective equal)
    simp [MemoryStorage.fakeIPStore, Address.ext_iff.not.mp same, slices]
  · intro isIPv6 key
    rw [committed, stored_get_domain, twoWay_fakeIPStore, TwoWayMap.key_assign, represents.address]
    change ∃ _, (if isIPv6 = !address.is4 then if key = domain.name then _ else
      if memory.addressCache address.addr = some key then _ else _ else _) = _ ∧ _
    split_ifs
    · exact ⟨some address, rfl, rfl⟩
    · exact ⟨none, rfl, rfl⟩
    · exact represents.domain isIPv6 key
    · exact represents.domain isIPv6 key
  · rw [committed, stored_hasBucket]
    simp only [decide_true, Bool.or_true, Bool.true_or, true_iff]
    exact ⟨!address.is4, (memory.hasFamily_fakeIPStore address domain _).mpr (.inl rfl)⟩
  · intro isIPv6
    have different := domainBucket_ne isIPv6
    rw [committed, stored_hasBucket, memory.hasFamily_fakeIPStore, ← represents.familyBucket isIPv6]
    have sameBucket : domainBucket isIPv6 = domainBucket (!address.is4) ↔
        isIPv6 = !address.is4 :=
      ⟨domainBucket_injective, fun family => by rw [family]⟩
    simp [different, sameBucket]
  · intro other name isStored
    by_cases same : other = address
    · have isName : domain.name = name := by
        simpa [MemoryStorage.fakeIPStore, same] using isStored
      subst isName
      exact ⟨domain.nonempty, fits⟩
    · exact represents.fits other name (by
        simpa [MemoryStorage.fakeIPStore, Address.ext_iff.not.mp same] using isStored)

/-! ## Resets -/

private theorem hasFamily_new (isIPv6 : Bool) : ¬ new.HasFamily isIPv6 := by
  rintro ⟨_, _, isStored⟩
  cases isStored

section

variable (represents : Represents file memory)
include represents

private theorem represents_new_of_empty {db : Database}
    (noKey : ∀ path key, path = [bucketFakeIP] ∨ (∃ isIPv6, path = [domainBucket isIPv6]) →
      db.get path key = none)
    (noBucket : ∀ path, path = [bucketFakeIP] ∨ (∃ isIPv6, path = [domainBucket isIPv6]) →
      db.hasBucket path = false) :
    Represents { file with db := db } .new where
  __ := represents
  address address := noKey _ _ (.inl rfl)
  domain isIPv6 _ := ⟨none, by cases isIPv6 <;> rfl, noKey _ _ (.inr ⟨isIPv6, rfl⟩)⟩
  addressBucket := by
    rw [noBucket _ (.inl rfl)]
    simp [hasFamily_new]
  familyBucket isIPv6 := by
    rw [noBucket _ (.inr ⟨isIPv6, rfl⟩)]
    simp [hasFamily_new]
  fits _ _ isStored := by cases isStored

theorem Represents.fakeIPReset
    (families : (∀ isIPv6, memory.HasFamily isIPv6) ∨ ∀ isIPv6, ¬ memory.HasFamily isIPv6) :
    Represents file.fakeIPReset memory.fakeIPReset := by
  have noBucket : ∀ db : Database, (∀ isIPv6, db.hasBucket [domainBucket isIPv6] = false) →
      db.hasBucket [bucketFakeIP] = false → ∀ path,
        path = [bucketFakeIP] ∨ (∃ isIPv6, path = [domainBucket isIPv6]) →
          db.hasBucket path = false := by
    intro db noDomain noAddress path isPath
    rcases isPath with rfl | ⟨isIPv6, rfl⟩
    · exact noAddress
    · exact noDomain isIPv6
  have hasAddress := represents.addressBucket
  have has4 := represents.familyBucket false
  have has6 := represents.familyBucket true
  simp only [domainBucket, Bool.false_eq_true, if_false, if_true] at has4 has6
  rw [CacheFile.fakeIPReset, CacheFile.batch_resetTransaction, MemoryStorage.fakeIPReset]
  rcases families with both | none
  · rw [hasAddress.mpr ⟨false, both false⟩, has4.mpr (both false), has6.mpr (both true)]
    have missing := noBucket (CacheFile.cleared file.db)
      (by
        intro isIPv6
        cases isIPv6 <;> simp [CacheFile.cleared, hasBucket_remove, domainBucket])
      (by simp [CacheFile.cleared, hasBucket_remove])
    exact represents_new_of_empty represents
      (fun path key isPath => get_eq_none_of_hasBucket _ (missing path isPath) key) missing
  · have noAddress : file.db.hasBucket [bucketFakeIP] = false := by
      rw [Bool.eq_false_iff, Ne, hasAddress]
      rintro ⟨isIPv6, family⟩
      exact none isIPv6 family
    have missing := noBucket file.db
      (by
        intro isIPv6
        rw [Bool.eq_false_iff, Ne, represents.familyBucket]
        exact none isIPv6)
      noAddress
    rw [noAddress]
    exact represents_new_of_empty represents
      (fun path key isPath => get_eq_none_of_hasBucket _ (missing path isPath) key) missing

/-! ## Whole runs -/

/-- The update leaves both storages alike: a stored domain fits a database key,
and a reset finds no address or addresses of both families. -/
def Fits (memory : MemoryStorage) : Update → Prop
  | .store _ domain => domain.name.length ≤ maxKeySize
  | .reset => (∀ isIPv6, memory.HasFamily isIPv6) ∨ ∀ isIPv6, ¬ memory.HasFamily isIPv6

def FitsAll : MemoryStorage → List Update → Prop
  | _, [] => True
  | memory, update :: updates => Fits memory update ∧ FitsAll (memory.update update) updates

theorem Represents.update {update : Update}
    (fits : Fits memory update) : Represents (file.update update) (memory.update update) := by
  cases update with
  | store address => exact represents.fakeIPStore address fits
  | reset => exact represents.fakeIPReset fits

private theorem Represents.fakeIPLoad_of_stored {address : Address} {domain : Bytes}
    (isStored : memory.addressCache address.addr = some domain) :
    file.fakeIPLoad address = (domain, true) := by
  have nonempty := (represents.fits address domain isStored).1
  simp [CacheFile.fakeIPLoad, represents.saveDomain, represents.address, isStored, nonempty]

variable {addrFromIP : Bytes → Addr}

/-- An update that does not fit is seen by a load. -/
theorem Represents.not_sameLoads {update : Update} (misfit : ¬ Fits memory update) :
    ¬ SameLoads addrFromIP (file.update update) (memory.update update) := by
  rintro ⟨sameLoad, _⟩
  cases update with
  | store address domain =>
    have long : maxKeySize < domain.name.length := Nat.not_le.mp misfit
    rcases CacheFile.storeTransaction_of_long address long file.db with ⟨error, failed⟩
    have unchanged : file.fakeIPStore address domain = file := by
      rw [CacheFile.fakeIPStore, batch_of_error failed]
    have load := sameLoad address
    change (file.fakeIPStore address domain).fakeIPLoad address = _ at load
    have new : (memory.fakeIPStore address.addr domain.name).fakeIPLoad address.addr =
        (domain.name, true) := by
      simp [MemoryStorage.fakeIPStore, fakeIPLoad]
    rw [unchanged, MemoryStorage.update, new] at load
    cases old : memory.addressCache address.addr with
    | none => simp [CacheFile.fakeIPLoad, represents.saveDomain, represents.address, old] at load
    | some oldDomain =>
      rw [represents.fakeIPLoad_of_stored old] at load
      have short := (represents.fits address oldDomain old).2
      have same : oldDomain = domain.name := congrArg Prod.fst load
      rw [same] at short
      omega
  | reset =>
    rw [Fits, not_or] at misfit
    rcases misfit with ⟨notBoth, notNone⟩
    push Not at notBoth notNone
    rcases notBoth with ⟨missing, noFamily⟩
    rcases notNone with ⟨_, address, _, isStored⟩
    have unchanged : file.fakeIPReset = file := by
      have noBucket : file.db.hasBucket [domainBucket missing] = false := by
        rw [Bool.eq_false_iff, Ne, represents.familyBucket]
        exact noFamily
      rw [CacheFile.fakeIPReset, CacheFile.batch_resetTransaction]
      cases missing with
      | false =>
        change file.db.hasBucket [bucketFakeIPDomain4] = false at noBucket
        simp [noBucket]
      | true =>
        change file.db.hasBucket [bucketFakeIPDomain6] = false at noBucket
        simp [noBucket]
    have load := sameLoad address
    change file.fakeIPReset.fakeIPLoad address = _ at load
    rcases Option.isSome_iff_exists.mp isStored with ⟨_, isStored⟩
    rw [unchanged, represents.fakeIPLoad_of_stored isStored] at load
    cases load

end

private theorem Represents.sameLoads_iff (parses : ∀ slice, addrFromIP slice = Addr.fromSlice slice)
    (represents : Represents file memory) (updates : List Update) :
    (∀ done, done <+: updates → SameLoads addrFromIP (done.foldl CacheFile.update file)
      (done.foldl MemoryStorage.update memory)) ↔ FitsAll memory updates := by
  induction updates generalizing file memory with
  | nil =>
    simp only [prefix_nil, forall_eq, FitsAll, iff_true]
    exact represents.sameLoads parses
  | cons update _ induction =>
    rw [FitsAll]
    constructor
    · intro same
      have fits : Fits memory update := by
        by_contra misfit
        have first := same [update] (by simp)
        exact represents.not_sameLoads misfit first
      refine ⟨fits, (induction (represents.update fits)).mp fun done within => ?_⟩
      exact same (update :: done) (by simpa using within)
    · rintro ⟨fits, rest⟩ _ within
      rcases prefix_cons_iff.mp within with rfl | ⟨later, rfl, laterWithin⟩
      · exact represents.sameLoads parses
      · exact (induction (represents.update fits)).mpr rest later laterWithin

/-- Starting empty, both storages answer every load alike after every update
exactly when every update fits. -/
theorem sameLoads_throughout_iff {addrFromIP : Bytes → Addr}
    (parses : ∀ slice, addrFromIP slice = Addr.fromSlice slice) (updates : List Update) :
    (∀ done, done <+: updates → SameLoads addrFromIP (done.foldl CacheFile.update .new)
      (done.foldl MemoryStorage.update .new)) ↔ FitsAll .new updates :=
  represents_new.sameLoads_iff parses updates

private def address4 : Address := ⟨.v4 0xc6120001, rfl, rfl⟩

private def address6 : Address := ⟨.v6 0xfc000001 "", rfl, rfl⟩

private def exampleDomain : Domain := ⟨Bytes.ofString "example.org", by decide⟩

theorem sameLoads_after_reset_of_both :
    SameLoads Addr.fromSlice
      ([.store address4 exampleDomain, .store address6 exampleDomain, .reset].foldl
        CacheFile.update .new)
      ([.store address4 exampleDomain, .store address6 exampleDomain, .reset].foldl
        MemoryStorage.update .new) := by
  refine (sameLoads_throughout_iff (fun _ => rfl) _).mpr ?_ _ (prefix_refl _)
  have fits : exampleDomain.name.length ≤ maxKeySize := by decide
  refine ⟨fits, fits, .inl fun isIPv6 => ?_, trivial⟩
  cases isIPv6 with
  | false => exact ⟨address4, rfl, by decide⟩
  | true => exact ⟨address6, rfl, by decide⟩

/-- After one IPv4 store and a reset the cache file still finds the address. -/
theorem fakeIPLoad_after_reset_of_one :
    ([.store address4 exampleDomain, .reset].foldl CacheFile.update .new).fakeIPLoad address4 =
        (exampleDomain.name, true) ∧
      ([.store address4 exampleDomain, .reset].foldl MemoryStorage.update .new).fakeIPLoad
        address4.addr = ([], false) := by
  decide

end SingBox.FakeIP
