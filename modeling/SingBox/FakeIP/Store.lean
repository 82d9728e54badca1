import SingBox.FakeIP.Storage
import SingBox.Foundation.Run

/-! # The FakeIP store

`Store.Create` gives the next address of a range to a domain that has none. At
the end of the range it starts again near its beginning, and an address that is
given away a second time is taken from its old domain. Both directions of the
mapping stay inverse to each other if each range hands out valid addresses of
its own family only, which nothing in the configuration ensures.
-/

namespace SingBox.FakeIP

open Netip Function MemoryStorage

namespace MemoryStorage

variable {storage : MemoryStorage}

/-- The address of a domain and the domain of an address are inverse to each
other, for each family. -/
def MutuallyInverse (storage : MemoryStorage) : Prop :=
  ∀ domain group address, storage.fakeIPLoadDomain domain group = (address, true) ↔
    storage.fakeIPLoad address = (domain, true) ∧ isIPv6 address = group

theorem mutuallyInverse_iff : storage.MutuallyInverse ↔ storage.twoWay.Inverse isIPv6 := by
  unfold MutuallyInverse TwoWayMap.Inverse
  simp only [fakeIPLoad_eq_iff, fakeIPLoadDomain_eq_iff]
  exact forall_comm

end MemoryStorage

/-! ## The store -/

/-- The ranges of the configuration. A missing one is the zero prefix. -/
structure Ranges where
  inet4Range : Prefix
  inet6Range : Prefix

structure Store where
  inet4Current : Addr
  inet6Current : Addr
  storage : MemoryStorage

/-- The last address of a prefix. Bit `index` of the sixteen bytes is counted
from the left. -/
def broadcastAddress (subnet : Prefix) : Addr :=
  let bits := if subnet.addr.is4 then subnet.bits + 96 else subnet.bits
  let raw := (List.range' bits (128 - bits)).foldl
    (fun raw index => raw ||| (1#128 <<< (127 - index))) subnet.addr.as16
  if subnet.addr.is4 then .v4 (raw.extractLsb' 0 32) else .v6 raw ""

namespace Ranges

variable (ranges : Ranges)

/-- The last addresses are set by `NewStore`. -/
def inet4Last : Addr :=
  if ranges.inet4Range.isValid then broadcastAddress ranges.inet4Range else .invalid

def inet6Last : Addr :=
  if ranges.inet6Range.isValid then broadcastAddress ranges.inet6Range else .invalid

/-- `Store.Start` with a memory storage. -/
def start : Store where
  inet4Current :=
    if ranges.inet4Range.isValid then ranges.inet4Range.addr.next else .invalid
  inet6Current :=
    if ranges.inet6Range.isValid then ranges.inet6Range.addr.next else .invalid
  storage := .new

def range (isIPv6 : Bool) : Prefix := if isIPv6 then ranges.inet6Range else ranges.inet4Range

def last (isIPv6 : Bool) : Addr := if isIPv6 then ranges.inet6Last else ranges.inet4Last

end Ranges

/-- The address that follows `current` in a range, starting again at its end. -/
def nextAddress (range : Prefix) (last current : Addr) : Addr :=
  if current.next = last ∨ range.contains current.next = false then range.addr.next.next
  else current.next

namespace Store

variable (ranges : Ranges) (store : Store)

def create (domain : Bytes) (isIPv6 : Bool) : Store × Except String Addr :=
  match store.storage.fakeIPLoadDomain domain isIPv6 with
  | (address, true) => (store, .ok address)
  | (_, false) =>
    if !isIPv6 then
      if !store.inet4Current.isValid then
        (store, .error "missing IPv4 fakeip address range")
      else
        let address := nextAddress ranges.inet4Range ranges.inet4Last store.inet4Current
        ({ store with
            inet4Current := address
            storage := store.storage.fakeIPStore address domain }, .ok address)
    else if !store.inet6Current.isValid then
      (store, .error "missing IPv6 fakeip address range")
    else
      let address := nextAddress ranges.inet6Range ranges.inet6Last store.inet6Current
      ({ store with
          inet6Current := address
          storage := store.storage.fakeIPStore address domain }, .ok address)

def lookup (address : Addr) : Bytes × Bool := store.storage.fakeIPLoad address

def reset : Store := { store with storage := store.storage.fakeIPReset }

end Store

inductive StoreAction
  | create (domain : Bytes) (isIPv6 : Bool)
  | reset
  deriving DecidableEq

def Store.act (ranges : Ranges) (store : Store) : StoreAction → Store
  | .create domain isIPv6 => (store.create ranges domain isIPv6).1
  | .reset => store.reset

abbrev StoreRun (ranges : Ranges) (initial : Store) (actions : List StoreAction) (store : Store) :
    Prop :=
  Run (fun store action after => after = store.act ranges action) initial actions store

/-! ## One call of `Create` -/

variable {actions : List StoreAction} {isIPv6 : Bool} {address : Addr}

namespace Store

variable {ranges : Ranges} {store : Store}

def current (store : Store) (isIPv6 : Bool) : Addr :=
  if isIPv6 then store.inet6Current else store.inet4Current

theorem create_cases (ranges : Ranges) (store : Store) (domain : Bytes) (isIPv6 : Bool) :
    (∃ address, store.storage.twoWay.key isIPv6 domain = some address ∧
      store.create ranges domain isIPv6 = (store, .ok address)) ∨
    (store.storage.twoWay.key isIPv6 domain = none ∧ (store.current isIPv6).isValid = false ∧
      ∃ err, store.create ranges domain isIPv6 = (store, .error err)) ∨
    ∃ after, store.storage.twoWay.key isIPv6 domain = none ∧
      (store.current isIPv6).isValid = true ∧
      after.current isIPv6 =
        nextAddress (ranges.range isIPv6) (ranges.last isIPv6) (store.current isIPv6) ∧
      after.current (!isIPv6) = store.current (!isIPv6) ∧
      after.storage = store.storage.fakeIPStore (after.current isIPv6) domain ∧
      store.create ranges domain isIPv6 = (after, .ok (after.current isIPv6)) := by
  cases isKey : store.storage.twoWay.key isIPv6 domain with
  | some address =>
    have loaded := fakeIPLoadDomain_eq_iff.mpr isKey
    refine .inl ⟨address, rfl, ?_⟩
    rw [create, loaded]
  | none =>
    have missing := fakeIPLoadDomain_of_none isKey
    right
    cases isCurrent : (store.current isIPv6).isValid with
    | false =>
      refine .inl ⟨rfl, rfl, ?_⟩
      cases isIPv6 <;> rw [current] at isCurrent <;> simp_all [create]
    | true =>
      refine .inr ⟨(store.create ranges domain isIPv6).1, rfl, rfl, ?_⟩
      cases isIPv6 <;> rw [current] at isCurrent <;>
        simp_all [create, current, Ranges.range, Ranges.last]

end Store

/-! ## Ranges that keep to their family -/

/-- Each range is of its own family, and its address is not the last but one of
the address space. -/
def Ranges.KeepFamily (ranges : Ranges) : Prop :=
  ∀ isIPv6, (ranges.range isIPv6).isValid = true →
    MemoryStorage.isIPv6 (ranges.range isIPv6).addr = isIPv6 ∧
      ((ranges.range isIPv6).addr.next.isValid = true →
        (ranges.range isIPv6).addr.next.next.isValid = true)

structure Store.Sound (ranges : Ranges) (store : Store) : Prop where
  inverse : store.storage.twoWay.Inverse MemoryStorage.isIPv6
  current : ∀ isIPv6, (store.current isIPv6).isValid = true →
    MemoryStorage.isIPv6 (store.current isIPv6) = isIPv6 ∧
      (ranges.range isIPv6).isValid = true ∧ (ranges.range isIPv6).addr.next.isValid = true

section

variable {ranges : Ranges} {store : Store}

private theorem isIPv6_next (valid : address.next.isValid = true) :
    MemoryStorage.isIPv6 address.next = MemoryStorage.isIPv6 address := by
  rw [MemoryStorage.isIPv6, MemoryStorage.isIPv6, Addr.is4_next valid]

theorem isIPv6_nextAddress {range : Prefix} (last current : Addr)
    (family : MemoryStorage.isIPv6 range.addr = isIPv6)
    (second : range.addr.next.next.isValid = true) :
    MemoryStorage.isIPv6 (nextAddress range last current) = isIPv6 := by
  unfold nextAddress
  split
  · have first := Addr.isValid_of_next second
    rw [isIPv6_next second, isIPv6_next first]
    exact family
  · next inside =>
    rw [not_or, Bool.not_eq_false] at inside
    rw [MemoryStorage.isIPv6, Prefix.is4_of_contains inside.2]
    exact family

theorem twoWay_new : MemoryStorage.new.twoWay = .empty := by
  unfold MemoryStorage.twoWay TwoWayMap.empty
  congr 1
  funext isIPv6
  cases isIPv6 <;> rfl

theorem Ranges.start_current (valid : (ranges.start.current isIPv6).isValid = true) :
    ranges.start.current isIPv6 = (ranges.range isIPv6).addr.next ∧
      (ranges.range isIPv6).isValid = true ∧
      (ranges.range isIPv6).addr.next.isValid = true := by
  have isCurrent : ranges.start.current isIPv6 =
      if (ranges.range isIPv6).isValid then (ranges.range isIPv6).addr.next else .invalid := by
    cases isIPv6 <;> rfl
  rw [isCurrent] at valid ⊢
  split at valid
  · next isRange => exact ⟨if_pos isRange, isRange, valid⟩
  · cases valid

theorem Ranges.start_sound (keepFamily : ranges.KeepFamily) : ranges.start.Sound ranges where
  inverse := by
    change MemoryStorage.new.twoWay.Inverse _
    rw [twoWay_new]
    exact TwoWayMap.inverse_empty _
  current isIPv6 valid := by
    rcases Ranges.start_current valid with ⟨isFirst, isRange, first⟩
    rw [isFirst, isIPv6_next first]
    exact ⟨(keepFamily isIPv6 isRange).1, isRange, first⟩

namespace Store.Sound

section

variable (sound : store.Sound ranges) (keepFamily : ranges.KeepFamily)
include sound keepFamily

theorem isIPv6_next (valid : (store.current isIPv6).isValid = true) :
    MemoryStorage.isIPv6 (nextAddress (ranges.range isIPv6) (ranges.last isIPv6)
      (store.current isIPv6)) = isIPv6 := by
  rcases sound.current isIPv6 valid with ⟨_, isRange, first⟩
  rcases keepFamily isIPv6 isRange with ⟨family, second⟩
  exact isIPv6_nextAddress _ _ family (second first)

theorem create (domain : Bytes)
    (isIPv6 : Bool) : (store.create ranges domain isIPv6).1.Sound ranges := by
  rcases store.create_cases ranges domain isIPv6 with ⟨_, _, created⟩ | ⟨_, _, _, created⟩ |
    ⟨after, fresh, valid, isNext, others, stored, created⟩
  · rw [created]
    exact sound
  · rw [created]
    exact sound
  rw [created]
  have family := sound.isIPv6_next keepFamily valid
  rw [← isNext] at family
  constructor
  · rw [stored, twoWay_fakeIPStore]
    apply sound.inverse.assign
    rw [family]
    exact fresh
  · intro other otherValid
    by_cases same : other = isIPv6
    · subst same
      exact ⟨family, (sound.current other valid).2⟩
    · rw [Bool.eq_not_of_ne same, others] at otherValid ⊢
      exact sound.current _ otherValid

theorem reset : store.reset.Sound ranges :=
  ⟨(Ranges.start_sound keepFamily).inverse, sound.current⟩

theorem act (action : StoreAction) : (store.act ranges action).Sound ranges := by
  cases action with
  | create domain isIPv6 => exact sound.create keepFamily domain isIPv6
  | reset => exact sound.reset keepFamily

end

theorem of_run (keepFamily : ranges.KeepFamily) {initial : Store} (sound : initial.Sound ranges)
    (run : StoreRun ranges initial actions store) :
    store.Sound ranges :=
  run.preserves sound fun sound isStep => by
    rw [isStep]
    exact sound.act keepFamily _

end Store.Sound

end

/-! ## What the mapping guarantees -/

def Store.Reassigns (ranges : Ranges) (address : Addr) (domain : Bytes) (store : Store) :
    StoreAction → Prop
  | .create other isIPv6 => other ≠ domain ∧ (store.create ranges other isIPv6).2 = .ok address
  | .reset => True

section

variable {ranges : Ranges} {store : Store} {address : Addr} {domain : Bytes}

theorem Store.named_of_create (sound : store.Sound ranges) (keepFamily : ranges.KeepFamily)
    (created : (store.create ranges domain isIPv6).2 = .ok address) :
    (store.create ranges domain isIPv6).1.storage.twoWay.key isIPv6 domain = some address := by
  have afterSound := sound.create keepFamily domain isIPv6
  rcases store.create_cases ranges domain isIPv6 with ⟨_, isKey, isCreated⟩ |
    ⟨_, _, _, isCreated⟩ | ⟨after, _, valid, isNext, _, stored, isCreated⟩
  · rw [isCreated] at created ⊢
    cases created
    exact isKey
  · rw [isCreated] at created
    cases created
  · have family := sound.isIPv6_next keepFamily valid
    rw [isCreated] at created afterSound ⊢
    rw [afterSound.inverse, ← Except.ok.inj created]
    constructor
    · rw [stored, twoWay_fakeIPStore]
      exact update_self _ _ _
    · rw [isNext]
      exact family

theorem Store.name_act_of_not_reassigns {action : StoreAction}
    (kept : ¬ store.Reassigns ranges address domain action)
    (named : store.storage.twoWay.name address = some domain) :
    (store.act ranges action).storage.twoWay.name address = some domain := by
  cases action with
  | reset => exact absurd trivial kept
  | create other isIPv6 =>
    change (store.create ranges other isIPv6).1.storage.twoWay.name address = _
    rcases store.create_cases ranges other isIPv6 with ⟨_, _, created⟩ | ⟨_, _, _, created⟩ |
      ⟨after, _, _, _, _, stored, created⟩
    · rw [created]
      exact named
    · rw [created]
      exact named
    rw [created, stored, twoWay_fakeIPStore]
    by_cases same : after.current isIPv6 = address
    · have isDomain : other = domain := by
        by_contra different
        apply kept
        exact ⟨different, by rw [created, same]⟩
      rw [same, isDomain]
      exact update_self _ _ _
    · exact (update_of_ne (Ne.symm same) _ _).trans named

/-- In every run the mapping is a bijection, and what `Create` returns is found
again until its address is given to another domain. -/
theorem fakeIP_mapping_bijective (keepFamily : ranges.KeepFamily) {actions : List StoreAction}
    (run : StoreRun ranges ranges.start actions store) :
    store.storage.MutuallyInverse ∧
    (∀ left right leftFamily rightFamily address,
      store.storage.fakeIPLoadDomain left leftFamily = (address, true) →
      store.storage.fakeIPLoadDomain right rightFamily = (address, true) → left = right) ∧
    ∀ domain isIPv6 address, (store.create ranges domain isIPv6).2 = .ok address →
      ∀ laterActions later,
        Run (fun store action after => after = store.act ranges action ∧
          ¬ store.Reassigns ranges address domain action)
          (store.create ranges domain isIPv6).1 laterActions later →
        later.lookup address = (domain, true) ∧
          later.create ranges domain isIPv6 = (later, .ok address) := by
  have sound := Store.Sound.of_run keepFamily (Ranges.start_sound keepFamily) run
  refine ⟨mutuallyInverse_iff.mpr sound.inverse, ?_, ?_⟩
  · intro _ _ _ _ address isLeft isRight
    rw [fakeIPLoadDomain_eq_iff] at isLeft isRight
    exact (sound.inverse.name_unique isLeft isRight).1
  · intro domain isIPv6 address created _ later laterRun
    have isKey := Store.named_of_create sound keepFamily created
    have afterSound := sound.create keepFamily domain isIPv6
    rcases (afterSound.inverse isIPv6 domain address).mp isKey with ⟨isNamed, family⟩
    have laterHolds : later.Sound ranges ∧ later.storage.twoWay.name address = some domain :=
      laterRun.invariant
        (fun _ later => later.Sound ranges ∧ later.storage.twoWay.name address = some domain)
        ⟨afterSound, isNamed⟩ fun held isStep => by
          rw [isStep.1]
          exact ⟨held.1.act keepFamily _, Store.name_act_of_not_reassigns isStep.2 held.2⟩
    constructor
    · exact fakeIPLoad_eq_iff.mpr laterHolds.2
    · have isKept := (laterHolds.1.inverse isIPv6 domain address).mpr ⟨laterHolds.2, family⟩
      rw [Store.create, fakeIPLoadDomain_eq_iff.mpr isKept]

end

def exampleName : Bytes := Bytes.ofString "example.org"

def singleRange : Ranges := ⟨.from (.v4 0xc6120000) 30, .zero⟩

/-- Its address is given to one domain after the other. -/
theorem fakeIP_mapping_bijective_after_wrap :
    ∃ store, StoreRun singleRange singleRange.start
        [.create (Bytes.ofString "a") false, .create exampleName false] store ∧
      store.lookup (.v4 0xc6120002) = (exampleName, true) ∧
      store.storage.MutuallyInverse := by
  have keepFamily : singleRange.KeepFamily := by
    intro isIPv6
    cases isIPv6 <;> decide
  have run : ∃ store, StoreRun singleRange singleRange.start
        [.create (Bytes.ofString "a") false, .create exampleName false] store ∧
      store.lookup (.v4 0xc6120002) = (exampleName, true) :=
    ⟨_, (Run.start.extend rfl).extend rfl, rfl⟩
  rcases run with ⟨store, run, found⟩
  exact ⟨store, run, found, (fakeIP_mapping_bijective keepFamily run).1⟩

def hostAddress (host : BitVec 112) : Addr := .v6 (0xfc00#16 ++ host) ""

/-- An IPv6 prefix as the IPv4 range. -/
def swappedRange : Ranges := ⟨.from (hostAddress 0) 125, .zero⟩

def endingRange : Ranges := ⟨.from (.v4 0xfffffffe) 31, .from (hostAddress 0) 125⟩

/-- The first range gives a domain a new address each time. The second hands
out the zero value, which takes the place of the IPv6 address of the domain. -/
theorem fakeIP_mapping_broken :
    (∃ store, StoreRun swappedRange swappedRange.start
        [.create exampleName false, .create exampleName false] store ∧
      store.lookup (hostAddress 2) = (exampleName, true) ∧
      store.lookup (hostAddress 3) = (exampleName, true) ∧
      ¬ store.storage.MutuallyInverse) ∧
    ∃ store, StoreRun endingRange endingRange.start
        [.create exampleName true, .create exampleName false] store ∧
      store.lookup (hostAddress 2) = (exampleName, true) ∧
      store.storage.fakeIPLoadDomain exampleName true = (.invalid, true) ∧
      ¬ store.storage.MutuallyInverse := by
  refine ⟨⟨_, (Run.start.extend rfl).extend rfl, by decide +kernel, by decide +kernel, ?_⟩,
    ⟨_, (Run.start.extend rfl).extend rfl, by decide +kernel, by decide +kernel, ?_⟩⟩
  all_goals
    intro inverse
    have found := (inverse exampleName true (hostAddress 2)).mpr (by decide +kernel)
    exact absurd found (by decide +kernel)

/-! ## Addresses within their range -/

/-- An address of the family that lies in its range and is not the last one. -/
def Ranges.Within (ranges : Ranges) (isIPv6 : Bool) (address : Addr) : Prop :=
  MemoryStorage.isIPv6 address = isIPv6 ∧ (ranges.range isIPv6).contains address = true ∧
    address ≠ ranges.last isIPv6

/-- The address a range starts again with is within it. -/
def Ranges.Restarts (ranges : Ranges) : Prop :=
  ∀ isIPv6, (ranges.range isIPv6).isValid = true →
    (ranges.range isIPv6).addr.next.isValid = true →
    ranges.Within isIPv6 (ranges.range isIPv6).addr.next.next

structure Store.Inside (ranges : Ranges) (store : Store) : Prop where
  keys : ∀ isIPv6 domain address, store.storage.twoWay.key isIPv6 domain = some address →
    ranges.Within isIPv6 address
  current : ∀ isIPv6, (store.current isIPv6).isValid = true →
    (ranges.range isIPv6).isValid = true ∧ (ranges.range isIPv6).addr.next.isValid = true

section

variable {ranges : Ranges} {store : Store} {isIPv6 : Bool}

theorem Ranges.Within.nextAddress
    (restart : ranges.Within isIPv6 (ranges.range isIPv6).addr.next.next) (current : Addr) :
    ranges.Within isIPv6
      (nextAddress (ranges.range isIPv6) (ranges.last isIPv6) current) := by
  unfold FakeIP.nextAddress
  split
  · exact restart
  next inside =>
  rw [not_or, Bool.not_eq_false] at inside
  refine ⟨?_, inside.2, inside.1⟩
  -- Both addresses are of the family of the range.
  rw [MemoryStorage.isIPv6, Prefix.is4_of_contains inside.2, ← Prefix.is4_of_contains restart.2.1]
  exact restart.1

theorem Store.Inside.create (restarts : ranges.Restarts) (inside : store.Inside ranges)
    (domain : Bytes) (isIPv6 : Bool) :
    (store.create ranges domain isIPv6).1.Inside ranges ∧
      ∀ address, (store.create ranges domain isIPv6).2 = .ok address →
        ranges.Within isIPv6 address := by
  rcases store.create_cases ranges domain isIPv6 with ⟨known, isKey, created⟩ |
    ⟨_, _, _, created⟩ | ⟨after, _, valid, isNext, others, stored, created⟩
  · rw [created]
    refine ⟨inside, ?_⟩
    intro address isAddress
    rw [← Except.ok.inj isAddress]
    exact inside.keys isIPv6 domain known isKey
  · rw [created]
    exact ⟨inside, nofun⟩
  · rcases inside.current isIPv6 valid with ⟨isRange, first⟩
    have within := (restarts isIPv6 isRange first).nextAddress (store.current isIPv6)
    rw [← isNext] at within
    rw [created]
    refine ⟨⟨?_, ?_⟩, fun address isAddress => Except.ok.inj isAddress ▸ within⟩
    · intro family name address isKey
      rw [stored, twoWay_fakeIPStore] at isKey
      rcases TwoWayMap.key_assign_cases isKey with isOld | ⟨isFamily, isAddress⟩
      · exact inside.keys family name address isOld
      · rw [← isFamily, ← isAddress, within.1]
        exact within
    · intro other otherValid
      by_cases same : other = isIPv6
      · rw [same]
        exact ⟨isRange, first⟩
      rw [Bool.eq_not_of_ne same, others] at otherValid
      rw [Bool.eq_not_of_ne same]
      exact inside.current _ otherValid

theorem Store.Inside.of_run (restarts : ranges.Restarts)
    (run : StoreRun ranges ranges.start actions store) : store.Inside ranges := by
  have empty : ∀ isIPv6 domain address, MemoryStorage.new.twoWay.key isIPv6 domain = some address →
      ranges.Within isIPv6 address := by
    intro isIPv6 domain _ isKey
    rw [twoWay_new] at isKey
    cases isKey
  refine run.preserves ⟨empty, fun isIPv6 valid => (Ranges.start_current valid).2⟩
    fun {_ action _} inside isStep => ?_
  rw [isStep]
  cases action with
  | create domain isIPv6 => exact (inside.create restarts domain isIPv6).1
  | reset => exact ⟨empty, inside.current⟩

theorem Ranges.start_create (isRange : (ranges.range isIPv6).isValid = true)
    (first : (ranges.range isIPv6).addr.next.isValid = true) (domain : Bytes) :
    (ranges.start.create ranges domain isIPv6).2 =
      .ok (ranges.range isIPv6).addr.next.next := by
  have isCurrent : ranges.start.current isIPv6 = (ranges.range isIPv6).addr.next := by
    cases isIPv6 <;> exact if_pos isRange
  rcases ranges.start.create_cases ranges domain isIPv6 with ⟨_, isKey, _⟩ | ⟨_, invalid, _⟩ |
    ⟨after, _, _, isNext, _, _, created⟩
  · change MemoryStorage.new.twoWay.key isIPv6 domain = _ at isKey
    rw [twoWay_new] at isKey
    cases isKey
  · rw [isCurrent, first] at invalid
    cases invalid
  · rw [created, isNext, isCurrent, FakeIP.nextAddress, ite_self]

end

/-- In every run `Create` returns addresses of the range only, and never its
last one, exactly if the address the range starts again with is such an address. -/
theorem fakeIP_within_iff (ranges : Ranges) :
    (∀ actions store, StoreRun ranges ranges.start actions store →
      ∀ domain isIPv6 address, (store.create ranges domain isIPv6).2 = .ok address →
        ranges.Within isIPv6 address) ↔ ranges.Restarts := by
  constructor
  · intro within isIPv6 isRange first
    exact within [] _ .start [] isIPv6 _ (Ranges.start_create isRange first [])
  · intro restarts _ _ run domain isIPv6
    exact ((Store.Inside.of_run restarts run).create restarts domain isIPv6).2

def pairRange : Ranges := ⟨.from (.v4 0xc6120000) 31, .zero⟩

/-- A range of two addresses gives away the one after them. -/
theorem fakeIP_outside :
    StoreRun pairRange pairRange.start [] pairRange.start ∧
      (pairRange.start.create pairRange exampleName false).2 = .ok (.v4 0xc6120002) ∧
      pairRange.inet4Range.isValid = true ∧
      pairRange.inet4Range.contains (.v4 0xc6120002) = false :=
  ⟨.start, rfl, rfl, rfl⟩

end SingBox.FakeIP
