import SingBox.CacheFile.Provenance
import SingBox.Dns.CacheKey

/-! # The persistent DNS cache

`storeCache` and `loadPersistentResponse` of a client with a cache file. The
key of a question becomes a transport name, a question name and a type, and
these become a bucket and the bytes of a key. Only the class of the question is
lost on the way, and what distinguishes invalid client subnets.
-/

namespace SingBox.Dns

open CacheFile SaveState List Option

/-- A `time.Time` as nanoseconds since 1970. -/
def instant (time : Time) : Int := time.unix.toInt * second + time.nanosecond

def ofInstant (nanoseconds : Int) : Time :=
  ⟨BitVec.ofInt 64 (nanoseconds / second), (nanoseconds % second).toNat⟩

def DNSCacheKey.saveCacheKey (key : DNSCacheKey) : SaveCacheKey where
  transportName := key.persistentName
  questionName := key.question.name
  qType := key.question.qtype

/-- `storeCache` with a cache file: what is queued, if anything. -/
def persistentValue (lib : DnsLib) (message : Msg) (timeToLive : BitVec 32) (now : Int) :
    Option DNSCacheValue :=
  if timeToLive = 0 then none
  else (lib.pack message).map fun packed =>
    ⟨packed, ofInstant (now + timeToLive.toNat * second)⟩

def loadPersistentResponse (lib : DnsLib) (client : ClientOptions) (cacheID : Option Bytes)
    (state : SaveState) (key : DNSCacheKey) (now : Int) : Option (Msg × Nat × Bool) := do
  let value ← state.loadDNSCache cacheID key.saveCacheKey
  let response ← lib.unpack value.rawMessage
  agedResponse client response (instant value.expireAt) now

/-- What clients and the cache file do with the persistent cache. A load drops
an entry that cannot be unpacked. -/
inductive PersistentAction
  | store (key : DNSCacheKey) (message : Msg) (timeToLive : BitVec 32) (now : Int)
  | load (key : DNSCacheKey)
  | flush (action : SaveAction)

def PersistentAction.next (lib : DnsLib) (cacheID : Option Bytes) (state : SaveState) :
    PersistentAction → Option SaveState
  | .store key message timeToLive now =>
    match persistentValue lib message timeToLive now with
    | none => some state
    | some value => state.next cacheID (.saveAsync key.saveCacheKey value)
  | .load key =>
    match state.loadDNSCache cacheID key.saveCacheKey with
    | none => some state
    | some value =>
      if (lib.unpack value.rawMessage).isSome then some state
      else some (state.deleteDNSCache cacheID key.saveCacheKey value.rawMessage)
  | .flush action => if action.isSave then none else state.next cacheID action

def PersistentRun (lib : DnsLib) (cacheID : Option Bytes) :
    List PersistentAction → SaveState → Prop :=
  Run (fun state action after => PersistentAction.next lib cacheID state action = some after)
    .initial

def StoredIn (lib : DnsLib) (actions : List PersistentAction) (key : DNSCacheKey)
    (value : DNSCacheValue) : Prop :=
  ∃ message timeToLive now, .store key message timeToLive now ∈ actions ∧
    persistentValue lib message timeToLive now = some value

/-- No response that is returned for `asked` is an entry that was stored under
`stored` only: it is the message of an entry that was stored under another key. -/
def KeptApart (lib : DnsLib) (stored asked : DNSCacheKey) : Prop :=
  ∀ client cacheID actions state, PersistentRun lib cacheID actions state →
    ∀ now response, loadPersistentResponse lib client cacheID state asked now = some response →
      ∃ key value, key ≠ stored ∧ StoredIn lib actions key value ∧
        ∃ message, lib.unpack value.rawMessage = some message ∧
          ∃ expireAt, agedResponse client message expireAt now = some response

/-! ## Keys that share an entry -/

theorem saveCacheKey_eq_iff {left right : DNSCacheKey} (leftPrintable : Printable left.transportTag)
    (rightPrintable : Printable right.transportTag) :
    left.saveCacheKey = right.saveCacheKey ↔ left.persistent = right.persistent := by
  constructor
  · intro equal
    rw [DNSCacheKey.saveCacheKey, DNSCacheKey.saveCacheKey, SaveCacheKey.mk.injEq] at equal
    rcases equal with ⟨names, questions, types⟩
    rcases DNSCacheKey.persistentName_injective leftPrintable rightPrintable names with
      ⟨tags, subnets, environments⟩
    rw [DNSCacheKey.persistent, DNSCacheKey.persistent] at subnets ⊢
    rw [DNSCacheKey.mk.injEq, Question.mk.injEq]
    exact ⟨⟨questions, types, rfl⟩, tags, subnets, environments⟩
  · intro equal
    have same : ∀ key : DNSCacheKey, key.persistent.saveCacheKey = key.saveCacheKey := by
      intro _
      rw [DNSCacheKey.saveCacheKey, DNSCacheKey.persistentName_persistent]
      rfl
    rw [← same left, equal, same right]

/-! ## Runs -/

variable {lib : DnsLib} {cacheID : Option Bytes} {actions : List PersistentAction}
  {state : SaveState}

theorem sourced_of_run (run : PersistentRun lib cacheID actions state) :
    Sourced (fun saveKey value => ∃ key, key.saveCacheKey = saveKey ∧
      StoredIn lib actions key value) cacheID state := by
  refine run.invariant_among _ .initial ?_
  intro _ action _ kept member isStep
  cases action with
  | store key message timeToLive now =>
    rw [PersistentAction.next] at isStep
    split at isStep
    · cases isStep
      exact kept
    next value isValue =>
    refine kept.next isStep ?_
    rintro saveKey _ ⟨⟩
    exact ⟨key, rfl, message, timeToLive, now, member, isValue⟩
  | load =>
    rw [PersistentAction.next] at isStep
    split at isStep
    · cases isStep
      exact kept
    split at isStep
    · cases isStep
      exact kept
    · cases isStep
      exact kept.deleteDNSCache _ _
  | flush =>
    rw [PersistentAction.next] at isStep
    split_ifs at isStep with notSave
    refine kept.next isStep ?_
    intro _ _ isSave
    rw [isSave] at notSave
    exact absurd rfl notSave

variable {asked stored : DNSCacheKey}

theorem keptApart_of_ne
    (different : stored.saveCacheKey ≠ asked.saveCacheKey) : KeptApart lib stored asked := by
  intro _ _ _ _ run _ _ returned
  rw [loadPersistentResponse, bind_eq_bind, bind_eq_some_iff] at returned
  rcases returned with ⟨_, found, returned⟩
  rw [bind_eq_bind, bind_eq_some_iff] at returned
  rcases returned with ⟨message, unpacked, aged⟩
  rcases (sourced_of_run run).loadDNSCache found with ⟨source, ⟨key, isKey, isStored⟩, isValue⟩
  refine ⟨key, source, ?_, isStored, message, ?_, _, aged⟩
  · intro same
    rw [same] at isKey
    exact different isKey
  · rcases isValue with isValue | isValue
    · rw [← isValue]
      exact unpacked
    · rw [isValue] at unpacked
      exact unpacked

/-- Keys that share an entry: the answer that is stored under one is returned
for the other. -/
theorem not_keptApart_of_eq
    (same : stored.saveCacheKey = asked.saveCacheKey) : ¬ KeptApart lib stored asked := by
  intro apart
  rcases lib.unpack_pack_empty with ⟨packed, isPacked, isUnpacked⟩
  have isValue : persistentValue lib {} 1 0 = some ⟨packed, ofInstant second⟩ := by
    rw [persistentValue, if_neg (by decide), isPacked]
    rfl
  have run : PersistentRun lib none [.store stored {} 1 0]
      (initial.saveAsync stored.saveCacheKey ⟨packed, ofInstant second⟩) := by
    refine Run.extend Run.start ?_
    rw [PersistentAction.next, isValue]
    rfl
  have returned : loadPersistentResponse lib { disableExpire := true } none
      (initial.saveAsync stored.saveCacheKey ⟨packed, ofInstant second⟩) asked 0 =
        some ({}, 0, false) := by
    have found : (initial.saveAsync stored.saveCacheKey
        ⟨packed, ofInstant second⟩).loadDNSCache none asked.saveCacheKey =
          some ⟨packed, ofInstant second⟩ := by
      rw [← same]
      simp [saveAsync, initial, startsFlush, loadDNSCache, queuedEntry]
    rw [loadPersistentResponse, found]
    simp [isUnpacked, agedResponse]
  rcases apart _ _ _ _ run _ _ returned with ⟨_, _, different, ⟨_, _, _, member, _⟩, _⟩
  cases mem_singleton.mp member
  exact different rfl

/-- Two keys are kept apart in the persistent cache exactly if they differ in
more than the class of the question and invalid client subnets. -/
theorem persistent_keptApart_iff {stored asked : DNSCacheKey}
    (storedPrintable : Printable stored.transportTag)
    (askedPrintable : Printable asked.transportTag) :
    KeptApart lib stored asked ↔ stored.persistent ≠ asked.persistent := by
  rw [ne_eq, ← saveCacheKey_eq_iff storedPrintable askedPrintable]
  constructor
  · intro apart same
    exact not_keptApart_of_eq same apart
  · exact keptApart_of_ne

def sampleCacheKey (qclass : BitVec 16) (qtype : BitVec 16) : DNSCacheKey where
  question := ⟨Bytes.ofString "a.", qtype, qclass⟩
  transportTag := Bytes.ofString "local"
  clientSubnet := .zero
  environment := 0

theorem persistent_keptApart_types :
    KeptApart .sample (sampleCacheKey 1 typeA) (sampleCacheKey 1 typeAAAA) :=
  (persistent_keptApart_iff (by decide) (by decide)).mpr
    (by decide)

/-- The answer to a question is returned for the same question of another class. -/
theorem persistent_classes_shared :
    sampleCacheKey 1 typeA ≠ sampleCacheKey 3 typeA ∧
      Printable (sampleCacheKey 1 typeA).transportTag ∧
      Printable (sampleCacheKey 3 typeA).transportTag ∧
      PersistentRun .sample none [.store (sampleCacheKey 1 typeA) {} 60 0]
        (initial.saveAsync (sampleCacheKey 1 typeA).saveCacheKey
          ⟨[], ofInstant (60 * second)⟩) ∧
      loadPersistentResponse .sample {} none
        (initial.saveAsync (sampleCacheKey 1 typeA).saveCacheKey
          ⟨[], ofInstant (60 * second)⟩) (sampleCacheKey 3 typeA) 0 = some ({}, 60, false) := by
  refine ⟨by decide, by decide, by decide, ?_, by decide⟩
  exact Run.extend Run.start rfl

end SingBox.Dns
