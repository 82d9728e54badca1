import SingBox.Foundation.Bolt

/-! # The DNS cache of the cache file

`SaveDNSCache` and `LoadDNSCache` keep one value for each transport name,
question name and type: a bucket for the transport, a key that starts with the
type, and a value that starts with the expiry in seconds. The buckets lie in
the bucket of the cache id if one is configured.
-/

namespace SingBox.CacheFile

open Bolt Bytes Database List

/-- `time.Time` as far as the cache keeps it. -/
structure Time where
  unix : BitVec 64
  nanosecond : Nat
  deriving DecidableEq

structure SaveCacheKey where
  transportName : Bytes
  questionName : Bytes
  qType : BitVec 16
  deriving DecidableEq

structure DNSCacheValue where
  rawMessage : Bytes
  expireAt : Time
  deriving DecidableEq

/-- The value as the database keeps it: the expiry loses its fraction. -/
def DNSCacheValue.truncate (value : DNSCacheValue) : DNSCacheValue :=
  { value with expireAt := ⟨value.expireAt.unix, 0⟩ }

def bucketDNSCache : Bytes := ofString "dns_cache"

/-- The path of a bucket below the bucket of the cache id. -/
def bucketPath (cacheID : Option Bytes) (name : Bytes) : Path := cacheID.toList ++ [name]

def keyBytes (questionName : Bytes) (qType : BitVec 16) : Bytes :=
  putUint16 qType ++ questionName

def createBucket (cacheID : Option Bytes) (name : Bytes) : Tx Unit := do
  match cacheID with
  | none => Tx.createBucketIfNotExists [] name
  | some id =>
    Tx.createBucketIfNotExists [] id
    Tx.createBucketIfNotExists [id] name

def saveDNSCache (cacheID : Option Bytes) (key : SaveCacheKey) (value : DNSCacheValue) :
    Tx Unit := do
  createBucket cacheID bucketDNSCache
  Tx.createBucketIfNotExists (bucketPath cacheID bucketDNSCache) key.transportName
  Tx.put (bucketPath cacheID bucketDNSCache ++ [key.transportName])
    (keyBytes key.questionName key.qType)
    (putUint64 value.expireAt.unix ++ value.rawMessage)

/-- What a stored byte string says, if it is long enough. -/
def decodeContent (content : Bytes) : Option DNSCacheValue :=
  if content.length < 8 then none
  else some ⟨content.drop 8, ⟨uint64 content, 0⟩⟩

/-- The part of `LoadDNSCache` that reads the database. -/
def loadDatabase (cacheID : Option Bytes) (db : Database) (key : SaveCacheKey) :
    Option DNSCacheValue :=
  (db.get (bucketPath cacheID bucketDNSCache ++ [key.transportName])
    (keyBytes key.questionName key.qType)).bind decodeContent

/-- The transaction of `ClearDNSCache`. -/
def clearDatabase (cacheID : Option Bytes) : Tx Unit := do
  if ← Tx.hasBucket (bucketPath cacheID bucketDNSCache) then
    Tx.deleteBucket cacheID.toList bucketDNSCache

/-! ## What a load finds -/

theorem keyBytes_injective {leftName rightName : Bytes} {leftType rightType : BitVec 16}
    (equal : keyBytes leftName leftType = keyBytes rightName rightType) :
    leftName = rightName ∧ leftType = rightType := by
  have parts := append_inj equal (by rw [putUint16_length, putUint16_length])
  exact ⟨parts.2, putUint16_injective parts.1⟩

theorem decodeContent_encoded (value : DNSCacheValue) :
    decodeContent (putUint64 value.expireAt.unix ++ value.rawMessage) =
      some value.truncate := by
  have long : ¬ (putUint64 value.expireAt.unix ++ value.rawMessage).length < 8 := by
    rw [length_append, putUint64_length]
    omega
  rw [decodeContent, if_neg long, uint64_putUint64_append, drop_left' (putUint64_length _)]
  rfl

variable {cacheID : Option Bytes} {db next : Database} {result : Unit}

private theorem createBucket_ok {name : Bytes}
    (ok : createBucket cacheID name db = .ok (result, next)) (path : Path) (key : Bytes) :
    next.get path key = db.get path key := by
  cases cacheID with
  | none => rw [Tx.createBucketIfNotExists_ok ok, get_create]
  | some =>
    rcases Tx.bind_ok ok with ⟨_, _, first, second⟩
    rw [Tx.createBucketIfNotExists_ok second, Tx.createBucketIfNotExists_ok first,
      get_create, get_create]

theorem loadDatabase_of_saved {key : SaveCacheKey} {value : DNSCacheValue}
    (ok : saveDNSCache cacheID key value db = .ok (result, next)) (other : SaveCacheKey) :
    loadDatabase cacheID next other =
      if other = key then some value.truncate else loadDatabase cacheID db other := by
  rcases Tx.bind_ok ok with ⟨_, _, created, ok⟩
  rcases Tx.bind_ok ok with ⟨_, second, createdTransport, put⟩
  have isSecond := Tx.createBucketIfNotExists_ok createdTransport
  have present : second.hasBucket
      (bucketPath cacheID bucketDNSCache ++ [key.transportName]) = true := by
    rw [isSecond, hasBucket_create, decide_eq_true ⟨by simp, prefix_refl _⟩, Bool.true_or]
  rw [loadDatabase, Tx.put_ok put, get_insert _ _ _ _ _ _ present]
  by_cases same : other = key
  · subst same
    rw [if_pos ⟨rfl, rfl⟩, if_pos rfl, Option.bind_some, decodeContent_encoded]
  have different : ¬ (bucketPath cacheID bucketDNSCache ++ [other.transportName] =
      bucketPath cacheID bucketDNSCache ++ [key.transportName] ∧
        keyBytes other.questionName other.qType = keyBytes key.questionName key.qType) := by
    rintro ⟨paths, keys⟩
    apply same
    have names := append_cancel_left paths
    rcases keyBytes_injective keys with ⟨questions, types⟩
    cases other
    cases key
    cases names
    cases questions
    cases types
    rfl
  rw [if_neg different, if_neg same, isSecond, get_create, createBucket_ok created]
  rfl

theorem loadDatabase_of_cleared (cacheID : Option Bytes) (db : Database) (key : SaveCacheKey) :
    loadDatabase cacheID (batch (clearDatabase cacheID) db).1 key = none := by
  have missing : (batch (clearDatabase cacheID) db).1.hasBucket
      (bucketPath cacheID bucketDNSCache) = false := by
    cases present : db.hasBucket (bucketPath cacheID bucketDNSCache) with
    | false =>
      have unchanged : clearDatabase cacheID db = .ok ((), db) := by
        simp [clearDatabase, bind, StateT.bind, Except.bind, Tx.run_hasBucket, Tx.run_pure, present]
      rw [batch_of_ok unchanged]
      exact present
    | true =>
      have removed : clearDatabase cacheID db =
          .ok ((), db.remove (bucketPath cacheID bucketDNSCache)) := by
        have there : db.hasBucket (cacheID.toList ++ [bucketDNSCache]) = true := present
        simp [clearDatabase, bind, StateT.bind, Except.bind, Tx.run_hasBucket,
          Tx.deleteBucket, there, bucketPath]
      rw [batch_of_ok removed, hasBucket_remove,
        decide_eq_true (prefix_refl _), Bool.not_true, Bool.false_and]
  have noTransport : (batch (clearDatabase cacheID) db).1.hasBucket
      (bucketPath cacheID bucketDNSCache ++ [key.transportName]) = false := by
    rw [Bool.eq_false_iff] at missing ⊢
    exact fun present => missing (nested _ _ _ present (by simp [bucketPath]))
  rw [loadDatabase, get_eq_none_of_hasBucket _ noTransport]
  rfl

end SingBox.CacheFile
