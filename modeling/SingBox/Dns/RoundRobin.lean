import SingBox.Dns.Alike

/-! # Fair rotation

Each hit on a cached message returns its answers with the A records and the AAAA
records rotated by one more place. As many hits as there are A records put each of
them first once, whatever the index is at the start, and so for the AAAA records.
-/

namespace SingBox.Dns

open List

namespace CacheEntry

/-- The responses of consecutive hits. -/
def hits (entry : CacheEntry) : Nat → List Msg
  | 0 => []
  | count + 1 => entry.roundRobin.1 :: entry.roundRobin.2.hits count

def ofType (entry : CacheEntry) (rrtype : BitVec 16) : List RR :=
  entry.msg.answer.filter fun record => record.rrtype == rrtype

def index (entry : CacheEntry) (rrtype : BitVec 16) : Nat :=
  if rrtype = typeA then entry.ipv4Index else entry.ipv6Index

/-- The records of a type in the order in which they come first. -/
def turns (entry : CacheEntry) (rrtype : BitVec 16) : List RR :=
  (entry.ofType rrtype).reverse.rotate (entry.index rrtype)

end CacheEntry

/-- `roundRobinIndex`: the index states of the keys of a persistent cache, as far as
they have not been evicted. -/
abbrev IndexStates := DNSCacheKey → Option (Nat × Nat)

/-- `loadResponse` with a `DNSCacheStore`, once `loadPersistentResponse` has returned
the message. -/
def loadPersistent (states : IndexStates) (key : DNSCacheKey) (response : Msg) :
    Msg × IndexStates :=
  let (ipv4Index, ipv6Index) := (states key).getD (0, 0)
  let ipv4 := rotateType typeA response.answer ipv4Index
  let ipv6 := rotateType typeAAAA ipv4.1 ipv6Index
  ({ response with answer := ipv6.1 }, Function.update states key (some (ipv4.2, ipv6.2)))

/-- The first record of the type. -/
def firstOf (rrtype : BitVec 16) (response : Msg) : Option RR :=
  response.answer.find? fun record => record.rrtype == rrtype

theorem perm_rotateType (rrtype : BitVec 16) (answers : List RR) (index : Nat) :
    (rotateType rrtype answers index).1 ~ answers := by
  rw [rotateType]
  split
  · have isSplit := filter_append_perm (fun record : RR => record.rrtype != rrtype) answers
    simp only [bne, Bool.not_not] at isSplit
    exact (Perm.append_left _ (isRotated_reverseRotateSlice _ _).perm).trans isSplit
  · exact .refl _

variable {entry : CacheEntry} {rrtype : BitVec 16}

section

variable (isAddress : rrtype = typeA ∨ rrtype = typeAAAA)
  (several : 1 < (entry.ofType rrtype).length)
include isAddress several

theorem ofType_roundRobin :
    (entry.roundRobin.1.answer.filter fun record => record.rrtype == rrtype) =
        reverseRotateSlice (entry.ofType rrtype) (entry.roundRobin.2.index rrtype) ∧
      entry.roundRobin.2.index rrtype =
        (entry.index rrtype + 1) % (entry.ofType rrtype).length := by
  rcases isAddress with rfl | rfl
  · have isIndex : entry.roundRobin.2.index typeA =
        (entry.ipv4Index + 1) % (entry.ofType typeA).length :=
      congrArg Prod.snd (if_pos several)
    refine ⟨?_, isIndex⟩
    rw [isIndex]
    exact (filter_rotateType_other (· == typeA) rfl _ _).trans (filter_rotateType _ _ several)
  · -- the A records have been rotated before
    have same : (rotateType typeA entry.msg.answer entry.ipv4Index).1.filter
        (fun record => record.rrtype == typeAAAA) = entry.ofType typeAAAA :=
      filter_rotateType_other (· == typeAAAA) rfl ..
    rw [← same] at several ⊢
    have isIndex : entry.roundRobin.2.index typeAAAA = (entry.ipv6Index + 1) % _ :=
      congrArg Prod.snd (if_pos several)
    rw [isIndex]
    exact ⟨filter_rotateType _ _ several, rfl⟩

theorem turns_roundRobin :
    entry.roundRobin.2.turns rrtype = (entry.turns rrtype).rotate 1 := by
  change (entry.ofType rrtype).reverse.rotate _ = _
  rw [CacheEntry.turns, (ofType_roundRobin isAddress several).2, ← length_reverse, rotate_mod,
    rotate_rotate]

theorem firstOf_roundRobin :
    firstOf rrtype entry.roundRobin.1 = (entry.turns rrtype).head? := by
  have isTurned := turns_roundRobin isAddress several
  change (entry.ofType rrtype).reverse.rotate _ = _ at isTurned
  rw [firstOf, ← head?_filter, (ofType_roundRobin isAddress several).1, reverseRotateSlice,
    if_neg (by omega), ← rotate_eq_drop_append_take (Nat.sub_le _ _), ← getLast?_reverse,
    ← rotate_reverse, isTurned]
  cases entry.turns rrtype <;> simp

theorem firstOf_hits (count : Nat) :
    (entry.hits count).map (firstOf rrtype) =
      (range count).map fun turn => ((entry.turns rrtype).rotate turn).head? := by
  induction count generalizing entry with
  | zero => rfl
  | succ _ induction =>
    rw [CacheEntry.hits, map_cons, @induction entry.roundRobin.2 several,
      firstOf_roundRobin isAddress several, turns_roundRobin isAddress several, range_succ_eq_map,
      map_cons, map_map, rotate_zero]
    simp [Nat.add_comm 1]

end

theorem perm_of_mem_hits {response : Msg} {count : Nat} (isHit : response ∈ entry.hits count) :
    response.answer ~ entry.msg.answer ∧ Rotated response.answer entry.msg.answer := by
  induction count generalizing entry with
  | zero => cases isHit
  | succ _ induction =>
    rcases mem_cons.mp isHit with rfl | isLater
    · exact ⟨(perm_rotateType ..).trans (perm_rotateType ..),
        (rotated_rotateType (.inr rfl) ..).trans (rotated_rotateType (.inl rfl) ..)⟩
    · exact @induction entry.roundRobin.2 isLater

/-- Every hit returns the cached answers, with the records that are no addresses in
their order; as many hits as there are records of an address type put each of them
first once. What the client loads from its cache is such a hit, except for the TTLs;
with a persistent cache it is one from the index state that the key has. -/
theorem hits_fair (entry : CacheEntry) :
    (∀ count, ∀ response ∈ entry.hits count, response.answer ~ entry.msg.answer ∧
      (response.answer.filter fun record => !record.isAddress) =
        entry.msg.answer.filter fun record => !record.isAddress) ∧
    (∀ rrtype, rrtype = typeA ∨ rrtype = typeAAAA → 2 ≤ (entry.ofType rrtype).length →
      (entry.hits (entry.ofType rrtype).length).map (firstOf rrtype) ~
        (entry.ofType rrtype).map some) ∧
    (∀ client state key now loaded, client.roundRobinCache = true → state.cache key = some entry →
      (ClientState.loadResponse client state key now).1 = some loaded →
      loaded.1.answer.map (RR.setTTL 0) = entry.roundRobin.1.answer.map (RR.setTTL 0) ∧
        (ClientState.loadResponse client state key now).2.cache key = some entry.roundRobin.2) ∧
    ∀ states key, (states key).getD (0, 0) = (entry.ipv4Index, entry.ipv6Index) →
      (loadPersistent states key entry.msg).1 = entry.roundRobin.1 ∧
        (loadPersistent states key entry.msg).2 key =
          some (entry.roundRobin.2.ipv4Index, entry.roundRobin.2.ipv6Index) := by
  refine ⟨?_, ?_, ?_, ?_⟩
  · intro _ response isHit
    rcases perm_of_mem_hits isHit with ⟨isPerm, rotated⟩
    exact ⟨isPerm, rotated.others⟩
  · intro rrtype isAddress several
    have inOrder : (range (entry.ofType rrtype).length).map
        (fun turn => ((entry.turns rrtype).rotate turn).head?) = (entry.turns rrtype).map some := by
      apply ext_getElem
      · simp [CacheEntry.turns]
      · intro _ _ isPlace
        rw [getElem_map, getElem_map, getElem_range, head?_rotate (by simpa using isPlace),
          getElem?_eq_getElem]
    rw [firstOf_hits isAddress several, inOrder]
    exact ((rotate_perm _ _).trans (reverse_perm _)).map some
  · intro client _ _ _ _ rotates isEntry isLoaded
    have isRotated : entry.getRoundRobin client = entry.roundRobin := if_pos rotates
    simp only [ClientState.loadResponse, isEntry, isRotated] at isLoaded ⊢
    split at isLoaded <;> cases isLoaded
    next aged =>
    refine ⟨?_, Function.update_self ..⟩
    rw [agedResponse] at aged
    split_ifs at aged <;> cases aged
    · rfl
    all_goals exact map_setTTL_setTTL ..
  · intro _ _ isState
    rw [loadPersistent, isState]
    exact ⟨rfl, Function.update_self ..⟩

end SingBox.Dns
