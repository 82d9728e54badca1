import SingBox.Foundation.Checked
import SingBox.Foundation.Wire

/-! # Where the server name is

`IndexTLSServerName` looks for the server name in the first packet of a client.
Lengths are read before the bytes they measure, so no slice is out of bounds. The
step over an extension is added up in sixteen bits: an extension of 65532 bytes
is not stepped over at all, and a longer one only in part.
-/

namespace SingBox.TlsFragment

open Checked List Bytes Nat

/-- `MyServerName`. -/
structure ServerName where
  index : Nat
  length : Nat
  serverName : Bytes
  extensionsListLengthIndex : Nat := 0
  deriving DecidableEq

/-- The loop of `indexTLSServerNameFromExtensions`. -/
def indexExtension : Nat → Nat → Bytes → Checked Err (Option ServerName)
  | 0, _, _ => .error .unfinished
  | rounds + 1, currentIndex, exs =>
    if exs.length = 0 then .ok none
    else if exs.length < 4 then .ok none
    else do
      let exType ← uint16At exs 0
      let exLen ← uint16At exs 2
      if exs.length < 4 + exLen.toNat then .ok none
      else
        let sex ← slice exs 4 (4 + exLen.toNat)
        if exType = 0 then
          if sex.length < 5 then .ok none
          else
            let sniType ← index sex 2
            if sniType ≠ 0 then .ok none
            else
              let sniLen ← uint16At sex 3
              let name ← sliceFrom sex 5
              .ok (some
                { index := currentIndex + 4 + 5, length := sniLen.toNat, serverName := name })
        else
          -- `4+exLen` is a sixteen bit number
          let exs ← sliceFrom exs (4 + exLen).toNat
          indexExtension rounds (currentIndex + (4 + exLen.toNat)) exs

/-- `indexTLSServerNameFromExtensions`. A round that steps over nothing is
repeated for ever. -/
def indexTLSServerNameFromExtensions (exs : Bytes) : Checked Err (Option ServerName) :=
  if exs.length = 0 then .ok none
  else if exs.length < 2 then .ok none
  else do
    let exsLen ← uint16At exs 0
    let exs ← sliceFrom exs 2
    if exs.length < exsLen.toNat then .ok none
    else indexExtension (exs.length + 1) 2 exs

def indexTLSServerNameFromHandshake (handshake : Bytes) : Checked Err (Option ServerName) :=
  if handshake.length < 6 + 32 + 1 then .ok none
  else do
    let handshakeType ← index handshake 0
    if handshakeType ≠ 1 then .ok none
    else
      let high ← index handshake 1
      let middle ← index handshake 2
      let low ← index handshake 3
      let body ← sliceFrom handshake 4
      if body.length ≠ ofBigEndian [high, middle, low] then .ok none
      else
        let tlsVersion ← uint16At handshake 4
        if tlsVersion &&& 0xfffc ≠ 0x0300 ∧ tlsVersion ≠ 0x0304 then .ok none
        else
          let sessionIDLen ← index handshake 38
          let currentIndex := 6 + 32 + 1 + sessionIDLen.toNat
          if handshake.length < currentIndex then .ok none
          else
            let cipherSuites ← sliceFrom handshake currentIndex
            if cipherSuites.length < 2 then .ok none
            else
              let csLen ← uint16At cipherSuites 0
              if cipherSuites.length < 2 + csLen.toNat + 1 then .ok none
              else
                let compressMethodLen ← index cipherSuites (2 + csLen.toNat)
                let currentIndex :=
                  currentIndex + (2 + csLen.toNat + 1 + compressMethodLen.toNat)
                if handshake.length < currentIndex then .ok none
                else
                  let exs ← sliceFrom handshake currentIndex
                  let serverName ← indexTLSServerNameFromExtensions exs
                  .ok (serverName.map fun serverName =>
                    { serverName with
                      index := serverName.index + currentIndex
                      extensionsListLengthIndex := currentIndex })

def recordLayerHeaderLen : Nat := 5

def indexTLSServerName (payload : Bytes) : Checked Err (Option ServerName) :=
  if payload.length < recordLayerHeaderLen then .ok none
  else do
    let contentType ← index payload 0
    if contentType ≠ 22 then .ok none
    else
      let segmentLen ← uint16At payload 3
      if payload.length < recordLayerHeaderLen + segmentLen.toNat then .ok none
      else
        let handshake ← sliceFrom payload recordLayerHeaderLen
        let serverName ← indexTLSServerNameFromHandshake handshake
        .ok (serverName.map fun serverName =>
          { serverName with
            index := serverName.index + recordLayerHeaderLen
            extensionsListLengthIndex :=
              serverName.extensionsListLengthIndex + recordLayerHeaderLen })

/-! ## What is found -/

/-- The first server name of a list of extensions begins here. -/
inductive Located : Bytes → Nat → Bytes → Prop
  | here {exs : Bytes} : 4 + numberAt exs 2 2 ≤ exs.length → numberAt exs 0 2 = 0 →
    5 ≤ numberAt exs 2 2 → Located exs 9 ((exs.take (4 + numberAt exs 2 2)).drop 9)
  | later {exs name : Bytes} {place : Nat} : 4 + numberAt exs 2 2 ≤ exs.length →
    numberAt exs 0 2 ≠ 0 → Located (exs.drop (4 + numberAt exs 2 2)) place name →
    Located exs (4 + numberAt exs 2 2 + place) name

/-- The loop comes to an extension of this length that is no server name, having
stepped over those before it. -/
inductive Reaches : Bytes → Nat → Prop
  | here {exs : Bytes} : 4 + numberAt exs 2 2 ≤ exs.length → numberAt exs 0 2 ≠ 0 →
    Reaches exs (numberAt exs 2 2)
  | later {exs : Bytes} {length : Nat} : 4 + numberAt exs 2 2 ≤ exs.length →
    numberAt exs 0 2 ≠ 0 → 4 + numberAt exs 2 2 < 2 ^ 16 →
    Reaches (exs.drop (4 + numberAt exs 2 2)) length → Reaches exs length

/-- All steps of the loop fit in sixteen bits. -/
def Steps (exs : Bytes) : Prop := ∀ length, Reaches exs length → 4 + length < 2 ^ 16

variable {exs : Bytes} {length : Nat}

theorem Reaches.first (reaches : Reaches exs length) :
    4 + numberAt exs 2 2 ≤ exs.length ∧ numberAt exs 0 2 ≠ 0 := by
  cases reaches with
  | here isLong notZero | later isLong notZero => exact ⟨isLong, notZero⟩

theorem Reaches.le (reaches : Reaches exs length) : 4 + length ≤ exs.length := by
  induction reaches with
  | here isLong => exact isLong
  | later _ _ _ _ induction =>
    rw [length_drop] at induction
    omega

/-- No slice is out of bounds. If all steps fit, the loop ends, and what is found
is the first server name of the list. -/
def Finds (fits : Prop) (exs : Bytes) (offset : Nat) : Checked Err (Option ServerName) → Prop
  | .ok none => True
  | .ok (some serverName) => offset ≤ serverName.index ∧
    (fits → ∃ place, serverName.index = offset + place ∧ Located exs place serverName.serverName)
  | .error .unfinished => ¬fits
  | .error _ => False

namespace Finds

variable {fits : Prop} {offset : Nat} {computation : Checked Err (Option ServerName)}

theorem check {condition : Prop} [Decidable condition]
    (rest : ¬condition → Finds fits exs offset computation) :
    Finds fits exs offset (if condition then .ok none else computation) := by
  split
  · trivial
  · next fails => exact rest fails

theorem shift (finds : Finds fits exs offset computation) (by_ : Nat)
    (lengthIndex : ServerName → Nat) :
    Finds fits exs (offset + by_) (do
      let found ← computation
      .ok (found.map fun serverName =>
        { serverName with
          index := serverName.index + by_
          extensionsListLengthIndex := lengthIndex serverName })) := by
  rcases computation with (_ | _ | _) | _ | serverName
  · exact finds
  · exact finds
  · exact finds
  · exact finds
  · refine ⟨Nat.add_le_add_right finds.1 _, fun isShort => ?_⟩
    rcases finds.2 isShort with ⟨place, isIndex, located⟩
    refine ⟨place, ?_, located⟩
    dsimp only
    omega

theorem later {others : Prop} {step width : Nat}
    (finds : Finds others (exs.drop step) (offset + width) computation)
    (isWhole : fits → others ∧ step = width)
    (located : ∀ place name, Located (exs.drop width) place name →
      Located exs (width + place) name) :
    Finds fits exs offset computation := by
  rcases computation with (_ | _ | _) | _ | _
  · exact finds
  · exact finds
  · exact fun fits => finds (isWhole fits).1
  · exact finds
  · refine ⟨le_of_add_right_le finds.1, fun fits => ?_⟩
    rcases isWhole fits with ⟨ends, rfl⟩
    rcases finds.2 ends with ⟨place, isIndex, isLocated⟩
    exact ⟨step + place, isIndex.trans (add_assoc ..), located _ _ isLocated⟩

theorem safe (finds : Finds fits exs offset computation) : computation.Safe := by
  rintro rfl
  exact finds

end Finds

theorem step_eq (exs : Bytes) :
    (4 + BitVec.ofNat 16 (numberAt exs 2 2)).toNat = (4 + numberAt exs 2 2) % 2 ^ 16 := by
  rw [BitVec.toNat_add, toNat_numberAt]
  rfl

theorem finds_indexExtension (rounds currentIndex : Nat) (exs : Bytes) :
    Finds (Steps exs ∧ exs.length < rounds) exs currentIndex
      (indexExtension rounds currentIndex exs) := by
  induction rounds generalizing currentIndex exs with
  | zero => exact fun fits => not_lt_zero _ fits.2
  | succ rounds induction =>
    rw [indexExtension]
    refine .check fun _ => .check fun _ => ?_
    rw [uint16At_bind, uint16At_bind, toNat_numberAt]
    refine .check fun isShort => ?_
    have isLong := not_lt.mp isShort
    have isSlice : (slice exs 4 (4 + numberAt exs 2 2) : Checked Err Bytes) =
        .ok ((exs.take (4 + numberAt exs 2 2)).drop 4) :=
      if_pos ⟨Nat.le_add_right .., isLong⟩
    have isLength : ((exs.take (4 + numberAt exs 2 2)).drop 4).length = numberAt exs 2 2 := by
      rw [length_drop, length_take]
      omega
    rw [isSlice, ok_bind, isLength]
    split
    · next isName =>
      refine .check fun _ => ?_
      rw [index_bind 0]
      refine .check fun _ => ?_
      rw [uint16At_bind, sliceFrom_bind, drop_drop]
      refine ⟨Nat.le_add_right_of_le (Nat.le_add_right ..), fun _ => ⟨9, rfl, ?_⟩⟩
      refine .here isLong ?_ (by omega)
      rw [← toNat_numberAt, isName]
      rfl
    · next notName =>
      have notZero : numberAt exs 0 2 ≠ 0 := fun isZero => notName (by rw [isZero]; rfl)
      rw [step_eq, sliceFrom_bind ((mod_le ..).trans isLong)]
      refine (induction _ _).later (fun fits => ?_) fun place name => .later isLong notZero
      have isFit := fits.1 _ (.here isLong notZero)
      rw [mod_eq_of_lt isFit, length_drop]
      exact ⟨⟨fun length reaches => fits.1 length (.later isLong notZero isFit reaches), by omega⟩,
        rfl⟩

/-- An extension of 65532 bytes is looked at again and again. -/
theorem indexExtension_unfinished (reaches : Reaches exs 65532)
    (rounds currentIndex : Nat) :
    indexExtension rounds currentIndex exs = .error .unfinished := by
  induction rounds generalizing currentIndex exs with
  | zero => rfl
  | succ rounds induction =>
    rcases reaches.first with ⟨isLong, notZero⟩
    have notName : ¬BitVec.ofNat 16 (numberAt exs 0 2) = 0 := fun isZero =>
      notZero (by rw [← toNat_numberAt, isZero]; rfl)
    rw [indexExtension, if_neg (by omega), if_neg (by omega), uint16At_bind, uint16At_bind,
      toNat_numberAt, if_neg (by omega), slice_bind, if_neg notName, step_eq,
      sliceFrom_bind ((mod_le ..).trans isLong)]
    apply induction
    generalize isLength : 65532 = length at reaches
    cases reaches with
    | here => simpa [← isLength] using Reaches.here isLong notZero
    | later _ _ isFit reaches => rwa [mod_eq_of_lt isFit]

/-! ## The checks before the loop -/

/-- Where the extensions of a hello begin. -/
def extensionsStart (handshake : Bytes) : Nat :=
  let currentIndex := 6 + 32 + 1 + (handshake.getD 38 0).toNat
  let cipherSuites := handshake.drop currentIndex
  let csLen := numberAt cipherSuites 0 2
  currentIndex + (2 + csLen + 1 + (cipherSuites.getD (2 + csLen) 0).toNat)

/-- What is checked of a handshake message before the loop. -/
structure IsHandshake (handshake : Bytes) : Prop where
  handshakeType : handshake.getD 0 0 = 1
  handshakeLen : (handshake.drop 4).length =
    ofBigEndian [handshake.getD 1 0, handshake.getD 2 0, handshake.getD 3 0]
  tlsVersion : BitVec.ofNat 16 (numberAt handshake 4 2) &&& 0xfffc = 0x0300 ∨
    BitVec.ofNat 16 (numberAt handshake 4 2) = 0x0304
  exsLen : extensionsStart handshake + 2 +
    numberAt (handshake.drop (extensionsStart handshake)) 0 2 ≤ handshake.length

/-- What is checked of a packet before the loop. -/
structure IsHello (payload : Bytes) : Prop where
  contentType : payload.getD 0 0 = 22
  segmentLen : recordLayerHeaderLen + numberAt payload 3 2 ≤ payload.length
  handshake : IsHandshake (payload.drop recordLayerHeaderLen)

/-- The result is that of the loop if the checks hold, and nothing otherwise. -/
def Enters (checks : Prop) (loop result : Checked Err (Option ServerName)) : Prop :=
  (checks ∧ result = loop) ∨ (¬checks ∧ result = .ok none)

theorem Enters.check {checks condition : Prop} [Decidable condition]
    {loop result : Checked Err (Option ServerName)} (fails : condition → ¬checks)
    (rest : ¬condition → Enters checks loop result) :
    Enters checks loop (if condition then .ok none else result) := by
  split
  · next holds => exact .inr ⟨fails holds, rfl⟩
  · next notHolds => exact rest notHolds

theorem Enters.bind {checks others : Prop} {loop result : Checked Err (Option ServerName)}
    (enters : Enters checks loop result) (same : checks ↔ others)
    (change : ServerName → ServerName) :
    Enters others (do let found ← loop; .ok (found.map change))
      (do let found ← result; .ok (found.map change)) := by
  rcases enters with ⟨holds, rfl⟩ | ⟨fails, rfl⟩
  · exact .inl ⟨same.mp holds, rfl⟩
  · exact .inr ⟨fails ∘ same.mpr, rfl⟩

theorem enters_indexTLSServerNameFromExtensions (exs : Bytes) :
    Enters (2 + numberAt exs 0 2 ≤ exs.length)
      (indexExtension ((exs.drop 2).length + 1) 2 (exs.drop 2))
      (indexTLSServerNameFromExtensions exs) := by
  rw [indexTLSServerNameFromExtensions]
  refine .check (by omega) fun _ => .check (by omega) fun _ => ?_
  rw [uint16At_bind, sliceFrom_bind, toNat_numberAt, length_drop]
  refine .check (by omega) fun _ => .inl ⟨by omega, rfl⟩

/-- The loop over the extensions of a handshake message. -/
def handshakeLoop (handshake : Bytes) : Checked Err (Option ServerName) := do
  let exs := handshake.drop (extensionsStart handshake + 2)
  let found ← indexExtension (exs.length + 1) 2 exs
  .ok (found.map fun serverName =>
    { serverName with
      index := serverName.index + extensionsStart handshake
      extensionsListLengthIndex := extensionsStart handshake })

theorem enters_indexTLSServerNameFromHandshake (handshake : Bytes) :
    Enters (IsHandshake handshake) (handshakeLoop handshake)
      (indexTLSServerNameFromHandshake handshake) := by
  have isStart (checked : IsHandshake handshake) :
      extensionsStart handshake + 2 ≤ handshake.length := le_of_add_right_le checked.exsLen
  have isFar : 42 + (handshake.getD 38 0).toNat ≤ extensionsStart handshake := by
    rw [extensionsStart]
    omega
  rw [indexTLSServerNameFromHandshake]
  refine .check (fun isShort checked => ?_) fun _ => ?_
  · have isStart := isStart checked
    omega
  rw [index_bind 0]
  refine .check (fun isOther checked => isOther checked.handshakeType) fun isType => ?_
  rw [index_bind 0, index_bind 0, index_bind 0, sliceFrom_bind]
  refine .check (fun isOther checked => isOther checked.handshakeLen) fun isLength => ?_
  rw [uint16At_bind]
  refine .check (fun isOther checked => ?_) fun isVersion => ?_
  · exact checked.tlsVersion.elim isOther.1 isOther.2
  rw [index_bind 0]
  refine .check (fun isShort checked => ?_) fun _ => ?_
  · have isStart := isStart checked
    omega
  rw [sliceFrom_bind, length_drop]
  refine .check (fun isShort checked => ?_) fun _ => ?_
  · have isStart := isStart checked
    omega
  rw [uint16At_bind (by rw [length_drop]; omega), toNat_numberAt]
  refine .check (fun isShort checked => ?_) fun _ => ?_
  · have isStart := isStart checked
    rw [extensionsStart] at isStart
    omega
  rw [index_bind 0 (by rw [length_drop]; omega)]
  refine .check (fun isShort checked => ?_) fun isLong => ?_
  · have isStart := isStart checked
    rw [extensionsStart] at isStart
    omega
  rw [sliceFrom_bind]
  have enters := enters_indexTLSServerNameFromExtensions
    (handshake.drop (extensionsStart handshake))
  rw [drop_drop, length_drop] at enters
  have isInside : extensionsStart handshake ≤ handshake.length := not_lt.mp isLong
  rw [not_and_or, not_not, not_not] at isVersion
  refine enters.bind (Iff.intro (fun isList => ?_) fun checked => ?_) _
  · exact ⟨not_not.mp isType, not_not.mp isLength, isVersion, by omega⟩
  · have isList := checked.exsLen
    omega

/-- The loop over the extensions of a packet. -/
def helloLoop (payload : Bytes) : Checked Err (Option ServerName) := do
  let found ← handshakeLoop (payload.drop recordLayerHeaderLen)
  .ok (found.map fun serverName =>
    { serverName with
      index := serverName.index + recordLayerHeaderLen
      extensionsListLengthIndex :=
        serverName.extensionsListLengthIndex + recordLayerHeaderLen })

theorem enters_indexTLSServerName (payload : Bytes) :
    Enters (IsHello payload) (helloLoop payload) (indexTLSServerName payload) := by
  rw [indexTLSServerName]
  refine .check (fun isShort hello => ?_) fun hasHeader => ?_
  · have isLong := hello.segmentLen
    omega
  have isLong := not_lt.mp hasHeader
  rw [recordLayerHeaderLen] at hasHeader
  rw [index_bind 0]
  refine .check (fun isOther hello => isOther hello.contentType) fun isType => ?_
  rw [uint16At_bind, toNat_numberAt]
  refine .check (fun isShort hello => ?_) fun isWhole => ?_
  · have isLong := hello.segmentLen
    omega
  rw [sliceFrom_bind isLong]
  refine (enters_indexTLSServerNameFromHandshake _).bind
    (Iff.intro (fun checked => ?_) fun hello => ?_) _
  · exact ⟨not_not.mp isType, not_lt.mp isWhole, checked⟩
  · exact hello.handshake

/-- Where the extensions of a packet begin, behind the length of their list. -/
def listIndex (payload : Bytes) : Nat :=
  2 + extensionsStart (payload.drop recordLayerHeaderLen) + recordLayerHeaderLen

theorem drop_listIndex (payload : Bytes) :
    (payload.drop recordLayerHeaderLen).drop
        (extensionsStart (payload.drop recordLayerHeaderLen) + 2) =
      payload.drop (listIndex payload) := by
  rw [drop_drop, listIndex]
  congr 1
  omega

theorem finds_indexTLSServerName (payload : Bytes) :
    Finds (IsHello payload → Steps (payload.drop (listIndex payload)))
      (payload.drop (listIndex payload)) (listIndex payload) (indexTLSServerName payload) := by
  rcases enters_indexTLSServerName payload with ⟨hello, isLoop⟩ | ⟨_, isNone⟩
  · have finds := finds_indexExtension ((payload.drop (listIndex payload)).length + 1) 2
      (payload.drop (listIndex payload))
    rw [and_iff_left (lt_succ_self _)] at finds
    rw [isLoop, helloLoop, handshakeLoop, drop_listIndex, forall_prop_of_true hello]
    exact (finds.shift _ _).shift _ _
  · rw [isNone]
    trivial

theorem Located.name {payload name : Bytes} {offset place : Nat}
    (located : Located (payload.drop offset) place name) :
    offset + place + name.length ≤ payload.length ∧
      (payload.drop (offset + place)).take name.length = name := by
  generalize isList : payload.drop offset = exs at located
  induction located generalizing offset with
  | here isLong _ hasName =>
    subst isList
    rw [length_drop] at isLong
    rw [drop_take, length_take, drop_drop, length_drop, min_eq_left (by omega)]
    exact ⟨by omega, rfl⟩
  | later _ _ _ induction =>
    subst isList
    rw [← add_assoc]
    exact induction (drop_drop ..).symm

theorem indexTLSServerName_unfinished {payload : Bytes} (hello : IsHello payload)
    (reaches : Reaches (payload.drop (listIndex payload)) 65532) :
    indexTLSServerName payload = .error .unfinished ∧
      ∀ rounds, indexExtension rounds 2 (payload.drop (listIndex payload)) =
        .error .unfinished := by
  refine ⟨?_, fun rounds => indexExtension_unfinished reaches rounds 2⟩
  rcases enters_indexTLSServerName payload with ⟨_, isLoop⟩ | ⟨notHello, _⟩
  · rw [isLoop, helloLoop, handshakeLoop, drop_listIndex, indexExtension_unfinished reaches]
    rfl
  · exact absurd hello notHello

/-- A hello with the server name `a.b`. -/
def namedHello : Bytes :=
  [22, 3, 1, 0, 59, 1, 0, 0, 55, 3, 3] ++ replicate 32 0 ++
    [0, 0, 2, 0x13, 1, 1, 0, 0, 12, 0, 0, 0, 8, 0, 6, 0, 0, 3, 97, 46, 98]

/-- A hello whose only extension has 65532 bytes and is no server name. -/
def longHello (rest : Bytes) : Bytes :=
  [22, 3, 1, 0, 0, 1, 1, 0, 43, 3, 3] ++ replicate 32 0 ++
    [0, 0, 2, 0x13, 1, 1, 0, 255, 255, 0, 21, 255, 252] ++ rest

theorem longHello_reaches {rest : Bytes} (isLength : rest.length = 65532) :
    IsHello (longHello rest) ∧
      Reaches ((longHello rest).drop (listIndex (longHello rest))) 65532 := by
  have isTotal : (longHello rest).length = 65588 := by
    rw [longHello, length_append, isLength]
    rfl
  have isList : (longHello rest).drop (listIndex (longHello rest)) = [0, 21, 255, 252] ++ rest :=
    rfl
  have isStart : extensionsStart ((longHello rest).drop recordLayerHeaderLen) = 45 := rfl
  have isListed : numberAt (((longHello rest).drop recordLayerHeaderLen).drop 45) 0 2 = 65535 := rfl
  have isVersion : numberAt ((longHello rest).drop recordLayerHeaderLen) 4 2 = 0x0303 := rfl
  have isExtension : numberAt ([0, 21, 255, 252] ++ rest) 2 2 = 65532 := rfl
  refine ⟨⟨rfl, ?_, rfl, ?_, .inl ?_, ?_⟩, ?_⟩
  · have isSegment : numberAt (longHello rest) 3 2 = 0 := rfl
    rw [isTotal, isSegment]
    decide
  · rw [drop_drop, length_drop, isTotal]
    rfl
  · rw [isVersion]
    rfl
  · rw [isStart, isListed, length_drop, isTotal]
    decide
  · rw [isList, ← isExtension]
    apply Reaches.here
    · rw [isExtension, length_append, isLength]
      decide
    · exact ne_of_beq_false rfl

end SingBox.TlsFragment
