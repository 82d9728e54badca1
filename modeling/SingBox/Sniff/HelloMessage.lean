import SingBox.Sniff.Extensions

/-! # The ClientHello message

A ClientHello as its sender writes it, and what the parser makes of it. Every
input is such a message in a record, up to the block of extensions, or it is
rejected; so the parser can only panic in the loop over the extensions.
-/

namespace SingBox.Ja3

open Checked List Bytes Except

structure HelloFields where
  version : BitVec 16
  random : Bytes
  sessionID : Bytes
  cipherSuites : Bytes
  compressionMethods : Bytes
  supported : SupportedVersion version
  random_length : random.length = 32
  sessionID_small : sessionID.length < 2 ^ 8
  cipherSuites_small : cipherSuites.length < 2 ^ 16
  compressionMethods_small : compressionMethods.length < 2 ^ 8

namespace HelloFields

/-- From the cipher suites on. -/
def suites (fields : HelloFields) (exs : Bytes) : Bytes :=
  bigEndian 2 fields.cipherSuites.length ++ (fields.cipherSuites ++
    (BitVec.ofNat 8 fields.compressionMethods.length :: (fields.compressionMethods ++ exs)))

def body (fields : HelloFields) (exs : Bytes) : Bytes :=
  bigEndian 2 fields.version.toNat ++ (fields.random ++
    (BitVec.ofNat 8 fields.sessionID.length :: (fields.sessionID ++ fields.suites exs)))

def handshake (fields : HelloFields) (exs : Bytes) : Bytes :=
  1 :: (bigEndian 3 (fields.body exs).length ++ fields.body exs)

variable (fields : HelloFields) (exs : Bytes)

theorem suites_length : (fields.suites exs).length =
    3 + fields.cipherSuites.length + fields.compressionMethods.length + exs.length := by
  simp [suites]
  omega

theorem body_length : (fields.body exs).length =
    35 + fields.sessionID.length + (fields.suites exs).length := by
  simp [body, fields.random_length]
  omega

theorem handshake_length : (fields.handshake exs).length = 4 + (fields.body exs).length := by
  simp [handshake]
  omega

end HelloFields

variable {bytes exs items hs : Bytes} {count : BitVec 8} {announced : Nat} {version : BitVec 16}
  {fields : HelloFields}

theorem parseFront_handshake (fields : HelloFields) (small : (fields.body exs).length < 2 ^ 24) :
    ∃ cipherSuites, parseFront (fields.handshake exs) =
      .ok { version := fields.version, cipherSuites, exs } := by
  have handshakeLength := fields.handshake_length exs
  have bodyLength := fields.body_length exs
  have suitesLength := fields.suites_length exs
  have sessionIDLength := toNat_of_lt fields.sessionID_small
  have cipherSuitesLength := toNat_of_lt fields.cipherSuites_small
  have methodsLength := toNat_of_lt fields.compressionMethods_small
  have isVersion : (uint16At (fields.handshake exs) 4 : Parsing (BitVec 16)) =
      .ok fields.version := by
    rw [HelloFields.handshake, HelloFields.body, ← cons_append]
    exact uint16At_word (by simp)
  have isSplit : fields.handshake exs = (1 :: bigEndian 3 (fields.body exs).length ++
      bigEndian 2 fields.version.toNat ++ fields.random) ++
        (BitVec.ofNat 8 fields.sessionID.length :: (fields.sessionID ++ fields.suites exs)) := by
    simp [HelloFields.handshake, HelloFields.body]
  have isSessionID : (index (fields.handshake exs) 38 : Parsing (BitVec 8)) =
      .ok (BitVec.ofNat 8 fields.sessionID.length) := by
    rw [isSplit]
    exact index_append (by simp [fields.random_length])
  have isSuites : (sliceFrom (fields.handshake exs) (39 + fields.sessionID.length) :
      Parsing Bytes) = .ok (fields.suites exs) := by
    rw [isSplit]
    exact sliceFrom_append_cons (by simp [fields.random_length])
  have isCount : (uint16At (fields.suites exs) 0 : Parsing (BitVec 16)) =
      .ok (BitVec.ofNat 16 fields.cipherSuites.length) := uint16At_zero _ _
  have hasSuites : ∃ values, (uint16sAt (fields.suites exs) 2 (fields.cipherSuites.length / 2) :
      Parsing (List (BitVec 16))) = .ok values := exists_uint16sAt (by omega)
  have isSuitesSplit : fields.suites exs = (bigEndian 2 fields.cipherSuites.length ++
      fields.cipherSuites) ++ (BitVec.ofNat 8 fields.compressionMethods.length ::
        (fields.compressionMethods ++ exs)) := by
    simp [HelloFields.suites]
  have isMethods : (index (fields.suites exs) (2 + fields.cipherSuites.length) :
      Parsing (BitVec 8)) = .ok (BitVec.ofNat 8 fields.compressionMethods.length) := by
    rw [isSuitesSplit]
    exact index_append (by simp)
  have isExtensions : (sliceFrom (fields.suites exs) (2 + fields.cipherSuites.length + 1 +
      fields.compressionMethods.length) : Parsing Bytes) = .ok exs := by
    rw [isSuitesSplit]
    exact sliceFrom_append_cons (by simp)
  have isBody := ofBigEndian_of_lt 3 small
  rcases hasSuites with ⟨cipherSuites, areSuites⟩
  refine ⟨cipherSuites, ?_⟩
  have isFront : parseFront (fields.handshake exs) =
      demand (39 ≤ (fields.handshake exs).length) (.length 3) >>= fun _ =>
        demand ((fields.body exs).length =
          ofBigEndian (bigEndian 3 (fields.body exs).length)) (.length 4) >>= fun _ =>
            uint16At (fields.handshake exs) 4 >>= fun version => _ := rfl
  rw [isFront, demand_bind_of, demand_bind_of isBody.symm, isVersion, ok_bind,
    demand_bind_of fields.supported, isSessionID, ok_bind, sessionIDLength,
    demand_bind_of, isSuites, ok_bind, demand_bind_of, isCount, ok_bind,
    cipherSuitesLength, demand_bind_of, areSuites, ok_bind, isMethods, ok_bind,
    methodsLength, demand_bind_of, isExtensions, ok_bind]

/-- The checks keep every access before the extensions within the message. -/
theorem returns_parseFront (hs : Bytes) : (parseFront hs).Returns := by
  rw [parseFront]
  refine .demand fun isLong => ?_
  rw [index_bind 0]
  refine .demand fun _ => ?_
  rw [index_bind 0, index_bind 0, index_bind 0,
    sliceFrom_bind]
  refine .demand fun _ => ?_
  rw [uint16At_bind]
  refine .demand fun _ => ?_
  rw [index_bind 0]
  refine .demand fun hasSessionID => ?_
  rw [sliceFrom_bind hasSessionID]
  refine .demand fun hasCount => ?_
  rw [uint16At_bind hasCount]
  generalize hs.drop _ = cs, BitVec.ofNat 16 _ = csLen
  refine .demand fun hasSuites => ?_
  have areSuites : ∃ values, (uint16sAt cs 2 (csLen.toNat / 2) : Parsing _) = .ok values :=
    exists_uint16sAt (by omega)
  rcases areSuites with ⟨values, areSuites⟩
  rw [areSuites, ok_bind, index_bind 0]
  refine .demand fun hasMethods => ?_
  rw [sliceFrom_bind hasMethods]
  exact returns_ok _

private theorem exists_split {count : Nat} (inside : count ≤ items.length) :
    ∃ front rest, items = front ++ rest ∧ front.length = count :=
  ⟨items.take count, items.drop count, (take_append_drop count items).symm, by
    rw [length_take]
    omega⟩

private theorem split_counted {rest : Bytes} {place : Nat}
    (isCount : (index items place : Parsing (BitVec 8)) = .ok count)
    (isRest : (sliceFrom items (place + 1 + count.toNat) : Parsing Bytes) = .ok rest) :
    ∃ front counted, items = front ++ (BitVec.ofNat 8 counted.length :: (counted ++ rest)) ∧
      front.length = place ∧ counted.length = count.toNat := by
  rcases of_index isCount with ⟨front, after, rfl, isPlace⟩
  rcases of_sliceFrom isRest with ⟨before, isSplit, isBefore⟩
  have isLength := congrArg length isSplit
  rw [length_append, length_append, length_cons] at isLength
  rcases exists_split (show count.toNat ≤ after.length by omega) with
    ⟨counted, others, rfl, isCounted⟩
  rw [sliceFrom_append_cons (by omega)] at isRest
  cases isRest
  refine ⟨front, counted, ?_, isPlace, isCounted⟩
  rw [isCounted, ofNat_word]

private theorem exists_suites {cs : Bytes} {csLen : BitVec 16}
    (isLength : (uint16At cs 0 : Parsing (BitVec 16)) = .ok csLen)
    (isCount : (index cs (2 + csLen.toNat) : Parsing (BitVec 8)) = .ok count)
    (isRest : (sliceFrom cs (2 + csLen.toNat + 1 + count.toNat) : Parsing Bytes) = .ok exs) :
    ∃ suites methods, suites.length = csLen.toNat ∧ methods.length = count.toNat ∧
      cs = bigEndian 2 suites.length ++
        (suites ++ (BitVec.ofNat 8 methods.length :: (methods ++ exs))) := by
  rcases split_counted isCount isRest with ⟨front, methods, rfl, isFront, isMethods⟩
  rcases front with _ | ⟨high, _ | ⟨low, suites⟩⟩
  case cons.cons =>
    have sameLength : uint16 high low = csLen := ok.inj isLength
    have isSuites : suites.length = csLen.toNat := by
      simp only [length_cons] at isFront
      omega
    refine ⟨suites, methods, isSuites, isMethods, ?_⟩
    rw [isSuites, ← sameLength, bigEndian_uint16]
    rfl
  all_goals
    simp only [length_cons, length_nil] at isFront
    omega

theorem exists_handshake {front : Front} (isOk : parseFront hs = .ok front) :
    ∃ fields : HelloFields, hs = fields.handshake front.exs := by
  simp only [parseFront, bind_eq_ok_iff, demand_eq_ok_iff, exists_const] at isOk
  obtain ⟨-, handshType, isFirst, isHello, high, isHigh, middle, isMiddle, low, isLow, body, isBody,
    isLength, version, isVersion, isSupported, sessionIDLen, isSessionID, -, cs, areSuites, -,
    csLen, isCount, -, cipherSuites, -, compressMethodLen, isMethods, -, exs, isExtensions,
    isFront⟩ := isOk
  cases isFront
  rcases exists_suites isCount isMethods isExtensions with
    ⟨suites, methods, isSuites, areMethods, rfl⟩
  rcases split_counted isSessionID areSuites with ⟨before, sessionID, rfl, isBefore, isID⟩
  rcases before with _ | ⟨first, _ | ⟨one, _ | ⟨two, _ | ⟨three, _ | ⟨major, _ | ⟨minor,
    random⟩⟩⟩⟩⟩⟩
  case cons.cons.cons.cons.cons.cons =>
    cases ok.inj isFirst
    cases ok.inj isHigh
    cases ok.inj isMiddle
    cases ok.inj isLow
    cases ok.inj isVersion
    cases ok.inj isBody
    have isRandom : random.length = 32 := by
      simp only [length_cons] at isBefore
      omega
    let fields : HelloFields :=
      { version := uint16 major minor
        random
        sessionID
        cipherSuites := suites
        compressionMethods := methods
        supported := isSupported
        random_length := isRandom
        sessionID_small := isID ▸ sessionIDLen.isLt
        cipherSuites_small := isSuites ▸ csLen.isLt
        compressionMethods_small := areMethods ▸ compressMethodLen.isLt }
    refine ⟨fields, ?_⟩
    have isNumber := bigEndian_ofBigEndian [high, middle, low]
    have isFields : fields.body exs = major :: minor :: (random ++
        (BitVec.ofNat 8 sessionID.length :: (sessionID ++ fields.suites exs))) := by
      rw [HelloFields.body, bigEndian_uint16]
      rfl
    have sameLength : (fields.body exs).length = ofBigEndian [high, middle, low] := by
      rw [isFields]
      exact isLength
    have isMessage : fields.handshake exs =
        1 :: (bigEndian [high, middle, low].length (fields.body exs).length ++
          fields.body exs) := rfl
    rw [isMessage, sameLength, isNumber, isFields, isHello]
    rfl
  all_goals
    simp only [length_cons, length_nil] at isBefore
    omega

/-! ## The record around the message -/

/-- A record that announces this length. -/
def recordOf (version : BitVec 16) (announced : Nat) (rest : Bytes) : Bytes :=
  22 :: (bigEndian 2 version.toNat ++ (bigEndian 2 announced ++ rest))

def record (version : BitVec 16) (hs trailing : Bytes) : Bytes :=
  recordOf version hs.length (hs ++ trailing)

theorem parseRecord_header (supported : SupportedVersion version) (small : announced < 2 ^ 16)
    (rest : Bytes) :
    parseRecord (recordOf version announced rest) =
      demand (announced ≤ rest.length) (.length 2) >>= fun _ => .ok (rest.take announced) := by
  have isNumber := toNat_of_lt small
  have isVersion : (uint16At (recordOf version announced rest) 1 : Parsing (BitVec 16)) =
      .ok version := by
    rw [recordOf, ← singleton_append]
    exact uint16At_word rfl
  have isLength : (uint16At (recordOf version announced rest) 3 : Parsing (BitVec 16)) =
      .ok (BitVec.ofNat 16 announced) := by
    rw [recordOf, ← cons_append]
    exact uint16At_bigEndian rfl
  have isParsed : parseRecord (recordOf version announced rest) =
      uint16At (recordOf version announced rest) 1 >>= fun tlsRecordVersion =>
        demand (SupportedVersion tlsRecordVersion) (.version 1) >>= fun _ => _ := rfl
  rw [isParsed, isVersion, ok_bind, demand_bind_of supported, isLength, ok_bind, isNumber]
  change (demand (announced ≤ rest.length) _ >>= fun _ => _) = _
  by_cases inside : announced ≤ rest.length
  · rw [demand_bind_of inside, demand_bind_of inside, slice, if_pos]
    · have isTaken : 5 + announced = announced + 5 := Nat.add_comm 5 announced
      rw [isTaken]
      rfl
    · exact ⟨by omega, by simp [recordOf]; omega⟩
  · rw [demand_bind_of_not inside, demand_bind_of_not inside]

theorem parseRecord_record (supported : SupportedVersion version) (small : hs.length < 2 ^ 16)
    (trailing : Bytes) : parseRecord (record version hs trailing) = .ok hs := by
  have inside : hs.length ≤ (hs ++ trailing).length := by simp
  rw [record, parseRecord_header supported small, demand_bind_of inside, take_left' rfl]

theorem returns_parseRecord (segment : Bytes) : (parseRecord segment).Returns := by
  rw [parseRecord]
  refine .demand fun isLong => ?_
  rw [index_bind 0]
  refine .demand fun _ => ?_
  rw [uint16At_bind]
  refine .demand fun _ => ?_
  rw [uint16At_bind, sliceFrom_bind isLong, length_drop]
  refine .demand fun inside => ?_
  rw [slice, if_pos (by omega)]
  exact returns_ok _

theorem exists_record {segment : Bytes} (isOk : parseRecord segment = .ok hs) :
    ∃ version trailing, SupportedVersion version ∧ hs.length < 2 ^ 16 ∧
      segment = record version hs trailing := by
  have isParsed := isOk
  simp only [parseRecord, bind_eq_ok_iff, demand_eq_ok_iff, exists_const] at isOk
  obtain ⟨isLong, contType, isFirst, isHandshake, version, isVersion, isSupported, -⟩ := isOk
  rcases segment with _ | ⟨first, _ | ⟨major, _ | ⟨minor, _ | ⟨high, _ | ⟨low, rest⟩⟩⟩⟩⟩
  case cons.cons.cons.cons.cons =>
    cases ok.inj isFirst
    cases ok.inj isVersion
    cases isHandshake
    have isSegment : (22 :: major :: minor :: high :: low :: rest : Bytes) =
        recordOf (uint16 major minor) (uint16 high low).toNat rest := by
      rw [recordOf, bigEndian_uint16, bigEndian_uint16]
      rfl
    have isTaken : (demand ((uint16 high low).toNat ≤ rest.length) (.length 2) >>= fun _ =>
        .ok (rest.take (uint16 high low).toNat) : Parsing Bytes) = .ok hs := by
      rw [← parseRecord_header isSupported (uint16 high low).isLt]
      rw [isSegment] at isParsed
      exact isParsed
    rcases bind_eq_ok isTaken with ⟨_, inside, isTaken⟩
    have inside := of_demand inside
    cases isTaken
    have isLength : (rest.take (uint16 high low).toNat).length = (uint16 high low).toNat := by
      rw [length_take]
      omega
    refine ⟨uint16 major minor, rest.drop (uint16 high low).toNat, isSupported, ?_, ?_⟩
    · rw [isLength]
      exact (uint16 high low).isLt
    · rw [isSegment, record, isLength, take_append_drop]
  all_goals
    simp at isLong

/-! ## The area of the extensions -/

theorem parseExtensions_blocks (rounds : Nat) {blocks : Bytes}
    (inside : announced ≤ blocks.length) (small : blocks.length < 2 ^ 16) :
    parseExtensions rounds (bigEndian 2 announced ++ blocks) =
      extensionLoop rounds {} blocks := by
  have isNumber : (BitVec.ofNat 16 announced).toNat = announced := toNat_of_lt (by omega)
  have areBlocks : (sliceFrom (bigEndian 2 announced ++ blocks) 2 : Parsing Bytes) =
      .ok blocks := sliceFrom_append (bigEndian_length 2 announced)
  rw [parseExtensions, if_neg (by simp), demand_bind_of (by simp), uint16At_zero, ok_bind,
    areBlocks, ok_bind, isNumber, demand_bind_of inside]

theorem parseExtensions_cases (exs : Bytes) :
    (∃ result, result.Returns ∧ ∀ rounds, parseExtensions rounds exs = result) ∨
      ∃ announced blocks, announced ≤ blocks.length ∧
        exs = bigEndian 2 announced ++ blocks := by
  rcases exs with _ | ⟨high, _ | ⟨low, blocks⟩⟩
  case nil => exact .inl ⟨.ok {}, returns_ok _, fun _ => rfl⟩
  case cons.nil => exact .inl ⟨.error (.returned (.length 9)), returns_returned _, fun _ => rfl⟩
  case cons.cons =>
    by_cases inside : (uint16 high low).toNat ≤ blocks.length
    · refine .inr ⟨(uint16 high low).toNat, blocks, inside, ?_⟩
      rw [bigEndian_uint16]
      rfl
    · refine .inl ⟨.error (.returned (.length 10)), returns_returned _, fun rounds => ?_⟩
      have isParsed : parseExtensions rounds (high :: low :: blocks) =
          demand ((uint16 high low).toNat ≤ blocks.length) (.length 10) >>= fun _ =>
            extensionLoop rounds {} blocks := rfl
      rw [isParsed, demand_bind_of_not inside]

/-! ## The whole parser -/

/-- The lists in the extensions of the message fit into their blocks, as far as
the parser comes. -/
def ExtensionListsFit (segment : Bytes) : Prop :=
  ∀ (version : BitVec 16) (fields : HelloFields) (announced : Nat) (blocks trailing : Bytes),
    SupportedVersion version → announced ≤ blocks.length →
    (fields.handshake (bigEndian 2 announced ++ blocks)).length < 2 ^ 16 →
    segment = record version (fields.handshake (bigEndian 2 announced ++ blocks)) trailing →
    ListsFit blocks

theorem exists_parseExtensions_returns_iff (small : exs.length < 2 ^ 16) :
    (∃ rounds, (parseExtensions rounds exs).Returns) ↔
      ∀ announced blocks, announced ≤ blocks.length →
        exs = bigEndian 2 announced ++ blocks → ListsFit blocks := by
  have isLoop : ∀ {announced blocks}, announced ≤ blocks.length →
      exs = bigEndian 2 announced ++ blocks →
        ((∃ rounds, (parseExtensions rounds exs).Returns) ↔ ListsFit blocks) := by
    rintro announced blocks inside rfl
    rw [length_append] at small
    have isSmall : blocks.length < 2 ^ 16 := by omega
    simp only [parseExtensions_blocks _ inside isSmall]
    exact exists_extensionLoop_returns_iff isSmall {}
  constructor
  · intro returns announced blocks inside isArea
    exact (isLoop inside isArea).mp returns
  · intro areFit
    rcases parseExtensions_cases exs with ⟨_, returns, isResult⟩ |
      ⟨announced, blocks, inside, isArea⟩
    · exact ⟨0, by rw [isResult]; exact returns⟩
    · exact (isLoop inside isArea).mpr (areFit announced blocks inside isArea)

theorem exists_parseExtensions_finished (small : exs.length < 2 ^ 16) :
    ∃ rounds, parseExtensions rounds exs ≠ .error .unfinished := by
  rcases parseExtensions_cases exs with ⟨result, returns, isResult⟩ |
    ⟨announced, blocks, inside, rfl⟩
  · refine ⟨0, fun isUnfinished => ?_⟩
    rw [isResult] at isUnfinished
    rw [isUnfinished] at returns
    exact not_returns_unfinished returns
  · rw [length_append] at small
    have isSmall : blocks.length < 2 ^ 16 := by omega
    refine ⟨blocks.length + 1, fun isUnfinished => ?_⟩
    rw [parseExtensions_blocks _ inside isSmall] at isUnfinished
    rcases extensionLoop_settled isSmall (Nat.lt_succ_self _) {} with ⟨returns, _⟩ | ⟨panics, _⟩
    · rw [isUnfinished] at returns
      exact not_returns_unfinished returns
    · cases isUnfinished.symm.trans panics

private theorem compute_record (supported : SupportedVersion version)
    (small : (fields.handshake exs).length < 2 ^ 16) (trailing : Bytes) :
    ∃ front, ∀ rounds, compute rounds (record version (fields.handshake exs) trailing) =
      parseExtensions rounds exs >>= fun found => .ok (clientHello front found) := by
  have isLength := fields.handshake_length exs
  have isSmall : (fields.body exs).length < 2 ^ 24 := by omega
  rcases parseFront_handshake fields isSmall with ⟨cipherSuites, isFront⟩
  refine ⟨{ version := fields.version, cipherSuites, exs }, fun rounds => ?_⟩
  rw [compute, parseSegment, parseRecord_record supported small, ok_bind, parseHandshake, isFront,
    ok_bind]

private theorem compute_record_returns_iff (supported : SupportedVersion version)
    (small : (fields.handshake exs).length < 2 ^ 16) (trailing : Bytes) :
    (∃ rounds, compute rounds (record version (fields.handshake exs) trailing) ≠
      .error .unfinished) ∧
      ((∃ rounds, (compute rounds (record version (fields.handshake exs) trailing)).Returns) ↔
        ∀ announced blocks, announced ≤ blocks.length →
          exs = bigEndian 2 announced ++ blocks → ListsFit blocks) := by
  have isLength := fields.handshake_length exs
  have isBody := fields.body_length exs
  have areSuites := fields.suites_length exs
  have isSmall : exs.length < 2 ^ 16 := by omega
  rcases compute_record supported small trailing with ⟨_, isParsed⟩
  simp only [isParsed, returns_bind_ok_iff]
  refine ⟨?_, exists_parseExtensions_returns_iff isSmall⟩
  rcases exists_parseExtensions_finished isSmall with ⟨rounds, isFinished⟩
  refine ⟨rounds, fun isUnfinished => isFinished ?_⟩
  cases isArea : parseExtensions rounds exs with
  | error =>
    rw [isArea] at isUnfinished
    cases isUnfinished
    rfl
  | ok =>
    rw [isArea] at isUnfinished
    cases isUnfinished

private theorem error_or_exists_record (segment : Bytes) :
    (∃ err, ∀ rounds, compute rounds segment = .error (.returned err)) ∨
      ∃ version fields exs trailing, SupportedVersion version ∧
        (HelloFields.handshake fields exs).length < 2 ^ 16 ∧
        segment = record version (fields.handshake exs) trailing := by
  cases isRecord : parseRecord segment with
  | error fault =>
    rcases returns_parseRecord segment fault isRecord with ⟨err, rfl⟩
    refine .inl ⟨err, fun rounds => ?_⟩
    rw [compute, parseSegment, isRecord]
    rfl
  | ok hs =>
    rcases exists_record isRecord with ⟨version, trailing, supported, small, isSegment⟩
    cases isFront : parseFront hs with
    | error fault =>
      rcases returns_parseFront hs fault isFront with ⟨err, rfl⟩
      refine .inl ⟨err, fun rounds => ?_⟩
      rw [compute, parseSegment, isRecord, ok_bind, parseHandshake, isFront]
      rfl
    | ok =>
      rcases exists_handshake isFront with ⟨fields, rfl⟩
      exact .inr ⟨version, fields, _, trailing, supported, small, isSegment⟩

/-- The parser always comes to an end, and it panics exactly if it comes to a
list that is longer than its block. -/
theorem compute_returns_iff (segment : Bytes) :
    (∃ rounds, compute rounds segment ≠ .error .unfinished) ∧
      ((∃ rounds, (compute rounds segment).Returns) ↔ ExtensionListsFit segment) := by
  have fit_of_returns : (∃ rounds, (compute rounds segment).Returns) →
      ExtensionListsFit segment := by
    rintro returns version fields announced blocks trailing supported inside small rfl
    exact (compute_record_returns_iff supported small trailing).2.mp returns _ _ inside rfl
  rcases error_or_exists_record segment with
    ⟨err, isError⟩ | ⟨version, fields, exs, trailing, supported, small, rfl⟩
  · refine ⟨⟨0, by simp [isError]⟩, fit_of_returns, fun _ => ⟨0, ?_⟩⟩
    rw [isError]
    exact returns_returned err
  · rcases compute_record_returns_iff supported small trailing with ⟨isFinished, returns_iff⟩
    refine ⟨isFinished, fit_of_returns, fun areFit => returns_iff.mpr ?_⟩
    rintro announced blocks inside rfl
    exact areFit version fields announced blocks trailing supported inside small rfl

/-- A ClientHello whose `supported_versions` block is one byte long and
announces a list of two bytes. -/
def shortVersions : Bytes :=
  [22, 3, 1, 0, 49, 1, 0, 0, 45, 3, 3] ++ replicate 32 0 ++
    [0, 0, 0, 0, 0, 5, 0, 43, 0, 1, 2]

theorem compute_shortVersions_panics :
    compute 1 shortVersions = .error .panicked ∧
      ∀ rounds, ¬(compute rounds shortVersions).Returns := by
  refine ⟨by decide +kernel, fun rounds returns => ?_⟩
  cases rounds with
  | zero =>
    have isUnfinished : compute 0 shortVersions = .error .unfinished := by decide +kernel
    rw [isUnfinished] at returns
    exact not_returns_unfinished returns
  | succ rounds =>
    have isPanic : compute (rounds + 1) shortVersions = .error .panicked := by rfl
    rw [isPanic] at returns
    exact not_returns_panicked returns

end SingBox.Ja3
