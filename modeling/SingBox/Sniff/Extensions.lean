import SingBox.Sniff.ClientHello

/-! # Extension blocks

The extensions of a ClientHello as blocks of a type, a length and a body. A
block is read, rejected, or overrun: the lists of `supported_versions` and
`signature_algorithms` have a length of their own, and the parser follows it
past the end of the block.
-/

namespace SingBox.Ja3

open Checked List Bytes

structure Extension where
  exType : BitVec 16
  body : Bytes
  small : body.length < 2 ^ 16

namespace Extension

def kind (extension : Extension) : ExtensionKind := extensionKind extension.exType

def bytes (extension : Extension) : Bytes :=
  bigEndian 2 extension.exType.toNat ++
    (bigEndian 2 extension.body.length ++ extension.body)

end Extension

/-! ## One kind of block -/

/-- The lengths that the parser checks are right, and the name is a host name. -/
def WellFormed (sex : Bytes) : ExtensionKind → Prop
  | .serverName => 5 ≤ sex.length ∧ sex.length - 5 = numberAt sex 3 2 ∧ numberAt sex 2 1 = 0
  | .supportedGroups => 2 ≤ sex.length ∧ sex.length - 2 = numberAt sex 0 2
  | .pointFormats => 1 ≤ sex.length ∧ sex.length - 1 = numberAt sex 0 1
  | .supportedVersions => 1 ≤ sex.length
  | .signatureAlgorithms => 2 ≤ sex.length
  | .other => True

/-- The list in the body, rounded up to whole numbers, ends within it. -/
def ListFits (sex : Bytes) : ExtensionKind → Prop
  | .supportedVersions => 1 ≤ sex.length → 1 + 2 * ((numberAt sex 0 1 + 1) / 2) ≤ sex.length
  | .signatureAlgorithms => 2 ≤ sex.length → 2 + 2 * ((numberAt sex 0 2 + 1) / 2) ≤ sex.length
  | _ => True

/-- What the parser does with a block: it goes on with the name, returns an error
or panics. -/
inductive BlockOutcome (parsed : Parsing Found) (sni : Bytes) (wellFormed fits : Prop) : Prop
  | read (next : Found) (isWellFormed : wellFormed) (doesFit : fits)
      (isOk : parsed = .ok next) (isName : next.sni = sni)
  | rejected (err : ParseError) (isMalformed : ¬wellFormed) (doesFit : fits)
      (isError : parsed = .error (.returned err))
  | overrun (isWellFormed : wellFormed) (doesNot : ¬fits) (isPanic : parsed = .error .panicked)

variable {sni sex : Bytes} {place start length : Nat}

theorem BlockOutcome.demand {next : Parsing Found} {condition rest : Prop} {wellFormed fits : Prop}
    [Decidable condition] {err : ParseError} (isWellFormed : wellFormed ↔ condition ∧ rest)
    (doesFit : ¬condition → fits) (outcome : condition → BlockOutcome next sni rest fits) :
    BlockOutcome (Checked.demand condition err >>= fun _ => next) sni wellFormed fits := by
  rw [isWellFormed]
  by_cases holds : condition
  · rw [demand_bind_of holds]
    cases outcome holds with
    | read next isRest doesFit isOk isName => exact .read next ⟨holds, isRest⟩ doesFit isOk isName
    | rejected err isMalformed doesFit isError =>
      exact .rejected err (fun both => isMalformed both.2) doesFit isError
    | overrun isRest doesNot isPanic => exact .overrun ⟨holds, isRest⟩ doesNot isPanic
  · rw [demand_bind_of_not holds]
    exact .rejected err (fun both => holds both.1) (doesFit holds) rfl

theorem BlockOutcome.of_exists {Value : Type} {reading : Parsing Value} {change : Value → Found}
    {wellFormed fits : Prop} (isRead : ∃ value, reading = .ok value) (isWellFormed : wellFormed)
    (doesFit : fits) (sameName : ∀ value, (change value).sni = sni) :
    BlockOutcome (reading >>= fun value => .ok (change value)) sni wellFormed fits := by
  rcases isRead with ⟨value, isOk⟩
  rw [isOk]
  exact .read _ isWellFormed doesFit rfl (sameName value)

private theorem numberAt_one {bytes : Bytes} (inside : place < bytes.length) :
    numberAt bytes place 1 = (bytes.getD place 0).toNat := by
  rw [numberAt, ← cons_getElem_drop_succ (h := inside), getD_eq_getElem?_getD,
    getElem?_eq_getElem inside]
  exact Nat.zero_add _

theorem parseServerName_outcome (found : Found) (sex : Bytes) :
    BlockOutcome (parseServerName found sex) (sex.drop 5) (WellFormed sex .serverName)
      (ListFits sex .serverName) := by
  refine .demand Iff.rfl (fun _ => trivial) fun isLong => ?_
  have inside : 2 < sex.length := Nat.lt_of_lt_of_le (by decide) isLong
  rw [index_bind 0 inside, uint16At_bind isLong, sliceFrom_bind isLong, length_drop,
    toNat_numberAt, numberAt_one inside]
  refine .demand Iff.rfl (fun _ => trivial) fun _ => ?_
  have isHost : (sex.getD 2 0).toNat = 0 ↔ sex.getD 2 0 = 0 ∧ True := by
    simp [← BitVec.toNat_inj]
  exact .demand isHost (fun _ => trivial) fun _ => .read _ trivial trivial rfl rfl

theorem parseSupportedGroups_outcome (found : Found) (sex : Bytes) :
    BlockOutcome (parseSupportedGroups found sex) found.sni (WellFormed sex .supportedGroups)
      (ListFits sex .supportedGroups) := by
  refine .demand Iff.rfl (fun _ => trivial) fun isLong => ?_
  rw [uint16At_bind isLong, sliceFrom_bind isLong, length_drop, toNat_numberAt]
  refine .demand (and_iff_left trivial).symm (fun _ => trivial) fun sameLength => ?_
  refine .of_exists ?_ trivial trivial fun _ => rfl
  apply exists_uint16sAt
  rw [length_drop]
  omega

theorem parsePointFormats_outcome (found : Found) (sex : Bytes) :
    BlockOutcome (parsePointFormats found sex) found.sni (WellFormed sex .pointFormats)
      (ListFits sex .pointFormats) := by
  refine .demand Iff.rfl (fun _ => trivial) fun isLong => ?_
  rw [index_bind 0 isLong, sliceFrom_bind isLong, length_drop, numberAt_one isLong]
  refine .demand (and_iff_left trivial).symm (fun _ => trivial) fun sameLength => ?_
  refine .of_exists ?_ trivial trivial fun _ => rfl
  apply exists_mapM
  intro _ member
  apply exists_index
  rw [length_drop, sameLength]
  exact mem_range.mp member

section

variable (isStart : start ≤ sex.length)
include isStart

theorem parseNumbers_eq (length : Nat) :
    parseNumbers sex start length = uint16sAt (sex.drop start) 0 ((length + 1) / 2) := by
  have isSlice : (sliceFrom sex start : Parsing Bytes) = .ok (sex.drop start) := if_pos isStart
  rw [parseNumbers, uint16sAt]
  congr 1
  funext place
  rw [isSlice, Nat.zero_add, ← uint16From_eq]
  rfl

/-- A block that is a list of numbers: nothing is checked but that it has a length. -/
private theorem numbers_outcome {change : List (BitVec 16) → Found}
    (sameName : ∀ values, (change values).sni = sni) :
    BlockOutcome (parseNumbers sex start length >>= fun values => .ok (change values)) sni True
      (start ≤ sex.length → start + 2 * ((length + 1) / 2) ≤ sex.length) := by
  have left : (sex.drop start).length = sex.length - start := length_drop
  rw [parseNumbers_eq isStart]
  by_cases fits : start + 2 * ((length + 1) / 2) ≤ sex.length
  · exact .of_exists (exists_uint16sAt (by omega)) trivial (fun _ => fits) sameName
  · rw [uint16sAt_of_lt (by omega) (by omega)]
    exact .overrun trivial (fun holds => fits (holds isStart)) rfl

end

theorem parseSupportedVersions_outcome (found : Found) (sex : Bytes) :
    BlockOutcome (parseSupportedVersions found sex) found.sni
      (WellFormed sex .supportedVersions) (ListFits sex .supportedVersions) := by
  refine .demand (and_iff_left trivial).symm (fun short isLong => absurd isLong short)
    fun isLong => ?_
  rw [ListFits, index_bind 0 isLong, numberAt_one isLong]
  exact numbers_outcome isLong fun _ => rfl

theorem parseSignatureAlgorithms_outcome (found : Found) (sex : Bytes) :
    BlockOutcome (parseSignatureAlgorithms found sex) found.sni
      (WellFormed sex .signatureAlgorithms) (ListFits sex .signatureAlgorithms) := by
  refine .demand (and_iff_left trivial).symm (fun short isLong => absurd isLong short)
    fun isLong => ?_
  rw [ListFits, uint16At_bind isLong, toNat_numberAt]
  exact numbers_outcome isLong fun _ => rfl

namespace Extension

variable (extension : Extension)

def WellFormed : Prop := Ja3.WellFormed extension.body extension.kind

def ListFits : Prop := Ja3.ListFits extension.body extension.kind

def sniAfter (before : Bytes) : Bytes :=
  if extension.kind = .serverName then extension.body.drop 5 else before

theorem outcome (found : Found) :
    BlockOutcome (parseExtension found extension.exType extension.body)
      (extension.sniAfter found.sni) extension.WellFormed extension.ListFits := by
  have isKind : extensionKind extension.exType = extension.kind := rfl
  rw [parseExtension, WellFormed, ListFits, sniAfter, isKind]
  cases extension.kind with
  | serverName => exact parseServerName_outcome found extension.body
  | supportedGroups => exact parseSupportedGroups_outcome found extension.body
  | pointFormats => exact parsePointFormats_outcome found extension.body
  | supportedVersions => exact parseSupportedVersions_outcome found extension.body
  | signatureAlgorithms => exact parseSignatureAlgorithms_outcome found extension.body
  | other => exact .read found trivial trivial rfl rfl

theorem bytes_length : extension.bytes.length = 4 + extension.body.length := by
  rw [bytes, length_append, length_append, bigEndian_length, bigEndian_length]
  omega

theorem bytes_append_inj {extension other : Extension} {rest otherRest : Bytes}
    (same : extension.bytes ++ rest = other.bytes ++ otherRest) :
    extension = other ∧ rest = otherRest := by
  rw [bytes, bytes, append_assoc, append_assoc, append_assoc, append_assoc] at same
  rcases append_inj same (by simp) with ⟨sameType, same⟩
  rcases append_inj same (by simp) with ⟨sameLength, same⟩
  have isLength : extension.body.length = other.body.length :=
    bigEndian_injective extension.small other.small sameLength
  rcases append_inj same isLength with ⟨sameBody, sameRest⟩
  have isType : extension.exType = other.exType := putUint16_injective sameType
  rcases extension with ⟨_, _, _⟩
  rcases other with ⟨_, _, _⟩
  cases isType
  cases sameBody
  exact ⟨rfl, sameRest⟩

end Extension

/-! ## The loop over the blocks -/

def ListsFit (exs : Bytes) : Prop :=
  ∀ (before : List Extension) (extension : Extension) (rest : Bytes),
    exs = before.flatMap Extension.bytes ++ (extension.bytes ++ rest) →
    (∀ earlier ∈ before, earlier.WellFormed) → extension.ListFits

theorem listsFit_block (extension : Extension) (rest : Bytes) :
    ListsFit (extension.bytes ++ rest) ↔
      extension.ListFits ∧ (extension.WellFormed → ListsFit rest) := by
  constructor
  · intro fit
    refine ⟨fit [] extension rest rfl (by simp), ?_⟩
    intro isWellFormed before later after isRest areWellFormed
    apply fit (extension :: before) later after
    · rw [isRest, flatMap_cons, append_assoc]
    · exact forall_mem_cons.mpr ⟨isWellFormed, areWellFormed⟩
  · rintro ⟨isFit, areFit⟩ before later after isSplit areWellFormed
    cases before with
    | nil =>
      rcases Extension.bytes_append_inj isSplit with ⟨rfl, _⟩
      exact isFit
    | cons _ before =>
      rw [flatMap_cons, append_assoc] at isSplit
      rcases Extension.bytes_append_inj isSplit with ⟨rfl, isRest⟩
      rcases forall_mem_cons.mp areWellFormed with ⟨isWellFormed, areWellFormed⟩
      exact areFit isWellFormed before later after isRest areWellFormed

variable {exs : Bytes} {rounds : Nat}

theorem listsFit_of_no_block
    (noBlock : ∀ (extension : Extension) (rest : Bytes), exs ≠ extension.bytes ++ rest) :
    ListsFit exs := by
  intro before extension rest isSplit _
  cases before with
  | nil => exact absurd isSplit (noBlock extension rest)
  | cons first =>
    rw [flatMap_cons, append_assoc] at isSplit
    exact absurd isSplit (noBlock first _)

theorem exists_block_or (exs : Bytes) :
    (∃ (extension : Extension) (rest : Bytes), exs = extension.bytes ++ rest) ∨
      ∀ (extension : Extension) (rest : Bytes), exs ≠ extension.bytes ++ rest := by
  by_cases hasBlock : ∃ (extension : Extension) (rest : Bytes), exs = extension.bytes ++ rest
  · exact .inl hasBlock
  · exact .inr fun extension rest isBlock => hasBlock ⟨extension, rest, isBlock⟩

/-- A turn of the loop with a whole block in front. The sum of 16 bits at its end
does not wrap since the blocks are part of a record. -/
theorem extensionLoop_block (rounds : Nat) (found : Found) {extension : Extension} {rest : Bytes}
    (small : (extension.bytes ++ rest).length < 2 ^ 16) :
    extensionLoop (rounds + 1) found (extension.bytes ++ rest) =
      parseExtension { found with extensions := found.extensions ++ [extension.exType] }
        extension.exType extension.body >>= fun found => extensionLoop rounds found rest := by
  have isLength := extension.bytes_length
  have isSum : (extension.bytes ++ rest).length = 4 + extension.body.length + rest.length := by
    rw [length_append, isLength]
  have isType : (uint16At (extension.bytes ++ rest) 0 : Parsing (BitVec 16)) =
      .ok extension.exType := by
    rw [Extension.bytes, append_assoc, uint16At_zero, ofNat_word]
  have isBody : (uint16At (extension.bytes ++ rest) 2 : Parsing (BitVec 16)) =
      .ok (BitVec.ofNat 16 extension.body.length) := by
    rw [Extension.bytes, append_assoc, append_assoc]
    exact uint16At_bigEndian (bigEndian_length 2 _)
  have isNumber := toNat_of_lt extension.small
  have isSlice : (slice (extension.bytes ++ rest) 4 (4 + extension.body.length) :
      Parsing Bytes) = .ok extension.body := by
    rw [Extension.bytes, ← append_assoc]
    apply slice_append
    · simp
    · rfl
  have isEnd : (4 + BitVec.ofNat 16 extension.body.length).toNat = 4 + extension.body.length := by
    have isFour : (4 : BitVec 16).toNat = 4 := rfl
    rw [BitVec.toNat_add, isNumber, isFour]
    exact Nat.mod_eq_of_lt (by omega)
  have isRest : (sliceFrom (extension.bytes ++ rest) (4 + extension.body.length) :
      Parsing Bytes) = .ok rest := sliceFrom_append isLength
  rw [extensionLoop, if_neg (by omega), demand_bind_of, isType]
  rw [isBody]
  change (demand _ _ >>= fun _ => _) = _
  rw [isNumber, demand_bind_of, isSlice]
  rw [isEnd, isRest]
  rfl

theorem extensionLoop_of_no_block
    (noBlock : ∀ (extension : Extension) (rest : Bytes), exs ≠ extension.bytes ++ rest) :
    (∀ rounds found, extensionLoop (rounds + 1) found exs = .ok found) ∨
      ∃ err, ∀ rounds found, extensionLoop (rounds + 1) found exs = .error (.returned err) := by
  rcases exs with _ | ⟨typeHigh, _ | ⟨typeLow, _ | ⟨lengthHigh, _ | ⟨lengthLow, tail⟩⟩⟩⟩
  case nil => exact .inl fun rounds found => rfl
  case cons.cons.cons.cons =>
    refine .inr ⟨.length 12, fun rounds found => ?_⟩
    have isTurn : extensionLoop (rounds + 1) found
        (typeHigh :: typeLow :: lengthHigh :: lengthLow :: tail) =
          demand (4 + (uint16 lengthHigh lengthLow).toNat ≤ tail.length + 4) (.length 12) >>=
            fun _ => _ := rfl
    rw [isTurn]
    apply demand_bind_of_not
    intro isInside
    -- the body is there, so there is a block
    have isBody : (tail.take (uint16 lengthHigh lengthLow).toNat).length =
        (uint16 lengthHigh lengthLow).toNat := by
      rw [length_take]
      omega
    have isSmall : (tail.take (uint16 lengthHigh lengthLow).toNat).length < 2 ^ 16 := by
      rw [isBody]
      exact (uint16 lengthHigh lengthLow).isLt
    apply noBlock
      ⟨uint16 typeHigh typeLow, tail.take (uint16 lengthHigh lengthLow).toNat, isSmall⟩
      (tail.drop (uint16 lengthHigh lengthLow).toNat)
    rw [Extension.bytes, isBody, bigEndian_uint16, bigEndian_uint16, append_assoc,
      append_assoc, take_append_drop]
    rfl
  all_goals
    refine .inr ⟨.length 11, fun rounds found => ?_⟩
    rw [extensionLoop, if_neg (by simp)]
    apply demand_bind_of_not
    simp

section

variable (small : exs.length < 2 ^ 16)
include small

/-- With more rounds than bytes the loop comes to an end: it panics at the first
list that does not fit, and returns if there is none. -/
theorem extensionLoop_settled (enough : exs.length < rounds) (found : Found) :
    (extensionLoop rounds found exs).Returns ∧ ListsFit exs ∨
      extensionLoop rounds found exs = .error .panicked ∧ ¬ListsFit exs := by
  induction rounds generalizing exs found with
  | zero => omega
  | succ rounds induction =>
    rcases exists_block_or exs with ⟨extension, rest, rfl⟩ | noBlock
    · have isLength := extension.bytes_length
      rw [extensionLoop_block rounds found small, listsFit_block]
      rw [length_append] at small enough
      rcases extension.outcome
          { found with extensions := found.extensions ++ [extension.exType] } with
        ⟨next, isWellFormed, doesFit, isOk, _⟩ | ⟨err, isMalformed, doesFit, isError⟩ |
          ⟨isWellFormed, doesNot, isPanic⟩
      · rw [isOk]
        have isSmall : rest.length < 2 ^ 16 := by omega
        have isEnough : rest.length < rounds := by omega
        rcases induction isSmall isEnough next with ⟨returns, areFit⟩ | ⟨panics, areNot⟩
        · exact .inl ⟨returns, doesFit, fun _ => areFit⟩
        · exact .inr ⟨panics, fun fit => areNot (fit.2 isWellFormed)⟩
      · rw [isError]
        exact .inl ⟨returns_returned err, doesFit,
          fun isWellFormed => absurd isWellFormed isMalformed⟩
      · rw [isPanic]
        exact .inr ⟨rfl, fun fit => doesNot fit.1⟩
    · refine .inl ⟨?_, listsFit_of_no_block noBlock⟩
      rcases extensionLoop_of_no_block noBlock with isOk | ⟨err, isError⟩
      · rw [isOk]
        exact returns_ok found
      · rw [isError]
        exact returns_returned err

theorem extensionLoop_stable {others : Nat} (more : rounds ≤ others) (found : Found)
    (isFinished : extensionLoop rounds found exs ≠ .error .unfinished) :
    extensionLoop others found exs = extensionLoop rounds found exs := by
  induction rounds generalizing others exs found with
  | zero => exact absurd rfl isFinished
  | succ rounds induction =>
    rcases others with _ | others
    · omega
    rcases exists_block_or exs with ⟨extension, rest, rfl⟩ | noBlock
    · rw [extensionLoop_block rounds found small] at isFinished ⊢
      rw [extensionLoop_block others found small]
      cases isParsed : parseExtension
          { found with extensions := found.extensions ++ [extension.exType] }
          extension.exType extension.body with
      | error fault => rfl
      | ok next =>
        rw [isParsed] at isFinished
        rw [length_append] at small
        have isSmall : rest.length < 2 ^ 16 := by omega
        exact induction isSmall (by omega) next isFinished
    · rcases extensionLoop_of_no_block noBlock with isOk | ⟨_, isError⟩
      · rw [isOk, isOk]
      · rw [isError, isError]

theorem exists_extensionLoop_returns_iff (found : Found) :
    (∃ rounds, (extensionLoop rounds found exs).Returns) ↔ ListsFit exs := by
  constructor
  · rintro ⟨rounds, returns⟩
    have isFinished : extensionLoop rounds found exs ≠ .error .unfinished := by
      intro isUnfinished
      rw [isUnfinished] at returns
      exact not_returns_unfinished returns
    have isStable : extensionLoop (rounds + exs.length + 1) found exs =
        extensionLoop rounds found exs :=
      extensionLoop_stable small (by omega) found isFinished
    have isEnough : exs.length < rounds + exs.length + 1 := by omega
    rcases extensionLoop_settled small isEnough found with ⟨_, areFit⟩ | ⟨panics, _⟩
    · exact areFit
    rw [isStable] at panics
    rw [panics] at returns
    exact absurd returns not_returns_panicked
  · intro areFit
    rcases extensionLoop_settled small (Nat.lt_succ_self _) found with
      ⟨returns, _⟩ | ⟨_, areNot⟩
    · exact ⟨_, returns⟩
    · exact absurd areFit areNot

end

theorem exists_extensionLoop_ok {blocks : List Extension}
    (small : (blocks.flatMap Extension.bytes).length < 2 ^ 16)
    (enough : (blocks.flatMap Extension.bytes).length < rounds)
    (areWellFormed : ∀ block ∈ blocks, block.WellFormed)
    (areFit : ∀ block ∈ blocks, block.ListFits) (found : Found) :
    ∃ next, extensionLoop rounds found (blocks.flatMap Extension.bytes) = .ok next ∧
      next.sni = blocks.foldl (fun name block => block.sniAfter name) found.sni := by
  induction blocks generalizing rounds found with
  | nil =>
    rcases rounds with _ | rounds
    · simp at enough
    · exact ⟨found, rfl, rfl⟩
  | cons block blocks induction =>
    rcases forall_mem_cons.mp areWellFormed with ⟨isWellFormed, areWellFormed⟩
    rcases forall_mem_cons.mp areFit with ⟨isFit, areFit⟩
    have isLength := block.bytes_length
    rw [flatMap_cons] at small enough ⊢
    rcases rounds with _ | rounds
    · omega
    rw [extensionLoop_block rounds found small]
    rw [length_append] at small enough
    rcases block.outcome { found with extensions := found.extensions ++ [block.exType] } with
      ⟨next, _, _, isOk, isName⟩ | ⟨_, isMalformed, _, _⟩ | ⟨_, doesNot, _⟩
    · have isSmall : (blocks.flatMap Extension.bytes).length < 2 ^ 16 := by omega
      have isEnough : (blocks.flatMap Extension.bytes).length < rounds := by omega
      rcases induction isSmall isEnough areWellFormed areFit next with
        ⟨last, isLast, isLastName⟩
      refine ⟨last, ?_, ?_⟩
      · rw [isOk]
        exact isLast
      · rw [isLastName, isName, foldl_cons]
    · exact absurd isWellFormed isMalformed
    · exact absurd isFit doesNot

end SingBox.Ja3
