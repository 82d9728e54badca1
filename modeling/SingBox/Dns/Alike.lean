import SingBox.Dns.Client

/-! # Responses that differ in nothing of substance

Two messages are alike if they agree up to their id, the TTL of their records
and the rotation of their address records. Reading a response from the cache
gives a response that is alike; filtering hints and fitting the OPT record does
not in general.
-/

namespace SingBox.Dns

open List Function

/-! ## Rotation -/

def RR.isAddress (record : RR) : Bool := record.rrtype == typeA || record.rrtype == typeAAAA

/-- The same records, with the A records and the AAAA records rotated and
perhaps moved behind the others. -/
structure Rotated (left right : List RR) : Prop where
  others : left.filter (fun record => !record.isAddress) =
    right.filter fun record => !record.isAddress
  ipv4 : left.filter (fun record => record.rrtype == typeA) ~r
    right.filter fun record => record.rrtype == typeA
  ipv6 : left.filter (fun record => record.rrtype == typeAAAA) ~r
    right.filter fun record => record.rrtype == typeAAAA

variable {change : RR → RR}

theorem filter_map_rrtype (pick : BitVec 16 → Bool)
    (keeps : ∀ record, (change record).rrtype = record.rrtype) (records : List RR) :
    (records.map change).filter (fun record => pick record.rrtype) =
      (records.filter fun record => pick record.rrtype).map change := by
  rw [filter_map]
  congr 1
  apply filter_congr
  intro _ _
  rw [comp_apply, keeps]

theorem filter_map_isAddress (keeps : ∀ record, (change record).rrtype = record.rrtype)
    (records : List RR) :
    (records.map change).filter (fun record => !record.isAddress) =
      (records.filter fun record => !record.isAddress).map change :=
  filter_map_rrtype (fun rrtype => !(rrtype == typeA || rrtype == typeAAAA)) keeps records

theorem RR.rrtype_setTTL (timeToLive : BitVec 32) (record : RR) :
    (record.setTTL timeToLive).rrtype = record.rrtype := by
  rw [setTTL]
  split <;> rfl

namespace Rotated

theorem refl (answers : List RR) : Rotated answers answers := ⟨rfl, .refl _, .refl _⟩

variable {left right : List RR}

theorem symm (rotated : Rotated left right) : Rotated right left :=
  ⟨rotated.others.symm, rotated.ipv4.symm, rotated.ipv6.symm⟩

theorem trans {first second third : List RR} (earlier : Rotated first second)
    (later : Rotated second third) : Rotated first third :=
  ⟨earlier.others.trans later.others, earlier.ipv4.trans later.ipv4, earlier.ipv6.trans later.ipv6⟩

theorem map (rotated : Rotated left right)
    (keeps : ∀ record, (change record).rrtype = record.rrtype) :
    Rotated (left.map change) (right.map change) := by
  constructor
  · have others := congrArg (List.map change) rotated.others
    rw [filter_map_isAddress keeps, filter_map_isAddress keeps]
    exact others
  · rw [filter_map_rrtype (· == typeA) keeps, filter_map_rrtype (· == typeA) keeps]
    exact rotated.ipv4.map change
  · rw [filter_map_rrtype (· == typeAAAA) keeps, filter_map_rrtype (· == typeAAAA) keeps]
    exact rotated.ipv6.map change

end Rotated

theorem isRotated_reverseRotateSlice (answers : List RR) (steps : Nat) :
    reverseRotateSlice answers steps ~r answers := by
  rw [reverseRotateSlice]
  split
  · exact .refl _
  · rw [← rotate_eq_drop_append_take (Nat.sub_le _ _)]
    exact (List.IsRotated.forall answers _)

variable {rrtype : BitVec 16} {record : RR}

private theorem rrtype_of_mem_rotated {answers : List RR} {steps : Nat}
    (member : record ∈ reverseRotateSlice
      (answers.filter fun record => record.rrtype == rrtype) steps) : record.rrtype = rrtype := by
  rw [(isRotated_reverseRotateSlice _ _).mem_iff, mem_filter, beq_iff_eq] at member
  exact member.2

theorem filter_rotateType_other (pick : BitVec 16 → Bool)
    (notOwn : pick rrtype = false) (answers : List RR) (index : Nat) :
    (rotateType rrtype answers index).1.filter (fun record => pick record.rrtype) =
      answers.filter fun record => pick record.rrtype := by
  rw [rotateType]
  split
  · rw [filter_append, removeAnswersOfType, filter_filter]
    have none (steps : Nat) :
        (reverseRotateSlice (answers.filter fun record => record.rrtype == rrtype) steps).filter
          (fun record => pick record.rrtype) = [] := by
      rw [filter_eq_nil_iff]
      intro record member
      rw [rrtype_of_mem_rotated member, notOwn]
      exact Bool.false_ne_true
    rw [none, append_nil]
    apply filter_congr
    intro record _
    by_cases own : record.rrtype = rrtype
    · simp [own, notOwn]
    · simp [own]
  · rfl

theorem filter_rotateType (answers : List RR) (index : Nat)
    (several : 1 < (answers.filter fun record => record.rrtype == rrtype).length) :
    (rotateType rrtype answers index).1.filter (fun record => record.rrtype == rrtype) =
      reverseRotateSlice (answers.filter fun record => record.rrtype == rrtype)
        ((index + 1) % (answers.filter fun record => record.rrtype == rrtype).length) := by
  have none : answers.filter (fun record => record.rrtype == rrtype &&
      record.rrtype != rrtype) = [] := by
    rw [filter_eq_nil_iff]
    intro record _
    simp
  rw [rotateType, if_pos several, filter_append, removeAnswersOfType, filter_filter, none,
    nil_append, filter_eq_self]
  intro _ member
  rw [rrtype_of_mem_rotated member, beq_self_eq_true]

theorem filter_rotateType_own (rrtype : BitVec 16) (answers : List RR) (index : Nat) :
    (rotateType rrtype answers index).1.filter (fun record => record.rrtype == rrtype) ~r
      answers.filter fun record => record.rrtype == rrtype := by
  by_cases several : 1 < (answers.filter fun record => record.rrtype == rrtype).length
  · rw [filter_rotateType answers index several]
    exact isRotated_reverseRotateSlice _ _
  · rw [rotateType, if_neg several]

theorem rotated_rotateType (isAddress : rrtype = typeA ∨ rrtype = typeAAAA)
    (answers : List RR) (index : Nat) : Rotated (rotateType rrtype answers index).1 answers := by
  have others : (rotateType rrtype answers index).1.filter (fun record => !record.isAddress) =
      answers.filter fun record => !record.isAddress := by
    have notOwn : (!(rrtype == typeA || rrtype == typeAAAA)) = false := by
      rcases isAddress with isA | isAAAA
      · rw [isA]
        rfl
      · rw [isAAAA]
        rfl
    exact filter_rotateType_other (fun rrtype => !(rrtype == typeA || rrtype == typeAAAA))
      notOwn answers index
  rcases isAddress with isA | isAAAA
  · subst isA
    refine ⟨others, filter_rotateType_own typeA answers index, ?_⟩
    rw [filter_rotateType_other (· == typeAAAA) rfl answers index]
  · subst isAAAA
    refine ⟨others, ?_, filter_rotateType_own typeAAAA answers index⟩
    rw [filter_rotateType_other (· == typeA) rfl answers index]

theorem CacheEntry.rotated_getRoundRobin (client : ClientOptions) (entry : CacheEntry) :
    Rotated (entry.getRoundRobin client).1.answer entry.msg.answer := by
  rw [getRoundRobin]
  split
  · exact (rotated_rotateType (.inr rfl) _ _).trans (rotated_rotateType (.inl rfl) _ _)
  · exact .refl _

/-! ## Likeness -/

theorem RR.isOPT_setTTL (timeToLive : BitVec 32) (record : RR) :
    (record.setTTL timeToLive).isOPT = record.isOPT := by
  rw [isOPT, isOPT, rrtype_setTTL]

theorem map_setTTL_setTTL (first second : BitVec 32) (records : List RR) :
    (records.map (RR.setTTL first)).map (RR.setTTL second) =
      records.map (RR.setTTL second) := by
  rw [map_map]
  apply map_congr_left
  intro record _
  have same := RR.isOPT_setTTL first record
  rw [comp_apply]
  by_cases isOPT : record.isOPT
  · simp [RR.setTTL, isOPT]
  · simp only [RR.setTTL] at same ⊢
    simp_all

/-- Equal up to the id, the TTL of records and the rotation of addresses. -/
structure Alike (left right : Msg) : Prop where
  rest : { normalizeTTL 0 left with id := 0, answer := [] } =
    { normalizeTTL 0 right with id := 0, answer := [] }
  answer : Rotated (left.answer.map (RR.setTTL 0)) (right.answer.map (RR.setTTL 0))

namespace Alike

theorem refl (message : Msg) : Alike message message := ⟨rfl, .refl _⟩

theorem symm {left right : Msg} (alike : Alike left right) : Alike right left :=
  ⟨alike.rest.symm, alike.answer.symm⟩

theorem trans {first second third : Msg} (earlier : Alike first second)
    (later : Alike second third) : Alike first third :=
  ⟨earlier.rest.trans later.rest, earlier.answer.trans later.answer⟩

theorem normalizeTTL (timeToLive : BitVec 32) (message : Msg) :
    Alike (normalizeTTL timeToLive message) message := by
  constructor
  · simp only [Dns.normalizeTTL, map_setTTL_setTTL]
  · rw [Dns.normalizeTTL, map_setTTL_setTTL]
    exact .refl _

theorem id (message : Msg) (id : BitVec 16) : Alike { message with id := id } message :=
  ⟨rfl, .refl _⟩

end Alike

theorem alike_of_aged {client : ClientOptions} {message response : Msg} {expireAt now : Int}
    {timeToLive : Nat} {isStale : Bool}
    (aged : agedResponse client message expireAt now = some (response, timeToLive, isStale)) :
    Alike response message := by
  rw [agedResponse] at aged
  split at aged
  · cases aged
    exact .refl _
  split at aged
  · split at aged <;> cases aged
    exact .normalizeTTL 1 message
  · cases aged
    exact .normalizeTTL _ message

theorem CacheEntry.alike_getRoundRobin (client : ClientOptions) (entry : CacheEntry) :
    Alike (entry.getRoundRobin client).1 entry.msg := by
  refine ⟨?_, (entry.rotated_getRoundRobin client).map (RR.rrtype_setTTL 0)⟩
  rw [getRoundRobin]
  split <;> rfl

/-! ## Response options -/

def RR.parameters (record : RR) : List SVCBKeyValue :=
  match record.data with
  | .https _ _ value => value
  | _ => []

theorem RR.rrtype_of_parameter (record : RR) {value : SVCBKeyValue}
    (member : value ∈ record.parameters) : record.rrtype = typeHTTPS := by
  cases data : record.data <;> simp_all [parameters, rrtype]

theorem RR.rrtype_filterHints (strategy : DomainStrategy) (record : RR) :
    (record.filterHints strategy).rrtype = record.rrtype := by
  cases data : record.data <;> simp [filterHints, rrtype, data]

theorem RR.parameters_filterHints (strategy : DomainStrategy) (record : RR) :
    (record.filterHints strategy).parameters = record.parameters.filter strategy.keeps := by
  cases data : record.data <;> simp [filterHints, parameters, data]

theorem RR.filterHints_eq_self {strategy : DomainStrategy}
    (keepsAll : ∀ value ∈ record.parameters, strategy.keeps value = true) :
    record.filterHints strategy = record := by
  rw [filterHints]
  split
  · next value isHTTPS =>
    have kept : value.filter strategy.keeps = value := by
      rw [filter_eq_self]
      intro _ member
      apply keepsAll
      rw [parameters, isHTTPS]
      exact member
    rw [kept, ← isHTTPS]
  · rfl

theorem filterHints_answer (qtype : BitVec 16) (strategy : DomainStrategy) (response : Msg) :
    filterHints qtype strategy response =
      { response with
        answer :=
          if qtype = typeHTTPS then response.answer.map (RR.filterHints strategy)
          else response.answer } := by
  rw [filterHints]
  by_cases isHTTPS : qtype = typeHTTPS
  · by_cases filters : strategy = .ipv4Only ∨ strategy = .ipv6Only
    · rw [if_pos ⟨isHTTPS, filters⟩, if_pos isHTTPS]
    have keepsAll : ∀ value, strategy.keeps value = true := by
      intro value
      cases strategy <;> simp_all [DomainStrategy.keeps]
    have unchanged : response.answer.map (RR.filterHints strategy) = response.answer := by
      rw [map_congr_left, map_id]
      intro _ _
      exact RR.filterHints_eq_self fun value _ => keepsAll value
    rw [if_neg fun both => filters both.2, if_pos isHTTPS, unchanged]
  · rw [if_neg fun both => isHTTPS both.1, if_neg isHTTPS]

/-- Two strategies keep the same parameters of every HTTPS answer. -/
def SameHints (qtype : BitVec 16) (left right : DomainStrategy) (response : Msg) : Prop :=
  qtype = typeHTTPS → ∀ record ∈ response.answer, ∀ value ∈ record.parameters,
    left.keeps value = right.keeps value

theorem RR.filterHints_eq_iff {left right : DomainStrategy} :
    (record.filterHints left).setTTL 0 = (record.filterHints right).setTTL 0 ↔
      ∀ value ∈ record.parameters, left.keeps value = right.keeps value := by
  cases data : record.data with
  | https priority target value =>
    have isOPT : ∀ strategy : DomainStrategy, (record.filterHints strategy).isOPT = false := by
      intro strategy
      rw [RR.isOPT, rrtype_filterHints, rrtype, data]
      rfl
    have data_eq : ∀ strategy : DomainStrategy, (record.filterHints strategy).setTTL 0 =
        { record with
          ttl := 0
          data := .https priority target (value.filter strategy.keeps) } := by
      intro strategy
      rw [setTTL, isOPT strategy, filterHints, data]
      rfl
    rw [data_eq, data_eq, parameters, data]
    constructor
    · intro equal parameter member
      have filters : value.filter left.keeps = value.filter right.keeps := by
        simpa using equal
      have same : parameter ∈ value.filter left.keeps ↔ parameter ∈ value.filter right.keeps := by
        rw [filters]
      rw [mem_filter, mem_filter] at same
      simpa [member] using same
    · intro same
      rw [filter_congr same]
  | _ => simp [filterHints, parameters, data]

theorem rotated_filterHints_iff (qtype : BitVec 16) (left right : DomainStrategy) (response : Msg) :
    Rotated ((filterHints qtype left response).answer.map (RR.setTTL 0))
        ((filterHints qtype right response).answer.map (RR.setTTL 0)) ↔
      SameHints qtype left right response := by
  rw [filterHints_answer, filterHints_answer, SameHints]
  by_cases isHTTPS : qtype = typeHTTPS
  · simp only [isHTTPS, if_true, forall_const, map_map]
    constructor
    · intro rotated record member value isParameter
      have keeps : ∀ (strategy : DomainStrategy) (record : RR),
          ((RR.setTTL 0 ∘ RR.filterHints strategy) record).rrtype = record.rrtype := by
        intro _ record
        rw [comp_apply, RR.rrtype_setTTL, RR.rrtype_filterHints]
      have others := rotated.others
      rw [filter_map_isAddress (keeps left), filter_map_isAddress (keeps right),
        map_inj_left] at others
      have notAddress : record.isAddress = false := by
        rw [RR.isAddress, record.rrtype_of_parameter isParameter]
        rfl
      have same := others record (mem_filter.mpr ⟨member, by rw [notAddress]; rfl⟩)
      exact RR.filterHints_eq_iff.mp same value isParameter
    · intro same
      have equal : response.answer.map (RR.setTTL 0 ∘ RR.filterHints left) =
          response.answer.map (RR.setTTL 0 ∘ RR.filterHints right) := by
        apply map_congr_left
        intro record member
        exact RR.filterHints_eq_iff.mpr (same record member)
      rw [equal]
      exact .refl _
  · simp only [isHTTPS, false_implies, iff_true]
    exact .refl _

/-! ## The OPT record -/

variable (lib : DnsLib)

/-- A request may keep the OPT record of a response as it is. -/
def KeepsEdns0 (request response : Msg) : Prop :=
  ∀ responseOpt ∈ lib.isEdns0 response, ∃ requestOpt ∈ lib.isEdns0 request,
    responseOpt.version ≤ requestOpt.version

theorem isEdns0_of_extra {left right : Msg} (timeToLive : BitVec 32)
    (extra : left.extra = right.extra.map (RR.setTTL timeToLive)) :
    lib.isEdns0 left = lib.isEdns0 right := by
  apply lib.isEdns0_congr
  have opt : ∀ record ∈ right.extra.filter RR.isOPT, record.setTTL timeToLive = record := by
    intro _ member
    rw [RR.setTTL, if_pos (mem_filter.mp member).2]
  rw [extra]
  refine (filter_map_rrtype (· == typeOPT) (RR.rrtype_setTTL timeToLive) right.extra).trans ?_
  exact (map_congr_left opt).trans (map_id' _)

theorem fitEdns0_extra_iff (request response : Msg) :
    (fitEdns0 lib request response).extra.map (RR.setTTL 0) = response.extra.map (RR.setTTL 0) ↔
      KeepsEdns0 lib request response := by
  cases isResponse : lib.isEdns0 response with
  | none => simp [fitEdns0, KeepsEdns0, isResponse]
  | some responseOpt =>
    have found := lib.isEdns0_some isResponse
    have inExtra : responseOpt ∈ response.extra.map (RR.setTTL 0) :=
      mem_map.mpr ⟨responseOpt, found.1, by rw [RR.setTTL, if_pos found.2]⟩
    have notStripped : responseOpt ∉ response.withoutOPT.extra.map (RR.setTTL 0) := by
      intro member
      rcases mem_map.mp member with ⟨record, isKept, isOpt⟩
      have notOpt := (mem_filter.mp isKept).2
      rw [← RR.isOPT_setTTL 0 record, isOpt, found.2] at notOpt
      cases notOpt
    cases isRequest : lib.isEdns0 request with
    | none =>
      simp only [fitEdns0, KeepsEdns0, isResponse, isRequest]
      constructor
      · intro equal
        rw [equal] at notStripped
        exact absurd inExtra notStripped
      · intro keeps
        rcases keeps responseOpt rfl with ⟨requestOpt, isNone, _⟩
        cases isNone
    | some requestOpt =>
      simp only [fitEdns0, KeepsEdns0, isResponse, isRequest]
      by_cases older : requestOpt.version < responseOpt.version
      · rw [if_pos older]
        rcases lib.setEdns0_extra response.withoutOPT responseOpt.class_ responseOpt.do with
          ⟨record, isOpt, isZero, isSet⟩
        rw [isSet]
        constructor
        · intro equal
          rw [← equal, map_append, mem_append] at inExtra
          rcases inExtra with inStripped | isNew
          · exact absurd inStripped notStripped
          have same : responseOpt = record := by
            simpa [RR.setTTL, isOpt] using isNew
          rw [same, isZero] at older
          exact absurd older (BitVec.not_lt_zero)
        · intro keeps
          rcases keeps responseOpt rfl with ⟨_, isOwn, atMost⟩
          cases isOwn
          exact absurd atMost (BitVec.not_le.mpr older)
      · rw [if_neg older]
        simp only [true_iff]
        rintro _ ⟨⟩
        exact ⟨requestOpt, rfl, BitVec.not_lt.mp older⟩

theorem fitEdns0_cases (request response : Msg) :
    fitEdns0 lib request response = response ∨
      fitEdns0 lib request response = response.withoutOPT ∨
      ∃ record : RR, record.isOPT = true ∧ fitEdns0 lib request response =
        { response with extra := response.withoutOPT.extra ++ [record] } := by
  cases isResponse : lib.isEdns0 response with
  | none =>
    left
    simp [fitEdns0, isResponse]
  | some responseOpt =>
    cases isRequest : lib.isEdns0 request with
    | none =>
      right
      left
      simp [fitEdns0, isResponse, isRequest]
    | some requestOpt =>
      by_cases older : requestOpt.version < responseOpt.version
      · right
        right
        rcases lib.setEdns0_extra response.withoutOPT responseOpt.class_ responseOpt.do with
          ⟨record, isOpt, _, isSet⟩
        refine ⟨record, isOpt, ?_⟩
        simp only [fitEdns0, isResponse, isRequest, if_pos older, isSet]
        rfl
      · left
        simp [fitEdns0, isResponse, isRequest, older]

theorem fitEdns0_eq (request response : Msg) :
    fitEdns0 lib request response =
      { response with extra := (fitEdns0 lib request response).extra } := by
  rcases fitEdns0_cases lib request response with kept | stripped | ⟨_, _, replaced⟩
  · rw [kept]
  · rw [stripped]
    rfl
  · rw [replaced]

/-- A response that was filtered by one strategy is alike to what
`finishExchange` makes of it for a request exactly if the strategies keep the
same hints and the request may keep the OPT record. -/
theorem alike_finishResponse_iff (client : ClientOptions) (question : Question)
    (strategy : DomainStrategy) (options : QueryOptions) (request upstream : Msg) :
    Alike (filterHints question.qtype strategy upstream)
        (finishResponse lib client question options request upstream) ↔
      SameHints question.qtype strategy options.strategy upstream ∧
        KeepsEdns0 lib request upstream := by
  have finished : ∃ applied : Msg, finishResponse lib client question options request upstream =
      fitEdns0 lib request applied ∧
      applied = { normalizeTTL (timeToLive client options
        (filterHints question.qtype options.strategy upstream))
          (filterHints question.qtype options.strategy upstream) with id := request.id } :=
    ⟨_, rfl, rfl⟩
  rcases finished with ⟨applied, isFinished, isApplied⟩
  have extra : applied.extra = upstream.extra.map (RR.setTTL (timeToLive client options
      (filterHints question.qtype options.strategy upstream))) := by
    rw [isApplied, filterHints_answer]
    rfl
  have answer : applied.answer.map (RR.setTTL 0) =
      (filterHints question.qtype options.strategy upstream).answer.map (RR.setTTL 0) := by
    rw [isApplied]
    exact map_setTTL_setTTL _ _ _
  have keeps : KeepsEdns0 lib request applied ↔ KeepsEdns0 lib request upstream := by
    rw [KeepsEdns0, KeepsEdns0, isEdns0_of_extra lib _ extra]
  have fitted := fitEdns0_eq lib request applied
  have extras := fitEdns0_extra_iff lib request applied
  rw [isFinished, ← keeps, ← extras, ← rotated_filterHints_iff, ← answer]
  have upstreamExtra : (filterHints question.qtype strategy upstream).extra.map (RR.setTTL 0) =
      applied.extra.map (RR.setTTL 0) := by
    rw [extra, map_setTTL_setTTL, filterHints_answer]
  constructor
  · intro alike
    refine ⟨?_, ?_⟩
    · have rotated := alike.answer
      rw [fitted] at rotated
      exact rotated
    · have same := congrArg Msg.extra alike.rest
      rw [← upstreamExtra]
      exact same.symm
  · rintro ⟨rotated, sameExtra⟩
    constructor
    · have rest : { normalizeTTL 0 (filterHints question.qtype strategy upstream) with
          id := 0, answer := [] } = { normalizeTTL 0 applied with id := 0, answer := [] } := by
        rw [isApplied, filterHints_answer, filterHints_answer]
        simp only [normalizeTTL, map_setTTL_setTTL]
      rw [rest, fitted]
      simp only [normalizeTTL, sameExtra]
    · rw [fitted]
      exact rotated

end SingBox.Dns
