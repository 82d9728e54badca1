import SingBox.Dns.ClientTrace

/-! # Transparency of the DNS cache

An answer from the cache should be what an exchange would have made of the
cached response for the request at hand. It is stored with the hints filtered
for the call that cached it and before the OPT record is fitted to that call,
and it is returned without either being done again. So it is right exactly for
requests that would have had the same hints and could keep the OPT record.
-/

namespace SingBox.Dns

open ClientState List Bytes

/-- The answer of a call is what an exchange makes of the response `upstream`
for the call's own request and options. In particular it has no hints of a
family that the strategy excludes, and an OPT record only if the request has
one. -/
structure Transparent (lib : DnsLib) (client : ClientOptions) (call : Call) (question : Question)
    (upstream response : Msg) : Prop where
  alike : Alike response (finishResponse lib client question call.options
    (prepareExchangeMessage client call.message call.options) upstream)
  hints : question.qtype = typeHTTPS → ∀ record ∈ response.answer, ∀ value ∈ record.parameters,
    call.options.strategy.keeps value = true
  edns0 : (∃ record ∈ response.extra, record.isOPT = true) →
    (lib.isEdns0 (prepareExchangeMessage client call.message call.options)).isSome = true

theorem RR.parameters_setTTL (timeToLive : BitVec 32) (record : RR) :
    (record.setTTL timeToLive).parameters = record.parameters := by
  rw [setTTL]
  split <;> rfl

variable {left right upstream : Msg} {record : RR} {value : SVCBKeyValue} {question : Question}

theorem Alike.exists_parameters (alike : Alike left right) (member : record ∈ left.answer)
    (isParameter : value ∈ record.parameters) :
    ∃ other ∈ right.answer, value ∈ other.parameters := by
  have isOther : record.setTTL 0 ∈
      (left.answer.map (RR.setTTL 0)).filter fun record => !record.isAddress := by
    refine mem_filter.mpr ⟨mem_map_of_mem member, ?_⟩
    rw [RR.isAddress, RR.rrtype_setTTL, record.rrtype_of_parameter isParameter]
    rfl
  rw [alike.answer.others] at isOther
  rcases mem_map.mp (mem_filter.mp isOther).1 with ⟨other, isMember, equal⟩
  refine ⟨other, isMember, ?_⟩
  rw [← RR.parameters_setTTL 0 other, equal, RR.parameters_setTTL]
  exact isParameter

theorem Alike.exists_isOPT (alike : Alike left right) (member : record ∈ left.extra)
    (isOPT : record.isOPT = true) : ∃ other ∈ right.extra, other.isOPT = true := by
  have extra : left.extra.map (RR.setTTL 0) = right.extra.map (RR.setTTL 0) :=
    congrArg Msg.extra alike.rest
  have moved : record.setTTL 0 ∈ left.extra.map (RR.setTTL 0) := mem_map_of_mem member
  rw [extra] at moved
  rcases mem_map.mp moved with ⟨other, isMember, equal⟩
  refine ⟨other, isMember, ?_⟩
  rw [← RR.isOPT_setTTL 0 other, equal, RR.isOPT_setTTL]
  exact isOPT

variable {lib : DnsLib} {client : ClientOptions} {actions : List ClientAction}
  {state : ClientState} {response : Msg} {call : Call}

theorem transparent_iff_alike :
    Transparent lib client call question upstream response ↔
      Alike response (finishResponse lib client question call.options
        (prepareExchangeMessage client call.message call.options) upstream) := by
  constructor
  · exact Transparent.alike
  · intro alike
    refine ⟨alike, ?_, ?_⟩
    · intro isHTTPS record member _ isParameter
      rcases alike.exists_parameters member isParameter with ⟨other, isOther, inOther⟩
      rw [finishResponse, fitEdns0_eq] at isOther
      rcases mem_map.mp isOther with ⟨_, isFiltered, isRecord⟩
      rw [filterHints_answer, if_pos isHTTPS] at isFiltered
      rcases mem_map.mp isFiltered with ⟨_, _, isOriginal⟩
      rw [← isRecord, RR.parameters_setTTL, ← isOriginal, RR.parameters_filterHints] at inOther
      exact (mem_filter.mp inOther).2
    · rintro ⟨_, member, isOPT⟩
      rcases alike.exists_isOPT member isOPT with ⟨other, isOther, otherOPT⟩
      rw [Option.isSome_iff_ne_none]
      intro noEdns0
      rw [finishResponse, fitEdns0, noEdns0] at isOther
      apply Bool.false_ne_true
      rw [← otherOPT]
      split at isOther
      · next isResponse => exact (lib.isEdns0_none isResponse other isOther).symm
      · simpa using (mem_filter.mp isOther).2

/-- An answer from the cache was made of a response that the transport gave to
the same question, and it is right for a call exactly if the call's strategy
keeps the hints that were kept when it was cached, and its request may keep the
OPT record of that response. -/
theorem cached_transparent_iff (run : ClientRun lib client actions state) {id : Nat}
    {call : Call} {response : Msg} {source : Source} {question : Question}
    (returned : state.calls id = some (.returned call (.cached response source)))
    (asks : call.message.question.head? = some question) :
    Accepted actions call.transportTag question source ∧
      Alike response (filterHints question.qtype source.options.strategy source.upstream) ∧
      (Transparent lib client call question source.upstream response ↔
        SameHints question.qtype source.options.strategy call.options.strategy source.upstream ∧
          KeepsEdns0 lib (prepareExchangeMessage client call.message call.options)
            source.upstream) := by
  rcases (traced_of_run run).calls id _ returned with ⟨_, own, isOwn, accepted, alike⟩
  obtain rfl : own = question := Option.some.inj (isOwn.symm.trans asks)
  refine ⟨accepted, alike, ?_⟩
  rw [transparent_iff_alike, ← alike_finishResponse_iff lib client]
  constructor
  · exact alike.symm.trans
  · exact alike.trans

def httpsCall (strategy : DomainStrategy) : Call where
  transportTag := ofString "local"
  message := { recursionDesired := true, question := [⟨ofString "a.", typeHTTPS, 1⟩] }
  options := { strategy := strategy }
  responseChecker := none
  contextTag := none

def hintedResponse (extra : List RR) : Msg where
  response := true
  question := [⟨ofString "a.", typeHTTPS, 1⟩]
  answer := [⟨ofString "a.", 1, 60,
    .https 1 (ofString ".") [.ipv4Hint [[1, 1, 1, 1]], .ipv6Hint [replicate 16 1]]⟩]
  extra := extra

def hitActions (extra : List RR) (strategy : DomainStrategy) : List ClientAction :=
  [.exchange 0 (httpsCall .asIS) 0, .load 0 0, .check 0,
    .deliver 0 (.message (hintedResponse extra)) 0 0, .exchange 1 (httpsCall strategy) 0,
    .load 1 0]

theorem cached_transparent_sample :
    ∃ state response source, ClientRun .sample {} (hitActions [] .preferIPv4) state ∧
      state.calls 1 = some (.returned (httpsCall .preferIPv4) (.cached response source)) ∧
      Transparent .sample {} (httpsCall .preferIPv4) ⟨ofString "a.", typeHTTPS, 1⟩
        source.upstream response := by
  have run : ∃ state response, ClientRun .sample {} (hitActions [] .preferIPv4) state ∧
      state.calls 1 = some (.returned (httpsCall .preferIPv4)
        (.cached response ⟨hintedResponse [], {}, none⟩)) :=
    ⟨_, _, Run.of_execute rfl, rfl⟩
  rcases run with ⟨state, response, run, returned⟩
  refine ⟨state, response, _, run, returned, ?_⟩
  refine (cached_transparent_iff run returned rfl).2.2.mpr ⟨?_, ?_⟩
  · intro _ _ _ _ _
    rfl
  · nofun

/-- A call with a strategy and without EDNS0 is answered from the cache with
the hints that its strategy excludes and with an OPT record. -/
theorem cached_not_transparent :
    ∃ state response source,
      ClientRun .sample {} (hitActions [⟨ofString ".", 1232, 0, .opt []⟩] .ipv4Only) state ∧
      state.calls 1 = some (.returned (httpsCall .ipv4Only) (.cached response source)) ∧
      (∃ record ∈ response.answer, ∃ value ∈ record.parameters,
        DomainStrategy.ipv4Only.keeps value = false) ∧
      (∃ record ∈ response.extra, record.isOPT = true) ∧
      DnsLib.sample.isEdns0 (prepareExchangeMessage {} (httpsCall .ipv4Only).message
        (httpsCall .ipv4Only).options) = none ∧
      ¬ Transparent .sample {} (httpsCall .ipv4Only) ⟨ofString "a.", typeHTTPS, 1⟩
        source.upstream response := by
  have run : ∃ state, ClientRun .sample {}
      (hitActions [⟨ofString ".", 1232, 0, .opt []⟩] .ipv4Only) state ∧
      state.calls 1 = some (.returned (httpsCall .ipv4Only) (.cached
        (hintedResponse [⟨ofString ".", 1232, 0, .opt []⟩])
        ⟨hintedResponse [⟨ofString ".", 1232, 0, .opt []⟩], {}, none⟩)) :=
    ⟨_, Run.of_execute rfl, rfl⟩
  rcases run with ⟨state, run, returned⟩
  have isHinted : ∃ record ∈ (hintedResponse [⟨ofString ".", 1232, 0, .opt []⟩]).answer,
      ∃ value ∈ record.parameters, DomainStrategy.ipv4Only.keeps value = false :=
    ⟨_, mem_singleton_self _, .ipv6Hint [replicate 16 1], by decide, rfl⟩
  refine ⟨state, _, _, run, returned, isHinted, ⟨_, mem_singleton_self _, rfl⟩, rfl, ?_⟩
  intro transparent
  rcases isHinted with ⟨record, member, value, isParameter, excluded⟩
  have kept := transparent.hints rfl record member value isParameter
  rw [httpsCall, excluded] at kept
  cases kept

end SingBox.Dns
