import SingBox.Dns.ClientTrace

/-! # Response checkers and the caches

A call with a response checker should only return responses that its checker
accepts, and report a cached rejection only if its checker has rejected a
response. The cache and the RDRC do not know the checker, so this holds if all
calls to a transport with the same name and type agree on it, and if the checker
does not look at what the client changes in a response after the check.
-/

namespace SingBox.Dns

open CacheFile ClientState Bool

/-- What the checker `accepts` of a call says of the outcome. -/
def Vetted (actions : List ClientAction) (call : Call) (accepts : Msg → Bool) : Outcome → Prop
  | .fixed response | .cached response _ | .exchanged response =>
    accepts response = true ∧ response.acceptable = true
  | .rejectedCached =>
    ∃ question response, call.message.question.head? = some question ∧
      Delivered actions call.transportTag question response ∧ accepts response = false
  | .rejected _ => True
  | .failed => True

/-! ## What a checker may look at -/

/-- The verdict does not depend on the id, the TTL of records, the rotation of
addresses and the OPT records. -/
def Steady (accepts : Msg → Bool) : Prop :=
  ∀ left right : Msg, Alike left.withoutOPT right.withoutOPT → accepts left = accepts right

variable {left right : Msg}

theorem Alike.withoutOPT (alike : Alike left right) : Alike left.withoutOPT right.withoutOPT := by
  refine ⟨?_, alike.answer⟩
  have extra : left.extra.map (RR.setTTL 0) = right.extra.map (RR.setTTL 0) :=
    congrArg Msg.extra alike.rest
  have filtered : ∀ message : Msg, message.withoutOPT.extra.map (RR.setTTL 0) =
      (message.extra.map (RR.setTTL 0)).filter fun record => !record.isOPT := by
    intro message
    exact (filter_map_rrtype (fun rrtype => !(rrtype == typeOPT)) (RR.rrtype_setTTL 0) _).symm
  have rest : ∀ message : Msg,
      { Dns.normalizeTTL 0 message.withoutOPT with id := 0, answer := [] } =
        { { Dns.normalizeTTL 0 message with id := 0, answer := [] } with
          extra := (message.extra.map (RR.setTTL 0)).filter fun record => !record.isOPT } := by
    intro message
    rw [← filtered message]
    rfl
  rw [rest left, rest right, alike.rest, extra]

theorem Alike.rcode (alike : Alike left right) : left.rcode = right.rcode :=
  congrArg (fun message => message.rcode) alike.rest

theorem withoutOPT_fitEdns0 (lib : DnsLib) (request response : Msg) :
    (fitEdns0 lib request response).withoutOPT = response.withoutOPT := by
  rcases fitEdns0_cases lib request response with kept | stripped | ⟨_, isOPT, replaced⟩
  · rw [kept]
  · rw [stripped]
    simp [Msg.withoutOPT]
  · rw [replaced]
    simp [Msg.withoutOPT, isOPT]

variable {accepts : Msg → Bool}

theorem Steady.finishResponse (steady : Steady accepts) (lib : DnsLib) (client : ClientOptions)
    (question : Question) (options : QueryOptions) (request upstream : Msg) :
    accepts (finishResponse lib client question options request upstream) =
      accepts (filterHints question.qtype options.strategy upstream) := by
  apply steady
  rw [Dns.finishResponse, withoutOPT_fitEdns0]
  exact Alike.withoutOPT ((Alike.id _ _).trans (.normalizeTTL _ _))

theorem Steady.alike (steady : Steady accepts) (alike : Alike left right) :
    accepts left = accepts right :=
  steady left right alike.withoutOPT

theorem acceptable_finishResponse (lib : DnsLib) (client : ClientOptions) (question : Question)
    (options : QueryOptions) (request upstream : Msg) :
    (finishResponse lib client question options request upstream).acceptable =
      upstream.acceptable := by
  have rcode : (finishResponse lib client question options request upstream).rcode =
      upstream.rcode := by
    rw [finishResponse, fitEdns0_eq, applyResponseOptions, filterHints_answer]
    rfl
  rw [Msg.acceptable, Msg.acceptable, rcode]

theorem Alike.acceptable (alike : Alike left right) : left.acceptable = right.acceptable := by
  rw [Msg.acceptable, Msg.acceptable, alike.rcode]

/-! ## Calls that agree on their checkers -/

section

variable (checkers : Bytes → Bytes → BitVec 16 → Option (Msg → Bool)) (qclass : BitVec 16)

/-- A call that uses the checker of its transport, name and type and asks in the
common class. A call with a checker has a question that its strategy does not
rule out, and its checker is steady and does not depend on the hints that its
strategy removes. -/
structure CheckedCall (call : Call) : Prop where
  agrees : ∀ question, call.message.question.head? = some question →
    call.responseChecker = checkers call.transportTag question.name question.qtype ∧
      question.qclass = qclass
  asks : call.responseChecker.isSome = true → ∃ question,
    call.message.question.head? = some question ∧
      strategyRejects question call.options.strategy = false
  steady : ∀ accepts ∈ call.responseChecker, Steady accepts
  blind : ∀ accepts ∈ call.responseChecker, ∀ question,
    call.message.question.head? = some question → ∀ response,
      accepts (filterHints question.qtype call.options.strategy response) = accepts response

/-- A background refresh of checked answers gets an answer that can be checked. -/
def CheckedAction : ClientAction → Prop
  | .exchange _ call _ | .lookup _ call _ _ _ _ => CheckedCall checkers qclass call
  | .refresh key result _ _ =>
    (checkers key.transportTag key.question.name key.question.qtype).isSome = true →
      ∀ message response, exchangeToTransport message result = some response →
        response.acceptable = true
  | _ => True

def CheckedStep (lib : DnsLib) (client : ClientOptions) (state : ClientState)
    (action : ClientAction) (after : ClientState) : Prop :=
  state.next lib client action = some after ∧ CheckedAction checkers qclass action

end

variable {lib : DnsLib} {client : ClientOptions} {actions : List ClientAction} {state : ClientState}
  {checkers : Bytes → Bytes → BitVec 16 → Option (Msg → Bool)} {qclass : BitVec 16} {call : Call}
  {response : Msg} {question : Question} {id : Nat}

theorem Begun.checked (areChecked : ∀ action ∈ actions, CheckedAction checkers qclass action)
    (begun : Begun actions id call) : CheckedCall checkers qclass call := by
  rcases begun with ⟨environment, member⟩ | ⟨_, _, _, _, member⟩
  · exact areChecked _ member
  · exact areChecked _ member

theorem rejects_eq_false (notRejected : rejects (some accepts) response = false) :
    accepts response = true ∧ response.acceptable = true := by
  rw [rejects, or_eq_false_iff, not_eq_false', not_eq_false'] at notRejected
  exact ⟨notRejected.2, notRejected.1⟩

section

variable (areChecked : ∀ action ∈ actions, CheckedAction checkers qclass action)
  (isChecked : CheckedCall checkers qclass call) (isChecker : call.responseChecker = some accepts)
  (asks : call.message.question.head? = some question)
include areChecked isChecked isChecker asks

theorem vetted_cached {source : Source}
    (accepted : Accepted actions call.transportTag question source)
    (alike : Alike response (filterHints question.qtype source.options.strategy source.upstream)) :
    accepts response = true ∧ response.acceptable = true := by
  rcases accepted.asked with ⟨_, earlier, begun, earlierAsks, isOptions, isSourceChecker⟩
  have earlierChecked := begun.checked areChecked
  have shared : earlier.responseChecker = some accepts := by
    rw [(earlierChecked.agrees question earlierAsks.2).1, earlierAsks.1,
      ← (isChecked.agrees question asks).1, isChecker]
  have notRejected := accepted.notRejected
  rw [← isSourceChecker, shared] at notRejected
  rcases rejects_eq_false notRejected with ⟨isAccepted, acceptable⟩
  have steady := earlierChecked.steady accepts shared
  have blind := earlierChecked.blind accepts shared question earlierAsks.2 source.upstream
  rw [isOptions] at blind
  refine ⟨by rw [steady.alike alike, blind, isAccepted], ?_⟩
  rw [alike.acceptable, filterHints_answer]
  exact acceptable

theorem vetted_rejectedCached
    (rejected : RejectedFor actions ⟨call.transportTag, question.name, question.qtype⟩) :
    ∃ response, Delivered actions call.transportTag question response ∧
      accepts response = false := by
  rcases rejected with ⟨id, earlier, other, response, begun, earlierAsks, isName, isType,
    delivered, isRejected, kept⟩
  have earlierChecked := begun.checked areChecked
  have own := isChecked.agrees question asks
  have theirs := earlierChecked.agrees other earlierAsks.2
  obtain rfl : other = question := by
    have isClass := theirs.2.trans own.2.symm
    cases other
    cases question
    simp_all
  have shared : earlier.responseChecker = some accepts := by
    rw [theirs.1, earlierAsks.1, ← own.1, isChecker]
  refine ⟨response, delivered, ?_⟩
  have acceptable : response.acceptable = true := by
    rcases kept with acceptable | ⟨_, message, _, _, _, isTag, asksKey, member,
      isResponse⟩
    · exact acceptable
    refine areChecked _ member ?_ message response isResponse
    rw [isTag, asksKey, ← own.1, isChecker]
    rfl
  rw [shared, rejects, acceptable] at isRejected
  simpa using isRejected

end

/-- In every run whose calls agree on their checkers, a call with a checker only
returns responses that its checker accepts, and reports a cached rejection only
if its checker rejected a response of the same transport to the same question. -/
theorem checked_calls_vetted
    (run : Run (CheckedStep checkers qclass lib client) .initial actions state) {id : Nat}
    {call : Call} {outcome : Outcome} {accepts : Msg → Bool}
    (returned : state.calls id = some (.returned call outcome))
    (isChecker : call.responseChecker = some accepts) : Vetted actions call accepts outcome := by
  rcases Run.restrict_iff.mp run with ⟨plain, areChecked⟩
  rcases (traced_of_run plain).calls id _ returned with ⟨begun, traced⟩
  have isChecked := begun.checked areChecked
  cases outcome with
  | fixed response =>
    rcases isChecked.asks (by rw [isChecker]; rfl) with ⟨question, asks, notRejected⟩
    rcases traced with ⟨noQuestion, _⟩ | ⟨_, isOwn, isRejected, _⟩
    · rw [noQuestion] at asks
      cases asks
    cases isOwn.symm.trans asks
    cases isRejected.symm.trans notRejected
  | cached response =>
    rcases traced with ⟨question, asks, accepted, alike⟩
    exact vetted_cached areChecked isChecked isChecker asks accepted alike
  | exchanged response =>
    rcases traced with ⟨question, upstream, asks, _, notRejected, isResponse⟩
    rw [isChecker] at notRejected
    rcases rejects_eq_false notRejected with ⟨isAccepted, acceptable⟩
    have steady := isChecked.steady accepts isChecker
    have blind := isChecked.blind accepts isChecker question asks upstream
    rw [isResponse]
    exact ⟨by rw [steady.finishResponse, blind, isAccepted],
      by rw [acceptable_finishResponse, acceptable]⟩
  | rejectedCached =>
    rcases traced with ⟨question, asks, rejected⟩
    rcases vetted_rejectedCached areChecked isChecked isChecker asks rejected with
      ⟨response, delivered, isRejected⟩
    exact ⟨question, response, asks, delivered, isRejected⟩
  | rejected response | failed => trivial

def addressCall (responseChecker : Option (Msg → Bool)) : Call where
  transportTag := Bytes.ofString "local"
  message := { recursionDesired := true, question := [⟨Bytes.ofString "a.", typeA, 1⟩] }
  options := {}
  responseChecker := responseChecker
  contextTag := none

def addressResponse : Msg where
  response := true
  question := [⟨Bytes.ofString "a.", typeA, 1⟩]
  answer := [⟨Bytes.ofString "a.", 1, 60, .a [1, 1, 1, 1]⟩]

def addressHit (first second : Option (Msg → Bool)) : List ClientAction :=
  [.exchange 0 (addressCall first) 0, .load 0 0, .check 0,
    .deliver 0 (.message addressResponse) 0 0, .exchange 1 (addressCall second) 0, .load 1 0]

theorem checkedCall_acceptable :
    CheckedCall (fun _ _ _ => some Msg.acceptable) 1 (addressCall (some Msg.acceptable)) where
  agrees question asks := by
    cases asks
    exact ⟨rfl, rfl⟩
  asks _ := ⟨_, rfl, rfl⟩
  steady accepts isChecker := by
    cases isChecker
    intro _ _ alike
    exact alike.acceptable
  blind accepts isChecker question _ response := by
    cases isChecker
    rw [filterHints_answer]
    rfl

/-- A call that is answered from the cache with a response that its checker
accepts. -/
theorem checked_calls_vetted_sample :
    ∃ state response source,
      Run (CheckedStep (fun _ _ _ => some Msg.acceptable) 1 .sample {}) .initial
        (addressHit (some Msg.acceptable) (some Msg.acceptable)) state ∧
      state.calls 1 = some (.returned (addressCall (some Msg.acceptable))
        (.cached response source)) ∧
      Msg.acceptable response = true := by
  have hit : ∃ state response source, ClientRun .sample {}
      (addressHit (some Msg.acceptable) (some Msg.acceptable)) state ∧
      state.calls 1 = some (.returned (addressCall (some Msg.acceptable))
        (.cached response source)) :=
    ⟨_, _, _, Run.of_execute rfl, rfl⟩
  rcases hit with ⟨state, response, source, run, returned⟩
  have checkedRun : Run (CheckedStep (fun _ _ _ => some Msg.acceptable) 1 .sample {}) .initial
      (addressHit (some Msg.acceptable) (some Msg.acceptable)) state := by
    refine Run.restrict_iff.mpr ⟨run, ?_⟩
    simpa [addressHit, CheckedAction] using checkedCall_acceptable
  exact ⟨state, response, source, checkedRun, returned,
    (checked_calls_vetted checkedRun returned rfl).1⟩

/-- A call whose checker rejects everything is answered from the cache, and a
call whose checker accepts everything is told of a cached rejection. -/
theorem checkers_bypassed :
    (∃ state response source, ClientRun .sample {} (addressHit none (some fun _ => false)) state ∧
      state.calls 1 = some (.returned (addressCall (some fun _ => false))
        (.cached response source))) ∧
    (∃ state, ClientRun .sample { rdrc := true }
        (addressHit (some fun _ => false) (some fun _ => true) ++ [.check 1]) state ∧
      state.calls 1 = some (.returned (addressCall (some fun _ => true)) .rejectedCached)) :=
  ⟨⟨_, _, _, Run.of_execute rfl, rfl⟩, ⟨_, Run.of_execute rfl, rfl⟩⟩

end SingBox.Dns
