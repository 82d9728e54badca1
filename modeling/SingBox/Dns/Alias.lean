import SingBox.Dns.RuleOptions

/-! # Aliases in predefined responses

A predefined action may answer an address query with CNAME records only. The
router then resolves the last name of the chain through its rules and appends
the records it gets. The names on the way are kept in the context of the
nested exchange, which is refused for a name that was seen before.
-/

namespace SingBox.Dns

open Adapter Netip List

/-- Names as `miekg/dns` sees them: `CanonicalName` and `IsFqdn`. -/
structure NameLib where
  canonicalName : Bytes → Bytes
  isFqdn : Bytes → Bool

/-- Names in lower case that end in a dot. -/
def NameLib.sample : NameLib where
  canonicalName name := name
  isFqdn name := name.getLast? == some 46

def classINET : BitVec 16 := 1

/-- Another view of the same bytes: the metadata keeps domains as text. -/
def nameText (name : Bytes) : String :=
  String.ofList (name.map fun byte => Char.ofNat byte.toNat)

variable (names : NameLib)

def fqdnToDomain (fqdn : Bytes) : Bytes :=
  if names.isFqdn fqdn then fqdn.dropLast else fqdn

/-! ## The end of a chain -/

def aliasTarget (record : RR) : Option Bytes :=
  match record.data with
  | .cname target => some (names.canonicalName target)
  | _ => none

def aliasOf (current : Bytes) (record : RR) : Option Bytes :=
  if names.canonicalName record.name = current then aliasTarget names record else none

variable {current target : Bytes} {records : List RR} {visited : List Bytes}

theorem mem_aliasTargets_of_findSome
    (found : records.findSome? (aliasOf names current) = some target) :
    target ∈ records.filterMap (aliasTarget names) := by
  rcases exists_of_findSome?_eq_some found with ⟨record, member, isAlias⟩
  unfold aliasOf at isAlias
  split at isAlias
  · exact mem_filterMap.mpr ⟨record, member, isAlias⟩
  · cases isAlias

theorem card_open_lt {known : List Bytes} {later : List Bytes} (isKnown : target ∈ known)
    (fresh : target ∉ visited) (seen : target ∈ later) (keeps : ∀ name ∈ visited, name ∈ later) :
    (known.toFinset \ later.toFinset).card < (known.toFinset \ visited.toFinset).card := by
  apply Finset.card_lt_card
  rw [Finset.ssubset_iff_of_subset]
  · exact ⟨target, by simp [isKnown, fresh], by simp [seen]⟩
  · apply Finset.sdiff_subset_sdiff (Finset.Subset.refl _)
    intro name member
    rw [mem_toFinset] at member ⊢
    exact keeps name member

/-- The loop of `findLastCNAMETarget`; no result when a name comes back. -/
def followCNAMEs (records : List RR) (visited : List Bytes) (current : Bytes) : Option Bytes :=
  match _found : records.findSome? (aliasOf names current) with
  | none => some current
  | some target =>
    if target ∈ visited then none else followCNAMEs records (target :: visited) target
termination_by ((records.filterMap (aliasTarget names)).toFinset \ visited.toFinset).card
decreasing_by
  rename_i fresh
  exact card_open_lt (mem_aliasTargets_of_findSome names _found) fresh mem_cons_self
    fun name member => mem_cons_of_mem _ member

def isAddressFor (qtype : BitVec 16) (record : RR) : Bool :=
  match record.data with
  | .a _ => qtype == 0 || qtype == typeA
  | .aaaa _ => qtype == 0 || qtype == typeAAAA
  | _ => false

/-- `findLastCNAMETarget`, where no name stands for the empty string. -/
def findLastCNAMETarget (name : Bytes) (records : List RR) (qtype : BitVec 16) : Option Bytes :=
  let first := names.canonicalName name
  match followCNAMEs names records [first] first with
  | none => none
  | some current =>
    if current = first then none
    else if records.any fun record =>
        names.canonicalName record.name == current && isAddressFor qtype record then none
    else some current

theorem followCNAMEs_mem {last : Bytes}
    (followed : followCNAMEs names records visited current = some last) :
    last = current ∨ last ∈ records.filterMap (aliasTarget names) := by
  induction visited, current using followCNAMEs.induct names records with
  | case1 visited current found =>
    rw [followCNAMEs, found] at followed
    exact .inl (Option.some.inj followed).symm
  | case2 visited current target found seen =>
    rw [followCNAMEs, found] at followed
    simp [seen] at followed
  | case3 _ _ _ found fresh induction =>
    rw [followCNAMEs, found] at followed
    simp only [fresh] at followed
    rcases induction followed with isTarget | member
    · subst isTarget
      exact .inr (mem_aliasTargets_of_findSome names found)
    · exact .inr member

theorem findLastCNAMETarget_mem {name : Bytes} {qtype : BitVec 16}
    (found : findLastCNAMETarget names name records qtype = some target) :
    target ∈ records.filterMap (aliasTarget names) := by
  unfold findLastCNAMETarget at found
  dsimp only at found
  split at found
  · cases found
  next followed =>
  split_ifs at found with notFirst
  cases found
  exact (followCNAMEs_mem names followed).resolve_left notFirst

/-! ## Predefined responses -/

structure Transport where
  tag : String
  isFakeIP : Bool := false
  deriving DecidableEq

/-- `exchangeWithRulesResult`. Errors are their texts. -/
structure ExchangeResult where
  response : Option Msg := none
  transport : Option Transport := none
  rejectAction : Option RejectAction := none
  err : Option String := none
  deriving DecidableEq

/-- What `exchangeWithRules` is called with. The callers make sure that there
is one question; `chain` holds the alias names of the context. -/
structure Query where
  message : Msg
  question : Question
  isQuestion : message.question = [question]
  metadata : InboundContext
  options : QueryOptions
  allowFakeIP : Bool
  chain : List Bytes := []

def asterisk : BitVec 8 := 42

def rewriteRecord (question : Question) (record : RR) : RR :=
  match record.name with
  | first :: rest =>
    if first = asterisk ∧ rest <:+ question.name then { record with name := question.name }
    else record
  | [] => record

def PredefinedAction.response (action : PredefinedAction) (query : Query) : Msg where
  id := query.message.id
  response := true
  authoritative := true
  recursionDesired := true
  recursionAvailable := true
  rcode := action.rcode
  question := query.message.question
  answer := action.answer.map (rewriteRecord query.question)
  ns := action.ns.map (rewriteRecord query.question)
  extra := action.extra.map (rewriteRecord query.question)

def withLookupQueryMetadata (metadata : InboundContext) (qtype : BitVec 16) : InboundContext :=
  { metadata with
    queryType := qtype
    queryClientSubnet := .zero
    queryDNSSEC := false
    ipVersion := if qtype = typeA then 4 else if qtype = typeAAAA then 6 else 0 }

/-- The alias names of the nested context, unless a loop is detected. -/
def contextWithAliasResolution (chain : List Bytes) (source target : Bytes) : Option (List Bytes) :=
  let source := names.canonicalName source
  let target := names.canonicalName target
  if source = target ∨ target ∈ chain then none else some (source :: target :: chain)

def Query.follow (query : Query) (options : QueryOptions) (target : Bytes) (chain : List Bytes) :
    Query where
  message :=
    { recursionDesired := true, question := [⟨target, query.question.qtype, classINET⟩] }
  question := ⟨target, query.question.qtype, classINET⟩
  isQuestion := rfl
  metadata :=
    { withLookupQueryMetadata query.metadata query.question.qtype with
      domain := nameText (fqdnToDomain names target) }
  options := { options with disableOptimisticCache := true }
  allowFakeIP := false
  chain := chain

/-- The nested exchange of `followPredefinedCNAME`, if there is one. -/
def followPredefinedCNAME (closing : Bool) (query : Query) (response : Msg)
    (options : QueryOptions) : Option Query :=
  if query.question.qtype = typeA ∨ query.question.qtype = typeAAAA then do
    let target ←
      findLastCNAMETarget names query.question.name response.answer query.question.qtype
    if closing then none
    else
      let chain ← contextWithAliasResolution names query.chain query.question.name target
      some (query.follow names options target chain)
  else none

/-- The response of `followPredefinedCNAME` after the nested exchange. -/
def mergeFollowed (qtype : BitVec 16) (response : Msg) (followed : ExchangeResult) : Msg :=
  match followed.err, followed.response with
  | none, some followResponse =>
    if followResponse.rcode ≠ rcodeSuccess ∨ followResponse.answer = [] then response
    else
      { response with
        answer := response.answer ++ followResponse.answer.filter fun record =>
          record.rrtype == qtype || record.rrtype == typeCNAME }
  | _, _ => response

/-! ## Chains end -/

/-- The names that predefined responses can lead to, as the context keeps them. -/
def aliasTargets (rules : List DNSRule) : List Bytes :=
  rules.flatMap fun rule =>
    match rule.action with
    | some (.predefined action) =>
      (action.answer.filterMap (aliasTarget names)).map names.canonicalName
    | _ => []

/-- How many names are left to follow. -/
def Query.openAliases (query : Query) (rules : List DNSRule) : Nat :=
  ((aliasTargets names rules).toFinset \ query.chain.toFinset).card

theorem aliasTarget_rewriteRecord (question : Question) (record : RR) :
    aliasTarget names (rewriteRecord question record) = aliasTarget names record := by
  unfold rewriteRecord
  split
  · split <;> rfl
  · rfl

theorem openAliases_follow_lt {closing : Bool} {query nested : Query} {options : QueryOptions}
    {rules : List DNSRule} {rule : DNSRule} {action : PredefinedAction} (member : rule ∈ rules)
    (isAction : rule.action = some (.predefined action))
    (follows : followPredefinedCNAME names closing query (action.response query) options =
      some nested) :
    nested.openAliases names rules < query.openAliases names rules := by
  unfold followPredefinedCNAME at follows
  split at follows
  · rcases Option.bind_eq_some_iff.mp follows with ⟨_, found, follows⟩
    split at follows
    · cases follows
    rcases Option.bind_eq_some_iff.mp follows with ⟨_, resolved, ⟨⟩⟩
    unfold contextWithAliasResolution at resolved
    dsimp only at resolved
    split_ifs at resolved with fresh
    cases resolved
    rw [not_or] at fresh
    refine card_open_lt ?_ fresh.2 (mem_cons_of_mem _ mem_cons_self)
      fun name seen => mem_cons_of_mem _ (mem_cons_of_mem _ seen)
    have isTarget := findLastCNAMETarget_mem names found
    refine mem_flatMap.mpr ⟨rule, member, ?_⟩
    rw [isAction]
    apply mem_map_of_mem
    rcases mem_filterMap.mp isTarget with ⟨_, isRecord, isAlias⟩
    rcases mem_map.mp isRecord with ⟨original, isOriginal, equal⟩
    rw [← equal, aliasTarget_rewriteRecord] at isAlias
    exact mem_filterMap.mpr ⟨original, isOriginal, isAlias⟩
  · cases follows

end SingBox.Dns
