import SingBox.Srs.Items

/-! # Rules written and read

The reader takes from what is written for a rule the same tree with the same
items, the lists of domains as matchers and the lists of addresses as IP sets,
as long as the tree is not too deep and its prefixes have addresses.
-/

namespace SingBox.Srs

open Decoder Netip Route Wire HeadlessRule List Bool

variable {lib : Library} {recover : Bool} {generateVersion : BitVec 8}

/-! ## Default rules -/

variable {before rule : DefaultHeadlessRule lib} {least : Nat} {name : String} {context : Err → Err}
  {slice : Listable Bytes}

theorem reads_domain (unset : { before with domainMatcher := none } = before) :
    Reads recover
      (whenSet rule.hasDomains
        (.ok (RuleItemType.domain.code :: lib.writeMatcher (rule.writtenMatcher generateVersion))))
      before
      { before with
        domainMatcher := rule.domainMatcherOf generateVersion
        domain :=
          if recover then (rule.domainMatcherOf generateVersion).elim before.domain fun matcher =>
            (lib.dumpMatcher matcher).1
          else before.domain
        domainSuffix :=
          if recover then
            (rule.domainMatcherOf generateVersion).elim before.domainSuffix fun matcher =>
              (lib.dumpMatcher matcher).2
          else before.domainSuffix } := by
  rw [DefaultHeadlessRule.domainMatcherOf]
  apply Reads.whenSet
  · intro notSet
    rw [notSet]
    cases recover <;> exact unset
  · intro isSet
    rw [isSet]
    apply Reads.item
    exact (lib.decodes_matcher rule.domain.list rule.domainSuffix.list (generateVersion == 1)).map
      (setDomainMatcher recover before)

theorem reads_adGuard (unset : { before with adGuardDomainMatcher := none } = before) :
    Reads recover
      (whenSet rule.adGuardDomain.isSet (since least generateVersion name
          (RuleItemType.adGuardDomain.code ::
            lib.writeAdGuardMatcher (lib.newAdGuardMatcher rule.adGuardDomain.list))))
      before
      { before with
        adGuardDomainMatcher := rule.adGuardMatcherOf
        adGuardDomain :=
          if recover then rule.adGuardMatcherOf.elim before.adGuardDomain lib.dumpAdGuardMatcher
          else before.adGuardDomain } := by
  rw [DefaultHeadlessRule.adGuardMatcherOf]
  apply Reads.whenSet
  · intro notSet
    rw [notSet]
    cases recover <;> exact unset
  · intro isSet
    rw [isSet]
    apply Reads.since
    apply Reads.item
    exact (lib.decodes_adGuardMatcher rule.adGuardDomain.list).map
      (setAdGuardMatcher recover before)

theorem readsIf_interfaceAddresses
    (unset : { before with networkInterfaceAddress := none } = before)
    (fits : Listable.fits (some rule.interfaceEntries) = true)
    (entriesFit : (rule.interfaceEntries.all fun entry => entry.2.fits) = true) :
    ReadsIf recover
      ((rule.interfaceEntries.all fun entry => entry.2.list.all isAddressed) = true)
      (whenSet (!rule.interfaceEntries.isEmpty) (since least generateVersion name
          (RuleItemType.networkInterfaceAddress.code ::
            (lib.writeUvarint rule.interfaceEntries.length ++
              rule.interfaceEntries.flatMap (writeInterfaceEntry lib)))))
      before
      { before with
        networkInterfaceAddress :=
          (rule.networkInterfaceAddress.filter fun map => !map.entries.isEmpty).map
            recoveredAddresses } := by
  rw [DefaultHeadlessRule.interfaceEntries] at fits entriesFit ⊢
  apply ReadsIf.whenSet
  · intro isEmpty
    have isNil : ((rule.networkInterfaceAddress.map TypedMap.entries).getD []) = [] := by
      simpa using isEmpty
    refine ⟨by rw [isNil]; rfl, ?_⟩
    cases isMap : rule.networkInterfaceAddress with
    | none => exact unset
    | some map =>
      rw [isMap] at isEmpty
      have isEmpty : (!map.entries.isEmpty) = false := isEmpty
      rw [Option.filter_some, isEmpty]
      exact unset
  · intro notEmpty
    cases isMap : rule.networkInterfaceAddress with
    | none =>
      rw [isMap] at notEmpty
      cases notEmpty
    | some map =>
      rw [isMap] at fits entriesFit notEmpty
      have notEmpty : (!map.entries.isEmpty) = true := notEmpty
      rw [Option.filter_some, notEmpty]
      apply ReadsIf.since
      apply ReadsIf.item
      exact (accepts_interfaceAddresses fits entriesFit).map _

theorem readsIf_defaultInterfaceAddress {slice : Listable (Option Prefix)}
    (unset : { before with defaultInterfaceAddress := none } = before) (fits : slice.fits = true) :
    ReadsIf recover (slice.list.all isAddressed = true)
      (whenSet slice.isSet (since least generateVersion name
          (RuleItemType.defaultInterfaceAddress.code :: writePrefixes lib slice)))
      before { before with defaultInterfaceAddress := .ofList slice.list } := by
  apply ReadsIf.whenSet
  · intro notSet
    rw [Listable.ofList_of_not_isSet notSet, unset]
    have isNil : slice.list = [] := by simpa [Listable.isSet] using notSet
    rw [isNil]
    exact ⟨rfl, rfl⟩
  · intro _
    apply ReadsIf.since
    apply ReadsIf.item
    exact (accepts_readPrefixes lib fits).map _

open Reads in
theorem readsIf_items (recover : Bool) (generateVersion : BitVec 8) (fits : rule.fits = true) :
    ReadsIf recover (rule.isAddressed = true) (concat (rule.writtenItems generateVersion)) {}
      { rule.recovered recover generateVersion with invert := false } := by
  simp only [DefaultHeadlessRule.fits, and_eq_true] at fits
  rcases fits with ⟨⟨⟨⟨⟨⟨⟨⟨⟨⟨⟨⟨⟨⟨⟨⟨⟨⟨⟨⟨⟨⟨⟨queryType, network⟩, _⟩, _⟩,
    domainKeyword⟩, domainRegex⟩, sourceIPCIDR⟩, ipCIDR⟩, sourcePort⟩, sourcePortRange⟩, port⟩,
    portRange⟩, processName⟩, processPath⟩, processPathRegex⟩, packageName⟩, packageNameRegex⟩,
    networkType⟩, wifiSSID⟩, wifiBSSID⟩, entries⟩, entriesFit⟩, defaultInterfaceAddress⟩,
    _⟩
  rw [DefaultHeadlessRule.isAddressed, and_eq_true, DefaultHeadlessRule.writtenItems]
  refine followedBy (.uint16s (fun value rule => { rule with queryType := value }) queryType) ?_
  refine followedBy (.texts (fun value rule => { rule with network := value }) network) ?_
  apply followedBy (reads_domain rfl)
  refine followedBy (.texts (fun value rule => { rule with domainKeyword := value })
    domainKeyword) ?_
  refine followedBy (.texts (fun value rule => { rule with domainRegex := value }) domainRegex) ?_
  apply followedBy (.cidrs (fun ranges rule => { rule with
    sourceIPSet := ranges
    sourceIPCIDR :=
      if recover then ranges.elim rule.sourceIPCIDR lib.prefixes else rule.sourceIPCIDR })
    rfl (by cases recover <;> rfl))
  apply followedBy (.cidrs (fun ranges rule => { rule with
    ipSet := ranges
    ipCIDR := if recover then ranges.elim rule.ipCIDR lib.prefixes else rule.ipCIDR })
    rfl (by cases recover <;> rfl))
  refine followedBy (.uint16s (fun value rule => { rule with sourcePort := value }) sourcePort) ?_
  refine followedBy (.texts (fun value rule => { rule with sourcePortRange := value })
    sourcePortRange) ?_
  refine followedBy (.uint16s (fun value rule => { rule with port := value }) port) ?_
  refine followedBy (.texts (fun value rule => { rule with portRange := value }) portRange) ?_
  refine followedBy (.texts (fun value rule => { rule with processName := value }) processName) ?_
  refine followedBy (.texts (fun value rule => { rule with processPath := value }) processPath) ?_
  refine followedBy (.texts (fun value rule => { rule with processPathRegex := value })
    processPathRegex) ?_
  refine followedBy (.texts (fun value rule => { rule with packageName := value }) packageName) ?_
  refine followedBy (.list (fun value rule => { rule with packageNameRegex := value })
    (fun _ => rfl) rfl (fun _ => decodes_texts packageNameRegex) .since) ?_
  refine followedBy (.uint8s (fun value rule => { rule with networkType := value }) networkType) ?_
  refine followedBy (.flag (fun value rule => { rule with networkIsExpensive := value })) ?_
  refine followedBy (.flag (fun value rule => { rule with networkIsConstrained := value })) ?_
  apply ReadsIf.cons (readsIf_interfaceAddresses rfl entries entriesFit)
  apply ReadsIf.followedBy (readsIf_defaultInterfaceAddress rfl defaultInterfaceAddress)
  refine cons (.texts (fun value rule => { rule with wifiSSID := value }) wifiSSID) ?_
  refine cons (.texts (fun value rule => { rule with wifiBSSID := value }) wifiBSSID) ?_
  apply Reads.cons (reads_adGuard rfl)
  exact Reads.nil _

theorem accepts_defaultRule {written : Bytes} (fits : rule.fits = true)
    (isWritten : writeDefaultRule generateVersion rule = .ok written) (room : Nat) :
    (readRule recover (room + 1)).Accepts written
      (.default (rule.recovered recover generateVersion)) (rule.isAddressed = true) := by
  rcases bind_eq_ok isWritten with ⟨items, isItems, ⟨⟩⟩
  have readsIf := readsIf_items recover generateVersion fits
  apply (decodes_readByte 0).cons_accepts
  rw [if_pos rfl]
  apply Accepts.map
  constructor
  · intro isAddressed
    rcases readsIf.reads isAddressed items isItems 0 with ⟨last, advances⟩
    have ends : (readRound recover
        ({ rule.recovered recover generateVersion with invert := false }, last)).Decodes
        (ruleItemFinal :: putBool rule.invert)
        (.inr (rule.recovered recover generateVersion)) := by
      apply (decodes_readByte ruleItemFinal).bind_cons
      rw [if_pos rfl]
      exact (decodes_readBool rule.invert).map _
    exact Decodes.loop takes_readRound advances ends
  · intro _ result isRead
    rw [append_assoc] at isRead
    exact readsIf.demands items isItems 0 _ result isRead

/-! ## Trees of rules -/

namespace HeadlessRule

mutual
/-- The tree that is read back. The strategies of its rules are not written. -/
def recovered (recover : Bool) (generateVersion : BitVec 8) : HeadlessRule lib → HeadlessRule lib
  | .default options => .default (options.recovered recover generateVersion)
  | .logical mode rules _ invert =>
    .logical mode (recoveredAll recover generateVersion rules) .asIS invert

def recoveredAll (recover : Bool) (generateVersion : BitVec 8) :
    List (HeadlessRule lib) → List (HeadlessRule lib)
  | [] => []
  | rule :: rules =>
    rule.recovered recover generateVersion :: recoveredAll recover generateVersion rules
end

theorem recoveredAll_eq_map (rules : List (HeadlessRule lib)) :
    recoveredAll recover generateVersion rules =
      rules.map (recovered recover generateVersion) := by
  induction rules with
  | nil => rfl
  | cons _ _ induction => rw [recoveredAll, induction, map_cons]

mutual
def isAddressed : HeadlessRule lib → Bool
  | .default options => options.isAddressed
  | .logical _ rules _ _ => areAddressed rules

def areAddressed : List (HeadlessRule lib) → Bool
  | [] => true
  | rule :: rules => rule.isAddressed && areAddressed rules
end

theorem areAddressed_iff {rules : List (HeadlessRule lib)} :
    areAddressed rules = true ↔ ∀ rule ∈ rules, rule.isAddressed = true := by
  induction rules with
  | nil => simp [areAddressed]
  | cons _ _ induction => simp [areAddressed, induction]

end HeadlessRule

def writtenRule (generateVersion : BitVec 8) (rule : HeadlessRule lib) : Bytes :=
  (writeRule generateVersion rule).toOption.getD []

variable {rules : List (HeadlessRule lib)} {written : Bytes}

theorem writeRules_eq_ok (isWritten : writeRules generateVersion rules = .ok written) :
    written = rules.flatMap (writtenRule generateVersion) ∧
      ∀ rule ∈ rules,
        writeRule generateVersion rule = .ok (writtenRule generateVersion rule) := by
  induction rules generalizing written with
  | nil =>
    cases isWritten
    exact ⟨rfl, nofun⟩
  | cons rule _ induction =>
    rw [writeRules] at isWritten
    rcases bind_eq_ok isWritten with ⟨first, isFirst, isOk⟩
    rcases bind_eq_ok isOk with ⟨_, isRest, ⟨⟩⟩
    have isPart : writtenRule generateVersion rule = first := by
      rw [writtenRule, isFirst]
      rfl
    rcases induction isRest with ⟨rfl, areWritten⟩
    rw [flatMap_cons, forall_mem_cons, isPart]
    exact ⟨rfl, isFirst, areWritten⟩

theorem decodes_logicalMode {mode : LogicalType} {byte : BitVec 8}
    (isWritten : writeLogicalMode mode = .ok byte) :
    ∃ known, mode = .known known ∧ readLogicalMode.Decodes [byte] known := by
  cases mode with
  | known mode =>
    cases mode with
    | and =>
      cases isWritten
      exact ⟨.and, rfl, (decodes_readByte 0).bind_cons (.pure _)⟩
    | or =>
      cases isWritten
      exact ⟨.or, rfl, (decodes_readByte 1).bind_cons (.pure _)⟩
  | unknown => cases isWritten

theorem accepts_rules {read : Nat → Reader (HeadlessRule lib)}
    {condition : HeadlessRule lib → Prop}
    (isWritten : writeRules generateVersion rules = .ok written)
    (each : ∀ rule ∈ rules, ∀ part, writeRule generateVersion rule = .ok part → ∀ index,
      (read index).Accepts part (rule.recovered recover generateVersion) (condition rule)) :
    (collect read 0 rules.length).Accepts written
      (rules.map (recovered recover generateVersion))
      (∀ rule ∈ rules, condition rule) := by
  rcases writeRules_eq_ok isWritten with ⟨rfl, areWritten⟩
  apply Accepts.collect_map
  intro rule member
  exact each rule member _ (areWritten rule member)

/-- A written rule is accepted if its prefixes have addresses and it is not deeper
than there is room. -/
theorem accepts_readRule (rule : HeadlessRule lib) : ∀ {room : Nat} {written : Bytes},
    rule.fits = true → writeRule generateVersion rule = .ok written →
      (readRule recover room).Accepts written (rule.recovered recover generateVersion)
        (rule.isAddressed = true ∧ rule.depth < room) := by
  induction rule using induct with
  | default options =>
    intro room written fits isWritten
    cases room with
    | zero =>
      constructor
      · rintro ⟨_, isShallow⟩
        cases isShallow
      · nofun
    | succ room =>
      rw [writeRule] at isWritten
      apply (accepts_defaultRule fits isWritten room).congr
      exact (and_iff_left (Nat.succ_pos room)).symm
  | logical mode rules strategy invert induction =>
    intro room written fits isWritten
    cases room with
    | zero =>
      constructor
      · rintro ⟨_, isShallow⟩
        cases isShallow
      · nofun
    | succ room =>
      rw [HeadlessRule.fits, and_eq_true, fitAll_iff] at fits
      have isLength : rules.length < 2 ^ 63 := of_decide_eq_true fits.1
      rw [writeRule] at isWritten
      rcases bind_eq_ok isWritten with ⟨modeByte, isMode, isOk⟩
      rcases bind_eq_ok isOk with ⟨children, isChildren, ⟨⟩⟩
      rcases decodes_logicalMode isMode with ⟨known, rfl, decodesMode⟩
      have each : ∀ child ∈ rules, ∀ part,
          writeRule generateVersion child = .ok part → ∀ index : Nat,
          ((readRule recover room).mapError
            (.cause s!"read logical rule [{index}]")).Accepts part
            (child.recovered recover generateVersion)
            (child.isAddressed = true ∧ child.depth < room) := by
        intro child member part isPart index
        apply Accepts.mapError
        exact induction child member (fits.2 child member) isPart
      rw [lib.writeUvarint_eq, recovered, recoveredAll_eq_map, HeadlessRule.isAddressed,
        areAddressed_iff, depth, Nat.lt_succ_iff, depthBelow_le_iff, ← forall₂_and]
      apply (decodes_readByte 1).cons_accepts
      apply decodesMode.cons_accepts
      apply (decodes_readUvarint (by omega)).bind_accepts
      apply (accepts_rules isChildren each).bind_decodes
      exact (decodes_readBool invert).bind_pure _

end SingBox.Srs
