import SingBox.Srs.Binary

/-! # Items written and read

What is written for a field takes the loop of `readDefaultRule` from a rule
without the field to the rule with it. A field that is not set is not written,
and the loop stays where it is. So the items of a rule, one after another, lead
from the empty rule to what is recovered of the rule.
-/

namespace SingBox.Srs

open Decoder Netip Route Wire Listable List

variable {lib : Library} {recover : Bool}

/-! ## Values of items -/

theorem flatMap_bigEndian_one (bytes : Bytes) :
    (bytes.flatMap fun byte => Bytes.bigEndian 1 byte.toNat) = bytes := by
  induction bytes with
  | nil => rfl
  | cons byte _ induction =>
    have isByte : Bytes.bigEndian 1 byte.toNat = [byte] := by
      change [BitVec.ofNat 8 byte.toNat] = [byte]
      rw [Bytes.ofNat_word]
    rw [flatMap_cons, induction, isByte, singleton_append]

theorem decodes_text {text : Bytes} (fits : text.length < 2 ^ 63) :
    (list <$> lib.readSlice 1).Decodes (writeText lib text) text := by
  rcases lib.decodes_slice 1 text fits with ⟨_, isList, decodes⟩
  have decodes := decodes.map list
  rw [isList, putSlice, flatMap_bigEndian_one] at decodes
  rw [writeText, lib.writeUvarint_eq]
  exact decodes

theorem decodes_texts {slice : Listable Bytes} (fits : textsFit slice = true) :
    (readRuleItemString lib).Decodes
      (lib.writeUvarint slice.list.length ++ slice.list.flatMap (writeText lib))
      (.ofList slice.list) := by
  rw [textsFit, Bool.and_eq_true, all_eq_true] at fits
  have isLength := of_decide_eq_true fits.1
  have each : ∀ text ∈ slice.list, ∀ _ : Nat,
      (list <$> lib.readSlice 1).Decodes (writeText lib text) text := by
    intro text member _
    exact decodes_text (of_decide_eq_true (fits.2 text member))
  have collected := Decodes.collect_map each 0
  rw [map_id'] at collected
  rw [lib.writeUvarint_eq]
  apply (decodes_readUvarint (by omega)).bind
  exact collected.bind_pure _

theorem decodes_numbers (lib : Library) {width : Nat} {values : List (BitVec (8 * width))}
    (fits : values.length < 2 ^ 63) (isSet : values ≠ []) :
    (lib.readSlice width).Decodes
      (lib.writeUvarint values.length ++
        values.flatMap fun value => Bytes.bigEndian width value.toNat)
      (.ofList values) := by
  rcases lib.decodes_slice width values fits with ⟨_, isList, decodes⟩
  rw [eq_some_of_list isList isSet] at decodes
  rw [lib.writeUvarint_eq, ofList_of_ne_nil isSet]
  exact decodes

/-- The map with its values as they are read: an empty slice comes back nil. -/
def recoveredAddresses (map : InterfaceAddresses) : InterfaceAddresses where
  entries := map.entries.map fun entry => (entry.1, .ofList entry.2.list)
  keys := by
    rw [map_map]
    exact map.keys

theorem foldl_put_entries (map : InterfaceAddresses) :
    map.entries.foldl (fun map entry => map.put entry.1 entry.2) .empty = map := by
  have areNew : (((TypedMap.empty : InterfaceAddresses).entries ++ map.entries).map
      Prod.fst).Nodup := map.keys
  exact TypedMap.ext (TypedMap.entries_foldl_put areNew)

theorem accepts_interfaceAddresses {map : InterfaceAddresses}
    (fits : fits (some map.entries) = true)
    (entriesFit : (map.entries.all fun entry => entry.2.fits) = true) :
    (readInterfaceAddresses lib).Accepts
      (lib.writeUvarint map.entries.length ++ map.entries.flatMap (writeInterfaceEntry lib))
      (recoveredAddresses map)
      ((map.entries.all fun entry => entry.2.list.all isAddressed) = true) := by
  rw [all_eq_true] at entriesFit
  have isLength : map.entries.length < 2 ^ 63 := of_decide_eq_true fits
  have each : ∀ entry ∈ map.entries, ∀ _ : Nat, (readInterfaceEntry lib).Accepts
      (writeInterfaceEntry lib entry) (entry.1, .ofList entry.2.list)
      (entry.2.list.all isAddressed = true) := by
    intro entry member _
    apply (decodes_readByte entry.1).cons_accepts
    exact (accepts_readPrefixes lib (entriesFit entry member)).bind_pure (Prod.mk entry.1)
  have collected := Accepts.collect_map each 0
  rw [lib.writeUvarint_eq, ← foldl_put_entries (recoveredAddresses map), all_eq_true]
  apply (decodes_readUvarint (by omega)).bind_accepts
  exact collected.bind_pure _

/-! ## Rounds of the loop -/

theorem shrinks_readRuleItemString : (readRuleItemString lib).Shrinks :=
  shrinks_readUvarint.bind fun length =>
    (Shrinks.collect (fun _ => (lib.shrinks_slice 1).map _) 0 length).bind fun _ => .pure _

theorem shrinks_readInterfaceAddresses : (readInterfaceAddresses lib).Shrinks := by
  refine shrinks_readUvarint.bind fun size => ?_
  refine (Shrinks.collect (fun _ => ?_) 0 size).bind fun _ => .pure _
  exact takes_readByte.shrinks.bind fun _ => (shrinks_readPrefixes lib).bind fun _ => .pure _

theorem shrinks_readItem (rule : DefaultHeadlessRule lib) (type : RuleItemType) :
    (readItem recover rule type).Shrinks := by
  cases type with
  | queryType | sourcePort | port => exact (lib.shrinks_slice 2).map _
  | networkType => exact (lib.shrinks_slice 1).map _
  | domain => exact lib.shrinks_matcher.map _
  | adGuardDomain => exact lib.shrinks_adGuardMatcher.map _
  | sourceIPCIDR | ipCIDR => exact (shrinks_readIPSet lib).map _
  | networkIsExpensive | networkIsConstrained => exact .pure _
  | networkInterfaceAddress => exact shrinks_readInterfaceAddresses.map _
  | defaultInterfaceAddress => exact (shrinks_readPrefixes lib).map _
  | network | domainKeyword | domainRegex | sourcePortRange | portRange | processName
  | processPath | packageName | wifiSSID | wifiBSSID | processPathRegex | packageNameRegex =>
    exact shrinks_readRuleItemString.map _

theorem takes_readRound (state : DefaultHeadlessRule lib × BitVec 8) :
    (readRound recover state).Takes := by
  refine takes_readByte.bind fun itemType => ?_
  split
  · exact takes_readBool.shrinks.map _
  split
  · exact (shrinks_readItem _ _).map _
  · exact .throw _

variable {after rule : DefaultHeadlessRule lib} {payload : Bytes} {type : RuleItemType}
  {condition : Prop} {written : Bytes}

theorem accepts_readRound (accepts : (readItem recover rule type).Accepts payload after condition)
    (last : BitVec 8) :
    (readRound recover (rule, last)).Accepts (type.code :: payload)
      (.inl (after, type.code)) condition := by
  apply (decodes_readByte type.code).cons_accepts
  rw [if_neg (code_ne_final type), RuleItemType.ofCode_code]
  exact accepts.map fun rule => Sum.inl (rule, type.code)

/-- Whatever the part writes is read back as the change from one rule to the
next. -/
def Reads (recover : Bool) (part : Except Err Bytes) (before after : DefaultHeadlessRule lib) :
    Prop :=
  ∀ bytes, part = .ok bytes → ∀ last, ∃ next,
    Advances (.new "stuck") (readRound recover) bytes (before, last) (after, next)

/-- The part is read back if the condition holds, and otherwise there is an error. -/
structure ReadsIf (recover : Bool) (condition : Prop) (part : Except Err Bytes)
    (before after : DefaultHeadlessRule lib) : Prop where
  reads : condition → Reads recover part before after
  demands : ∀ bytes, part = .ok bytes → ∀ last rest result,
    (loop (.new "stuck") (readRound recover) (before, last)).run (bytes ++ rest) = .ok result →
      condition

theorem concat_cons_eq_ok {part : Except Err Bytes} {parts : List (Except Err Bytes)}
    {bytes : Bytes} (isOk : concat (part :: parts) = .ok bytes) :
    ∃ written later, part = .ok written ∧ concat parts = .ok later ∧ bytes = written ++ later := by
  rcases bind_eq_ok isOk with ⟨written, isPart, isOk⟩
  rcases bind_eq_ok isOk with ⟨later, isRest, ⟨⟩⟩
  exact ⟨written, later, isPart, isRest, rfl⟩

def ipSetOf (lib : Library) (slice : Listable Bytes) : Option (List IPRange) :=
  if slice.isSet then (buildIPSet lib slice.list).toOption else none

namespace Reads

variable {before middle after : DefaultHeadlessRule lib}

theorem nil (rule : DefaultHeadlessRule lib) : Reads recover (concat []) rule rule := by
  intro _ isOk last
  cases isOk
  exact ⟨last, .refl _⟩

variable {part : Except Err Bytes} {parts : List (Except Err Bytes)} {isSet : Bool} {least : Nat}
  {name : String} {version : BitVec 8} {slice : Listable Bytes}

section

variable (first : Reads recover part before middle)
include first

theorem cons (rest : Reads recover (concat parts) middle after) :
    Reads recover (concat (part :: parts)) before after := by
  intro _ isOk last
  rcases concat_cons_eq_ok isOk with ⟨written, later, isPart, isRest, rfl⟩
  rcases first written isPart last with ⟨next, advances⟩
  rcases rest later isRest next with ⟨final, continues⟩
  exact ⟨final, advances.trans continues⟩

theorem followedBy (rest : ReadsIf recover condition (concat parts) middle after) :
    ReadsIf recover condition (concat (part :: parts)) before after where
  reads holds := first.cons (rest.reads holds)
  demands bytes isOk last tail result isRead := by
    rcases concat_cons_eq_ok isOk with ⟨written, later, isPart, isRest, rfl⟩
    rcases first written isPart last with ⟨next, advances⟩
    rw [append_assoc, advances] at isRead
    exact rest.demands later isRest next tail result isRead

end

theorem whenSet (unset : isSet = false → after = before)
    (set : isSet = true → Reads recover part before after) :
    Reads recover (Srs.whenSet isSet part) before after := by
  cases isSet with
  | false =>
    rw [unset rfl]
    exact nil before
  | true => exact set rfl

variable {type : RuleItemType}

theorem item (decodes : (readItem recover before type).Decodes payload after) :
    Reads recover (.ok (type.code :: payload)) before after := by
  intro _ isOk last
  cases isOk
  have round := (accepts_readRound decodes.accepts last).decodes trivial
  exact ⟨type.code, Advances.of_round takes_readRound round⟩

theorem since (reads : Reads recover (.ok written) before after) :
    Reads recover (Srs.since least version name written) before after := by
  intro bytes isOk
  rw [Srs.since] at isOk
  split_ifs at isOk
  exact reads bytes isOk

/-! ## Families of items -/

/-- A list. The setter says which field the item fills, and the guard whether
older versions have it. -/
theorem list {slice : Listable Value} {reader : Reader (Listable Value)}
    (set : Listable Value → DefaultHeadlessRule lib → DefaultHeadlessRule lib)
    (isItem : ∀ rule, readItem recover rule type = (fun value => set value rule) <$> reader)
    (unset : set none before = before)
    (decodes : slice.isSet = true → reader.Decodes payload (.ofList slice.list))
    (guard : ∀ {after}, Reads recover (.ok (type.code :: payload)) before after →
      Reads recover part before after) :
    Reads recover (Srs.whenSet slice.isSet part) before (set (.ofList slice.list) before) := by
  apply whenSet
  · intro notSet
    rw [ofList_of_not_isSet notSet, unset]
  · intro isSet
    apply guard
    apply item
    rw [isItem]
    exact (decodes isSet).map fun value => set value before

theorem texts (set : Listable Bytes → DefaultHeadlessRule lib → DefaultHeadlessRule lib)
    (fits : textsFit slice = true) (isItem : ∀ rule, readItem recover rule type =
      (fun value => set value rule) <$> readRuleItemString lib := by exact fun _ => rfl)
    (unset : set none before = before := by rfl) :
    Reads recover (Srs.whenSet slice.isSet (.ok (writeRuleItemString lib type slice.list)))
      before (set (.ofList slice.list) before) :=
  list set isItem unset (fun _ => decodes_texts fits) id

theorem uint16s {slice : Listable (BitVec 16)}
    (set : Listable (BitVec 16) → DefaultHeadlessRule lib → DefaultHeadlessRule lib)
    (fits : slice.fits = true) (isItem : ∀ rule, readItem recover rule type =
      (fun value => set value rule) <$> lib.readSlice 2 := by exact fun _ => rfl)
    (unset : set none before = before := by rfl) :
    Reads recover (Srs.whenSet slice.isSet (.ok (writeRuleItemUint16 lib type slice.list)))
      before (set (.ofList slice.list) before) := by
  refine list set isItem unset (fun isSet => ?_) id
  exact decodes_numbers lib (of_decide_eq_true fits) (ne_nil_of_isSet isSet)

theorem uint8s {slice : Listable (BitVec 8)}
    (set : Listable (BitVec 8) → DefaultHeadlessRule lib → DefaultHeadlessRule lib)
    (fits : slice.fits = true) (isItem : ∀ rule, readItem recover rule type =
      (fun value => set value rule) <$> lib.readSlice 1 := by exact fun _ => rfl)
    (unset : set none before = before := by rfl) :
    Reads recover
      (Srs.whenSet slice.isSet
        (Srs.since least version name (writeRuleItemUint8 lib type slice.list)))
      before (set (.ofList slice.list) before) := by
  refine list set isItem unset (fun isSet => ?_) since
  have decodes : (lib.readSlice 1).Decodes _ _ :=
    decodes_numbers lib (of_decide_eq_true fits) (ne_nil_of_isSet isSet)
  rw [flatMap_bigEndian_one] at decodes
  exact decodes

theorem flag (set : Bool → DefaultHeadlessRule lib → DefaultHeadlessRule lib)
    (isItem : ∀ rule, readItem recover rule type = pure (set true rule) := by exact fun _ => rfl)
    (unset : set false before = before := by rfl) :
    Reads recover (Srs.whenSet isSet (Srs.since least version name [type.code]))
      before (set isSet before) := by
  apply whenSet
  · intro notSet
    rw [notSet, unset]
  · intro isTrue
    rw [isTrue]
    apply since
    apply item
    rw [isItem]
    exact .pure _

/-- A list of addresses. When the list is set and the part is written, the IP
set of the list is there. -/
theorem cidrs {context : Err → Err}
    (set : Option (List IPRange) → DefaultHeadlessRule lib → DefaultHeadlessRule lib)
    (isItem : readItem recover before type =
      (fun ranges => set (some ranges) before) <$> readIPSet lib)
    (unset : set none before = before) :
    Reads recover
      (Srs.whenSet slice.isSet ((writeRuleItemCIDR lib type slice.list).mapError context))
      before (set (ipSetOf lib slice) before) := by
  rw [ipSetOf]
  apply whenSet
  · intro notSet
    rw [notSet]
    exact unset
  · intro isSet bytes isOk
    rcases bind_eq_ok (mapError_eq_ok isOk) with ⟨ranges, isBuilt, isBytes⟩
    rw [isSet, if_pos rfl, isBuilt]
    have decodes := (decodes_readIPSet lib isBuilt).map fun ranges => set (some ranges) before
    rw [← isItem] at decodes
    exact item decodes bytes isBytes

end Reads

namespace ReadsIf

variable {before middle after : DefaultHeadlessRule lib} {condition other : Prop}
  {part : Except Err Bytes} {parts : List (Except Err Bytes)}

section

variable (first : ReadsIf recover condition part before middle)
include first

theorem cons (rest : ReadsIf recover other (concat parts) middle after) :
    ReadsIf recover (condition ∧ other) (concat (part :: parts)) before after where
  reads holds := (first.reads holds.1).cons (rest.reads holds.2)
  demands bytes isOk last tail result isRead := by
    have holds : condition := by
      rcases concat_cons_eq_ok isOk with ⟨written, _, isPart, _, rfl⟩
      rw [append_assoc] at isRead
      exact first.demands written isPart last _ result isRead
    exact ⟨holds, ((first.reads holds).followedBy rest).demands bytes isOk last tail result isRead⟩

theorem followedBy (rest : Reads recover (concat parts) middle after) :
    ReadsIf recover condition (concat (part :: parts)) before after where
  reads holds := (first.reads holds).cons rest
  demands bytes isOk last tail result isRead := by
    rcases concat_cons_eq_ok isOk with ⟨written, _, isPart, _, rfl⟩
    rw [append_assoc] at isRead
    exact first.demands written isPart last _ result isRead

end

theorem whenSet {isSet : Bool} (unset : isSet = false → condition ∧ after = before)
    (set : isSet = true → ReadsIf recover condition part before after) :
    ReadsIf recover condition (Srs.whenSet isSet part) before after := by
  cases isSet with
  | false =>
    rcases unset rfl with ⟨holds, rfl⟩
    exact ⟨fun _ => Reads.nil after, fun _ _ _ _ _ _ => holds⟩
  | true => exact set rfl

theorem item (accepts : (readItem recover before type).Accepts payload after condition) :
    ReadsIf recover condition (.ok (type.code :: payload)) before after where
  reads holds := Reads.item (accepts.decodes holds)
  demands bytes isOk last rest result isRead := by
    cases isOk
    exact (accepts_readRound accepts last).demands_loop takes_readRound rest result isRead

theorem since {least : Nat} {version : BitVec 8} {name : String}
    (readsIf : ReadsIf recover condition (.ok written) before after) :
    ReadsIf recover condition (Srs.since least version name written) before after where
  reads holds := Reads.since (readsIf.reads holds)
  demands bytes isOk := by
    rw [Srs.since] at isOk
    split_ifs at isOk
    exact readsIf.demands bytes isOk

end ReadsIf

/-! ## A rule and what is recovered of it -/

namespace DefaultHeadlessRule

variable (rule : DefaultHeadlessRule lib)

def domainMatcherOf (generateVersion : BitVec 8) : Option lib.Matcher :=
  if rule.hasDomains then some (rule.writtenMatcher generateVersion) else none

def adGuardMatcherOf : Option lib.AdGuardMatcher :=
  if rule.adGuardDomain.isSet then some (lib.newAdGuardMatcher rule.adGuardDomain.list) else none

/-- What the items of a rule are read back as. The strategy has no item. -/
def recovered (recover : Bool) (generateVersion : BitVec 8) : DefaultHeadlessRule lib where
  queryType := .ofList rule.queryType.list
  network := .ofList rule.network.list
  domain :=
    if recover then (rule.domainMatcherOf generateVersion).elim none fun matcher =>
      (lib.dumpMatcher matcher).1
    else none
  domainSuffix :=
    if recover then (rule.domainMatcherOf generateVersion).elim none fun matcher =>
      (lib.dumpMatcher matcher).2
    else none
  domainKeyword := .ofList rule.domainKeyword.list
  domainRegex := .ofList rule.domainRegex.list
  sourceIPCIDR := if recover then (ipSetOf lib rule.sourceIPCIDR).elim none lib.prefixes else none
  ipCIDR := if recover then (ipSetOf lib rule.ipCIDR).elim none lib.prefixes else none
  sourcePort := .ofList rule.sourcePort.list
  sourcePortRange := .ofList rule.sourcePortRange.list
  port := .ofList rule.port.list
  portRange := .ofList rule.portRange.list
  processName := .ofList rule.processName.list
  processPath := .ofList rule.processPath.list
  processPathRegex := .ofList rule.processPathRegex.list
  packageName := .ofList rule.packageName.list
  packageNameRegex := .ofList rule.packageNameRegex.list
  networkType := .ofList rule.networkType.list
  networkIsExpensive := rule.networkIsExpensive
  networkIsConstrained := rule.networkIsConstrained
  wifiSSID := .ofList rule.wifiSSID.list
  wifiBSSID := .ofList rule.wifiBSSID.list
  networkInterfaceAddress :=
    (rule.networkInterfaceAddress.filter fun map => !map.entries.isEmpty).map recoveredAddresses
  defaultInterfaceAddress := .ofList rule.defaultInterfaceAddress.list
  invert := rule.invert
  domainMatcher := rule.domainMatcherOf generateVersion
  sourceIPSet := ipSetOf lib rule.sourceIPCIDR
  ipSet := ipSetOf lib rule.ipCIDR
  adGuardDomain := if recover then rule.adGuardMatcherOf.elim none lib.dumpAdGuardMatcher else none
  adGuardDomainMatcher := rule.adGuardMatcherOf

/-- The prefixes of the interface addresses all have an address. -/
def isAddressed : Bool :=
  (rule.interfaceEntries.all fun entry => entry.2.list.all Srs.isAddressed) &&
    rule.defaultInterfaceAddress.list.all Srs.isAddressed

end DefaultHeadlessRule

end SingBox.Srs
