import SingBox.Foundation.NetipText

/-! # Parsing addresses and prefixes

`ParseAddr` and `ParsePrefix` of `net/netip`, and the decimal numbers of
`strconv`. The errors of these functions only say why a text is refused, so a
refused text is `none`.
-/

namespace SingBox

namespace Text

def isDecimal (byte : BitVec 8) : Bool := decide (48 ≤ byte.toNat ∧ byte.toNat ≤ 57)

/-- A hexadecimal digit in either case. -/
def isHex (byte : BitVec 8) : Bool :=
  isDecimal byte || decide (97 ≤ byte.toNat ∧ byte.toNat ≤ 102) ||
    decide (65 ≤ byte.toNat ∧ byte.toNat ≤ 70)

def hexValue (byte : BitVec 8) : Nat :=
  if byte.toNat < 58 then byte.toNat - 48
  else if byte.toNat < 71 then byte.toNat - 55
  else byte.toNat - 87

def ofDigits (base : Nat) (digits : Bytes) : Nat :=
  digits.foldl (fun value byte => value * base + hexValue byte) 0

/-- `strconv.ParseUint` in base ten, without the bound of the result. -/
def parseDecimal (text : Bytes) : Option Nat :=
  if text = [] ∨ text.all isDecimal = false then none else some (ofDigits 10 text)

end Text

namespace Netip

open Text Option

def percent : BitVec 8 := 37

namespace Addr

/-- The loop of `parseIPv4Fields`: the fields before this one, the value of this
one, and how many digits it has. -/
def parseIPv4Fields : Bytes → List Nat → Nat → Nat → Option (List Nat)
  | [], fields, value, _ => if fields.length < 3 then none else some (fields ++ [value])
  | byte :: rest, fields, value, digits =>
    if isDecimal byte then
      if digits = 1 ∧ value = 0 then none
      else if 255 < value * 10 + hexValue byte then none
      else parseIPv4Fields rest fields (value * 10 + hexValue byte) (digits + 1)
    else if byte = dot then
      -- A dot at either end, or after a dot, leaves a field empty.
      if digits = 0 ∨ rest = [] ∨ fields.length = 3 then none
      else parseIPv4Fields rest (fields ++ [value]) 0 0
    else none

def octets (fields : List Nat) : Bytes := fields.map (BitVec.ofNat 8)

def parseIPv4 (text : Bytes) : Option Addr :=
  (parseIPv4Fields text [] 0 0).map fun fields =>
    .v4 (BitVec.ofNat 32 (Bytes.ofBigEndian (octets fields)))

/-- The loop of `parseIPv6` with `room` groups to go: the bytes so far, and
where the ellipsis was among them. -/
def parseIPv6Groups : Nat → Bytes → Bytes → Option Nat → Option (Bytes × Option Nat)
  | 0, text, bytes, ellipsis => if text = [] then some (bytes, ellipsis) else none
  | room + 1, text, bytes, ellipsis =>
    let group := text.takeWhile isHex
    if group = [] ∨ 4 < group.length then none
    else if (text.drop group.length).head? = some dot then
      -- The address ends in dotted form.
      if ellipsis = none ∧ bytes.length ≠ 12 ∨ 12 < bytes.length then none
      else (parseIPv4Fields text [] 0 0).map fun fields => (bytes ++ octets fields, ellipsis)
    else
      let bytes := bytes ++ Bytes.bigEndian 2 (ofDigits 16 group)
      match text.drop group.length with
      | [] => some (bytes, ellipsis)
      | [_] => none
      | first :: second :: rest =>
        if first ≠ colon then none
        else if second ≠ colon then parseIPv6Groups room (second :: rest) bytes ellipsis
        else if ellipsis.isSome then none
        else if rest = [] then some (bytes, some bytes.length)
        else parseIPv6Groups room rest bytes (some bytes.length)

/-- The ellipsis stands for at least one group of zeros. -/
def expandEllipsis (bytes : Bytes) (ellipsis : Option Nat) : Option Bytes :=
  match ellipsis with
  | none => if bytes.length < 16 then none else some bytes
  | some position =>
    if bytes.length < 16 then
      some (bytes.take position ++ List.replicate (16 - bytes.length) 0 ++ bytes.drop position)
    else none

def parseIPv6Text (text : Bytes) : Option Bytes :=
  if text = [colon, colon] then some (List.replicate 16 0)
  else do
    let (bytes, ellipsis) ←
      if text.take 2 = [colon, colon] then parseIPv6Groups 8 (text.drop 2) [] (some 0)
      else parseIPv6Groups 8 text [] none
    expandEllipsis bytes ellipsis

def parseIPv6 (text : Bytes) : Option Addr :=
  let address := text.takeWhile (· != percent)
  let zone := text.drop (address.length + 1)
  if address.length < text.length ∧ zone = [] then none
  else (parseIPv6Text address).map fun bytes =>
    .v6 (BitVec.ofNat 128 (Bytes.ofBigEndian bytes))
      (String.ofList (zone.map fun byte => Char.ofNat byte.toNat))

/-- `netip.ParseAddr`: the first dot, colon or percent sign tells the form. -/
def parse (text : Bytes) : Option Addr :=
  match text.find? fun byte => byte == dot || byte == colon || byte == percent with
  | none => none
  | some byte =>
    if byte = dot then parseIPv4 text
    else if byte = colon then parseIPv6 text
    else none

theorem isValid_of_parse {text : Bytes} {address : Addr} (parsed : parse text = some address) :
    address.isValid = true := by
  rw [parse] at parsed
  split at parsed
  · cases parsed
  split at parsed
  · rcases map_eq_some_iff.mp parsed with ⟨_, _, rfl⟩
    rfl
  split at parsed
  · rw [parseIPv6] at parsed
    split_ifs at parsed
    rcases map_eq_some_iff.mp parsed with ⟨_, _, rfl⟩
    rfl
  · cases parsed

end Addr

namespace Prefix

/-- The bits of `netip.ParsePrefix`, without a sign or a leading zero. -/
def parseBits (text : Bytes) : Option Nat :=
  if 1 < text.length ∧ text.head? = some (digit 0) then none else parseDecimal text

/-- `netip.ParsePrefix`: the bits follow the last slash. A zone is refused. -/
def parse (text : Bytes) : Option Prefix :=
  if slash ∈ text then do
    let bitsText := (text.reverse.takeWhile (· != slash)).reverse
    let address ← Addr.parse (text.take (text.length - bitsText.length - 1))
    let bits ← parseBits bitsText
    if address.withoutZone ≠ address ∨ address.bitLen < bits then none
    else some (.from address bits)
  else none

theorem isValid_of_parse {text : Bytes} {subnet : Prefix} (parsed : parse text = some subnet) :
    subnet.isValid = true := by
  rw [parse] at parsed
  split at parsed
  · rcases bind_eq_some_iff.mp parsed with ⟨address, isAddress, parsed⟩
    rcases bind_eq_some_iff.mp parsed with ⟨bits, _, parsed⟩
    split_ifs at parsed with isFine
    cases parsed
    rw [not_or, Nat.not_lt] at isFine
    have isSet : (Prefix.from address bits).bitsPlusOne = bits + 1 :=
      if_pos ⟨Addr.isValid_of_parse isAddress, isFine.2⟩
    rw [isValid, isSet]
    exact decide_eq_true (Nat.succ_pos bits)
  · cases parsed

end Prefix

end Netip

end SingBox
