import SingBox.TlsFragment.ServerName

/-! # Writing the first packet in pieces

`Conn.Write` cuts the first packet inside the labels of the server name. The place
of a cut is drawn with `rand.Intn`, which panics for an empty label. What the
public suffix list answers is a parameter, and so is what the transport does; the
bytes of the array behind the end of the packet are given as `spare`.
-/

namespace SingBox.TlsFragment

open Checked List Option Nat

def dot : BitVec 8 := 46

/-- `strings.Split(text, ".")`. -/
def split : Bytes → List Bytes
  | [] => [[]]
  | byte :: rest =>
    if byte = dot then [] :: split rest
    else
      match split rest with
      | [] => [[byte]]
      | label :: labels => (byte :: label) :: labels

/-- `Conn`, where `tcpConn` says whether there is one. -/
structure Conn where
  splitPacket : Bool
  splitRecord : Bool
  tcpConn : Bool
  firstPacketWritten : Bool := false
  deriving DecidableEq

/-- What the calls of the transport return: `SetNoDelay`, and the writes by the
number of the round. -/
structure Transport where
  setNoDelay : Bool → Except Err Unit
  write : Nat → Except Err Unit

def transported (result : Except Err Unit) : Checked Err Unit :=
  match result with
  | .ok () => .ok ()
  | .error err => .error (.returned err)

section

variable (publicSuffix : Bytes → Bytes)

/-- The labels after the one that the public suffix is meant to cut off. -/
def trimmed (serverName : Bytes) : Checked Err (List Bytes) :=
  let splits := split serverName
  if publicSuffix serverName ≠ [] then
    if splits.length < serverName.count dot then .error .panicked
    else .ok (splits.take (splits.length - serverName.count dot))
  else .ok splits

/-- A first label of three dots is left out. -/
def withoutDots (currentIndex : Nat) (splits : List Bytes) : Nat × List Bytes :=
  if 1 < splits.length ∧ splits.head? = some [dot, dot, dot] then
    (currentIndex + 3 + 1, splits.tail)
  else (currentIndex, splits)

/-- The loop that draws the places of the cuts. -/
def splitIndexes (draws : Nat → Nat) : Nat → Nat → List Bytes → Checked Err (List Nat)
  | _, _, [] => .ok []
  | i, currentIndex, label :: splits =>
    -- `rand.Intn` panics if its argument is not positive
    if label.length = 0 then .error .panicked
    else do
      let later ← splitIndexes draws (i + 1)
        (currentIndex + label.length + if splits.isEmpty then 0 else 1) splits
      .ok ((currentIndex + draws i % label.length) :: later)

/-- The piece between two cuts; the first and the last piece have one cut. -/
def payloadBetween (conn : Conn) (b spare : Bytes) (previous next : Option Nat) :
    Checked Err Bytes :=
  match previous, next with
  | none, some high => do
    let payload ← slice (b ++ spare) 0 high
    if conn.splitRecord then sliceFrom payload recordLayerHeaderLen else .ok payload
  | some low, none => sliceFrom b low
  | some low, some high => slice (b ++ spare) low high
  | none, none => .error .panicked

/-- What a round does with its piece: the buffer, and the bytes that were written. -/
def writePayload (conn : Conn) (transport : Transport) (b : Bytes) (i : Nat) (payload : Bytes)
    (done : Bytes × List Bytes) : Checked Err (Bytes × List Bytes) :=
  let buffer :=
    if conn.splitRecord then
      (if conn.splitPacket then [] else done.1) ++ b.take 3 ++ Bytes.bigEndian 2 payload.length ++
        payload
    else done.1
  if conn.splitPacket then do
    transported (transport.write i)
    .ok (buffer, done.2 ++ [if conn.splitRecord then buffer else payload])
  else .ok (buffer, done.2)

def writePieces (conn : Conn) (transport : Transport) (b spare : Bytes) :
    Nat → Option Nat → List Nat → Bytes × List Bytes → Checked Err (Bytes × List Bytes)
  | i, previous, [], done => do
    let payload ← payloadBetween conn b spare previous none
    writePayload conn transport b i payload done
  | i, previous, next :: indexes, done => do
    let payload ← payloadBetween conn b spare previous (some next)
    let done ← writePayload conn transport b i payload done
    writePieces conn transport b spare (i + 1) (some next) indexes done

/-- The packet, cut at these indexes. -/
def writeIndexes (conn : Conn) (transport : Transport) (b spare : Bytes) (indexes : List Nat) :
    Checked Err (Nat × List Bytes) := do
  let (buffer, sent) ← writePieces conn transport b spare 0 none indexes ([], [])
  let whole := conn.splitRecord && !conn.splitPacket
  transported (if whole then transport.write 0 else .ok ())
  transported (if conn.tcpConn then transport.setNoDelay false else .ok ())
  .ok (b.length, if whole then sent ++ [buffer] else sent)

/-- The first packet with a server name. -/
def writeSplit (conn : Conn) (transport : Transport) (draws : Nat → Nat) (b spare : Bytes)
    (serverName : ServerName) : Checked Err (Nat × List Bytes) := do
  transported (if conn.splitPacket && conn.tcpConn then transport.setNoDelay true else .ok ())
  let splits ← trimmed publicSuffix serverName.serverName
  let (currentIndex, splits) := withoutDots serverName.index splits
  let indexes ← splitIndexes draws 0 currentIndex splits
  writeIndexes conn transport b spare indexes

/-- `Write`: the number it returns, and the bytes that it wrote, call by call. -/
def write (conn : Conn) (transport : Transport) (draws : Nat → Nat) (b spare : Bytes) :
    Checked Err (Nat × List Bytes) := do
  let serverName ← if conn.firstPacketWritten then .ok none else indexTLSServerName b
  match serverName with
  | some serverName => writeSplit publicSuffix conn transport draws b spare serverName
  | none => do
    transported (transport.write 0)
    .ok (b.length, [b])

end

/-! ## Labels -/

theorem split_ne_nil (text : Bytes) : split text ≠ [] := by
  cases text with
  | nil => simp [split]
  | cons =>
    rw [split]
    split
    · simp
    · split <;> simp

theorem length_split (text : Bytes) : (split text).length = text.count dot + 1 := by
  induction text with
  | nil => rfl
  | cons _ rest induction =>
    rw [split]
    split
    · next isDot => simp [isDot, induction]
    next notDot =>
    rw [count_cons_of_ne notDot]
    cases isSplit : split rest with
    | nil => exact absurd isSplit (split_ne_nil rest)
    | cons =>
      rw [isSplit] at induction
      simpa using induction

theorem dot_notMem_split {text label : Bytes} (member : label ∈ split text) : dot ∉ label := by
  induction text generalizing label with
  | nil =>
    rw [split, mem_singleton] at member
    simp [member]
  | cons _ rest induction =>
    rw [split] at member
    split at member
    · rcases mem_cons.mp member with rfl | later
      · simp
      · exact induction later
    · next notDot =>
      cases isSplit : split rest with
      | nil => exact absurd isSplit (split_ne_nil rest)
      | cons =>
        rw [isSplit] at member induction
        rcases mem_cons.mp member with rfl | later
        · intro isMember
          rcases mem_cons.mp isMember with isDot | inFirst
          · exact notDot isDot.symm
          · exact induction (mem_cons_self ..) inFirst
        · exact induction (mem_cons_of_mem _ later)

/-- The labels in which the packet is cut: the first one if there is a public
suffix, and otherwise all of them. -/
def usedLabels (publicSuffix : Bytes → Bytes) (serverName : Bytes) : List Bytes :=
  if publicSuffix serverName ≠ [] then (split serverName).take 1 else split serverName

variable {publicSuffix : Bytes → Bytes} {labels : List Bytes} {draws : Nat → Nat}
  {conn : Conn} {transport : Transport} {b spare : Bytes} {indexes : List Nat} {low : Nat}

theorem trimmed_eq (publicSuffix : Bytes → Bytes) (serverName : Bytes) :
    trimmed publicSuffix serverName = .ok (usedLabels publicSuffix serverName) := by
  rw [trimmed, usedLabels]
  split
  · rw [if_neg (by rw [length_split]; omega), length_split, Nat.add_sub_cancel_left]
  · rfl

theorem usedLabels_ne_nil (publicSuffix : Bytes → Bytes) (serverName : Bytes) :
    usedLabels publicSuffix serverName ≠ [] := by
  rw [usedLabels]
  cases isSplit : split serverName with
  | nil => exact absurd isSplit (split_ne_nil serverName)
  | cons => split <;> simp

theorem withoutDots_used (publicSuffix : Bytes → Bytes) (currentIndex : Nat) (serverName : Bytes) :
    withoutDots currentIndex (usedLabels publicSuffix serverName) =
      (currentIndex, usedLabels publicSuffix serverName) := by
  rw [withoutDots, if_neg]
  rintro ⟨-, isDots⟩
  have member := mem_of_mem_head? isDots
  rw [usedLabels] at member
  split at member
  · exact dot_notMem_split (mem_of_mem_take member) (mem_cons_self ..)
  · exact dot_notMem_split member (mem_cons_self ..)

/-! ## Cuts -/

def joinedLength (labels : List Bytes) : Nat :=
  (labels.map length).sum + (labels.length - 1)

/-- Numbers from `low` up to below `high`, none below the one before it. -/
def Between (low high : Nat) : List Nat → Prop
  | [] => True
  | first :: rest => low ≤ first ∧ first < high ∧ Between first high rest

theorem Between.mono {lower high higher : Nat} (between : Between low high indexes)
    (isLower : lower ≤ low) (isHigher : high ≤ higher) : Between lower higher indexes := by
  induction indexes generalizing low lower with
  | nil => trivial
  | cons first rest induction =>
    rcases between with ⟨isLow, isHigh, between⟩
    exact ⟨by omega, by omega, induction between (le_refl _)⟩

theorem Between.le_of_mem {high index : Nat} (between : Between low high indexes)
    (member : index ∈ indexes) : low ≤ index ∧ index < high := by
  induction indexes generalizing low with
  | nil => cases member
  | cons _ _ induction =>
    rcases between with ⟨isLow, isHigh, between⟩
    rcases mem_cons.mp member with rfl | later
    · exact ⟨isLow, isHigh⟩
    · exact ⟨isLow.trans (induction between later).1, (induction between later).2⟩

theorem joinedLength_cons {label : Bytes} (isSome : labels ≠ []) :
    joinedLength (label :: labels) = label.length + 1 + joinedLength labels := by
  have positive := length_pos_iff.mpr isSome
  simp only [joinedLength, map_cons, sum_cons, length_cons]
  omega

theorem exists_splitIndexes (draws : Nat → Nat) (i currentIndex : Nat)
    (full : ∀ label ∈ labels, label ≠ []) :
    ∃ indexes, splitIndexes draws i currentIndex labels = .ok indexes ∧
      indexes.length = labels.length ∧ indexes.Pairwise (· < ·) ∧
      Between currentIndex (currentIndex + joinedLength labels) indexes := by
  induction labels generalizing i currentIndex with
  | nil => exact ⟨[], rfl, rfl, .nil, trivial⟩
  | cons label labels induction =>
    have isFull := length_pos_iff.mpr (full label (mem_cons_self ..))
    have drawn := mod_lt (draws i) isFull
    rcases induction (i + 1) (currentIndex + label.length + if labels.isEmpty then 0 else 1)
      (forall_mem_cons.mp full).2 with
      ⟨later, isLater, isLength, ascending, between⟩
    refine ⟨(currentIndex + draws i % label.length) :: later, ?_, ?_, .cons ?_ ascending, ?_⟩
    · rw [splitIndexes, if_neg (by omega), isLater]
      rfl
    · rw [length_cons, isLength, length_cons]
    · intro index member
      have isAbove := (between.le_of_mem member).1
      omega
    · cases labels with
      | nil =>
        rw [length_eq_zero_iff.mp isLength]
        refine ⟨Nat.le_add_right .., ?_, trivial⟩
        simp only [joinedLength, map_cons, map_nil, sum_cons, sum_nil]
        omega
      | cons next labels =>
        rw [joinedLength_cons (cons_ne_nil next labels)]
        simp only [isEmpty_cons, Bool.false_eq_true, if_false] at between
        refine ⟨Nat.le_add_right .., by omega, between.mono (by omega) (by omega)⟩

theorem splitIndexes_panicked (draws : Nat → Nat) (i currentIndex : Nat) (isEmpty : [] ∈ labels) :
    splitIndexes draws i currentIndex labels = .error .panicked := by
  induction labels generalizing i currentIndex with
  | nil => cases isEmpty
  | cons _ _ induction =>
    rw [splitIndexes]
    split
    · rfl
    next isFull =>
    rcases mem_cons.mp isEmpty with rfl | later
    · exact absurd rfl isFull
    · rw [induction _ _ later]
      rfl

theorem splitIndexes_last (full : ∀ label ∈ labels, label ≠ []) (isSome : labels ≠ [])
    (i currentIndex : Nat) (areLast : ∀ k, draws (i + k) = (labels.getD k []).length - 1) :
    ∃ indexes, splitIndexes draws i currentIndex labels = .ok indexes ∧
      indexes.getLast? = some (currentIndex + joinedLength labels - 1) := by
  induction labels generalizing i currentIndex with
  | nil => exact absurd rfl isSome
  | cons label labels induction =>
    have isFull := length_pos_iff.mpr (full label (mem_cons_self ..))
    have isDrawn : draws i % label.length = label.length - 1 := by
      have isLast := areLast 0
      rw [add_zero, getD_cons_zero] at isLast
      rw [isLast]
      exact mod_eq_of_lt (by omega)
    rw [splitIndexes, if_neg (by omega), isDrawn]
    by_cases isEnd : labels = []
    · subst isEnd
      refine ⟨_, rfl, ?_⟩
      simp only [joinedLength, getLast?_singleton, map_cons, map_nil,
        sum_cons, sum_nil, length_cons, length_nil, some.injEq]
      omega
    · have isMore : labels.isEmpty = false := by simpa using isEnd
      have areLater : ∀ k, draws (i + 1 + k) = (labels.getD k []).length - 1 := by
        intro k
        have isLast := areLast (k + 1)
        rwa [getD_cons_succ, ← add_assoc, add_right_comm] at isLast
      rcases induction (forall_mem_cons.mp full).2 isEnd
        (i + 1) (currentIndex + label.length + 1) areLater with ⟨later, isLater, isLast⟩
      rw [isMore, if_neg Bool.false_ne_true, isLater]
      refine ⟨_, rfl, ?_⟩
      rw [getLast?_cons, isLast, getD_some, joinedLength_cons isEnd, some.injEq]
      omega

/-! ## Pieces -/

theorem safe_transported (result : Except Err Unit) : (transported result).Safe := by
  cases result with
  | ok => exact safe_ok _
  | error err => exact safe_returned err

theorem safe_writePayload (conn : Conn) (transport : Transport) (b : Bytes) (i : Nat)
    (payload : Bytes) (done : Bytes × List Bytes) :
    (writePayload conn transport b i payload done).Safe := by
  rw [writePayload]
  split
  · apply (safe_transported _).bind
    intro _ _
    exact safe_ok _
  · exact safe_ok _

theorem safe_writePieces (i : Nat) (done : Bytes × List Bytes) (isLow : low ≤ b.length)
    (between : Between low (b.length + 1) indexes) :
    (writePieces conn transport b spare i (some low) indexes done).Safe := by
  induction indexes generalizing i low done with
  | nil =>
    rw [writePieces, payloadBetween, sliceFrom_bind isLow]
    exact safe_writePayload _ _ _ _ _ _
  | cons next indexes induction =>
    rcases between with ⟨isNext, isInside, between⟩
    rw [writePieces, payloadBetween, slice_bind (by omega) (by rw [length_append]; omega)]
    apply Safe.bind (safe_writePayload _ _ _ _ _ _)
    intro done _
    exact induction _ _ (by omega) between

/-- Where the first piece begins. -/
def Conn.start (conn : Conn) : Nat := if conn.splitRecord then recordLayerHeaderLen else 0

theorem writePieces_first {first : Nat} (i : Nat) (done : Bytes × List Bytes)
    (isHeader : recordLayerHeaderLen ≤ first) (isInside : first ≤ b.length) :
    writePieces conn transport b spare i none (first :: indexes) done =
      writePieces conn transport b spare i (some conn.start) (first :: indexes) done := by
  have isSlice (low : Nat) (isLow : low ≤ first) :
      (slice (b ++ spare) low first : Checked Err Bytes) =
        .ok (((b ++ spare).take first).drop low) := by
    rw [slice, if_pos]
    rw [length_append]
    omega
  have isPayload : payloadBetween conn b spare none (some first) =
      payloadBetween conn b spare (some conn.start) (some first) := by
    rw [payloadBetween, payloadBetween, Conn.start, isSlice 0 (zero_le _), ok_bind, drop_zero]
    split
    · rw [isSlice _ isHeader, sliceFrom, if_pos]
      rw [length_take, length_append]
      omega
    · rw [isSlice 0 (zero_le _), drop_zero]
  rw [writePieces, isPayload]
  rfl

theorem Conn.start_le (conn : Conn) : conn.start ≤ recordLayerHeaderLen := by
  rw [start]
  split <;> simp

def Transport.silent : Transport where
  setNoDelay _ := .ok ()
  write _ := .ok ()

theorem payloadBetween_cases (conn : Conn) (b spare : Bytes) (previous next : Option Nat) :
    (∃ payload, payloadBetween conn b spare previous next = .ok payload) ∨
      payloadBetween conn b spare previous next = .error .panicked := by
  unfold payloadBetween
  split
  · rw [slice]
    split
    · rw [ok_bind]
      split
      · rw [sliceFrom]
        split
        · exact .inl ⟨_, rfl⟩
        · exact .inr rfl
      · exact .inl ⟨_, rfl⟩
    · exact .inr rfl
  · rw [sliceFrom]
    split
    · exact .inl ⟨_, rfl⟩
    · exact .inr rfl
  · rw [slice]
    split
    · exact .inl ⟨_, rfl⟩
    · exact .inr rfl
  · exact .inr rfl

/-- The last piece begins behind the end of the packet. -/
theorem writePieces_panicked {previous : Option Nat} {last : Nat} (i : Nat)
    (done : Bytes × List Bytes) (isLast : (indexes.getLast?.or previous) = some last)
    (isOutside : b.length < last) :
    writePieces conn .silent b spare i previous indexes done = .error .panicked := by
  induction indexes generalizing i previous done with
  | nil =>
    rw [getLast?_nil, none_or] at isLast
    rw [writePieces, isLast, payloadBetween, sliceFrom, if_neg (by omega)]
    rfl
  | cons next indexes induction =>
    rw [writePieces]
    rcases payloadBetween_cases conn b spare previous (some next) with
      ⟨payload, isPayload⟩ | isPanicked
    · have writes : ∃ after, writePayload conn .silent b i payload done = .ok after := by
        rw [writePayload]
        split <;> exact ⟨_, rfl⟩
      rcases writes with ⟨_, isWritten⟩
      rw [isPayload, ok_bind, isWritten, ok_bind]
      apply induction
      rw [getLast?_cons] at isLast
      rw [← isLast]
      cases indexes.getLast? <;> rfl
    · rw [isPanicked]
      rfl

/-! ## The first packet -/

/-- The server name that is found can be cut: the labels in which the packet is
cut are not empty, and they do not go beyond the end of the packet. -/
def Fragmentable (publicSuffix : Bytes → Bytes) (b : Bytes) : Prop :=
  ∀ serverName, indexTLSServerName b = .ok (some serverName) →
    (∀ label ∈ usedLabels publicSuffix serverName.serverName, label ≠ []) ∧
      serverName.index + joinedLength (usedLabels publicSuffix serverName.serverName) ≤
        b.length + 1

variable {serverName : ServerName}

theorem writeSplit_eq (conn : Conn) (transport : Transport) (draws : Nat → Nat)
    (b spare : Bytes) (serverName : ServerName) :
    writeSplit publicSuffix conn transport draws b spare serverName = (do
      transported (if conn.splitPacket && conn.tcpConn then transport.setNoDelay true else .ok ())
      let indexes ← splitIndexes draws 0 serverName.index
        (usedLabels publicSuffix serverName.serverName)
      writeIndexes conn transport b spare indexes) := by
  rw [writeSplit, trimmed_eq]
  simp only [ok_bind, withoutDots_used]

theorem safe_writeSplit (isHeader : recordLayerHeaderLen ≤ serverName.index)
    (full : ∀ label ∈ usedLabels publicSuffix serverName.serverName, label ≠ [])
    (isInside : serverName.index + joinedLength (usedLabels publicSuffix serverName.serverName) ≤
      b.length + 1) :
    (writeSplit publicSuffix conn transport draws b spare serverName).Safe := by
  rw [writeSplit_eq]
  apply (safe_transported _).bind
  intro _ _
  rcases exists_splitIndexes draws 0 serverName.index full with
    ⟨indexes, isSplit, isLength, -, between⟩
  rw [isSplit, ok_bind, writeIndexes]
  apply Safe.bind
  · cases indexes with
    | nil =>
      have isNone := length_eq_zero_iff.mp isLength.symm
      exact absurd isNone (usedLabels_ne_nil publicSuffix serverName.serverName)
    | cons first indexes =>
      have isFirst := between.le_of_mem mem_cons_self
      have isStart := conn.start_le
      rw [writePieces_first _ _ (isHeader.trans isFirst.1) (by omega)]
      exact safe_writePieces _ _ (by omega) (between.mono (by omega) isInside)
  · intro _ _
    apply (safe_transported _).bind
    intro _ _
    apply (safe_transported _).bind
    intro _ _
    exact safe_ok _

theorem writeSplit_silent (conn : Conn) (draws : Nat → Nat) (b spare : Bytes)
    (serverName : ServerName) :
    writeSplit publicSuffix conn .silent draws b spare serverName = (do
      let indexes ← splitIndexes draws 0 serverName.index
        (usedLabels publicSuffix serverName.serverName)
      let (buffer, sent) ← writePieces conn .silent b spare 0 none indexes ([], [])
      .ok (b.length,
        if conn.splitRecord && !conn.splitPacket then sent ++ [buffer] else sent)) := by
  have noDelay (flag value : Bool) :
      transported (if flag then Transport.silent.setNoDelay value else .ok ()) = .ok () := by
    cases flag <;> rfl
  have noWrite (flag : Bool) :
      transported (if flag then Transport.silent.write 0 else .ok ()) = .ok () := by
    cases flag <;> rfl
  rw [writeSplit_eq, noDelay, ok_bind]
  simp only [writeIndexes, noDelay, noWrite, ok_bind]

theorem write_panicked (isFirst : conn.firstPacketWritten = false)
    (isFound : indexTLSServerName b = .ok (some serverName))
    (isEmpty : [] ∈ usedLabels publicSuffix serverName.serverName) :
    write publicSuffix conn .silent draws b spare = .error .panicked := by
  rw [write, isFirst, if_neg Bool.false_ne_true, isFound, ok_bind]
  dsimp only
  rw [writeSplit_silent, splitIndexes_panicked _ _ _ isEmpty]
  rfl

/-- The first packet is written without a panic, whatever the transport does and
whatever is drawn, exactly if its server name can be cut. -/
theorem write_safe_iff (publicSuffix : Bytes → Bytes) (splitPacket splitRecord tcpConn : Bool)
    (b spare : Bytes) :
    (∀ transport draws, (write publicSuffix
        { splitPacket := splitPacket, splitRecord := splitRecord, tcpConn := tcpConn }
        transport draws b spare).Safe) ↔ Fragmentable publicSuffix b := by
  constructor
  · intro safe serverName isFound
    have full : ∀ label ∈ usedLabels publicSuffix serverName.serverName, label ≠ [] := by
      rintro _ member rfl
      exact safe .silent (fun _ => 0) (write_panicked rfl isFound member)
    refine ⟨full, not_lt.mp ?_⟩
    intro isOutside
    let draws := fun k => ((usedLabels publicSuffix serverName.serverName).getD k []).length - 1
    have areLast : ∀ k, draws (0 + k) =
        ((usedLabels publicSuffix serverName.serverName).getD k []).length - 1 := by
      intro _
      rw [zero_add]
    rcases splitIndexes_last full (usedLabels_ne_nil publicSuffix serverName.serverName) 0
      serverName.index areLast with ⟨_, isSplit, isLast⟩
    apply safe .silent draws
    rw [write, if_neg Bool.false_ne_true, isFound, ok_bind]
    dsimp only
    rw [writeSplit_silent, isSplit, ok_bind,
      writePieces_panicked _ _ _ (lt_sub_of_add_lt isOutside)]
    · rfl
    · rw [isLast, some_or]
  · intro fragmentable _ _
    rw [write, if_neg Bool.false_ne_true]
    apply (finds_indexTLSServerName b).safe.bind
    intro found isFound
    cases found with
    | none =>
      apply (safe_transported _).bind
      intro _ _
      exact safe_ok _
    | some serverName =>
      rcases fragmentable serverName isFound with ⟨full, isInside⟩
      have finds := finds_indexTLSServerName b
      rw [isFound] at finds
      exact safe_writeSplit (le_of_add_left_le finds.1) full isInside

/-- A client hello whose only extension is a server name of no bytes. -/
def emptyNameHello : Bytes :=
  [22, 3, 1, 0, 56, 1, 0, 0, 52, 3, 3] ++ replicate 32 0 ++
    [0, 0, 2, 0x13, 1, 1, 0, 0, 9, 0, 0, 0, 5, 0, 3, 0, 0, 0]

theorem emptyNameHello_panics :
    indexTLSServerName emptyNameHello =
        .ok (some { index := 61, length := 0, serverName := []
                    extensionsListLengthIndex := 50 }) ∧
      ∀ publicSuffix splitPacket splitRecord tcpConn draws spare,
        write publicSuffix
            { splitPacket := splitPacket, splitRecord := splitRecord, tcpConn := tcpConn } .silent
            draws emptyNameHello spare = .error .panicked := by
  have isFound : indexTLSServerName emptyNameHello =
      .ok (some { index := 61, length := 0, serverName := []
                  extensionsListLengthIndex := 50 }) := by
    decide +kernel
  refine ⟨isFound, ?_⟩
  intro publicSuffix _ _ _ _ _
  apply write_panicked rfl isFound
  rw [usedLabels, split]
  split <;> simp

end SingBox.TlsFragment
