import Mathlib.Data.List.Basic

/-! # Close handlers

`NewConnection` and `NewPacketConnection` dial, report the success and start two
copies, one for each direction, which share the flag `done`. The stream copies
call the handler if the flag was set before, the packet copies if it was not.
Every step is a function on the flag and on the log of what was called.
-/

namespace SingBox.Routing.ConnectionManager

open List

inductive Event
  | onClose
  | closeInbound
  | closeOutbound
  deriving DecidableEq

structure Progress where
  done : Bool := false
  events : List Event := []

abbrev AtomicStep := Progress → Progress

def emit (events : List Event) : AtomicStep := fun progress =>
  { progress with events := progress.events ++ events }

variable (direction : Bool)

/-- `common.Close(source, destination)`; the direction is false for an upload. -/
def closeBoth : List Event :=
  if direction then [.closeOutbound, .closeInbound] else [.closeInbound, .closeOutbound]

def closeDestination : Event :=
  if direction then .closeInbound else .closeOutbound

/-- `N.CloseOnHandshakeFailure` of the library `sing`, for the inbound connection. -/
def closeOnHandshakeFailure : List Event := [.closeInbound, .onClose]

/-- `done.Swap(true)`, and what is done if the flag had this value. -/
def swapDone (wanted : Bool) (events : List Event) : AtomicStep := fun progress =>
  { emit (if progress.done = wanted then events else []) progress with done := true }

/-- How the copying of a stream ends; `closeWrite` is none if the destination has
no `CloseWrite`, and whether it fails otherwise. -/
structure CopyEnd where
  failed : Bool
  closeWrite : Option Bool

def CopyEnd.events (copyEnd : CopyEnd) (direction : Bool) : List Event :=
  if copyEnd.failed then closeBoth direction
  else
    match copyEnd.closeWrite with
    | none => [closeDestination direction]
    | some true => closeBoth direction
    | some false => []

def connectionCopy (copyEnd : CopyEnd) : List AtomicStep :=
  [emit (copyEnd.events direction), swapDone true (.onClose :: closeBoth direction)]

def packetConnectionCopy : List AtomicStep :=
  [swapDone false [.onClose], emit (closeBoth direction)]

/-- What the write of a handshake does: whether the error, if any, is one of those
that are passed over unless cached data was written. -/
structure Handshake where
  needed : Bool
  cached : Bool
  err : Option Bool

/-- None if the connection is not given up. -/
def kickWriteHandshake (handshake : Handshake) (serverFirst direction : Bool)
    (progress : Progress) : Option Progress :=
  let wrotePayload := !serverFirst && handshake.cached
  if handshake.needed && handshake.err.any fun tolerated => wrotePayload || !tolerated then
    some (emit (closeBoth direction) (swapDone false [.onClose] progress))
  else none

/-- A call, with what the functions it calls return. -/
inductive Call
  | stream (dialed reported spoofed serverFirst : Bool) (upload download : Handshake)
      (uploadEnd downloadEnd : CopyEnd)
  | packet (dialed reported : Bool)

/-- The steps of two goroutines, in the order that the schedule says. -/
def interleave : List Bool → List AtomicStep → List AtomicStep → List AtomicStep
  | _, [], second => second
  | _, first, [] => first
  | true :: schedule, step :: first, second | false :: schedule, first, step :: second =>
    step :: interleave schedule first second
  | [], first, second => first ++ second

def runAll (steps : List AtomicStep) (progress : Progress) : Progress :=
  steps.foldl (fun progress step => step progress) progress

/-- `NewConnection` and `NewPacketConnection`, until both copies have ended. -/
def Call.run (schedule : List Bool) : Call → Progress
  | .stream dialed reported spoofed serverFirst upload download uploadEnd downloadEnd =>
    if !dialed then emit closeOnHandshakeFailure {}
    else if !reported || !spoofed then emit (.closeOutbound :: closeOnHandshakeFailure) {}
    else
      (kickWriteHandshake upload serverFirst false {}).getD <|
        (kickWriteHandshake download serverFirst true {}).getD <|
        runAll (interleave schedule (connectionCopy false uploadEnd)
          (connectionCopy true downloadEnd)) {}
  | .packet dialed reported =>
    if !dialed then emit closeOnHandshakeFailure {}
    else if !reported then emit [.closeInbound, .closeOutbound] {}
    else
      runAll (interleave schedule (packetConnectionCopy false) (packetConnectionCopy true)) {}

def Call.dialed : Call → Bool
  | .stream dialed .. => dialed
  | .packet dialed _ => dialed

/-- The handler is called once, and what is open is closed. -/
def Call.ClosedOnce (call : Call) (progress : Progress) : Prop :=
  progress.events.count .onClose = 1 ∧ .closeInbound ∈ progress.events ∧
    (call.dialed = true → .closeOutbound ∈ progress.events)

theorem interleave_pairs (schedule : List Bool) (a b c d : AtomicStep) :
    interleave schedule [a, b] [c, d] ∈
      [[a, b, c, d], [a, c, b, d], [a, c, d, b], [c, a, b, d], [c, a, d, b], [c, d, a, b]] := by
  rcases schedule with _ | ⟨_ | _, _ | ⟨_ | _, _ | ⟨_ | _, _⟩⟩⟩ <;> simp [interleave]

theorem count_closeBoth : (closeBoth direction).count .onClose = 0 := by
  cases direction <;> rfl

theorem mem_closeBoth :
    .closeInbound ∈ closeBoth direction ∧ .closeOutbound ∈ closeBoth direction := by
  cases direction <;> simp [closeBoth]

theorem count_copyEnd (copyEnd : CopyEnd) (direction : Bool) :
    (copyEnd.events direction).count .onClose = 0 := by
  rcases copyEnd with ⟨_ | _, _ | _ | _⟩ <;> cases direction <;> rfl

theorem closed_once_iff (call : Call) (schedule : List Bool) :
    call.ClosedOnce (call.run schedule) ↔ call ≠ .packet true false := by
  cases call with
  | stream dialed reported spoofed serverFirst upload download uploadEnd downloadEnd =>
    have orders := interleave_pairs schedule (emit (uploadEnd.events false))
      (swapDone true (.onClose :: closeBoth false)) (emit (downloadEnd.events true))
      (swapDone true (.onClose :: closeBoth true))
    simp only [Call.ClosedOnce, Call.run, connectionCopy, kickWriteHandshake, Call.dialed]
    split_ifs
    · simp_all [emit, closeOnHandshakeFailure]
    · simp [emit, closeOnHandshakeFailure]
    · simp [emit, swapDone, count_closeBoth, mem_closeBoth]
    · simp [emit, swapDone, count_closeBoth, mem_closeBoth]
    · simp [emit, swapDone, count_closeBoth, mem_closeBoth]
    · simp only [mem_cons, not_mem_nil, or_false] at orders
      rcases orders with order | order | order | order | order | order <;>
        simp [order, runAll, emit, swapDone, count_closeBoth, mem_closeBoth, count_copyEnd]
  | packet dialed reported =>
    have orders := interleave_pairs schedule (swapDone false [.onClose]) (emit (closeBoth false))
      (swapDone false [.onClose]) (emit (closeBoth true))
    simp only [Call.ClosedOnce, Call.run, packetConnectionCopy, Call.dialed]
    split_ifs
    · simp_all [emit, closeOnHandshakeFailure]
    · simp_all [emit]
    · simp only [mem_cons, not_mem_nil] at orders
      rcases orders with order | order | order | order | order | order <;>
        simp_all [runAll, emit, swapDone, count_closeBoth, mem_closeBoth]

/-- The handler of a packet connection is lost if its success cannot be reported. -/
theorem unreported_packet_leaks :
    ((Call.packet true false).run []).events = [.closeInbound, .closeOutbound] ∧
      ¬Call.ClosedOnce (.packet true false) (Call.run [] (.packet true false)) := by
  simp [Call.run, Call.ClosedOnce, emit]

end SingBox.Routing.ConnectionManager
