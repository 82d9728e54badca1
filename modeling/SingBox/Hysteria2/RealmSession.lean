import SingBox.Foundation.FiniteMap
import SingBox.Foundation.Run

/-! # Connect attempts of a realm session

A connect attempt registers a channel under its nonce, waits for the response and
in the end removes the entry of its nonce, also if the response has done so
already. Each of these is one critical section.
-/

namespace SingBox.Hysteria2

open Option Function

/-- A call of `handleConnect` from `registerPending` to `cancelPending`, with the
addresses in its channel. -/
structure Attempt where
  nonce : String
  response : Option (List String) := none

/-- `realmSession`, and the attempts that have not ended. An entry of `pending` is
the channel of an attempt. -/
structure RealmSession where
  closed : Bool := false
  pending : FiniteMap String Nat := ∅
  attempts : Nat → Option Attempt := fun _ => none

def maxPendingAttempts : Nat := 16

inductive Action
  | connect (id : Nat) (nonce : String)
  | respond (nonce : String) (addresses : List String)
  /-- The attempt ends, for whatever reason. -/
  | finish (id : Nat)
  | close

namespace RealmSession

variable (session : RealmSession)

/-- `registerPending`: none if the attempt is refused. -/
def registerPending (id : Nat) (nonce : String) : Option RealmSession :=
  if session.closed || maxPendingAttempts ≤ session.pending.entries.length then none
  else if (session.pending.lookup nonce).isSome then none
  else
    some
      { session with
        pending := session.pending.insert nonce id
        attempts := update session.attempts id (some { nonce := nonce }) }

/-- `deliverPending`: none is answered by `attempt_not_found`. A channel holds one
response. -/
def deliverPending (nonce : String) (addresses : List String) : Option RealmSession :=
  if session.closed then none
  else
    (session.pending.lookup nonce).map fun id =>
      { session with
        pending := session.pending.erase nonce
        attempts := update session.attempts id ((session.attempts id).map fun attempt =>
          { attempt with response := attempt.response.or addresses }) }

def cancelPending (nonce : String) : RealmSession :=
  { session with pending := session.pending.erase nonce }

/-- A critical section, if it can come next. -/
def step : Action → Option RealmSession
  | .connect id nonce =>
    if (session.attempts id).isSome then none
    else (session.registerPending id nonce).getD session
  | .respond nonce addresses => (session.deliverPending nonce addresses).getD session
  | .finish id =>
    (session.attempts id).map fun attempt =>
      { session.cancelPending attempt.nonce with
        attempts := update session.attempts id none }
  | .close => some { session with closed := true, pending := ∅ }

def Waiting (id : Nat) (nonce : String) : Prop :=
  session.closed = false ∧ session.attempts id = some { nonce := nonce }

/-- The end of an attempt leaves the entries of the others alone, and a response
goes to the attempt that is registered, or else no attempt waits for it. -/
def Undisturbed (after : RealmSession) : Action → Prop
  | .finish id => ∀ nonce other, other ≠ id → session.pending.lookup nonce = some other →
    after.pending.lookup nonce = some other
  | .respond nonce addresses =>
    if (session.deliverPending nonce addresses).isSome then
      ∃ id ∈ session.pending.lookup nonce, after.attempts id = some ⟨nonce, addresses⟩
    else ∀ id, ¬session.Waiting id nonce
  | _ => True

/-- A nonce is registered again only when the attempt with it has ended. -/
def Allowed : Action → Prop
  | .connect id nonce => (session.registerPending id nonce).isSome →
    ∀ {other attempt}, session.attempts other = some attempt → attempt.nonce ≠ nonce
  | _ => True

structure Kept : Prop where
  entry : ∀ {nonce id}, session.pending.lookup nonce = some id →
    session.attempts id = some { nonce := nonce }
  waiting : ∀ {nonce id}, session.Waiting id nonce → session.pending.lookup nonce = some id
  distinct : ∀ {id other attempt second}, session.attempts id = some attempt →
    session.attempts other = some second → attempt.nonce = second.nonce → id = other

variable {session} {after : RealmSession} {action : Action}

theorem Kept.step (kept : session.Kept) (isAllowed : session.Allowed action)
    (isStep : session.step action = some after) : after.Kept := by
  have ⟨entry, waiting, distinct⟩ := kept
  cases action with
  | connect id nonce =>
    rw [Allowed, registerPending] at isAllowed
    rw [RealmSession.step, registerPending] at isStep
    split_ifs at isStep isAllowed <;> cases isStep
    · exact kept
    · exact kept
    · have isFresh := @isAllowed rfl
      rw [getD_some]
      constructor <;> simp only [FiniteMap.lookup_insert] <;>
        grind [Waiting]
  | respond nonce addresses =>
    rw [RealmSession.step, deliverPending] at isStep
    split_ifs at isStep
    · cases isStep
      exact kept
    · cases isEntry : session.pending.lookup nonce <;>
        simp only [isEntry, Option.map, Option.getD, Option.some.injEq] at isStep <;> subst isStep
      · exact kept
      · constructor <;> simp only [FiniteMap.lookup_erase] <;>
          grind [Waiting]
  | finish id =>
    rcases map_eq_some_iff.mp isStep with ⟨attempt, isLive, rfl⟩
    constructor <;>
      simp only [cancelPending, FiniteMap.lookup_erase] <;>
      grind [Waiting]
  | close =>
    cases isStep
    exact ⟨by simp, by simp [Waiting], distinct⟩

theorem Kept.undisturbed (kept : session.Kept) (isStep : session.step action = some after) :
    session.Undisturbed after action := by
  cases action with
  | respond nonce addresses =>
    cases isStep
    rw [Undisturbed, deliverPending]
    by_cases isClosed : session.closed = true
    · simp [isClosed, Waiting]
    cases isEntry : session.pending.lookup nonce with
    | none =>
      simp only [isClosed, Bool.false_eq_true, if_false, map_none]
      intro id isWaiting
      cases isEntry.symm.trans (kept.waiting isWaiting)
    | some id => simp [isClosed, kept.entry isEntry]
  | finish id =>
    rcases map_eq_some_iff.mp isStep with ⟨attempt, isLive, rfl⟩
    intro nonce other different isEntry
    simp only [cancelPending, FiniteMap.lookup_erase]
    grind [kept.entry isEntry, kept.distinct]
  | _ => trivial

def AllowedStep (before : RealmSession) (action : Action) (after : RealmSession) : Prop :=
  before.step action = some after ∧ before.Allowed action

theorem undisturbed_of_allowed {actions : List Action} (run : Run AllowedStep {} actions session)
    (isStep : session.step action = some after) : session.Undisturbed after action := by
  have kept : session.Kept := run.preserves ⟨by simp, by simp [Waiting], by simp⟩
    fun kept isStep => kept.step isStep.2 isStep.1
  exact kept.undisturbed isStep

theorem undisturbed_answered :
    ∃ session after, session.attempts 0 = some ⟨"n", ["a"]⟩ ∧
      Undisturbed session after (.finish 0) := by
  have run : Run AllowedStep {} ([] ++ [.connect 0 "n"] ++ [.respond "n" ["a"]]) _ :=
    .extend (.extend .start ⟨rfl, by simp [Allowed]⟩) ⟨rfl, trivial⟩
  exact ⟨_, _, rfl, undisturbed_of_allowed run rfl⟩

/-- An attempt that was answered removes the entry of the next one with its nonce. -/
theorem finish_removes_entry :
    ∃ session after, Run.execute step {}
        [.connect 0 "n", .respond "n" ["a"], .connect 1 "n"] = some session ∧
      session.step (.finish 0) = some after ∧ ¬session.Undisturbed after (.finish 0) := by
  refine ⟨_, _, rfl, rfl, fun undisturbed => ?_⟩
  cases undisturbed "n" 1 (by decide) rfl

end RealmSession

end SingBox.Hysteria2
