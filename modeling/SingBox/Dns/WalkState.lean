import SingBox.Dns.Sequential
import SingBox.Foundation.Update

/-! # The state of a walk without race rules

The futures of a walk stand for evaluated exchanges, whether they have
completed or not: forgetting the completion gives the state of the sequential
reference. `Consistent` says how the maps of the walk follow from its futures;
it is kept by everything that launches, completes or settles a future.
-/

namespace SingBox.Dns

open Route Function List Option Bool

variable {router : Router} {state : WalkState}

namespace WalkState

def evaluated (state : WalkState) (future : Nat) : Option Evaluated :=
  state.futures[future]?.map fun future => ⟨future.transport, future.reply⟩

theorem settle_cases (state : WalkState) (position : Nat) :
    (state.settle position = state ∧ ∀ future, state.futures[position]? = some future →
      future.done = true → future.settled = true) ∨
    ∃ old responses transports, state.futures[position]? = some old ∧ old.done = true ∧
      state.settle position =
        { state with
          futures := state.futures.set position { old with settled := true }
          namedResponses := responses
          namedTransports := transports } ∧
      ((old.tag = "" ∧ responses = state.namedResponses ∧ transports = state.namedTransports) ∨
        old.tag ≠ "" ∧ responses = update state.namedResponses old.tag old.view ∧
          transports =
            update state.namedTransports old.tag (some old.transport)) := by
  unfold settle
  cases isFuture : state.futures[position]? with
  | none => exact .inl ⟨rfl, (fun _ isSome => by cases isSome)⟩
  | some future =>
    dsimp only
    split
    · next kept =>
      refine .inl ⟨rfl, ?_⟩
      intro other isOther isDone
      cases isOther
      simpa [isDone] using kept
    · next changes =>
      have isDone : future.done = true := by simp_all
      split
      · next noTag => exact .inr ⟨future, _, _, rfl, isDone, rfl, .inl ⟨noTag, rfl, rfl⟩⟩
      · next isTagged => exact .inr ⟨future, _, _, rfl, isDone, rfl, .inr ⟨isTagged, rfl, rfl⟩⟩

end WalkState

section

variable {exchange after : Exchange} {future : Nat}

theorem Exchange.complete_cases (completed : exchange.complete future = some after) :
    ∃ pending, exchange.state.futures[future]? = some pending ∧ pending.done = false ∧
      after =
        { exchange with
          state :=
            { exchange.state with
              futures := exchange.state.futures.set future { pending with done := true } } } := by
  unfold complete at completed
  split at completed
  · cases completed
  next pending isFuture =>
  split_ifs at completed with notDone
  exact ⟨pending, isFuture, eq_false_iff.mpr notDone, (some.inj completed).symm⟩

theorem Exchange.send_cases (sent : exchange.send future = some after) :
    ∃ finished, exchange.state.futures[future]? = some finished ∧ finished.done = true ∧
      finished.sent = false ∧
      after =
        { exchange with
          state :=
            { exchange.state with
              futures := exchange.state.futures.set future { finished with sent := true }
              wake := true } } := by
  unfold send at sent
  split at sent
  · cases sent
  next finished isFuture =>
  split at sent
  · next isFinished =>
    rw [and_eq_true, not_eq_true'] at isFinished
    exact ⟨finished, isFuture, isFinished.1, isFinished.2, (some.inj sent).symm⟩
  · cases sent

end

variable (exchange : Exchange)

/-- The state of the reference that an exchange under way stands for. -/
def Exchange.running : SequentialState where
  query := exchange.query
  ruleIndex := exchange.state.ruleIndex
  effectiveOptions := exchange.state.effectiveOptions
  anonymous := exchange.state.anonymousFuture.bind exchange.state.evaluated
  named tag := (exchange.state.namedFutures tag).bind exchange.state.evaluated
  launches := exchange.launches
  frames := exchange.frames

theorem Exchange.running_query :
    exchange.running.query = exchange.query := rfl

theorem Exchange.running_ruleIndex :
    exchange.running.ruleIndex = exchange.state.ruleIndex := rfl

theorem Exchange.running_effectiveOptions :
    exchange.running.effectiveOptions = exchange.state.effectiveOptions := rfl

def Exchange.sequential : Sequential :=
  match exchange.position with
  | .returned result => .returned result
  | _ => .running exchange.running

/-- The rule at this index evaluates the named response. -/
def Evaluates (router : Router) (index : Nat) (tag : String) : Prop :=
  ∃ rule server speculative options, router.rules[index]? = some rule ∧
    rule.action = some (.evaluate server tag speculative options)

structure Consistent (router : Router) (state : WalkState) : Prop where
  unarmed : state.armedRules = []
  noTerminal : state.terminalFuture = none
  anonymous : ∀ {index : Nat}, state.anonymousFuture = some index → index < state.futures.length
  named : ∀ {tag : String} {index : Nat}, state.namedFutures tag = some index →
    ∃ future, state.futures[index]? = some future ∧ future.tag = tag
  tagged : ∀ {index : Nat} {future : Future}, state.futures[index]? = some future →
    future.tag ≠ "" → state.namedFutures future.tag = some index
  settled : ∀ {index : Nat} {future : Future}, state.futures[index]? = some future →
    future.settled = true → future.done = true ∧ (future.tag ≠ "" →
      state.namedResponses future.tag = future.view ∧
        state.namedTransports future.tag = some future.transport)
  missing : ∀ {tag : String}, state.namedFutures tag = none → state.namedResponses tag = none
  earlier : ∀ {index : Nat} {future : Future}, state.futures[index]? = some future →
    future.tag ≠ "" → ∃ ruleIndex < state.ruleIndex, Evaluates router ruleIndex future.tag

namespace Consistent

theorem fresh (options : QueryOptions) :
    Consistent router { effectiveOptions := options } where
  unarmed := rfl
  noTerminal := rfl
  anonymous isFuture := by cases isFuture
  named isFuture := by cases isFuture
  tagged isFuture := by cases isFuture
  settled isFuture := by cases isFuture
  missing _ := rfl
  earlier isFuture := by cases isFuture

variable (consistent : Consistent router state)
include consistent

/-- The options, the token and a later rule do not matter. -/
theorem frame (options : QueryOptions) (wake : Bool) {ruleIndex : Nat}
    (later : state.ruleIndex ≤ ruleIndex) :
    Consistent router
      { state with effectiveOptions := options, wake := wake, ruleIndex := ruleIndex } where
  __ := consistent
  earlier isFuture isTagged := by
    rcases consistent.earlier isFuture isTagged with ⟨index, before, evaluates⟩
    exact ⟨index, Nat.lt_of_lt_of_le before later, evaluates⟩

theorem forgetAnonymous :
    Consistent router { state with anonymousFuture := none } where
  __ := consistent
  anonymous isFuture := by cases isFuture

variable {position : Nat} {new : Future}

theorem replace {old : Future} (new : Future)
    (isOld : state.futures[position]? = some old) (sameTag : new.tag = old.tag)
    {responses : String → Option Msg} {transports : String → Option Transport}
    (others : ∀ tag, state.namedFutures tag ≠ some position →
      responses tag = state.namedResponses tag ∧ transports tag = state.namedTransports tag)
    (recorded : new.settled = true → new.done = true ∧ (new.tag ≠ "" →
      responses new.tag = new.view ∧ transports new.tag = some new.transport)) :
    Consistent router
      { state with
        futures := state.futures.set position new
        namedResponses := responses
        namedTransports := transports } := by
  constructor
  case unarmed => exact consistent.unarmed
  case noTerminal => exact consistent.noTerminal
  case anonymous =>
    intro index isFuture
    simpa using consistent.anonymous isFuture
  case named =>
    intro tag index isNamed
    rcases consistent.named isNamed with ⟨future, isFuture, isTag⟩
    by_cases same : index = position
    · subst same
      cases isOld.symm.trans isFuture
      have fits := index_lt isOld
      exact ⟨new, getElem?_set_self fits, sameTag.trans isTag⟩
    · exact ⟨future, (getElem?_set_ne (Ne.symm same)).trans isFuture, isTag⟩
  case tagged =>
    intro index future isFuture isTagged
    rcases getElem?_set_cases isFuture with ⟨isIndex, isNew⟩ | ⟨_, isOther⟩
    · rw [isNew, sameTag] at isTagged ⊢
      rw [isIndex]
      exact consistent.tagged isOld isTagged
    · exact consistent.tagged isOther isTagged
  case settled =>
    intro index future isFuture isSettled
    rcases getElem?_set_cases isFuture with ⟨_, isNew⟩ | ⟨different, before⟩
    · rw [isNew] at isSettled ⊢
      exact recorded isSettled
    rcases consistent.settled before isSettled with ⟨isDone, wasRecorded⟩
    refine ⟨isDone, ?_⟩
    intro isTagged
    have ownIndex := consistent.tagged before isTagged
    have kept := others future.tag (by rw [ownIndex]; simpa using different)
    have wasRecorded := wasRecorded isTagged
    exact ⟨kept.1.trans wasRecorded.1, kept.2.trans wasRecorded.2⟩
  case missing =>
    intro tag isMissing
    have kept := others tag (by rw [isMissing]; simp)
    exact kept.1.trans (consistent.missing isMissing)
  case earlier =>
    intro _ _ isFuture isTagged
    rcases getElem?_set_cases isFuture with ⟨_, isNew⟩ | ⟨_, isOther⟩
    · rw [isNew, sameTag] at isTagged ⊢
      exact consistent.earlier isOld isTagged
    · exact consistent.earlier isOther isTagged

theorem complete {pending : Future}
    (isPending : state.futures[position]? = some pending) (notDone : pending.done = false) :
    Consistent router
      { state with futures := state.futures.set position { pending with done := true } } := by
  refine consistent.replace { pending with done := true } isPending rfl
    (fun _ _ => ⟨rfl, rfl⟩) ?_
  intro isSettled
  have wasDone := (consistent.settled isPending isSettled).1
  cases notDone.symm.trans wasDone

theorem send {finished : Future} (isFinished : state.futures[position]? = some finished) :
    Consistent router
      { state with
        futures := state.futures.set position { finished with sent := true }, wake := true } := by
  have recorded := fun isSettled => consistent.settled isFinished isSettled
  have replaced : Consistent router
      { state with futures := state.futures.set position { finished with sent := true } } :=
    consistent.replace { finished with sent := true } isFinished rfl (fun _ _ => ⟨rfl, rfl⟩)
      recorded
  exact replaced.frame state.effectiveOptions true (Nat.le_refl _)

theorem settle (position : Nat) : Consistent router (state.settle position) := by
  rcases state.settle_cases position with ⟨same, _⟩ |
    ⟨old, responses, transports, isOld, isDone, isState, recorded⟩
  · rw [same]
    exact consistent
  rw [isState]
  refine consistent.replace { old with settled := true } isOld rfl ?_ fun _ => ⟨isDone, ?_⟩
  · intro tag elsewhere
    rcases recorded with ⟨_, isResponses, isTransports⟩ | ⟨isTagged, isResponses, isTransports⟩
    · rw [isResponses, isTransports]
      exact ⟨rfl, rfl⟩
    have different : tag ≠ old.tag := by
      intro same
      rw [same] at elsewhere
      exact elsewhere (consistent.tagged isOld isTagged)
    rw [isResponses, isTransports]
    exact ⟨update_of_ne different _ _, update_of_ne different _ _⟩
  · intro isTagged
    rcases recorded with ⟨noTag, _⟩ | ⟨_, isResponses, isTransports⟩
    · exact absurd noTag isTagged
    · rw [isResponses, isTransports]
      exact ⟨update_self _ _ _, update_self _ _ _⟩

theorem launch (unsettled : new.settled = false)
    (evaluates : new.tag ≠ "" → Evaluates router state.ruleIndex new.tag) {anonymous : Option Nat}
    {named : String → Option Nat}
    (isAnonymous : ∀ index, anonymous = some index → index ≤ state.futures.length)
    (isNamed : ∀ tag index, named tag = some index →
      state.namedFutures tag = some index ∨ index = state.futures.length ∧ tag = new.tag)
    (kept : ∀ tag index, state.namedFutures tag = some index → named tag = some index)
    (own : new.tag ≠ "" → named new.tag = some state.futures.length) :
    Consistent router
      { state with
        futures := state.futures ++ [new]
        anonymousFuture := anonymous
        namedFutures := named
        ruleIndex := state.ruleIndex + 1 } := by
  constructor
  case unarmed => exact consistent.unarmed
  case noTerminal => exact consistent.noTerminal
  case anonymous =>
    intro index isFuture
    have bound := isAnonymous index isFuture
    simp only [length_append, length_singleton]
    omega
  case named =>
    intro tag index isFuture
    rcases isNamed tag index isFuture with before | ⟨isLast, isTag⟩
    · rcases consistent.named before with ⟨future, isFuture, isTag⟩
      refine ⟨future, ?_, isTag⟩
      exact (getElem?_append_left (index_lt isFuture)).trans isFuture
    · subst isLast isTag
      exact ⟨new, getElem?_concat_length, rfl⟩
  case tagged =>
    intro index future isFuture isTagged
    rcases getElem?_concat_cases isFuture with before | ⟨isLast, isNew⟩
    · exact kept _ _ (consistent.tagged before isTagged)
    · subst isLast isNew
      exact own isTagged
  case settled =>
    intro index future isFuture isSettled
    rcases getElem?_concat_cases isFuture with before | ⟨isLast, isNew⟩
    · exact consistent.settled before isSettled
    · rw [isNew, unsettled] at isSettled
      cases isSettled
  case missing =>
    intro tag isMissing
    apply consistent.missing
    cases isFuture : state.namedFutures tag with
    | none => rfl
    | some index =>
      have isKept := kept tag index isFuture
      rw [show named tag = none from isMissing] at isKept
      cases isKept
  case earlier =>
    intro _ _ isFuture isTagged
    rcases getElem?_concat_cases isFuture with before | ⟨_, isNew⟩
    · rcases consistent.earlier before isTagged with ⟨ruleIndex, isBefore, evaluates⟩
      exact ⟨ruleIndex, Nat.lt_succ_of_lt isBefore, evaluates⟩
    · subst isNew
      exact ⟨state.ruleIndex, Nat.lt_succ_self _, evaluates isTagged⟩

theorem fresh_tag (orderly : Orderly router) {tag : String} (isTagged : tag ≠ "")
    (evaluates : Evaluates router state.ruleIndex tag) : state.namedFutures tag = none := by
  cases isNamed : state.namedFutures tag with
  | none => rfl
  | some index =>
    rcases consistent.named isNamed with ⟨future, isFuture, rfl⟩
    rcases consistent.earlier isFuture isTagged with ⟨ruleIndex, before, earlier⟩
    rcases earlier with ⟨earlierRule, _, _, _, isEarlier, earlierAction⟩
    rcases evaluates with ⟨rule, _, _, _, isRule, action⟩
    have same := orderly.distinct isEarlier isRule earlierAction action isTagged
    omega

theorem launchAnonymous (unsettled : new.settled = false) (noTag : new.tag = "") :
    Consistent router
      { state with
        futures := state.futures ++ [new]
        anonymousFuture := some state.futures.length
        ruleIndex := state.ruleIndex + 1 } :=
  consistent.launch unsettled (fun isTagged => absurd noTag isTagged)
    (fun _ isFuture => (some.inj isFuture).symm.le)
    (fun _ _ isNamed => .inl isNamed) (fun _ _ isNamed => isNamed)
    fun isTagged => absurd noTag isTagged

theorem launchNamed (orderly : Orderly router) (new : Future) (unsettled : new.settled = false)
    (isTagged : new.tag ≠ "") (evaluates : Evaluates router state.ruleIndex new.tag) :
    Consistent router
      { state with
        futures := state.futures ++ [new]
        namedFutures :=
          update state.namedFutures new.tag (some state.futures.length)
        ruleIndex := state.ruleIndex + 1 } := by
  have isFresh := consistent.fresh_tag orderly isTagged evaluates
  refine consistent.launch unsettled (fun _ => evaluates)
    (fun index isFuture => (consistent.anonymous isFuture).le) ?_ ?_
    fun _ => update_self _ _ _
  · intro tag index isNamed
    by_cases same : tag = new.tag
    · subst same
      rw [update_self] at isNamed
      exact .inr ⟨(some.inj isNamed).symm, rfl⟩
    · rw [update_of_ne same] at isNamed
      exact .inl isNamed
  · intro tag _ isNamed
    have different : tag ≠ new.tag := by
      intro same
      rw [same, isFresh] at isNamed
      cases isNamed
    rw [update_of_ne different]
    exact isNamed

end Consistent

end SingBox.Dns
