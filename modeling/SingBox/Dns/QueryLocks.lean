import SingBox.Dns.Deduplication
import SingBox.Foundation.Update

/-! # Locks of queries are conserved

The map of locks and the calls agree in every run: an entry stands for one call
that has yet to release it, and a call that has returned has deleted its entry
and closed its channel once. A call that waits can always count on another one
that goes on.
-/

namespace SingBox.Dns.Deduplication

open Function Option

variable {client : ClientOptions} {state after : State} {actions : List Action} {key : DNSCacheKey}

namespace Stage

/-- How far the release of a lock has come. -/
def rank : Stage → Nat
  | .closing _ _ => 1
  | .finishing _ _ => 2
  | .returned _ _ => 3
  | _ => 0

/-- What a step can do to the lock of a call. -/
inductive Turn (state : State) (before after : Stage) : Effect → Prop
  | stay : before.rank = 0 → after.rank = 0 → after.owned = before.owned →
      Turn state before after .none
  | refresh (key : DNSCacheKey) : before.rank = 0 → after.rank = 0 →
      after.owned = before.owned → Turn state before after (.refresh key)
  | leave : before.rank = 0 → before.owned = none → after.rank = 2 →
      Turn state before after .none
  | store (key : DNSCacheKey) : before.rank = 0 → after.rank = 0 → before.owned = none →
      after.owned = some key → state.cacheLock key = none → Turn state before after (.store key)
  | delete (key : DNSCacheKey) : before.rank = 0 → before.owned = some key → after.rank = 1 →
      Turn state before after (.delete key)
  | close : before.rank = 1 → after.rank = 2 → Turn state before after .close
  | finish : before.rank = 2 → after.rank = 3 → Turn state before after .finish

/-- A step keeps the call, and a call only waits for the holder of its key. -/
structure Steps (client : ClientOptions) (state : State) (move : Move) (before after : Stage)
    (effect : Effect) : Prop where
  turn : Turn state before after effect
  call : after.call = before.call
  waits : ∀ started channel, after = .waiting started channel →
    ∃ environment key, move = .enter environment ∧
      requestKey client before.call environment = some key ∧ state.cacheLock key = some channel

variable {before next : Stage} {effect : Effect} {move : Move} {started : Operation} {call : Call}

theorem Steps.of (turn : Turn state before next effect) (call : next.call = before.call := by rfl)
    (notWaiting : ∀ started channel, next ≠ .waiting started channel := by rintro _ _ ⟨⟩) :
    Steps client state move before next effect :=
  ⟨turn, call, fun started channel waits => absurd waits (notWaiting started channel)⟩

theorem owned_of_rank (isReleased : 0 < next.rank) : next.owned = none := by
  cases next <;> first | rfl | cases isReleased

theorem requestKey_eq {question : Question} (asks : call.message.question.head? = some question)
    (environment : BitVec 64) :
    requestKey client call environment =
      (ClientState.operation client call question environment asks).cacheKey := by
  unfold requestKey
  split
  · next nothing => cases nothing.symm.trans asks
  next isOther =>
  cases isOther.symm.trans asks
  rfl

theorem enter_steps {allowWait : Bool} {environment : BitVec 64}
    (entered : enter client state call allowWait environment = (next, effect)) :
    Steps client state (.enter environment) (.entering call allowWait) next effect := by
  unfold enter at entered
  split at entered
  · cases entered
    exact .of (.leave rfl rfl rfl)
  next asks =>
  split at entered
  · cases entered
    exact .of (.leave rfl rfl rfl)
  dsimp only at entered
  split at entered
  · cases entered
    exact .of (.stay rfl rfl rfl)
  next key isKey =>
  split at entered
  · next isHeld =>
    split at entered <;> cases entered
    · refine ⟨.stay rfl rfl rfl, rfl, ?_⟩
      rintro _ _ ⟨⟩
      exact ⟨environment, key, rfl, (requestKey_eq asks environment).trans isKey, isHeld⟩
    · exact .of (.stay rfl rfl rfl)
  · next isFree =>
    cases entered
    exact .of (.store key rfl rfl rfl isKey isFree)

theorem load_steps {found : Option Bool} (loaded : load started found = (next, effect)) :
    Steps client state move (.loading started) next effect := by
  unfold load at loaded
  split at loaded
  · cases loaded
    exact .of (.stay rfl rfl rfl)
  · split at loaded <;> cases loaded
    · exact .of (.refresh _ rfl rfl rfl)
    · exact .of (.stay rfl rfl rfl)
  · cases loaded
    exact .of (.stay rfl rfl rfl)

theorem check_cases (client : ClientOptions) (started : Operation) (listed : Bool) :
    check client started listed = .exchanging started ∧
        started.call.contextTag ≠ some started.call.transportTag ∨
      ∃ result, check client started listed = .releasing started result ∧
        (started.call.contextTag = some started.call.transportTag →
          result = .loopback started.call.transportTag) := by
  rw [check]
  split
  · exact .inr ⟨_, rfl, fun _ => rfl⟩
  next differs =>
  split
  · exact .inr ⟨_, rfl, fun isLoop => absurd isLoop differs⟩
  · exact .inl ⟨rfl, differs⟩

theorem release_steps {result : Result} (released : release started result = (next, effect)) :
    Steps client state move (.releasing started result) next effect := by
  unfold release at released
  split at released
  · next key isKey =>
    cases released
    exact .of (.delete key rfl isKey rfl)
  · next isIdle =>
    cases released
    exact .of (.leave rfl isIdle rfl)

theorem advance_steps (advanced : before.advance client state move = some (next, effect)) :
    Steps client state move before next effect := by
  unfold advance at advanced
  split at advanced
  · exact enter_steps (some.inj advanced)
  · split at advanced <;> cases advanced
    exact .of (.stay rfl rfl rfl)
  · cases advanced
    exact .of (.leave rfl rfl rfl)
  · exact load_steps (some.inj advanced)
  · next started listed =>
    cases advanced
    rcases check_cases client started listed with ⟨goesOn, -⟩ | ⟨_, ends, -⟩
    · rw [goesOn]
      exact .of (.stay rfl rfl rfl)
    · rw [ends]
      exact .of (.stay rfl rfl rfl)
  · cases advanced
    exact .of (.stay rfl rfl rfl)
  · exact release_steps (some.inj advanced)
  · cases advanced
    exact .of (.close rfl rfl)
  · cases advanced
    exact .of (.finish rfl rfl)
  · cases advanced

theorem exists_advance (client : ClientOptions) (state : State) (notReturned : before.rank ≠ 3)
    (busy : ∀ started channel, before ≠ .waiting started channel) :
    ∃ move next, move ≠ .cancel ∧ before.advance client state move = some next := by
  cases before with
  | entering call => exact ⟨.enter 0, _, Move.noConfusion, rfl⟩
  | waiting started channel => exact absurd rfl (busy started channel)
  | loading started => exact ⟨.load none, _, Move.noConfusion, rfl⟩
  | checking started => exact ⟨.check false, _, Move.noConfusion, rfl⟩
  | exchanging started => exact ⟨.deliver .error, _, Move.noConfusion, rfl⟩
  | releasing _ result => exact ⟨.release, _, Move.noConfusion, rfl⟩
  | closing call result => exact ⟨.close, _, Move.noConfusion, rfl⟩
  | finishing call result => exact ⟨.finish, _, Move.noConfusion, rfl⟩
  | returned => exact absurd rfl notReturned

end Stage

/-! ## What a call has done -/

namespace Progress

/-- A call stores at most one key, deletes it once and then closes its channel
once, and its callback is invoked at the very end. -/
structure Tallied (progress : Progress) : Prop where
  single : progress.stored.length ≤ 1
  stored : progress.stage.rank = 0 → progress.stored = progress.stage.owned.toList
  closing : progress.stage.rank = 1 → progress.stored ≠ []
  deleted : progress.deleted = if 0 < progress.stage.rank then progress.stored else []
  closed : progress.closed = if 1 < progress.stage.rank then progress.stored.length else 0
  callbacks : progress.callbacks = if 2 < progress.stage.rank then progress.async.toNat else 0

variable {progress : Progress} {stage : Stage} {effect : Effect}

theorem record_stage (progress : Progress) (stage : Stage) (effect : Effect) :
    (progress.record stage effect).stage = stage := by
  cases effect <;> rfl

theorem Tallied.record (tallied : progress.Tallied)
    (turn : Stage.Turn state progress.stage stage effect) :
    (progress.record stage effect).Tallied := by
  rcases tallied with ⟨single, stored, closing, deleted, closed, callbacks⟩
  cases turn with
  | close isBefore isAfter =>
    have positive := List.length_pos_of_ne_nil (closing isBefore)
    constructor <;> simp_all [Progress.record]
    omega
  | _ => constructor <;> simp_all [Progress.record]

theorem Tallied.stored_of_owned (tallied : progress.Tallied)
    (isOwner : progress.stage.owned = some key) : progress.stored = [key] := by
  have unreleased : progress.stage.rank = 0 := by
    by_contra isReleased
    rw [Stage.owned_of_rank (Nat.pos_of_ne_zero isReleased)] at isOwner
    cases isOwner
  rw [tallied.stored unreleased, isOwner]
  rfl

end Progress

/-! ## Calls and locks agree -/

structure Sound (state : State) : Prop where
  tallied : ∀ id progress, state.calls id = some progress → progress.Tallied
  locked : KeyedLock state.cacheLock state.owns
  awaited : ∀ id progress, state.calls id = some progress →
    ∀ started channel, progress.stage = .waiting started channel →
      ∃ maker, state.calls channel = some maker ∧ maker.stored ≠ []

theorem owns_setCall (id : Nat) (progress : Progress) :
    (state.setCall id progress).owns = update state.owns id progress.stage.owned := by
  funext other
  by_cases same : other = id <;> simp [same, State.owns, State.setCall]

theorem calls_perform (id : Nat) (effect : Effect) :
    (state.perform id effect).calls = state.calls := by
  cases effect <;> rfl

theorem owns_perform (id : Nat) (effect : Effect) :
    (state.perform id effect).owns = state.owns := by
  funext other
  rw [State.owns, calls_perform, State.owns]

theorem sound_initial : Sound .initial := by
  constructor <;> simp [State.initial, State.owns, KeyedLock]

variable {id : Nat} {progress : Progress} {effect : Effect} {stage : Stage} {action : Action}

theorem exists_stored_setCall
    (grows : ∀ before, state.calls id = some before → before.stored ≠ [] → progress.stored ≠ [])
    {channel : Nat} (made : ∃ maker, state.calls channel = some maker ∧ maker.stored ≠ []) :
    ∃ maker, (state.setCall id progress).calls channel = some maker ∧ maker.stored ≠ [] := by
  rcases made with ⟨maker, isMaker, stored⟩
  by_cases same : channel = id
  · subst same
    exact ⟨progress, update_self _ _ _, grows maker isMaker stored⟩
  · exact ⟨maker, (update_of_ne same _ _).trans isMaker, stored⟩

theorem Sound.call (sound : Sound state) (isNew : state.calls id = none)
    (call : Call) (async allowWait : Bool) (enclosing : List Nat) :
    Sound (state.setCall id ⟨async, enclosing, .entering call allowWait, [], [], 0, 0⟩) := by
  constructor
  · apply forall_update sound.tallied
    rintro progress ⟨⟩
    constructor <;> simp [Stage.rank, Stage.owned]
  · have idle : state.owns id = none := by simp [State.owns, isNew]
    rw [owns_setCall]
    change KeyedLock state.cacheLock (update state.owns id none)
    rw [← idle, update_eq_self]
    exact sound.locked
  · apply forall_update
    · intro other progress found started channel isAt
      apply exists_stored_setCall (by simp [isNew])
      exact sound.awaited other progress found started channel isAt
    · rintro _ ⟨⟩ _ _ ⟨⟩

theorem KeyedLock.perform {next : Progress}
    (locked : KeyedLock state.cacheLock state.owns) (isOwned : state.owns id = progress.stage.owned)
    (turn : Stage.Turn state progress.stage stage effect) :
    KeyedLock ((state.setCall id next).perform id effect).cacheLock
      (update state.owns id stage.owned) := by
  have quiet : stage.owned = progress.stage.owned →
      KeyedLock state.cacheLock (update state.owns id stage.owned) := by
    intro same
    rw [same, ← isOwned, update_eq_self]
    exact locked
  have released : 0 < progress.stage.rank → 0 < stage.rank →
      stage.owned = progress.stage.owned := by
    intro isBefore isAfter
    rw [Stage.owned_of_rank isBefore, Stage.owned_of_rank isAfter]
  cases turn with
  | stay _ _ same | refresh key _ _ same => exact quiet same
  | leave _ idle isAfter => exact quiet ((Stage.owned_of_rank (by omega)).trans idle.symm)
  | store key _ _ idle isOwner isFree =>
    rw [isOwner]
    exact locked.take isFree (isOwned.trans idle)
  | delete key _ isOwner isAfter =>
    rw [Stage.owned_of_rank (by omega : 0 < stage.rank)]
    exact locked.drop (isOwned.trans isOwner)
  | _ => exact quiet (released (by omega) (by omega))

theorem Sound.move (sound : Sound state) {move : Move} (found : state.calls id = some progress)
    (advanced : progress.stage.advance client state move = some (stage, effect)) :
    Sound ((state.setCall id (progress.record stage effect)).perform id effect) := by
  have steps := Stage.advance_steps advanced
  have kept : ∀ {channel : Nat},
      (∃ maker, state.calls channel = some maker ∧ maker.stored ≠ []) →
      ∃ maker, (state.setCall id (progress.record stage effect)).calls channel = some maker ∧
        maker.stored ≠ [] := by
    intro channel
    apply exists_stored_setCall
    intro _ isBefore
    cases found.symm.trans isBefore
    intro stored
    cases effect <;> simp [Progress.record, stored]
  constructor
  · rw [calls_perform]
    apply forall_update sound.tallied
    rintro _ ⟨⟩
    exact (sound.tallied id progress found).record steps.turn
  · rw [owns_perform, owns_setCall, Progress.record_stage]
    exact KeyedLock.perform sound.locked (by simp [State.owns, found]) steps.turn
  · rw [calls_perform]
    apply forall_update
    · intro other waiting isWaiting started channel isAt
      exact kept (sound.awaited other waiting isWaiting started channel isAt)
    · rintro _ ⟨⟩ started channel isAt
      -- The lock it found belongs to a call that has stored its key.
      rw [Progress.record_stage] at isAt
      rcases steps.waits started channel isAt with ⟨_, key, -, -, isHeld⟩
      rcases bind_eq_some_iff.mp ((sound.locked key channel).mp isHeld) with
        ⟨maker, isMaker, isOwner⟩
      apply kept ⟨maker, isMaker, _⟩
      rw [(sound.tallied channel maker isMaker).stored_of_owned isOwner]
      exact List.cons_ne_nil key []

theorem next_cases (isNext : state.next client action = some after) :
    (∃ id call async outer enclosing, action = .call id call async outer ∧ state.calls id = none ∧
        after = state.setCall id ⟨async, enclosing, .entering call (!async), [], [], 0, 0⟩) ∨
    (∃ id move progress stage effect, action = .move id move ∧ state.calls id = some progress ∧
      progress.stage.advance client state move = some (stage, effect) ∧
        after = (state.setCall id (progress.record stage effect)).perform id effect) ∨
    ∃ key refreshing, action = .refreshed key ∧
      after = { state with backgroundRefresh := refreshing } := by
  cases action with
  | call id call async outer =>
    rw [State.next] at isNext
    split at isNext
    · cases isNext
    next isNew =>
    rcases map_eq_some_iff.mp isNext with ⟨enclosing, -, rfl⟩
    exact .inl ⟨id, call, async, outer, enclosing, rfl, isNew, rfl⟩
  | move id move =>
    rw [State.next] at isNext
    split at isNext
    · cases isNext
    next progress found =>
    rcases map_eq_some_iff.mp isNext with ⟨⟨stage, effect⟩, advanced, rfl⟩
    exact .inr (.inl ⟨id, move, progress, stage, effect, rfl, found, advanced, rfl⟩)
  | refreshed key =>
    rw [State.next] at isNext
    split at isNext <;> cases isNext
    exact .inr (.inr ⟨key, _, rfl, rfl⟩)

theorem Sound.next (sound : Sound state)
    (isNext : state.next client action = some after) : Sound after := by
  rcases next_cases isNext with ⟨id, call, async, _, enclosing, -, isNew, rfl⟩ |
    ⟨id, move, progress, stage, effect, -, found, advanced, rfl⟩ | ⟨key, refreshing, -, rfl⟩
  · exact sound.call isNew call async (!async) enclosing
  · exact sound.move found advanced
  · exact { sound with }

theorem sound_of_run (run : QueryRun client actions state) : Sound state :=
  run.preserves sound_initial fun sound isNext => sound.next isNext

/-! ## Conservation -/

/-- No call goes on unless its context is cancelled; in particular every
transport that was asked has answered. -/
def Settled (client : ClientOptions) (state : State) : Prop :=
  ∀ id progress move, state.calls id = some progress → move ≠ .cancel →
    progress.stage.advance client state move = none

structure Conserved (client : ClientOptions) (state : State) : Prop where
  /-- A key is in the map exactly while one outstanding call owns it. -/
  present : ∀ key, (state.cacheLock key).isSome ↔ ∃! id, state.owns id = some key
  owner : ∀ key id, state.cacheLock key = some id → state.owns id = some key
  outstanding : ∀ id progress, state.calls id = some progress → 0 < progress.stage.rank →
    state.owns id = none
  /-- No step takes an entry out of the map but a step of its owner. -/
  kept : ∀ action after, state.next client action = some after →
    ∀ key id, state.cacheLock key = some id →
      after.cacheLock key = some id ∨
        ∃ move, action = .move id move ∧ after.cacheLock key = none
  once : ∀ id progress, state.calls id = some progress →
    progress.stored.length ≤ 1 ∧ progress.deleted <+: progress.stored ∧
      progress.closed ≤ progress.deleted.length ∧ progress.callbacks ≤ progress.async.toNat
  /-- On every way out the key is deleted, the channel closed and the callback
  invoked. -/
  exits : ∀ id progress, state.calls id = some progress → progress.stage.rank = 3 →
    progress.deleted = progress.stored ∧ progress.closed = progress.stored.length ∧
      progress.callbacks = progress.async.toNat
  settles : Settled client state → ∀ id progress, state.calls id = some progress →
    progress.stage.rank = 3

theorem Progress.Tallied.once (tallied : progress.Tallied) :
    progress.stored.length ≤ 1 ∧ progress.deleted <+: progress.stored ∧
      progress.closed ≤ progress.deleted.length ∧
        progress.callbacks ≤ progress.async.toNat := by
  rw [tallied.deleted, tallied.closed, tallied.callbacks]
  refine ⟨tallied.single, ?_, ?_, ?_⟩
  · split <;> simp
  · split
    · rw [if_pos (by omega)]
    · exact Nat.zero_le _
  · split <;> simp

theorem Progress.Tallied.exits (tallied : progress.Tallied) (isReturned : progress.stage.rank = 3) :
    progress.deleted = progress.stored ∧ progress.closed = progress.stored.length ∧
      progress.callbacks = progress.async.toNat := by
  rw [tallied.deleted, tallied.closed, tallied.callbacks, isReturned]
  exact ⟨rfl, rfl, rfl⟩

theorem Sound.kept (sound : Sound state) (isNext : state.next client action = some after)
    (isHeld : state.cacheLock key = some id) :
    after.cacheLock key = some id ∨
      ∃ move, action = .move id move ∧ after.cacheLock key = none := by
  rcases next_cases isNext with ⟨_, _, _, _, _, -, -, rfl⟩ |
    ⟨other, move, progress, stage, effect, rfl, found, advanced, rfl⟩ | ⟨_, _, -, rfl⟩
  · exact .inl isHeld
  · cases (Stage.advance_steps advanced).turn with
    | store asked _ _ _ _ isFree =>
      have differs : key ≠ asked := by
        rintro rfl
        cases isFree.symm.trans isHeld
      exact .inl ((update_of_ne differs _ _).trans isHeld)
    | delete asked _ isOwner =>
      by_cases same : key = asked
      · subst same
        have isOther : state.owns other = some key := by simp [State.owns, found, isOwner]
        cases isHeld.symm.trans ((sound.locked key other).mpr isOther)
        exact .inr ⟨move, rfl, update_self _ _ _⟩
      · exact .inl ((update_of_ne same _ _).trans isHeld)
    | _ => exact .inl isHeld
  · exact .inl isHeld

/-- Nobody waits in a settled state: the channel was closed when the call that
made it returned. -/
theorem Sound.settles (sound : Sound state) (settled : Settled client state)
    (found : state.calls id = some progress) : progress.stage.rank = 3 := by
  have isReturned : ∀ {id progress}, state.calls id = some progress →
      (∀ started channel, progress.stage ≠ .waiting started channel) →
        progress.stage.rank = 3 := by
    intro id progress found busy
    by_contra notReturned
    rcases Stage.exists_advance client state notReturned busy with ⟨move, _, notCancel, advanced⟩
    cases (settled id progress move found notCancel).symm.trans advanced
  apply isReturned found
  intro started channel isAt
  rcases sound.awaited id progress found started channel isAt with ⟨maker, isMaker, stored⟩
  have tallied := sound.tallied channel maker isMaker
  have busy : ∀ started channel, maker.stage ≠ .waiting started channel := by
    intro _ channel makerAt
    have nothing := tallied.stored (by rw [makerAt]; rfl)
    rw [makerAt] at nothing
    exact stored nothing
  have closed := (tallied.exits (isReturned isMaker busy)).2.1
  have isClosed : state.isClosed channel = true := by
    simp [State.isClosed, isMaker, closed, List.length_pos_iff, stored]
  have blocked := settled id progress (.wake 0) found Move.noConfusion
  simp [isAt, Stage.advance, isClosed] at blocked

/-- In every run of `Exchange`, `ExchangeAsync` and background refreshes the
locks of queries are conserved. -/
theorem locks_conserved (run : QueryRun client actions state) : Conserved client state := by
  have sound := sound_of_run run
  constructor
  · intro key
    exact sound.locked.isSome_iff
  · intro key id isHeld
    exact (sound.locked key id).mp isHeld
  · intro id progress found isReleased
    simp [State.owns, found, Stage.owned_of_rank isReleased]
  · intro _ _ isNext _ id isHeld
    exact sound.kept isNext isHeld
  · intro id progress found
    exact (sound.tallied id progress found).once
  · intro id progress found isReturned
    exact (sound.tallied id progress found).exits isReturned
  · intro settled _ _ found
    exact sound.settles settled found

def addressCall (contextTag : Option Bytes) : Call where
  transportTag := Bytes.ofString "remote"
  message := { recursionDesired := true, question := [⟨Bytes.ofString "a.", typeA, 1⟩] }
  options := {}
  responseChecker := none
  contextTag := contextTag

def sharedActions : List Action :=
  [.call 0 (addressCall none) true none, .move 0 (.enter 0),
    .call 1 (addressCall none) true none, .move 1 (.enter 0), .move 1 (.enter 0),
    .move 0 (.load none), .move 0 (.check false), .move 0 (.deliver (.rcode 0)),
    .move 0 .release, .move 0 .close, .move 0 .finish,
    .move 1 (.wake 0), .move 1 (.load (some false)), .move 1 .release, .move 1 .finish]

theorem locks_conserved_shared :
    ∃ state, QueryRun {} sharedActions state ∧ Conserved {} state ∧
      (state.calls 0).map Progress.callbacks = some 1 ∧
      (state.calls 1).map Progress.callbacks = some 1 := by
  have run : ∃ state, QueryRun {} sharedActions state ∧
      (state.calls 0).map Progress.callbacks = some 1 ∧
      (state.calls 1).map Progress.callbacks = some 1 :=
    ⟨_, Run.of_execute rfl, rfl, rfl⟩
  rcases run with ⟨state, run, isFirst, isSecond⟩
  exact ⟨state, run, locks_conserved run, isFirst, isSecond⟩

end SingBox.Dns.Deduplication
