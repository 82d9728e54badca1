import SingBox.Dns.QueryLocks

/-! # Loopback and deduplication

A transport may resolve the name of its server through the client that asked it.
The check for such loops comes after the wait for the lock of the key, so it
only sees calls that do not wait for one of their enclosing calls.
-/

namespace SingBox.Dns.Deduplication

open Option Bool

variable {client : ClientOptions} {state after : State} {actions : List Action} {stage : Stage}

/-- A call whose context carries the tag of its own transport. -/
def loops (call : Call) : Bool := call.contextTag == some call.transportTag

def Stage.key : Stage → Option DNSCacheKey
  | .loading started | .checking started | .exchanging started | .releasing started _ =>
    started.cacheKey
  | _ => none

/-- A call does not ask with the key of an enclosing call that is still
outstanding. A call that loops asks something, is let through by its strategy,
and is not cancelled while it waits. -/
def distinct (client : ClientOptions) (state : State) : Action → Bool
  | .move id (.enter environment) =>
    (state.calls id).all fun progress =>
      (progress.enclosing.all fun outer => (state.calls outer).all fun enclosing =>
        enclosing.stage.key.all fun key =>
          requestKey client progress.stage.call environment != some key) &&
        (!loops progress.stage.call || progress.stage.call.message.question.head?.any
          fun question => !ClientState.strategyRejects question
            progress.stage.call.options.strategy)
  | .move id .cancel => (state.calls id).all fun progress => !loops progress.stage.call
  | _ => true

def DistinctRun (client : ClientOptions) : List Action → State → Prop :=
  Run (fun state action after =>
    state.next client action = some after ∧ distinct client state action = true) .initial

/-- What a call that loops ends with. -/
def Detected (call : Call) (result : Result) : Prop :=
  result = .cached ∨ result = .optimistic ∨ result = .loopback call.transportTag

namespace Stage

/-- A call that loops never gets to its transport and ends with an answer from
the cache or with the loopback error. -/
def Guarded : Stage → Prop
  | .exchanging _ => False
  | .releasing started result => Detected started.call result
  | .closing call result | .finishing call result | .returned call result => Detected call result
  | _ => True

theorem key_of_owned {key : DNSCacheKey} (isOwner : stage.owned = some key) :
    stage.key = some key := by
  cases stage <;> simp_all [owned, Stage.key, lock]

variable {before next : Stage} {effect : Effect} {move : Move}

theorem load_guarded (started : Operation) (found : Option Bool) :
    (load started found).1.Guarded := by
  unfold load
  split
  · exact .inl rfl
  · split
    · exact .inr (.inl rfl)
    · trivial
  · trivial

theorem advance_guarded (isLoop : loops before.call = true) (guarded : before.Guarded)
    (advanced : before.advance client state move = some (next, effect))
    (enters : ∀ environment, move = .enter environment → ∃ question,
      before.call.message.question.head? = some question ∧
        ClientState.strategyRejects question before.call.options.strategy = false)
    (notCancel : move ≠ .cancel) : next.Guarded := by
  unfold advance at advanced
  split at advanced
  · next call allowWait environment =>
    rcases enters environment rfl with ⟨_, asks, passes⟩
    have isNext : (enter client state call allowWait environment).1 = next :=
      congrArg Prod.fst (some.inj advanced)
    rw [← isNext, enter]
    split
    · next nothing => cases nothing.symm.trans asks
    next isOther =>
    cases isOther.symm.trans asks
    dsimp only [Stage.call] at passes ⊢
    rw [if_neg (by simp [passes])]
    split
    · trivial
    split
    · split <;> trivial
    · trivial
  · split at advanced <;> cases advanced
    trivial
  · exact absurd rfl notCancel
  · next started found =>
    have isNext : (load started found).1 = next := congrArg Prod.fst (some.inj advanced)
    exact isNext ▸ load_guarded started found
  · next started listed =>
    cases advanced
    have isTag : started.call.contextTag = some started.call.transportTag :=
      beq_iff_eq.mp isLoop
    rcases check_cases client started listed with ⟨-, differs⟩ | ⟨result, ends, isLoopback⟩
    · exact absurd isTag differs
    · rw [ends]
      exact .inr (.inr (isLoopback isTag))
  · exact guarded.elim
  · next =>
    unfold release at advanced
    split at advanced <;> cases advanced <;> exact guarded
  · cases advanced
    exact guarded
  · cases advanced
    exact guarded
  · cases advanced

end Stage

/-! ## Distinct calls -/

/-- No call waits for an enclosing call, and a call that loops is found out. -/
structure LoopsDetected (state : State) : Prop where
  waits : ∀ id progress, state.calls id = some progress →
    ∀ started channel, progress.stage = .waiting started channel → channel ∉ progress.enclosing
  guarded : ∀ id progress, state.calls id = some progress → loops progress.stage.call = true →
    progress.stage.Guarded

variable {id : Nat} {progress : Progress}

theorem distinct_enter {environment : BitVec 64}
    (isDistinct : distinct client state (.move id (.enter environment)) = true)
    (found : state.calls id = some progress) :
    (∀ outer ∈ progress.enclosing, ∀ enclosing key, state.calls outer = some enclosing →
      enclosing.stage.key = some key →
        requestKey client progress.stage.call environment ≠ some key) ∧
    (loops progress.stage.call = true → ∃ question,
      progress.stage.call.message.question.head? = some question ∧
        ClientState.strategyRejects question progress.stage.call.options.strategy = false) := by
  rw [distinct, found] at isDistinct
  simp only [all_some, and_eq_true, List.all_eq_true, or_eq_true,
    any_eq_true, not_eq_true'] at isDistinct
  rcases isDistinct with ⟨differ, passes⟩
  constructor
  · intro outer member _ _ isOuter isKey
    have differs := differ outer member
    rw [isOuter, all_some, isKey, all_some] at differs
    exact bne_iff_ne.mp differs
  · intro isLoop
    rcases passes with notLoop | passes
    · cases isLoop.symm.trans notLoop
    · exact passes

theorem LoopsDetected.move (detected : LoopsDetected state) (sound : Sound state) {effect : Effect}
    {move : Move} (found : state.calls id = some progress)
    (advanced : progress.stage.advance client state move = some (stage, effect))
    (isDistinct : distinct client state (.move id move) = true) :
    LoopsDetected ((state.setCall id (progress.record stage effect)).perform id effect) := by
  have steps := Stage.advance_steps advanced
  constructor
  · rw [calls_perform]
    apply forall_update detected.waits
    rintro _ ⟨⟩ started channel isAt isEnclosing
    rw [Progress.record_stage] at isAt
    rcases steps.waits started channel isAt with ⟨environment, key, rfl, isKey, isHeld⟩
    rcases bind_eq_some_iff.mp ((sound.locked key channel).mp isHeld) with
      ⟨owner, isOwner, isOwned⟩
    have isMember : channel ∈ progress.enclosing := by
      cases effect <;> exact isEnclosing
    exact (distinct_enter isDistinct found).1 channel isMember owner key isOwner
      (Stage.key_of_owned isOwned) isKey
  · rw [calls_perform]
    apply forall_update detected.guarded
    rintro _ ⟨⟩ isLoop
    rw [Progress.record_stage] at isLoop ⊢
    have wasLoop : loops progress.stage.call = true := by rw [← steps.call]; exact isLoop
    apply Stage.advance_guarded wasLoop (detected.guarded id progress found wasLoop) advanced
    · rintro _ rfl
      exact (distinct_enter isDistinct found).2 wasLoop
    · rintro rfl
      simp [distinct, found, wasLoop] at isDistinct

/-- While no call asks with the key of an enclosing call, no call waits for one
of its enclosing calls, and a call on the transport of its own context never
reaches it. -/
theorem loopback_detected (run : DistinctRun client actions state) : LoopsDetected state := by
  have both : Sound state ∧ LoopsDetected state := by
    apply run.preserves
    · exact ⟨sound_initial, by constructor <;> simp [State.initial]⟩
    · rintro _ _ _ ⟨sound, detected⟩ ⟨isNext, isDistinct⟩
      refine ⟨sound.next isNext, ?_⟩
      rcases next_cases isNext with ⟨id, _, _, _, _, -, _, rfl⟩ |
        ⟨id, move, progress, stage, effect, rfl, found, advanced, rfl⟩ | ⟨key, _, -, rfl⟩
      · constructor
        · apply forall_update detected.waits
          rintro _ ⟨⟩ _ _ ⟨⟩
        · apply forall_update detected.guarded
          rintro _ ⟨⟩ _
          trivial
      · exact detected.move sound found advanced isDistinct
      · exact ⟨detected.waits, detected.guarded⟩
  exact both.2

def innerCall : Call :=
  { addressCall (some (Bytes.ofString "remote")) with
    message := { recursionDesired := true, question := [⟨Bytes.ofString "b.", typeA, 1⟩] } }

def outerActions : List Action :=
  [.call 0 (addressCall none) false none, .move 0 (.enter 0), .move 0 (.load none),
    .move 0 (.check false)]

def innerActions : List Action :=
  [.call 1 innerCall false (some 0), .move 1 (.enter 0), .move 1 (.load none),
    .move 1 (.check false), .move 1 .release, .move 1 .close, .move 1 .finish]

theorem loopback_detected_inner :
    ∃ state, DistinctRun {} (outerActions ++ innerActions) state ∧ LoopsDetected state ∧
      (state.calls 1).map Progress.stage =
        some (.returned innerCall (.loopback innerCall.transportTag)) := by
  have executed : ∃ state, Run.execute (fun state action =>
        if distinct {} state action then State.next {} state action else none) .initial
        (outerActions ++ innerActions) = some state ∧
      (state.calls 1).map Progress.stage =
        some (.returned innerCall (.loopback innerCall.transportTag)) := ⟨_, rfl, rfl⟩
  rcases executed with ⟨state, executed, isReturned⟩
  have run : DistinctRun {} (outerActions ++ innerActions) state := by
    apply Run.extend_execute .start _ executed
    intro state _ _ isNext
    exact (ite_none_right_eq_some.mp isNext).symm
  exact ⟨state, run, loopback_detected run, isReturned⟩

/-- A transport that resolves the very name it was asked for waits for itself. -/
theorem inner_call_waits_for_outer :
    ∃ state progress started, QueryRun {} (outerActions ++
        [.call 1 (addressCall (some (Bytes.ofString "remote"))) false (some 0),
          .move 1 (.enter 0)]) state ∧
      state.calls 1 = some progress ∧ progress.stage = .waiting started 0 ∧
      0 ∈ progress.enclosing ∧ loops started.call = true ∧
      started.cacheKey.isSome = true ∧ state.owns 0 = started.cacheKey :=
  ⟨_, _, _, Run.of_execute rfl, rfl, rfl, List.mem_singleton_self 0, rfl, rfl, rfl⟩

end SingBox.Dns.Deduplication
