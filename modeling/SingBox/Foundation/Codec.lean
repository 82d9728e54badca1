import Mathlib.Data.List.Basic

/-! # Decoders

A decoder takes a value off the front of a list of tokens and leaves the rest.
`Decodes` says that it reads a value back from what was written for it,
whatever follows. `Accepts` says that it does so exactly under a condition, and
`Shrinks` that it never puts tokens back. The three are kept by sequence and
repetition. A loop that takes a token in every round ends, so it is given by its
equation.
-/

namespace SingBox

open List

/-! ## Computations that may fail -/

section

variable {Error Value Result : Type} {first : Except Error Value}
  {next : Value → Except Error Result} {value : Value} {result : Result}

theorem bind_eq_ok_iff :
    first >>= next = .ok result ↔ ∃ value, first = .ok value ∧ next value = .ok result := by
  cases first with
  | error err | ok value => simp [Bind.bind, Except.bind]

theorem bind_eq_ok (isOk : first >>= next = .ok result) :
    ∃ value, first = .ok value ∧ next value = .ok result :=
  bind_eq_ok_iff.mp isOk

theorem mapError_eq_ok {change : Error → Error} (isOk : first.mapError change = .ok value) :
    first = .ok value := by
  cases first with
  | error => cases isOk
  | ok => exact isOk

end

abbrev Decoder (Token Error : Type) := StateT (List Token) (Except Error)

namespace Decoder

variable {Token Error Value Result State : Type}

def Decodes (decoder : Decoder Token Error Value) (written : List Token) (value : Value) : Prop :=
  ∀ rest, decoder.run (written ++ rest) = .ok (value, rest)

/-- The value is read back if the condition holds, and otherwise there is an error. -/
structure Accepts (decoder : Decoder Token Error Value) (written : List Token) (value : Value)
    (condition : Prop) : Prop where
  decodes : condition → decoder.Decodes written value
  demands : ∀ rest result, decoder.run (written ++ rest) = .ok result → condition

def Shrinks (decoder : Decoder Token Error Value) : Prop :=
  ∀ ⦃input value rest⦄, decoder.run input = .ok (value, rest) → rest.length ≤ input.length

def Takes (decoder : Decoder Token Error Value) : Prop :=
  ∀ ⦃input value rest⦄, decoder.run input = .ok (value, rest) → rest.length < input.length

variable {decoder : Decoder Token Error Value}

theorem Takes.shrinks (takes : decoder.Takes) : decoder.Shrinks :=
  fun _ _ _ isOk => Nat.le_of_lt (takes isOk)

/-! ## Sequence -/

variable {next : Value → Decoder Token Error Result} {first : Decoder Token Error Value}
  {result : Result} {input rest later : List Token} {token : Token} {other : Prop} {Source : Type}
  {read : Nat → Decoder Token Error Value} {before after : State}

theorem run_bind_eq_ok (isOk : (first >>= next).run input = .ok (result, rest)) :
    ∃ value middle, first.run input = .ok (value, middle) ∧
      (next value).run middle = .ok (result, rest) := by
  rcases bind_eq_ok isOk with ⟨⟨value, middle⟩, isFirst, isNext⟩
  exact ⟨value, middle, isFirst, isNext⟩

theorem run_bind_eq_error {err : Error} (isError : (first >>= next).run input = .error err) :
    first.run input = .error err ∨
      ∃ value middle, first.run input = .ok (value, middle) ∧
        (next value).run middle = .error err := by
  rw [StateT.run_bind] at isError
  cases isFirst : first.run input with
  | error =>
    rw [isFirst] at isError
    cases isError
    exact .inl rfl
  | ok read =>
    rw [isFirst] at isError
    exact .inr ⟨read.1, read.2, rfl, isError⟩

theorem Decodes.pure (value : Value) :
    Decodes (Pure.pure value : Decoder Token Error Value) [] value :=
  fun _ => rfl

variable {value : Value} {written : List Token}

theorem Decodes.run_bind (isFirst : first.Decodes written value)
    (next : Value → Decoder Token Error Result) (rest : List Token) :
    (first >>= next).run (written ++ rest) = (next value).run rest := by
  rw [StateT.run_bind, isFirst]
  rfl

theorem Decodes.bind (isFirst : first.Decodes written value)
    (isNext : (next value).Decodes later result) :
    (first >>= next).Decodes (written ++ later) result := by
  intro rest
  rw [append_assoc, isFirst.run_bind]
  exact isNext rest

theorem Decodes.bind_cons
    (isFirst : first.Decodes [token] value) (isNext : (next value).Decodes later result) :
    (first >>= next).Decodes (token :: later) result :=
  isFirst.bind isNext

theorem Decodes.map (decodes : decoder.Decodes written value) (change : Value → Result) :
    (change <$> decoder).Decodes written (change value) := by
  intro _
  rw [StateT.run_map, decodes]
  rfl

theorem Decodes.bind_pure (decodes : decoder.Decodes written value) (change : Value → Result) :
    (decoder >>= fun value => Pure.pure (change value)).Decodes written (change value) := by
  rw [bind_pure_comp]
  exact decodes.map change

variable {condition : Prop}

theorem Decodes.bind_accepts (isFirst : first.Decodes written value)
    (isNext : (next value).Accepts later result condition) :
    (first >>= next).Accepts (written ++ later) result condition where
  decodes holds := isFirst.bind (isNext.decodes holds)
  demands rest final isOk := by
    rw [append_assoc, isFirst.run_bind] at isOk
    exact isNext.demands rest final isOk

theorem Decodes.cons_accepts
    (isFirst : first.Decodes [token] value) (isNext : (next value).Accepts later result condition) :
    (first >>= next).Accepts (token :: later) result condition :=
  isFirst.bind_accepts isNext

theorem Accepts.bind (isFirst : first.Accepts written value condition)
    (isNext : (next value).Accepts later result other) :
    (first >>= next).Accepts (written ++ later) result (condition ∧ other) where
  decodes holds := (isFirst.decodes holds.1).bind (isNext.decodes holds.2)
  demands rest final isOk := by
    have holds : condition := by
      rcases run_bind_eq_ok isOk with ⟨_, _, isRead, _⟩
      rw [append_assoc] at isRead
      exact isFirst.demands _ _ isRead
    exact ⟨holds, ((isFirst.decodes holds).bind_accepts isNext).demands rest final isOk⟩

theorem Decodes.accepts (decodes : decoder.Decodes written value) :
    decoder.Accepts written value True where
  decodes _ := decodes
  demands _ _ _ := trivial

theorem Accepts.congr (accepts : decoder.Accepts written value condition)
    (same : condition ↔ other) : decoder.Accepts written value other where
  decodes holds := accepts.decodes (same.mpr holds)
  demands rest result isOk := same.mp (accepts.demands rest result isOk)

theorem Accepts.bind_decodes
    (isFirst : first.Accepts written value condition) (isNext : (next value).Decodes later result) :
    (first >>= next).Accepts (written ++ later) result condition :=
  (isFirst.bind isNext.accepts).congr (iff_of_eq (and_true condition))

section

variable (accepts : decoder.Accepts written value condition)
include accepts

theorem Accepts.map (change : Value → Result) :
    (change <$> decoder).Accepts written (change value) condition where
  decodes holds := (accepts.decodes holds).map change
  demands rest result isOk := by
    rw [map_eq_pure_bind] at isOk
    rcases run_bind_eq_ok isOk with ⟨_, _, isRead, _⟩
    exact accepts.demands rest _ isRead

theorem Accepts.bind_pure (change : Value → Result) :
    (decoder >>= fun value => Pure.pure (change value)).Accepts written (change value)
      condition := by
  rw [bind_pure_comp]
  exact accepts.map change

end

/-- What the decoder accepts is described by a grammar. -/
structure Reads (decoder : Decoder Token Error Value) (Written : List Token → Value → Prop) :
    Prop where
  decodes : ∀ {written value}, Written written value → decoder.Decodes written value
  described : ∀ {input value rest}, decoder.run input = .ok (value, rest) →
    ∃ written, input = written ++ rest ∧ Written written value

theorem Reads.of_bind {Front : List Token → Value → Prop} (isFirst : first.Reads Front)
    (isOk : (first >>= next).run input = .ok (result, rest)) :
    ∃ front value middle, input = front ++ middle ∧ Front front value ∧
      (next value).run middle = .ok (result, rest) := by
  rcases run_bind_eq_ok isOk with ⟨value, middle, isRead, isNext⟩
  rcases isFirst.described isRead with ⟨front, rfl, isFront⟩
  exact ⟨front, value, middle, rfl, isFront, isNext⟩

theorem Shrinks.bind (isFirst : first.Shrinks) (isNext : ∀ value, (next value).Shrinks) :
    (first >>= next).Shrinks := by
  intro _ _ _ isOk
  rcases run_bind_eq_ok isOk with ⟨value, _, read, isOk⟩
  exact Nat.le_trans (isNext value isOk) (isFirst read)

theorem Takes.bind (isFirst : first.Takes) (isNext : ∀ value, (next value).Shrinks) :
    (first >>= next).Takes := by
  intro _ _ _ isOk
  rcases run_bind_eq_ok isOk with ⟨value, _, read, isOk⟩
  exact Nat.lt_of_le_of_lt (isNext value isOk) (isFirst read)

theorem Shrinks.pure (value : Value) : Shrinks (Pure.pure value : Decoder Token Error Value) := by
  rintro _ _ _ ⟨⟩
  exact Nat.le_refl _

theorem Shrinks.map (shrinks : decoder.Shrinks) (change : Value → Result) :
    (change <$> decoder).Shrinks := by
  rw [map_eq_pure_bind]
  exact shrinks.bind fun value => .pure (change value)

theorem Shrinks.throw (err : Error) :
    Shrinks (MonadExcept.throw err : Decoder Token Error Value) := by
  nofun

/-! ## Errors in context -/

def mapError (change : Error → Error) (decoder : Decoder Token Error Value) :
    Decoder Token Error Value :=
  fun input => (decoder.run input).mapError change

theorem Decodes.mapError (decodes : decoder.Decodes written value) (change : Error → Error) :
    (decoder.mapError change).Decodes written value := by
  intro rest
  change (decoder.run (written ++ rest)).mapError change = _
  rw [decodes]
  rfl

theorem Accepts.mapError (accepts : decoder.Accepts written value condition)
    (change : Error → Error) : (decoder.mapError change).Accepts written value condition where
  decodes holds := (accepts.decodes holds).mapError change
  demands rest result isOk := accepts.demands rest result (mapError_eq_ok isOk)

/-! ## Repetition -/

def collect (read : Nat → Decoder Token Error Value) : Nat → Nat → Decoder Token Error (List Value)
  | _, 0 => pure []
  | index, count + 1 => do
    let value ← read index
    let values ← collect read (index + 1) count
    pure (value :: values)

variable {sources : List Source} {write : Source → List Token} {value : Source → Value}

theorem Accepts.collect_map {condition : Source → Prop} (accepts : ∀ source ∈ sources, ∀ index,
      (read index).Accepts (write source) (value source) (condition source)) (index : Nat) :
    (Decoder.collect read index sources.length).Accepts (sources.flatMap write)
      (sources.map value) (∀ source ∈ sources, condition source) := by
  induction sources generalizing index with
  | nil => exact (Decodes.pure []).accepts.congr (by simp)
  | cons first _ induction =>
    have isFirst := accepts first mem_cons_self index
    have areRest := induction (fun source member => accepts source
      (mem_cons_of_mem _ member)) (index + 1)
    rw [length_cons, flatMap_cons, map_cons, Decoder.collect]
    apply Accepts.congr _ forall_mem_cons.symm
    apply isFirst.bind
    exact areRest.bind_pure _

theorem Decodes.collect_map
    (decodes : ∀ source ∈ sources, ∀ index, (read index).Decodes (write source) (value source))
    (index : Nat) :
    (Decoder.collect read index sources.length).Decodes (sources.flatMap write)
      (sources.map value) := by
  have accepts := Accepts.collect_map (fun source member index =>
    (decodes source member index).accepts) index
  exact accepts.decodes fun _ _ => trivial

theorem Shrinks.collect (shrinks : ∀ index, (read index).Shrinks) (index count : Nat) :
    (Decoder.collect read index count).Shrinks := by
  induction count generalizing index with
  | zero => exact .pure []
  | succ _ induction =>
    rw [Decoder.collect]
    exact (shrinks index).bind fun value =>
      (induction (index + 1)).bind fun values => .pure (value :: values)

/-! ## Loops -/

/-- At most `rounds` rounds of a loop. A round goes on with a new state or ends
the loop with its result. -/
def iterate (stuck : Error) (round : State → Decoder Token Error (State ⊕ Result)) :
    Nat → State → Decoder Token Error Result
  | 0, _ => throw stuck
  | rounds + 1, state => do
    match ← round state with
    | .inl next => iterate stuck round rounds next
    | .inr result => pure result

/-- The loop, with more rounds than there are tokens. -/
def loop (stuck : Error) (round : State → Decoder Token Error (State ⊕ Result)) (state : State) :
    Decoder Token Error Result :=
  fun input => (iterate stuck round (input.length + 1) state).run input

variable {stuck : Error} {round : State → Decoder Token Error (State ⊕ Result)}

/-- A round that goes on takes a token. -/
def Progresses (round : State → Decoder Token Error (State ⊕ Result)) : Prop :=
  ∀ ⦃state input next rest⦄, (round state).run input = .ok (.inl next, rest) →
    rest.length < input.length

theorem Progresses.of_takes (takes : ∀ state, (round state).Takes) : Progresses round :=
  fun state _ _ _ isOk => takes state isOk

theorem run_iterate_succ (rounds : Nat) (state : State) (input : List Token) :
    (iterate stuck round (rounds + 1) state).run input =
      match (round state).run input with
      | .error err => .error err
      | .ok (.inl next, rest) => (iterate stuck round rounds next).run rest
      | .ok (.inr result, rest) => .ok (result, rest) := by
  rw [iterate, StateT.run_bind]
  cases (round state).run input with
  | error => rfl
  | ok read => rcases read with ⟨_ | _, _⟩ <;> rfl

/-- With a token taken in every round, more rounds change nothing. -/
theorem run_iterate_eq (progresses : Progresses round) {rounds others : Nat} {state : State}
    (enough : input.length < rounds) (enoughToo : input.length < others) :
    (iterate stuck round rounds state).run input =
      (iterate stuck round others state).run input := by
  induction rounds generalizing others state input with
  | zero => omega
  | succ rounds induction =>
    cases others with
    | zero => omega
    | succ others =>
      rw [run_iterate_succ, run_iterate_succ]
      cases isRound : (round state).run input with
      | error err => rfl
      | ok read =>
        rcases read with ⟨next | result, rest⟩
        · have shorter := progresses isRound
          exact induction (by omega) (by omega)
        · rfl

theorem run_loop (progresses : Progresses round) (state : State) (input : List Token) :
    (loop stuck round state).run input =
      match (round state).run input with
      | .error err => .error err
      | .ok (.inl next, rest) => (loop stuck round next).run rest
      | .ok (.inr result, rest) => .ok (result, rest) := by
  change (iterate stuck round (input.length + 1) state).run input = _
  rw [run_iterate_succ]
  cases isRound : (round state).run input with
  | error => rfl
  | ok read =>
    rcases read with ⟨_ | _, _⟩
    · have shorter := progresses isRound
      exact run_iterate_eq progresses shorter (Nat.lt_succ_self _)
    · rfl

theorem Accepts.demands_loop (takes : ∀ state, (round state).Takes)
    {value : State ⊕ Result} (accepts : (round before).Accepts written value condition)
    (rest : List Token) (result : Result × List Token)
    (isOk : (Decoder.loop stuck round before).run (written ++ rest) = .ok result) : condition := by
  rw [run_loop (.of_takes takes)] at isOk
  cases isRound : (round before).run (written ++ rest) with
  | error =>
    rw [isRound] at isOk
    cases isOk
  | ok read => exact accepts.demands rest read isRound

/-- What is written takes the loop from one state to another. -/
def Advances (stuck : Error) (round : State → Decoder Token Error (State ⊕ Result))
    (written : List Token) (before after : State) : Prop :=
  ∀ rest, (loop stuck round before).run (written ++ rest) = (loop stuck round after).run rest

theorem Advances.refl (state : State) : Advances stuck round [] state state := fun _ => rfl

theorem Advances.trans {middle : State}
    (first : Advances stuck round written before middle)
    (second : Advances stuck round later middle after) :
    Advances stuck round (written ++ later) before after := by
  intro _
  rw [append_assoc, first, second]

variable (takes : ∀ state, (round state).Takes)
include takes

theorem Advances.of_round (decodes : (round before).Decodes written (.inl after)) :
    Advances stuck round written before after := by
  intro _
  rw [run_loop (.of_takes takes), decodes]

theorem Decodes.loop {written last : List Token}
    (advances : Advances stuck round written before after)
    (ends : (round after).Decodes last (.inr result)) :
    (Decoder.loop stuck round before).Decodes (written ++ last) result := by
  intro _
  rw [append_assoc, advances, run_loop (.of_takes takes), ends]

end Decoder

end SingBox
