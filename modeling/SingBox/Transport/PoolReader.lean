import SingBox.Transport.PoolDialing

/-! # One reader per shared connection

In single mode a state has at most one connection and at most one dial at a
time, and among the calls that return a connection exactly the first reports
that it was created. For the last part no two dials return the same connection.
-/

namespace SingBox.Transport

open List PoolPosition Bool

variable {Conn : Type} {actions : List (PoolAction Conn)}

namespace Sharing

def Returned (sharing : Sharing Conn) (conn : Conn) : Prop :=
  conn ∈ sharing.returned.map Prod.fst

def SharedBy (sharing : Sharing Conn) (id : Nat) (conn : Conn) : Prop :=
  (sharing.slots id).shared = some conn

/-- A connection is shared by one state only, its flag says whether a call has
returned it, and the first call to do so has reported that it was created. -/
structure Logged (sharing : Sharing Conn) : Prop where
  sharedDialed : ∀ id conn, sharing.SharedBy id conn → conn ∈ sharing.dialed
  returnedDialed : ∀ conn, sharing.Returned conn → conn ∈ sharing.dialed
  sharedOnce : ∀ id other conn, sharing.SharedBy id conn → sharing.SharedBy other conn → id = other
  claimed : ∀ id conn, sharing.SharedBy id conn →
    ((sharing.slots id).claimed = true ↔ sharing.Returned conn)
  first : ∀ index conn created, sharing.returned[index]? = some (conn, created) →
    (created = true ↔ conn ∉ (sharing.returned.take index).map Prod.fst)

/-- A dialed connection that no state shares and no call has returned. -/
structure Unseen (sharing : Sharing Conn) (conn : Conn) : Prop where
  dialed : conn ∈ sharing.dialed
  unshared : ∀ id, ¬sharing.SharedBy id conn
  unreturned : ¬sharing.Returned conn

/-- Nothing new is shared. -/
structure Shrinks (sharing after : Sharing Conn) : Prop where
  shared : ∀ id conn, after.SharedBy id conn → sharing.SharedBy id conn ∧
    (after.slots id).claimed = (sharing.slots id).claimed
  returned : after.returned = sharing.returned
  dialed : after.dialed = sharing.dialed

variable {sharing after : Sharing Conn} {conn : Conn} {id : Nat}

theorem Shrinks.refl : sharing.Shrinks sharing :=
  ⟨fun _ _ isShared => ⟨isShared, rfl⟩, rfl, rfl⟩

variable {slot : SharedSlot Conn} {found : Conn} {other : Nat}

theorem Shrinks.setSlot
    (isSmaller : ∀ conn, slot.shared = some conn →
      sharing.SharedBy id conn ∧ slot.claimed = (sharing.slots id).claimed) :
    sharing.Shrinks (sharing.setSlot id slot) := by
  refine ⟨?_, rfl, rfl⟩
  intro other conn isShared
  rw [SharedBy] at isShared
  by_cases same : other = id
  · subst same
    rw [setSlot_self] at isShared ⊢
    exact isSmaller conn isShared
  · rw [setSlot_other slot same] at isShared ⊢
    exact ⟨isShared, rfl⟩

theorem Logged.shrinks (isLogged : sharing.Logged) (shrinks : sharing.Shrinks after) :
    after.Logged where
  sharedDialed id conn isShared :=
    shrinks.dialed ▸ isLogged.sharedDialed id conn (shrinks.shared id conn isShared).1
  returnedDialed conn isReturned := by
    rw [Returned, shrinks.returned] at isReturned
    exact shrinks.dialed ▸ isLogged.returnedDialed conn isReturned
  sharedOnce id other conn isShared isOther :=
    isLogged.sharedOnce id other conn (shrinks.shared id conn isShared).1
      (shrinks.shared other conn isOther).1
  claimed id conn isShared := by
    rcases shrinks.shared id conn isShared with ⟨wasShared, sameClaim⟩
    rw [sameClaim, Returned, shrinks.returned]
    exact isLogged.claimed id conn wasShared
  first := shrinks.returned ▸ isLogged.first

theorem Unseen.shrinks (isUnseen : sharing.Unseen conn) (shrinks : sharing.Shrinks after) :
    after.Unseen conn where
  dialed := shrinks.dialed ▸ isUnseen.dialed
  unshared id isShared := isUnseen.unshared id (shrinks.shared id conn isShared).1
  unreturned isReturned := by
    rw [Returned, shrinks.returned] at isReturned
    exact isUnseen.unreturned isReturned

theorem Logged.dial (isLogged : sharing.Logged) (conn : Conn) :
    ({ sharing with dialed := sharing.dialed ++ [conn] } : Sharing Conn).Logged where
  __ := isLogged
  sharedDialed id conn isShared := mem_append_left _ (isLogged.sharedDialed id conn isShared)
  returnedDialed conn isReturned := mem_append_left _ (isLogged.returnedDialed conn isReturned)

theorem Unseen.dial (isUnseen : sharing.Unseen conn) (other : Conn) :
    ({ sharing with dialed := sharing.dialed ++ [other] } : Sharing Conn).Unseen conn where
  __ := isUnseen
  dialed := mem_append_left _ isUnseen.dialed

theorem Logged.unseen_of_new (isLogged : sharing.Logged) (isNew : conn ∉ sharing.dialed) :
    ({ sharing with dialed := sharing.dialed ++ [conn] } : Sharing Conn).Unseen conn where
  dialed := mem_append_right _ (mem_singleton_self conn)
  unshared id isShared := isNew (isLogged.sharedDialed id conn isShared)
  unreturned isReturned := isNew (isLogged.returnedDialed conn isReturned)

theorem sharedBy_setSlot (isInstalled : slot.shared = some conn)
    (isShared : (sharing.setSlot id slot).SharedBy other found) :
    other = id ∧ found = conn ∨ other ≠ id ∧ sharing.SharedBy other found := by
  rw [SharedBy] at isShared
  by_cases same : other = id
  · subst same
    rw [setSlot_self, isInstalled] at isShared
    exact .inl ⟨rfl, (Option.some.inj isShared).symm⟩
  · rw [setSlot_other slot same] at isShared
    exact .inr ⟨same, isShared⟩

theorem Logged.install (isLogged : sharing.Logged) (isUnseen : sharing.Unseen conn)
    (isInstalled : slot.shared = some conn) (isUnclaimed : slot.claimed = false) :
    (sharing.setSlot id slot).Logged where
  __ := isLogged
  sharedDialed other found isShared := by
    rcases sharedBy_setSlot isInstalled isShared with ⟨-, rfl⟩ | ⟨-, wasShared⟩
    · exact isUnseen.dialed
    · exact isLogged.sharedDialed other found wasShared
  sharedOnce first second found isShared isSecond := by
    rcases sharedBy_setSlot isInstalled isShared with ⟨rfl, rfl⟩ | ⟨-, wasShared⟩
    · rcases sharedBy_setSlot isInstalled isSecond with ⟨rfl, -⟩ | ⟨-, wasShared⟩
      · rfl
      · exact absurd wasShared (isUnseen.unshared second)
    · rcases sharedBy_setSlot isInstalled isSecond with ⟨-, rfl⟩ | ⟨-, isSecond⟩
      · exact absurd wasShared (isUnseen.unshared first)
      · exact isLogged.sharedOnce first second found wasShared isSecond
  claimed other found isShared := by
    rcases sharedBy_setSlot isInstalled isShared with ⟨rfl, rfl⟩ | ⟨isOther, wasShared⟩
    · rw [setSlot_self, isUnclaimed]
      exact iff_of_false false_ne_true isUnseen.unreturned
    · rw [setSlot_other slot isOther]
      exact isLogged.claimed other found wasShared

theorem Unseen.install (isUnseen : sharing.Unseen conn) {other : Conn} (isOther : conn ≠ other)
    (isInstalled : slot.shared = some other) :
    (sharing.setSlot id slot).Unseen conn where
  __ := isUnseen
  unshared position isShared := by
    rcases sharedBy_setSlot isInstalled isShared with ⟨-, same⟩ | ⟨-, wasShared⟩
    · exact isOther same
    · exact isUnseen.unshared position wasShared

def returning (sharing : Sharing Conn) (id : Nat) (conn : Conn) : Sharing Conn :=
  { sharing.setSlot id { sharing.slots id with claimed := true } with
    returned := sharing.returned ++ [(conn, !(sharing.slots id).claimed)] }

theorem sharedBy_returning (isShared : (sharing.returning id conn).SharedBy other found) :
    sharing.SharedBy other found := by
  by_cases same : other = id
  · subst same
    simpa [SharedBy, returning] using isShared
  · simpa [SharedBy, returning, setSlot, same] using isShared

theorem returned_returning :
    (sharing.returning id conn).Returned found ↔ sharing.Returned found ∨ found = conn := by
  simp [Returned, returning]

theorem Logged.claim (isLogged : sharing.Logged) (isShared : sharing.SharedBy id conn) :
    (sharing.returning id conn).Logged where
  sharedDialed other found isOther :=
    isLogged.sharedDialed other found (sharedBy_returning isOther)
  returnedDialed found isReturned := by
    rcases returned_returning.mp isReturned with wasReturned | rfl
    · exact isLogged.returnedDialed found wasReturned
    · exact isLogged.sharedDialed id found isShared
  sharedOnce first second found isFirst isSecond :=
    isLogged.sharedOnce first second found (sharedBy_returning isFirst)
      (sharedBy_returning isSecond)
  claimed other found isOther := by
    have wasShared := sharedBy_returning isOther
    rw [returned_returning]
    by_cases same : other = id
    · subst same
      have isFound : found = conn := Option.some.inj (wasShared.symm.trans isShared)
      exact iff_of_true (by simp [returning]) (.inr isFound)
    · have notFound : found ≠ conn := by
        rintro rfl
        exact same (isLogged.sharedOnce other id found wasShared isShared)
      have sameClaim : ((sharing.returning id conn).slots other).claimed =
          (sharing.slots other).claimed := by
        simp [returning, setSlot, same]
      rw [sameClaim, isLogged.claimed other found wasShared]
      exact ⟨.inl, fun isReturned => isReturned.resolve_right notFound⟩
  first index found created isEntry := by
    rcases getElem?_concat_cases isEntry with isEarlier | ⟨rfl, isLast⟩
    · have isWithin : index ≤ sharing.returned.length :=
        Nat.le_of_lt (index_lt isEarlier)
      simp only [returning, take_append_of_le_length isWithin]
      exact isLogged.first index found created isEarlier
    · cases isLast
      simp only [returning, take_left]
      rw [not_eq_true', ← not_eq_true, isLogged.claimed id conn isShared]
      rfl

theorem Unseen.claim (isUnseen : sharing.Unseen conn) {other : Conn}
    (isShared : sharing.SharedBy id other) : (sharing.returning id other).Unseen conn where
  dialed := isUnseen.dialed
  unshared position isPosition := isUnseen.unshared position (sharedBy_returning isPosition)
  unreturned isReturned := by
    rcases returned_returning.mp isReturned with wasReturned | rfl
    · exact isUnseen.unreturned wasReturned
    · exact isUnseen.unshared id isShared

end Sharing

/-! ## Whole runs -/

section

variable [DecidableEq Conn]

def PoolPosition.carriesConn (conn : Conn) (position : PoolPosition Conn) : Bool :=
  position.carries = some conn

variable {conn : Conn} {position : PoolPosition Conn} {after sharing : Sharing Conn}

theorem PoolPosition.carriesConn_of_none
    (isFree : position.carries = none) : position.carriesConn conn = false := by
  simp [carriesConn, isFree]

theorem PoolPosition.carriesConn_eq_true :
    position.carriesConn conn = true ↔ position.carries = some conn :=
  decide_eq_true_iff

/-- What a step does to the connections that are shared and returned. -/
theorem Shares.kinds {next : PoolPosition Conn} (shares : Shares sharing position after next) :
    sharing.Shrinks after ∧ next.carries = none ∨
      (∃ conn, after = { sharing with dialed := sharing.dialed ++ [conn] } ∧
        (next.carries = none ∨ next.carries = some conn)) ∨
      (∃ id conn slot, position.carries = some conn ∧ position.dials = some id ∧
        after = sharing.setSlot id slot ∧ slot.shared = some conn ∧
        slot.claimed = (sharing.slots id).claimed ∧ next.carries = none) ∨
      ∃ id conn, sharing.SharedBy id conn ∧ after = sharing.returning id conn ∧
        next.carries = none := by
  cases shares with
  | keep sameSlots sameReturned sameDialed _ _ isFree =>
    refine .inl ⟨⟨?_, sameReturned, sameDialed⟩, isFree⟩
    intro id conn isShared
    rw [Sharing.SharedBy, sameSlots] at isShared
    exact ⟨isShared, by rw [sameSlots]⟩
  | dial conn same isNext => exact .inr (.inl ⟨conn, same, isNext⟩)
  | announce id _ notShared _ same isFree =>
    subst same
    exact .inl ⟨.setSlot fun conn isShared => ⟨isShared, rfl⟩, isFree⟩
  | start _ _ same isFree => exact .inl ⟨same ▸ .refl, isFree⟩
  | settle id installed isCarried same isFree isDial =>
    subst same
    cases installed with
    | none => exact .inl ⟨.setSlot fun conn isShared => ⟨isShared, rfl⟩, isFree⟩
    | some conn =>
      have isCarried : position.carries = some conn := isCarried.resolve_left (by simp)
      exact .inr (.inr (.inl ⟨id, conn, _, isCarried, isDial, rfl, rfl, rfl, isFree⟩))
  | claim id conn _ isShared same isFree =>
    exact .inr (.inr (.inr ⟨id, conn, isShared, same, isFree⟩))
  | remove _ conn _ _ same isFree =>
    subst same
    refine .inl ⟨.setSlot ?_, isFree⟩
    intro _ isShared
    rw [Sharing.without] at isShared ⊢
    split_ifs at isShared with notShared
    rw [if_neg notShared]
    exact ⟨isShared, rfl⟩
  | renew same isFree =>
    subst same
    have shrinks : sharing.Shrinks
        (sharing.setSlot sharing.nextState ⟨none, false, false, []⟩) :=
      .setSlot (by rintro _ ⟨⟩)
    exact .inl ⟨⟨shrinks.shared, rfl, rfl⟩, isFree⟩

theorem Shares.dialed_sublist {next : PoolPosition Conn}
    (shares : Shares sharing position after next) : sharing.dialed.Sublist after.dialed := by
  rcases shares.kinds with ⟨shrinks, -⟩ | ⟨conn, rfl, -⟩ | ⟨id, conn, _, -, -, rfl, -⟩ |
    ⟨id, conn, -, rfl, -⟩
  · exact shrinks.dialed ▸ List.Sublist.refl _
  · exact sublist_append_left _ _
  · exact List.Sublist.refl _
  · exact List.Sublist.refl _

/-- A connection that is about to be installed is in the hands of one goroutine
and was never seen. -/
structure PoolSystem.Reading (system : PoolSystem Conn) : Prop where
  logged : system.pool.sharing.Logged
  unseen : ∀ position ∈ system.threads, ∀ conn, position.carries = some conn →
    system.pool.sharing.Unseen conn
  once : ∀ conn, system.threads.countP (carriesConn conn) ≤ 1

namespace PoolSystem.Reading

variable {options : ConnPoolOptions} {system after : PoolSystem Conn}

theorem start : ({} : PoolSystem Conn).Reading where
  logged := by
    refine ⟨?_, by simp [Sharing.Returned, ConnPool.sharing], ?_, ?_,
      by simp [ConnPool.sharing]⟩ <;> simp [Sharing.SharedBy, ConnPool.sharing, ConnPoolState.slot]
  unseen := by simp
  once := fun conn => Nat.zero_le 1

variable {outcome : PoolOutcome Conn} {position : PoolPosition Conn} {thread : Nat}

section

variable (isReading : system.Reading)
include isReading

theorem of_step (isAt : system.threads[thread]? = some position)
    (isLogged : outcome.pool.sharing.Logged)
    (isNext : ∀ conn, outcome.position.carries = some conn → outcome.pool.sharing.Unseen conn)
    (others : ∀ conn, system.pool.sharing.Unseen conn →
      0 < (system.threads.set thread outcome.position).countP (carriesConn conn) →
      outcome.pool.sharing.Unseen conn) (isOnce : ∀ conn, outcome.position.carries = some conn →
      system.threads.countP (carriesConn conn) = 0) :
    (system.moved thread position outcome).Reading := by
  refine ⟨isLogged, ?_, ?_⟩
  · intro next member conn isCarried
    rcases mem_append.mp member with member | isStarted
    · have positive : 0 <
          (system.threads.set thread outcome.position).countP (carriesConn conn) :=
        countP_pos_iff.mpr
          ⟨next, member, carriesConn_eq_true.mpr isCarried⟩
      rcases mem_or_eq_of_mem_set member with member | rfl
      · exact others conn (isReading.unseen next member conn isCarried) positive
      · exact isNext conn isCarried
    · rcases eq_of_started isStarted with ⟨ctx, id, connect, rfl⟩
      cases isCarried
  · intro conn
    have noneStarted : position.started.countP (carriesConn conn) = 0 := by
      rw [countP_eq_zero]
      intro started member
      rcases eq_of_started member with ⟨ctx, id, connect, rfl⟩
      exact false_ne_true
    have counted := countP_set_add outcome.position (carriesConn conn) isAt
    have before := isReading.once conn
    rw [PoolSystem.moved, countP_append, noneStarted]
    cases isCarried : outcome.position.carriesConn conn with
    | false =>
      rw [isCarried, toNat_false] at counted
      omega
    | true =>
      have none := isOnce conn (carriesConn_eq_true.mp isCarried)
      rw [isCarried, toNat_true] at counted
      omega

theorem step (isDialing : system.Dialing) (isAt : system.threads[thread]? = some position)
    (shares : Shares system.pool.sharing position outcome.pool.sharing outcome.position)
    (fresh : outcome.pool.sharing.dialed.Nodup) :
    (system.moved thread position outcome).Reading := by
  have isMember := mem_of_getElem? isAt
  rcases shares.kinds with ⟨shrinks, isFree⟩ | ⟨conn, same, isNext⟩ |
    ⟨id, conn, slot, isCarried, isDial, same, isInstalled, sameClaim, isFree⟩ |
    ⟨id, conn, isShared, same, isFree⟩
  · apply isReading.of_step isAt (isReading.logged.shrinks shrinks)
    · simp [isFree]
    · exact fun conn isUnseen _ => isUnseen.shrinks shrinks
    · simp [isFree]
  · rw [same] at fresh
    have isNew : conn ∉ system.pool.sharing.dialed := by
      intro wasDialed
      exact (nodup_append.mp fresh).2.2 conn wasDialed conn (mem_singleton_self conn) rfl
    apply isReading.of_step isAt
    · exact same ▸ isReading.logged.dial conn
    · intro found isCarried
      rcases isNext with isFree | isNext
      · cases isFree.symm.trans isCarried
      · cases isNext.symm.trans isCarried
        exact same ▸ isReading.logged.unseen_of_new isNew
    · exact fun found isUnseen _ => same ▸ isUnseen.dial conn
    · intro found isCarried
      rcases isNext with isFree | isNext
      · cases isFree.symm.trans isCarried
      cases isNext.symm.trans isCarried
      rw [countP_eq_zero]
      intro other member wasCarried
      have isCarried := carriesConn_eq_true.mp wasCarried
      exact isNew (isReading.unseen other member conn isCarried).dialed
  · have isUnseen := isReading.unseen position isMember conn isCarried
    have isSlot := isDialing.sound.slots id
    have isUnclaimed : slot.claimed = false :=
      sameClaim.trans (isSlot.unclaimed (isSlot.dialing (isDialing.isDialing isMember isDial)))
    apply isReading.of_step isAt
    · exact same ▸ isReading.logged.install isUnseen isInstalled isUnclaimed
    · simp [isFree]
    · intro found wasUnseen positive
      have isOther : found ≠ conn := by
        rintro rfl
        have counted := countP_set_removed outcome.position (carriesConn found) isAt
          (carriesConn_eq_true.mpr isCarried)
          (carriesConn_of_none isFree)
        have before := isReading.once found
        omega
      exact same ▸ wasUnseen.install isOther isInstalled
    · simp [isFree]
  · apply isReading.of_step isAt
    · exact same ▸ isReading.logged.claim isShared
    · simp [isFree]
    · exact fun found isUnseen _ => same ▸ isUnseen.claim isShared
    · simp [isFree]

theorem call (isSingle : options.mode = .single) (call : PoolCall Conn) :
    (system.call options call).Reading := by
  have isFree : (call.position options).carries = none := by
    cases call <;> simp [PoolCall.position, isSingle, carries]
  refine ⟨isReading.logged, ?_, ?_⟩ <;> rw [PoolSystem.call]
  · rw [forall_mem_append, forall_mem_singleton]
    exact ⟨isReading.unseen, by simp [isFree]⟩
  · intro conn
    rw [countP_append, countP_singleton, carriesConn_of_none isFree]
    exact isReading.once conn

end

theorem next (isReading : system.pool.dialed.Nodup → system.Reading) (isDialing : system.Dialing)
    (isSingle : options.mode = .single) {action : PoolAction Conn}
    (isNext : system.next options action = some after) (fresh : after.pool.dialed.Nodup) :
    after.Reading := by
  cases action with
  | call call =>
    cases isNext
    exact (isReading fresh).call isSingle call
  | step =>
    rcases PoolSystem.step_cases isNext with ⟨position, _, isAt, isOutcome, rfl⟩
    have notOrdered := isDialing.single position (mem_of_getElem? isAt)
    have shares := (ConnPool.next_shares isSingle notOrdered isOutcome).1
    have wasFresh := fresh.sublist shares.dialed_sublist
    exact (isReading wasFresh).step isDialing isAt shares fresh
  | expire =>
    cases isNext
    have wasReading := isReading fresh
    exact { wasReading with }

theorem of_run (isSingle : options.mode = .single) (run : PoolRun options actions system)
    (fresh : system.pool.dialed.Nodup) : system.Reading := by
  have both : system.Dialing ∧ (system.pool.dialed.Nodup → system.Reading) := by
    apply run.preserves
    · exact ⟨Dialing.start, fun _ => start⟩
    · intro _ _ _ before isNext
      exact ⟨before.1.next isSingle isNext, next before.2 before.1 isSingle isNext⟩
  exact both.2 fresh

end PoolSystem.Reading

end

theorem shared_connection_one_reader [DecidableEq Conn] {options : ConnPoolOptions}
    {actions : List (PoolAction Conn)} {system : PoolSystem Conn}
    (isSingle : options.mode = .single) (run : PoolRun options actions system) :
    (∀ id, (system.pool.states id).all = (system.pool.states id).shared.toList) ∧
      (∀ id, system.threads.countP (dialsFor id) ≤ 1) ∧
      (system.pool.dialed.Nodup → ∀ index conn created,
        system.pool.returned[index]? = some (conn, created) →
        (created = true ↔ conn ∉ (system.pool.returned.take index).map Prod.fst)) := by
  have isDialing := PoolSystem.Dialing.of_run isSingle run
  refine ⟨fun id => (isDialing.sound.slots id).all, ?_, ?_⟩
  · intro id
    rw [isDialing.dials id]
    exact toNat_le _
  · intro fresh
    exact (PoolSystem.Reading.of_run isSingle run fresh).logged.first

/-- Two callers wait for one dial, and the one that did not start it collects
the connection first. -/
def twoCallers : List (PoolAction Nat) :=
  [.call (.acquireShared 0), .step 0 (.alive true), .step 0 .go, .call (.acquireShared 1),
    .step 2 (.alive true), .step 1 (.dialed (.ok 7) false), .step 1 .go, .step 1 .go,
    .step 2 .connected, .step 2 (.alive true), .step 0 .connected, .step 0 (.alive true)]

theorem shared_connection_one_reader_twoCallers :
    ∃ system, PoolRun ⟨.single, 0⟩ twoCallers system ∧
      system.pool.returned = [(7, true), (7, false)] ∧
      (false = true ↔ 7 ∉ (system.pool.returned.take 1).map Prod.fst) := by
  have run : PoolRun ⟨.single, 0⟩ twoCallers _ := Run.of_execute rfl
  exact ⟨_, run, rfl, (shared_connection_one_reader rfl run).2.2 (by decide) 1 7 false rfl⟩

end SingBox.Transport
