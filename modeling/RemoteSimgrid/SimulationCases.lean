import RemoteSimgrid.SimulationThread

/-! What a handler can do: the cases of the switch on a decision, and the cases of the return from an
S4U call. Everything that later modules prove about runs starts from these case analyses. -/

namespace RemoteSimgrid

open Machine Pb

/-- A name under which a client refers to an object of the `RefcountStore`. -/
inductive Handle where
  | comm (address : Address)
  | mutex (address : Address)
  | conditionVariable (address : Address)
  deriving DecidableEq

/-- What the entries of the three maps have in common. -/
structure Entry where
  node : Nat
  object : Address
  remoteRefCount : Nat
  deriving DecidableEq

def StoredComm.entry (comm : StoredComm) : Entry := ⟨comm.node, comm.comm, comm.remoteRefCount⟩

def StoredMutex.entry (mutex : StoredMutex) : Entry :=
  ⟨mutex.node, mutex.mutex, mutex.remoteRefCount⟩

def StoredConditionVariable.entry (cv : StoredConditionVariable) : Entry :=
  ⟨cv.node, cv.conditionVariable, cv.remoteRefCount⟩

def Handle.address : Handle → Address
  | .comm address | .mutex address | .conditionVariable address => address

namespace Memory

variable (m : Memory)

/-- The entry of a handle, if there is one. -/
def entry : Handle → Option Entry
  | .comm address => (m.store.comms.find address).map (·.entry)
  | .mutex address => (m.store.mutexes.find address).map (·.entry)
  | .conditionVariable address => (m.store.conditionVariables.find address).map (·.entry)

/-- The release of the last remote reference. -/
def free : Handle → Memory
  | .comm address =>
      match m.store.comms.find address with
      | some comm =>
          { m.intrusivePtrRelease comm.comm with
            store := { m.store with comms := m.store.comms.erase address } }
      | none => m
  | .mutex address =>
      match m.store.mutexes.find address with
      | some mutex =>
          { m.intrusivePtrRelease mutex.mutex with
            locks := m.locks.erase mutex.lock
            store := { m.store with mutexes := m.store.mutexes.erase address } }
      | none => m
  | .conditionVariable address =>
      match m.store.conditionVariables.find address with
      | some cv =>
          { m.intrusivePtrRelease cv.conditionVariable with
            store := { m.store with conditionVariables := m.store.conditionVariables.erase address } }
      | none => m

/-- The release of a remote reference that is not the last one. -/
def decrease : Handle → Memory
  | .comm address =>
      { m with store := { m.store with
          comms := m.store.comms.modify address fun comm =>
            { comm with remoteRefCount := decrement comm.remoteRefCount } } }
  | .mutex address =>
      { m with store := { m.store with
          mutexes := m.store.mutexes.modify address fun mutex =>
            { mutex with remoteRefCount := decrement mutex.remoteRefCount } } }
  | .conditionVariable address =>
      { m with store := { m.store with
          conditionVariables := m.store.conditionVariables.modify address fun cv =>
            { cv with remoteRefCount := decrement cv.remoteRefCount } } }

end Memory

namespace Pb.DecisionType

/-- The handle that a decision releases. -/
def released : DecisionType → Option Handle
  | .commRefcountDecrease comm => some (.comm comm.address)
  | .mutexRefcountDecrease mutex => some (.mutex mutex.address)
  | .conditionVariableRefcountDecrease cv => some (.conditionVariable cv.address)
  | _ => none

/-- The condition variable and the mutex of a wait. -/
def lockWait : DecisionType → Option (Address × Address)
  | .conditionVariableWait wait => some (wait.conditionVariable.address, wait.mutex.address)
  | .conditionVariableWaitUntil wait => some (wait.conditionVariable.address, wait.mutex.address)
  | .conditionVariableWaitFor wait => some (wait.conditionVariable.address, wait.mutex.address)
  | _ => none

/-- The handles that the client put in a decision. -/
def handles : DecisionType → List Handle
  | .commRefcountDecrease comm => [.comm comm.address]
  | .commWaitFor wait => [.comm wait.comm.address]
  | .commCancel comm => [.comm comm.address]
  | .commTest comm => [.comm comm.address]
  | .commWaitAnyFor wait => wait.comms.map fun comm => .comm comm.address
  | .mutexRefcountDecrease mutex => [.mutex mutex.address]
  | .mutexLock mutex => [.mutex mutex.address]
  | .mutexUnlock mutex => [.mutex mutex.address]
  | .mutexTryLock mutex => [.mutex mutex.address]
  | .conditionVariableRefcountDecrease cv => [.conditionVariable cv.address]
  | .conditionVariableWait wait =>
      [.conditionVariable wait.conditionVariable.address, .mutex wait.mutex.address]
  | .conditionVariableWaitUntil wait =>
      [.conditionVariable wait.conditionVariable.address, .mutex wait.mutex.address]
  | .conditionVariableWaitFor wait =>
      [.conditionVariable wait.conditionVariable.address, .mutex wait.mutex.address]
  | .conditionVariableNotifyOne cv => [.conditionVariable cv.address]
  | .conditionVariableNotifyAll cv => [.conditionVariable cv.address]
  | _ => []

/-- The decisions that concern no object of the store, no payload and no actor creation. -/
def plain : DecisionType → Bool
  | .thisActorExecute _ | .thisActorSleepFor _ | .thisActorSleepUntil _ | .thisActorYield _
  | .actorGetName _ | .actorGetHost _ | .actorJoin _ | .engineGetClock _ | .hostByNameOrNull _
  | .hostCurrent _ | .mailboxEmpty _ | .mailboxListen _ | .mailboxReady _ => true
  | _ => false

/-- The member of the acknowledgment that the client's stub for a decision reads. The stub that sends
`quit` reads no acknowledgment. -/
def stubReads : DecisionType → Option DataCase
  | .quit _ | .typeNotSet => none
  | .actorGetName _ => some .kActorGetName
  | .actorGetHost _ => some .kActorGetHost
  | .actorCreate _ => some .kActorCreate
  | .commWaitFor _ => some .kCommWaitFor
  | .commTest _ => some .kCommTest
  | .commWaitAnyFor _ => some .kCommWaitAnyFor
  | .engineGetClock _ => some .kEngineGetClock
  | .hostCurrent _ => some .kHostCurrent
  | .mailboxPutAsync _ => some .kMailboxPutAsync
  | .mailboxGet _ => some .kMailboxGet
  | .mailboxGetAsync _ => some .kMailboxGetAsync
  | .mutexCreate _ => some .kMutexCreate
  | .mutexTryLock _ => some .kMutexTryLock
  | .conditionVariableCreate _ => some .kConditionVariableCreate
  | .conditionVariableWaitFor _ => some .kConditionVariableWaitFor
  | .conditionVariableWaitUntil _ => some .kConditionVariableWaitUntil
  | _ => some .dataNotSet

/-- An acknowledgment that fits a decision: a failure with nothing set, or a success with just the
member that the stub reads. -/
def Answers (type : DecisionType) (ack : DecisionAck) : Prop :=
  ∃ member, type.stubReads = some member ∧
    (ack.success = false ∧ ack.data = .dataNotSet ∨
      ack.success = true ∧ ack.data.dataCase = member)

theorem Answers.unset {type : DecisionType} {ack : DecisionAck}
    (htype : type.stubReads = some .dataNotSet) (hdata : ack.data = .dataNotSet) :
    type.Answers ack := by
  refine ⟨.dataNotSet, htype, ?_⟩
  rw [hdata]
  cases ack.success
  · exact Or.inl ⟨rfl, rfl⟩
  · exact Or.inr ⟨rfl, rfl⟩

theorem Answers.failure {type : DecisionType} {member : DataCase}
    (htype : type.stubReads = some member) : type.Answers { success := false } :=
  ⟨member, htype, Or.inl ⟨rfl, rfl⟩⟩

theorem Answers.success {type : DecisionType} {data : AckData}
    (htype : type.stubReads = some data.dataCase) :
    type.Answers { success := true, data := data } :=
  ⟨data.dataCase, htype, Or.inr ⟨rfl, rfl⟩⟩

end Pb.DecisionType

/-- The data that answers a plain decision. -/
def Pb.AckData.plain : AckData → Bool
  | .actorGetName _ | .actorGetHost _ | .engineGetClock _ | .hostCurrent _ | .dataNotSet => true
  | _ => false

/-- The bytes of a received payload that an acknowledgment carries. -/
def Pb.AckData.received : AckData → Bytes
  | .commWaitFor wait => wait.data
  | .commTest test => test.data
  | .commWaitAnyFor wait => wait.data
  | .mailboxGet data => data
  | _ => []

theorem AckData.plain_received {data : AckData} (h : data.plain) : data.received = [] := by
  cases data <;> first | rfl | cases h

def S4uCall.plain : S4uCall → Bool
  | .sleepFor _ | .sleepUntil _ | .execute _ | .yield | .actorJoin _ _ => true
  | _ => false

/-- The cases of the switch. -/
inductive Switched (d : Decision) (m : Memory) : Segment → Prop
  | quit (value : Bool) : d.type = .quit value →
      Switched d m { memory := m, outcome := .finished { success := true } false true }
  | plainAnswered (ack : DecisionAck) : d.type.plain → ack.data.plain → d.type.Answers ack →
      Switched d m (.answer m ack)
  | plainCalled (call : S4uCall) (frame : Frame) : d.type.plain → call.plain →
      frame = .acknowledge ∨ frame = .catchHostFailure → Switched d m (.call m call frame)
  | unset : d.type = .typeNotSet →
      Switched d m (.raise m "Received a decision with unset decision type.")
  | unknownHost (create : CreateActor) : d.type = .actorCreate create →
      Switched d m { memory := m, outcome := .escaped }
  | actorCreate (create : CreateActor) : d.type = .actorCreate create →
      Switched d m (.call { m with next := m.next + 2 }
        (.actorCreate (cStr create.name) create.host.name (m.next + 1))
        (.actorCreate m.next (m.next + 1)))
  | failed (h : Handle) : h ∈ d.type.handles → m.entry h = none → Switched d m (.failure m)
  | freed (h : Handle) (entry : Entry) : d.type.released = some h → m.entry h = some entry →
      entry.remoteRefCount = 1 → Switched d m (.success (m.free h))
  | decreased (h : Handle) (entry : Entry) : d.type.released = some h → m.entry h = some entry →
      entry.remoteRefCount ≠ 1 → Switched d m (.success (m.decrease h))
  | commWaitFor (wait : CommWaitFor) (comm : StoredComm) : d.type = .commWaitFor wait →
      m.store.comms.find wait.comm.address = some comm →
      Switched d m (.call m (.commWaitFor comm.comm wait.timeout)
        (.commWaitFor ⟨wait.comm.address, comm.node⟩))
  | commCancel (c : Comm) (comm : StoredComm) : d.type = .commCancel c →
      m.store.comms.find c.address = some comm →
      Switched d m (.call m (.commStart comm.comm) .acknowledge)
  | commTest (c : Comm) (comm : StoredComm) : d.type = .commTest c →
      m.store.comms.find c.address = some comm →
      Switched d m (.call m (.commTest comm.comm) (.commTest ⟨c.address, comm.node⟩))
  | commWaitAnyFor (wait : CommWaitAnyFor) (comms : List (Iterator × Address)) :
      d.type = .commWaitAnyFor wait → lookupComms m wait.comms = .ok comms →
      Switched d m (.call m (.commWaitAnyFor (comms.map Prod.snd) wait.timeout)
        (.commWaitAnyFor (comms.map Prod.fst) (comms.map Prod.snd)))
  | unknownComm (wait : CommWaitAnyFor) (e : Error) : d.type = .commWaitAnyFor wait →
      lookupComms m wait.comms = .error e → Switched d m { memory := m, outcome := .raised e }
  | mailboxPut (put : MailboxPut) : d.type = .mailboxPut put →
      Switched d m
        { memory := m.newString put.data, out := [.newString m.next put.data]
          outcome := .call (.mailboxPut put.mailbox.name m.next put.simulatedSize) .acknowledge }
  | mailboxPutAsync (put : MailboxPut) : d.type = .mailboxPutAsync put →
      Switched d m
        { memory := m.newString put.data, out := [.newString m.next put.data]
          outcome := .call (.mailboxPutAsync put.mailbox.name m.next put.simulatedSize)
            .mailboxPutAsync }
  | mailboxGet (mbox : Mailbox) : d.type = .mailboxGet mbox →
      Switched d m (.call m (.mailboxGet mbox.name) .mailboxGet)
  | mailboxGetAsync (mbox : Mailbox) : d.type = .mailboxGetAsync mbox →
      Switched d m (.call m.newBuffer (.mailboxGetAsync mbox.name m.next) (.mailboxGetAsync m.next))
  | mutexCreate (value : Bool) : d.type = .mutexCreate value →
      Switched d m (.call m .mutexCreate .mutexCreate)
  | mutexLock (x : Mutex) (mutex : StoredMutex) : d.type = .mutexLock x →
      m.store.mutexes.find x.address = some mutex →
      Switched d m (.call m (.mutexLock mutex.mutex) (.mutexLock ⟨x.address, mutex.node⟩))
  | mutexUnlock (x : Mutex) (mutex : StoredMutex) : d.type = .mutexUnlock x →
      m.store.mutexes.find x.address = some mutex →
      Switched d m (.call m (.mutexUnlock mutex.mutex) .acknowledge)
  | mutexTryLock (x : Mutex) (mutex : StoredMutex) : d.type = .mutexTryLock x →
      m.store.mutexes.find 0 = some mutex →
      Switched d m (.call m (.mutexTryLock mutex.mutex) .mutexTryLock)
  | mutexTryLockFailed (x : Mutex) : d.type = .mutexTryLock x →
      m.store.mutexes.find 0 = none → Switched d m (.failure m)
  | conditionVariableCreate (value : Bool) : d.type = .conditionVariableCreate value →
      Switched d m (.call m .conditionVariableCreate .conditionVariableCreate)
  | lockWaited (c x : Address) (cv : StoredConditionVariable) (mutex : StoredMutex) (call : S4uCall)
      (frame : Frame) : d.type.lockWait = some (c, x) →
      m.store.conditionVariables.find c = some cv → m.store.mutexes.find x = some mutex →
      (frame = .conditionVariableWait ⟨c, cv.node⟩ ⟨x, mutex.node⟩ mutex.lock ∧
          call = .conditionVariableWait cv.conditionVariable mutex.lock ∨
        frame = .conditionVariableWaitUntil ⟨c, cv.node⟩ ⟨x, mutex.node⟩ mutex.lock ∧
          (∃ timeoutTime,
            call = .conditionVariableWaitUntil cv.conditionVariable mutex.lock timeoutTime) ∨
        frame = .conditionVariableWaitFor ⟨c, cv.node⟩ ⟨x, mutex.node⟩ mutex.lock ∧
          ∃ duration, call = .conditionVariableWaitFor cv.conditionVariable mutex.lock duration) →
      Switched d m (.call m call frame)
  | notified (c : ConditionVariable) (cv : StoredConditionVariable) (call : S4uCall) :
      (d.type = .conditionVariableNotifyOne c ∧ call = .conditionVariableNotifyOne cv.conditionVariable ∨
        d.type = .conditionVariableNotifyAll c ∧
          call = .conditionVariableNotifyAll cv.conditionVariable) →
      m.store.conditionVariables.find c.address = some cv →
      Switched d m (.call m call .acknowledge)

section

variable {K : S4u} {k : K.State} {self : Pid} {d : Decision} {m : Memory}

theorem entry_comm_eq_none {address : Address} (h : m.store.comms.find address = none) :
    m.entry (.comm address) = none := by
  rw [Memory.entry, h, Option.map_none]

theorem entry_mutex_eq_none {address : Address} (h : m.store.mutexes.find address = none) :
    m.entry (.mutex address) = none := by
  rw [Memory.entry, h, Option.map_none]

theorem entry_conditionVariable_eq_none {address : Address}
    (h : m.store.conditionVariables.find address = none) :
    m.entry (.conditionVariable address) = none := by
  rw [Memory.entry, h, Option.map_none]

theorem lookupComms_error {comms : List Comm} {e : Error} (h : lookupComms m comms = .error e) :
    ∃ comm ∈ comms, m.entry (.comm comm.address) = none := by
  induction comms with
  | nil => cases h
  | cons comm comms ih =>
      simp only [lookupComms] at h
      split at h
      · rename_i hnone
        exact ⟨comm, List.mem_cons_self, entry_comm_eq_none hnone⟩
      · split at h
        · rename_i e' he'
          cases h
          obtain ⟨comm', hmem, hnone⟩ := ih he'
          exact ⟨comm', List.mem_cons_of_mem _ hmem, hnone⟩
        · cases h

theorem commRefcountDecrease_switched {comm : Comm} (hd : d.type = .commRefcountDecrease comm) :
    Switched d m (commRefcountDecrease d m) := by
  have haddress : d.commRefcountDecrease.address = comm.address := by
    simp only [Decision.commRefcountDecrease, hd]
  unfold commRefcountDecrease
  rw [haddress]
  cases hfind : m.store.comms.find comm.address with
  | none =>
      exact .failed (.comm comm.address) (by simp [hd, DecisionType.handles])
        (entry_comm_eq_none hfind)
  | some stored =>
      have hentry : m.entry (.comm comm.address) = some stored.entry := by
        rw [Memory.entry, hfind, Option.map_some]
      have hreleased : d.type.released = some (.comm comm.address) := by rw [hd]; rfl
      by_cases hone : stored.remoteRefCount = 1
      · have h := Switched.freed (.comm comm.address) _ hreleased hentry hone
        simp only [Memory.free, hfind] at h
        simp only [if_pos hone]
        exact h
      · simp only [if_neg hone]
        exact .decreased (.comm comm.address) _ hreleased hentry hone

theorem mutexRefcountDecrease_switched {mutex : Mutex}
    (hd : d.type = .mutexRefcountDecrease mutex) :
    Switched d m (mutexRefcountDecrease d m) := by
  have haddress : d.mutexRefcountDecrease.address = mutex.address := by
    simp only [Decision.mutexRefcountDecrease, hd]
  unfold mutexRefcountDecrease
  rw [haddress]
  cases hfind : m.store.mutexes.find mutex.address with
  | none =>
      exact .failed (.mutex mutex.address) (by simp [hd, DecisionType.handles])
        (entry_mutex_eq_none hfind)
  | some stored =>
      have hentry : m.entry (.mutex mutex.address) = some stored.entry := by
        rw [Memory.entry, hfind, Option.map_some]
      have hreleased : d.type.released = some (.mutex mutex.address) := by rw [hd]; rfl
      by_cases hone : stored.remoteRefCount = 1
      · have h := Switched.freed (.mutex mutex.address) _ hreleased hentry hone
        simp only [Memory.free, hfind] at h
        simp only [if_pos hone]
        exact h
      · simp only [if_neg hone]
        exact .decreased (.mutex mutex.address) _ hreleased hentry hone

theorem conditionVariableRefcountDecrease_switched {cv : ConditionVariable}
    (hd : d.type = .conditionVariableRefcountDecrease cv) :
    Switched d m (conditionVariableRefcountDecrease d m) := by
  have haddress : d.conditionVariableRefcountDecrease.address = cv.address := by
    simp only [Decision.conditionVariableRefcountDecrease, hd]
  unfold conditionVariableRefcountDecrease
  rw [haddress]
  cases hfind : m.store.conditionVariables.find cv.address with
  | none =>
      exact .failed (.conditionVariable cv.address) (by simp [hd, DecisionType.handles])
        (entry_conditionVariable_eq_none hfind)
  | some stored =>
      have hentry : m.entry (.conditionVariable cv.address) = some stored.entry := by
        rw [Memory.entry, hfind, Option.map_some]
      have hreleased : d.type.released = some (.conditionVariable cv.address) := by rw [hd]; rfl
      by_cases hone : stored.remoteRefCount = 1
      · have h := Switched.freed (.conditionVariable cv.address) _ hreleased hentry hone
        simp only [Memory.free, hfind] at h
        simp only [if_pos hone]
        exact h
      · simp only [if_neg hone]
        exact .decreased (.conditionVariable cv.address) _ hreleased hentry hone

theorem onComm_switched {address : Address} {call : StoredComm → S4uCall} {frame : Iterator → Frame}
    (hmem : Handle.comm address ∈ d.type.handles)
    (h : ∀ comm, m.store.comms.find address = some comm →
      Switched d m (.call m (call comm) (frame ⟨address, comm.node⟩))) :
    Switched d m (onComm address m call frame) := by
  unfold onComm
  cases hfind : m.store.comms.find address with
  | none => exact .failed _ hmem (entry_comm_eq_none hfind)
  | some comm => exact h comm hfind

theorem onConditionVariable_switched {address : Address} {call : StoredConditionVariable → S4uCall}
    (hmem : Handle.conditionVariable address ∈ d.type.handles)
    (h : ∀ cv, m.store.conditionVariables.find address = some cv →
      Switched d m (.call m (call cv) .acknowledge)) :
    Switched d m (onConditionVariable address m call) := by
  unfold onConditionVariable
  cases hfind : m.store.conditionVariables.find address with
  | none => exact .failed _ hmem (entry_conditionVariable_eq_none hfind)
  | some cv => exact h cv hfind

theorem onLock_switched {c x : Address} {call : Address → Ptr → S4uCall}
    {frame : Iterator → Iterator → Ptr → Frame} (hc : Handle.conditionVariable c ∈ d.type.handles)
    (hx : Handle.mutex x ∈ d.type.handles)
    (h : ∀ cv mutex, m.store.conditionVariables.find c = some cv → m.store.mutexes.find x = some mutex →
      Switched d m (.call m (call cv.conditionVariable mutex.lock)
        (frame ⟨c, cv.node⟩ ⟨x, mutex.node⟩ mutex.lock))) :
    Switched d m (onLock c x m call frame) := by
  unfold onLock
  cases hcv : m.store.conditionVariables.find c with
  | none => exact .failed _ hc (entry_conditionVariable_eq_none hcv)
  | some cv =>
      cases hmutex : m.store.mutexes.find x with
      | none => exact .failed _ hx (entry_mutex_eq_none hmutex)
      | some mutex => exact h cv mutex hcv hmutex

theorem switchDecision_switched : Switched d m (switchDecision K k self d m) := by
  cases hd : d.type with
  | quit value =>
      simp only [switchDecision, Decision.typeCase, hd]
      exact .quit value hd
  | thisActorExecute flop =>
      simp only [switchDecision, Decision.typeCase, hd]
      exact .plainCalled _ _ (by rw [hd]; rfl) rfl (Or.inr rfl)
  | thisActorSleepFor duration =>
      simp only [switchDecision, Decision.typeCase, hd]
      exact .plainCalled _ _ (by rw [hd]; rfl) rfl (Or.inr rfl)
  | thisActorSleepUntil timeout =>
      simp only [switchDecision, Decision.typeCase, hd]
      exact .plainCalled _ _ (by rw [hd]; rfl) rfl (Or.inr rfl)
  | thisActorYield value =>
      simp only [switchDecision, Decision.typeCase, hd]
      exact .plainCalled _ _ (by rw [hd]; rfl) rfl (Or.inl rfl)
  | actorGetName actor =>
      simp only [switchDecision, Decision.typeCase, hd]
      split
      · exact .plainAnswered _ (by rw [hd]; rfl) rfl (by rw [hd]; exact .success rfl)
      · exact .plainAnswered _ (by rw [hd]; rfl) rfl (by rw [hd]; exact .failure rfl)
  | actorGetHost actor =>
      simp only [switchDecision, Decision.typeCase, hd]
      split
      · exact .plainAnswered _ (by rw [hd]; rfl) rfl (by rw [hd]; exact .success rfl)
      · exact .plainAnswered _ (by rw [hd]; rfl) rfl (by rw [hd]; exact .failure rfl)
  | actorJoin join =>
      simp only [switchDecision, Decision.typeCase, hd]
      split
      · exact .plainCalled _ _ (by rw [hd]; rfl) rfl (Or.inl rfl)
      · exact .plainAnswered _ (by rw [hd]; rfl) rfl (by rw [hd]; exact .failure rfl)
  | actorCreate create =>
      simp only [switchDecision, Decision.typeCase, hd, actorCreate, Decision.actorCreate]
      split
      · exact .actorCreate create hd
      · exact .unknownHost create hd
  | commRefcountDecrease comm =>
      simp only [switchDecision, Decision.typeCase, hd]
      exact commRefcountDecrease_switched hd
  | commWaitFor wait =>
      simp only [switchDecision, Decision.typeCase, hd, Decision.commWaitFor]
      exact onComm_switched (by simp [hd, DecisionType.handles]) fun comm hfind =>
        .commWaitFor wait comm hd hfind
  | commCancel comm =>
      simp only [switchDecision, Decision.typeCase, hd, Decision.commCancel]
      exact onComm_switched (by simp [hd, DecisionType.handles]) fun stored hfind =>
        .commCancel comm stored hd hfind
  | commTest comm =>
      simp only [switchDecision, Decision.typeCase, hd, Decision.commTest]
      exact onComm_switched (by simp [hd, DecisionType.handles]) fun stored hfind =>
        .commTest comm stored hd hfind
  | commWaitAnyFor wait =>
      simp only [switchDecision, Decision.typeCase, hd, commWaitAnyFor, Decision.commWaitAnyFor]
      split
      · rename_i e he
        exact .unknownComm wait e hd he
      · rename_i comms hcomms
        exact .commWaitAnyFor wait comms hd hcomms
  | engineGetClock value =>
      simp only [switchDecision, Decision.typeCase, hd]
      exact .plainAnswered _ (by rw [hd]; rfl) rfl (by rw [hd]; exact .success rfl)
  | hostByNameOrNull name =>
      simp only [switchDecision, Decision.typeCase, hd]
      exact .plainAnswered _ (by rw [hd]; rfl) rfl (by rw [hd]; exact .unset rfl rfl)
  | hostCurrent value =>
      simp only [switchDecision, Decision.typeCase, hd]
      exact .plainAnswered _ (by rw [hd]; rfl) rfl (by rw [hd]; exact .success rfl)
  | mailboxEmpty mailbox =>
      simp only [switchDecision, Decision.typeCase, hd]
      exact .plainAnswered _ (by rw [hd]; rfl) rfl (by rw [hd]; exact .unset rfl rfl)
  | mailboxListen mailbox =>
      simp only [switchDecision, Decision.typeCase, hd]
      exact .plainAnswered _ (by rw [hd]; rfl) rfl (by rw [hd]; exact .unset rfl rfl)
  | mailboxReady mailbox =>
      simp only [switchDecision, Decision.typeCase, hd]
      exact .plainAnswered _ (by rw [hd]; rfl) rfl (by rw [hd]; exact .unset rfl rfl)
  | mailboxPut put =>
      simp only [switchDecision, Decision.typeCase, hd, Decision.mailboxPut]
      exact .mailboxPut put hd
  | mailboxPutAsync put =>
      simp only [switchDecision, Decision.typeCase, hd, Decision.mailboxPutAsync]
      exact .mailboxPutAsync put hd
  | mailboxGet mailbox =>
      simp only [switchDecision, Decision.typeCase, hd, Decision.mailboxGet]
      exact .mailboxGet mailbox hd
  | mailboxGetAsync mailbox =>
      simp only [switchDecision, Decision.typeCase, hd, Decision.mailboxGetAsync]
      exact .mailboxGetAsync mailbox hd
  | mutexCreate value =>
      simp only [switchDecision, Decision.typeCase, hd]
      exact .mutexCreate value hd
  | mutexRefcountDecrease mutex =>
      simp only [switchDecision, Decision.typeCase, hd]
      exact mutexRefcountDecrease_switched hd
  | mutexLock mutex =>
      simp only [switchDecision, Decision.typeCase, hd, Decision.mutexLock, onMutex]
      split
      · rename_i hfind
        exact .failed (.mutex mutex.address) (by simp [hd, DecisionType.handles])
          (entry_mutex_eq_none hfind)
      · rename_i stored hfind
        exact .mutexLock mutex stored hd hfind
  | mutexUnlock mutex =>
      simp only [switchDecision, Decision.typeCase, hd, Decision.mutexUnlock, onMutex]
      split
      · rename_i hfind
        exact .failed (.mutex mutex.address) (by simp [hd, DecisionType.handles])
          (entry_mutex_eq_none hfind)
      · rename_i stored hfind
        exact .mutexUnlock mutex stored hd hfind
  | mutexTryLock mutex =>
      simp only [switchDecision, Decision.typeCase, hd, Decision.mutexUnlock, onMutex]
      split
      · rename_i hfind
        exact .mutexTryLockFailed mutex hd hfind
      · rename_i stored hfind
        exact .mutexTryLock mutex stored hd hfind
  | conditionVariableCreate value =>
      simp only [switchDecision, Decision.typeCase, hd]
      exact .conditionVariableCreate value hd
  | conditionVariableRefcountDecrease cv =>
      simp only [switchDecision, Decision.typeCase, hd]
      exact conditionVariableRefcountDecrease_switched hd
  | conditionVariableWait wait =>
      simp only [switchDecision, Decision.typeCase, hd, Decision.conditionVariableWait]
      exact onLock_switched (by simp [hd, DecisionType.handles]) (by simp [hd, DecisionType.handles])
        fun cv mutex hcv hmutex => .lockWaited _ _ cv mutex _ _ (by rw [hd]; rfl) hcv hmutex
          (Or.inl ⟨rfl, rfl⟩)
  | conditionVariableWaitUntil wait =>
      simp only [switchDecision, Decision.typeCase, hd, Decision.conditionVariableWaitUntil]
      exact onLock_switched (by simp [hd, DecisionType.handles]) (by simp [hd, DecisionType.handles])
        fun cv mutex hcv hmutex => .lockWaited _ _ cv mutex _ _ (by rw [hd]; rfl) hcv hmutex
          (Or.inr (Or.inl ⟨rfl, _, rfl⟩))
  | conditionVariableWaitFor wait =>
      simp only [switchDecision, Decision.typeCase, hd, Decision.conditionVariableWaitFor]
      exact onLock_switched (by simp [hd, DecisionType.handles]) (by simp [hd, DecisionType.handles])
        fun cv mutex hcv hmutex => .lockWaited _ _ cv mutex _ _ (by rw [hd]; rfl) hcv hmutex
          (Or.inr (Or.inr ⟨rfl, _, rfl⟩))
  | conditionVariableNotifyOne cv =>
      simp only [switchDecision, Decision.typeCase, hd, Decision.conditionVariableNotifyOne]
      exact onConditionVariable_switched (by simp [hd, DecisionType.handles]) fun stored hfind =>
        .notified cv stored _ (Or.inl ⟨hd, rfl⟩) hfind
  | conditionVariableNotifyAll cv =>
      simp only [switchDecision, Decision.typeCase, hd, Decision.conditionVariableNotifyAll]
      exact onConditionVariable_switched (by simp [hd, DecisionType.handles]) fun stored hfind =>
        .notified cv stored _ (Or.inr ⟨hd, rfl⟩) hfind
  | typeNotSet =>
      simp only [switchDecision, Decision.typeCase, hd]
      exact .unset hd

end

/-! ### After a call -/

/-- What the handling of a completed comm takes from its entry. -/
inductive Taken (address : Address) (m : Memory) : Memory → List SimOutput → Bytes → Prop
  | nothing (comm : StoredComm) : m.store.comms.find address = some comm →
      comm.receptionBuffer = none → Taken address m m [.found comm.node none] []
  | payload (comm : StoredComm) (buffer payload : Ptr) (data : Bytes) :
      m.store.comms.find address = some comm → comm.receptionBuffer = some buffer →
      m.buffers.find buffer = some (some payload) → m.strings.find payload = some data →
      Taken address m (m.takePayload address buffer payload)
        [.found comm.node (some payload), .readBuffer buffer, .copied payload,
          .deletedString payload, .deletedBuffer buffer] data

theorem takeReceived_taken {address : Address} {m m' : Memory} {out : List SimOutput} {data : Bytes}
    (h : takeReceived address m = some (m', out, data)) : Taken address m m' out data := by
  unfold takeReceived at h
  split at h
  · cases h
  · rename_i comm hfind
    split at h
    · rename_i hnone
      cases h
      exact .nothing comm hfind hnone
    · rename_i buffer hbuffer
      split at h
      · rename_i payload hpayload
        split at h
        · rename_i string hstring
          cases h
          exact .payload comm buffer payload data hfind hbuffer hpayload hstring
        · cases h
      · cases h

theorem takeThrough_taken {comm : Iterator} {m m' : Memory} {out : List SimOutput} {data : Bytes}
    (h : takeThrough comm m = some (m', out, data)) :
    (∃ stored, m.store.comms.find comm.address = some stored ∧ stored.node = comm.node) ∧
      Taken comm.address m m' out data := by
  unfold takeThrough at h
  split at h
  · rename_i stored hfind
    split at h
    · rename_i hnode
      exact ⟨⟨stored, hfind, hnode⟩, takeReceived_taken h⟩
    · cases h
  · cases h

/-- The frames whose call only has to return for the decision to be acknowledged. -/
def Frame.plain : Frame → Bool
  | .acknowledge | .catchHostFailure | .mutexLock _ | .conditionVariableWait _ _ _ => true
  | _ => false

/-- The cases of a return. -/
inductive Resumed (K : S4u) (k : K.State) (self : Pid) (socket : Socket) (frame : Frame)
    (ret : S4uReturn) (m : Memory) : Segment → Prop
  | escaped : ret.isException → Resumed K k self socket frame ret m { memory := m, outcome := .escaped }
  | waitConnectAck (connectAck : Queue) : frame = .firstYield connectAck → ret = .done →
      Resumed K k self socket frame ret m { memory := m, outcome := .waitConnectAck connectAck }
  | dispatched (d : Decision) : frame = .thinkTime d → ret = .done →
      Resumed K k self socket frame ret m (dispatch K k self d m)
  | acknowledged : frame.plain → ret = .done → Resumed K k self socket frame ret m (.success m)
  | hostFailure : frame = .catchHostFailure → ret = .hostFailureException →
      Resumed K k self socket frame ret m (.failure m)
  | actorCreated (canConnectAck connectAck : Queue) (child : Pid) :
      frame = .actorCreate canConnectAck connectAck → ret = .pid child →
      Resumed K k self socket frame ret m
        { memory := m, out := [.push toCommand (.actorCreate child canConnectAck connectAck)]
          outcome := .waitCanConnectAck canConnectAck child }
  | commWaited (comm : Iterator) (m' : Memory) (out : List SimOutput) (data : Bytes) :
      frame = .commWaitFor comm → ret = .done →
      (∃ stored, m.store.comms.find comm.address = some stored ∧ stored.node = comm.node) →
      Taken comm.address m m' out data →
      Resumed K k self socket frame ret m
        { memory := m', out := out
          outcome := .finished { success := true, data := .commWaitFor { data := data } } true false }
  | commWaitUndefined (comm : Iterator) : frame = .commWaitFor comm → ret = .done →
      takeThrough comm m = none → Resumed K k self socket frame ret m (.undefinedBehaviour m)
  | commTimedOut (comm : Iterator) : frame = .commWaitFor comm → ret = .timeoutException →
      Resumed K k self socket frame ret m
        (.answer m { success := true, data := .commWaitFor { timeoutReached := true } })
  | commCanceled (comm : Iterator) : frame = .commWaitFor comm → ret = .cancelException →
      Resumed K k self socket frame ret m (.failure m)
  | commTested (comm : Iterator) (m' : Memory) (out : List SimOutput) (data : Bytes) :
      frame = .commTest comm → ret = .bool true →
      (∃ stored, m.store.comms.find comm.address = some stored ∧ stored.node = comm.node) →
      Taken comm.address m m' out data →
      Resumed K k self socket frame ret m
        { memory := m', out := out
          outcome := .finished
            { success := true, data := .commTest { isTerminated := true, data := data } } true false }
  | commTestUndefined (comm : Iterator) : frame = .commTest comm → ret = .bool true →
      takeThrough comm m = none → Resumed K k self socket frame ret m (.undefinedBehaviour m)
  | commPending (comm : Iterator) : frame = .commTest comm → ret = .bool false →
      Resumed K k self socket frame ret m
        (.answer m { success := true, data := .commTest { isTerminated := false } })
  | commWaitedAny (comms : List Iterator) (pointers : List Address) (index : Int) (comm : Iterator)
      (m' : Memory) (out : List SimOutput) (data : Bytes) :
      frame = .commWaitAnyFor comms pointers → ret = .index index → 0 ≤ index →
      comms[index.toNat]? = some comm → Taken comm.address m m' out data →
      Resumed K k self socket frame ret m
        { memory := m', out := out
          outcome := .finished
            { success := true
              data := .commWaitAnyFor { finishedCommIndex := index, data := data } } true false }
  | commWaitAnyUndefined (comms : List Iterator) (pointers : List Address) (index : Int) :
      frame = .commWaitAnyFor comms pointers → ret = .index index → 0 ≤ index →
      (∀ comm, comms[index.toNat]? = some comm →
        (m.store.comms.find comm.address).isSome ∧ takeReceived comm.address m = none) →
      Resumed K k self socket frame ret m (.undefinedBehaviour m)
  | commInconsistent (comms : List Iterator) (pointers : List Address) (index : Int)
      (comm : Iterator) : frame = .commWaitAnyFor comms pointers → ret = .index index → 0 ≤ index →
      comms[index.toNat]? = some comm → m.store.comms.find comm.address = none →
      Resumed K k self socket frame ret m (.raise m "Comm memory management inconsistency")
  | commNoneFinished (comms : List Iterator) (pointers : List Address) (index : Int) :
      frame = .commWaitAnyFor comms pointers → ret = .index index → index < 0 →
      Resumed K k self socket frame ret m
        (.answer m { success := true, data := .commWaitAnyFor { finishedCommIndex := index } })
  | mailboxPutAsync (address : Address) : frame = .mailboxPutAsync → ret = .address address →
      m.store.comms.find address = none →
      Resumed K k self socket frame ret m
        (.answer ((m.intrusivePtrAddRef address).insertComm { comm := address, node := m.next })
          { success := true, data := .mailboxPutAsync { address := address } })
  | mailboxGetAsync (receptionBuffer : Ptr) (address : Address) :
      frame = .mailboxGetAsync receptionBuffer → ret = .address address →
      m.store.comms.find address = none →
      Resumed K k self socket frame ret m
        (.answer
          ((m.intrusivePtrAddRef address).insertComm
            { comm := address, receptionBuffer := some receptionBuffer, node := m.next })
          { success := true, data := .mailboxGetAsync { address := address } })
  | existingComm (address : Address) (what : String) :
      frame = .mailboxPutAsync ∨ (∃ receptionBuffer, frame = .mailboxGetAsync receptionBuffer) →
      ret = .address address → m.store.comms.find address ≠ none →
      Resumed K k self socket frame ret m (.raise m what)
  | mailboxGet (payload : Ptr) (data : Bytes) : frame = .mailboxGet → ret = .payload payload →
      m.strings.find payload = some data →
      Resumed K k self socket frame ret m
        { memory := { m with strings := m.strings.erase payload }
          out := [.copied payload,
            .writeAck self socket { success := true, data := .mailboxGet data },
            .deletedString payload]
          outcome := .finished { success := true, data := .mailboxGet data } false false }
  | mailboxGetUndefined (payload : Ptr) : frame = .mailboxGet → ret = .payload payload →
      m.strings.find payload = none →
      Resumed K k self socket frame ret m (.undefinedBehaviour m)
  | mutexCreate (address : Address) : frame = .mutexCreate → ret = .address address →
      Resumed K k self socket frame ret m
        (.answer
          ((m.intrusivePtrAddRef address).insertMutex
            { mutex := address, lock := m.next + 1, node := m.next })
          { success := true, data := .mutexCreate { address := address } })
  | mutexTryLock (locked : Bool) : frame = .mutexTryLock → ret = .bool locked →
      Resumed K k self socket frame ret m
        (.answer m { success := true, data := .mutexTryLock locked })
  | conditionVariableCreate (address : Address) : frame = .conditionVariableCreate →
      ret = .address address →
      Resumed K k self socket frame ret m
        (.answer
          ((m.intrusivePtrAddRef address).insertConditionVariable
            { conditionVariable := address, node := m.next })
          { success := true, data := .conditionVariableCreate { address := address } })
  | conditionVariableStatus (conditionVariable mutex : Iterator) (lock : Ptr)
      (status : ConditionVariableStatus) (data : AckData) :
      frame = .conditionVariableWaitUntil conditionVariable mutex lock ∧
          data = .conditionVariableWaitUntil status ∨
        frame = .conditionVariableWaitFor conditionVariable mutex lock ∧
          data = .conditionVariableWaitFor status →
      ret = .cvStatus status →
      Resumed K k self socket frame ret m (.answer m { success := true, data := data })

section

variable {K : S4u} {k : K.State} {self : Pid} {socket : Socket} {frame : Frame} {ret : S4uReturn}
  {m : Memory} {segment : Segment}

/-- The last branch of every `resume` function. -/
theorem escaped_resumed
    (h : (if ret.isException then some { memory := m, outcome := .escaped } else none) =
      some segment) : Resumed K k self socket frame ret m segment := by
  split at h
  · rename_i hexception
    cases h
    exact .escaped hexception
  · cases h

theorem resumeAcknowledge_resumed (hframe : frame.plain)
    (h : resumeAcknowledge m ret = some segment) :
    Resumed K k self socket frame ret m segment := by
  unfold resumeAcknowledge at h
  split at h
  · cases h
    exact .acknowledged hframe rfl
  · exact escaped_resumed h

theorem finishCommWaitAnyFor_resumed {comms : List Iterator} {pointers : List Address} {index : Int}
    (hframe : frame = .commWaitAnyFor comms pointers) (hret : ret = .index index) :
    Resumed K k self socket frame ret m (finishCommWaitAnyFor comms index m) := by
  unfold finishCommWaitAnyFor
  by_cases hindex : 0 ≤ index
  · rw [if_pos hindex]
    cases hcomm : comms[index.toNat]? with
    | none =>
        refine .commWaitAnyUndefined comms pointers index hframe hret hindex ?_
        intro comm hsome
        rw [hcomm] at hsome
        cases hsome
    | some comm =>
        cases hfind : m.store.comms.find comm.address with
        | none =>
            simp only [hfind, Option.isSome_none, Bool.false_eq_true, if_false]
            exact .commInconsistent comms pointers index comm hframe hret hindex hcomm hfind
        | some stored =>
            simp only [hfind, Option.isSome_some, if_true]
            cases htaken : takeReceived comm.address m with
            | none =>
                refine .commWaitAnyUndefined comms pointers index hframe hret hindex ?_
                intro comm' hsome
                rw [hcomm] at hsome
                cases hsome
                exact ⟨by rw [hfind]; rfl, htaken⟩
            | some taken =>
                obtain ⟨m', out, data⟩ := taken
                exact .commWaitedAny comms pointers index comm m' out data hframe hret hindex hcomm
                  (takeReceived_taken htaken)
  · rw [if_neg hindex]
    exact .commNoneFinished comms pointers index hframe hret (not_le.mp hindex)

theorem resume_resumed (h : resume K k self socket frame ret m = some segment) :
    Resumed K k self socket frame ret m segment := by
  cases frame with
  | firstYield connectAck =>
      simp only [resume] at h
      split at h
      · rename_i hdone
        cases h
        exact .waitConnectAck connectAck rfl hdone
      · exact escaped_resumed h
  | thinkTime d =>
      simp only [resume] at h
      split at h
      · rename_i hdone
        cases h
        exact .dispatched d rfl hdone
      · exact escaped_resumed h
  | acknowledge => exact resumeAcknowledge_resumed rfl h
  | catchHostFailure =>
      simp only [resume] at h
      split at h
      · rename_i hfailure
        cases h
        exact .hostFailure rfl hfailure
      · exact resumeAcknowledge_resumed rfl h
  | actorCreate canConnectAck connectAck =>
      simp only [resume] at h
      split at h
      · rename_i child
        cases h
        exact .actorCreated canConnectAck connectAck child rfl rfl
      · exact escaped_resumed h
  | commWaitFor comm =>
      simp only [resume, resumeCommWaitFor] at h
      split at h
      · split at h
        · rename_i m' out data htaken
          cases h
          obtain ⟨hnode, htaken⟩ := takeThrough_taken htaken
          exact .commWaited comm m' out data rfl rfl hnode htaken
        · rename_i hnone
          cases h
          exact .commWaitUndefined comm rfl rfl hnone
      · cases h
        exact .commTimedOut comm rfl rfl
      · cases h
        exact .commCanceled comm rfl rfl
      · exact escaped_resumed h
  | commTest comm =>
      simp only [resume, resumeCommTest] at h
      split at h
      · split at h
        · rename_i m' out data htaken
          cases h
          obtain ⟨hnode, htaken⟩ := takeThrough_taken htaken
          exact .commTested comm m' out data rfl rfl hnode htaken
        · rename_i hnone
          cases h
          exact .commTestUndefined comm rfl rfl hnone
      · cases h
        exact .commPending comm rfl rfl
      · exact escaped_resumed h
  | commWaitAnyFor comms pointers =>
      simp only [resume, resumeCommWaitAnyFor] at h
      split at h
      · cases h
        exact finishCommWaitAnyFor_resumed rfl rfl
      · exact escaped_resumed h
  | mailboxPutAsync =>
      simp only [resume, resumeMailboxPutAsync] at h
      split at h
      · rename_i address
        split at h
        · rename_i hnone
          cases h
          exact .mailboxPutAsync address rfl rfl hnone
        · rename_i hsome
          cases h
          exact .existingComm address _ (Or.inl rfl) rfl hsome
      · exact escaped_resumed h
  | mailboxGet =>
      simp only [resume, resumeMailboxGet] at h
      split at h
      · rename_i payload
        split at h
        · rename_i data hdata
          cases h
          exact .mailboxGet payload data rfl rfl hdata
        · rename_i hnone
          cases h
          exact .mailboxGetUndefined payload rfl rfl hnone
      · exact escaped_resumed h
  | mailboxGetAsync receptionBuffer =>
      simp only [resume, resumeMailboxGetAsync] at h
      split at h
      · rename_i address
        split at h
        · rename_i hnone
          cases h
          exact .mailboxGetAsync receptionBuffer address rfl rfl hnone
        · rename_i hsome
          cases h
          exact .existingComm address _ (Or.inr ⟨receptionBuffer, rfl⟩) rfl hsome
      · exact escaped_resumed h
  | mutexCreate =>
      simp only [resume, resumeMutexCreate] at h
      split at h
      · rename_i address
        cases h
        exact .mutexCreate address rfl rfl
      · exact escaped_resumed h
  | mutexLock mutex => exact resumeAcknowledge_resumed rfl h
  | mutexTryLock =>
      simp only [resume] at h
      split at h
      · rename_i locked
        cases h
        exact .mutexTryLock locked rfl rfl
      · exact escaped_resumed h
  | conditionVariableCreate =>
      simp only [resume, resumeConditionVariableCreate] at h
      split at h
      · rename_i address
        cases h
        exact .conditionVariableCreate address rfl rfl
      · exact escaped_resumed h
  | conditionVariableWait cv mutex lock => exact resumeAcknowledge_resumed rfl h
  | conditionVariableWaitUntil cv mutex lock =>
      simp only [resume] at h
      split at h
      · rename_i status
        cases h
        exact .conditionVariableStatus cv mutex lock status _ (Or.inl ⟨rfl, rfl⟩) rfl
      · exact escaped_resumed h
  | conditionVariableWaitFor cv mutex lock =>
      simp only [resume] at h
      split at h
      · rename_i status
        cases h
        exact .conditionVariableStatus cv mutex lock status _ (Or.inr ⟨rfl, rfl⟩) rfl
      · exact escaped_resumed h

end

end RemoteSimgrid
