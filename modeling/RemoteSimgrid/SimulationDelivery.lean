import RemoteSimgrid.SimgridRendezvous
import RemoteSimgrid.SimulationSuspended

/-! The way of a payload through the server: it is allocated when a put is handled, it is on its way
in SimGrid, in a reception buffer, or in the hands of the actor whose receive has returned, and it is
deleted when it is copied for a client. -/

namespace RemoteSimgrid

open Machine Pb

/-! ### The log of payloads and buffers -/

/-- The outputs that concern no payload and no buffer. -/
def SimOutput.quiet : SimOutput → Bool
  | .dispatched _ _ | .served _ _ _ | .writeAck _ _ _ | .push _ _ => true
  | _ => false

def deliveryLog (trace : List SimOutput) : List SimOutput := trace.filter fun o => !o.quiet

def SimOutput.ofPayload (payload : Ptr) : SimOutput → Bool
  | .newString x _ | .copied x | .deletedString x => x = payload
  | _ => false

/-- What happens to a payload. -/
def payloadLog (payload : Ptr) (log : List SimOutput) : List SimOutput :=
  log.filter fun o => o.ofPayload payload

def SimOutput.ofBuffer (buffer : Ptr) : SimOutput → Bool
  | .transferred b _ | .readBuffer b | .deletedBuffer b => b = buffer
  | _ => false

/-- What happens to a reception buffer. -/
def bufferLog (buffer : Ptr) (log : List SimOutput) : List SimOutput :=
  log.filter fun o => o.ofBuffer buffer

/-- What the observations that find a comm completed find in its entry. -/
def foundLog (node : Nat) (log : List SimOutput) : List (Option Ptr) :=
  log.filterMap fun
    | .found n payload => if n = node then some payload else none
    | _ => none

/-- The quiet outputs do not count. -/
theorem payloadLog_deliveryLog (payload : Ptr) (trace : List SimOutput) :
    payloadLog payload (deliveryLog trace) = payloadLog payload trace := by
  rw [payloadLog, deliveryLog, List.filter_filter]
  refine List.filter_congr fun o _ => ?_
  cases o <;> simp [SimOutput.ofPayload, SimOutput.quiet]

theorem bufferLog_deliveryLog (buffer : Ptr) (trace : List SimOutput) :
    bufferLog buffer (deliveryLog trace) = bufferLog buffer trace := by
  rw [bufferLog, deliveryLog, List.filter_filter]
  refine List.filter_congr fun o _ => ?_
  cases o <;> simp [SimOutput.ofBuffer, SimOutput.quiet]

theorem foundLog_deliveryLog (node : Nat) (trace : List SimOutput) :
    foundLog node (deliveryLog trace) = foundLog node trace := by
  rw [foundLog, deliveryLog, List.filterMap_filter]
  refine List.filterMap_congr fun o _ => ?_
  cases o <;> rfl

theorem payloadLog_append (payload : Ptr) (log log' : List SimOutput) :
    payloadLog payload (log ++ log') = payloadLog payload log ++ payloadLog payload log' :=
  List.filter_append log log'

theorem bufferLog_append (buffer : Ptr) (log log' : List SimOutput) :
    bufferLog buffer (log ++ log') = bufferLog buffer log ++ bufferLog buffer log' :=
  List.filter_append log log'

theorem foundLog_append (node : Nat) (log log' : List SimOutput) :
    foundLog node (log ++ log') = foundLog node log ++ foundLog node log' :=
  List.filterMap_append

theorem deliveryLog_append (trace trace' : List SimOutput) :
    deliveryLog (trace ++ trace') = deliveryLog trace ++ deliveryLog trace' :=
  List.filter_append trace trace'

/-- The comm whose completion the return of a suspended handler reports. -/
def Frame.completed (ret : S4uReturn) (frame : Frame) : Option Iterator :=
  match frame, ret with
  | .commWaitFor comm, .done => some comm
  | .commTest comm, .bool true => some comm
  | .commWaitAnyFor comms _, .index index => if 0 ≤ index then comms[index.toNat]? else none
  | _, _ => none

/-- The buffer that a suspended receive has allocated. -/
def Frame.opened : Frame → Option Ptr
  | .mailboxGetAsync buffer => some buffer
  | _ => none

def ActorPoint.opened : ActorPoint → Option Ptr
  | .calling _ frame | .returned _ frame => frame.opened
  | _ => none

/-- The handler of a frame goes on with something that is not there: the entry of its comm, the
buffer, a payload in it, or a comm at the index that was returned. -/
def Frame.Dangles (frame : Frame) (ret : S4uReturn) (m : Memory) : Prop :=
  (∃ it, frame.completed ret = some it ∧ takeThrough it m = none) ∨
    (∃ it, frame.completed ret = some it ∧ (m.store.comms.find it.address).isSome ∧
      takeReceived it.address m = none) ∨
    (∃ comms pointers index, frame = .commWaitAnyFor comms pointers ∧ ret = .index index ∧
      0 ≤ index ∧ comms[index.toNat]? = none) ∨
    ∃ payload, frame = .mailboxGet ∧ ret = .payload payload ∧ m.strings.find payload = none

/-! ### What a segment does to them -/

/-- The payloads, the buffers and the receive comms after a segment, and its part of the log. -/
inductive Transfer (m : Memory) (before : ActorPoint) :
    Memory → ActorPoint → List SimOutput → Prop
  | quiet (m' : Memory) (after : ActorPoint) : m'.strings = m.strings → m'.buffers = m.buffers →
      m.next ≤ m'.next →
      (∀ c comm, m'.store.comms.find c = some comm →
        m.store.comms.find c = some comm ∨ comm.receptionBuffer = none) →
      (∀ c comm, m.store.comms.find c = some comm →
        m'.store.comms.find c = some comm ∨ m'.store.comms.find c = none) →
      after.opened = none → (∀ ret frame, after ≠ .returned ret frame) →
      (∀ call frame, after = .calling call frame → call.payload = none ∧ call.buffer = none) →
      Transfer m before m' after []
  | put (data : Bytes) (call : S4uCall) (frame : Frame) : call.payload = some m.next →
      call.buffer = none → frame.opened = none →
      Transfer m before (m.newString data) (.calling call frame) [.newString m.next data]
  | opening (mbox : String) :
      Transfer m before m.newBuffer (.calling (.mailboxGetAsync mbox m.next) (.mailboxGetAsync m.next))
        []
  | nothing (ret : S4uReturn) (frame : Frame) (it : Iterator) (comm : StoredComm) :
      before = .returned ret frame → frame.completed ret = some it →
      m.store.comms.find it.address = some comm → comm.receptionBuffer = none →
      Transfer m before m .reading [.found comm.node none]
  | taken (ret : S4uReturn) (frame : Frame) (it : Iterator) (comm : StoredComm)
      (buffer payload : Ptr) (data : Bytes) : before = .returned ret frame →
      frame.completed ret = some it → m.store.comms.find it.address = some comm →
      comm.receptionBuffer = some buffer → m.buffers.find buffer = some (some payload) →
      m.strings.find payload = some data →
      Transfer m before (m.takePayload it.address buffer payload) .reading
        [.found comm.node (some payload), .readBuffer buffer, .copied payload,
          .deletedString payload, .deletedBuffer buffer]
  | got (payload : Ptr) (data : Bytes) : before = .returned (.payload payload) .mailboxGet →
      m.strings.find payload = some data →
      Transfer m before { m with strings := m.strings.erase payload } .reading
        [.copied payload, .deletedString payload]
  | stored (address : Address) (buffer : Ptr) :
      before = .returned (.address address) (.mailboxGetAsync buffer) →
      m.store.comms.find address = none →
      Transfer m before
        ((m.intrusivePtrAddRef address).insertComm
          { comm := address, receptionBuffer := some buffer, node := m.next }) .reading []
  | undefined (ret : S4uReturn) (frame : Frame) : before = .returned ret frame →
      frame.Dangles ret m → Transfer m before m .terminated []

theorem Transfer.same {m m' : Memory} {before after : ActorPoint} (hstrings : m'.strings = m.strings)
    (hbuffers : m'.buffers = m.buffers) (hnext : m.next ≤ m'.next)
    (hcomms : ∀ c comm, m'.store.comms.find c = some comm →
      m.store.comms.find c = some comm ∨ comm.receptionBuffer = none)
    (hkept : ∀ c comm, m.store.comms.find c = some comm →
      m'.store.comms.find c = some comm ∨ m'.store.comms.find c = none)
    (hafter : after = .reading ∨ after = .ended ∨ after = .terminated ∨
      (∃ q, after = .waitingConnectAck q) ∨ ∃ q child, after = .waitingCanConnectAck q child) :
    Transfer m before m' after [] := by
  rcases hafter with rfl | rfl | rfl | ⟨q, rfl⟩ | ⟨q, child, rfl⟩ <;>
    exact .quiet _ _ hstrings hbuffers hnext hcomms hkept rfl (fun _ _ h => by cases h)
      (fun _ _ h => by cases h)

theorem Transfer.call {m m' : Memory} {before : ActorPoint} {call : S4uCall} {frame : Frame}
    (hstrings : m'.strings = m.strings) (hbuffers : m'.buffers = m.buffers) (hnext : m.next ≤ m'.next)
    (hcomms : m'.store.comms = m.store.comms) (hopened : frame.opened = none)
    (hcall : call.payload = none ∧ call.buffer = none) :
    Transfer m before m' (.calling call frame) [] := by
  refine .quiet _ _ hstrings hbuffers hnext (fun c comm h => Or.inl (hcomms ▸ h))
    (fun c comm h => Or.inl (hcomms ▸ h)) hopened (fun _ _ h => by cases h) ?_
  intro call' frame' heq
  cases heq
  exact hcall

theorem calls_of_plain {call : S4uCall} (h : call.plain) :
    call.payload = none ∧ call.buffer = none := by
  cases call <;> first | exact ⟨rfl, rfl⟩ | cases h

/-- The release of an entry leaves the payloads, the buffers and the other comms. -/
theorem free_leaves (m : Memory) (h : Handle) :
    (m.free h).strings = m.strings ∧ (m.free h).buffers = m.buffers ∧
      ∀ c, (m.free h).store.comms.find c = m.store.comms.find c ∨
        (m.free h).store.comms.find c = none := by
  cases h with
  | comm a =>
      simp only [Memory.free]
      split
      · refine ⟨rfl, rfl, fun c => ?_⟩
        simp only [UnorderedMap.find_erase]
        split
        · exact Or.inr rfl
        · exact Or.inl rfl
      · exact ⟨rfl, rfl, fun c => Or.inl rfl⟩
  | mutex a =>
      simp only [Memory.free]
      split <;> exact ⟨rfl, rfl, fun c => Or.inl rfl⟩
  | conditionVariable a =>
      simp only [Memory.free]
      split <;> exact ⟨rfl, rfl, fun c => Or.inl rfl⟩

theorem Switched.transfer {d : Decision} {m : Memory} {segment : Segment} (p : Pid) (socket : Socket)
    (before : ActorPoint) (howned : Owned m) (h : Switched d m segment) :
    Transfer m before segment.memory segment.outcome.point
      (deliveryLog (segment.out ++ segment.outcome.out p socket)) := by
  have hread : ∀ {m' : Memory} {after : ActorPoint}, m' = m → after = .reading ∨ after = .ended ∨
      after = .terminated ∨ (∃ q, after = .waitingConnectAck q) ∨
      (∃ q child, after = .waitingCanConnectAck q child) → Transfer m before m' after [] := by
    rintro m' after rfl hafter
    exact .same rfl rfl le_rfl (fun c comm h => Or.inl h) (fun c comm h => Or.inl h) hafter
  have hcall : ∀ {call : S4uCall} {frame : Frame}, frame.opened = none →
      call.payload = none ∧ call.buffer = none → Transfer m before m (.calling call frame) [] :=
    fun hopened hcall => .call rfl rfl le_rfl rfl hopened hcall
  cases h with
  | quit => exact hread rfl (Or.inr (Or.inl rfl))
  | plainAnswered => exact hread rfl (Or.inl rfl)
  | plainCalled call frame _ hplain hframe =>
      rcases hframe with rfl | rfl
      · exact hcall rfl (calls_of_plain hplain)
      · exact hcall rfl (calls_of_plain hplain)
  | unset => exact hread rfl (Or.inr (Or.inl rfl))
  | unknownHost => exact hread rfl (Or.inr (Or.inr (Or.inl rfl)))
  | unknownComm => exact hread rfl (Or.inr (Or.inl rfl))
  | failed => exact hread rfl (Or.inl rfl)
  | mutexTryLockFailed => exact hread rfl (Or.inl rfl)
  | freed handle e _ he _ =>
      obtain ⟨hstrings, hbuffers, hcomms⟩ := free_leaves m handle
      refine .same hstrings hbuffers (by rw [Segment.success, Segment.answer, Memory.next_free])
        (fun c comm h => ?_) (fun c comm h => ?_) (Or.inl rfl)
      · rcases hcomms c with heq | hnone
        · exact Or.inl (heq ▸ h)
        · exact absurd h (by simp [Segment.success, Segment.answer, hnone])
      · exact (hcomms c).imp_left fun heq => heq.trans h
  | decreased handle e _ he hne => exact absurd (howned.entry handle e he).2.2.2.1 hne
  | actorCreate => exact .call rfl rfl (Nat.le_add_right _ _) rfl rfl ⟨rfl, rfl⟩
  | commWaitFor => exact hcall rfl ⟨rfl, rfl⟩
  | commCancel => exact hcall rfl ⟨rfl, rfl⟩
  | commTest => exact hcall rfl ⟨rfl, rfl⟩
  | commWaitAnyFor => exact hcall rfl ⟨rfl, rfl⟩
  | mailboxPut put => exact .put put.data _ _ rfl rfl rfl
  | mailboxPutAsync put => exact .put put.data _ _ rfl rfl rfl
  | mailboxGet => exact hcall rfl ⟨rfl, rfl⟩
  | mailboxGetAsync mbox => exact .opening mbox.name
  | mutexCreate => exact hcall rfl ⟨rfl, rfl⟩
  | mutexLock => exact hcall rfl ⟨rfl, rfl⟩
  | mutexUnlock => exact hcall rfl ⟨rfl, rfl⟩
  | mutexTryLock => exact hcall rfl ⟨rfl, rfl⟩
  | conditionVariableCreate => exact hcall rfl ⟨rfl, rfl⟩
  | lockWaited c x cv mutex call frame _ _ _ hframe =>
      rcases hframe with ⟨rfl, rfl⟩ | ⟨rfl, _, rfl⟩ | ⟨rfl, _, rfl⟩ <;>
        exact hcall rfl ⟨rfl, rfl⟩
  | notified c cv call hd _ =>
      rcases hd with ⟨-, rfl⟩ | ⟨-, rfl⟩
      · exact hcall rfl ⟨rfl, rfl⟩
      · exact hcall rfl ⟨rfl, rfl⟩

theorem Taken.transfer {address : Address} {m m' : Memory} {out : List SimOutput} {data : Bytes}
    {before : ActorPoint} {ret : S4uReturn} {frame : Frame} {it : Iterator} (p : Pid)
    (socket : Socket) (ack : DecisionAck) (hbefore : before = .returned ret frame)
    (hcompleted : frame.completed ret = some it) (haddress : it.address = address)
    (h : Taken address m m' out data) :
    Transfer m before m' .reading
      (deliveryLog (out ++ (Outcome.finished ack true false).out p socket)) := by
  subst haddress
  cases h with
  | nothing comm hfind hbuffer => exact .nothing ret frame it comm hbefore hcompleted hfind hbuffer
  | payload comm buffer payload data hfind hbuffer hpayload hstring =>
      exact .taken ret frame it comm buffer payload data hbefore hcompleted hfind hbuffer hpayload
        hstring

theorem dangles_waitAny {m : Memory} {comms : List Iterator} (pointers : List Address) {index : Int}
    (hindex : 0 ≤ index)
    (hall : ∀ comm, comms[index.toNat]? = some comm →
      (m.store.comms.find comm.address).isSome ∧ takeReceived comm.address m = none) :
    (Frame.commWaitAnyFor comms pointers).Dangles (.index index) m := by
  cases hcomm : comms[index.toNat]? with
  | none => exact Or.inr (Or.inr (Or.inl ⟨comms, pointers, index, rfl, rfl, hindex, hcomm⟩))
  | some comm => exact Or.inr (Or.inl ⟨comm, (if_pos hindex).trans hcomm, hall comm hcomm⟩)

theorem Resumed.transfer {K : S4u} {k : K.State} {p : Pid} {socket : Socket} {frame : Frame}
    {ret : S4uReturn} {m : Memory} {segment : Segment} (howned : Owned m)
    (h : Resumed K k p socket frame ret m segment) :
    Transfer m (.returned ret frame) segment.memory segment.outcome.point
      (deliveryLog (segment.out ++ segment.outcome.out p socket)) := by
  have hread : ∀ {after : ActorPoint}, after = .reading ∨ after = .ended ∨ after = .terminated ∨
      (∃ q, after = .waitingConnectAck q) ∨ (∃ q child, after = .waitingCanConnectAck q child) →
      Transfer m (.returned ret frame) m after [] :=
    fun hafter =>
      .same rfl rfl le_rfl (fun c comm h => Or.inl h) (fun c comm h => Or.inl h) hafter
  cases h with
  | escaped => exact hread (Or.inr (Or.inr (Or.inl rfl)))
  | waitConnectAck connectAck => exact hread (Or.inr (Or.inr (Or.inr (Or.inl ⟨_, rfl⟩))))
  | dispatched d =>
      obtain ⟨segment, hswitched, heq⟩ := dispatch_eq K k p d m
      have htransfer := hswitched.transfer p socket (.returned ret frame) howned
      rw [heq]
      exact htransfer
  | acknowledged => exact hread (Or.inl rfl)
  | hostFailure => exact hread (Or.inl rfl)
  | actorCreated => exact hread (Or.inr (Or.inr (Or.inr (Or.inr ⟨_, _, rfl⟩))))
  | commWaited comm m' out data hframe hret _ htaken =>
      subst hframe hret
      exact htaken.transfer p socket _ rfl rfl rfl
  | commTested comm m' out data hframe hret _ htaken =>
      subst hframe hret
      exact htaken.transfer p socket _ rfl rfl rfl
  | commWaitedAny comms pointers index comm m' out data hframe hret hindex hcomm htaken =>
      subst hframe hret
      exact htaken.transfer p socket _ rfl ((if_pos hindex).trans hcomm) rfl
  | commWaitUndefined comm hframe hret hnone =>
      subst hframe hret
      exact .undefined _ _ rfl (Or.inl ⟨comm, rfl, hnone⟩)
  | commTestUndefined comm hframe hret hnone =>
      subst hframe hret
      exact .undefined _ _ rfl (Or.inl ⟨comm, rfl, hnone⟩)
  | commWaitAnyUndefined comms pointers index hframe hret hindex hall =>
      subst hframe hret
      exact .undefined _ _ rfl (dangles_waitAny pointers hindex hall)
  | mailboxGetUndefined payload hframe hret hnone =>
      subst hframe hret
      exact .undefined _ _ rfl (Or.inr (Or.inr (Or.inr ⟨payload, rfl, rfl, hnone⟩)))
  | commInconsistent => exact hread (Or.inr (Or.inl rfl))
  | existingComm => exact hread (Or.inr (Or.inl rfl))
  | commTimedOut => exact hread (Or.inl rfl)
  | commCanceled => exact hread (Or.inl rfl)
  | commPending => exact hread (Or.inl rfl)
  | commNoneFinished => exact hread (Or.inl rfl)
  | mailboxGet payload data hframe hret hstring =>
      subst hframe hret
      exact .got payload data rfl hstring
  | mutexTryLock => exact hread (Or.inl rfl)
  | conditionVariableStatus => exact hread (Or.inl rfl)
  | mailboxPutAsync address _ _ hnone =>
      refine .same rfl rfl (Nat.le_succ _) (fun c comm hfind => ?_) (fun c comm hfind => Or.inl ?_)
        (Or.inl rfl)
      · simp only [Segment.answer, Memory.insertComm, Memory.intrusivePtrAddRef,
          UnorderedMap.find_insert] at hfind
        split at hfind
        · cases hfind
          exact Or.inr rfl
        · exact Or.inl hfind
      · simp only [Segment.answer, Memory.insertComm, Memory.intrusivePtrAddRef]
        rw [UnorderedMap.find_insert_of_ne, hfind]
        rintro rfl
        rw [hnone] at hfind
        cases hfind
  | mailboxGetAsync buffer address hframe hret hnone =>
      subst hframe hret
      exact .stored address buffer rfl hnone
  | mutexCreate =>
      exact .same rfl rfl (Nat.le_add_right _ _) (fun c comm h => Or.inl h)
        (fun c comm h => Or.inl h) (Or.inl rfl)
  | conditionVariableCreate =>
      exact .same rfl rfl (Nat.le_succ _) (fun c comm h => Or.inl h)
        (fun c comm h => Or.inl h) (Or.inl rfl)

/-- A handler that meets undefined behaviour dangles. -/
theorem Ran.dangles {K : S4u} {s : Simulation K} {event : SimEvent K} {p : Pid} {socket : Socket}
    {segment : Segment} (h : Ran s event p socket segment)
    (hundefined : segment.outcome = .undefinedBehaviour) :
    ∃ actor ret frame, s.actors.find p = some actor ∧ actor.point = .returned ret frame ∧
      frame.Dangles ret s.memory := by
  have hdispatch : ∀ d, (dispatch K s.kernel p d s.memory).outcome ≠ .undefinedBehaviour := by
    intro d heq
    obtain ⟨segment, hswitched, hsegment⟩ := dispatch_eq K s.kernel p d s.memory
    rw [hsegment] at heq
    cases hswitched <;> cases heq
  cases h with
  | decided _ _ d => exact absurd hundefined (hdispatch d)
  | resumed _ actor ret frame _ _ hfind hpoint hresumed =>
      refine ⟨actor, ret, frame, hfind, hpoint, ?_⟩
      cases hresumed with
      | dispatched d => exact absurd hundefined (hdispatch d)
      | commWaitUndefined comm hframe hret hnone =>
          subst hframe hret
          exact Or.inl ⟨comm, rfl, hnone⟩
      | commTestUndefined comm hframe hret hnone =>
          subst hframe hret
          exact Or.inl ⟨comm, rfl, hnone⟩
      | commWaitAnyUndefined comms pointers index hframe hret hindex hall =>
          subst hframe hret
          exact dangles_waitAny pointers hindex hall
      | mailboxGetUndefined payload hframe hret hnone =>
          exact Or.inr (Or.inr (Or.inr ⟨payload, hframe, hret, hnone⟩))
      | _ => cases hundefined
  | _ => cases hundefined

theorem Ran.transfer {K : S4u} {s : Simulation K} {event : SimEvent K} {p : Pid} {socket : Socket}
    {segment : Segment} (howned : Owned s.memory) (h : Ran s event p socket segment) :
    ∃ before, s.actors.find p = some before ∧
      Transfer s.memory before.point segment.memory segment.outcome.point
        (deliveryLog (segment.out ++ segment.outcome.out p socket)) := by
  have hread : ∀ {before after : ActorPoint}, after = .reading ∨ after = .ended ∨
      after = .terminated ∨ (∃ q, after = .waitingConnectAck q) ∨
      (∃ q child, after = .waitingCanConnectAck q child) →
      Transfer s.memory before s.memory after [] :=
    fun hafter =>
      .same rfl rfl le_rfl (fun c comm h => Or.inl h) (fun c comm h => Or.inl h) hafter
  have hcall : ∀ {before : ActorPoint} {call : S4uCall} {frame : Frame}, frame.opened = none →
      call.payload = none ∧ call.buffer = none →
      Transfer s.memory before s.memory (.calling call frame) [] :=
    fun hopened hcall => .call rfl rfl le_rfl rfl hopened hcall
  cases h with
  | firstYield _ actor _ _ hfind _ => exact ⟨actor, hfind, hcall rfl ⟨rfl, rfl⟩⟩
  | resumed _ actor ret frame _ _ hfind hpoint hresumed =>
      refine ⟨actor, hfind, ?_⟩
      rw [hpoint]
      exact hresumed.transfer howned
  | decided _ _ d _ hfind _ =>
      obtain ⟨segment, hswitched, heq⟩ := dispatch_eq K s.kernel p d s.memory
      refine ⟨_, hfind, ?_⟩
      have htransfer := hswitched.transfer p socket .reading howned
      rw [heq]
      exact htransfer
  | thinking _ _ _ _ hfind _ => exact ⟨_, hfind, hcall rfl ⟨rfl, rfl⟩⟩
  | badThinkTime _ _ _ _ _ hfind _ => exact ⟨_, hfind, hread (Or.inr (Or.inl rfl))⟩
  | readFailed _ _ _ _ hfind => exact ⟨_, hfind, hread (Or.inr (Or.inl rfl))⟩
  | childAccepted _ _ _ _ _ hfind => exact ⟨_, hfind, hread (Or.inl rfl)⟩
  | badCanConnectAck _ _ _ _ _ _ _ hfind _ => exact ⟨_, hfind, hread (Or.inr (Or.inl rfl))⟩

end RemoteSimgrid
