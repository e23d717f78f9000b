import RemoteSimgrid.SimulationDeliveryLog

/-! The delivery of payloads over whole runs of the SimGrid thread: each payload is copied into one
acknowledgment at most, by the first observation that finds its comm completed, and each buffer is
read and deleted once at most, after it was written. -/

namespace RemoteSimgrid

open Machine Pb

variable {K : S4u} {R : Rendezvous K} {s t : Simulation K} {event : SimEvent K}
  {trace out : List SimOutput}

/-! ### The invariant -/

/-- The entries that handlers look up are there, the payloads and the buffers are where they should
be, and the log of the run tells the same; then there has been no undefined behaviour. -/
structure DeliveryRun (R : Rendezvous K) (s : Simulation K) (trace : List SimOutput) : Prop where
  blocked : BlockedInv s
  suspended : AllSuspended s
  delivery : DeliveryInv R s.kernel s.memory s.point
  log : DeliveryLog s.memory (deliveryLog trace)
  running : s.crashed = false

/-- The comm of a handler whose call has returned is stored, in the entry that was looked up. -/
theorem BlockedInv.found (h : BlockedInv s) {p : Pid} {ret : S4uReturn} {frame : Frame}
    {it : Iterator} (hp : s.point p = some (.returned ret frame))
    (hcompleted : frame.completed ret = some it) :
    ∃ comm, s.memory.store.comms.find it.address = some comm ∧ comm.node = it.node := by
  obtain ⟨actor, hfind, hpoint⟩ := Option.map_eq_some_iff.mp hp
  have hlooked : (⟨.comm it.address, it.node, none⟩ : LookedUp) ∈ frame.lookedUp := by
    unfold Frame.completed at hcompleted
    split at hcompleted
    · cases hcompleted
      exact List.mem_singleton_self _
    · cases hcompleted
      exact List.mem_singleton_self _
    · split at hcompleted
      · exact List.mem_map.mpr ⟨it, List.mem_of_getElem? hcompleted, rfl⟩
      · cases hcompleted
    · cases hcompleted
  have hpresent := h.present p actor hfind ⟨.comm it.address, it.node, none⟩ (by
    rw [hpoint]
    exact hlooked)
  obtain ⟨e, he, hnode⟩ := hpresent.entry
  obtain ⟨comm, hcomm, rfl⟩ := Option.map_eq_some_iff.mp he
  exact ⟨comm, hcomm, hnode⟩

/-- The points of the actors when one of them has changed. -/
theorem point_setPoint_update {p : Pid} {actor : ServerActor} (hfind : s.actors.find p = some actor)
    (point : ActorPoint) : (s.setPoint p point).point = Function.update s.point p (some point) := by
  funext q
  by_cases hq : q = p
  · subst hq
    rw [Function.update_self, Simulation.point, find_setPoint, if_pos rfl, hfind]
    rfl
  · rw [Function.update_of_ne hq, Simulation.point, find_setPoint, if_neg hq, Simulation.point]

/-- After a segment the running actor has issued its call, if it makes one. -/
theorem issued_conclude (s : Simulation K) (p : Pid) (socket : Socket) (segment : Segment) :
    Issued K s.kernel p segment.outcome.point (s.conclude p socket segment).1.kernel := by
  simp only [Simulation.conclude]
  cases hcall : segment.outcome with
  | call call frame => exact Or.inl ⟨call, frame, rfl, rfl⟩
  | finished ack sendAck quitReceived =>
      refine Or.inr ⟨?_, rfl⟩
      cases quitReceived <;> exact fun _ _ heq => by cases heq
  | waitConnectAck => exact Or.inr ⟨fun _ _ heq => (by cases heq), rfl⟩
  | waitCanConnectAck => exact Or.inr ⟨fun _ _ heq => (by cases heq), rfl⟩
  | raised => exact Or.inr ⟨fun _ _ heq => (by cases heq), rfl⟩
  | escaped => exact Or.inr ⟨fun _ _ heq => (by cases heq), rfl⟩
  | undefinedBehaviour => exact Or.inr ⟨fun _ _ heq => (by cases heq), rfl⟩

theorem DeliveryRun.spawn (connections : List ActorConnection) :
    DeliveryRun R (Simulation.spawn K connections) [] where
  blocked := BlockedInv.spawn connections
  suspended := AllSuspended.spawn connections
  delivery := by
    have hpoint : ∀ {p at'}, (Simulation.spawn K connections).point p = some at' →
        at' = .spawned none := by
      intro p at' hp
      obtain ⟨actor, hfind, rfl⟩ := Option.map_eq_some_iff.mp hp
      exact find_spawn hfind
    have hpayload : ∀ place x, ¬payloadAt R K.init {} (Simulation.spawn K connections).point place x := by
      intro place x hx
      cases place with
      | simgrid => exact R.init_sent x hx
      | buffer b => cases hx
      | actor p => cases hpoint hx
    have hbuffer : ∀ place b, ¬bufferAt {} (Simulation.spawn K connections).point place b := by
      intro place b hb
      cases place with
      | comm c =>
          obtain ⟨comm, hc, -⟩ := hb
          cases hc
      | actor p =>
          obtain ⟨at', hat, hb⟩ := hb
          rw [hpoint hat] at hb
          cases hb
    exact
      { awaiting := fun b => ⟨fun hb => absurd hb (R.init_awaiting b), fun hb => by cases hb⟩
        strings_lt := fun x hx => absurd rfl hx
        buffers_lt := fun b hb => absurd rfl hb
        payload_live := fun place x hx => absurd hx (hpayload place x)
        payload_unique := fun place _ x hx => absurd hx (hpayload place x)
        buffer_live := fun place b hb => absurd hb (hbuffer place b)
        buffer_unique := fun place _ b hb => absurd hb (hbuffer place b)
        receiving := fun c comm b hc => by cases hc
        returned := fun p c b hp => by cases hpoint hp
        completed := fun p ret frame it hp => by cases hpoint hp
        index := fun p index comms pointers hp => by cases hpoint hp }
  log := DeliveryLog.empty rfl rfl
  running := rfl

/-- A step that changes neither the memory nor SimGrid, and makes no actor wait. -/
theorem DeliveryRun.idle (h : DeliveryRun R s trace) (hblocked : BlockedInv t)
    (hsuspended : AllSuspended t) (hkernel : t.kernel = s.kernel) (hmemory : t.memory = s.memory)
    (hcrashed : t.crashed = s.crashed) (hquiet : deliveryLog out = [])
    (hpoint : ∀ q at', t.point q = some at' → s.point q = some at' ∨
      at'.opened = none ∧ ∀ ret frame, at' ≠ .returned ret frame) :
    DeliveryRun R t (trace ++ out) where
  blocked := hblocked
  suspended := hsuspended
  delivery := by
    rw [hkernel, hmemory]
    exact h.delivery.points hpoint
  log := by
    rw [hmemory, deliveryLog_append, hquiet, List.append_nil]
    exact h.log
  running := hcrashed.trans h.running

theorem DeliveryRun.step (h : DeliveryRun R s trace) (hfresh : FreshAddress s event)
    (hguard : NoBlockedRelease s event) (hstep : SimStep s event t out) :
    DeliveryRun R t (trace ++ out) := by
  have hblocked := h.blocked.step hfresh hguard hstep
  have howned := h.blocked.store.owned
  have hsuspended := h.suspended.step howned hstep
  -- the points after a step that makes one actor go on
  have hmoved : ∀ (p : Pid) (at' : ActorPoint), at'.opened = none →
      (∀ ret frame, at' ≠ .returned ret frame) → t.point = Function.update s.point p (some at') →
      ∀ q at'', t.point q = some at'' → s.point q = some at'' ∨
        at''.opened = none ∧ ∀ ret frame, at'' ≠ .returned ret frame := by
    intro p at' hopened hreturned hpoint q at'' hq
    rw [hpoint] at hq
    by_cases hp : q = p
    · subst hp
      rw [Function.update_self, Option.some.injEq] at hq
      subst hq
      exact Or.inr ⟨hopened, hreturned⟩
    · rw [Function.update_of_ne hp] at hq
      exact Or.inl hq
  cases hstep with
  | ran _ p socket segment hran =>
      obtain ⟨before, hfind, htransfer⟩ := hran.transfer howned
      have hp : s.point p = some before.point := by rw [Simulation.point, hfind, Option.map_some]
      have hissued := issued_conclude { s with ready := event.remaining s.ready } p socket segment
      have hpoint : (({ s with ready := event.remaining s.ready }).conclude p socket segment).1.point =
          Function.update s.point p (some segment.outcome.point) :=
        point_setPoint_update (s := { s with ready := event.remaining s.ready }) hfind segment.outcome.point
      refine ⟨hblocked, hsuspended, ?_, ?_, ?_⟩
      · rw [hpoint]
        exact htransfer.deliveryInv h.delivery hp hissued fun q ret frame it hq hcompleted =>
          h.blocked.found hq hcompleted
      · rw [deliveryLog_append]
        exact htransfer.deliveryLog h.log howned h.delivery
      · -- undefined behaviour would need something that is not there
        simp only [Simulation.conclude, decide_eq_false_iff_not]
        intro hundefined
        obtain ⟨actor, ret, frame, hactor, hat, hdangles⟩ := hran.dangles hundefined
        have hp' : s.point p = some (.returned ret frame) := by
          rw [Simulation.point, hactor, Option.map_some, hat]
        exact h.delivery.defined hp' (fun it hcompleted => h.blocked.found hp' hcompleted) hdangles
  | started p actor _ hfind _ =>
      refine h.idle hblocked hsuspended rfl rfl rfl rfl
        (hmoved p .reading rfl (fun _ _ h => by cases h) ?_)
      exact point_setPoint_update (s := { s with ready := s.ready.erase p }) hfind .reading
  | served p actor call frame ret kernel _ _ hfind hpoint hserve hserved =>
      have hsame : t.kernel = kernel ∧ t.memory = s.memory ∧ t.crashed = s.crashed := by
        rcases serve_cases hserved with rfl | ⟨_, _, _, _, -, -, -, rfl⟩
        · exact ⟨rfl, rfl, rfl⟩
        · exact ⟨rfl, rfl, rfl⟩
      have hp : s.point p = some (.calling call frame) := by
        rw [Simulation.point, hfind, Option.map_some, hpoint]
      refine ⟨hblocked, hsuspended, ?_, ?_, hsame.2.2.trans h.running⟩
      · rw [hsame.1, hsame.2.1]
        have hself : t.point p = some (.returned ret frame) := by
          cases hat : t.actors.find p with
          | none =>
              have hnone := (SimStep.served (K := K) p actor call frame ret kernel t ‹_› hfind hpoint
                hserve hserved).find_none hat
              rw [hfind] at hnone
              cases hnone
          | some after =>
              rcases serve_find hserved hfind hat with ⟨-, hafter⟩ | ⟨hne, -⟩
              · rw [Simulation.point, hat, Option.map_some, hafter]
              · exact absurd rfl hne
        refine h.delivery.served hserve hp (h.suspended p actor call frame hfind hpoint) hself ?_ ?_
        · intro q hq
          cases hat : t.actors.find q with
          | none =>
              have hnone := (SimStep.served (K := K) p actor call frame ret kernel t ‹_› hfind hpoint
                hserve hserved).find_none hat
              refine Or.inl ?_
              rw [Simulation.point, hat, Simulation.point, hnone]
          | some after =>
              rcases serve_find hserved hfind hat with ⟨heq, -⟩ | ⟨-, hold | ⟨-, ack, hnew⟩⟩
              · exact absurd heq hq
              · refine Or.inl ?_
                rw [Simulation.point, hat, Simulation.point, hold]
              · exact Or.inr ⟨ack, by rw [Simulation.point, hat, Option.map_some, hnew]⟩
        · rintro a rfl
          obtain ⟨-, hnew, hhandles⟩ := hfresh
          refine ⟨Option.map_eq_none_iff.mp (howned.entry_eq_none (.comm a) hnew), ?_⟩
          intro q b hq
          obtain ⟨other, hother, hat⟩ := Option.map_eq_some_iff.mp hq
          apply hhandles other (UnorderedMap.mem_values.mpr ⟨q, hother⟩)
          rw [hat]
          exact List.mem_append_left _ (List.mem_singleton_self a)
      · rw [hsame.2.1, deliveryLog_append, show deliveryLog [.served p call ret] = [] from rfl,
          List.append_nil]
        exact h.log
  | progressed event kernel writes _ hprogress _ =>
      refine ⟨hblocked, hsuspended, h.delivery.progressed hprogress, ?_, h.running⟩
      have hwrites : deliveryLog (writes.map fun write => .transferred write.1 write.2) =
          writes.map fun write => .transferred write.1 write.2 := by
        refine List.filter_eq_self.mpr fun o ho => ?_
        obtain ⟨write, -, rfl⟩ := List.mem_map.mp ho
        rfl
      rw [deliveryLog_append, hwrites]
      exact h.log.progressed h.delivery hprogress
  | progressFailed event kernel writes _ hprogress hfailed =>
      exact absurd (h.delivery.progress_defined hprogress) hfailed
  | round => exact h.idle hblocked hsuspended rfl rfl rfl rfl fun q at' hq => Or.inl hq
  | connected p socket connectAck socket' _ hfind =>
      refine h.idle hblocked hsuspended rfl rfl rfl rfl
        (hmoved p .reading rfl (fun _ _ h => by cases h) ?_)
      funext q
      simp only [Simulation.point, UnorderedMap.find_modify]
      by_cases hq : q = p
      · subst hq
        rw [if_pos rfl, hfind, Function.update_self]
        rfl
      · rw [if_neg hq, Function.update_of_ne hq, Simulation.point]
  | connectFailed p socket connectAck msg _ hfind _ =>
      refine h.idle hblocked hsuspended rfl rfl rfl rfl
        (hmoved p .terminated rfl (fun _ _ h => by cases h) ?_)
      exact point_setPoint_update hfind .terminated

/-! ### What a step hands over -/

/-- The payloads that are copied for a client. -/
def copies (out : List SimOutput) : List Ptr :=
  out.filterMap fun
    | .copied payload => some payload
    | _ => none

/-- A step that copies a payload copies one, with the bytes that were sent, into the only
acknowledgment it writes; otherwise no acknowledgment carries any bytes. -/
inductive HandsOver (strings : Ptr → Option Bytes) (out : List SimOutput) : Prop
  | nothing : copies out = [] → (∀ ack ∈ acks out, ack.2.data.received = []) →
      HandsOver strings out
  | payload (x : Ptr) (data : Bytes) (p : Pid) (ack : DecisionAck) : copies out = [x] →
      acks out = [(p, ack)] → ack.data.received = data → strings x = some data →
      HandsOver strings out

theorem HandsOver.silent {strings : Ptr → Option Bytes} (hcopies : copies out = [])
    (hacks : acks out = []) : HandsOver strings out :=
  .nothing hcopies fun ack hack => by rw [hacks] at hack; cases hack

theorem HandsOver.answered {strings : Ptr → Option Bytes} {p : Pid} {ack : DecisionAck}
    (hcopies : copies out = []) (hacks : acks out = [(p, ack)]) (hdata : ack.data.received = []) :
    HandsOver strings out := by
  refine .nothing hcopies fun other hother => ?_
  rw [hacks, List.mem_singleton] at hother
  rw [hother]
  exact hdata

theorem Switched.handsOver (p : Pid) (socket : Socket) {d : Decision} {m : Memory}
    {segment : Segment} (h : Switched d m segment) :
    HandsOver m.strings.find (segment.out ++ segment.outcome.out p socket) := by
  cases h with
  | plainAnswered ack _ hdata => exact .answered rfl rfl (AckData.plain_received hdata)
  | failed => exact .answered rfl rfl rfl
  | freed => exact .answered rfl rfl rfl
  | decreased => exact .answered rfl rfl rfl
  | mutexTryLockFailed => exact .answered rfl rfl rfl
  | _ => exact .silent rfl rfl

theorem dispatch_handsOver (k : K.State) (p : Pid) (socket : Socket) (d : Decision) (m : Memory) :
    HandsOver m.strings.find
      ((dispatch K k p d m).out ++ (dispatch K k p d m).outcome.out p socket) := by
  obtain ⟨segment, hswitched, heq⟩ := dispatch_eq K k p d m
  rw [heq]
  cases hswitched.handsOver p socket with
  | nothing hcopies hacks => exact .nothing hcopies hacks
  | payload x data q ack hcopies hacks hack hdata =>
      exact .payload x data q ack hcopies hacks hack hdata

theorem Taken.handsOver {address : Address} {m m' : Memory} {data : Bytes} {ack : DecisionAck}
    {p : Pid} {socket : Socket} (h : Taken address m m' out data) (hack : ack.data.received = data) :
    HandsOver m.strings.find (out ++ (Outcome.finished ack true false).out p socket) := by
  cases h with
  | nothing => exact .answered rfl rfl hack
  | payload comm buffer payload data _ _ _ hdata =>
      exact .payload payload data p ack rfl rfl hack hdata

theorem Resumed.handsOver {k : K.State} {p : Pid} {socket : Socket} {frame : Frame} {ret : S4uReturn}
    {m : Memory} {segment : Segment} (h : Resumed K k p socket frame ret m segment) :
    HandsOver m.strings.find (segment.out ++ segment.outcome.out p socket) := by
  cases h with
  | dispatched d => exact dispatch_handsOver k p socket d m
  | commWaited _ _ _ _ _ _ _ htaken => exact htaken.handsOver rfl
  | commTested _ _ _ _ _ _ _ htaken => exact htaken.handsOver rfl
  | commWaitedAny _ _ _ _ _ _ _ _ _ _ _ htaken => exact htaken.handsOver rfl
  | mailboxGet payload data _ _ hdata => exact .payload payload data p _ rfl rfl rfl hdata
  | acknowledged => exact .answered rfl rfl rfl
  | hostFailure => exact .answered rfl rfl rfl
  | commTimedOut => exact .answered rfl rfl rfl
  | commCanceled => exact .answered rfl rfl rfl
  | commPending => exact .answered rfl rfl rfl
  | commNoneFinished => exact .answered rfl rfl rfl
  | mutexTryLock => exact .answered rfl rfl rfl
  | conditionVariableStatus cv mutex lock status data hframe _ =>
      rcases hframe with ⟨-, rfl⟩ | ⟨-, rfl⟩
      · exact .answered rfl rfl rfl
      · exact .answered rfl rfl rfl
  | mailboxPutAsync => exact .answered rfl rfl rfl
  | mailboxGetAsync => exact .answered rfl rfl rfl
  | mutexCreate => exact .answered rfl rfl rfl
  | conditionVariableCreate => exact .answered rfl rfl rfl
  | _ => exact .silent rfl rfl

theorem SimStep.handsOver (h : SimStep s event t out) : HandsOver s.memory.strings.find out := by
  cases h with
  | ran _ p socket segment hran =>
      cases hran with
      | decided _ _ d => exact dispatch_handsOver s.kernel p socket d s.memory
      | resumed _ _ _ _ _ _ _ _ hresumed => exact hresumed.handsOver
      | childAccepted => exact .answered rfl rfl rfl
      | _ => exact .silent rfl rfl
  | progressed event kernel writes =>
      have hnone : ∀ {α : Type} (f : SimOutput → Option α), (∀ b x, f (.transferred b x) = none) →
          (writes.map fun write => SimOutput.transferred write.1 write.2).filterMap f = [] := by
        intro α f hf
        refine List.filterMap_eq_nil_iff.mpr fun o ho => ?_
        obtain ⟨write, -, rfl⟩ := List.mem_map.mp ho
        exact hf write.1 write.2
      exact .silent (hnone _ fun _ _ => rfl) (hnone _ fun _ _ => rfl)
  | _ => exact .silent rfl rfl

/-! ### Delivery -/

/-- The handlers of the decisions that observe a comm. -/
def Frame.observes : Frame → Bool
  | .commWaitFor _ | .commTest _ | .commWaitAnyFor _ _ => true
  | _ => false

/-- In the log of a run a payload is copied and deleted once at most, in this order; a buffer is read
and deleted once at most, after it was written; and of the observations that find a comm completed
only the first one finds a payload. -/
structure DeliveredOnce (trace : List SimOutput) : Prop where
  payload : ∀ x, payloadLog x trace = [] ∨ ∃ data, payloadLog x trace = [.newString x data] ∨
    payloadLog x trace = [.newString x data, .copied x, .deletedString x]
  buffer : ∀ b, bufferLog b trace = [] ∨ ∃ x, bufferLog b trace = [.transferred b x] ∨
    bufferLog b trace = [.transferred b x, .readBuffer b, .deletedBuffer b]
  found : ∀ n, foundLog n trace = [] ∨
    ∃ first count, foundLog n trace = first :: List.replicate count none

/-- What a step does with payloads, buffers and entries. -/
structure StepDelivers (s : Simulation K) (trace : List SimOutput) (event : SimEvent K)
    (t : Simulation K) (out : List SimOutput) : Prop where
  /-- A copy goes into one acknowledgment, with the bytes that were sent. -/
  handsOver : copies out = [] ∧ (∀ ack ∈ acks out, ack.2.data.received = []) ∨
    ∃ x data p ack, copies out = [x] ∧ acks out = [(p, ack)] ∧ ack.data.received = data ∧
      .newString x data ∈ trace
  /-- A buffer is read by a handler whose call has reported its comm as completed. -/
  read : ∀ b, .readBuffer b ∈ out → ∃ p ret frame it comm, s.point p = some (.returned ret frame) ∧
    frame.completed ret = some it ∧ s.memory.store.comms.find it.address = some comm ∧
    comm.receptionBuffer = some b
  /-- An entry is changed only when its payload is copied, and removed only by its release. -/
  entry : ∀ c comm, s.memory.store.comms.find c = some comm →
    t.memory.store.comms.find c = some comm ∨
      (∃ x, .found comm.node (some x) ∈ out ∧
        t.memory.store.comms.find c = some { comm with receptionBuffer := none }) ∨
      ∃ p d, Dispatches s event p d ∧ d.type.released = some (.comm c)
  /-- An observation that does not find its comm completed changes nothing. -/
  unobserved : ∀ p ret frame, event = .schedule p → s.point p = some (.returned ret frame) →
    frame.observes = true → frame.completed ret = none → t.memory = s.memory

theorem DeliveryLog.deliveredOnce {m : Memory} (h : DeliveryLog m (deliveryLog trace)) :
    DeliveredOnce trace where
  payload x := by
    have hx := h.payload x
    rw [payloadLog_deliveryLog] at hx
    split at hx
    · exact Or.inr ⟨_, Or.inl hx⟩
    · exact hx.imp_right fun ⟨data, hx⟩ => ⟨data, Or.inr hx⟩
  buffer b := by
    have hb := h.buffer b
    rw [bufferLog_deliveryLog] at hb
    split at hb
    · exact Or.inl hb
    · exact Or.inr ⟨_, Or.inl hb⟩
    · exact hb.imp_right fun ⟨x, hb⟩ => ⟨x, Or.inr hb⟩
  found n := by
    have hn := h.found n
    rwa [foundLog_deliveryLog] at hn

/-- What is still allocated was sent. -/
theorem DeliveryLog.sent {m : Memory} (h : DeliveryLog m (deliveryLog trace)) {x : Ptr} {data : Bytes}
    (hx : m.strings.find x = some data) : .newString x data ∈ trace := by
  have hlog := h.payload x
  rw [hx, payloadLog_deliveryLog] at hlog
  have hmem : SimOutput.newString x data ∈ payloadLog x trace := by
    rw [hlog]
    exact List.mem_singleton_self _
  exact List.mem_of_mem_filter hmem

theorem mem_deliveryLog {b : Ptr} (h : .readBuffer b ∈ out) : .readBuffer b ∈ deliveryLog out :=
  List.mem_filter.mpr ⟨h, rfl⟩

theorem mem_of_mem_deliveryLog {o : SimOutput} (h : o ∈ deliveryLog out) : o ∈ out :=
  List.mem_of_mem_filter h

/-- An entry of a comm after a segment. -/
theorem Transfer.entry {m m' : Memory} {before after : ActorPoint} {log : List SimOutput}
    (h : Transfer m before m' after log) {c : Address} {comm : StoredComm}
    (hc : m.store.comms.find c = some comm) :
    m'.store.comms.find c = some comm ∨ m'.store.comms.find c = none ∨
      ∃ x, .found comm.node (some x) ∈ log ∧
        m'.store.comms.find c = some { comm with receptionBuffer := none } := by
  cases h with
  | quiet _ _ _ _ _ _ hkept => exact (hkept c comm hc).imp_right Or.inl
  | taken ret frame it comm' buffer payload data _ _ hfind =>
      simp only [Memory.takePayload, UnorderedMap.find_modify]
      by_cases heq : c = it.address
      · subst heq
        rw [hfind, Option.some.injEq] at hc
        subst hc
        exact Or.inr (Or.inr ⟨payload, List.mem_cons_self, by rw [if_pos rfl, hfind]; rfl⟩)
      · rw [if_neg heq]
        exact Or.inl hc
  | stored address buffer _ hnone =>
      refine Or.inl ?_
      rw [Memory.insertComm, Memory.intrusivePtrAddRef, UnorderedMap.find_insert_of_ne, hc]
      rintro rfl
      rw [hnone] at hc
      cases hc
  | _ => exact Or.inl hc

/-- A buffer is read by the handler that has its comm reported as completed. -/
theorem Transfer.read {m m' : Memory} {before after : ActorPoint} {log : List SimOutput}
    (h : Transfer m before m' after log) {b : Ptr} (hb : .readBuffer b ∈ log) :
    ∃ ret frame it comm, before = .returned ret frame ∧ frame.completed ret = some it ∧
      m.store.comms.find it.address = some comm ∧ comm.receptionBuffer = some b := by
  cases h with
  | taken ret frame it comm buffer payload data hbefore hcompleted hfind hbuffer =>
      have heq : b = buffer := by simpa using hb
      exact ⟨ret, frame, it, comm, hbefore, hcompleted, hfind, heq ▸ hbuffer⟩
  | _ => simp at hb

/-- An observation that does not find its comm completed leaves the memory alone. -/
theorem Resumed.unobserved {k : K.State} {p : Pid} {socket : Socket} {frame : Frame} {ret : S4uReturn}
    {m : Memory} {segment : Segment} (h : Resumed K k p socket frame ret m segment)
    (hobserves : frame.observes = true) (hcompleted : frame.completed ret = none) :
    segment.memory = m := by
  cases h with
  | dispatched d hframe => subst hframe; cases hobserves
  | commWaited _ _ _ _ hframe hret => subst hframe hret; cases hcompleted
  | commTested _ _ _ _ hframe hret => subst hframe hret; cases hcompleted
  | commWaitedAny comms pointers index comm m' out data hframe hret hindex hcomm =>
      subst hframe hret
      rw [Frame.completed, if_pos hindex, hcomm] at hcompleted
      cases hcompleted
  | mailboxPutAsync _ hframe => subst hframe; cases hobserves
  | mailboxGetAsync _ _ hframe => subst hframe; cases hobserves
  | mailboxGet _ _ hframe => subst hframe; cases hobserves
  | mutexCreate _ hframe => subst hframe; cases hobserves
  | conditionVariableCreate _ hframe => subst hframe; cases hobserves
  | _ => rfl

theorem DeliveryRun.stepDelivers (h : DeliveryRun R s trace) (hstep : SimStep s event t out) :
    StepDelivers s trace event t out where
  handsOver := by
    cases hstep.handsOver with
    | nothing hcopies hacks => exact Or.inl ⟨hcopies, hacks⟩
    | payload x data p ack hcopies hacks hack hdata =>
        exact Or.inr ⟨x, data, p, ack, hcopies, hacks, hack, h.log.sent hdata⟩
  read b hb := by
    cases hstep with
    | ran _ p socket segment hran =>
        obtain ⟨before, hfind, htransfer⟩ := hran.transfer h.blocked.store.owned
        obtain ⟨ret, frame, it, comm, hbefore, hread⟩ := htransfer.read (mem_deliveryLog hb)
        refine ⟨p, ret, frame, it, comm, ?_, hread⟩
        rw [Simulation.point, hfind, Option.map_some, hbefore]
    | progressed event kernel writes =>
        obtain ⟨write, -, heq⟩ := List.mem_map.mp hb
        cases heq
    | _ => simp at hb
  entry c comm hc := by
    obtain ⟨howned, hunstored⟩ := h.blocked.store
    by_cases hreleased : ∃ p d, Dispatches s event p d ∧ d.type.released = some (.comm c)
    · exact Or.inr (Or.inr hreleased)
    · -- without a release the entry is still there
      have hthere : t.memory.store.comms.find c ≠ none := by
        obtain ⟨p, hchange⟩ := hstep.change
        have hpresent : s.memory.Present ⟨.comm c, comm.node, none⟩ :=
          ⟨⟨comm.entry, by rw [Memory.entry, hc, Option.map_some], rfl⟩, fun _ h => by cases h⟩
        have hkept : ∀ d handle e, Dispatches s event p d → d.type.released = some handle →
            s.memory.entry handle = some e → e.remoteRefCount = 1 → Handle.comm c ≠ handle := by
          rintro d handle e hd hrelease _ _ rfl
          exact hreleased ⟨p, d, hd, hrelease⟩
        obtain ⟨e, he, -⟩ := (hpresent.change howned hunstored hchange hkept).entry
        intro hnone
        rw [Memory.entry, hnone] at he
        cases he
      cases hstep with
      | ran _ p socket segment hran =>
          obtain ⟨before, -, htransfer⟩ := hran.transfer howned
          rcases htransfer.entry hc with hkept | hgone | ⟨x, hfound, hcleared⟩
          · exact Or.inl hkept
          · exact absurd hgone hthere
          · exact Or.inr (Or.inl ⟨x, mem_of_mem_deliveryLog hfound, hcleared⟩)
      | served p actor call frame ret kernel _ _ _ _ _ hserved =>
          rcases serve_cases hserved with rfl | ⟨_, _, _, _, -, -, -, rfl⟩
          · exact Or.inl hc
          · exact Or.inl hc
      | _ => exact Or.inl hc
  unobserved p ret frame hevent hp hobserves hcompleted := by
    subst hevent
    obtain ⟨actor, hactor, hpoint⟩ := Option.map_eq_some_iff.mp hp
    cases hstep with
    | ran _ q socket segment hran =>
        cases hran with
        | firstYield _ _ _ _ _ _ => rfl
        | resumed _ actor' ret' frame' _ _ hfind' hpoint' hresumed =>
            rw [hactor, Option.some.injEq] at hfind'
            subst hfind'
            rw [hpoint] at hpoint'
            cases hpoint'
            exact hresumed.unobserved hobserves hcompleted
    | started => rfl

/-- In every run in which no entry is released while an actor is blocked on it there is no undefined
behaviour, every payload is delivered once at most, and every further step delivers what it should. -/
theorem delivered_once (R : Rendezvous K) {connections : List ActorConnection}
    {events : List (SimEvent K)}
    (hrun : Run (simulationStep K) (Simulation.spawn K connections) events s trace)
    (hfresh : Throughout (simulationStep K) FreshAddress (Simulation.spawn K connections) events)
    (hguard : Throughout (simulationStep K) NoBlockedRelease (Simulation.spawn K connections) events) :
    s.crashed = false ∧ DeliveredOnce trace ∧
      ∀ event t out, simulationStep K s event = some (t, out) →
        StepDelivers s trace event t out := by
  have hboth : Throughout (simulationStep K)
      (fun s event => FreshAddress s event ∧ NoBlockedRelease s event)
      (Simulation.spawn K connections) events :=
    fun before label after t trace heq hbefore =>
      ⟨hfresh before label after t trace heq hbefore, hguard before label after t trace heq hbefore⟩
  have hinv : DeliveryRun R s trace :=
    hrun.guarded_invariant (P := fun _ s trace => DeliveryRun R s trace) hboth
      (DeliveryRun.spawn connections)
      (fun _ hinv hsteps hstep => hinv.step hsteps.1 hsteps.2 (simulationStep_cases hstep).2)
  exact ⟨hinv.running, hinv.log.deliveredOnce,
    fun event t out hstep => hinv.stepDelivers (simulationStep_cases hstep).2⟩

/-! ### A SimGrid that hands payloads over -/

/-- Payloads on their way, buffers that are not written yet, and the buffers of the comms. -/
structure Mailroom where
  sent : List Ptr := []
  awaiting : List Ptr := []
  receiving : Address → Option Ptr := fun _ => none

/-- It serves any call with any result that is consistent with what was sent and received; its events
are the buffer and the payload it writes there. -/
def mailroomS4u : S4u where
  State := Mailroom
  Event := Ptr × Ptr
  init := {}
  issue k _ call :=
    { k with
      sent := call.payload.toList ++ k.sent
      awaiting := call.buffer.toList ++ k.awaiting }
  serve k _ call ret :=
    match call, ret with
    | .mailboxGet _, .payload x =>
        if x ∈ k.sent then some { k with sent := k.sent.filter fun y => y ≠ x } else none
    | .mailboxGetAsync _ b, .address c =>
        some { k with receiving := Function.update k.receiving c (some b) }
    | .commWaitAnyFor comms _, .index index =>
        if 0 ≤ index then
          match comms[index.toNat]? with
          | some comm =>
              if ∀ b ∈ (k.receiving comm).toList, b ∉ k.awaiting then some k else none
          | none => none
        else some k
    | call, ret =>
        match call.completed ret with
        | some comm => if ∀ b ∈ (k.receiving comm).toList, b ∉ k.awaiting then some k else none
        | none => some k
  progress k write :=
    if write.1 ∈ k.awaiting ∧ write.2 ∈ k.sent then
      some ({ k with
        sent := k.sent.filter fun x => x ≠ write.2
        awaiting := k.awaiting.filter fun b => b ≠ write.1 }, [write])
    else none
  hostByName _ _ := true
  actorByPid _ _ := none
  currentHost _ _ := ""
  getClock _ := 0
  mailboxEmpty _ _ := true
  mailboxListen _ _ := false
  mailboxReady _ _ := false

/-- The ways in which it serves a call. -/
theorem mailroomS4u_serve {k k' : Mailroom} {p : Pid} {call : S4uCall} {ret : S4uReturn}
    (h : mailroomS4u.serve k p call ret = some k') :
    (∃ mbox x, call = .mailboxGet mbox ∧ ret = .payload x ∧ x ∈ k.sent ∧
      k' = { k with sent := k.sent.filter fun y => y ≠ x }) ∨
    (∃ mbox b c, call = .mailboxGetAsync mbox b ∧ ret = .address c ∧
      k' = { k with receiving := Function.update k.receiving c (some b) }) ∨
    k' = k ∧ (∀ mbox x, call = .mailboxGet mbox → ret ≠ .payload x) ∧
      (∀ mbox b c, call = .mailboxGetAsync mbox b → ret ≠ .address c) ∧
      (∀ comm b, call.completed ret = some comm → k.receiving comm = some b → b ∉ k.awaiting) ∧
      ∀ comms timeout index, call = .commWaitAnyFor comms timeout → ret = .index index →
        0 ≤ index → comms[index.toNat]? ≠ none := by
  simp only [mailroomS4u] at h
  split at h
  · rename_i mbox x
    split at h
    · rename_i hsent
      cases h
      exact Or.inl ⟨mbox, x, rfl, rfl, hsent, rfl⟩
    · cases h
  · rename_i mbox b c
    cases h
    exact Or.inr (Or.inl ⟨mbox, b, c, rfl, rfl, rfl⟩)
  · rename_i comms timeout index
    refine Or.inr (Or.inr ?_)
    split at h
    · rename_i hindex
      split at h
      · rename_i comm hcomm
        split at h
        · rename_i hwritten
          cases h
          refine ⟨rfl, nofun, nofun, fun comm' b hcompleted hb => ?_, ?_⟩
          · rw [S4uCall.completed, if_pos hindex, hcomm, Option.some.injEq] at hcompleted
            subst hcompleted
            exact hwritten b (by rw [hb]; exact List.mem_singleton_self b)
          · rintro comms' timeout' index' ⟨⟩ ⟨⟩ - heq
            rw [hcomm] at heq
            cases heq
        · cases h
      · cases h
    · rename_i hindex
      cases h
      refine ⟨rfl, nofun, nofun, fun comm' b hcompleted => ?_, ?_⟩
      · rw [S4uCall.completed, if_neg hindex] at hcompleted
        cases hcompleted
      · rintro comms' timeout' index' ⟨⟩ ⟨⟩ hindex'
        exact absurd hindex' hindex
  · rename_i hget hgetAsync hwaitAny
    refine Or.inr (Or.inr ?_)
    have hcompleted : k' = k ∧ ∀ comm b, call.completed ret = some comm → k.receiving comm = some b →
        b ∉ k.awaiting := by
      split at h
      · rename_i comm hcompleted
        split at h
        · rename_i hwritten
          cases h
          refine ⟨rfl, fun comm' b hcompleted' hb => ?_⟩
          rw [hcompleted, Option.some.injEq] at hcompleted'
          subst hcompleted'
          exact hwritten b (by rw [hb]; exact List.mem_singleton_self b)
        · cases h
      · rename_i hnone
        cases h
        refine ⟨rfl, fun comm' b hcompleted' => ?_⟩
        rw [hnone] at hcompleted'
        cases hcompleted'
    exact ⟨hcompleted.1, fun mbox x hcall hret => hget mbox x hcall hret,
      fun mbox b c hcall hret => hgetAsync mbox b c hcall hret, hcompleted.2,
      fun comms timeout index hcall hret => (hwaitAny comms timeout index hcall hret).elim⟩

/-- It meets what the handlers rely on. -/
def mailroomRendezvous : Rendezvous mailroomS4u where
  sent k x := x ∈ k.sent
  awaiting k b := b ∈ k.awaiting
  receiving k := k.receiving
  init_sent _ h := by cases h
  init_awaiting _ h := by cases h
  issue_sent k p call x h := by
    rcases List.mem_append.mp h with h | h
    · exact Or.inr (Option.mem_toList.mp h)
    · exact Or.inl h
  issue_awaiting k p call b := by
    refine List.mem_append.trans (Or.comm.trans (or_congr_right ?_))
    exact Option.mem_toList
  issue_receiving _ _ _ := rfl
  progress_writes k event k' writes h := by
    simp only [mailroomS4u] at h
    split at h
    · rename_i hevent
      cases h
      refine ⟨List.nodup_singleton _, List.nodup_singleton _, fun write hwrite => ?_⟩
      rw [List.mem_singleton.mp hwrite]
      exact ⟨hevent.1, hevent.2, by simp⟩
    · cases h
  progress_sent k event k' writes x h hx := by
    simp only [mailroomS4u] at h
    split at h
    · cases h
      exact List.mem_of_mem_filter hx
    · cases h
  progress_awaiting k event k' writes b h := by
    simp only [mailroomS4u] at h
    split at h
    · cases h
      refine List.mem_filter.trans (and_congr_right fun _ => ?_)
      exact decide_eq_true_iff.trans (not_congr List.mem_singleton.symm)
    · cases h
  progress_receiving k event k' writes h := by
    simp only [mailroomS4u] at h
    split at h
    · cases h
      rfl
    · cases h
  serve_sent k p call ret k' x h hx := by
    rcases mailroomS4u_serve h with ⟨_, _, -, -, -, rfl⟩ | ⟨_, _, _, -, -, rfl⟩ | ⟨rfl, -⟩
    · exact List.mem_of_mem_filter hx
    · exact hx
    · exact hx
  serve_awaiting k p call ret k' b h := by
    rcases mailroomS4u_serve h with ⟨_, _, -, -, -, rfl⟩ | ⟨_, _, _, -, -, rfl⟩ | ⟨rfl, -⟩
    · exact Iff.rfl
    · exact Iff.rfl
    · exact Iff.rfl
  serve_receiving k p call ret k' comm h hne := by
    rcases mailroomS4u_serve h with ⟨_, _, -, -, -, rfl⟩ | ⟨_, _, c, -, rfl, rfl⟩ | ⟨rfl, -⟩
    · rfl
    · exact Function.update_of_ne (fun heq => hne (congrArg S4uReturn.address heq.symm)) _ _
    · rfl
  serve_get k p mbox x k' h := by
    rcases mailroomS4u_serve h with ⟨_, _, hcall, hret, hx, rfl⟩ | ⟨_, _, _, hcall, -⟩ | ⟨-, hno, -⟩
    · cases hcall
      cases hret
      exact ⟨hx, by simp⟩
    · cases hcall
    · exact absurd rfl (hno mbox x rfl)
  serve_getAsync k p mbox b comm k' h := by
    rcases mailroomS4u_serve h with ⟨_, _, hcall, -⟩ | ⟨_, _, _, hcall, hret, rfl⟩ | ⟨-, -, hno, -⟩
    · cases hcall
    · cases hcall
      cases hret
      exact Function.update_self _ _ _
    · exact absurd rfl (hno mbox b comm rfl)
  serve_completed k p call ret k' comm b h hcompleted hb := by
    rcases mailroomS4u_serve h with ⟨_, _, rfl, rfl, -⟩ | ⟨_, _, _, rfl, rfl, -⟩ | ⟨rfl, -, -, hdone, -⟩
    · cases hcompleted
    · cases hcompleted
    · exact hdone comm b hcompleted hb
  serve_index k p comms timeout index k' h hindex := by
    rcases mailroomS4u_serve h with ⟨_, _, hcall, -⟩ | ⟨_, _, _, hcall, -⟩ | ⟨-, -, -, -, hdone⟩
    · cases hcall
    · cases hcall
    · exact hdone comms timeout index rfl rfl hindex

/-- A server with a sender and a receiver. -/
def mailServer : Simulation mailroomS4u :=
  Simulation.spawn mailroomS4u [{ actorId := 2, socket := some 10 }, { actorId := 3, socket := some 11 }]

/-- The receiver opens a comm and tests it too early; the sender's message arrives while the receiver
waits. After that it tests the comm once more. -/
def mailEvents : List (SimEvent mailroomS4u) :=
  [.schedule 3, .decision { type := .mailboxGetAsync { name := "mailbox" } }, .schedule 2,
    .decision { type := .mailboxPutAsync { mailbox := { name := "mailbox" }, data := [7] } },
    .serve 3 (.address 100), .schedule 3, .decision { type := .commTest { address := 100 } },
    .serve 3 (.bool false), .schedule 3,
    .decision { type := .commWaitFor { comm := { address := 100 }, timeout := -1 } },
    .serve 2 (.address 200), .progress (1, 2), .serve 3 .done, .schedule 3,
    .decision { type := .commTest { address := 100 } }, .serve 3 (.bool true), .schedule 3]

theorem delivered_once_mail :
    ∃ s trace, Run (simulationStep mailroomS4u) mailServer mailEvents s trace ∧
      s.crashed = false ∧ DeliveredOnce trace ∧
      payloadLog 2 trace = [.newString 2 [7], .copied 2, .deletedString 2] ∧
      ∀ event t out, simulationStep mailroomS4u s event = some (t, out) →
        StepDelivers s trace event t out := by
  obtain ⟨s, trace, hexec, hlog⟩ : ∃ s trace,
      exec (simulationStep mailroomS4u) mailServer mailEvents = some (s, trace) ∧
      payloadLog 2 trace = [.newString 2 [7], .copied 2, .deletedString 2] := by
    refine ⟨_, _, rfl, ?_⟩
    rfl
  have hrun := Run.of_exec hexec
  have hcheck : Throughout (simulationStep mailroomS4u) checkNoRelease mailServer mailEvents :=
    Throughout.of_check rfl
  obtain ⟨hcrashed, honce, hsteps⟩ := delivered_once mailroomRendezvous hrun
    (Throughout.of_check rfl) fun before event after t trace heq hbefore =>
      noBlockedRelease_of_check (hcheck before event after t trace heq hbefore)
  exact ⟨s, trace, hrun, hcrashed, honce, hlog, hsteps⟩

end RemoteSimgrid
