import RemoteSimgrid.ClientComms
import RemoteSimgrid.SimulationReceive

/-! Whole runs of the server with clients that exchange messages: what a client waits for is what its
actor works on, and what it receives was sent. -/

namespace RemoteSimgrid

open Machine Pb

variable {K : S4u} {s t : CommSystem K} {event : CommEvent K} {trace out : List CommOutput}

/-- `FreshAddress`, for the steps of the server. -/
def FreshComm (s : CommSystem K) : CommEvent K → Prop
  | .handles event => FreshObject s.handles event
  | .call _ _ => True

instance (s : CommSystem K) (event : CommEvent K) : Decidable (FreshComm s event) := by
  cases event <;> simp only [FreshComm] <;> infer_instance

/-! ### What a step does -/

/-- What the clients do before the step of the SimGrid thread that an event comes with. -/
inductive Prepares (s : CommSystem K) : CommEvent K → SimEvent K → CommSystem K → Prop
  | call (call : CommCall) (thinkTime : ℚ) (p : Pid) : s.handles.server.current = some p →
      (∀ comm ∈ call.comms,
        s.destinations (s.process p) comm.remoteAddress = comm.destinationBuffer) →
      Prepares s (.call call thinkTime) (.decision (PendingCall.decision ⟨call, thinkTime⟩))
        { s with calls := Function.update s.calls p (some ⟨call, thinkTime⟩) }
  | fork (p : Pid) : s.handles.server.current = some p →
      Prepares s (.handles .fork) (.canConnectAck .actorCreateAck)
        (s.fork (s.process p) s.handles.clients.next)
  | simulation (event : SimEvent K) : (∀ d, event ≠ .decision d) →
      Prepares s (.handles (.simulation event)) event s

/-- A step of the SimGrid thread, after which the clients receive what was written to them; or a step
of a client by itself. -/
inductive CommStep (s : CommSystem K) (event : CommEvent K) : CommSystem K → List CommOutput → Prop
  | served (sim : SimEvent K) (ready : CommSystem K) (handles : HandleSystem K)
      (out : List SimOutput) : Prepares s event sim ready →
      handleStep K s.handles event.handle = some (handles, out) →
      simulationStep K s.handles.server sim = some (handles.server, out) →
      CommStep s event (({ ready with handles := handles }).receiveAll (acks out)).1
        (out.map .server ++ (({ ready with handles := handles }).receiveAll (acks out)).2)
  | copied (handles : HandleSystem K) : handleStep K s.handles event.handle = some (handles, []) →
      handles.server = s.handles.server → CommStep s event { s with handles := handles } []

theorem serverStep_server {s t : HandleSystem K} {forks : Bool} {event : SimEvent K}
    {out : List SimOutput} (h : s.serverStep forks event = some (t, out)) :
    simulationStep K s.server event = some (t.server, out) := by
  unfold HandleSystem.serverStep at h
  split at h
  · cases h
  · rename_i server out' hserver
    cases h
    exact hserver

theorem handleStep_sim {s t : HandleSystem K} {sim : SimEvent K} {out : List SimOutput}
    (h : handleStep K s (.simulation sim) = some (t, out)) :
    simulationStep K s.server sim = some (t.server, out) := by
  by_cases hdecision : ∃ d, sim = .decision d
  · obtain ⟨d, rfl⟩ := hdecision
    obtain ⟨p, client, -, -, -, -, hstep⟩ := handleStep_decision h
    have hserver := serverStep_server hstep
    exact hserver
  · have hother : ∀ d, sim ≠ .decision d := fun d heq => hdecision ⟨d, heq⟩
    rw [handleStep_simulation hother] at h
    exact serverStep_server h

/-- A client that copies a pointer, or drops one, leaves the server alone. -/
theorem handleStep_copy {s t : HandleSystem K} {event : HandleEvent K} {process : Nat} {handle : Handle}
    {out : List SimOutput} (hevent : event = .copy process handle ∨ event = .drop process handle)
    (h : handleStep K s event = some (t, out)) : t.server = s.server ∧ out = [] := by
  rcases hevent with rfl | rfl
  all_goals
    simp only [handleStep] at h
    split at h
    · split at h
      · cases h
        exact ⟨rfl, rfl⟩
      · cases h
    · cases h

theorem handlesStep_eq_some {event : HandleEvent K} (h : s.handlesStep event = some (t, out)) :
    ∃ handles simOut, handleStep K s.handles event = some (handles, simOut) ∧
      t = (({ s with handles := handles }).receiveAll (acks simOut)).1 ∧
      out = simOut.map .server ++ (({ s with handles := handles }).receiveAll (acks simOut)).2 := by
  unfold CommSystem.handlesStep at h
  split at h
  · cases h
  · rename_i handles simOut hstep
    cases h
    exact ⟨handles, simOut, hstep, rfl, rfl⟩

theorem commStep_cases (h : commStep K s event = some (t, out)) : CommStep s event t out := by
  cases event with
  | call call thinkTime =>
      simp only [commStep] at h
      split at h
      · cases h
      · rename_i p hcurrent
        split at h
        · rename_i hcomms
          obtain ⟨handles, simOut, hstep, rfl, rfl⟩ := handlesStep_eq_some h
          exact .served _ _ handles simOut (.call call thinkTime p hcurrent hcomms) hstep
            (handleStep_sim hstep)
        · cases h
  | handles event =>
      have hcopied : ∀ {process handle}, event = .copy process handle ∨ event = .drop process handle →
          s.handlesStep event = some (t, out) → CommStep s (.handles event) t out := by
        intro process handle heq hstep
        obtain ⟨handles, simOut, hhandles, rfl, rfl⟩ := handlesStep_eq_some hstep
        obtain ⟨hserver, rfl⟩ := handleStep_copy heq hhandles
        exact .copied handles hhandles hserver
      cases event with
      | fork =>
          simp only [commStep] at h
          split at h
          · cases h
          · rename_i p hcurrent
            obtain ⟨handles, simOut, hstep, rfl, rfl⟩ := handlesStep_eq_some h
            exact .served _ _ handles simOut (.fork p hcurrent) hstep (serverStep_server hstep)
      | simulation sim =>
          have hother : ∀ d, sim ≠ .decision d := by
            rintro d rfl
            cases h
          have hstep : s.handlesStep (.simulation sim) = some (t, out) := by
            cases sim with
            | decision d => exact absurd rfl (hother d)
            | _ => exact h
          obtain ⟨handles, simOut, hhandles, rfl, rfl⟩ := handlesStep_eq_some hstep
          exact .served _ _ handles simOut (.simulation sim hother) hhandles (handleStep_sim hhandles)
      | copy process handle => exact hcopied (Or.inl rfl) h
      | drop process handle => exact hcopied (Or.inr rfl) h

/-! ### The invariant -/

namespace CommSystem

variable (s : CommSystem K)

@[simp] theorem receiveAll_nil : s.receiveAll [] = (s, []) := rfl

@[simp] theorem receiveAll_singleton (p : Pid) (ack : DecisionAck) :
    s.receiveAll [(p, ack)] = s.receive p ack := by
  simp [receiveAll]

theorem handles_receive (p : Pid) (ack : DecisionAck) : (s.receive p ack).1.handles = s.handles := by
  unfold receive
  split
  · rfl
  · dsimp only
    split <;> rfl

theorem asked_receive (p : Pid) (ack : DecisionAck) (q : Pid) :
    (s.receive p ack).1.asked q = if q = p then none else s.asked q := by
  by_cases hq : q = p
  · subst hq
    rw [if_pos rfl]
    unfold receive asked
    split
    · rename_i hnone
      rw [hnone]
      rfl
    · dsimp only
      split <;> simp only [Function.update_self, Option.map_none]
  · rw [if_neg hq]
    unfold receive asked
    split
    · rfl
    · dsimp only
      split <;> simp only [Function.update_of_ne hq]

theorem serverOutputs_receive (p : Pid) (ack : DecisionAck) :
    serverOutputs (s.receive p ack).2 = [] := by
  unfold receive
  split
  · rfl
  · dsimp only
    split <;> rfl

end CommSystem

theorem serverOutputs_append (trace out : List CommOutput) :
    serverOutputs (trace ++ out) = serverOutputs trace ++ serverOutputs out :=
  List.filterMap_append

theorem serverOutputs_map (out : List SimOutput) :
    serverOutputs (out.map .server) = out := by
  rw [serverOutputs, List.filterMap_map]
  exact List.filterMap_some

/-- The server's store, what its actors work on, and where the payloads come from. -/
structure CommInv (s : CommSystem K) (trace : List CommOutput) : Prop where
  store : StoreInv s.handles.server
  suspended : AllSuspended s.handles.server
  works : AllWorkOn s.asked s.handles.server
  received : ReceiveLog s.handles.server.memory s.handles.server.point (serverOutputs trace)

theorem Prepares.fresh {sim : SimEvent K} {ready : CommSystem K} (h : Prepares s event sim ready)
    (hfresh : FreshComm s event) : FreshAddress s.handles.server sim := by
  cases h with
  | call => trivial
  | fork => trivial
  | simulation => exact hfresh

/-- The client of the actor that reads a decision has sent it. -/
theorem Prepares.decided {sim : SimEvent K} {ready : CommSystem K} (h : Prepares s event sim ready)
    (p : Pid) (d : Decision) (hcurrent : s.handles.server.current = some p)
    (hsim : sim = .decision d) : ready.asked p = some d := by
  cases h with
  | call call thinkTime q hq =>
      cases hq.symm.trans hcurrent
      cases hsim
      simp only [CommSystem.asked, Function.update_self, Option.map_some]
  | fork => cases hsim
  | simulation sim hother => exact absurd hsim (hother d)

/-- A client that sends a decision was not waiting for another one to be handled. -/
theorem Prepares.works {sim : SimEvent K} {ready : CommSystem K} {server : Simulation K}
    {simOut : List SimOutput} (h : Prepares s event sim ready)
    (hworks : AllWorkOn s.asked s.handles.server)
    (hstep : SimStep s.handles.server sim server simOut) :
    AllWorkOn ready.asked s.handles.server := by
  cases h with
  | call call thinkTime p hcurrent =>
      obtain ⟨socket, hfind⟩ := hstep.reading hcurrent
      intro q point hq
      by_cases heq : q = p
      · subst heq
        rw [Simulation.point, hfind] at hq
        cases hq
        trivial
      · have hsame := hworks q point hq
        simp only [CommSystem.asked, Function.update_of_ne heq]
        exact hsame
  | fork => exact hworks
  | simulation => exact hworks

theorem CommInv.launch (connections : List ActorConnection) :
    CommInv (CommSystem.launch K connections) [] where
  store := StoreInv.spawn connections
  suspended := AllSuspended.spawn connections
  works := AllWorkOn.spawn _ connections
  received := ReceiveLog.spawn connections

theorem CommInv.step (h : CommInv s trace) (hfresh : FreshComm s event)
    (hstep : commStep K s event = some (t, out)) : CommInv t (trace ++ out) := by
  cases commStep_cases hstep with
  | served sim ready handles simOut hprepares _ hserver =>
      have hcases := (simulationStep_cases hserver).2
      have howned := h.store.owned
      have hworks := (hprepares.works h.works hcases).step howned hprepares.decided hcases
      have hreceived := h.received.step howned h.suspended hcases
      have hsame : ∀ r : CommSystem K × List CommOutput, r.1.handles = handles →
          AllWorkOn r.1.asked handles.server → serverOutputs r.2 = [] →
          CommInv r.1 (trace ++ (simOut.map .server ++ r.2)) := by
        intro r hhandles hasked hout
        constructor
        · rw [hhandles]
          exact h.store.step (hprepares.fresh hfresh) hcases
        · rw [hhandles]
          exact h.suspended.step howned hcases
        · rw [hhandles]
          exact hasked
        · rw [hhandles, serverOutputs_append, serverOutputs_append, hout, serverOutputs_map,
            List.append_nil]
          exact hreceived
      rcases hcases.acked with hnone | ⟨p, ack, hacks, -, hreading⟩
      · rw [hnone, CommSystem.receiveAll_nil]
        exact hsame _ rfl hworks rfl
      · rw [hacks, CommSystem.receiveAll_singleton]
        refine hsame _ (CommSystem.handles_receive _ p ack) ?_
          (CommSystem.serverOutputs_receive _ p ack)
        intro q point hq
        rw [CommSystem.asked_receive]
        split
        · rename_i heq
          rw [heq, hreading] at hq
          cases hq
          trivial
        · exact hworks q point hq
  | copied handles _ hserver =>
      rw [List.append_nil]
      constructor
      · exact hserver ▸ h.store
      · exact hserver ▸ h.suspended
      · exact hserver ▸ h.works
      · exact hserver ▸ h.received

theorem commInv_run {connections : List ActorConnection} {events : List (CommEvent K)}
    (hrun : Run (commStep K) (CommSystem.launch K connections) events s trace)
    (hfresh : Throughout (commStep K) FreshComm (CommSystem.launch K connections) events) :
    CommInv s trace :=
  hrun.guarded_invariant (P := fun _ s trace => CommInv s trace) hfresh (CommInv.launch connections)
    (fun _ hinv hevent hstep => hinv.step hevent hstep)

/-! ### The return of a call -/

/-- A call returns in the step that acknowledges its decision. -/
structure Returns (s : CommSystem K) (event : CommEvent K) (t : CommSystem K) (out : List CommOutput)
    (p : Pid) (call : CommCall) (result : Except Error CommResult) (ready : CommSystem K)
    (sim : SimEvent K) (ack : DecisionAck) : Prop where
  prepares : Prepares s event sim ready
  step : ∃ simOut, SimStep s.handles.server sim t.handles.server simOut
  pending : ∃ thinkTime, ready.calls p = some ⟨call, thinkTime⟩
  acked : Acked s.handles.server t.handles.server p ack sim
  written : (p, ack) ∈ acks (serverOutputs out)
  finished : result = (call.finish ack (ready.memory (t.process p))).map Prod.fst
  memory : t.memory = (call.finish ack (ready.memory (t.process p))).writes (t.process p) ready.memory
  added : ∀ r, result = .ok r → t.destinations = r.adds (t.process p) ready.destinations
  failed : ∀ e, result = .error e → t.destinations = ready.destinations

theorem receive_returned {p q : Pid} {ack : DecisionAck} {call : CommCall}
    {result : Except Error CommResult} (h : .returned q call result ∈ (s.receive p ack).2) :
    q = p ∧ (∃ thinkTime, s.calls p = some ⟨call, thinkTime⟩) ∧
      result = (call.finish ack (s.memory (s.process p))).map Prod.fst ∧
      (s.receive p ack).1.memory =
        (call.finish ack (s.memory (s.process p))).writes (s.process p) s.memory ∧
      (∀ r, result = .ok r →
        (s.receive p ack).1.destinations = r.adds (s.process p) s.destinations) ∧
      ∀ e, result = .error e → (s.receive p ack).1.destinations = s.destinations := by
  cases hpending : s.calls p with
  | none =>
      simp only [CommSystem.receive, hpending] at h
      cases h
  | some pending =>
      cases hfinish : pending.call.finish ack (s.memory (s.process p)) with
      | error e =>
          simp only [CommSystem.receive, hpending, hfinish] at h ⊢
          cases List.mem_singleton.mp h
          rw [hfinish]
          exact ⟨rfl, ⟨pending.thinkTime, rfl⟩, rfl, rfl, (fun _ h => by cases h), fun _ _ => trivial⟩
      | ok finished =>
          simp only [CommSystem.receive, hpending, hfinish] at h ⊢
          cases List.mem_singleton.mp h
          rw [hfinish]
          refine ⟨rfl, ⟨pending.thinkTime, rfl⟩, rfl, rfl, ?_, fun _ h => by cases h⟩
          rintro r hr
          cases hr
          rfl

theorem process_eq {s t : CommSystem K} (h : t.handles = s.handles) (p : Pid) :
    t.process p = s.process p := by
  rw [CommSystem.process, CommSystem.process, h]

theorem returns_of_mem (hstep : commStep K s event = some (t, out)) {p : Pid} {call : CommCall}
    {result : Except Error CommResult} (h : .returned p call result ∈ out) :
    ∃ ready sim ack, Returns s event t out p call result ready sim ack := by
  cases commStep_cases hstep with
  | served sim ready handles simOut hprepares _ hserver =>
      have hserverOut : ∀ o, o ∉ simOut.map CommOutput.server ∨ ∃ x, o = .server x := by
        intro o
        by_cases ho : o ∈ simOut.map CommOutput.server
        · obtain ⟨x, -, rfl⟩ := List.mem_map.mp ho
          exact Or.inr ⟨x, rfl⟩
        · exact Or.inl ho
      have hreturned := (List.mem_append.mp h).resolve_left
        ((hserverOut _).resolve_right fun ⟨x, heq⟩ => by cases heq)
      rcases (simulationStep_cases hserver).2.acked with hnone | ⟨q, ack, hacks, hacked, -⟩
      · rw [hnone, CommSystem.receiveAll_nil] at hreturned
        cases hreturned
      · rw [hacks, CommSystem.receiveAll_singleton] at hreturned ⊢
        obtain ⟨rfl, hpending, hresult, hmemory, hadded, hfailed⟩ := receive_returned hreturned
        have hhandles := CommSystem.handles_receive { ready with handles := handles } p ack
        have hprocess := process_eq hhandles p
        refine ⟨ready, sim, ack, hprepares, ⟨simOut, ?_⟩, hpending, ?_, ?_, ?_, ?_, ?_, hfailed⟩
        · rw [hhandles]
          exact (simulationStep_cases hserver).2
        · rw [hhandles]
          exact hacked
        · rw [serverOutputs_append, serverOutputs_map, CommSystem.serverOutputs_receive,
            List.append_nil, hacks]
          exact List.mem_singleton_self _
        · rw [hprocess]
          exact hresult
        · rw [hprocess]
          exact hmemory
        · rw [hprocess]
          exact hadded
  | copied => cases h

end RemoteSimgrid
