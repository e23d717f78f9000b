import RemoteSimgrid.ClientWaitAny
import RemoteSimgrid.SimulationDeliveryRuns

/-! The payloads of the comms, from the server to the clients: as long as no process forks while it holds
an object, a handler that SimGrid makes go on finds the entry and the payload, and the client that waits
for it returns with what it has been told. -/

namespace RemoteSimgrid

open Machine Pb

variable {K : S4u} {R : Rendezvous K} {s t : CommSystem K} {event : CommEvent K}
  {trace out : List CommOutput} {p : Pid}

/-- `NoForkWithHandles`, for the steps of the server and the clients. -/
def NoCommFork (s : CommSystem K) (event : CommEvent K) : Prop :=
  NoForkWithHandles s.handles event.handle

def CommEvent.forks : CommEvent K → Bool
  | .handles .fork => true
  | _ => false

theorem noCommFork_of_forks (h : event.forks = false) : NoCommFork s event := by
  cases event with
  | call => trivial
  | handles event =>
      cases event with
      | fork => cases h
      | _ => trivial

/-- An object that a process uses is not released by the same process, and no other process has it. -/
theorem HandleInv.noBlockedRelease {s t : HandleSystem K} {event : HandleEvent K} {sim : SimEvent K}
    {out : List SimOutput} (h : HandleInv s) (hstep : handleStep K s event = some (t, out))
    (hevent : event = .simulation sim ∨ ∀ d, sim ≠ .decision d) : NoBlockedRelease s.server sim := by
  intro p d handle e hdispatch hreleased _ _ q actor hq x hx heq
  subst heq
  -- the process of the other actor holds what its handler has looked up
  obtain ⟨other, hother, hpending⟩ : ∃ other, s.clients.actors.find q = some other ∧
      x.handle ∈ other.pendingHandles := by
    have hawaits : ∃ d call frame, s.clients.pendingOf q = some d ∧ Suspends d call frame ∧
        x ∈ frame.lookedUp := by
      have hbusy := h.busy q actor hq
      have hframe : ∀ frame : Frame, frame.Awaits (s.clients.pendingOf q) → x ∈ frame.lookedUp →
          ∃ d call frame, s.clients.pendingOf q = some d ∧ Suspends d call frame ∧
            x ∈ frame.lookedUp := by
        intro frame hawaits hx
        cases frame with
        | firstYield => cases hx
        | thinkTime => cases hx
        | _ =>
            obtain ⟨d, call, hd, hsuspends⟩ := hawaits
            exact ⟨d, call, _, hd, hsuspends, hx⟩
      generalize actor.point = point at hbusy hx
      cases point with
      | calling call frame => exact hframe frame hbusy hx
      | returned ret frame => exact hframe frame hbusy hx
      | _ => cases hx
    obtain ⟨d', call, frame, hd', hsuspends, hlooked⟩ := hawaits
    obtain ⟨other, hother, hpending⟩ := Option.bind_eq_some_iff.mp hd'
    refine ⟨other, hother, ?_⟩
    rw [Client.pendingHandles, hpending]
    exact hsuspends.lookedUp hlooked
  have hheld := h.clients.pending q other hother x.handle hpending
  cases hdispatch with
  | now _ socket _ hcurrent hreading =>
      obtain rfl := hevent.resolve_right fun hdecision => hdecision d rfl
      obtain ⟨p', client, hcurrent', hclient, hpermits, -, -⟩ := handleStep_decision hstep
      cases hcurrent.symm.trans hcurrent'
      have hmem : x.handle ∈ d.type.handles := by
        rw [handles_of_released hreleased]
        exact List.mem_singleton_self _
      obtain ⟨held, hholds, -⟩ := Clients.copies_pos _ |>.mp (hpermits.copies_pos hmem)
      have hpermitted := hpermits.2 x.handle hmem
      rw [if_pos hreleased] at hpermitted
      have hsame : other.process = client.process :=
        h.clients.alone _ _ _ hheld (by rw [hholds]; exact Option.some_ne_none _)
      exact hpermitted.2 other (UnorderedMap.mem_values.mpr ⟨q, hother⟩) hsame hpending
  | later _ actor' _ _ hfind hpoint =>
      have hbusy := h.busy p actor' hfind
      rw [hpoint] at hbusy
      obtain ⟨client, hclient, hdecision⟩ := Option.bind_eq_some_iff.mp
        (show s.clients.pendingOf p = some d from hbusy)
      have hreleases : client.releases = some x.handle := by
        rw [Client.releases, hdecision]
        exact hreleased
      have hmem := client.mem_pendingHandles hreleases
      have hsame := h.clients.alone _ _ _ hheld (h.clients.pending p client hclient _ hmem)
      obtain rfl := (h.clients.releasing p client _ hclient hreleases).2 q other hother hsame hpending
      cases hq.symm.trans hfind
      rw [hpoint] at hx
      cases hx

/-! ### The invariant -/

/-- What the server and its clients keep, and where the payloads are. -/
structure MailInv (R : Rendezvous K) (s : CommSystem K) (trace : List CommOutput) : Prop where
  comms : CommInv s trace
  handles : HandleInv s.handles
  delivery : DeliveryRun R s.handles.server (serverOutputs trace)

theorem MailInv.launch (connections : List ActorConnection) :
    MailInv R (CommSystem.launch K connections) [] where
  comms := CommInv.launch connections
  handles := HandleInv.launch connections
  delivery := DeliveryRun.spawn connections

theorem FreshComm.handle (hfresh : FreshComm s event) : FreshObject s.handles event.handle := by
  cases event with
  | call => trivial
  | handles event => exact hfresh

theorem Prepares.handle {sim : SimEvent K} {ready : CommSystem K} (h : Prepares s event sim ready) :
    event.handle = .simulation sim ∨ ∀ d, sim ≠ .decision d := by
  cases h with
  | call => exact Or.inl rfl
  | fork => exact Or.inr fun d heq => by cases heq
  | simulation => exact Or.inl rfl

theorem CommSystem.handles_receiveAll (s : CommSystem K) (acks : List (Pid × DecisionAck)) :
    (s.receiveAll acks).1.handles = s.handles ∧ serverOutputs (s.receiveAll acks).2 = [] := by
  induction acks generalizing s with
  | nil => exact ⟨rfl, rfl⟩
  | cons ack acks ih =>
      obtain ⟨hhandles, hout⟩ := ih (s.receive ack.1 ack.2).1
      constructor
      · exact hhandles.trans (CommSystem.handles_receive s ack.1 ack.2)
      · have happend := serverOutputs_append (s.receive ack.1 ack.2).2
          ((s.receive ack.1 ack.2).1.receiveAll acks).2
        rw [CommSystem.serverOutputs_receive, hout] at happend
        exact happend

theorem MailInv.step (h : MailInv R s trace) (hfresh : FreshComm s event) (hfork : NoCommFork s event)
    (hstep : commStep K s event = some (t, out)) : MailInv R t (trace ++ out) := by
  have hcomms := h.comms.step hfresh hstep
  cases commStep_cases hstep with
  | served sim ready handles simOut hprepares hhandle hserver =>
      have hguard := h.handles.noBlockedRelease hhandle hprepares.handle
      have hcases := (simulationStep_cases hserver).2
      obtain ⟨hreceived, hout⟩ := CommSystem.handles_receiveAll { ready with handles := handles } (acks simOut)
      refine ⟨hcomms, ?_, ?_⟩
      · rw [hreceived]
        exact h.handles.step hfresh.handle hfork hhandle
      · rw [hreceived, serverOutputs_append, serverOutputs_append, hout, serverOutputs_map, List.append_nil]
        exact h.delivery.step (hprepares.fresh hfresh) hguard hcases
  | copied handles hhandle hserver =>
      refine ⟨hcomms, h.handles.step hfresh.handle hfork hhandle, ?_⟩
      rw [List.append_nil, hserver]
      exact h.delivery

/-- In a run in which no process forks while it holds an object. -/
theorem mailInv_run {connections : List ActorConnection} {events : List (CommEvent K)}
    (hrun : Run (commStep K) (CommSystem.launch K connections) events s trace)
    (hfresh : Throughout (commStep K) FreshComm (CommSystem.launch K connections) events)
    (hfork : Throughout (commStep K) NoCommFork (CommSystem.launch K connections) events) :
    MailInv R s trace := by
  have hboth : Throughout (commStep K) (fun s event => FreshComm s event ∧ NoCommFork s event)
      (CommSystem.launch K connections) events :=
    fun before label after t trace heq hbefore =>
      ⟨hfresh before label after t trace heq hbefore, hfork before label after t trace heq hbefore⟩
  exact hrun.guarded_invariant (P := fun _ s trace => MailInv R s trace) hboth (MailInv.launch connections)
    (fun _ hinv hevent hstep => hinv.step hevent.1 hevent.2 hstep)

/-! ### A handler that goes on -/

/-- The acknowledgment of a handler whose S4U call has completed its comm or has returned a payload, with
the bytes that were there. -/
def collectionAck (ret : S4uReturn) (data : Bytes) : DecisionAck :=
  { success := true
    data := match ret with
      | .bool value => .commTest { isTerminated := value, data := data }
      | .index index => .commWaitAnyFor { finishedCommIndex := index, data := data }
      | .payload _ => .mailboxGet data
      | _ => .commWaitFor { data := data } }

theorem simulationStep_resume {s : Simulation K} (hrunning : s.crashed = false)
    (hidle : s.current = none) {actor : ServerActor} (hfind : s.actors.find p = some actor)
    {ret : S4uReturn} {frame : Frame} (hpoint : actor.point = .returned ret frame) {segment : Segment}
    (hresume : resume K s.kernel p actor.socket frame ret s.memory = some segment) :
    ∃ t, simulationStep K s (.schedule p) =
        some (t, segment.out ++ segment.outcome.out p actor.socket) ∧ t.memory = segment.memory := by
  refine ⟨(({ s with ready := s.ready.erase p } : Simulation K).conclude p actor.socket segment).1, ?_, rfl⟩
  unfold simulationStep
  rw [if_neg (by rw [hrunning]; exact Bool.false_ne_true)]
  simp only [hidle, hfind, hpoint, hresume]
  rfl

/-- A client that receives an acknowledgment which creates nothing stays in its process. -/
theorem process_receive (c : Clients) (m : Memory) {ack : DecisionAck} (hcreated : ack.data.created = none)
    (hchild : ∀ child, ack.data ≠ .actorCreate child) :
    ((c.receive m false p ack).actors.find p).map Client.process = (c.actors.find p).map Client.process := by
  cases hclient : c.actors.find p with
  | none =>
      simp only [Clients.receive, hclient]
  | some client =>
      rw [c.receive_eq_settle hclient hcreated hchild, Clients.actors_settle, UnorderedMap.find_set_self]
      rfl

theorem CommSystem.process_eq_map (s : CommSystem K) (p : Pid) :
    s.process p = ((s.handles.clients.actors.find p).map Client.process).getD 0 := by
  unfold CommSystem.process
  cases s.handles.clients.actors.find p <;> rfl

/-- What a client that waits for an acknowledgment does when it receives it. -/
theorem receive_pending {call : CommCall} {thinkTime : ℚ} (hpending : s.calls p = some ⟨call, thinkTime⟩)
    (ack : DecisionAck) :
    .returned p call ((call.finish ack (s.memory (s.process p))).map Prod.fst) ∈ (s.receive p ack).2 ∧
      (s.receive p ack).1.memory =
        (call.finish ack (s.memory (s.process p))).writes (s.process p) s.memory ∧
      (s.receive p ack).1.handles = s.handles := by
  refine ⟨?_, ?_, CommSystem.handles_receive s p ack⟩
  · simp only [CommSystem.receive, hpending]
    cases call.finish ack (s.memory (s.process p)) with
    | error e => exact List.mem_singleton_self _
    | ok finished => exact List.mem_singleton_self _
  · simp only [CommSystem.receive, hpending]
    cases call.finish ack (s.memory (s.process p)) with
    | error e => rfl
    | ok finished => rfl

/-- The client of an actor whose handler goes on and acknowledges returns from its function. -/
theorem commStep_resume (hrunning : s.handles.server.crashed = false)
    (hidle : s.handles.server.current = none) {actor : ServerActor}
    (hfind : s.handles.server.actors.find p = some actor) {ret : S4uReturn} {frame : Frame}
    (hpoint : actor.point = .returned ret frame) {segment : Segment}
    (hresume : resume K s.handles.server.kernel p actor.socket frame ret s.handles.server.memory =
      some segment) {call : CommCall} {thinkTime : ℚ} (hpending : s.calls p = some ⟨call, thinkTime⟩)
    {ack : DecisionAck} (hacks : acks (segment.out ++ segment.outcome.out p actor.socket) = [(p, ack)])
    (hcreated : ack.data.created = none) (hchild : ∀ child, ack.data ≠ .actorCreate child) :
    ∃ t out, commStep K s (.handles (.simulation (.schedule p))) = some (t, out) ∧
      t.handles.server.memory = segment.memory ∧ t.process p = s.process p ∧
      .returned p call ((call.finish ack (s.memory (s.process p))).map Prod.fst) ∈ out ∧
      t.memory = (call.finish ack (s.memory (s.process p))).writes (s.process p) s.memory := by
  obtain ⟨server, hstep, hmemory⟩ := simulationStep_resume hrunning hidle hfind hpoint hresume
  generalize segment.out ++ segment.outcome.out p actor.socket = simOut at hstep hacks
  have hhandle : handleStep K s.handles (.simulation (.schedule p)) =
      some ({ server := server
              clients := s.handles.clients.receive server.memory false p ack }, simOut) := by
    simp only [handleStep, HandleSystem.serverStep, hstep, hacks, Clients.receiveAll, List.foldl_cons,
      List.foldl_nil]
  generalize hhandles : ({ server := server
                           clients := s.handles.clients.receive server.memory false p ack } :
    HandleSystem K) = handles at hhandle
  have hserver : handles.server = server := by rw [← hhandles]
  obtain ⟨ready, hready⟩ : ∃ ready, ready = ({ s with handles := handles } : CommSystem K) := ⟨_, rfl⟩
  have hprocess : ready.process p = s.process p := by
    rw [CommSystem.process_eq_map, CommSystem.process_eq_map, hready, ← hhandles,
      process_receive _ _ hcreated hchild]
  have hcalls : ready.calls p = some ⟨call, thinkTime⟩ := by rw [hready]; exact hpending
  have hvariables : ready.memory = s.memory := by rw [hready]
  obtain ⟨hreturned, hwritten, hsame⟩ := receive_pending hcalls ack
  rw [hprocess, hvariables] at hreturned hwritten
  refine ⟨(ready.receive p ack).1, simOut.map .server ++ (ready.receive p ack).2, ?_, ?_, ?_,
    List.mem_append_right _ hreturned, hwritten⟩
  · simp only [commStep, CommSystem.handlesStep, hhandle, hacks, CommSystem.receiveAll_singleton, ← hready]
  · rw [hsame, hready, hserver]
    exact hmemory
  · rw [process_eq hsame]
    exact hprocess

/-! ### The completion of a comm -/

/-- The comm whose completion a result of S4U reports to a function. -/
def CommCall.completed : CommCall → S4uReturn → Option CommObject
  | .waitFor comm _, .done => some comm
  | .test comm, .bool true => some comm
  | .waitAnyFor comms _, .index index => if 0 ≤ index then comms[index.toNat]? else none
  | _, _ => none

/-- SimGrid has returned a result to the handler that works for a function of a client. -/
structure ReturnedTo (s : CommSystem K) (p : Pid) (call : CommCall) (ret : S4uReturn) : Prop where
  pending : ∃ thinkTime, s.calls p = some ⟨call, thinkTime⟩
  returned : ∃ frame, s.handles.server.point p = some (.returned ret frame) ∧ frame.ofLoop = false

/-- The handler of a comm that is completed. -/
inductive Frame.Completes (it : Iterator) : S4uReturn → Frame → Prop
  | waitFor : Completes it .done (.commWaitFor it)
  | test : Completes it (.bool true) (.commTest it)
  | waitAnyFor (comms : List Iterator) (pointers : List Address) (index : Int) : 0 ≤ index →
      comms[index.toNat]? = some it → Completes it (.index index) (.commWaitAnyFor comms pointers)

theorem Frame.Completes.completed {it : Iterator} {ret : S4uReturn} {frame : Frame}
    (h : frame.Completes it ret) : frame.completed ret = some it := by
  cases h with
  | waitFor => rfl
  | test => rfl
  | waitAnyFor comms pointers index hindex hcomm =>
      rw [Frame.completed, if_pos hindex]
      exact hcomm

theorem serves_waitFor {wait : CommWaitFor} {call : S4uCall} {frame : Frame}
    (h : frame.Serves (.commWaitFor wait) call) :
    ∃ it, frame = .commWaitFor it ∧ it.address = wait.comm.address := by
  cases frame with
  | commWaitFor it =>
      obtain ⟨wait', hwait, haddress, -⟩ := h
      cases hwait
      exact ⟨it, rfl, haddress.symm⟩
  | commTest =>
      obtain ⟨hwait, -⟩ := h
      cases hwait
  | commWaitAnyFor =>
      obtain ⟨_, hwait, -⟩ := h
      cases hwait
  | mailboxGet =>
      obtain ⟨_, hwait, -⟩ := h
      cases hwait
  | mailboxGetAsync =>
      obtain ⟨_, hwait, -⟩ := h
      cases hwait
  | mailboxPutAsync =>
      obtain ⟨_, _, hwait, -⟩ := h
      cases hwait
  | _ => cases h

theorem serves_test {comm : Comm} {call : S4uCall} {frame : Frame}
    (h : frame.Serves (.commTest comm) call) :
    ∃ it, frame = .commTest it ∧ it.address = comm.address := by
  cases frame with
  | commTest it =>
      obtain ⟨htest, -⟩ := h
      exact ⟨it, rfl, (congrArg Comm.address (DecisionType.commTest.inj htest)).symm⟩
  | commWaitFor =>
      obtain ⟨_, hwait, -⟩ := h
      cases hwait
  | commWaitAnyFor =>
      obtain ⟨_, hwait, -⟩ := h
      cases hwait
  | mailboxGet =>
      obtain ⟨_, hwait, -⟩ := h
      cases hwait
  | mailboxGetAsync =>
      obtain ⟨_, hwait, -⟩ := h
      cases hwait
  | mailboxPutAsync =>
      obtain ⟨_, _, hwait, -⟩ := h
      cases hwait
  | _ => cases h

/-- The comm that is completed for the server is the one that is completed for the client. -/
theorem Frame.Serves.completes {call : CommCall} {ret : S4uReturn} {comm : CommObject} {frame : Frame}
    {s4uCall : S4uCall} (h : frame.Serves call.type s4uCall) (hcompleted : call.completed ret = some comm) :
    ∃ it, frame.Completes it ret ∧ it.address = comm.remoteAddress := by
  unfold CommCall.completed at hcompleted
  split at hcompleted
  · cases hcompleted
    obtain ⟨it, rfl, haddress⟩ := serves_waitFor h
    exact ⟨it, .waitFor, haddress⟩
  · cases hcompleted
    obtain ⟨it, rfl, haddress⟩ := serves_test h
    exact ⟨it, .test, haddress⟩
  · rename_i comms timeout index
    split at hcompleted
    · rename_i hindex
      obtain ⟨iterators, rfl, haddresses, -⟩ := serves_waitAny h
      have hlookup := congrArg (·[index.toNat]?) haddresses
      simp only [List.map_map, List.getElem?_map, hcompleted, Option.map_some] at hlookup
      obtain ⟨it, hit, haddress⟩ := Option.map_eq_some_iff.mp hlookup.symm
      exact ⟨it, .waitAnyFor _ _ index hindex hit, haddress⟩
    · cases hcompleted
  · cases hcompleted

/-- What the resumption of a handler whose comm is completed takes from its entry. -/
theorem Frame.Completes.resume {it : Iterator} {ret : S4uReturn} {frame : Frame}
    (h : frame.Completes it ret) (k : K.State) (socket : Socket) {m m' : Memory} {out : List SimOutput}
    {data : Bytes} (htake : takeThrough it m = some (m', out, data)) :
    RemoteSimgrid.resume K k p socket frame ret m =
      some { memory := m', out := out, outcome := .finished (collectionAck ret data) true false } := by
  cases h with
  | waitFor => simp only [RemoteSimgrid.resume, resumeCommWaitFor, htake, collectionAck]
  | test => simp only [RemoteSimgrid.resume, resumeCommTest, htake, collectionAck]
  | waitAnyFor comms pointers index hindex hcomm =>
      obtain ⟨stored, hfind, hnode, hreceived⟩ : ∃ stored, m.store.comms.find it.address = some stored ∧
          stored.node = it.node ∧ takeReceived it.address m = some (m', out, data) := by
        unfold takeThrough at htake
        split at htake
        · rename_i stored hfind
          split at htake
          · rename_i hnode
            exact ⟨stored, hfind, hnode, htake⟩
          · cases htake
        · cases htake
      simp only [RemoteSimgrid.resume, resumeCommWaitAnyFor, finishCommWaitAnyFor, if_pos hindex, hcomm,
        hfind, Option.isSome_some, if_true, hreceived, collectionAck]

theorem Taken.acks {address : Address} {m m' : Memory} {out : List SimOutput} {data : Bytes}
    (h : Taken address m m' out data) : RemoteSimgrid.acks out = [] := by
  cases h <;> rfl

/-- A handler whose comm is completed goes on as soon as its actor is scheduled: it takes what is in the
entry, and its client returns with it. -/
theorem MailInv.completes (h : MailInv R s trace) {call : CommCall} {ret : S4uReturn} {comm : CommObject}
    (hreturned : ReturnedTo s p call ret) (hcompleted : call.completed ret = some comm)
    (hidle : s.handles.server.current = none) :
    ∃ t out taken data, commStep K s (.handles (.simulation (.schedule p))) = some (t, out) ∧
      Taken comm.remoteAddress s.handles.server.memory t.handles.server.memory taken data ∧
      t.process p = s.process p ∧
      .returned p call
        ((call.finish (collectionAck ret data) (s.memory (s.process p))).map Prod.fst) ∈ out ∧
      t.memory =
        (call.finish (collectionAck ret data) (s.memory (s.process p))).writes (s.process p) s.memory := by
  obtain ⟨⟨thinkTime, hpending⟩, frame, hpoint, hloop⟩ := hreturned
  obtain ⟨s4uCall, hworks⟩ := h.comms.works p _ hpoint
  rw [CommSystem.asked, hpending, Option.map_some] at hworks
  obtain ⟨it, hcompletes, haddress⟩ := (hworks.suspends hloop).serves.completes hcompleted
  have hfound := h.delivery.blocked.found hpoint hcompletes.completed
  have hdefined := h.delivery.delivery.defined hpoint fun it' hit' => by
    rw [hcompletes.completed, Option.some.injEq] at hit'
    exact hit' ▸ hfound
  obtain ⟨⟨m', taken, data⟩, htake⟩ := Option.ne_none_iff_exists'.mp
    fun hnone : takeThrough it s.handles.server.memory = none =>
      hdefined (Or.inl ⟨it, hcompletes.completed, hnone⟩)
  have htaken := (takeThrough_taken htake).2
  obtain ⟨actor, hfind, hactor⟩ := point_eq_some.mp hpoint
  have hacks : acks (taken ++ (Outcome.finished (collectionAck ret data) true false).out p actor.socket) =
      [(p, collectionAck ret data)] := by
    rw [acks_append, htaken.acks]
    rfl
  have hdata : (collectionAck ret data).data.created = none ∧
      ∀ child, (collectionAck ret data).data ≠ .actorCreate child := by
    unfold collectionAck
    cases ret <;> exact ⟨rfl, fun _ h => by cases h⟩
  obtain ⟨t, out, hstep, hmemory, hprocess, hresult, hwritten⟩ :=
    commStep_resume h.delivery.running hidle hfind hactor
      (hcompletes.resume s.handles.server.kernel actor.socket htake) hpending hacks hdata.1 hdata.2
  refine ⟨t, out, taken, data, hstep, ?_, hprocess, hresult, hwritten⟩
  rw [hmemory, ← haddress]
  exact htaken

end RemoteSimgrid
