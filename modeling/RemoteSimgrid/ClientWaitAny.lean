import RemoteSimgrid.ClientCommsRuns

/-! `Comm::wait_any_for` across the two processes: the comms that the server waits on, the payload that
it acknowledges, and the variable that the client writes. -/

namespace RemoteSimgrid

open Machine Pb

/-- The acknowledgment of a `wait_any_for`. -/
def waitAnyAck (index : Int) (data : Bytes) : DecisionAck :=
  { success := true, data := .commWaitAnyFor { finishedCommIndex := index, data := data } }

/-- What a client has of the comms that it gives to `wait_any_for` when SimGrid has returned an index:
after a timeout nothing has changed; else the index is that of a comm whose own payload is acknowledged
if it was not delivered before, and only the destination of that comm may have been written. -/
structure WaitedAny {K : S4u} (s t : CommSystem K) (trace : List SimOutput) (p : Pid)
    (comms : List CommObject) (index : Int) (data : Bytes) : Prop where
  timedOut : index < 0 → data = [] ∧ t.handles.server.memory = s.handles.server.memory ∧
    t.memory = s.memory
  finished : 0 ≤ index → ∃ comm stored, comms[index.toNat]? = some comm ∧
    s.handles.server.memory.store.comms.find comm.remoteAddress = some stored ∧
    (stored.receptionBuffer = none ∧ data = [] ∧
        t.handles.server.memory = s.handles.server.memory ∨
      ∃ b x, stored.receptionBuffer = some b ∧ WasOpened trace b comm.remoteAddress ∧
        .transferred b x ∈ trace ∧ WasSent trace x data ∧
        (∀ y, .found stored.node (some y) ∉ trace) ∧
        t.handles.server.memory.store.comms.find comm.remoteAddress =
          some { stored with receptionBuffer := none }) ∧
    (∀ a, a ≠ comm.remoteAddress → t.handles.server.memory.store.comms.find a =
      s.handles.server.memory.store.comms.find a) ∧
    ∀ process x, t.memory process x ≠ s.memory process x →
      process = t.process p ∧ comm.destinationBuffer = some x ∧ t.memory process x = some data

theorem serves_waitAny {wait : CommWaitAnyFor} {call : S4uCall} {frame : Frame}
    (h : frame.Serves (.commWaitAnyFor wait) call) :
    ∃ iterators, frame = .commWaitAnyFor iterators (wait.comms.map (·.address)) ∧
      wait.comms.map (·.address) = iterators.map (·.address) ∧
      call = .commWaitAnyFor (wait.comms.map (·.address)) wait.timeout := by
  cases frame with
  | commWaitAnyFor iterators pointers =>
      obtain ⟨wait', hwait, haddresses, rfl, rfl⟩ := h
      cases hwait
      rw [haddresses]
      exact ⟨iterators, rfl, rfl, rfl⟩
  | commWaitFor =>
      obtain ⟨_, hwait, -⟩ := h
      cases hwait
  | commTest =>
      obtain ⟨hwait, -⟩ := h
      cases hwait
  | mailboxGet =>
      obtain ⟨_, hwait, -⟩ := h
      cases hwait
  | mailboxGetAsync =>
      obtain ⟨_, hwait, -⟩ := h
      cases hwait
  | mailboxPutAsync =>
      obtain ⟨_, _, hwait, -⟩ := h
      cases hwait
  | _ => cases h

/-- A `wait_any_for` is not acknowledged before its call. -/
theorem dispatch_waitAny {K : S4u} {k : K.State} {p : Pid} {d : Decision} {m : Memory}
    {wait : CommWaitAnyFor} (hd : d.type = .commWaitAnyFor wait) {ack : DecisionAck} {sendAck : Bool} :
    (dispatch K k p d m).outcome ≠ .finished ack sendAck false := by
  simp only [dispatch, switchDecision, Decision.typeCase, hd, commWaitAnyFor]
  split
  · exact fun h => by cases h
  · exact fun h => by cases h

/-- The return of a `wait_any_for` that is acknowledged. -/
theorem Resumed.waitedAny {K : S4u} {k : K.State} {p : Pid} {socket : Socket} {iterators : List Iterator}
    {pointers : List Address} {ret : S4uReturn} {m : Memory} {segment : Segment} {ack : DecisionAck}
    {sendAck : Bool}
    (h : Resumed K k p socket (.commWaitAnyFor iterators pointers) ret m segment)
    (houtcome : segment.outcome = .finished ack sendAck false) :
    ∃ index, ret = .index index ∧
      (index < 0 ∧ ack = waitAnyAck index [] ∧ segment.memory = m ∨
        0 ≤ index ∧ ∃ it out data, iterators[index.toNat]? = some it ∧
          Taken it.address m segment.memory out data ∧ ack = waitAnyAck index data) := by
  generalize hframe : Frame.commWaitAnyFor iterators pointers = frame at h
  cases h with
  | commWaitedAny comms pointers index comm m' out data heq hret hindex hcomm htaken =>
      cases hframe.trans heq
      cases houtcome
      exact ⟨index, hret, Or.inr ⟨hindex, comm, out, data, hcomm, htaken, rfl⟩⟩
  | commNoneFinished comms pointers index heq hret hindex =>
      cases houtcome
      exact ⟨index, hret, Or.inl ⟨hindex, rfl, rfl⟩⟩
  | acknowledged hplain =>
      subst hframe
      cases hplain
  | conditionVariableStatus _ _ _ _ _ heq =>
      rcases heq with ⟨heq, -⟩ | ⟨heq, -⟩ <;> cases hframe.trans heq
  | dispatched d heq => cases hframe.trans heq
  | hostFailure heq => cases hframe.trans heq
  | commWaited _ _ _ _ heq => cases hframe.trans heq
  | commTimedOut _ heq => cases hframe.trans heq
  | commCanceled _ heq => cases hframe.trans heq
  | commTested _ _ _ _ heq => cases hframe.trans heq
  | commPending _ heq => cases hframe.trans heq
  | mailboxPutAsync _ heq => cases hframe.trans heq
  | mailboxGetAsync _ _ heq => cases hframe.trans heq
  | mailboxGet _ _ heq => cases hframe.trans heq
  | mutexCreate _ heq => cases hframe.trans heq
  | mutexTryLock _ heq => cases hframe.trans heq
  | conditionVariableCreate _ heq => cases hframe.trans heq
  | _ => cases houtcome

theorem Taken.elsewhere {address a : Address} {m m' : Memory} {out : List SimOutput} {data : Bytes}
    (h : Taken address m m' out data) (ha : a ≠ address) :
    m'.store.comms.find a = m.store.comms.find a := by
  cases h with
  | nothing => rfl
  | payload => exact UnorderedMap.find_modify_of_ne _ _ ha

/-- The variables that `wait_any_for` writes. -/
theorem finishWaitAnyFor_writes {comms : List CommObject} {index : Int} {data : Bytes}
    {memory memory' : UserMemory} {result : CommResult}
    (h : CommObject.finishWaitAnyFor comms (waitAnyAck index data) memory = .ok (result, memory')) :
    result = .index index ∧ (index < 0 → memory' = memory) ∧
      ∀ x, memory' x ≠ memory x → 0 ≤ index ∧ ∃ comm, comms[index.toNat]? = some comm ∧
        comm.destinationBuffer = some x ∧ memory' x = some data := by
  simp only [CommObject.finishWaitAnyFor, rsgEnforce_eq_ok] at h
  obtain ⟨-, h⟩ := h
  have hunchanged : ∀ {P : Prop} {x}, memory x ≠ memory x → P := fun hne => absurd rfl hne
  split at h
  · rename_i hindex
    replace hindex : 0 ≤ index := hindex
    split at h
    · cases h
    · rename_i comm hcomm
      split at h
      · cases h
        exact ⟨rfl, fun _ => rfl, fun x hx => hunchanged hx⟩
      · rename_i destination hdestination
        rw [rsgEnforce_eq_ok] at h
        obtain ⟨-, h⟩ := h
        cases h
        refine ⟨rfl, fun hnegative => absurd hindex (Int.not_le.mpr hnegative), fun x hx => ?_⟩
        by_cases heq : x = destination
        · subst heq
          exact ⟨hindex, comm, hcomm, hdestination, Function.update_self _ _ _⟩
        · rw [UserMemory.write, Function.update_of_ne heq] at hx
          exact hunchanged hx
  · cases h
    exact ⟨rfl, fun _ => rfl, fun x hx => hunchanged hx⟩

section

variable {K : S4u} {s t : CommSystem K} {event : CommEvent K} {trace out : List CommOutput} {p : Pid}
  {comms : List CommObject} {timeout : ℚ}

/-- The server waits on the comms that the client has given, in the same order. -/
theorem CommInv.waitsOn (h : CommInv s trace) {thinkTime : ℚ} {call : S4uCall} {frame : Frame}
    (hpending : s.calls p = some ⟨.waitAnyFor comms timeout, thinkTime⟩)
    (hpoint : s.handles.server.point p = some (.calling call frame)) (hloop : frame.ofLoop = false) :
    call = .commWaitAnyFor (comms.map (·.remoteAddress)) timeout := by
  have hworks := h.works p _ hpoint
  rw [CommSystem.asked, hpending, Option.map_some] at hworks
  obtain ⟨iterators, -, -, hcall⟩ := serves_waitAny (hworks.suspends hloop).serves
  rw [hcall, List.map_map]
  rfl

/-- The return of a `wait_any_for` to the client. -/
theorem CommInv.waitedAny (h : CommInv s trace) (hstep : commStep K s event = some (t, out))
    {result : Except Error CommResult} (hret : .returned p (.waitAnyFor comms timeout) result ∈ out) :
    ∃ iterators index data, s.handles.server.point p = some (.returned (.index index)
        (.commWaitAnyFor iterators (comms.map (·.remoteAddress)))) ∧
      (p, waitAnyAck index data) ∈ acks (serverOutputs out) ∧
      (∀ r, result = .ok r → r = .index index) ∧
      WaitedAny s t (serverOutputs trace) p comms index data := by
  obtain ⟨ready, sim, ack, hreturns⟩ := returns_of_mem hstep hret
  obtain ⟨simOut, hcases⟩ := hreturns.step
  obtain ⟨thinkTime, hpending⟩ := hreturns.pending
  have hasked : ready.asked p = some (PendingCall.decision ⟨.waitAnyFor comms timeout, thinkTime⟩) := by
    rw [CommSystem.asked, hpending, Option.map_some]
  have hworks := hreturns.prepares.works h.works hcases
  rcases hreturns.acked.observation hworks hreturns.prepares.decided hasked rfl with
    ⟨-, -, -, sendAck, houtcome⟩ | ⟨actor, ret, frame, call, segment, sendAck, hsim, hfind, hpoint,
      hsuspends, hresumed, houtcome, hmemory⟩
  · exact absurd houtcome (dispatch_waitAny rfl)
  · obtain ⟨iterators, rfl, haddresses, -⟩ := serves_waitAny hsuspends.serves
    have hmap : (comms.map fun comm => ({ address := comm.remoteAddress } : Comm)).map (·.address) =
        comms.map (·.remoteAddress) := by
      rw [List.map_map]
      rfl
    replace haddresses : comms.map (·.remoteAddress) = iterators.map (·.address) :=
      hmap.symm.trans haddresses
    obtain ⟨index, rfl, hindex⟩ := hresumed.waitedAny houtcome
    -- nothing but the server moves before the clients receive the acknowledgment
    have hready : ready = s := by
      have hprepares := hreturns.prepares
      rw [hsim] at hprepares
      cases hprepares
      rfl
    subst hready
    have hwrites : ∀ {data}, ack = waitAnyAck index data →
        (∀ r, result = .ok r → r = .index index) ∧ (index < 0 → t.memory = ready.memory) ∧
          ∀ process x, t.memory process x ≠ ready.memory process x → process = t.process p ∧
            0 ≤ index ∧ ∃ comm, comms[index.toNat]? = some comm ∧ comm.destinationBuffer = some x ∧
              t.memory process x = some data := by
      rintro data rfl
      have hfinished := hreturns.finished
      have hmemory := hreturns.memory
      simp only [CommCall.finish] at hfinished hmemory
      cases hfinish : CommObject.finishWaitAnyFor comms (waitAnyAck index data)
        (ready.memory (t.process p)) with
      | error e =>
          rw [hfinish] at hfinished hmemory
          subst hfinished
          rw [hmemory]
          exact ⟨(fun r hr => by cases hr), fun _ => rfl, fun process x hx => absurd rfl hx⟩
      | ok written =>
          obtain ⟨r, memory⟩ := written
          rw [hfinish] at hfinished hmemory
          obtain ⟨rfl, htimedOut, hwritten⟩ := finishWaitAnyFor_writes hfinish
          subst hfinished
          rw [hmemory]
          refine ⟨fun r hr => (by cases hr; rfl), ?_, ?_⟩
          · intro hnegative
            rw [htimedOut hnegative]
            exact Function.update_eq_self _ _
          · intro process x hx
            by_cases hprocess : process = t.process p
            · subst hprocess
              refine ⟨rfl, ?_⟩
              simp only [Finished.writes, Function.update_self] at hx ⊢
              exact hwritten x hx
            · simp only [Finished.writes, Function.update_of_ne hprocess] at hx
              exact absurd rfl hx
    have hat : ready.handles.server.point p = some (.returned (.index index)
        (.commWaitAnyFor iterators (comms.map (·.remoteAddress)))) := by
      rw [point_eq_some]
      refine ⟨actor, hfind, ?_⟩
      rw [hpoint, ← hmap]
    rcases hindex with ⟨hnegative, rfl, hsame⟩ | ⟨hnonnegative, it, taken, data, hit, htaken, rfl⟩
    · obtain ⟨hresult, hkept, -⟩ := hwrites rfl
      refine ⟨iterators, index, [], hat, hreturns.written, hresult, ?_, fun hpos => ?_⟩
      · exact fun _ => ⟨rfl, hmemory.trans hsame, hkept hnegative⟩
      · exact absurd hpos (Int.not_le.mpr hnegative)
    · obtain ⟨hresult, -, hwritten⟩ := hwrites rfl
      refine ⟨iterators, index, data, hat, hreturns.written, hresult,
        fun hneg => absurd hnonnegative (Int.not_le.mpr hneg), fun _ => ?_⟩
      -- the comm at the index on the client's side has the address of the iterator at the index
      obtain ⟨comm, hcomm, haddress⟩ : ∃ comm, comms[index.toNat]? = some comm ∧
          comm.remoteAddress = it.address := by
        have hlookup := congrArg (·[index.toNat]?) haddresses
        simp only [List.getElem?_map, hit, Option.map_some] at hlookup
        exact Option.map_eq_some_iff.mp hlookup
      rw [← haddress] at htaken
      obtain ⟨stored, hstored, hpayload⟩ := h.received.taken htaken
      refine ⟨comm, stored, hcomm, hstored, ?_, ?_, ?_⟩
      · rw [hmemory]
        rcases hpayload with ⟨hbuffer, hdata, hsame⟩ | ⟨b, x, hb, hopened, hx, hsent, hfound, hafter⟩
        · exact Or.inl ⟨hbuffer, hdata, hsame⟩
        · exact Or.inr ⟨b, x, hb, hopened, hx, hsent, hfound, hafter⟩
      · intro a ha
        rw [hmemory]
        exact htaken.elsewhere ha
      · intro process x hx
        obtain ⟨hprocess, -, comm', hcomm', hdestination, hdata⟩ := hwritten process x hx
        rw [hcomm, Option.some.injEq] at hcomm'
        subst hcomm'
        exact ⟨hprocess, hdestination, hdata⟩

/-- The two sides agree on the comms of every `wait_any_for`: while it is suspended the server waits on
those that the client has given, in their order, and when it returns the index that S4U has returned
designates the same comm on both sides. -/
structure WaitAnyAgrees (s : CommSystem K) (trace : List SimOutput) : Prop where
  waits : ∀ p comms timeout thinkTime call frame,
    s.calls p = some ⟨.waitAnyFor comms timeout, thinkTime⟩ →
    s.handles.server.point p = some (.calling call frame) → frame.ofLoop = false →
    call = .commWaitAnyFor (comms.map (·.remoteAddress)) timeout
  returns : ∀ event t out p comms timeout result, commStep K s event = some (t, out) →
    .returned p (.waitAnyFor comms timeout) result ∈ out →
    ∃ iterators index data, s.handles.server.point p = some (.returned (.index index)
        (.commWaitAnyFor iterators (comms.map (·.remoteAddress)))) ∧
      (p, waitAnyAck index data) ∈ acks (serverOutputs out) ∧
      (∀ r, result = .ok r → r = .index index) ∧ WaitedAny s t trace p comms index data

/-- In every state of a run the server and its clients agree on the comms of every `wait_any_for`. -/
theorem waitAny_agrees {connections : List ActorConnection} {events : List (CommEvent K)}
    (hrun : Run (commStep K) (CommSystem.launch K connections) events s trace)
    (hfresh : Throughout (commStep K) FreshComm (CommSystem.launch K connections) events) :
    WaitAnyAgrees s (serverOutputs trace) where
  waits _ _ _ _ _ _ hpending hpoint hloop := (commInv_run hrun hfresh).waitsOn hpending hpoint hloop
  returns _ _ _ _ _ _ _ hstep hret := (commInv_run hrun hfresh).waitedAny hstep hret

/-- The server waits without a limit for a `wait_any`, on the comms of the client; the client is given the
index that S4U returns. -/
theorem waitAny_unlimited {connections : List ActorConnection} {events : List (CommEvent K)}
    (hrun : Run (commStep K) (CommSystem.launch K connections) events s trace)
    (hfresh : Throughout (commStep K) FreshComm (CommSystem.launch K connections) events) :
    (∀ thinkTime call frame, s.calls p = some ⟨.waitAny comms, thinkTime⟩ →
      s.handles.server.point p = some (.calling call frame) → frame.ofLoop = false →
      call = .commWaitAnyFor (comms.map (·.remoteAddress)) (-1)) ∧
    ∀ event t out result, commStep K s event = some (t, out) →
      .returned p (.waitAny comms) result ∈ out → ∃ index data,
        (∀ r, result = .ok r → r = .index index) ∧
          WaitedAny s t (serverOutputs trace) p comms index data := by
  have hinv := commInv_run hrun hfresh
  refine ⟨fun thinkTime call frame hpending hpoint hloop => hinv.waitsOn hpending hpoint hloop, ?_⟩
  intro event t out result hstep hret
  obtain ⟨iterators, index, data, -, -, hresult, hwaited⟩ := hinv.waitedAny hstep hret
  exact ⟨index, data, hresult, hwaited⟩

end

def mailSystem : CommSystem permissiveS4u :=
  CommSystem.launch permissiveS4u [{ actorId := 2, socket := some 10 }, { actorId := 3, socket := some 11 }]

/-- A receiver gives a comm twice to `wait_any_for`; the second one is reported when the message of the
sender has arrived. -/
def repeatedCommEvents : List (CommEvent permissiveS4u) :=
  [.handles (.simulation (.schedule 2)), .call (.getAsync { name := "mailbox" } (some 7)) 0,
    .handles (.simulation (.schedule 3)),
    .call (.putAsync { mailbox := { name := "mailbox" }, data := [5] }) 0,
    .handles (.simulation (.serve 2 (.address 100))), .handles (.simulation (.schedule 2)),
    .call (.waitAnyFor [⟨100, some 7⟩, ⟨100, some 7⟩] (-1)) 0,
    .handles (.simulation (.serve 3 (.address 200))), .handles (.simulation (.progress [(1, 2)])),
    .handles (.simulation (.serve 2 (.index 1)))]

theorem waitAny_agrees_repeated :
    ∃ s trace t out, Run (commStep permissiveS4u) mailSystem repeatedCommEvents s trace ∧
      WaitAnyAgrees s (serverOutputs trace) ∧
      commStep permissiveS4u s (.handles (.simulation (.schedule 2))) = some (t, out) ∧
      t.memory 0 7 = some [5] := by
  obtain ⟨s, trace, t, out, hexec, hstep, hmemory⟩ : ∃ s trace t out,
      exec (commStep permissiveS4u) mailSystem repeatedCommEvents = some (s, trace) ∧
      commStep permissiveS4u s (.handles (.simulation (.schedule 2))) = some (t, out) ∧
      t.memory 0 7 = some [5] := by
    refine ⟨_, _, _, _, rfl, rfl, ?_⟩
    rfl
  exact ⟨s, trace, t, out, Run.of_exec hexec,
    waitAny_agrees (Run.of_exec hexec) (Throughout.of_check rfl), hstep, hmemory⟩

end RemoteSimgrid
