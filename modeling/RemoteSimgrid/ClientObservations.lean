import RemoteSimgrid.ClientCollections
import RemoteSimgrid.SimulationFinished

/-! The observations of a comm that has already been reported as completed: `wait`, `wait_for`, `test`,
`wait_any` and `wait_any_for` after one of them has returned its completion. -/

namespace RemoteSimgrid

open Machine Pb

/-- The comm whose completion the result of a function reports to its caller. -/
def CommCall.reports (call : CommCall) : CommResult → Option CommObject
  | .done => call.completed .done
  | .bool value => call.completed (.bool value)
  | .index finished => call.completed (.index finished)
  | _ => none

namespace Completions

def hear (c : Completions) : CommOutput → Completions
  | .server output => c.observe output
  | .returned _ call (.ok result) =>
      match call.reports result with
      | some comm => c.report comm.remoteAddress
      | none => c
  | .returned _ _ (.error _) => c

def hearAll (c : Completions) (out : List CommOutput) : Completions := out.foldl hear c

end Completions

variable {K : S4u} {R : Rendezvous K} {F : FinishesOnce K} {s t : CommSystem K} {event : CommEvent K}
  {trace out : List CommOutput} {p : Pid} {call : CommCall} {ret : S4uReturn} {comm : CommObject}
  {c : Completions}

/-- A client had been told that the comm at an address is completed when the decision was handled that
the actor works on. -/
def ReportedBefore (trace : List CommOutput) (p : Pid) (a : Address) : Prop :=
  a ∈ (({} : Completions).hearAll trace).before p

instance (trace : List CommOutput) (p : Pid) (a : Address) : Decidable (ReportedBefore trace p a) :=
  inferInstanceAs (Decidable (_ ∈ _))

/-- SimGrid has returned to an observation of a comm whose completion had been reported before. One of
several comms is an observation of the comm that it reports. -/
inductive ObservesAgain (s : CommSystem K) (trace : List CommOutput) (p : Pid) : CommCall → CommObject → Prop
  | waitFor (comm : CommObject) (timeout : ℚ) (ret : S4uReturn) :
      ReturnedTo s p (.waitFor comm timeout) ret → ReportedBefore trace p comm.remoteAddress →
      ObservesAgain s trace p (.waitFor comm timeout) comm
  | test (comm : CommObject) (ret : S4uReturn) : ReturnedTo s p (.test comm) ret →
      ReportedBefore trace p comm.remoteAddress → ObservesAgain s trace p (.test comm) comm
  | waitAnyFor (comms : List CommObject) (timeout : ℚ) (index : Int) (comm : CommObject) :
      ReturnedTo s p (.waitAnyFor comms timeout) (.index index) → 0 ≤ index →
      comms[index.toNat]? = some comm → ReportedBefore trace p comm.remoteAddress →
      ObservesAgain s trace p (.waitAnyFor comms timeout) comm

/-! ### What is reported -/

/-- The acknowledgment of an observation whose comm is not completed. -/
inductive Frame.Unfinished : DecisionAck → Frame → Prop
  | failed (frame : Frame) : Unfinished { success := false } frame
  | timedOut (it : Iterator) :
      Unfinished { success := true, data := .commWaitFor { timeoutReached := true } } (.commWaitFor it)
  | pending (it : Iterator) :
      Unfinished { success := true, data := .commTest { isTerminated := false } } (.commTest it)
  | noneFinished (comms : List Iterator) (pointers : List Address) (index : Int) : index < 0 →
      Unfinished (waitAnyAck index []) (.commWaitAnyFor comms pointers)

theorem Resumed.observation {k : K.State} {socket : Socket} {frame : Frame} {m : Memory}
    {segment : Segment} {ack : DecisionAck} {sendAck : Bool}
    (h : Resumed K k p socket frame ret m segment) (hobserves : frame.observes = true)
    (houtcome : segment.outcome = .finished ack sendAck false) :
    (∃ it out data, frame.Completes it ret ∧ Taken it.address m segment.memory out data ∧
      ack = collectionAck ret data) ∨ frame.Unfinished ack := by
  have hother : ∀ {other : Frame} {P : Prop}, frame = other → other.observes = false → P := by
    rintro other P rfl hnot
    rw [hobserves] at hnot
    cases hnot
  cases h with
  | commWaited it m' out data hframe hret _ htaken =>
      subst hframe hret
      cases houtcome
      exact Or.inl ⟨it, out, data, .waitFor, htaken, rfl⟩
  | commTested it m' out data hframe hret _ htaken =>
      subst hframe hret
      cases houtcome
      exact Or.inl ⟨it, out, data, .test, htaken, rfl⟩
  | commWaitedAny comms pointers index it m' out data hframe hret hindex hcomm htaken =>
      subst hframe hret
      cases houtcome
      exact Or.inl ⟨it, out, data, .waitAnyFor comms pointers index hindex hcomm, htaken, rfl⟩
  | commTimedOut it hframe =>
      subst hframe
      cases houtcome
      exact Or.inr (.timedOut it)
  | commCanceled it hframe =>
      cases houtcome
      exact Or.inr (.failed frame)
  | commPending it hframe =>
      subst hframe
      cases houtcome
      exact Or.inr (.pending it)
  | commNoneFinished comms pointers index hframe _ hindex =>
      subst hframe
      cases houtcome
      exact Or.inr (.noneFinished comms pointers index hindex)
  | dispatched d hframe => exact hother hframe rfl
  | acknowledged hplain =>
      cases frame <;> cases hplain <;> cases hobserves
  | hostFailure hframe => exact hother hframe rfl
  | mailboxPutAsync _ hframe => exact hother hframe rfl
  | mailboxGetAsync _ _ hframe => exact hother hframe rfl
  | mailboxGet _ _ hframe => exact hother hframe rfl
  | mutexCreate _ hframe => exact hother hframe rfl
  | mutexTryLock _ hframe => exact hother hframe rfl
  | conditionVariableCreate _ hframe => exact hother hframe rfl
  | conditionVariableStatus _ _ _ _ _ hframe =>
      rcases hframe with ⟨hframe, -⟩ | ⟨hframe, -⟩ <;> exact hother hframe rfl
  | _ => cases houtcome

/-- A result that reports a comm is that of one of the observations. -/
theorem reports_cases {result : CommResult} (h : call.reports result = some comm) :
    (∃ timeout, call = .waitFor comm timeout ∧ result = .done) ∨
      (call = .test comm ∧ result = .bool true) ∨
      ∃ comms timeout index, call = .waitAnyFor comms timeout ∧ result = .index index ∧ 0 ≤ index ∧
        comms[index.toNat]? = some comm := by
  cases result with
  | done =>
      cases call <;> cases h
      exact Or.inl ⟨_, rfl, rfl⟩
  | bool value =>
      cases call <;> cases value <;> cases h
      exact Or.inr (Or.inl ⟨rfl, rfl⟩)
  | index finished =>
      have hcompleted : call.completed (.index finished) = some comm := h
      cases call with
      | waitAnyFor comms timeout =>
          rw [CommCall.completed] at hcompleted
          split at hcompleted
          · rename_i hindex
            exact Or.inr (Or.inr ⟨comms, timeout, finished, rfl, rfl, hindex, hcompleted⟩)
          · cases hcompleted
      | _ => cases hcompleted
  | comm => cases h
  | data => cases h

theorem reports_observes {result : CommResult} (h : call.reports result = some comm) :
    call.type.observes = true := by
  rcases reports_cases h with ⟨_, rfl, -⟩ | ⟨rfl, -⟩ | ⟨_, _, _, rfl, -⟩ <;> rfl

theorem Frame.Serves.observes {type : DecisionType} {frame : Frame} {s4uCall : S4uCall}
    (h : frame.Serves type s4uCall) (htype : type.observes = true) : frame.observes = true := by
  have hother : type.observes = false → frame.observes = true := by
    intro hnot
    rw [htype] at hnot
    cases hnot
  cases frame with
  | commWaitFor => rfl
  | commTest => rfl
  | commWaitAnyFor => rfl
  | mailboxGet =>
      obtain ⟨_, rfl, -⟩ := h
      cases htype
  | mailboxGetAsync =>
      obtain ⟨_, rfl, -⟩ := h
      cases htype
  | mailboxPutAsync =>
      obtain ⟨_, _, rfl, -⟩ := h
      cases htype
  | _ => exact hother h

/-- A function reports a comm only if the handler of its decision has found it completed. -/
theorem Frame.Unfinished.reports {frame : Frame} {ack : DecisionAck} {s4uCall : S4uCall}
    {memory memory' : UserMemory} {result : CommResult} (h : frame.Unfinished ack)
    (hserves : frame.Serves call.type s4uCall) (hfinish : call.finish ack memory = .ok (result, memory')) :
    call.reports result ≠ some comm := by
  intro hreports
  rcases reports_cases hreports with ⟨timeout, rfl, rfl⟩ | ⟨rfl, rfl⟩ |
    ⟨comms, timeout, index, rfl, rfl, hindex, -⟩
  · obtain ⟨it, rfl, -⟩ := serves_waitFor hserves
    cases h with
    | failed => cases hfinish
    | timedOut => cases hfinish
  · obtain ⟨it, rfl, -⟩ := serves_test hserves
    cases h with
    | failed => cases hfinish
    | pending => cases hfinish
  · obtain ⟨iterators, rfl, -⟩ := serves_waitAny hserves
    cases h with
    | failed => cases hfinish
    | noneFinished _ _ index' hnegative =>
        obtain ⟨heq, -⟩ := finishWaitAnyFor_writes hfinish
        cases heq
        exact absurd hindex (Int.not_le.mpr hnegative)

theorem Frame.Completes.reports {it : Iterator} {frame : Frame} {s4uCall : S4uCall} {data : Bytes}
    {memory memory' : UserMemory} {result : CommResult} (h : frame.Completes it ret)
    (hserves : frame.Serves call.type s4uCall)
    (hfinish : call.finish (collectionAck ret data) memory = .ok (result, memory'))
    (hreports : call.reports result = some comm) : it.address = comm.remoteAddress := by
  rcases reports_cases hreports with ⟨timeout, rfl, -⟩ | ⟨rfl, -⟩ |
    ⟨comms, timeout, index, rfl, rfl, hindex, hcomm⟩
  · obtain ⟨it', rfl, haddress⟩ := serves_waitFor hserves
    cases h
    exact haddress
  · obtain ⟨it', rfl, haddress⟩ := serves_test hserves
    cases h
    exact haddress
  · obtain ⟨iterators, rfl, haddresses, -⟩ := serves_waitAny hserves
    cases h with
    | waitAnyFor _ _ index' hindex' hit =>
        obtain ⟨heq, -⟩ := finishWaitAnyFor_writes hfinish
        cases heq
        have hlookup := congrArg (·[index.toNat]?) haddresses
        simp only [List.map_map, List.getElem?_map, hcomm, hit, Option.map_some, Function.comp_apply,
          Option.some.injEq] at hlookup
        exact hlookup.symm

/-- When a function reports a comm, its payload is collected. -/
theorem CommInv.reports (h : CommInv s trace) (hstep : commStep K s event = some (t, out))
    {result : CommResult} (hret : .returned p call (.ok result) ∈ out)
    (hreports : call.reports result = some comm) :
    ∃ ret frame it taken data, s.handles.server.point p = some (.returned ret frame) ∧
      frame.completed ret = some it ∧ it.address = comm.remoteAddress ∧
      Taken comm.remoteAddress s.handles.server.memory t.handles.server.memory taken data := by
  obtain ⟨ready, sim, ack, hreturns⟩ := returns_of_mem hstep hret
  obtain ⟨simOut, hcases⟩ := hreturns.step
  obtain ⟨thinkTime, hpending⟩ := hreturns.pending
  have hasked : ready.asked p = some (PendingCall.decision ⟨call, thinkTime⟩) := by
    rw [CommSystem.asked, hpending, Option.map_some]
  have hworks := hreturns.prepares.works h.works hcases
  obtain ⟨written, hfinish⟩ : ∃ written,
      call.finish ack (ready.memory (t.process p)) = .ok (result, written) := by
    have hfinished := hreturns.finished
    cases hfinish : call.finish ack (ready.memory (t.process p)) with
    | error e =>
        rw [hfinish] at hfinished
        cases hfinished
    | ok finished =>
        rw [hfinish] at hfinished
        cases hfinished
        exact ⟨finished.2, rfl⟩
  have hobserves := reports_observes hreports
  rcases hreturns.acked.observation hworks hreturns.prepares.decided hasked hobserves with
    ⟨-, rfl, -⟩ | ⟨actor, ret, frame, s4uCall, segment, sendAck, -, hfind, hpoint, hsuspends, hresumed,
      houtcome, hmemory⟩
  · rcases reports_cases hreports with ⟨_, rfl, -⟩ | ⟨rfl, -⟩ | ⟨_, _, _, rfl, -⟩ <;> cases hfinish
  · have hserves : frame.Serves call.type s4uCall := hsuspends.serves
    rcases hresumed.observation (hserves.observes hobserves) houtcome with
      ⟨it, taken, data, hcompletes, htaken, rfl⟩ | hunfinished
    · have haddress := hcompletes.reports hserves hfinish hreports
      refine ⟨ret, frame, it, taken, data, point_eq_some.mpr ⟨actor, hfind, hpoint⟩,
        hcompletes.completed, haddress, ?_⟩
      rw [hmemory, ← haddress]
      exact htaken
    · exact absurd hreports (hunfinished.reports hserves hfinish)

/-! ### The invariant -/

namespace Completions

theorem hearAll_append (c : Completions) (out out' : List CommOutput) :
    c.hearAll (out ++ out') = (c.hearAll out).hearAll out' :=
  List.foldl_append

theorem hearAll_server (c : Completions) (out : List SimOutput) :
    c.hearAll (out.map .server) = c.observeAll out :=
  List.foldl_map

theorem hearAll_returned (c : Completions) (p : Pid) (call : CommCall) (result : CommResult) :
    c.hearAll [.returned p call (.ok result)] =
      (call.reports result).elim c fun comm => c.report comm.remoteAddress := by
  simp only [hearAll, List.foldl_cons, List.foldl_nil, hear]
  cases call.reports result <;> rfl

end Completions

/-- There is nothing to collect any more from the entry of a comm that has just been collected. -/
theorem Taken.emptied {address : Address} {m m' : Memory} {taken : List SimOutput} {data : Bytes}
    (h : Taken address m m' taken data) :
    ∃ stored, m'.store.comms.find address = some stored ∧ stored.receptionBuffer = none := by
  cases h with
  | nothing stored hfind hbuffer => exact ⟨stored, hfind, hbuffer⟩
  | payload stored buffer payload _ hfind =>
      refine ⟨{ stored with receptionBuffer := none }, ?_, rfl⟩
      rw [Memory.takePayload, UnorderedMap.find_modify_self, hfind, Option.map_some]

theorem Taken.eq_nil {address : Address} {m m' : Memory} {taken : List SimOutput} {data : Bytes}
    (h : Taken address m m' taken data)
    (hempty : ∀ stored, m.store.comms.find address = some stored → stored.receptionBuffer = none) :
    data = [] := by
  cases h with
  | nothing => rfl
  | payload stored buffer payload _ hfind hbuffer =>
      rw [hempty stored hfind] at hbuffer
      cases hbuffer

/-- An object that is stored is not one that an actor still has to store. -/
theorem StoreInv.stored {s : Simulation K} (h : StoreInv s) {a : Address} {stored : StoredComm}
    (hfind : s.memory.store.comms.find a = some stored) (p : Pid) (frame : Frame) :
    s.point p ≠ some (.returned (.address a) frame) := by
  intro hp
  obtain ⟨actor, hactor, hpoint⟩ := point_eq_some.mp hp
  have hentry := h.owned.entry (.comm a) stored.entry (by rw [Memory.entry, hfind, Option.map_some])
  exact (h.unstored.fresh p actor frame a hactor hpoint).2 hentry.2.2.1

theorem receive_out (s : CommSystem K) (p : Pid) (ack : DecisionAck) :
    (s.receive p ack).2 = [] ∨ ∃ call result, (s.receive p ack).2 = [.returned p call result] := by
  unfold CommSystem.receive
  split
  · exact Or.inl rfl
  · dsimp only
    split
    · exact Or.inr ⟨_, _, rfl⟩
    · exact Or.inr ⟨_, _, rfl⟩

theorem FinishInv.commStep (h : FinishInv F s.handles.server c) (hmail : MailInv R s trace)
    (hfresh : FreshComm s event) (hfork : NoCommFork s event)
    (hstep : commStep K s event = some (t, out)) : FinishInv F t.handles.server (c.hearAll out) := by
  have hafter := hmail.step hfresh hfork hstep
  have hsteps := hstep
  cases commStep_cases hstep with
  | served sim ready handles simOut hprepares hhandle hserver =>
      have hcases := (simulationStep_cases hserver).2
      have hserved := h.step hmail.delivery.blocked hmail.comms.suspended (hprepares.fresh hfresh) hcases
      rcases hcases.acked with hnone | ⟨p, ack, hacks, -, -⟩
      · rw [hnone, CommSystem.receiveAll_nil, List.append_nil, Completions.hearAll_server]
        exact hserved
      · rw [hacks, CommSystem.receiveAll_singleton] at hsteps hafter ⊢
        have hhandles := CommSystem.handles_receive { ready with handles := handles } p ack
        rw [Completions.hearAll_append, Completions.hearAll_server]
        rcases receive_out { ready with handles := handles } p ack with hout | ⟨call, result, hout⟩
        · rw [hout, hhandles]
          exact hserved
        · rw [hout] at hsteps ⊢
          cases hresult : result with
          | error e =>
              rw [hhandles]
              exact hserved
          | ok result' =>
              subst hresult
              cases hreports : call.reports result' with
              | none =>
                  rw [hhandles, Completions.hearAll_returned, hreports, Option.elim_none]
                  exact hserved
              | some comm =>
                  rw [Completions.hearAll_returned, hreports, Option.elim_some]
                  obtain ⟨ret, frame, it, taken, data, hpoint, hcompleted, haddress, htaken⟩ :=
                    hmail.comms.reports hsteps (List.mem_append_right _ (List.mem_singleton_self _))
                      hreports
                  obtain ⟨stored, hstored, hbuffer⟩ := htaken.emptied
                  have hfinished := hcases.finished F
                    (hmail.delivery.blocked.not_created (hprepares.fresh hfresh) hpoint hcompleted)
                    (h.completed p ret frame it hpoint hcompleted)
                  have hstore := hafter.comms.store
                  rw [hhandles] at hstored hstore ⊢
                  refine hserved.report (haddress ▸ hfinished) (fun stored' hstored' => ?_)
                    fun q b => hstore.stored hstored q _
                  rw [hstored, Option.some.injEq] at hstored'
                  exact hstored' ▸ hbuffer
  | copied handles hhandle hserver =>
      show FinishInv F handles.server c
      rw [hserver]
      exact h

theorem finishInv_run {connections : List ActorConnection} {events : List (CommEvent K)}
    (R : Rendezvous K) (F : FinishesOnce K)
    (hrun : Run (RemoteSimgrid.commStep K) (CommSystem.launch K connections) events s trace)
    (hfresh : Throughout (RemoteSimgrid.commStep K) FreshComm (CommSystem.launch K connections) events)
    (hfork : Throughout (RemoteSimgrid.commStep K) NoCommFork (CommSystem.launch K connections) events) :
    MailInv R s trace ∧ FinishInv F s.handles.server (({} : Completions).hearAll trace) := by
  have hboth : Throughout (RemoteSimgrid.commStep K) (fun s event => FreshComm s event ∧ NoCommFork s event)
      (CommSystem.launch K connections) events :=
    fun before label after t trace heq hbefore =>
      ⟨hfresh before label after t trace heq hbefore, hfork before label after t trace heq hbefore⟩
  refine hrun.guarded_invariant
    (P := fun _ s trace => MailInv R s trace ∧
      FinishInv F s.handles.server (({} : Completions).hearAll trace)) hboth
    ⟨MailInv.launch connections, FinishInv.spawn connections⟩ ?_
  intro _ _ _ _ _ _ _ hinv hevent hstep
  refine ⟨hinv.1.step hevent.1 hevent.2 hstep, ?_⟩
  rw [Completions.hearAll_append]
  exact hinv.2.commStep hinv.1 hevent.1 hevent.2 hstep

/-! ### A later observation -/

theorem reports_reported (h : call.completed ret = some comm) : call.reports ret.reported = some comm := by
  unfold CommCall.completed at h
  split at h <;> first | exact h | cases h

/-- SimGrid reports a comm as completed to a later observation. -/
theorem ObservesAgain.completed (h : ObservesAgain s trace p call comm) (hcomms : CommInv s trace)
    (hfinish : FinishInv F s.handles.server (({} : Completions).hearAll trace)) :
    ∃ ret, ReturnedTo s p call ret ∧ call.completed ret = some comm ∧
      ReportedBefore trace p comm.remoteAddress := by
  cases h with
  | waitFor _ timeout ret hreturned hbefore =>
      obtain ⟨⟨thinkTime, hpending⟩, frame, hpoint, hloop⟩ := hreturned
      obtain ⟨s4uCall, hworks⟩ := hcomms.works p _ hpoint
      rw [CommSystem.asked, hpending, Option.map_some] at hworks
      obtain ⟨it, rfl, haddress⟩ := serves_waitFor (hworks.suspends hloop).serves
      have hcompleted := hfinish.answered p ret _ it hpoint rfl (by rw [haddress]; exact hbefore)
      have hret : ret = .done := by cases ret <;> first | rfl | cases hcompleted
      subst hret
      exact ⟨.done, ⟨⟨thinkTime, hpending⟩, _, hpoint, hloop⟩, rfl, hbefore⟩
  | test _ ret hreturned hbefore =>
      obtain ⟨⟨thinkTime, hpending⟩, frame, hpoint, hloop⟩ := hreturned
      obtain ⟨s4uCall, hworks⟩ := hcomms.works p _ hpoint
      rw [CommSystem.asked, hpending, Option.map_some] at hworks
      obtain ⟨it, rfl, haddress⟩ := serves_test (hworks.suspends hloop).serves
      have hcompleted := hfinish.answered p ret _ it hpoint rfl (by rw [haddress]; exact hbefore)
      have hret : ret = .bool true := by
        cases ret with
        | bool value => cases value <;> first | rfl | cases hcompleted
        | _ => cases hcompleted
      subst hret
      exact ⟨.bool true, ⟨⟨thinkTime, hpending⟩, _, hpoint, hloop⟩, rfl, hbefore⟩
  | waitAnyFor comms timeout index _ hreturned hindex hcomm hbefore =>
      refine ⟨.index index, hreturned, ?_, hbefore⟩
      rw [CommCall.completed, if_pos hindex]
      exact hcomm

/-- A comm whose completion has been reported to its client can be observed again just if it has no
destination or the observation is a `test`: the others throw, as there is no payload any more. -/
theorem observed_again_iff (R : Rendezvous K) (F : FinishesOnce K) {connections : List ActorConnection}
    {events : List (CommEvent K)}
    (hrun : Run (commStep K) (CommSystem.launch K connections) events s trace)
    (hfresh : Throughout (commStep K) FreshComm (CommSystem.launch K connections) events)
    (hfork : Throughout (commStep K) NoCommFork (CommSystem.launch K connections) events)
    (hagain : ObservesAgain s trace p call comm) (hidle : s.handles.server.current = none) :
    ∃ t out result, commStep K s (.handles (.simulation (.schedule p))) = some (t, out) ∧
      .returned p call result ∈ out ∧
      ((∃ r, result = .ok r ∧ call.reports r = some comm) ∧ t.memory = s.memory ↔
        comm.destinationBuffer = none ∨ call = .test comm) := by
  obtain ⟨hmail, hfinish⟩ := finishInv_run R F hrun hfresh hfork
  obtain ⟨ret, hreturned, hcompleted, hbefore⟩ := hagain.completed hmail.comms hfinish
  obtain ⟨t, out, taken, data, hstep, htaken, -, hresult, hmemory⟩ :=
    hmail.completes hreturned hcompleted hidle
  refine ⟨t, out, _, hstep, hresult, ?_⟩
  have hdata := htaken.eq_nil (hfinish.emptied _ (hfinish.asked p hbefore))
  subst hdata
  have hreported := reports_reported hcompleted
  generalize hfinished : call.finish (collectionAck ret []) (s.memory (s.process p)) = finished at hmemory ⊢
  have hok : finished = .ok (ret.reported, s.memory (s.process p)) →
      (∃ r, finished.map Prod.fst = .ok r ∧ call.reports r = some comm) ∧ t.memory = s.memory := by
    rintro rfl
    exact ⟨⟨ret.reported, rfl, hreported⟩, hmemory.trans (Function.update_eq_self _ _)⟩
  by_cases htest : call = .test comm
  · refine iff_of_true (hok ?_) (Or.inr htest)
    subst htest
    have hret := completed_test hcompleted
    subst hret
    exact hfinished.symm.trans ((finish_test [] _ comm).1 rfl)
  · obtain ⟨hnone, hsome⟩ := finish_wait [] (s.memory (s.process p)) hcompleted htest
    rw [hfinished] at hnone hsome
    cases hdestination : comm.destinationBuffer with
    | none => exact iff_of_true (hok (hnone hdestination)) (Or.inl rfl)
    | some d =>
        obtain ⟨e, herror⟩ := (hsome d hdestination).1 rfl
        refine iff_of_false ?_ ?_
        · rintro ⟨⟨r, hr, -⟩, -⟩
          rw [herror] at hr
          cases hr
        · rintro (hnot | hnot)
          · cases hnot
          · exact htest hnot

/-- A server with a sender and a receiver. -/
def finishingSystem : CommSystem mailroomS4u.finishing :=
  CommSystem.launch mailroomS4u.finishing
    [{ actorId := 2, socket := some 10 }, { actorId := 3, socket := some 11 }]

/-- A receiver waits until the payload of its comm has arrived, and then observes the comm once more. -/
def observationEvents (again : CommCall) (ret : S4uReturn) : List (CommEvent mailroomS4u.finishing) :=
  [.handles (.simulation (.schedule 2)), .call (.getAsync { name := "mailbox" } (some 7)) 0,
    .handles (.simulation (.schedule 3)),
    .call (.putAsync { mailbox := { name := "mailbox" }, data := [5] }) 0,
    .handles (.simulation (.serve 2 (.address 100))), .handles (.simulation (.schedule 2)),
    .call (.wait ⟨100, some 7⟩) 0, .handles (.simulation (.serve 3 (.address 200))),
    .handles (.simulation (.progress (1, 2))), .handles (.simulation (.serve 2 .done)),
    .handles (.simulation (.schedule 2)), .call again 0, .handles (.simulation (.serve 2 ret))]

theorem observed_again_iff_test :
    ∃ s trace t out result,
      Run (commStep mailroomS4u.finishing) finishingSystem
        (observationEvents (.test ⟨100, some 7⟩) (.bool true)) s trace ∧
      commStep mailroomS4u.finishing s (.handles (.simulation (.schedule 2))) = some (t, out) ∧
      .returned 2 (.test ⟨100, some 7⟩) result ∈ out ∧
      ((∃ r, result = .ok r ∧ (CommCall.test ⟨100, some 7⟩).reports r = some ⟨100, some 7⟩) ∧
          t.memory = s.memory ↔
        (CommObject.mk 100 (some 7)).destinationBuffer = none ∨
          CommCall.test ⟨100, some 7⟩ = .test ⟨100, some 7⟩) := by
  obtain ⟨s, trace, hexec, hagain, hidle⟩ : ∃ s trace,
      exec (commStep mailroomS4u.finishing) finishingSystem
        (observationEvents (.test ⟨100, some 7⟩) (.bool true)) = some (s, trace) ∧
      ObservesAgain s trace 2 (.test ⟨100, some 7⟩) ⟨100, some 7⟩ ∧ s.handles.server.current = none := by
    refine ⟨_, _, rfl, .test ⟨100, some 7⟩ (.bool true) ⟨⟨0, rfl⟩, _, rfl, rfl⟩ ?_, rfl⟩
    exact of_decide_eq_true rfl
  have hforks : Throughout (commStep mailroomS4u.finishing) (fun _ event => event.forks = false)
      finishingSystem (observationEvents (.test ⟨100, some 7⟩) (.bool true)) := Throughout.of_check rfl
  obtain ⟨t, out, result, hall⟩ := observed_again_iff mailroomRendezvous.finishing
    mailroomS4u.finishesOnce (Run.of_exec hexec) (Throughout.of_check rfl)
    (fun before event after t trace heq hbefore =>
      noCommFork_of_forks (hforks before event after t trace heq hbefore)) hagain hidle
  exact ⟨s, trace, t, out, result, Run.of_exec hexec, hall⟩

/-- A second `wait` throws, after the first one has delivered the payload. -/
theorem second_wait_throws :
    ∃ s trace t out,
      Run (commStep mailroomS4u.finishing) finishingSystem
        (observationEvents (.wait ⟨100, some 7⟩) .done) s trace ∧
      Throughout (commStep mailroomS4u.finishing) FreshComm finishingSystem
        (observationEvents (.wait ⟨100, some 7⟩) .done) ∧
      Throughout (commStep mailroomS4u.finishing) NoCommFork finishingSystem
        (observationEvents (.wait ⟨100, some 7⟩) .done) ∧
      ObservesAgain s trace 2 (.wait ⟨100, some 7⟩) ⟨100, some 7⟩ ∧ s.memory 0 7 = some [5] ∧
      commStep mailroomS4u.finishing s (.handles (.simulation (.schedule 2))) = some (t, out) ∧
      .returned 2 (.wait ⟨100, some 7⟩)
        (.error ⟨"Received CommWaitFor ack does not contain data while _destination_buffer is not null"⟩) ∈
          out := by
  obtain ⟨s, trace, t, out, hexec, hagain, hmemory, hstep, simOut, rfl⟩ : ∃ s trace t out,
      exec (commStep mailroomS4u.finishing) finishingSystem
        (observationEvents (.wait ⟨100, some 7⟩) .done) = some (s, trace) ∧
      ObservesAgain s trace 2 (.wait ⟨100, some 7⟩) ⟨100, some 7⟩ ∧ s.memory 0 7 = some [5] ∧
      commStep mailroomS4u.finishing s (.handles (.simulation (.schedule 2))) = some (t, out) ∧
      ∃ simOut : List SimOutput, out = simOut.map .server ++ [.returned 2 (.wait ⟨100, some 7⟩)
        (.error ⟨"Received CommWaitFor ack does not contain data while _destination_buffer is not null"⟩)] := by
    refine ⟨_, _, _, _, rfl, .waitFor ⟨100, some 7⟩ (-1) .done ⟨⟨0, rfl⟩, _, rfl, rfl⟩ ?_, rfl, rfl, _, rfl⟩
    exact of_decide_eq_true rfl
  have hforks : Throughout (commStep mailroomS4u.finishing) (fun _ event => event.forks = false)
      finishingSystem (observationEvents (.wait ⟨100, some 7⟩) .done) := Throughout.of_check rfl
  exact ⟨s, trace, t, _, Run.of_exec hexec, Throughout.of_check rfl,
    fun before event after t trace heq hbefore =>
      noCommFork_of_forks (hforks before event after t trace heq hbefore), hagain, hmemory, hstep,
    List.mem_append_right _ (List.mem_singleton_self _)⟩

end RemoteSimgrid
