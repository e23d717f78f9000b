import RemoteSimgrid.SimulationBlocked

/-! What the S4U call and the frame of a suspended handler tell of the decision it handles. -/

namespace RemoteSimgrid

open Machine Pb

/-- The handler of a decision may be suspended in a call, with a frame. -/
def Suspends (d : Decision) (call : S4uCall) (frame : Frame) : Prop :=
  ∃ m segment, Owned m ∧ Switched d m segment ∧ segment.outcome = .call call frame

/-- The frames of an actor that is suspended outside of the handlers. -/
def Frame.ofLoop : Frame → Bool
  | .firstYield _ | .thinkTime _ => true
  | _ => false

/-- The decisions that observe a comm. -/
def Pb.DecisionType.observes : DecisionType → Bool
  | .commWaitFor _ | .commTest _ | .commWaitAnyFor _ => true
  | _ => false

/-- The frame of an observation, or of a receive, with the call and the decision it belongs to. -/
def Frame.Serves (type : DecisionType) (call : S4uCall) : Frame → Prop
  | .commWaitFor comm => ∃ wait, type = .commWaitFor wait ∧ wait.comm.address = comm.address ∧
      call = .commWaitFor comm.address wait.timeout
  | .commTest comm => type = .commTest { address := comm.address } ∧ call = .commTest comm.address
  | .commWaitAnyFor comms pointers => ∃ wait, type = .commWaitAnyFor wait ∧
      wait.comms.map (·.address) = comms.map (·.address) ∧ pointers = comms.map (·.address) ∧
      call = .commWaitAnyFor pointers wait.timeout
  | .mailboxGet => ∃ mbox, type = .mailboxGet mbox ∧ call = .mailboxGet mbox.name
  | .mailboxGetAsync buffer => ∃ mbox, type = .mailboxGetAsync mbox ∧
      call = .mailboxGetAsync mbox.name buffer
  | .mailboxPutAsync => ∃ put payload, type = .mailboxPutAsync put ∧
      call = .mailboxPutAsync put.mailbox.name payload put.simulatedSize
  | _ => type.observes = false

theorem lookupComms_addresses {m : Memory} (howned : Owned m) {comms : List Comm}
    {found : List (Iterator × Address)} (h : lookupComms m comms = .ok found) :
    comms.map (·.address) = (found.map Prod.fst).map (·.address) ∧
      found.map Prod.snd = (found.map Prod.fst).map (·.address) := by
  induction comms generalizing found with
  | nil =>
      cases h
      exact ⟨rfl, rfl⟩
  | cons comm comms ih =>
      simp only [lookupComms] at h
      split at h
      · cases h
      · rename_i stored hfind
        split at h
        · cases h
        · rename_i rest hrest
          cases h
          obtain ⟨haddresses, hobjects⟩ := ih hrest
          have hobject : stored.comm = comm.address := by
            have hentry := howned.entry (.comm comm.address) stored.entry
              (by rw [Memory.entry, hfind, Option.map_some])
            exact hentry.1
          simp only [List.map_cons, haddresses, hobjects, hobject, and_self]

namespace Suspends

variable {d : Decision} {call : S4uCall} {frame : Frame}

theorem serves (h : Suspends d call frame) : frame.Serves d.type call := by
  obtain ⟨m, segment, howned, hswitched, houtcome⟩ := h
  have hobject : ∀ {address : Address} {comm : StoredComm},
      m.store.comms.find address = some comm → comm.comm = address := by
    intro address comm hfind
    have hentry := howned.entry (.comm address) comm.entry
      (by rw [Memory.entry, hfind, Option.map_some])
    exact hentry.1
  have hplain : ∀ {type : DecisionType}, type.plain → type.observes = false := by
    intro type hplain
    cases type <;> first | rfl | cases hplain
  have hother : ∀ {type : DecisionType}, d.type = type → type.observes = false →
      d.type.observes = false := fun hd h => hd ▸ h
  cases hswitched with
  | plainCalled call' frame' hd _ hframe =>
      cases houtcome
      rcases hframe with rfl | rfl
      · exact hplain hd
      · exact hplain hd
  | commWaitFor wait comm hd hfind =>
      cases houtcome
      exact ⟨wait, hd, rfl, by rw [hobject hfind]⟩
  | commTest c comm hd hfind =>
      cases houtcome
      exact ⟨hd, by rw [hobject hfind]⟩
  | commWaitAnyFor wait comms hd hlookup =>
      cases houtcome
      obtain ⟨haddresses, hobjects⟩ := lookupComms_addresses howned hlookup
      exact ⟨wait, hd, haddresses, hobjects, rfl⟩
  | mailboxPutAsync put hd =>
      cases houtcome
      exact ⟨put, m.next, hd, rfl⟩
  | mailboxGet mbox hd =>
      cases houtcome
      exact ⟨mbox, hd, rfl⟩
  | mailboxGetAsync mbox hd =>
      cases houtcome
      exact ⟨mbox, hd, rfl⟩
  | lockWaited c x cv mutex call' frame' hd _ _ hframe =>
      have hobserves : d.type.observes = false := by
        generalize d.type = type at hd
        cases type <;> first | rfl | cases hd
      cases houtcome
      rcases hframe with ⟨rfl, -⟩ | ⟨rfl, -⟩ | ⟨rfl, -⟩ <;> exact hobserves
  | notified c cv call' hd _ =>
      cases houtcome
      rcases hd with ⟨hd, -⟩ | ⟨hd, -⟩
      · exact hother hd rfl
      · exact hother hd rfl
  | actorCreate _ hd =>
      cases houtcome
      exact hother hd rfl
  | commCancel _ _ hd _ =>
      cases houtcome
      exact hother hd rfl
  | mailboxPut _ hd =>
      cases houtcome
      exact hother hd rfl
  | mutexCreate _ hd =>
      cases houtcome
      exact hother hd rfl
  | mutexLock _ _ hd _ =>
      cases houtcome
      exact hother hd rfl
  | mutexUnlock _ _ hd _ =>
      cases houtcome
      exact hother hd rfl
  | mutexTryLock _ _ hd _ =>
      cases houtcome
      exact hother hd rfl
  | conditionVariableCreate _ hd =>
      cases houtcome
      exact hother hd rfl
  | _ => cases houtcome

/-- A release is never suspended. -/
theorem released (h : Suspends d call frame) : d.type.released = none := by
  obtain ⟨m, segment, -, hswitched, houtcome⟩ := h
  have hother : ∀ {type : DecisionType}, d.type = type → type.released = none →
      d.type.released = none := fun hd h => hd ▸ h
  cases hswitched with
  | plainCalled _ _ hd _ _ => exact released_of_plain hd
  | lockWaited _ _ _ _ _ _ hd _ _ _ => exact released_of_lockWait hd
  | notified _ _ _ hd _ => rcases hd with ⟨hd, -⟩ | ⟨hd, -⟩ <;> exact hother hd rfl
  | actorCreate _ hd => exact hother hd rfl
  | commWaitFor _ _ hd _ => exact hother hd rfl
  | commCancel _ _ hd _ => exact hother hd rfl
  | commTest _ _ hd _ => exact hother hd rfl
  | commWaitAnyFor _ _ hd _ => exact hother hd rfl
  | mailboxPut _ hd => exact hother hd rfl
  | mailboxPutAsync _ hd => exact hother hd rfl
  | mailboxGet _ hd => exact hother hd rfl
  | mailboxGetAsync _ hd => exact hother hd rfl
  | mutexCreate _ hd => exact hother hd rfl
  | mutexLock _ _ hd _ => exact hother hd rfl
  | mutexUnlock _ _ hd _ => exact hother hd rfl
  | mutexTryLock _ _ hd _ => exact hother hd rfl
  | conditionVariableCreate _ hd => exact hother hd rfl
  | _ => cases houtcome

/-- A handler looks up what its client named. -/
theorem lookedUp (h : Suspends d call frame) {x : LookedUp} (hx : x ∈ frame.lookedUp) :
    x.handle ∈ d.type.handles := by
  have hserves := h.serves
  obtain ⟨m, segment, -, hswitched, houtcome⟩ := h
  cases hswitched with
  | commWaitFor wait comm hd _ =>
      cases houtcome
      rw [List.mem_singleton.mp hx, hd]
      exact List.mem_singleton_self _
  | commTest c comm hd _ =>
      cases houtcome
      rw [List.mem_singleton.mp hx, hd]
      exact List.mem_singleton_self _
  | commWaitAnyFor wait comms hd _ =>
      cases houtcome
      obtain ⟨wait', hd', haddresses, -⟩ := hserves
      obtain ⟨comm, hcomm, rfl⟩ := List.mem_map.mp hx
      rw [hd']
      have hmem : comm.address ∈ wait'.comms.map (·.address) := by
        rw [haddresses]
        exact List.mem_map_of_mem hcomm
      obtain ⟨c, hc, haddress⟩ := List.mem_map.mp hmem
      exact List.mem_map.mpr ⟨c, hc, congrArg Handle.comm haddress⟩
  | mutexLock y mutex hd _ =>
      cases houtcome
      rw [List.mem_singleton.mp hx, hd]
      exact List.mem_singleton_self _
  | lockWaited c y cv mutex call' frame' hd _ _ hframe =>
      cases houtcome
      have hhandles : d.type.handles = [.conditionVariable c, .mutex y] := by
        generalize d.type = type at hd
        cases type <;> cases hd <;> rfl
      have hlooked : x = ⟨.conditionVariable c, cv.node, none⟩ ∨
          x = ⟨.mutex y, mutex.node, some mutex.lock⟩ := by
        rcases hframe with ⟨rfl, -⟩ | ⟨rfl, -⟩ | ⟨rfl, -⟩ <;>
          simpa [Frame.lookedUp] using hx
      rw [hhandles]
      rcases hlooked with rfl | rfl
      · exact List.mem_cons_self
      · exact List.mem_cons_of_mem _ (List.mem_singleton_self _)
  | plainCalled call' frame' _ _ hframe =>
      cases houtcome
      rcases hframe with rfl | rfl <;> cases hx
  | actorCreate => cases houtcome; cases hx
  | commCancel => cases houtcome; cases hx
  | mailboxPut => cases houtcome; cases hx
  | mailboxPutAsync => cases houtcome; cases hx
  | mailboxGet => cases houtcome; cases hx
  | mailboxGetAsync => cases houtcome; cases hx
  | mutexCreate => cases houtcome; cases hx
  | mutexUnlock => cases houtcome; cases hx
  | mutexTryLock => cases houtcome; cases hx
  | conditionVariableCreate => cases houtcome; cases hx
  | notified => cases houtcome; cases hx
  | _ => cases houtcome

theorem ofLoop (h : Suspends d call frame) : frame.ofLoop = false := by
  obtain ⟨m, segment, -, hswitched, houtcome⟩ := h
  cases hswitched with
  | plainCalled _ _ _ _ hframe =>
      cases houtcome
      rcases hframe with rfl | rfl <;> rfl
  | lockWaited _ _ _ _ _ _ _ _ _ hframe =>
      cases houtcome
      rcases hframe with ⟨rfl, -⟩ | ⟨rfl, -⟩ | ⟨rfl, -⟩ <;> rfl
  | _ => cases houtcome <;> rfl

end Suspends

section

variable {K : S4u} {s t : Simulation K} {event : SimEvent K} {out : List SimOutput}

/-- An actor that a step suspends waits in the request-reply loop, or in the handler of a decision. -/
theorem Ran.suspends {p : Pid} {socket : Socket} {segment : Segment} (howned : Owned s.memory)
    (h : Ran s event p socket segment) {call : S4uCall} {frame : Frame}
    (houtcome : segment.outcome = .call call frame) :
    frame.ofLoop = true ∨ ∃ d, Suspends d call frame := by
  have hdispatch : ∀ d, (dispatch K s.kernel p d s.memory).outcome = .call call frame →
      Suspends d call frame := by
    intro d heq
    obtain ⟨segment, hswitched, hsegment⟩ := dispatch_eq K s.kernel p d s.memory
    rw [hsegment] at heq
    exact ⟨s.memory, segment, howned, hswitched, heq⟩
  cases h with
  | firstYield =>
      cases houtcome
      exact Or.inl rfl
  | thinking =>
      cases houtcome
      exact Or.inl rfl
  | decided _ _ d => exact Or.inr ⟨d, hdispatch d houtcome⟩
  | resumed _ actor ret frame' _ _ _ _ hresumed =>
      cases hresumed with
      | dispatched d => exact Or.inr ⟨d, hdispatch d houtcome⟩
      | _ => cases houtcome
  | _ => cases houtcome

/-- Every actor that waits for a call waits in the loop or in a handler. -/
def AllSuspended (s : Simulation K) : Prop :=
  ∀ p actor call frame, s.actors.find p = some actor → actor.point = .calling call frame →
    frame.ofLoop = true ∨ ∃ d, Suspends d call frame

theorem AllSuspended.spawn (connections : List ActorConnection) :
    AllSuspended (Simulation.spawn K connections) := by
  intro p actor call frame hfind hpoint
  rw [find_spawn hfind] at hpoint
  cases hpoint

theorem AllSuspended.step (h : AllSuspended s) (howned : Owned s.memory)
    (hstep : SimStep s event t out) : AllSuspended t := by
  intro q actor call frame hq hpoint
  have hcalling : t.point q = some (.calling call frame) := by
    rw [Simulation.point, hq, Option.map_some, hpoint]
  refine hstep.keepsPoints (P := fun _ point => ∀ call frame, point = .calling call frame →
    frame.ofLoop = true ∨ ∃ d, Suspends d call frame) ?_ ?_ ?_ ?_ hcalling call frame rfl
  · rintro q point hs call frame rfl
    obtain ⟨before, hbefore, hat⟩ := Option.map_eq_some_iff.mp hs
    exact h q before call frame hbefore hat
  · rintro q point hrest call frame rfl
    cases hrest
  · intro q socket segment hran call frame hcall
    exact hran.suspends howned (outcome_of_calling hcall)
  · intro q call frame ret _ _ call' frame' hreturned
    cases hreturned

end

end RemoteSimgrid
