import RemoteSimgrid.ClientCommsRuns

/-! The functions of `librsg` that are not about messages. Each sends one decision and returns what is in
the acknowledgment: what a query of SimGrid says at that moment, or what the one S4U call returns that the
server makes for it. -/

namespace RemoteSimgrid

open Machine Pb

/-- A call of one of these functions. `Actor::create` and `Actor::fork` are here until they know the id
of the new actor. -/
inductive LibraryCall where
  | actorCreate (name host : String)
  | actorJoin (id : Int) (timeout : ℚ)
  | actorGetHost (id : Int)
  | actorGetName (id : Int)
  | thisActorExecute (flop : ℚ)
  | thisActorSleepFor (duration : ℚ)
  | thisActorSleepUntil (timeout : ℚ)
  | thisActorYield
  | engineGetClock
  | hostByName (name : String)
  | hostByNameOrNull (name : String)
  | hostCurrent
  | mailboxEmpty (name : String)
  | mailboxListen (name : String)
  | mailboxReady (name : String)
  | mutexCreate
  | mutexDestructor (mutex : Address)
  | mutexLock (mutex : Address)
  | mutexUnlock (mutex : Address)
  | mutexTryLock (mutex : Address)
  | conditionVariableCreate
  | conditionVariableDestructor (cv : Address)
  | conditionVariableWait (cv mutex : Address)
  | conditionVariableWaitUntil (cv mutex : Address) (timeoutTime : ℚ)
  | conditionVariableWaitFor (cv mutex : Address) (duration : ℚ)
  | conditionVariableNotifyOne (cv : Address)
  | conditionVariableNotifyAll (cv : Address)
  deriving DecidableEq

/-- What such a function returns. A `HostPtr` is a name or null, the pointer to another object is its
remote address. -/
inductive LibraryResult where
  | done
  | actor (id : Int)
  | host (name : Option String)
  | name (name : String)
  | clock (value : ℚ)
  | bool (value : Bool)
  | mutex (remoteAddress : Address)
  | conditionVariable (remoteAddress : Option Address)
  | cvStatus (status : ConditionVariableStatus)
  deriving DecidableEq

namespace LibraryCall

/-- The decision that a function sends. -/
def type : LibraryCall → DecisionType
  | .actorCreate name host => .actorCreate { name := name, host := { name := host } }
  | .actorJoin id timeout => .actorJoin { actor := { id := id }, timeout := timeout }
  | .actorGetHost id => .actorGetHost { id := id }
  | .actorGetName id => .actorGetName { id := id }
  | .thisActorExecute flop => .thisActorExecute flop
  | .thisActorSleepFor duration => .thisActorSleepFor duration
  | .thisActorSleepUntil timeout => .thisActorSleepUntil timeout
  | .thisActorYield => .thisActorYield true
  | .engineGetClock => .engineGetClock true
  | .hostByName name | .hostByNameOrNull name => .hostByNameOrNull name
  | .hostCurrent => .hostCurrent true
  | .mailboxEmpty name => .mailboxEmpty { name := name }
  | .mailboxListen name => .mailboxListen { name := name }
  | .mailboxReady name => .mailboxReady { name := name }
  | .mutexCreate => .mutexCreate true
  | .mutexDestructor mutex => .mutexRefcountDecrease { address := mutex }
  | .mutexLock mutex => .mutexLock { address := mutex }
  | .mutexUnlock mutex => .mutexUnlock { address := mutex }
  | .mutexTryLock mutex => .mutexTryLock { address := mutex }
  | .conditionVariableCreate => .conditionVariableCreate true
  | .conditionVariableDestructor cv => .conditionVariableRefcountDecrease { address := cv }
  | .conditionVariableWait cv mutex =>
      .conditionVariableWait { conditionVariable := { address := cv }, mutex := { address := mutex } }
  | .conditionVariableWaitUntil cv mutex timeoutTime =>
      .conditionVariableWaitUntil
        { conditionVariable := { address := cv }, mutex := { address := mutex }
          timeoutTime := timeoutTime }
  | .conditionVariableWaitFor cv mutex duration =>
      .conditionVariableWaitFor
        { conditionVariable := { address := cv }, mutex := { address := mutex }, duration := duration }
  | .conditionVariableNotifyOne cv => .conditionVariableNotifyOne { address := cv }
  | .conditionVariableNotifyAll cv => .conditionVariableNotifyAll { address := cv }

/-- What a function does when its decision is acknowledged. The destructors and the functions of
`this_actor` do not look at the acknowledgment. -/
def finish (f : LibraryCall) (ack : DecisionAck) : Except Error LibraryResult :=
  match f with
  | .actorCreate _ _ =>
      rsgEnforce (ack.success = true) "Could not create a new Actor" <| .ok (.actor ack.actorCreate.id)
  | .actorJoin id _ =>
      rsgEnforce (ack.success = true) s!"Actor(id={id}) does not exist in the simulation" <| .ok .done
  | .actorGetHost id =>
      rsgEnforce (ack.success = true) s!"Actor(id={id}) does not exist in the simulation" <|
      .ok (.host (some ack.actorGetHost.name))
  | .actorGetName id =>
      rsgEnforce (ack.success = true) s!"Actor(id={id}) does not exist in the simulation" <|
      .ok (.name ack.actorGetName)
  | .thisActorExecute _ | .thisActorSleepFor _ | .thisActorSleepUntil _ | .thisActorYield => .ok .done
  | .engineGetClock =>
      rsgEnforce (ack.success = true) "Could not get clock" <| .ok (.clock ack.engineGetClock)
  | .hostByName name =>
      rsgEnforce (ack.success = true) s!"There is no host named '{name}'" <| .ok (.host (some name))
  | .hostByNameOrNull name => .ok (.host (if ack.success then some name else none))
  | .hostCurrent =>
      rsgEnforce (ack.success = true) "Could not Host::current()" <|
      .ok (.host (some ack.hostCurrent.name))
  | .mailboxEmpty _ | .mailboxListen _ | .mailboxReady _ => .ok (.bool ack.success)
  | .mutexCreate =>
      rsgEnforce (ack.success = true) "Could not Mutex::create()" <| .ok (.mutex ack.mutexCreate.address)
  | .mutexLock mutex =>
      rsgEnforce (ack.success = true) s!"Could not Mutex::lock(addr={mutex})" <| .ok .done
  | .mutexUnlock mutex =>
      rsgEnforce (ack.success = true) s!"Could not Mutex::unlock(addr={mutex})" <| .ok .done
  | .mutexTryLock mutex =>
      rsgEnforce (ack.success = true) s!"Could not Mutex::try_lock(addr={mutex})" <|
      .ok (.bool ack.mutexTryLock)
  | .mutexDestructor _ | .conditionVariableDestructor _ => .ok .done
  | .conditionVariableCreate =>
      .ok (.conditionVariable (if ack.success then some ack.conditionVariableCreate.address else none))
  | .conditionVariableWait _ _ =>
      rsgEnforce (ack.success = true) "Could not wait on ConditionVariable" <| .ok .done
  | .conditionVariableWaitUntil _ _ _ =>
      rsgEnforce (ack.success = true) "Could not wait_until on ConditionVariable" <|
      .ok (.cvStatus (if ack.conditionVariableWaitUntil = .noTimeout then .noTimeout else .timeout))
  | .conditionVariableWaitFor _ _ _ =>
      rsgEnforce (ack.success = true) "Could not wait_for on ConditionVariable" <|
      .ok (.cvStatus (if ack.conditionVariableWaitFor = .noTimeout then .noTimeout else .timeout))
  -- both texts speak of notify_one
  | .conditionVariableNotifyOne _ | .conditionVariableNotifyAll _ =>
      rsgEnforce (ack.success = true) "Could not notify_one on ConditionVariable" <| .ok .done

/-- None of these functions is about messages. -/
theorem ofMessages_type (f : LibraryCall) : f.type.ofMessages = false := by
  cases f <;> rfl

/-- The call of the clients that stands for a function. -/
def call (f : LibraryCall) : CommCall := .other f.type f.ofMessages_type

/-! ### What S4U says -/

section

variable (K : S4u) (k : K.State) (self : Pid)

/-- What a function that makes no S4U call returns, by the queries of SimGrid. -/
def query : LibraryCall → Option (Except Error LibraryResult)
  | .actorGetHost id =>
      match K.actorByPid k id with
      | some (_, host) => some (.ok (.host (some host)))
      | none => some (.error ⟨s!"Actor(id={id}) does not exist in the simulation"⟩)
  | .actorGetName id =>
      match K.actorByPid k id with
      | some (name, _) => some (.ok (.name name))
      | none => some (.error ⟨s!"Actor(id={id}) does not exist in the simulation"⟩)
  -- only the pid of an actor is joined
  | .actorJoin id _ =>
      match K.actorByPid k id with
      | some _ => none
      | none => some (.error ⟨s!"Actor(id={id}) does not exist in the simulation"⟩)
  | .engineGetClock => some (.ok (.clock (K.getClock k)))
  | .hostByName name =>
      if K.hostByName k name then some (.ok (.host (some name)))
      else some (.error ⟨s!"There is no host named '{name}'"⟩)
  | .hostByNameOrNull name => some (.ok (.host (if K.hostByName k name then some name else none)))
  | .hostCurrent => some (.ok (.host (some (K.currentHost k self))))
  | .mailboxEmpty name => some (.ok (.bool (K.mailboxEmpty k name)))
  | .mailboxListen name => some (.ok (.bool (K.mailboxListen k name)))
  | .mailboxReady name => some (.ok (.bool (K.mailboxReady k name)))
  | .mutexDestructor _ | .conditionVariableDestructor _ => some (.ok .done)
  | _ => none

end

/-- The S4U call of a function. A wait on a condition variable is given the `unique_lock` that is stored with
the mutex of the function. -/
inductive Makes (m : Memory) : LibraryCall → S4uCall → Prop
  | actorCreate (name host : String) (connectAck : Queue) :
      Makes m (.actorCreate name host) (.actorCreate (cStr name) host connectAck)
  | actorJoin (id : Int) (timeout : ℚ) : Makes m (.actorJoin id timeout) (.actorJoin id timeout)
  | execute (flop : ℚ) : Makes m (.thisActorExecute flop) (.execute flop)
  | sleepFor (duration : ℚ) : Makes m (.thisActorSleepFor duration) (.sleepFor duration)
  | sleepUntil (timeout : ℚ) : Makes m (.thisActorSleepUntil timeout) (.sleepUntil timeout)
  | yield : Makes m .thisActorYield .yield
  | mutexCreate : Makes m .mutexCreate .mutexCreate
  | mutexLock (mutex : Address) : Makes m (.mutexLock mutex) (.mutexLock mutex)
  | mutexUnlock (mutex : Address) : Makes m (.mutexUnlock mutex) (.mutexUnlock mutex)
  | conditionVariableCreate : Makes m .conditionVariableCreate .conditionVariableCreate
  | wait (cv mutex : Address) (stored : StoredMutex) : m.store.mutexes.find mutex = some stored →
      Makes m (.conditionVariableWait cv mutex) (.conditionVariableWait cv stored.lock)
  | waitUntil (cv mutex : Address) (stored : StoredMutex) (timeoutTime : ℚ) :
      m.store.mutexes.find mutex = some stored →
      Makes m (.conditionVariableWaitUntil cv mutex timeoutTime)
        (.conditionVariableWaitUntil cv stored.lock timeoutTime)
  | waitFor (cv mutex : Address) (stored : StoredMutex) (duration : ℚ) :
      m.store.mutexes.find mutex = some stored →
      Makes m (.conditionVariableWaitFor cv mutex duration)
        (.conditionVariableWaitFor cv stored.lock duration)
  | notifyOne (cv : Address) : Makes m (.conditionVariableNotifyOne cv) (.conditionVariableNotifyOne cv)
  | notifyAll (cv : Address) : Makes m (.conditionVariableNotifyAll cv) (.conditionVariableNotifyAll cv)

/-- What a function returns for what its S4U call has returned. The functions of `this_actor` hide the
failure of a host. -/
def value : LibraryCall → S4uReturn → Option LibraryResult
  | .actorCreate _ _, .pid child => some (.actor child)
  | .mutexCreate, .address a => some (.mutex a)
  | .conditionVariableCreate, .address a => some (.conditionVariable (some a))
  | .conditionVariableWaitUntil _ _ _, .cvStatus status
  | .conditionVariableWaitFor _ _ _, .cvStatus status => some (.cvStatus status)
  | .thisActorExecute _, .hostFailureException | .thisActorSleepFor _, .hostFailureException
  | .thisActorSleepUntil _, .hostFailureException => some .done
  | .thisActorExecute _, .done | .thisActorSleepFor _, .done | .thisActorSleepUntil _, .done
  | .thisActorYield, .done | .actorJoin _ _, .done | .mutexLock _, .done | .mutexUnlock _, .done
  | .conditionVariableWait _ _, .done | .conditionVariableNotifyOne _, .done
  | .conditionVariableNotifyAll _, .done => some .done
  | _, _ => none

end LibraryCall

/-! ### What a handler answers -/

/-- The acknowledgment that follows a call in a handler, where the call is neither about a comm nor
creates an actor. -/
inductive Frame.Reports : Frame → S4uReturn → DecisionAck → Prop
  | plain (frame : Frame) : frame.plain → Reports frame .done { success := true }
  | hostFailure : Reports .catchHostFailure .hostFailureException { success := false }
  | mutexCreate (a : Address) :
      Reports .mutexCreate (.address a) { success := true, data := .mutexCreate { address := a } }
  | conditionVariableCreate (a : Address) :
      Reports .conditionVariableCreate (.address a)
        { success := true, data := .conditionVariableCreate { address := a } }
  | waitUntil (cv mutex : Iterator) (lock : Ptr) (status : ConditionVariableStatus) :
      Reports (.conditionVariableWaitUntil cv mutex lock) (.cvStatus status)
        { success := true, data := .conditionVariableWaitUntil status }
  | waitFor (cv mutex : Iterator) (lock : Ptr) (status : ConditionVariableStatus) :
      Reports (.conditionVariableWaitFor cv mutex lock) (.cvStatus status)
        { success := true, data := .conditionVariableWaitFor status }

/-- The frames of the functions that are not about messages. -/
def Frame.ofLibrary : Frame → Bool
  | .acknowledge | .catchHostFailure | .actorCreate _ _ | .mutexCreate | .mutexLock _
  | .conditionVariableCreate | .conditionVariableWait _ _ _ | .conditionVariableWaitUntil _ _ _
  | .conditionVariableWaitFor _ _ _ => true
  | _ => false

section

variable {K : S4u} {k : K.State} {p : Pid} {m : Memory} {ret : S4uReturn} {frame : Frame}
  {segment : Segment} {socket : Socket} {ack : DecisionAck} {sendAck : Bool} {call : S4uCall}
  {f : LibraryCall} {thinkTime : ℚ}

theorem Resumed.reports (h : Resumed K k p socket frame ret m segment) (hlibrary : frame.ofLibrary = true)
    (houtcome : segment.outcome = .finished ack sendAck false) : frame.Reports ret ack := by
  have hother : ∀ {other : Frame} {P : Prop}, frame = other → other.ofLibrary = false → P := by
    rintro other P rfl hnot
    rw [hlibrary] at hnot
    cases hnot
  cases h with
  | acknowledged hplain hret =>
      cases houtcome
      exact hret ▸ .plain frame hplain
  | hostFailure hframe hret =>
      cases houtcome
      exact hframe ▸ hret ▸ .hostFailure
  | mutexCreate a hframe hret =>
      cases houtcome
      exact hframe ▸ hret ▸ .mutexCreate a
  | conditionVariableCreate a hframe hret =>
      cases houtcome
      exact hframe ▸ hret ▸ .conditionVariableCreate a
  | conditionVariableStatus cv mutex lock status data hframe hret =>
      cases houtcome
      rcases hframe with ⟨rfl, rfl⟩ | ⟨rfl, rfl⟩
      · exact hret ▸ .waitUntil cv mutex lock status
      · exact hret ▸ .waitFor cv mutex lock status
  | dispatched d hframe => exact hother hframe rfl
  | commWaited _ _ _ _ hframe => exact hother hframe rfl
  | commTimedOut _ hframe => exact hother hframe rfl
  | commCanceled _ hframe => exact hother hframe rfl
  | commTested _ _ _ _ hframe => exact hother hframe rfl
  | commPending _ hframe => exact hother hframe rfl
  | commWaitedAny _ _ _ _ _ _ _ hframe => exact hother hframe rfl
  | commNoneFinished _ _ _ hframe => exact hother hframe rfl
  | mailboxPutAsync _ hframe => exact hother hframe rfl
  | mailboxGetAsync _ _ hframe => exact hother hframe rfl
  | mailboxGet _ _ hframe => exact hother hframe rfl
  | mutexTryLock _ hframe => exact hother hframe rfl
  | _ => cases houtcome

/-! Calls on stored objects: refused, or about the object at the address. -/

theorem onMutex_finished {a : Address} {s4u : StoredMutex → S4uCall} {frames : Iterator → Frame}
    (h : (onMutex a m s4u frames).outcome = .finished ack sendAck false) :
    ack = { success := false } ∧ m.entry (.mutex a) = none := by
  unfold onMutex at h
  split at h
  · rename_i hnone
    cases h
    exact ⟨rfl, entry_mutex_eq_none hnone⟩
  · cases h

theorem onConditionVariable_finished {a : Address} {s4u : StoredConditionVariable → S4uCall}
    (h : (onConditionVariable a m s4u).outcome = .finished ack sendAck false) :
    ack = { success := false } ∧ m.entry (.conditionVariable a) = none := by
  unfold onConditionVariable at h
  split at h
  · rename_i hnone
    cases h
    exact ⟨rfl, entry_conditionVariable_eq_none hnone⟩
  · cases h

theorem onLock_finished {cv mutex : Address} {s4u : Address → Ptr → S4uCall}
    {frames : Iterator → Iterator → Ptr → Frame}
    (h : (onLock cv mutex m s4u frames).outcome = .finished ack sendAck false) :
    ack = { success := false } ∧
      ∃ handle ∈ [Handle.conditionVariable cv, .mutex mutex], m.entry handle = none := by
  unfold onLock at h
  split at h
  · cases h
  · rename_i hnot
    cases h
    refine ⟨rfl, ?_⟩
    cases hcv : m.store.conditionVariables.find cv with
    | none => exact ⟨_, List.mem_cons_self, entry_conditionVariable_eq_none hcv⟩
    | some cv' =>
        cases hmutex : m.store.mutexes.find mutex with
        | none => exact ⟨_, List.mem_cons_of_mem _ (List.mem_singleton_self _), entry_mutex_eq_none hmutex⟩
        | some mutex' => exact absurd hmutex (hnot cv' mutex' hcv)

theorem onMutex_calls (howned : Owned m) {a : Address} {s4u : StoredMutex → S4uCall}
    {frames : Iterator → Frame} (h : (onMutex a m s4u frames).outcome = .call call frame) :
    ∃ mutex node, mutex.mutex = a ∧ call = s4u mutex ∧ frame = frames ⟨a, node⟩ := by
  unfold onMutex at h
  split at h
  · cases h
  · rename_i mutex hfind
    cases h
    have hentry := howned.entry (.mutex a) mutex.entry (by rw [Memory.entry, hfind, Option.map_some])
    exact ⟨mutex, mutex.node, hentry.1, rfl, rfl⟩

theorem onConditionVariable_calls (howned : Owned m) {a : Address}
    {s4u : StoredConditionVariable → S4uCall}
    (h : (onConditionVariable a m s4u).outcome = .call call frame) :
    ∃ cv, cv.conditionVariable = a ∧ call = s4u cv ∧ frame = .acknowledge := by
  unfold onConditionVariable at h
  split at h
  · cases h
  · rename_i cv hfind
    cases h
    have hentry := howned.entry (.conditionVariable a) cv.entry
      (by rw [Memory.entry, hfind, Option.map_some])
    exact ⟨cv, hentry.1, rfl, rfl⟩

theorem onLock_calls (howned : Owned m) {cv mutex : Address} {s4u : Address → Ptr → S4uCall}
    {frames : Iterator → Iterator → Ptr → Frame}
    (h : (onLock cv mutex m s4u frames).outcome = .call call frame) :
    ∃ cv' mutex' stored, m.store.mutexes.find mutex = some stored ∧ call = s4u cv stored.lock ∧
      frame = frames cv' mutex' stored.lock := by
  unfold onLock at h
  split at h
  · rename_i stored mutex' hfind hmutex
    cases h
    have hentry := howned.entry (.conditionVariable cv) stored.entry
      (by rw [Memory.entry, hfind, Option.map_some])
    exact ⟨_, _, mutex', hmutex, by rw [show stored.conditionVariable = cv from hentry.1], rfl⟩
  · cases h

theorem actorCreate_outcome (d : Decision) :
    (actorCreate K k d m).outcome = .escaped ∨ ∃ canConnectAck connectAck,
      (actorCreate K k d m).outcome =
        .call (.actorCreate (cStr d.actorCreate.name) d.actorCreate.host.name connectAck)
          (.actorCreate canConnectAck connectAck) := by
  unfold actorCreate
  split
  · exact Or.inr ⟨_, _, rfl⟩
  · exact Or.inl rfl

namespace LibraryCall

/-- A function that is acknowledged without an S4U call has made a query, or is refused. -/
theorem answered_at_once (howned : Owned m)
    (h : (switchDecision K k p { thinkTime := thinkTime, type := f.type } m).outcome =
      .finished ack sendAck false) :
    f.query K k p = some (f.finish ack) ∨
      ack = { success := false } ∧
        ((∃ handle ∈ f.type.handles, m.entry handle = none) ∨ ∃ mutex, f = .mutexTryLock mutex) := by
  have hone : ∀ {handle : Handle}, f.type.handles = [handle] →
      ack = { success := false } ∧ m.entry handle = none →
      ack = { success := false } ∧
        ((∃ handle ∈ f.type.handles, m.entry handle = none) ∨ ∃ mutex, f = .mutexTryLock mutex) := by
    rintro handle hhandles ⟨hack, hnone⟩
    exact ⟨hack, Or.inl ⟨handle, hhandles ▸ List.mem_singleton_self _, hnone⟩⟩
  cases f with
  | actorCreate name host =>
      rcases actorCreate_outcome _ with houtcome | ⟨_, _, houtcome⟩ <;> cases houtcome.symm.trans h
  | thisActorExecute | thisActorSleepFor | thisActorSleepUntil | thisActorYield => cases h
  | mutexCreate | conditionVariableCreate => cases h
  | actorJoin id timeout =>
      simp only [switchDecision, Decision.typeCase, type, Decision.actorJoin] at h
      split at h
      · cases h
      · rename_i hnone
        cases h
        exact Or.inl (by simp [query, hnone, finish, rsgEnforce])
  | actorGetHost id =>
      simp only [switchDecision, Decision.typeCase, type, Decision.actorGetHost] at h
      split at h <;> rename_i hfound <;> cases h <;>
        exact Or.inl (by simp [query, hfound, finish, rsgEnforce, DecisionAck.actorGetHost])
  | actorGetName id =>
      simp only [switchDecision, Decision.typeCase, type, Decision.actorGetName] at h
      split at h <;> rename_i hfound <;> cases h <;>
        exact Or.inl (by simp [query, hfound, finish, rsgEnforce, DecisionAck.actorGetName])
  | engineGetClock | hostByNameOrNull | hostCurrent | mailboxEmpty | mailboxListen | mailboxReady =>
      cases h
      exact Or.inl rfl
  | hostByName name =>
      cases h
      refine Or.inl ?_
      simp only [query, finish, type, Decision.hostByNameOrNull, rsgEnforce]
      split <;> simp [*]
  | mutexDestructor | conditionVariableDestructor => exact Or.inl rfl
  | mutexLock | mutexUnlock => exact Or.inr (hone rfl (onMutex_finished h))
  | mutexTryLock mutex =>
      have hrefused : (switchDecision K k p { thinkTime := thinkTime, type := .mutexTryLock ⟨mutex⟩ } m).outcome =
          .finished { success := false } true false :=
        tryLock_refused howned (d := { thinkTime := thinkTime, type := .mutexTryLock ⟨mutex⟩ }) rfl k p
      cases hrefused.symm.trans h
      exact Or.inr ⟨rfl, Or.inr ⟨mutex, rfl⟩⟩
  | conditionVariableWait | conditionVariableWaitUntil | conditionVariableWaitFor =>
      obtain ⟨hack, hunknown⟩ := onLock_finished h
      exact Or.inr ⟨hack, Or.inl hunknown⟩
  | conditionVariableNotifyOne | conditionVariableNotifyAll =>
      exact Or.inr (hone rfl (onConditionVariable_finished h))

/-- The S4U call of a handler is that of the function, and the function returns its value. -/
theorem makes (howned : Owned m)
    (h : (switchDecision K k p { thinkTime := thinkTime, type := f.type } m).outcome = .call call frame) :
    f.Makes m call ∧ frame.ofLibrary = true ∧
      ∀ ret ack, frame.Reports ret ack → ∃ result, f.value ret = some result ∧ f.finish ack = .ok result := by
  have hdone : ∀ {frame : Frame}, frame = .acknowledge ∨ (∃ it, frame = .mutexLock it) ∨
      (∃ cv mutex lock, frame = .conditionVariableWait cv mutex lock) →
      f.value .done = some .done → f.finish { success := true } = .ok .done →
      ∀ ret ack, frame.Reports ret ack → ∃ result, f.value ret = some result ∧ f.finish ack = .ok result := by
    rintro frame (rfl | ⟨it, rfl⟩ | ⟨cv, mutex, lock, rfl⟩) hvalue hfinish ret ack hreports <;>
      cases hreports <;> exact ⟨.done, hvalue, hfinish⟩
  have hcatch : f.value .done = some .done → f.value .hostFailureException = some .done →
      (∀ ack, f.finish ack = .ok .done) → ∀ ret ack, Frame.Reports .catchHostFailure ret ack →
      ∃ result, f.value ret = some result ∧ f.finish ack = .ok result := by
    intro hvalue hfailure hfinish ret ack hreports
    cases hreports with
    | plain => exact ⟨.done, hvalue, hfinish _⟩
    | hostFailure => exact ⟨.done, hfailure, hfinish _⟩
  cases f with
  | actorCreate name host =>
      rcases actorCreate_outcome _ with houtcome | ⟨_, _, houtcome⟩ <;> cases houtcome.symm.trans h
      refine ⟨.actorCreate name host _, rfl, fun ret ack hreports => ?_⟩
      cases hreports with
      | plain _ hplain => cases hplain
  | thisActorExecute flop =>
      cases h
      exact ⟨.execute flop, rfl, hcatch rfl rfl fun _ => rfl⟩
  | thisActorSleepFor duration =>
      cases h
      exact ⟨.sleepFor duration, rfl, hcatch rfl rfl fun _ => rfl⟩
  | thisActorSleepUntil timeout =>
      cases h
      exact ⟨.sleepUntil timeout, rfl, hcatch rfl rfl fun _ => rfl⟩
  | thisActorYield =>
      cases h
      exact ⟨.yield, rfl, hdone (Or.inl rfl) rfl rfl⟩
  | actorJoin id timeout =>
      simp only [switchDecision, Decision.typeCase, type, Decision.actorJoin] at h
      split at h <;> cases h
      exact ⟨.actorJoin id timeout, rfl, hdone (Or.inl rfl) rfl rfl⟩
  | actorGetHost id =>
      simp only [switchDecision, Decision.typeCase, type, Decision.actorGetHost] at h
      split at h <;> cases h
  | actorGetName id =>
      simp only [switchDecision, Decision.typeCase, type, Decision.actorGetName] at h
      split at h <;> cases h
  | engineGetClock | hostByName | hostByNameOrNull | hostCurrent => cases h
  | mailboxEmpty | mailboxListen | mailboxReady => cases h
  | mutexCreate =>
      cases h
      refine ⟨.mutexCreate, rfl, fun ret ack hreports => ?_⟩
      cases hreports with
      | plain _ hplain => cases hplain
      | mutexCreate a => exact ⟨_, rfl, rfl⟩
  | conditionVariableCreate =>
      cases h
      refine ⟨.conditionVariableCreate, rfl, fun ret ack hreports => ?_⟩
      cases hreports with
      | plain _ hplain => cases hplain
      | conditionVariableCreate a => exact ⟨_, rfl, rfl⟩
  | mutexDestructor mutex =>
      simp only [switchDecision, Decision.typeCase, type, mutexRefcountDecrease] at h
      split at h
      · cases h
      · split at h <;> cases h
  | conditionVariableDestructor cv =>
      simp only [switchDecision, Decision.typeCase, type, conditionVariableRefcountDecrease] at h
      split at h
      · cases h
      · split at h <;> cases h
  | mutexLock mutex =>
      obtain ⟨stored, node, rfl, rfl, rfl⟩ := onMutex_calls howned h
      exact ⟨.mutexLock _, rfl, hdone (Or.inr (Or.inl ⟨_, rfl⟩)) rfl rfl⟩
  | mutexUnlock mutex =>
      obtain ⟨stored, node, rfl, rfl, rfl⟩ := onMutex_calls howned h
      exact ⟨.mutexUnlock _, rfl, hdone (Or.inl rfl) rfl rfl⟩
  | mutexTryLock mutex =>
      have hrefused : (switchDecision K k p { thinkTime := thinkTime, type := .mutexTryLock ⟨mutex⟩ } m).outcome =
          .finished { success := false } true false :=
        tryLock_refused howned (d := { thinkTime := thinkTime, type := .mutexTryLock ⟨mutex⟩ }) rfl k p
      cases hrefused.symm.trans h
  | conditionVariableWait cv mutex =>
      obtain ⟨_, _, stored, hfind, rfl, rfl⟩ := onLock_calls howned h
      exact ⟨.wait cv mutex stored hfind, rfl, hdone (Or.inr (Or.inr ⟨_, _, _, rfl⟩)) rfl rfl⟩
  | conditionVariableWaitUntil cv mutex timeoutTime =>
      obtain ⟨_, _, stored, hfind, rfl, rfl⟩ := onLock_calls howned h
      refine ⟨.waitUntil cv mutex stored timeoutTime hfind, rfl, fun ret ack hreports => ?_⟩
      cases hreports with
      | plain _ hplain => cases hplain
      | waitUntil _ _ _ status => exact ⟨.cvStatus status, rfl, by cases status <;> rfl⟩
  | conditionVariableWaitFor cv mutex duration =>
      obtain ⟨_, _, stored, hfind, rfl, rfl⟩ := onLock_calls howned h
      refine ⟨.waitFor cv mutex stored duration hfind, rfl, fun ret ack hreports => ?_⟩
      cases hreports with
      | plain _ hplain => cases hplain
      | waitFor _ _ _ status => exact ⟨.cvStatus status, rfl, by cases status <;> rfl⟩
  | conditionVariableNotifyOne cv =>
      obtain ⟨stored, rfl, rfl, rfl⟩ := onConditionVariable_calls howned h
      exact ⟨.notifyOne _, rfl, hdone (Or.inl rfl) rfl rfl⟩
  | conditionVariableNotifyAll cv =>
      obtain ⟨stored, rfl, rfl, rfl⟩ := onConditionVariable_calls howned h
      exact ⟨.notifyAll _, rfl, hdone (Or.inl rfl) rfl rfl⟩

theorem created {canConnectAck connectAck : Queue}
    (h : (switchDecision K k p { thinkTime := thinkTime, type := f.type } m).outcome =
      .call call (.actorCreate canConnectAck connectAck)) : ∃ name host, f = .actorCreate name host := by
  have hreads := (switchDecision_handles h).reads
  cases f with
  | actorCreate name host => exact ⟨name, host, rfl⟩
  | _ => cases hreads

end LibraryCall

end

/-- The S4U calls that have been served for an actor since the server has looked at its last decision. -/
def servedSince (p : Pid) (log : List (S4uCall × S4uReturn)) : List SimOutput → List (S4uCall × S4uReturn)
  | [] => log
  | .dispatched q _ :: out => servedSince p (if q = p then [] else log) out
  | .served q call ret :: out => servedSince p (if q = p then log ++ [(call, ret)] else log) out
  | _ :: out => servedSince p log out

/-- What a function comes to when it returns in state `s`: the answer of a query, a refusal, or what the
one S4U call returned that was served for it, which the server has made with the memory that it had when it
looked at the decision. -/
inductive LibraryCall.Answered {K : S4u} (s : Simulation K) (p : Pid) (looked : Memory → Prop)
    (f : LibraryCall) (served : List (S4uCall × S4uReturn)) : Except Error LibraryResult → Prop
  | queried (result : Except Error LibraryResult) : served = [] → f.query K s.kernel p = some result →
      Answered s p looked f served result
  | unknown (handle : Handle) : served = [] → handle ∈ f.type.handles → s.memory.entry handle = none →
      Answered s p looked f served (f.finish { success := false })
  | tryLock (mutex : Address) : served = [] → f = .mutexTryLock mutex →
      Answered s p looked f served (f.finish { success := false })
  | returned (call : S4uCall) (ret : S4uReturn) (result : LibraryResult) (m : Memory) :
      served = [(call, ret)] → looked m → f.Makes m call → f.value ret = some result → Answered s p looked f served (.ok result)

end RemoteSimgrid
