import RemoteSimgrid.SimulationInvariant

/-! Handlers that are suspended in an S4U call keep iterators and pointers into the store. A release
by another actor while they wait frees what they use after the call: the remote reference count
does not count the processes that share a handle after a fork. -/

namespace RemoteSimgrid

open Machine Pb

/-- Something that a handler looked up before its call: an entry, and its lock if the handler gave
the lock to S4U. -/
structure LookedUp where
  handle : Handle
  node : Nat
  lock : Option Ptr := none
  deriving DecidableEq

def Frame.lookedUp : Frame → List LookedUp
  | .commWaitFor comm => [⟨.comm comm.address, comm.node, none⟩]
  | .commTest comm => [⟨.comm comm.address, comm.node, none⟩]
  | .commWaitAnyFor comms _ => comms.map fun comm => ⟨.comm comm.address, comm.node, none⟩
  | .mutexLock mutex => [⟨.mutex mutex.address, mutex.node, none⟩]
  | .conditionVariableWait cv mutex lock =>
      [⟨.conditionVariable cv.address, cv.node, none⟩, ⟨.mutex mutex.address, mutex.node, some lock⟩]
  | .conditionVariableWaitUntil cv mutex lock =>
      [⟨.conditionVariable cv.address, cv.node, none⟩, ⟨.mutex mutex.address, mutex.node, some lock⟩]
  | .conditionVariableWaitFor cv mutex lock =>
      [⟨.conditionVariable cv.address, cv.node, none⟩, ⟨.mutex mutex.address, mutex.node, some lock⟩]
  | _ => []

def ActorPoint.lookedUp : ActorPoint → List LookedUp
  | .calling _ frame => frame.lookedUp
  | .returned _ frame => frame.lookedUp
  | _ => []

/-- The entry is still there, the store still holds a reference on its object, and the lock is still
allocated, as the lock of that entry. -/
def Memory.Live (m : Memory) (x : LookedUp) : Prop :=
  ∃ e, m.entry x.handle = some e ∧ e.node = x.node ∧ e.object ∈ m.references ∧
    ∀ lock, x.lock = some lock → ∃ a mutex, x.handle = .mutex a ∧
      m.store.mutexes.find a = some mutex ∧ mutex.lock = lock ∧ m.locks.find lock = some mutex.mutex

variable {K : S4u} {s t : Simulation K} {event : SimEvent K} {out : List SimOutput}

/-- Every handler that waits for a call, or whose call has returned, finds what it looked up. -/
def HandlersLive (s : Simulation K) : Prop :=
  ∀ p actor, s.actors.find p = some actor → ∀ x ∈ actor.point.lookedUp, s.memory.Live x

/-- The step does not handle a `RefcountDecrease` that frees an entry which a suspended handler has
looked up. -/
def NoBlockedRelease (s : Simulation K) (event : SimEvent K) : Prop :=
  ∀ p d h e, Dispatches s event p d → d.type.released = some h → s.memory.entry h = some e →
    e.remoteRefCount = 1 → ∀ q actor, s.actors.find q = some actor →
    ∀ x ∈ actor.point.lookedUp, x.handle ≠ h

/-- A check that is enough for it: the step dispatches no release. -/
def checkNoRelease (s : Simulation K) (event : SimEvent K) : Prop :=
  ∀ dispatch ∈ dispatching s event, dispatch.2.type.released = none

instance (s : Simulation K) (event : SimEvent K) : Decidable (checkNoRelease s event) :=
  inferInstanceAs (Decidable (∀ dispatch ∈ dispatching s event, dispatch.2.type.released = none))

theorem noBlockedRelease_of_check (h : checkNoRelease s event) : NoBlockedRelease s event := by
  intro p d handle e hd hreleased
  rw [h (p, d) hd.eq_dispatching] at hreleased
  cases hreleased

/-! ### The invariant -/

/-- The entry is still there; a lock is the one allocated with the entry. -/
structure Memory.Present (m : Memory) (x : LookedUp) : Prop where
  entry : ∃ e, m.entry x.handle = some e ∧ e.node = x.node
  lock : ∀ lock, x.lock = some lock → lock = x.node + 1 ∧ ∃ a, x.handle = .mutex a

theorem Memory.Present.live {m : Memory} {x : LookedUp} (h : m.Present x) (howned : Owned m) :
    m.Live x := by
  obtain ⟨e, he, hnode⟩ := h.entry
  obtain ⟨hobject, -, hmem, -, -⟩ := howned.entry x.handle e he
  refine ⟨e, he, hnode, hobject ▸ hmem, ?_⟩
  intro lock hlock
  obtain ⟨rfl, a, ha⟩ := h.lock lock hlock
  rw [ha] at he
  obtain ⟨mutex, hfind, rfl⟩ := Option.map_eq_some_iff.mp he
  obtain ⟨hnext, -, hlocked⟩ := howned.lock a mutex hfind
  have hobject' : mutex.mutex = a := by
    have hentry := (howned.entry (.mutex a) mutex.entry he).1
    exact hentry
  have hlock' : mutex.lock = x.node + 1 := by
    rw [hnext]
    exact congrArg (· + 1) hnode
  exact ⟨a, mutex, ha, hfind, hlock', by rw [← hlock', hlocked, hobject']⟩

theorem Memory.Present.change {p : Pid} {m : Memory} {x : LookedUp} (h : s.memory.Present x)
    (howned : Owned s.memory) (hunstored : Unstored s) (hchange : Change s event p m)
    (hkept : ∀ d handle e, Dispatches s event p d → d.type.released = some handle →
      s.memory.entry handle = some e → e.remoteRefCount = 1 → x.handle ≠ handle) :
    m.Present x where
  entry := by
    obtain ⟨e, he, hnode⟩ := h.entry
    have hfresh : ∀ handle, handle.address ∉ s.memory.references → x.handle ≠ handle := by
      intro handle hfresh heq
      rw [heq, howned.entry_eq_none handle hfresh] at he
      cases he
    cases hchange with
    | same _ hstore _ _ _ => exact ⟨e, by rw [entry_eq_of_store hstore, he], hnode⟩
    | freed d handle e' hdispatch hreleased he' hone =>
        refine ⟨e, ?_, hnode⟩
        rw [Memory.entry_free, if_neg (hkept d handle e' hdispatch hreleased he' hone), he]
    | decreased d handle e' _ _ he' hne => exact absurd (howned.entry handle e' he').2.2.2.1 hne
    | taken address buffer payload => exact ⟨e, by rw [Memory.entry_takePayload, he], hnode⟩
    | insertedComm address comm frame hcreated hcomm _ _ hnone =>
        obtain ⟨actor, _, _, hfind, hpoint⟩ := hcreated
        subst hcomm
        have hne := hfresh (.comm comm.comm) (hunstored.fresh p actor frame _ hfind hpoint).2
        exact ⟨e, by rw [Memory.entry_insertComm _ comm hnone, if_neg hne, he], hnode⟩
    | insertedMutex address frame hcreated =>
        obtain ⟨actor, _, _, hfind, hpoint⟩ := hcreated
        have hnew := (hunstored.fresh p actor frame _ hfind hpoint).2
        have hnone := Option.map_eq_none_iff.mp (howned.entry_eq_none (.mutex address) hnew)
        refine ⟨e, (Memory.entry_insertMutex _ _ hnone _).trans ?_, hnode⟩
        rw [if_neg (hfresh (.mutex address) hnew), he]
    | insertedConditionVariable address frame hcreated =>
        obtain ⟨actor, _, _, hfind, hpoint⟩ := hcreated
        have hnew := (hunstored.fresh p actor frame _ hfind hpoint).2
        have hnone := Option.map_eq_none_iff.mp (howned.entry_eq_none (.conditionVariable address) hnew)
        refine ⟨e, (Memory.entry_insertConditionVariable _ _ hnone _).trans ?_, hnode⟩
        rw [if_neg (hfresh (.conditionVariable address) hnew), he]
  lock := h.lock

theorem lookupComms_present {m : Memory} {comms : List Comm} {found : List (Iterator × Address)}
    (h : lookupComms m comms = .ok found) :
    ∀ comm ∈ found.map Prod.fst, m.Present ⟨.comm comm.address, comm.node, none⟩ := by
  induction comms generalizing found with
  | nil =>
      cases h
      intro comm hcomm
      cases hcomm
  | cons c comms ih =>
      simp only [lookupComms] at h
      split at h
      · cases h
      · rename_i stored hfind
        split at h
        · cases h
        · rename_i rest hrest
          cases h
          intro comm hcomm
          rcases List.mem_cons.mp hcomm with rfl | hcomm
          · exact ⟨⟨stored.entry, by rw [Memory.entry, hfind, Option.map_some], rfl⟩,
              fun _ h => by cases h⟩
          · exact ih hrest comm hcomm

/-- What a handler has looked up when it makes its call is there. -/
theorem Switched.present {d : Decision} {m : Memory} {segment : Segment} (howned : Owned m)
    (h : Switched d m segment) :
    ∀ x ∈ segment.outcome.point.lookedUp, segment.memory.Present x := by
  intro x hx
  cases h with
  | commWaitFor wait comm _ hfind =>
      rw [List.mem_singleton.mp hx]
      exact ⟨⟨comm.entry, by rw [Segment.call, Memory.entry, hfind, Option.map_some], rfl⟩,
        fun _ h => by cases h⟩
  | commTest c comm _ hfind =>
      rw [List.mem_singleton.mp hx]
      exact ⟨⟨comm.entry, by rw [Segment.call, Memory.entry, hfind, Option.map_some], rfl⟩,
        fun _ h => by cases h⟩
  | commWaitAnyFor wait comms _ hlookup =>
      obtain ⟨comm, hcomm, rfl⟩ := List.mem_map.mp hx
      exact lookupComms_present hlookup comm hcomm
  | mutexLock _ mutex _ hfind =>
      rw [List.mem_singleton.mp hx]
      exact ⟨⟨mutex.entry, by rw [Segment.call, Memory.entry, hfind, Option.map_some], rfl⟩,
        fun _ h => by cases h⟩
  | lockWaited c a cv mutex call frame _ hcv hmutex hframe =>
      have hlooked : x = ⟨.conditionVariable c, cv.node, none⟩ ∨
          x = ⟨.mutex a, mutex.node, some mutex.lock⟩ := by
        rcases hframe with ⟨rfl, -⟩ | ⟨rfl, -⟩ | ⟨rfl, -⟩ <;>
          simpa [Segment.call, Outcome.point, ActorPoint.lookedUp, Frame.lookedUp] using hx
      rcases hlooked with rfl | rfl
      · exact ⟨⟨cv.entry, by rw [Segment.call, Memory.entry, hcv, Option.map_some], rfl⟩,
        fun _ h => by cases h⟩
      · refine ⟨⟨mutex.entry, by rw [Segment.call, Memory.entry, hmutex, Option.map_some], rfl⟩, ?_⟩
        rintro lock hlock
        cases hlock
        exact ⟨(howned.lock a mutex hmutex).1, a, rfl⟩
  | plainCalled call frame _ _ hframe => rcases hframe with rfl | rfl <;> cases hx
  | quit => cases hx
  | plainAnswered => cases hx
  | unset => cases hx
  | unknownHost => cases hx
  | actorCreate => cases hx
  | failed => cases hx
  | freed => cases hx
  | decreased => cases hx
  | commCancel => cases hx
  | unknownComm => cases hx
  | mailboxPut => cases hx
  | mailboxPutAsync => cases hx
  | mailboxGet => cases hx
  | mailboxGetAsync => cases hx
  | mutexCreate => cases hx
  | mutexUnlock => cases hx
  | mutexTryLock => cases hx
  | mutexTryLockFailed => cases hx
  | conditionVariableCreate => cases hx
  | notified => cases hx

theorem dispatch_present {p : Pid} {d : Decision} (howned : Owned s.memory) :
    ∀ x ∈ (dispatch K s.kernel p d s.memory).outcome.point.lookedUp,
      (dispatch K s.kernel p d s.memory).memory.Present x := by
  obtain ⟨segment, hswitched, heq⟩ := dispatch_eq K s.kernel p d s.memory
  have hpresent : ∀ x ∈ segment.outcome.point.lookedUp, segment.memory.Present x :=
    hswitched.present howned
  rw [heq]
  exact hpresent

theorem Ran.present {p : Pid} {socket : Socket} {segment : Segment} (howned : Owned s.memory)
    (h : Ran s event p socket segment) :
    ∀ x ∈ segment.outcome.point.lookedUp, segment.memory.Present x := by
  cases h with
  | decided => exact dispatch_present howned
  | resumed _ actor ret frame _ _ _ _ hresumed =>
      cases hresumed with
      | dispatched => exact dispatch_present howned
      | _ => exact fun x hx => by cases hx
  | _ => exact fun x hx => by cases hx

/-- The ownership invariant, and the entries that the suspended handlers have looked up. -/
structure BlockedInv (s : Simulation K) : Prop where
  store : StoreInv s
  present : ∀ p actor, s.actors.find p = some actor → ∀ x ∈ actor.point.lookedUp, s.memory.Present x

theorem BlockedInv.live (h : BlockedInv s) : HandlersLive s :=
  fun p actor hfind x hx => (h.present p actor hfind x hx).live h.store.owned

theorem BlockedInv.spawn (connections : List ActorConnection) :
    BlockedInv (Simulation.spawn K connections) where
  store := StoreInv.spawn connections
  present p actor hfind x hx := by
    rw [find_spawn hfind] at hx
    cases hx

/-- An actor whose point is not that of a suspended handler has looked up nothing; otherwise it was
suspended before the step or has been suspended by it. -/
theorem BlockedInv.step (h : BlockedInv s) (hfresh : FreshAddress s event)
    (hguard : NoBlockedRelease s event) (hstep : SimStep s event t out) : BlockedInv t where
  store := h.store.step hfresh hstep
  present q actor hq x hx := by
    obtain ⟨howned, hunstored⟩ := h.store
    have hstayed : ∀ {before}, s.actors.find q = some before → x ∈ before.point.lookedUp →
        t.memory.Present x := by
      intro before hbefore hx
      obtain ⟨p, hchange⟩ := hstep.change
      exact (h.present q before hbefore x hx).change howned hunstored hchange
        fun d handle e hd hreleased he hone =>
          hguard p d handle e hd hreleased he hone q before hbefore x hx
    cases hstep.moved hq with
    | stayed hs => exact hstayed hs hx
    | ran before socket segment _ hran ht heq =>
        subst ht heq
        exact hran.present howned x hx
    | served before call frame ret _ hfind hpoint heq =>
        subst heq
        exact hstayed hfind (by rw [hpoint]; exact hx)
    | started before _ _ _ heq => subst heq; cases hx
    | spawned p before name host connectAck frame _ _ _ _ heq => subst heq; cases hx
    | connected before connectAck socket _ _ _ heq => subst heq; cases hx
    | connectFailed before _ heq => subst heq; cases hx

/-- A release that is not allowed leaves a suspended handler without its entry. -/
theorem not_handlersLive (hguard : ¬NoBlockedRelease s event)
    (hstep : simulationStep K s event = some (t, out)) : ¬HandlersLive t := by
  simp only [NoBlockedRelease, not_forall, not_not] at hguard
  obtain ⟨p, d, h, e, hdispatch, hreleased, he, hone, q, actor, hfind, x, hx, rfl⟩ := hguard
  obtain ⟨_, -, heq⟩ := simulationStep_dispatch (simulationStep_cases hstep).1 hdispatch
  rw [hstep, Option.some.injEq] at heq
  have hmemory : t.memory = s.memory.free x.handle := by
    obtain ⟨segment, hswitched, hsegment⟩ := dispatch_eq K s.kernel p d s.memory
    rw [hsegment, hswitched.eq_free hreleased he hone] at heq
    exact congrArg (fun result => result.1.memory) heq
  -- the actor that releases is not suspended, so the other one is where it was
  have hne : q ≠ p := by
    rintro rfl
    cases hdispatch with
    | now _ _ _ _ hfind' _ =>
        rw [hfind, Option.some.injEq] at hfind'
        subst hfind'
        cases hx
    | later _ _ _ _ hfind' hpoint =>
        rw [hfind, Option.some.injEq] at hfind'
        subst hfind'
        rw [hpoint] at hx
        cases hx
  have hstays : t.actors.find q = some actor := by
    have hactors := congrArg (fun result => result.1.actors.find q) heq
    simp only [Simulation.conclude, find_setPoint, if_neg hne] at hactors
    rw [hactors, hfind]
  intro hlive
  obtain ⟨e', he', -⟩ := hlive q actor hstays x hx
  rw [hmemory, Memory.entry_free, if_pos rfl] at he'
  cases he'

/-- In every state of a run the suspended handlers find what they looked up, if and only if no step
of the run handles a `RefcountDecrease` that frees it. -/
theorem handlersLive_iff {connections : List ActorConnection} {events : List (SimEvent K)}
    (hrun : Run (simulationStep K) (Simulation.spawn K connections) events s out)
    (hfresh : Throughout (simulationStep K) FreshAddress (Simulation.spawn K connections) events) :
    Always (simulationStep K) (fun t _ => HandlersLive t) (Simulation.spawn K connections) events ↔
      Throughout (simulationStep K) NoBlockedRelease (Simulation.spawn K connections) events := by
  refine always_iff_throughout (I := fun t _ => BlockedInv t) hrun hfresh
    (BlockedInv.spawn connections) (fun t _ h => h.live) ?_ ?_
  · intro t _ event v out hinv hevent hguard hstep
    exact hinv.step hevent hguard (simulationStep_cases hstep).2
  · intro t _ event v out _ _ hguard hstep
    exact not_handlersLive hguard hstep

/-- A server with one initial actor. -/
def forkServer : Simulation permissiveS4u :=
  Simulation.spawn permissiveS4u [{ actorId := 2, socket := some 10 }]

/-- A process gets a comm and forks. Its child waits on the comm while it releases its own copy of the
handle; then it sends the message the child waits for. -/
def forkEvents : List (SimEvent permissiveS4u) :=
  [.schedule 2, .decision { type := .mailboxGetAsync { name := "mailbox" } },
    .serve 2 (.address 100), .schedule 2,
    .decision { type := .actorCreate { name := "child" } }, .serve 2 (.pid 3),
    .schedule 2, .canConnectAck .actorCreateAck, .decision { type := .thisActorYield true },
    .schedule 3, .serve 3 .done, .schedule 3, .connectAck (.actorConnected 11),
    .decision { type := .commWaitFor { comm := { address := 100 }, timeout := -1 } },
    .serve 2 .done, .schedule 2,
    .decision { type := .commRefcountDecrease { address := 100 } },
    .decision { type := .mailboxPut { mailbox := { name := "mailbox" }, data := [1] } },
    .progress [(1, 5)], .serve 2 .done, .serve 3 .done]

theorem handlersLive_iff_fork :
    Always (simulationStep permissiveS4u) (fun t _ => HandlersLive t) forkServer forkEvents ↔
      Throughout (simulationStep permissiveS4u) NoBlockedRelease forkServer forkEvents := by
  obtain ⟨⟨s, out⟩, hexec⟩ : ∃ result,
      exec (simulationStep permissiveS4u) forkServer forkEvents = some result := ⟨_, rfl⟩
  exact handlersLive_iff (Run.of_exec hexec) (Throughout.of_check rfl)

/-- The wait of the child returns on an entry that its parent has freed; the handler goes on to read
through its iterator. -/
theorem fork_resumes_on_freed_comm :
    ∃ s out t out', Run (simulationStep permissiveS4u) forkServer forkEvents s out ∧
      Throughout (simulationStep permissiveS4u) FreshAddress forkServer forkEvents ∧
      ¬HandlersLive s ∧ simulationStep permissiveS4u s (.schedule 3) = some (t, out') ∧
      t.crashed = true := by
  obtain ⟨s, out, t, out', hexec, hstep, hcrashed, hfind, hentry⟩ : ∃ s out t out',
      exec (simulationStep permissiveS4u) forkServer forkEvents = some (s, out) ∧
      simulationStep permissiveS4u s (.schedule 3) = some (t, out') ∧ t.crashed = true ∧
      s.actors.find 3 = some ⟨11, .returned .done (.commWaitFor ⟨100, 2⟩)⟩ ∧
      s.memory.entry (.comm 100) = none := by
    refine ⟨_, _, _, _, rfl, rfl, ?_⟩
    refine ⟨rfl, rfl, rfl⟩
  refine ⟨s, out, t, out', Run.of_exec hexec, Throughout.of_check rfl, ?_, hstep, hcrashed⟩
  intro hlive
  obtain ⟨e, he, -⟩ := hlive 3 _ hfind ⟨.comm 100, 2, none⟩ (List.mem_singleton_self _)
  rw [hentry] at he
  cases he

end RemoteSimgrid
