import RemoteSimgrid.LibraryMutexTable
import RemoteSimgrid.SimulationInvariant

/-! The handlers of the mutex decisions against a table of plain mutexes. The outputs of the SimGrid
thread are read as a history of the table: a decision that is dispatched asks for what its client put
in it, the calls that SimGrid serves are what is done, and the acknowledgments are what is told. -/

namespace RemoteSimgrid

open Machine Pb MutexTable

/-- What a client asks for with a decision. -/
def Pb.DecisionType.mutexOp : DecisionType → Op Address
  | .mutexCreate _ => .create
  | .mutexRefcountDecrease mutex => .release mutex.address
  | .mutexLock mutex => .lock mutex.address
  | .mutexUnlock mutex => .unlock mutex.address
  | .mutexTryLock mutex => .tryLock mutex.address
  | _ => .foreign

/-- What a client reads in an acknowledgment. -/
def Pb.DecisionAck.mutexReply : DecisionAck → Reply Address
  | { success := true, data := .dataNotSet } => .done
  | { success := false, data := .dataNotSet } => .unknown
  | { success := true, data := .mutexTryLock locked } => .locked locked
  | { success := true, data := .mutexCreate mutex } => .created mutex.address
  | _ => .foreign

/-- What a served call does to the mutexes. A call that fails does nothing, and is not answered. -/
def S4uCall.mutexEvents (p : Pid) : S4uCall → S4uReturn → List (Event Address Pid)
  | .mutexCreate, .address a => [.create p a]
  | .mutexLock a, .done => [.lock p a]
  | .mutexTryLock a, .bool locked => [.tryLock p a locked]
  | .mutexUnlock a, .done => [.unlock p a]
  | .mutexCreate, _ | .mutexLock _, _ | .mutexTryLock _, _ | .mutexUnlock _, _ => [.abandon p]
  | _, _ => []

def SimOutput.mutexEvents : SimOutput → List (Event Address Pid)
  | .dispatched p d => [.invoke p d.type.mutexOp]
  | .served p call ret => call.mutexEvents p ret
  | .writeAck p _ ack => [.respond p ack.mutexReply]
  | _ => []

/-- The history of the mutexes in a trace. -/
def mutexHistory (trace : List SimOutput) : List (Event Address Pid) :=
  trace.flatMap SimOutput.mutexEvents

theorem mutexHistory_append (out out' : List SimOutput) :
    mutexHistory (out ++ out') = mutexHistory out ++ mutexHistory out' :=
  List.flatMap_append

/-- The calls that are not those of a mutex. -/
def S4uCall.foreign : S4uCall → Bool
  | .mutexCreate | .mutexLock _ | .mutexTryLock _ | .mutexUnlock _ => false
  | _ => true

/-- A wait on a condition variable gives its mutex up and takes it again. -/
def S4uCall.lockWait : S4uCall → Bool
  | .conditionVariableWait _ _ | .conditionVariableWaitUntil _ _ _
  | .conditionVariableWaitFor _ _ _ => true
  | _ => false

/-- What a call does to the owners of ordinary mutexes. -/
def OwnerStep (owner owner' : Address → Option Pid) (p : Pid) : S4uCall → S4uReturn → Prop
  | .mutexCreate, .address a => owner' = Function.update owner a none
  | .mutexLock a, .done => owner a = none ∧ owner' = Function.update owner a (some p)
  | .mutexTryLock a, .bool locked =>
      locked = (owner a).isNone ∧ owner' = if locked then Function.update owner a (some p) else owner
  | .mutexUnlock a, .done => owner a = some p ∧ owner' = Function.update owner a none
  | _, _ => owner' = owner

/-- The S4U mutexes are ordinary mutexes. -/
structure OrdinaryMutexes (K : S4u) where
  owner : K.State → Address → Option Pid
  init : owner K.init = fun _ => none
  issue : ∀ k p call, call.lockWait = false → owner (K.issue k p call) = owner k
  progress : ∀ k event k' writes, K.progress k event = some (k', writes) → owner k' = owner k
  serve : ∀ k p call ret k', call.lockWait = false → K.serve k p call ret = some k' →
    OwnerStep (owner k) (owner k') p call ret

/-- The step dispatches no wait on a condition variable. -/
def NoLockWait {K : S4u} (s : Simulation K) (event : SimEvent K) : Prop :=
  ∀ p d, Dispatches s event p d → d.type.lockWait = none

/-- The step dispatches no `MutexTryLock` on a mutex that is in the store. -/
def NoKnownTryLock {K : S4u} (s : Simulation K) (event : SimEvent K) : Prop :=
  ∀ p d x, Dispatches s event p d → d.type = .mutexTryLock x →
    s.memory.store.mutexes.find x.address = none

/-- A check of `NoLockWait` on the decision that the step dispatches. -/
def checkNoLockWait {K : S4u} (s : Simulation K) (event : SimEvent K) : Prop :=
  ∀ dispatch ∈ dispatching s event, dispatch.2.type.lockWait = none

instance {K : S4u} (s : Simulation K) (event : SimEvent K) : Decidable (checkNoLockWait s event) :=
  inferInstanceAs (Decidable (∀ dispatch ∈ dispatching s event, dispatch.2.type.lockWait = none))

theorem noLockWait_of_check {K : S4u} {s : Simulation K} {event : SimEvent K}
    (h : checkNoLockWait s event) : NoLockWait s event :=
  fun p d hd => h (p, d) hd.eq_dispatching

/-- The table of plain mutexes accepts the history. -/
def TableAccepts (trace : List SimOutput) : Prop :=
  (({} : Table Address Pid).run (mutexHistory trace)).isSome

/-! ### Phases -/

/-- What the client of a suspended handler has asked for. -/
def Frame.Asks (call : S4uCall) (phase : Phase Address) : Frame → Prop
  | .firstYield _ | .thinkTime _ => call.foreign ∧ phase = .idle
  | .mutexCreate => call = .mutexCreate ∧ phase = .asked .create
  | .mutexLock mutex => call = .mutexLock mutex.address ∧ phase = .asked (.lock mutex.address)
  | .mutexTryLock => False
  | .acknowledge =>
      (∃ a, call = .mutexUnlock a ∧ phase = .asked (.unlock a)) ∨
        call.foreign ∧ phase = .asked .foreign
  | _ => call.foreign ∧ phase = .asked .foreign

/-- What the client of a handler whose call has returned is going to be told. -/
def Frame.Tells (ret : S4uReturn) (phase : Phase Address) : Frame → Prop
  | .firstYield _ | .thinkTime _ => phase = .idle
  | .mutexCreate => ∀ a, ret = .address a → phase = .answered (.created a)
  | .mutexLock _ => ret = .done → phase = .answered .done
  | .mutexTryLock => False
  | .acknowledge => ret = .done → phase = .answered .done ∨ phase = .asked .foreign
  | _ => phase = .asked .foreign

def ActorPoint.MutexPhase (phase : Phase Address) : ActorPoint → Prop
  | .spawned _ | .waitingConnectAck _ | .reading => phase = .idle
  | .calling call frame => frame.Asks call phase ∧ call.lockWait = false
  | .returned ret frame => frame.Tells ret phase
  | .waitingCanConnectAck _ _ => phase = .asked .foreign
  | .ended | .terminated => True

/-- The table after a segment of an actor. -/
structure Follows (t t' : Table Address Pid) (m : Memory) (p : Pid) (point : ActorPoint) : Prop where
  live : ∀ a, t'.live a = (m.store.mutexes.find a).isSome
  owner : t'.owner = t.owner
  phase : point.MutexPhase (t'.phase p)
  others : ∀ q, q ≠ p → t'.phase q = t.phase q

section

variable {t : Table Address Pid} {m m' : Memory} {p : Pid} {point : ActorPoint}

theorem follows_setPhase {phase : Phase Address}
    (hlive : ∀ a, t.live a = (m.store.mutexes.find a).isSome)
    (hstore : m'.store.mutexes = m.store.mutexes) (hphase : point.MutexPhase phase) :
    Follows t (t.setPhase p phase) m' p point where
  live a := by rw [Table.live_setPhase, hlive, hstore]
  owner := rfl
  phase := by rwa [Table.phase_setPhase_self]
  others q hne := by rw [Table.phase_setPhase, if_neg hne]

/-- A decision that does not concern the mutexes and is not answered at once. -/
theorem run_foreign (hidle : t.phase p = .idle) :
    t.run [.invoke p .foreign] = some (t.setPhase p (.asked .foreign)) := by
  rw [Table.run_cons t (Table.step_foreign t hidle), Table.run_nil]

/-- A decision that does not concern the mutexes and is answered at once. -/
theorem run_foreign_respond (hidle : t.phase p = .idle) (reply : Reply Address) :
    t.run [.invoke p .foreign, .respond p reply] = some (t.setPhase p .idle) := by
  rw [Table.run_cons t (Table.step_foreign t hidle),
    Table.run_cons _ (Table.step_respond_foreign _ (t.phase_setPhase_self p _) reply),
    Table.run_nil, Table.setPhase_setPhase]

/-- A decision on an unknown mutex. -/
theorem run_unknown {op : Op Address} {a : Address} (hidle : t.phase p = .idle)
    (hlive : t.live a = false)
    (hop : op = .lock a ∨ op = .tryLock a ∨ op = .unlock a ∨ op = .release a) :
    t.run [.invoke p op, .respond p .unknown] = some (t.setPhase p .idle) := by
  have hinvoke : t.step (.invoke p op) = some (t.setPhase p (.answered .unknown)) := by
    rcases hop with rfl | rfl | rfl | rfl <;> simp [Table.step, hidle, Table.ask, hlive]
  rw [Table.run_cons t hinvoke,
    Table.run_cons _ (Table.step_respond _ (t.phase_setPhase_self p _)), Table.run_nil]
  simp only [Table.told, Table.setPhase_setPhase]

/-- A decision on a mutex that is known and has to be locked or unlocked. -/
theorem run_ask {op : Op Address} {a : Address} (hidle : t.phase p = .idle)
    (hlive : t.live a = true) (hop : op = .lock a ∨ op = .unlock a) :
    t.run [.invoke p op] = some (t.setPhase p (.asked op)) := by
  have hinvoke : t.step (.invoke p op) = some (t.setPhase p (.asked op)) := by
    rcases hop with rfl | rfl <;> simp [Table.step, hidle, Table.ask, hlive]
  rw [Table.run_cons t hinvoke, Table.run_nil]

/-- The release of a mutex that is known. -/
theorem run_release {a : Address} (hidle : t.phase p = .idle) (hlive : t.live a = true) :
    t.run [.invoke p (.release a), .respond p .done] =
      some ((t.setLive a false).setPhase p .idle) := by
  have hinvoke : t.step (.invoke p (.release a)) =
      some ((t.setLive a false).setPhase p (.answered .done)) := by
    simp only [Table.step, hidle, hlive, if_true]
  rw [Table.run_cons t hinvoke,
    Table.run_cons _ (Table.step_respond _ (Table.phase_setPhase_self _ p _)), Table.run_nil]
  simp only [Table.told, Table.setPhase_setPhase]

/-- A decision that is not a wait on a condition variable is foreign to the mutexes, or names one. -/
theorem mutexOp_of_handle {type : DecisionType} {h : Handle} (hwait : type.lockWait = none)
    (hmem : h ∈ type.handles) :
    type.mutexOp = .foreign ∨ ∃ a, h = .mutex a ∧ (type.mutexOp = .lock a ∨
      type.mutexOp = .tryLock a ∨ type.mutexOp = .unlock a ∨ type.mutexOp = .release a) := by
  cases type with
  | mutexRefcountDecrease mutex =>
      exact Or.inr ⟨_, List.mem_singleton.mp hmem, Or.inr (Or.inr (Or.inr rfl))⟩
  | mutexLock mutex => exact Or.inr ⟨_, List.mem_singleton.mp hmem, Or.inl rfl⟩
  | mutexUnlock mutex =>
      exact Or.inr ⟨_, List.mem_singleton.mp hmem, Or.inr (Or.inr (Or.inl rfl))⟩
  | mutexTryLock mutex => exact Or.inr ⟨_, List.mem_singleton.mp hmem, Or.inr (Or.inl rfl)⟩
  | mutexCreate value => cases hmem
  | _ => exact Or.inl rfl

theorem mutexOp_of_plain {type : DecisionType} (h : type.plain) : type.mutexOp = .foreign := by
  cases type <;> first | rfl | cases h

theorem foreign_of_plain {call : S4uCall} (h : call.plain) :
    call.foreign ∧ call.lockWait = false := by
  cases call <;> first | exact ⟨rfl, rfl⟩ | cases h

theorem mutexEvents_of_foreign {call : S4uCall} (h : call.foreign) (p : Pid) (ret : S4uReturn) :
    call.mutexEvents p ret = [] := by
  cases call <;> first | rfl | cases h

theorem ownerStep_of_foreign {call : S4uCall} (h : call.foreign)
    {owner owner' : Address → Option Pid} {p : Pid} {ret : S4uReturn}
    (howner : OwnerStep owner owner' p call ret) : owner' = owner := by
  cases call <;> first | exact howner | cases h

end

/-- A segment that only makes a foreign call. -/
theorem Switched.follows {t : Table Address Pid} {m : Memory} {p : Pid} (socket : Socket)
    {d : Decision} {segment : Segment} (howned : Owned m) (hidle : t.phase p = .idle)
    (hlive : ∀ a, t.live a = (m.store.mutexes.find a).isSome) (hwait : d.type.lockWait = none)
    (htry : ∀ x, d.type = .mutexTryLock x → m.store.mutexes.find x.address = none)
    (h : Switched d m segment) :
    ∃ t', t.run (.invoke p d.type.mutexOp ::
        mutexHistory (segment.out ++ segment.outcome.out p socket)) = some t' ∧
      Follows t t' segment.memory p segment.outcome.point := by
  have hforeign : d.type.mutexOp = .foreign → mutexHistory (segment.out ++
        segment.outcome.out p socket) = [] →
      segment.memory.store.mutexes = m.store.mutexes →
      segment.outcome.point.MutexPhase (.asked .foreign) →
      ∃ t', t.run (.invoke p d.type.mutexOp ::
          mutexHistory (segment.out ++ segment.outcome.out p socket)) = some t' ∧
        Follows t t' segment.memory p segment.outcome.point := by
    intro hop hhistory hstore hphase
    rw [hop, hhistory]
    exact ⟨_, run_foreign hidle, follows_setPhase hlive hstore hphase⟩
  cases h with
  | quit value hd => exact hforeign (by rw [hd]; rfl) rfl rfl trivial
  | plainAnswered ack hplain _ =>
      rw [mutexOp_of_plain hplain]
      exact ⟨_, run_foreign_respond hidle _, follows_setPhase hlive rfl rfl⟩
  | plainCalled call frame hplain hcall hframe =>
      obtain ⟨hcall, hlock⟩ := foreign_of_plain hcall
      refine hforeign (mutexOp_of_plain hplain) rfl rfl ?_
      rcases hframe with rfl | rfl
      · exact ⟨Or.inr ⟨hcall, rfl⟩, hlock⟩
      · exact ⟨⟨hcall, rfl⟩, hlock⟩
  | unset hd => exact hforeign (by rw [hd]; rfl) rfl rfl trivial
  | unknownHost create hd => exact hforeign (by rw [hd]; rfl) rfl rfl trivial
  | unknownComm wait e hd _ => exact hforeign (by rw [hd]; rfl) rfl rfl trivial
  | actorCreate create hd =>
      exact hforeign (by rw [hd]; rfl) rfl rfl ⟨⟨rfl, rfl⟩, rfl⟩
  | commWaitFor wait comm hd _ =>
      exact hforeign (by rw [hd]; rfl) rfl rfl ⟨⟨rfl, rfl⟩, rfl⟩
  | commCancel c comm hd _ =>
      exact hforeign (by rw [hd]; rfl) rfl rfl ⟨Or.inr ⟨rfl, rfl⟩, rfl⟩
  | commTest c comm hd _ =>
      exact hforeign (by rw [hd]; rfl) rfl rfl ⟨⟨rfl, rfl⟩, rfl⟩
  | commWaitAnyFor wait comms hd _ =>
      exact hforeign (by rw [hd]; rfl) rfl rfl ⟨⟨rfl, rfl⟩, rfl⟩
  | mailboxPut put hd =>
      exact hforeign (by rw [hd]; rfl) rfl rfl ⟨Or.inr ⟨rfl, rfl⟩, rfl⟩
  | mailboxPutAsync put hd =>
      exact hforeign (by rw [hd]; rfl) rfl rfl ⟨⟨rfl, rfl⟩, rfl⟩
  | mailboxGet mbox hd =>
      exact hforeign (by rw [hd]; rfl) rfl rfl ⟨⟨rfl, rfl⟩, rfl⟩
  | mailboxGetAsync mbox hd =>
      exact hforeign (by rw [hd]; rfl) rfl rfl ⟨⟨rfl, rfl⟩, rfl⟩
  | conditionVariableCreate value hd =>
      exact hforeign (by rw [hd]; rfl) rfl rfl ⟨⟨rfl, rfl⟩, rfl⟩
  | notified c cv call hd _ =>
      rcases hd with ⟨hd, rfl⟩ | ⟨hd, rfl⟩
      · exact hforeign (by rw [hd]; rfl) rfl rfl ⟨Or.inr ⟨rfl, rfl⟩, rfl⟩
      · exact hforeign (by rw [hd]; rfl) rfl rfl ⟨Or.inr ⟨rfl, rfl⟩, rfl⟩
  | lockWaited c x cv mutex call frame hd _ _ _ =>
      rw [hd] at hwait
      cases hwait
  | failed handle hmem hnone =>
      rcases mutexOp_of_handle hwait hmem with hop | ⟨a, rfl, hop⟩
      · rw [hop]
        exact ⟨_, run_foreign_respond hidle _, follows_setPhase hlive rfl rfl⟩
      · refine ⟨_, run_unknown hidle ?_ hop, follows_setPhase hlive rfl rfl⟩
        rw [hlive, Option.map_eq_none_iff.mp hnone]
        rfl
  | freed handle e hreleased he _ =>
      cases handle with
      | comm a =>
          have hop : d.type.mutexOp = .foreign := by
            cases hd : d.type <;> rw [hd] at hreleased <;> first | rfl | cases hreleased
          rw [hop]
          refine ⟨_, run_foreign_respond hidle _, follows_setPhase hlive ?_ rfl⟩
          show (m.free (.comm a)).store.mutexes = m.store.mutexes
          rw [Memory.free]
          split <;> rfl
      | conditionVariable a =>
          have hop : d.type.mutexOp = .foreign := by
            cases hd : d.type <;> rw [hd] at hreleased <;> first | rfl | cases hreleased
          rw [hop]
          refine ⟨_, run_foreign_respond hidle _, follows_setPhase hlive ?_ rfl⟩
          show (m.free (.conditionVariable a)).store.mutexes = m.store.mutexes
          rw [Memory.free]
          split <;> rfl
      | mutex a =>
          have hop : d.type.mutexOp = .release a := by
            cases hd : d.type <;> rw [hd] at hreleased <;> cases hreleased
            rfl
          obtain ⟨mutex, hfind, rfl⟩ := Option.map_eq_some_iff.mp he
          rw [hop]
          refine ⟨_, run_release hidle (by rw [hlive, hfind]; rfl), ?_⟩
          refine ⟨?_, rfl, ?_, ?_⟩
          · intro b
            show Function.update t.live a false b = ((m.free (.mutex a)).store.mutexes.find b).isSome
            simp only [Memory.free, hfind, Memory.intrusivePtrRelease, UnorderedMap.find_erase,
              Function.update_apply]
            split
            · rfl
            · exact hlive b
          · exact Table.phase_setPhase_self _ p _
          · intro q hne
            rw [Table.phase_setPhase, if_neg hne]
            rfl
  | decreased handle e _ he hne => exact absurd (howned.entry handle e he).2.2.2.1 hne
  | mutexCreate value hd =>
      have hinvoke : t.step (.invoke p .create) = some (t.setPhase p (.asked .create)) := by
        simp only [Table.step, hidle]
      rw [hd]
      exact ⟨_, (Table.run_cons t hinvoke []).trans rfl,
        follows_setPhase hlive rfl ⟨⟨rfl, rfl⟩, rfl⟩⟩
  | mutexLock x mutex hd hfind =>
      have hobject : mutex.mutex = x.address := by
        have hentry := howned.entry (.mutex x.address) mutex.entry
          (by rw [Memory.entry, hfind, Option.map_some])
        exact hentry.1
      rw [hd]
      refine ⟨_, run_ask hidle (by rw [hlive, hfind]; rfl) (Or.inl rfl), ?_⟩
      exact follows_setPhase hlive rfl ⟨⟨by rw [hobject], rfl⟩, rfl⟩
  | mutexUnlock x mutex hd hfind =>
      have hobject : mutex.mutex = x.address := by
        have hentry := howned.entry (.mutex x.address) mutex.entry
          (by rw [Memory.entry, hfind, Option.map_some])
        exact hentry.1
      rw [hd]
      refine ⟨_, run_ask hidle (by rw [hlive, hfind]; rfl) (Or.inr rfl), ?_⟩
      exact follows_setPhase hlive rfl ⟨Or.inl ⟨x.address, by rw [hobject], rfl⟩, rfl⟩
  | mutexTryLock x mutex _ hfind =>
      have hentry := howned.entry (.mutex 0) mutex.entry
        (by rw [Memory.entry, hfind, Option.map_some])
      exact absurd rfl hentry.2.1
  | mutexTryLockFailed x hd _ =>
      rw [hd]
      refine ⟨_, run_unknown hidle ?_ (Or.inr (Or.inl rfl)), follows_setPhase hlive rfl rfl⟩
      rw [hlive, htry x hd]
      rfl

/-- The parts of a trace in which nothing concerns the mutexes. -/
theorem Taken.mutexHistory {address : Address} {m m' : Memory} {out : List SimOutput} {data : Bytes}
    (h : Taken address m m' out data) :
    mutexHistory out = [] ∧ m'.store.mutexes = m.store.mutexes := by
  cases h with
  | nothing => exact ⟨rfl, rfl⟩
  | payload => exact ⟨rfl, rfl⟩

section

variable {K : S4u} {M : OrdinaryMutexes K} {s : Simulation K} {t : Table Address Pid}

/-- The table fits to the state of the SimGrid thread. -/
structure MutexInv (M : OrdinaryMutexes K) (s : Simulation K) (t : Table Address Pid) : Prop where
  store : StoreInv s
  live : ∀ a, t.live a = (s.memory.store.mutexes.find a).isSome
  owner : t.owner = M.owner s.kernel
  phase : ∀ p actor, s.actors.find p = some actor → actor.point.MutexPhase (t.phase p)
  idle : ∀ p, s.actors.find p = none → t.phase p = .idle

theorem Resumed.follows {p : Pid} {socket : Socket} {frame : Frame} {ret : S4uReturn}
    {actor : ServerActor} {segment : Segment} (hinv : MutexInv M s t)
    (hcurrent : s.current = none) (hfind : s.actors.find p = some actor)
    (hpoint : actor.point = .returned ret frame) (hwait : NoLockWait s (.schedule p))
    (htry : NoKnownTryLock s (.schedule p))
    (h : Resumed K s.kernel p socket frame ret s.memory segment) :
    ∃ t', t.run (mutexHistory (segment.out ++ segment.outcome.out p socket)) = some t' ∧
      Follows t t' segment.memory p segment.outcome.point := by
  have htells := hinv.phase p actor hfind
  rw [hpoint] at htells
  have hlive := hinv.live
  have hsilent : mutexHistory (segment.out ++ segment.outcome.out p socket) = [] →
      segment.memory.store.mutexes = s.memory.store.mutexes →
      segment.outcome.point.MutexPhase (t.phase p) →
      ∃ t', t.run (mutexHistory (segment.out ++ segment.outcome.out p socket)) = some t' ∧
        Follows t t' segment.memory p segment.outcome.point := by
    intro hhistory hstore hphase
    rw [hhistory]
    exact ⟨t, rfl, ⟨fun a => by rw [hlive, hstore], rfl, hphase, fun q _ => rfl⟩⟩
  have hforeign : ∀ {m' ack} out, t.phase p = .asked .foreign → mutexHistory out = [] →
      m'.store.mutexes = s.memory.store.mutexes →
      ∃ t', t.run (mutexHistory (out ++ (Outcome.finished ack true false).out p socket)) = some t' ∧
        Follows t t' m' p .reading := by
    intro m' ack out hphase hhistory hstore
    rw [mutexHistory_append, hhistory]
    refine ⟨_, Table.run_cons t (Table.step_respond_foreign t hphase ack.mutexReply) [], ?_⟩
    exact follows_setPhase hlive hstore rfl
  cases h with
  | escaped => exact hsilent rfl rfl trivial
  | waitConnectAck connectAck hframe _ =>
      subst hframe
      exact hsilent rfl rfl htells
  | dispatched d hframe hret =>
      subst hframe hret
      have hd := Dispatches.later p actor d hcurrent hfind hpoint
      obtain ⟨segment, hswitched, heq⟩ := dispatch_eq K s.kernel p d s.memory
      have hfollows := hswitched.follows socket hinv.store.owned htells hlive
        (hwait p d hd) (fun x hx => htry p d x hd hx)
      rw [heq]
      exact hfollows
  | acknowledged hplain hret =>
      subst hret
      have hphase : t.phase p = .answered .done ∨ t.phase p = .asked .foreign := by
        cases frame with
        | acknowledge => exact htells rfl
        | catchHostFailure => exact Or.inr htells
        | mutexLock mutex => exact Or.inl (htells rfl)
        | conditionVariableWait cv mutex lock => exact Or.inr htells
        | _ => cases hplain
      rcases hphase with hphase | hphase
      · exact ⟨_, Table.run_cons t (Table.step_respond t hphase) [], follows_setPhase hlive rfl rfl⟩
      · exact hforeign [] hphase rfl rfl
  | hostFailure hframe _ =>
      subst hframe
      exact hforeign [] htells rfl rfl
  | actorCreated _ _ _ hframe _ =>
      subst hframe
      exact hsilent rfl rfl htells
  | commWaited comm m' out data hframe _ _ htaken =>
      subst hframe
      exact hforeign out htells htaken.mutexHistory.1 htaken.mutexHistory.2
  | commTested comm m' out data hframe _ _ htaken =>
      subst hframe
      exact hforeign out htells htaken.mutexHistory.1 htaken.mutexHistory.2
  | commWaitedAny comms pointers index comm m' out data hframe _ _ _ htaken =>
      subst hframe
      exact hforeign out htells htaken.mutexHistory.1 htaken.mutexHistory.2
  | commWaitUndefined => exact hsilent rfl rfl trivial
  | commTestUndefined => exact hsilent rfl rfl trivial
  | commWaitAnyUndefined => exact hsilent rfl rfl trivial
  | commInconsistent => exact hsilent rfl rfl trivial
  | existingComm => exact hsilent rfl rfl trivial
  | mailboxGetUndefined => exact hsilent rfl rfl trivial
  | commTimedOut comm hframe _ =>
      subst hframe
      exact hforeign [] htells rfl rfl
  | commCanceled comm hframe _ =>
      subst hframe
      exact hforeign [] htells rfl rfl
  | commPending comm hframe _ =>
      subst hframe
      exact hforeign [] htells rfl rfl
  | commNoneFinished _ _ _ hframe _ _ =>
      subst hframe
      exact hforeign [] htells rfl rfl
  | mailboxPutAsync address hframe _ _ =>
      subst hframe
      exact hforeign [] htells rfl rfl
  | mailboxGetAsync receptionBuffer address hframe _ _ =>
      subst hframe
      exact hforeign [] htells rfl rfl
  | mailboxGet payload data hframe _ _ =>
      subst hframe
      exact ⟨_, Table.run_cons t (Table.step_respond_foreign t htells _) [],
        follows_setPhase hlive rfl rfl⟩
  | mutexCreate a hframe hret =>
      subst hframe hret
      have hnew := (hinv.store.unstored.fresh p actor _ a hfind hpoint).2
      have hnone : s.memory.store.mutexes.find a = none :=
        Option.map_eq_none_iff.mp (hinv.store.owned.entry_eq_none (.mutex a) hnew)
      refine ⟨_, Table.run_cons t (Table.step_respond t (htells a rfl)) [], ?_, rfl, ?_, ?_⟩
      · intro b
        simp only [Segment.answer, Memory.insertMutex, Memory.intrusivePtrAddRef,
          UnorderedMap.find_insert, hnone, and_true]
        show Function.update t.live a true b = _
        rw [Function.update_apply]
        split
        · rfl
        · exact hlive b
      · exact Table.phase_setPhase_self _ p _
      · intro q hne
        show ((t.setLive a true).setPhase p .idle).phase q = t.phase q
        rw [Table.phase_setPhase, if_neg hne]
        rfl
  | mutexTryLock locked hframe _ =>
      subst hframe
      exact htells.elim
  | conditionVariableCreate address hframe _ =>
      subst hframe
      exact hforeign [] htells rfl rfl
  | conditionVariableStatus cv mutex lock status data hframe _ =>
      rcases hframe with ⟨rfl, rfl⟩ | ⟨rfl, rfl⟩
      · exact hforeign [] htells rfl rfl
      · exact hforeign [] htells rfl rfl

theorem Ran.follows {event : SimEvent K} {p : Pid} {socket : Socket} {segment : Segment}
    (hinv : MutexInv M s t) (hwait : NoLockWait s event) (htry : NoKnownTryLock s event)
    (h : Ran s event p socket segment) :
    ∃ t', t.run (mutexHistory (segment.out ++ segment.outcome.out p socket)) = some t' ∧
      Follows t t' segment.memory p segment.outcome.point := by
  have hstays : segment.outcome.point.MutexPhase (t.phase p) →
      Follows t t s.memory p segment.outcome.point :=
    fun hphase => ⟨hinv.live, rfl, hphase, fun q _ => rfl⟩
  cases h with
  | firstYield _ actor connectAck _ hfind hpoint =>
      have hidle := hinv.phase p actor hfind
      rw [hpoint] at hidle
      exact ⟨t, rfl, hstays ⟨⟨rfl, hidle⟩, rfl⟩⟩
  | resumed _ actor ret frame _ hcurrent hfind hpoint hresumed =>
      exact hresumed.follows hinv hcurrent hfind hpoint hwait htry
  | decided _ _ d hcurrent hfind hthink =>
      have hd := Dispatches.now p socket d hcurrent hfind hthink
      obtain ⟨segment, hswitched, heq⟩ := dispatch_eq K s.kernel p d s.memory
      have hfollows := hswitched.follows socket hinv.store.owned (hinv.phase p _ hfind)
        hinv.live (hwait p d hd) (fun x hx => htry p d x hd hx)
      rw [heq]
      exact hfollows
  | thinking _ _ d _ hfind _ =>
      exact ⟨t, rfl, hstays ⟨⟨rfl, hinv.phase p _ hfind⟩, rfl⟩⟩
  | badThinkTime => exact ⟨t, rfl, hstays trivial⟩
  | readFailed => exact ⟨t, rfl, hstays trivial⟩
  | childAccepted _ _ canConnectAck child _ hfind =>
      have hphase : t.phase p = .asked .foreign := hinv.phase p _ hfind
      exact ⟨_, Table.run_cons t (Table.step_respond_foreign t hphase _) [],
        follows_setPhase hinv.live rfl rfl⟩
  | badCanConnectAck => exact ⟨t, rfl, hstays trivial⟩

/-- A served call does in the table what it does in SimGrid. -/
theorem served_follows {p : Pid} {call : S4uCall} {frame : Frame} {ret : S4uReturn}
    {owner' : Address → Option Pid} (hasks : frame.Asks call (t.phase p))
    (howner : OwnerStep t.owner owner' p call ret) :
    ∃ t', t.run (call.mutexEvents p ret) = some t' ∧ t'.live = t.live ∧ t'.owner = owner' ∧
      frame.Tells ret (t'.phase p) ∧ ∀ q, q ≠ p → t'.phase q = t.phase q := by
  have hothers : ∀ (u : Table Address Pid) phase, u.phase = t.phase →
      ∀ q, q ≠ p → (u.setPhase p phase).phase q = t.phase q := by
    intro u phase hu q hne
    rw [Table.phase_setPhase, if_neg hne, hu]
  have hforeign : call.foreign → frame.Tells ret (t.phase p) →
      ∃ t', t.run (call.mutexEvents p ret) = some t' ∧ t'.live = t.live ∧ t'.owner = owner' ∧
        frame.Tells ret (t'.phase p) ∧ ∀ q, q ≠ p → t'.phase q = t.phase q := by
    intro hcall htells
    rw [mutexEvents_of_foreign hcall, ownerStep_of_foreign hcall howner]
    exact ⟨t, rfl, rfl, rfl, htells, fun q _ => rfl⟩
  -- a call that fails leaves the owners as they are, and its actor has nothing to tell
  have habandon : call.mutexEvents p ret = [.abandon p] → owner' = t.owner →
      (∀ phase, frame.Tells ret phase) →
      ∃ t', t.run (call.mutexEvents p ret) = some t' ∧ t'.live = t.live ∧ t'.owner = owner' ∧
        frame.Tells ret (t'.phase p) ∧ ∀ q, q ≠ p → t'.phase q = t.phase q := by
    intro hevents howner htells
    rw [hevents, howner]
    exact ⟨t.setPhase p .idle, rfl, rfl, rfl, htells _, hothers t _ rfl⟩
  cases frame with
  | firstYield connectAck => exact hforeign hasks.1 hasks.2
  | thinkTime d => exact hforeign hasks.1 hasks.2
  | mutexTryLock => exact hasks.elim
  | mutexCreate =>
      obtain ⟨rfl, hphase⟩ := hasks
      cases ret with
      | address a =>
          have hstep : t.step (.create p a) =
              some ((t.setOwner a none).setPhase p (.answered (.created a))) := by
            simp only [Table.step, hphase]
          refine ⟨_, Table.run_cons t hstep [], rfl, howner.symm, ?_, hothers _ _ rfl⟩
          rintro b hb
          cases hb
          exact Table.phase_setPhase_self _ p _
      | _ => exact habandon rfl howner fun _ _ => (fun h => by cases h)
  | mutexLock mutex =>
      obtain ⟨rfl, hphase⟩ := hasks
      cases ret with
      | done =>
          have hstep : t.step (.lock p mutex.address) =
              some ((t.setOwner mutex.address (some p)).setPhase p (.answered .done)) := by
            simp only [Table.step, hphase, howner.1, Option.isNone_none, and_self, if_true]
          refine ⟨_, Table.run_cons t hstep [], rfl, howner.2.symm, ?_, hothers _ _ rfl⟩
          exact fun _ => Table.phase_setPhase_self _ p _
      | _ => exact habandon rfl howner fun _ => (fun h => by cases h)
  | acknowledge =>
      rcases hasks with ⟨a, rfl, hphase⟩ | ⟨hcall, hphase⟩
      · cases ret with
        | done =>
            have hstep : t.step (.unlock p a) =
                some ((t.setOwner a none).setPhase p (.answered .done)) := by
              simp only [Table.step, hphase, howner.1, and_self, if_true]
            refine ⟨_, Table.run_cons t hstep [], rfl, howner.2.symm, ?_, hothers _ _ rfl⟩
            exact fun _ => Or.inl (Table.phase_setPhase_self _ p _)
        | _ => exact habandon rfl howner fun _ => (fun h => by cases h)
      · exact hforeign hcall fun _ => Or.inr hphase
  | _ => exact hforeign hasks.1 hasks.2

/-- A step that neither runs an actor nor serves a call. -/
theorem MutexInv.quiet {s' : Simulation K} {event : SimEvent K} {out : List SimOutput}
    (hinv : MutexInv M s t) (hfresh : FreshAddress s event) (hstep : SimStep s event s' out)
    (hstore : s'.memory.store = s.memory.store) (howner : M.owner s'.kernel = M.owner s.kernel)
    (hactors : ∀ q actor, s'.actors.find q = some actor → s.actors.find q = some actor ∨
      ∃ before, s.actors.find q = some before ∧
        ∀ phase, before.point.MutexPhase phase → actor.point.MutexPhase phase) :
    MutexInv M s' t where
  store := hinv.store.step hfresh hstep
  live a := by rw [hinv.live, hstore]
  owner := hinv.owner.trans howner.symm
  phase q actor hq := by
    rcases hactors q actor hq with hq | ⟨before, hbefore, hphase⟩
    · exact hinv.phase q actor hq
    · exact hphase _ (hinv.phase q before hbefore)
  idle q hq := hinv.idle q (hstep.find_none hq)

theorem MutexInv.step {s' : Simulation K} {event : SimEvent K} {out : List SimOutput}
    (hinv : MutexInv M s t) (hfresh : FreshAddress s event) (hwait : NoLockWait s event)
    (htry : NoKnownTryLock s event) (hstep : SimStep s event s' out) :
    ∃ t', t.run (mutexHistory out) = some t' ∧ MutexInv M s' t' := by
  have hall := hstep
  have hsetPoint : ∀ {p before point}, s.actors.find p = some before →
      (∀ phase, before.point.MutexPhase phase → ActorPoint.MutexPhase phase point) →
      ∀ q actor, (s.setPoint p point).actors.find q = some actor → s.actors.find q = some actor ∨
        ∃ before, s.actors.find q = some before ∧
          ∀ phase, before.point.MutexPhase phase → actor.point.MutexPhase phase := by
    intro p before point hfind hphase q actor hq
    rw [find_setPoint] at hq
    split at hq
    · rename_i heq
      rw [hfind, Option.map_some, Option.some.injEq] at hq
      subst heq hq
      exact Or.inr ⟨before, hfind, hphase⟩
    · exact Or.inl hq
  cases hstep with
  | ran _ p socket segment hran =>
      obtain ⟨t', hrun, hfollows⟩ := hran.follows hinv hwait htry
      refine ⟨t', hrun, hinv.store.step hfresh hall, hfollows.live, ?_, ?_, ?_⟩
      · have hphase := hfollows.phase
        rw [hfollows.owner, hinv.owner]
        simp only [Simulation.conclude]
        cases houtcome : segment.outcome with
        | call call frame =>
            rw [houtcome] at hphase
            exact (M.issue s.kernel p call hphase.2).symm
        | _ => rfl
      · intro q actor hq
        simp only [Simulation.conclude, find_setPoint] at hq
        split at hq
        · rename_i heq
          subst heq
          obtain ⟨before, -, rfl⟩ := Option.map_eq_some_iff.mp hq
          exact hfollows.phase
        · rename_i hne
          rw [hfollows.others q hne]
          exact hinv.phase q actor hq
      · intro q hq
        have hnone := hall.find_none hq
        rw [hfollows.others q, hinv.idle q hnone]
        rintro rfl
        obtain ⟨before, hbefore⟩ := hran.find
        rw [hnone] at hbefore
        cases hbefore
  | started p before _ hfind hpoint =>
      refine ⟨t, rfl, hinv.quiet hfresh hall rfl rfl (hsetPoint hfind fun phase hphase => ?_)⟩
      rw [hpoint] at hphase
      exact hphase
  | progressed e kernel writes _ hprogress _ =>
      refine ⟨t, ?_, hinv.quiet hfresh hall rfl (M.progress _ _ _ _ hprogress)
        fun q actor hq => Or.inl hq⟩
      have hnil : mutexHistory (writes.map fun write => .transferred write.1 write.2) = [] := by
        refine List.flatMap_eq_nil_iff.mpr fun output houtput => ?_
        obtain ⟨write, -, rfl⟩ := List.mem_map.mp houtput
        rfl
      rw [hnil, Table.run_nil]
  | progressFailed =>
      exact ⟨t, rfl, hinv.quiet hfresh hall rfl rfl fun q actor hq => Or.inl hq⟩
  | round => exact ⟨t, rfl, hinv.quiet hfresh hall rfl rfl fun q actor hq => Or.inl hq⟩
  | connected p socket connectAck socket' _ hfind =>
      refine ⟨t, rfl, hinv.quiet hfresh hall rfl rfl fun q actor hq => ?_⟩
      simp only [UnorderedMap.find_modify] at hq
      split at hq
      · rename_i heq
        rw [hfind, Option.map_some, Option.some.injEq] at hq
        subst heq hq
        exact Or.inr ⟨_, hfind, fun phase hphase => hphase⟩
      · exact Or.inl hq
  | connectFailed p socket connectAck msg _ hfind _ =>
      exact ⟨t, rfl, hinv.quiet hfresh hall rfl rfl (hsetPoint hfind fun phase _ => trivial)⟩
  | served p before call frame ret kernel s' _ hfind hpoint hkernel hserve =>
      have hasks := hinv.phase p before hfind
      rw [hpoint] at hasks
      have howner := M.serve s.kernel p call ret kernel hasks.2 hkernel
      rw [← hinv.owner] at howner
      obtain ⟨t', hrun, hlive, howner', htells, hothers⟩ := served_follows hasks.1 howner
      have hsame : s'.memory = s.memory ∧ s'.kernel = kernel := by
        rcases serve_cases hserve with rfl | ⟨name, host, connectAck, child, rfl, rfl, _, rfl⟩
        · exact ⟨rfl, rfl⟩
        · exact ⟨rfl, rfl⟩
      refine ⟨t', ?_, hinv.store.step hfresh hall, ?_, ?_, ?_, ?_⟩
      · rw [mutexHistory, List.flatMap_singleton]
        exact hrun
      · intro a
        rw [hlive, hinv.live, hsame.1]
      · rw [howner', hsame.2]
      · intro q actor hq
        rcases serve_find hserve hfind hq with ⟨rfl, hreturned⟩ | ⟨hne, hq | ⟨hnone, connectAck, hspawned⟩⟩
        · rw [hreturned]
          exact htells
        · rw [hothers q hne]
          exact hinv.phase q actor hq
        · rw [hothers q hne, hspawned]
          exact hinv.idle q hnone
      · intro q hq
        have hnone := hall.find_none hq
        rw [hothers q, hinv.idle q hnone]
        rintro rfl
        rw [hnone] at hfind
        cases hfind

theorem MutexInv.spawn (M : OrdinaryMutexes K) (connections : List ActorConnection) :
    MutexInv M (Simulation.spawn K connections) {} where
  store := StoreInv.spawn connections
  live a := rfl
  owner := M.init.symm
  phase p actor hp := by
    rw [find_spawn hp]
    rfl
  idle p _ := rfl

theorem tableAccepts_append {trace out : List SimOutput} {t t' : Table Address Pid}
    (htrace : ({} : Table Address Pid).run (mutexHistory trace) = some t)
    (hout : t.run (mutexHistory out) = some t') :
    ({} : Table Address Pid).run (mutexHistory (trace ++ out)) = some t' := by
  rw [mutexHistory_append, Table.run_append, htrace, Option.bind_some, hout]

/-- A `MutexTryLock` on a mutex of the store is answered before anything was done to that mutex. -/
theorem not_tableAccepts {event : SimEvent K} {s' : Simulation K} {trace out : List SimOutput}
    (hinv : MutexInv M s t) (htrace : ({} : Table Address Pid).run (mutexHistory trace) = some t)
    (htry : ¬NoKnownTryLock s event) (hstep : simulationStep K s event = some (s', out)) :
    ¬TableAccepts (trace ++ out) := by
  simp only [NoKnownTryLock, not_forall] at htry
  obtain ⟨p, d, x, hd, htype, hknown⟩ := htry
  obtain ⟨actor, -, heq⟩ := simulationStep_dispatch (simulationStep_cases hstep).1 hd
  rw [hstep, Option.some.injEq] at heq
  have hnone : s.memory.store.mutexes.find 0 = none := by
    by_contra hsome
    obtain ⟨mutex, hfind⟩ := Option.ne_none_iff_exists'.mp hsome
    have hentry := hinv.store.owned.entry (.mutex 0) mutex.entry
      (by rw [Memory.entry, hfind, Option.map_some])
    exact absurd rfl hentry.2.1
  have hdispatch : dispatch K s.kernel p d s.memory =
      { memory := s.memory, out := [.dispatched p d]
        outcome := .finished { success := false } true false } := by
    simp only [dispatch, switchDecision, Decision.typeCase, htype, onMutex, Decision.mutexUnlock,
      hnone]
    rfl
  have hout : out = [.dispatched p d, .writeAck p actor.socket { success := false }] := by
    rw [hdispatch] at heq
    exact congrArg Prod.snd heq
  have hidle : t.phase p = .idle := by
    cases hd with
    | now _ _ _ _ hfind _ => exact hinv.phase p _ hfind
    | later _ actor _ _ hfind hpoint =>
        have htells := hinv.phase p actor hfind
        rw [hpoint] at htells
        exact htells
  have hlive : t.live x.address = true := by
    rw [hinv.live, Option.isSome_iff_ne_none]
    exact hknown
  have hhistory : mutexHistory out = [.invoke p (.tryLock x.address), .respond p .unknown] := by
    rw [hout]
    simp [mutexHistory, SimOutput.mutexEvents, htype, DecisionType.mutexOp, DecisionAck.mutexReply]
  have hasked : t.step (.invoke p (.tryLock x.address)) =
      some (t.setPhase p (.asked (.tryLock x.address))) := by
    simp only [Table.step, hidle, Table.ask, hlive, if_true]
  rw [TableAccepts, mutexHistory_append, Table.run_append, htrace, Option.bind_some, hhistory,
    Table.run_cons t hasked, Table.run, Table.step_respond_asked _ (t.phase_setPhase_self p _)]
  exact fun h => by cases h

/-- Along a run that waits on no condition variable, what the clients are told of the mutexes is what
a table of plain mutexes gives, if and only if no `MutexTryLock` on a stored mutex is dispatched. -/
theorem tableAccepts_iff (M : OrdinaryMutexes K) {connections : List ActorConnection}
    {events : List (SimEvent K)} {trace : List SimOutput}
    (hrun : Run (simulationStep K) (Simulation.spawn K connections) events s trace)
    (hfresh : Throughout (simulationStep K) FreshAddress (Simulation.spawn K connections) events)
    (hwait : Throughout (simulationStep K) NoLockWait (Simulation.spawn K connections) events) :
    Always (simulationStep K) (fun _ trace => TableAccepts trace)
        (Simulation.spawn K connections) events ↔
      Throughout (simulationStep K) NoKnownTryLock (Simulation.spawn K connections) events := by
  have hassumed : Throughout (simulationStep K) (fun s event => FreshAddress s event ∧
      NoLockWait s event) (Simulation.spawn K connections) events :=
    fun before event after t trace heq hbefore =>
      ⟨hfresh before event after t trace heq hbefore, hwait before event after t trace heq hbefore⟩
  refine always_iff_throughout
    (I := fun s trace => ∃ t, ({} : Table Address Pid).run (mutexHistory trace) = some t ∧
      MutexInv M s t) hrun hassumed ⟨{}, rfl, MutexInv.spawn M connections⟩ ?_ ?_ ?_
  · rintro s trace ⟨t, htrace, -⟩
    rw [TableAccepts, htrace]
    rfl
  · rintro s trace event s' out ⟨t, htrace, hinv⟩ ⟨hfresh, hwait⟩ htry hstep
    obtain ⟨t', hout, hinv'⟩ := hinv.step hfresh hwait htry (simulationStep_cases hstep).2
    exact ⟨t', tableAccepts_append htrace hout, hinv'⟩
  · rintro s trace event s' out ⟨t, htrace, hinv⟩ - htry hstep
    exact not_tableAccepts hinv htrace htry hstep

end

/-- A SimGrid that knows no more than the owners of its mutexes. -/
def mutexS4u : S4u where
  State := Address → Option Pid
  Event := Empty
  init := fun _ => none
  issue owner _ _ := owner
  serve owner p call ret :=
    match call, ret with
    | .mutexCreate, .address a => some (Function.update owner a none)
    | .mutexLock a, .done => if owner a = none then some (Function.update owner a (some p)) else none
    | .mutexTryLock a, .bool locked =>
        if locked = (owner a).isNone then
          some (if locked then Function.update owner a (some p) else owner)
        else none
    | .mutexUnlock a, .done =>
        if owner a = some p then some (Function.update owner a none) else none
    | _, _ => some owner
  progress _ event := event.elim
  hostByName _ _ := true
  actorByPid _ _ := none
  currentHost _ _ := ""
  getClock _ := 0
  mailboxEmpty _ _ := true
  mailboxListen _ _ := false
  mailboxReady _ _ := false

theorem mutexS4u_serve {owner owner' : mutexS4u.State} {p : Pid} {call : S4uCall} {ret : S4uReturn}
    (h : mutexS4u.serve owner p call ret = some owner') : OwnerStep owner owner' p call ret := by
  simp only [mutexS4u] at h
  split at h
  · cases h
    rfl
  · split at h
    · rename_i hfree
      cases h
      exact ⟨hfree, rfl⟩
    · cases h
  · split at h
    · rename_i hfree
      cases h
      exact ⟨hfree, rfl⟩
    · cases h
  · split at h
    · rename_i howner
      cases h
      exact ⟨howner, rfl⟩
    · cases h
  · rename_i hcreate hlock htry hunlock
    cases h
    cases call with
    | mutexCreate => cases ret <;> first | rfl | exact absurd rfl (hcreate _ rfl)
    | mutexLock a => cases ret <;> first | rfl | exact absurd rfl (hlock _ rfl)
    | mutexTryLock a => cases ret <;> first | rfl | exact absurd rfl (htry _ _ rfl)
    | mutexUnlock a => cases ret <;> first | rfl | exact absurd rfl (hunlock _ rfl)
    | _ => rfl

def ordinaryMutexS4u : OrdinaryMutexes mutexS4u where
  owner := id
  init := rfl
  issue _ _ _ _ := rfl
  progress _ event := event.elim
  serve _ _ _ _ _ _ h := mutexS4u_serve h

def mutexServer : Simulation mutexS4u :=
  Simulation.spawn mutexS4u
    [{ actorId := 2, socket := some 10 }, { actorId := 3, socket := some 11 }]

/-- A client creates a mutex and locks it; another one waits for it; the first one unlocks it. -/
def lockEvents : List (SimEvent mutexS4u) :=
  [.schedule 2, .decision { type := .mutexCreate true }, .serve 2 (.address 100), .schedule 2,
    .decision { type := .mutexLock { address := 100 } }, .schedule 3,
    .decision { type := .mutexLock { address := 100 } }, .serve 2 .done, .schedule 2,
    .decision { type := .mutexUnlock { address := 100 } }, .serve 2 .done, .serve 3 .done,
    .schedule 3]

theorem tableAccepts_iff_lock :
    Always (simulationStep mutexS4u) (fun _ trace => TableAccepts trace) mutexServer lockEvents ↔
      Throughout (simulationStep mutexS4u) NoKnownTryLock mutexServer lockEvents := by
  obtain ⟨⟨s, out⟩, hexec⟩ : ∃ result,
      exec (simulationStep mutexS4u) mutexServer lockEvents = some result := ⟨_, rfl⟩
  have hcheck : Throughout (simulationStep mutexS4u) checkNoLockWait mutexServer lockEvents :=
    Throughout.of_check rfl
  exact tableAccepts_iff ordinaryMutexS4u (Run.of_exec hexec) (Throughout.of_check rfl)
    fun before event after t trace heq hbefore =>
      noLockWait_of_check (hcheck before event after t trace heq hbefore)

/-- A client creates a mutex. -/
def createEvents : List (SimEvent mutexS4u) :=
  [.schedule 2, .decision { type := .mutexCreate true }, .serve 2 (.address 100), .schedule 2]

/-- A `try_lock` on this mutex, which is free, is refused. -/
theorem tryLock_refused_on_free_mutex :
    ∃ s trace t out, Run (simulationStep mutexS4u) mutexServer createEvents s trace ∧
      Throughout (simulationStep mutexS4u) FreshAddress mutexServer createEvents ∧
      s.memory.store.mutexes.find 100 ≠ none ∧ ordinaryMutexS4u.owner s.kernel 100 = none ∧
      simulationStep mutexS4u s (.decision { type := .mutexTryLock { address := 100 } }) =
        some (t, out) ∧
      .writeAck 2 10 { success := false } ∈ out ∧ TableAccepts trace ∧
      ¬TableAccepts (trace ++ out) := by
  obtain ⟨s, trace, t, out, hexec, hstep, hfind, howner, hout, haccepts, hrejects⟩ :
      ∃ s trace t out, exec (simulationStep mutexS4u) mutexServer createEvents = some (s, trace) ∧
      simulationStep mutexS4u s (.decision { type := .mutexTryLock { address := 100 } }) =
        some (t, out) ∧
      s.memory.store.mutexes.find 100 = some { mutex := 100, lock := 2, node := 1 } ∧
      ordinaryMutexS4u.owner s.kernel 100 = none ∧
      out = [.dispatched 2 { type := .mutexTryLock { address := 100 } },
        .writeAck 2 10 { success := false }] ∧
      (({} : Table Address Pid).run (mutexHistory trace)).isSome = true ∧
      (({} : Table Address Pid).run (mutexHistory (trace ++ out))).isSome = false := by
    refine ⟨_, _, _, _, rfl, rfl, ?_⟩
    refine ⟨rfl, rfl, rfl, rfl, rfl⟩
  refine ⟨s, trace, t, out, Run.of_exec hexec, Throughout.of_check rfl, ?_, howner, hstep, ?_,
    haccepts, ?_⟩
  · rw [hfind]
    nofun
  · rw [hout]
    exact List.mem_cons_of_mem _ (List.mem_singleton_self _)
  · rw [TableAccepts, hrejects]
    nofun

end RemoteSimgrid
