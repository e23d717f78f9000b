import Mathlib.Data.Finset.Basic
import RemoteSimgrid.SimulationDeliveryRuns
import RemoteSimgrid.SimulationReceive
import RemoteSimgrid.SimulationThinkTime

/-! The comms that are finished. Once the completion of a comm has been reported, S4U reports it to
every later observation, and the entry of the comm has no reception buffer any more. -/

namespace RemoteSimgrid

open Machine Pb

/-- The comm that a call of S4U observes alone. -/
def S4uCall.observed : S4uCall → Option Address
  | .commWaitFor comm _ => some comm
  | .commTest comm => some comm
  | _ => none

/-- S4U reports an already finished comm as finished. A comm is finished when its completion has been
reported, and remains so until its address is that of a new object. -/
structure FinishesOnce (K : S4u) where
  finished : K.State → Address → Prop
  issue_finished : ∀ k p call a, finished k a → finished (K.issue k p call) a
  progress_finished : ∀ k event k' writes a, K.progress k event = some (k', writes) → finished k a →
    finished k' a
  serve_finished : ∀ k p call ret k' a, K.serve k p call ret = some k' → ret ≠ .address a →
    finished k a → finished k' a
  serve_completed : ∀ k p call ret k' a, K.serve k p call ret = some k' →
    call.completed ret = some a → finished k' a
  serve_observed : ∀ k p call ret k' a, K.serve k p call ret = some k' → finished k a →
    call.observed = some a → call.completed ret = some a

/-- The comms whose completion a client has been told, since their address is theirs, and those of which
it had been told before the decision was handled that an actor works on, or has worked on. -/
structure Completions where
  reported : Finset Address := ∅
  before : Pid → Finset Address := fun _ => ∅

namespace Completions

def observe (c : Completions) : SimOutput → Completions
  | .dispatched p _ => { c with before := Function.update c.before p c.reported }
  | .served _ _ (.address a) =>
      { reported := c.reported.erase a, before := fun p => (c.before p).erase a }
  | _ => c

def observeAll (c : Completions) (out : List SimOutput) : Completions := out.foldl observe c

def report (c : Completions) (a : Address) : Completions := { c with reported := insert a c.reported }

end Completions

/-- The comm that a suspended handler observes alone. -/
def Frame.observed : Frame → Option Iterator
  | .commWaitFor comm => some comm
  | .commTest comm => some comm
  | _ => none

variable {K : S4u} {s t : Simulation K} {event : SimEvent K} {out : List SimOutput} {p : Pid}
  {F : FinishesOnce K} {c : Completions}

/-- A comm whose completion has been reported is finished, and there is nothing left to collect in its
entry; the observations that began later find it completed. -/
structure FinishInv (F : FinishesOnce K) (s : Simulation K) (c : Completions) : Prop where
  completed : ∀ p ret frame it, s.point p = some (.returned ret frame) → frame.completed ret = some it →
    F.finished s.kernel it.address
  finished : ∀ a ∈ c.reported, F.finished s.kernel a
  emptied : ∀ a ∈ c.reported, ∀ comm, s.memory.store.comms.find a = some comm →
    comm.receptionBuffer = none
  unopened : ∀ a ∈ c.reported, ∀ p b, s.point p ≠ some (.returned (.address a) (.mailboxGetAsync b))
  answered : ∀ p ret frame it, s.point p = some (.returned ret frame) → frame.observed = some it →
    it.address ∈ c.before p → frame.completed ret = some it
  asked : ∀ p, c.before p ⊆ c.reported

/-! ### What is observed -/

namespace Completions

theorem observe_sub (c : Completions) (o : SimOutput) :
    (c.observe o).reported ⊆ c.reported ∧
      ∀ q, (∀ d, o ≠ .dispatched q d) → (c.observe o).before q ⊆ c.before q := by
  cases o with
  | dispatched p d =>
      refine ⟨subset_rfl, fun q hq => ?_⟩
      have hne : q ≠ p := fun heq => hq d (by rw [heq])
      show Function.update c.before p c.reported q ⊆ c.before q
      rw [Function.update_of_ne hne]
  | served p call ret =>
      cases ret with
      | address a => exact ⟨Finset.erase_subset a _, fun q _ => Finset.erase_subset a _⟩
      | _ => exact ⟨subset_rfl, fun q _ => subset_rfl⟩
  | _ => exact ⟨subset_rfl, fun q _ => subset_rfl⟩

theorem observeAll_sub (c : Completions) (out : List SimOutput) :
    (c.observeAll out).reported ⊆ c.reported ∧
      ∀ q, (∀ d, .dispatched q d ∉ out) → (c.observeAll out).before q ⊆ c.before q := by
  induction out generalizing c with
  | nil => exact ⟨subset_rfl, fun q _ => subset_rfl⟩
  | cons o out ih =>
      obtain ⟨hreported, hbefore⟩ := ih (c.observe o)
      obtain ⟨hreported', hbefore'⟩ := c.observe_sub o
      refine ⟨hreported.trans hreported', fun q hq => ?_⟩
      have hrest : ∀ d, .dispatched q d ∉ out := fun d hd => hq d (List.mem_cons_of_mem o hd)
      have hfirst : ∀ d, o ≠ .dispatched q d := fun d heq => hq d (by rw [heq]; exact List.mem_cons_self)
      exact (hbefore q hrest).trans (hbefore' q hfirst)

theorem asked_observe (h : ∀ p, c.before p ⊆ c.reported) (o : SimOutput) (p : Pid) :
    (c.observe o).before p ⊆ (c.observe o).reported := by
  cases o with
  | dispatched q d =>
      show Function.update c.before q c.reported p ⊆ c.reported
      by_cases hp : p = q
      · subst hp
        rw [Function.update_self]
      · rw [Function.update_of_ne hp]
        exact h p
  | served q call ret =>
      cases ret with
      | address a => exact Finset.erase_subset_erase a (h p)
      | _ => exact h p
  | _ => exact h p

theorem asked_observeAll (h : ∀ p, c.before p ⊆ c.reported) (out : List SimOutput) (p : Pid) :
    (c.observeAll out).before p ⊆ (c.observeAll out).reported := by
  induction out generalizing c with
  | nil => exact h p
  | cons o out ih => exact ih (asked_observe h o)

end Completions

/-! ### What a step does -/

/-- An actor whose call has returned was there before, or its call is served by the step. -/
theorem SimStep.returned (h : SimStep s event t out) {ret : S4uReturn} {frame : Frame}
    (hp : t.point p = some (.returned ret frame)) :
    s.point p = some (.returned ret frame) ∨
      ∃ call, event = .serve p ret ∧ s.point p = some (.calling call frame) ∧
        K.serve s.kernel p call ret = some t.kernel ∧ out = [.served p call ret] := by
  obtain ⟨actor, hfind, hpoint⟩ := point_eq_some.mp hp
  cases h.moved hfind with
  | stayed hs => exact Or.inl (point_eq_some.mpr ⟨actor, hs, hpoint⟩)
  | ran before socket segment _ _ _ heq =>
      rw [heq] at hpoint
      exact absurd hpoint (point_ne_returned segment.outcome ret frame)
  | served before call frame' ret' hevent hbefore hat heq =>
      rw [heq] at hpoint
      cases hpoint
      subst hevent
      cases h with
      | ran _ _ _ _ hran => cases hran
      | served _ actor' call' frame' _ kernel _ _ hfind' hat' hserve hserved =>
          rw [hbefore, Option.some.injEq] at hfind'
          subst hfind'
          cases hat.symm.trans hat'
          refine Or.inr ⟨call, rfl, point_eq_some.mpr ⟨before, hbefore, hat⟩, ?_, rfl⟩
          rcases serve_cases hserved with rfl | ⟨_, _, _, _, -, -, -, rfl⟩
          · exact hserve
          · exact hserve
  | started before _ _ _ heq => rw [heq] at hpoint; cases hpoint
  | spawned q before name host connectAck frame' _ _ _ _ heq => rw [heq] at hpoint; cases hpoint
  | connected before connectAck socket _ _ _ heq => rw [heq] at hpoint; cases hpoint
  | connectFailed before _ heq => rw [heq] at hpoint; cases hpoint

/-- The address of an object that S4U creates is no more that of a finished comm. -/
theorem SimStep.created {ret : S4uReturn} (h : SimStep s (.serve p ret) t out) :
    ∃ call, out = [.served p call ret] := by
  cases h with
  | ran _ _ _ _ hran => cases hran
  | served _ _ call => exact ⟨call, rfl⟩

theorem SimStep.finished (F : FinishesOnce K) (h : SimStep s event t out) {a : Address}
    (hfresh : ∀ p, event ≠ .serve p (.address a)) (ha : F.finished s.kernel a) :
    F.finished t.kernel a := by
  cases h with
  | ran _ p socket segment hran =>
      have hissued := issued_conclude ({ s with ready := event.remaining s.ready }) p socket segment
      rcases hissued with ⟨call, frame, -, hkernel⟩ | ⟨-, hkernel⟩
      · rw [hkernel]
        exact F.issue_finished s.kernel p call a ha
      · rw [hkernel]
        exact ha
  | served p actor call frame ret kernel _ _ _ _ hserve hserved =>
      have hkernel : t.kernel = kernel := by
        rcases serve_cases hserved with rfl | ⟨_, _, _, _, -, -, -, rfl⟩ <;> rfl
      rw [hkernel]
      exact F.serve_finished s.kernel p call ret kernel a hserve (fun heq => hfresh p (by rw [heq])) ha
  | progressed event kernel writes _ hprogress =>
      exact F.progress_finished s.kernel event kernel writes a hprogress ha
  | _ => exact ha

/-- An open comm was open before, or a receive has returned it. -/
theorem SimStep.opened (h : SimStep s event t out) (howned : Owned s.memory) {a : Address}
    {comm : StoredComm} {b : Ptr} (hfind : t.memory.store.comms.find a = some comm)
    (hb : comm.receptionBuffer = some b) :
    s.memory.store.comms.find a = some comm ∨
      ∃ p, s.point p = some (.returned (.address a) (.mailboxGetAsync b)) := by
  cases h with
  | ran _ p socket segment hran =>
      obtain ⟨before, hbefore, htransfer⟩ := hran.transfer howned
      exact (htransfer.comms howned hfind hb).1.imp_right
        fun hopened => ⟨p, point_eq_some.mpr ⟨before, hbefore, hopened.2⟩⟩
  | served p actor call frame ret kernel _ _ _ _ _ hserved =>
      have hmemory : t.memory = s.memory := by
        rcases serve_cases hserved with rfl | ⟨_, _, _, _, -, -, -, rfl⟩ <;> rfl
      rw [hmemory] at hfind
      exact Or.inl hfind
  | _ => exact Or.inl hfind

/-- The comm of a handler whose call has returned is not one that S4U creates. -/
theorem BlockedInv.not_created (h : BlockedInv s) (hfresh : FreshAddress s event) {ret : S4uReturn}
    {frame : Frame} {it : Iterator} (hp : s.point p = some (.returned ret frame))
    (hcompleted : frame.completed ret = some it) (q : Pid) : event ≠ .serve q (.address it.address) := by
  rintro rfl
  obtain ⟨comm, hfind, -⟩ := h.found hp hcompleted
  have hentry := h.store.owned.entry (.comm it.address) comm.entry
    (by rw [Memory.entry, hfind, Option.map_some])
  exact hfresh.2.1 hentry.2.2.1

/-- The comm that a handler observes alone is the one that its call observes. -/
theorem observed_of_serves {call : S4uCall} {frame : Frame} {it : Iterator} (ret : S4uReturn)
    (hserves : frame.ofLoop = true ∨ ∃ type, frame.Serves type call) (h : frame.observed = some it) :
    call.observed = some it.address ∧
      (call.completed ret = some it.address → frame.completed ret = some it) := by
  cases frame with
  | commWaitFor comm =>
      cases h
      rcases hserves with hloop | ⟨type, wait, -, -, rfl⟩
      · cases hloop
      · refine ⟨rfl, fun hcompleted => ?_⟩
        cases ret <;> first | rfl | cases hcompleted
  | commTest comm =>
      cases h
      rcases hserves with hloop | ⟨type, -, rfl⟩
      · cases hloop
      · refine ⟨rfl, fun hcompleted => ?_⟩
        cases ret with
        | bool value => cases value <;> first | rfl | cases hcompleted
        | _ => cases hcompleted
  | _ => cases h

theorem FinishInv.spawn (connections : List ActorConnection) :
    FinishInv F (Simulation.spawn K connections) {} := by
  have hreturned : ∀ p ret frame,
      (Simulation.spawn K connections).point p ≠ some (.returned ret frame) := by
    intro p ret frame hp
    obtain ⟨actor, hfind, hpoint⟩ := point_eq_some.mp hp
    rw [find_spawn hfind] at hpoint
    cases hpoint
  constructor
  · exact fun p ret frame it hp => absurd hp (hreturned p ret frame)
  · exact fun a ha => absurd ha (Finset.notMem_empty a)
  · exact fun a ha => absurd ha (Finset.notMem_empty a)
  · exact fun a ha => absurd ha (Finset.notMem_empty a)
  · exact fun p ret frame it hp => absurd hp (hreturned p ret frame)
  · exact fun p => subset_rfl

theorem FinishInv.step (h : FinishInv F s c) (hblocked : BlockedInv s) (hsuspended : AllSuspended s)
    (hfresh : FreshAddress s event) (hstep : SimStep s event t out) :
    FinishInv F t (c.observeAll out) := by
  obtain ⟨hreported, hbefore⟩ := c.observeAll_sub out
  have hserves : ∀ {q call frame}, s.point q = some (.calling call frame) →
      frame.ofLoop = true ∨ ∃ type, frame.Serves type call := by
    intro q call frame hq
    obtain ⟨actor, hfind, hpoint⟩ := point_eq_some.mp hq
    exact (hsuspended q actor call frame hfind hpoint).imp_right fun ⟨d, hd⟩ => ⟨d.type, hd.serves⟩
  have hcreated : ∀ {a}, a ∈ (c.observeAll out).reported → ∀ q, event ≠ .serve q (.address a) := by
    rintro a ha q rfl
    obtain ⟨call, rfl⟩ := hstep.created
    exact absurd rfl (Finset.mem_erase.mp ha).1
  refine ⟨?_, ?_, ?_, ?_, ?_, Completions.asked_observeAll h.asked out⟩
  · intro q ret frame it hq hcompleted
    rcases hstep.returned hq with hs | ⟨call, -, hcalling, hserve, -⟩
    · exact hstep.finished F (hblocked.not_created hfresh hs hcompleted)
        (h.completed q ret frame it hs hcompleted)
    · exact F.serve_completed _ q call ret _ _ hserve
        (completed_of_serves (hserves hcalling) hcompleted).1
  · exact fun a ha => hstep.finished F (hcreated ha) (h.finished a (hreported ha))
  · intro a ha comm hfind
    by_contra hsome
    obtain ⟨b, hb⟩ := Option.ne_none_iff_exists'.mp hsome
    rcases hstep.opened hblocked.store.owned hfind hb with hs | ⟨q, hq⟩
    · exact hsome (h.emptied a (hreported ha) comm hs)
    · exact h.unopened a (hreported ha) q b hq
  · intro a ha q b hq
    rcases hstep.returned hq with hs | ⟨call, hevent, -⟩
    · exact h.unopened a (hreported ha) q b hs
    · exact hcreated ha q hevent
  · intro q ret frame it hq hobserved hmem
    rcases hstep.returned hq with hs | ⟨call, -, hcalling, hserve, rfl⟩
    · -- a decision that is dispatched is not being handled yet
      refine h.answered q ret frame it hs hobserved (hbefore q ?_ hmem)
      intro d hd
      have hdispatches : Dispatches s event q d := by
        have hdispatch : (q, d) ∈ out.filterMap SimOutput.dispatch :=
          List.mem_filterMap.mpr ⟨_, hd, rfl⟩
        rcases hstep.dispatched with hnone | ⟨q', d', hone, hdispatches⟩
        · rw [hnone] at hdispatch
          cases hdispatch
        · rw [hone] at hdispatch
          cases List.mem_singleton.mp hdispatch
          exact hdispatches
      obtain ⟨actor, hfind, hpoint⟩ := point_eq_some.mp hs
      cases hdispatches with
      | now _ socket _ _ hfind' =>
          rw [hfind, Option.some.injEq] at hfind'
          rw [hfind'] at hpoint
          cases hpoint
      | later _ actor' _ _ hfind' hpoint' =>
          rw [hfind, Option.some.injEq] at hfind'
          rw [hfind'] at hpoint
          cases hpoint.symm.trans hpoint'
          cases hobserved
    · have hbefore' := hbefore q (fun d hd => by cases List.mem_singleton.mp hd) hmem
      obtain ⟨hcall, hcompleted⟩ := observed_of_serves ret (hserves hcalling) hobserved
      exact hcompleted (F.serve_observed _ q call ret _ _ hserve
        (h.finished it.address (h.asked q hbefore')) hcall)

/-- A client is told that a comm is completed. -/
theorem FinishInv.report (h : FinishInv F s c) {a : Address} (hfinished : F.finished s.kernel a)
    (hemptied : ∀ comm, s.memory.store.comms.find a = some comm → comm.receptionBuffer = none)
    (hunopened : ∀ p b, s.point p ≠ some (.returned (.address a) (.mailboxGetAsync b))) :
    FinishInv F s (c.report a) where
  completed := h.completed
  finished x hx := by
    rcases Finset.mem_insert.mp hx with rfl | hx
    · exact hfinished
    · exact h.finished x hx
  emptied x hx := by
    rcases Finset.mem_insert.mp hx with rfl | hx
    · exact hemptied
    · exact h.emptied x hx
  unopened x hx := by
    rcases Finset.mem_insert.mp hx with rfl | hx
    · exact hunopened
    · exact h.unopened x hx
  answered := h.answered
  asked p := (h.asked p).trans (Finset.subset_insert a _)

/-! ### A SimGrid that finishes comms once -/

/-- SimGrid with the list of the comms that it has reported as completed. -/
def S4u.finishing (K : S4u) : S4u where
  State := K.State × List Address
  Event := K.Event
  init := (K.init, [])
  issue k p call := (K.issue k.1 p call, k.2)
  serve k p call ret :=
    if ∀ a ∈ k.2, call.observed = some a → call.completed ret = some a then
      match K.serve k.1 p call ret with
      | some k' =>
          some (k', (call.completed ret).toList ++ k.2.filter fun a => decide (ret ≠ .address a))
      | none => none
    else none
  progress k event :=
    match K.progress k.1 event with
    | some (k', writes) => some ((k', k.2), writes)
    | none => none
  hostByName k := K.hostByName k.1
  actorByPid k := K.actorByPid k.1
  currentHost k := K.currentHost k.1
  getClock k := K.getClock k.1
  mailboxEmpty k := K.mailboxEmpty k.1
  mailboxListen k := K.mailboxListen k.1
  mailboxReady k := K.mailboxReady k.1

theorem finishing_serve {k k' : K.State × List Address} {call : S4uCall} {ret : S4uReturn}
    (h : K.finishing.serve k p call ret = some k') :
    (∀ a ∈ k.2, call.observed = some a → call.completed ret = some a) ∧
      K.serve k.1 p call ret = some k'.1 ∧
      k'.2 = (call.completed ret).toList ++ k.2.filter fun a => decide (ret ≠ .address a) := by
  simp only [S4u.finishing] at h
  split at h
  · rename_i hobserved
    split at h
    · rename_i kernel hserve
      cases h
      exact ⟨hobserved, hserve, rfl⟩
    · cases h
  · cases h

theorem finishing_progress {k k' : K.State × List Address} {e : K.Event} {writes : List (Ptr × Ptr)}
    (h : K.finishing.progress k e = some (k', writes)) :
    K.progress k.1 e = some (k'.1, writes) ∧ k'.2 = k.2 := by
  simp only [S4u.finishing] at h
  split at h
  · rename_i kernel writes' hprogress
    cases h
    exact ⟨hprogress, rfl⟩
  · cases h

def S4u.finishesOnce (K : S4u) : FinishesOnce K.finishing where
  finished k a := a ∈ k.2
  issue_finished _ _ _ _ ha := ha
  progress_finished k event k' writes a h ha := by
    rw [(finishing_progress h).2]
    exact ha
  serve_finished k p call ret k' a h hne ha := by
    rw [(finishing_serve h).2.2]
    exact List.mem_append_right _ (List.mem_filter.mpr ⟨ha, decide_eq_true hne⟩)
  serve_completed k p call ret k' a h hcompleted := by
    rw [(finishing_serve h).2.2, hcompleted]
    exact List.mem_append_left _ List.mem_cons_self
  serve_observed k p call ret k' a h ha hobserved := (finishing_serve h).1 a ha hobserved

def Rendezvous.finishing (R : Rendezvous K) : Rendezvous K.finishing where
  sent k := R.sent k.1
  awaiting k := R.awaiting k.1
  receiving k := R.receiving k.1
  init_sent := R.init_sent
  init_awaiting := R.init_awaiting
  issue_sent k := R.issue_sent k.1
  issue_awaiting k := R.issue_awaiting k.1
  issue_receiving k := R.issue_receiving k.1
  progress_writes _ event _ writes h := R.progress_writes _ event _ writes (finishing_progress h).1
  progress_sent _ event _ writes x h := R.progress_sent _ event _ writes x (finishing_progress h).1
  progress_awaiting _ event _ writes b h :=
    R.progress_awaiting _ event _ writes b (finishing_progress h).1
  progress_receiving _ event _ writes h := R.progress_receiving _ event _ writes (finishing_progress h).1
  serve_sent _ p call ret _ x h := R.serve_sent _ p call ret _ x (finishing_serve h).2.1
  serve_awaiting _ p call ret _ b h := R.serve_awaiting _ p call ret _ b (finishing_serve h).2.1
  serve_receiving _ p call ret _ comm h := R.serve_receiving _ p call ret _ comm (finishing_serve h).2.1
  serve_get _ p mbox x _ h := R.serve_get _ p mbox x _ (finishing_serve h).2.1
  serve_getAsync _ p mbox b comm _ h := R.serve_getAsync _ p mbox b comm _ (finishing_serve h).2.1
  serve_completed _ p call ret _ comm b h :=
    R.serve_completed _ p call ret _ comm b (finishing_serve h).2.1
  serve_index _ p comms timeout index _ h :=
    R.serve_index _ p comms timeout index _ (finishing_serve h).2.1

end RemoteSimgrid
