import RemoteSimgrid.SimulationTurns

/-! What the server owns in SimGrid: one intrusive reference to each object of the `RefcountStore` and
one `unique_lock` for each stored mutex, and nothing else. A reference and a lock are taken with the
insertion of an entry and given back with its removal. -/

namespace RemoteSimgrid

open Machine Pb

variable {K : S4u} {s t : Simulation K} {event : SimEvent K} {out : List SimOutput}

/-- The handle of the object that a handler stores when the call that creates it returns. -/
def Frame.stores (address : Address) : Frame → Option Handle
  | .mailboxPutAsync | .mailboxGetAsync _ => some (.comm address)
  | .mutexCreate => some (.mutex address)
  | .conditionVariableCreate => some (.conditionVariable address)
  | _ => none

def Handle.isMutex : Handle → Bool
  | .mutex _ => true
  | _ => false

/-- The entry that a step removes, with the reference on its object. -/
def releasing (s : Simulation K) (event : SimEvent K) : Option (Handle × Entry) :=
  match dispatching s event with
  | some (_, d) =>
      match d.type.released with
      | some h =>
          match s.memory.entry h with
          | some e => if e.remoteRefCount = 1 then some (h, e) else none
          | none => none
      | none => none
  | none => none

/-- The `unique_lock` of a handle, if it is one of a stored mutex. -/
def Memory.lock (m : Memory) : Handle → Option Ptr
  | .mutex address => (m.store.mutexes.find address).map (·.lock)
  | _ => none

/-- The references and the locks are those of the entries, one for each. -/
structure Exact (m : Memory) : Prop where
  key : ∀ h e, m.entry h = some e → e.object = h.address
  unique : ∀ h h' e e', m.entry h = some e → m.entry h' = some e' → h.address = h'.address → h = h'
  remote : ∀ h e, m.entry h = some e → e.remoteRefCount = 1
  held : ∀ h e, m.entry h = some e → m.references.count e.object = 1
  stored : ∀ a ∈ m.references, ∃ h e, m.entry h = some e ∧ e.object = a
  lock : ∀ h lock, m.lock h = some lock → m.locks.find lock = some h.address
  locked : ∀ lock a, m.locks.find lock = some a → m.lock (.mutex a) = some lock

/-- What a step does with entries, references and locks: nothing, the insertion of an entry for an
object that is not stored, with a new reference and for a mutex with a new lock, or the removal of an
entry, with the only reference on its object and for a mutex with its lock. -/
inductive OwnershipStep (m m' : Memory) : Option (Handle × Entry) → Prop
  | kept : (∀ h, m'.entry h = m.entry h) → m'.references = m.references →
      (∀ h, m'.lock h = m.lock h) → m'.locks = m.locks → OwnershipStep m m' none
  | stored (h : Handle) (lock : Option Ptr) : m.entry h = none → h.address ∉ m.references →
      lock.isSome = h.isMutex → (∀ l, lock = some l → m.locks.find l = none) →
      (∀ h', m'.entry h' = if h' = h then some ⟨m.next, h.address, 1⟩ else m.entry h') →
      m'.references = h.address :: m.references →
      (∀ h', m'.lock h' = if h' = h then lock else m.lock h') →
      (∀ l, m'.locks.find l = if lock = some l then some h.address else m.locks.find l) →
      OwnershipStep m m' none
  | released (h : Handle) (e : Entry) : m.entry h = some e → m.references.count e.object = 1 →
      (m.lock h).isSome = h.isMutex →
      (∀ l, m.lock h = some l → m.locks.find l = some h.address) →
      (∀ h', m'.entry h' = if h' = h then none else m.entry h') →
      m'.references = m.references.erase e.object →
      (∀ h', m'.lock h' = if h' = h then none else m.lock h') →
      (∀ l, m'.locks.find l = if m.lock h = some l then none else m.locks.find l) →
      OwnershipStep m m' (some (h, e))

theorem isSome_lock {m : Memory} {h : Handle} {e : Entry} (he : m.entry h = some e) :
    (m.lock h).isSome = h.isMutex := by
  cases h with
  | comm a => rfl
  | conditionVariable a => rfl
  | mutex a =>
      obtain ⟨mutex, hfind, -⟩ := Option.map_eq_some_iff.mp he
      rw [Memory.lock, hfind]
      rfl

theorem lock_of_entry_eq_none {m : Memory} {h : Handle} (hnone : m.entry h = none) :
    m.lock h = none := by
  cases h with
  | comm a => rfl
  | conditionVariable a => rfl
  | mutex a => rw [Memory.lock, Option.map_eq_none_iff.mp hnone, Option.map_none]

theorem isMutex_of_lock {m : Memory} {h : Handle} {l : Ptr} (hlock : m.lock h = some l) :
    h = .mutex h.address := by
  cases h with
  | mutex a => rfl
  | comm a => cases hlock
  | conditionVariable a => cases hlock

/-! ### One step keeps the references and the locks exact -/

/-- A new entry, with a new reference and for a mutex with a new lock. -/
theorem Exact.stored_entry {m m' : Memory} {handle : Handle} {lock : Option Ptr} (h : Exact m)
    (hnone : m.entry handle = none) (hfresh : handle.address ∉ m.references)
    (hsome : lock.isSome = handle.isMutex) (hnew : ∀ l, lock = some l → m.locks.find l = none)
    (hentry : ∀ h', m'.entry h' = if h' = handle then some ⟨m.next, handle.address, 1⟩ else m.entry h')
    (hreferences : m'.references = handle.address :: m.references)
    (hlock : ∀ h', m'.lock h' = if h' = handle then lock else m.lock h')
    (hlocks : ∀ l, m'.locks.find l = if lock = some l then some handle.address else m.locks.find l) :
    Exact m' := by
  have hother : ∀ h' e, m.entry h' = some e → h'.address ≠ handle.address := by
    intro h' e he heq
    have hcount := h.held h' e he
    rw [h.key h' e he, heq, List.count_eq_zero_of_not_mem hfresh] at hcount
    cases hcount
  refine { key := ?key, unique := ?unique, remote := ?remote, held := ?held, stored := ?stored,
           lock := ?lock, locked := ?locked }
  case key =>
    intro h' e he
    rw [hentry] at he
    split at he
    · rename_i heq
      cases he
      rw [heq]
    · exact h.key h' e he
  case unique =>
    intro h' h'' e e' he he' haddress
    rw [hentry] at he he'
    split at he <;> split at he'
    · rename_i heq heq'
      rw [heq, heq']
    · rename_i heq _
      exact absurd (heq ▸ haddress).symm (hother h'' e' he')
    · rename_i heq
      exact absurd (heq ▸ haddress) (hother h' e he)
    · exact h.unique h' h'' e e' he he' haddress
  case remote =>
    intro h' e he
    rw [hentry] at he
    split at he
    · cases he
      rfl
    · exact h.remote h' e he
  case held =>
    intro h' e he
    rw [hentry] at he
    rw [hreferences]
    split at he
    · cases he
      rw [List.count_cons_self, List.count_eq_zero_of_not_mem hfresh]
    · rw [List.count_cons_of_ne, h.held h' e he]
      rw [h.key h' e he]
      exact (hother h' e he).symm
  case stored =>
    intro a ha
    rw [hreferences, List.mem_cons] at ha
    rcases ha with rfl | ha
    · exact ⟨handle, _, by rw [hentry, if_pos rfl], rfl⟩
    · obtain ⟨h', e, he, hobject⟩ := h.stored a ha
      refine ⟨h', e, ?_, hobject⟩
      rw [hentry, if_neg, he]
      rintro rfl
      rw [hnone] at he
      cases he
  case lock =>
    intro h' l hl
    rw [hlock] at hl
    rw [hlocks]
    split at hl
    · rename_i heq
      rw [if_pos hl, heq]
    · rw [if_neg, h.lock h' l hl]
      intro heq
      have hunlocked := hnew l heq
      rw [h.lock h' l hl] at hunlocked
      cases hunlocked
  case locked =>
    intro l a hl
    rw [hlocks] at hl
    rw [hlock]
    split at hl
    · rename_i heq
      cases hl
      have hmutex : handle = .mutex handle.address := by
        cases handle with
        | mutex a => rfl
        | comm a => rw [heq] at hsome; cases hsome
        | conditionVariable a => rw [heq] at hsome; cases hsome
      rw [if_pos hmutex.symm, heq]
    · have hlocked := h.locked l a hl
      rw [if_neg, hlocked]
      rintro rfl
      rw [lock_of_entry_eq_none hnone] at hlocked
      cases hlocked

/-- An entry goes, with the only reference on its object and for a mutex with its lock. -/
theorem Exact.released_entry {m m' : Memory} {handle : Handle} {entry : Entry} (h : Exact m)
    (he : m.entry handle = some entry) (hone : m.references.count entry.object = 1)
    (hentry : ∀ h', m'.entry h' = if h' = handle then none else m.entry h')
    (hreferences : m'.references = m.references.erase entry.object)
    (hlock : ∀ h', m'.lock h' = if h' = handle then none else m.lock h')
    (hlocks : ∀ l, m'.locks.find l = if m.lock handle = some l then none else m.locks.find l) :
    Exact m' := by
  have hother : ∀ h' e, m.entry h' = some e → h' ≠ handle → e.object ≠ entry.object := by
    intro h' e he' hne heq
    rw [h.key h' e he', h.key handle entry he] at heq
    exact hne (h.unique h' handle e entry he' he heq)
  refine { key := ?key, unique := ?unique, remote := ?remote, held := ?held, stored := ?stored,
           lock := ?lock, locked := ?locked }
  case key =>
    intro h' e he'
    rw [hentry] at he'
    split at he'
    · cases he'
    · exact h.key h' e he'
  case unique =>
    intro h' h'' e e' he' he'' haddress
    rw [hentry] at he' he''
    split at he'
    · cases he'
    · split at he''
      · cases he''
      · exact h.unique h' h'' e e' he' he'' haddress
  case remote =>
    intro h' e he'
    rw [hentry] at he'
    split at he'
    · cases he'
    · exact h.remote h' e he'
  case held =>
    intro h' e he'
    rw [hentry] at he'
    rw [hreferences]
    split at he'
    · cases he'
    · rename_i hne
      rw [List.count_erase_of_ne (hother h' e he' hne), h.held h' e he']
  case stored =>
    intro a ha
    rw [hreferences] at ha
    obtain ⟨h', e, he', hobject⟩ := h.stored a (List.mem_of_mem_erase ha)
    refine ⟨h', e, ?_, hobject⟩
    rw [hentry, if_neg, he']
    rintro rfl
    -- the reference that was given back was the only one
    rw [he] at he'
    cases he'
    subst hobject
    have hcount := List.count_pos_iff.mpr ha
    rw [List.count_erase_self, hone] at hcount
    exact absurd hcount (lt_irrefl 0)
  case lock =>
    intro h' l hl
    rw [hlock] at hl
    rw [hlocks]
    split at hl
    · cases hl
    · rename_i hne
      rw [if_neg, h.lock h' l hl]
      intro hl'
      have hboth := (h.lock h' l hl).symm.trans (h.lock handle l hl')
      rw [isMutex_of_lock hl, isMutex_of_lock hl', Option.some.inj hboth] at hne
      exact hne rfl
  case locked =>
    intro l a hl
    rw [hlocks] at hl
    rw [hlock]
    split at hl
    · cases hl
    · rename_i hne
      have hlocked := h.locked l a hl
      rw [if_neg, hlocked]
      rintro rfl
      exact hne hlocked

theorem Exact.step {m m' : Memory} {r : Option (Handle × Entry)} (h : Exact m)
    (hstep : OwnershipStep m m' r) : Exact m' := by
  cases hstep with
  | kept hentry hreferences hlock hlocks =>
      exact
        { key := fun h' e he => h.key h' e (hentry h' ▸ he)
          unique := fun h' h'' e e' he he' => h.unique h' h'' e e' (hentry h' ▸ he) (hentry h'' ▸ he')
          remote := fun h' e he => h.remote h' e (hentry h' ▸ he)
          held := fun h' e he => hreferences ▸ h.held h' e (hentry h' ▸ he)
          stored := by
            intro a ha
            obtain ⟨h', e, he, hobject⟩ := h.stored a (hreferences ▸ ha)
            exact ⟨h', e, (hentry h').trans he, hobject⟩
          lock := fun h' l hl => hlocks ▸ h.lock h' l (hlock h' ▸ hl)
          locked := fun l a hl => (hlock _).trans (h.locked l a (hlocks ▸ hl)) }
  | stored handle lock hnone hfresh hsome hnew hentry hreferences hlock hlocks =>
      exact h.stored_entry hnone hfresh hsome hnew hentry hreferences hlock hlocks
  | released handle entry he hone _ _ hentry hreferences hlock hlocks =>
      exact h.released_entry he hone hentry hreferences hlock hlocks

/-! ### What a step of the SimGrid thread does -/

theorem releasing_eq_some {h : Handle} {e : Entry} (hreleasing : releasing s event = some (h, e)) :
    ∃ p d, Dispatches s event p d ∧ d.type.released = some h ∧ s.memory.entry h = some e ∧
      e.remoteRefCount = 1 := by
  unfold releasing at hreleasing
  split at hreleasing
  · rename_i p d hdispatching
    split at hreleasing
    · rename_i handle hreleased
      split at hreleasing
      · rename_i entry hentry
        split at hreleasing
        · rename_i hone
          cases hreleasing
          exact ⟨p, d, dispatches_of_dispatching hdispatching, hreleased, hentry, hone⟩
        · cases hreleasing
      · cases hreleasing
    · cases hreleasing
  · cases hreleasing

theorem releasing_of_dispatches {p : Pid} {d : Decision} {h : Handle} {e : Entry}
    (hd : Dispatches s event p d) (hreleased : d.type.released = some h)
    (he : s.memory.entry h = some e) (hone : e.remoteRefCount = 1) :
    releasing s event = some (h, e) := by
  simp only [releasing, hd.eq_dispatching, hreleased, he, if_pos hone]

/-- A step that releases an entry does nothing else to the memory. -/
theorem memory_of_releasing {h : Handle} {e : Entry}
    (hstep : simulationStep K s event = some (t, out))
    (hreleasing : releasing s event = some (h, e)) : t.memory = s.memory.free h := by
  obtain ⟨p, d, hd, hreleased, he, hone⟩ := releasing_eq_some hreleasing
  obtain ⟨actor, -, heq⟩ := simulationStep_dispatch (simulationStep_cases hstep).1 hd
  rw [hstep, Option.some.injEq] at heq
  obtain ⟨segment, hswitched, hdispatch⟩ := dispatch_eq K s.kernel p d s.memory
  rw [hswitched.eq_free hreleased he hone] at hdispatch
  rw [hdispatch] at heq
  exact congrArg (fun result => result.1.memory) heq

theorem lock_free (m : Memory) (h h' : Handle) :
    (m.free h).lock h' = if h' = h then none else m.lock h' := by
  cases h with
  | comm a =>
      cases hfind : m.store.comms.find a <;> cases h' <;>
        simp [Memory.free, hfind, Memory.lock, Memory.intrusivePtrRelease]
  | conditionVariable a =>
      cases hfind : m.store.conditionVariables.find a <;> cases h' <;>
        simp [Memory.free, hfind, Memory.lock, Memory.intrusivePtrRelease]
  | mutex a =>
      cases hfind : m.store.mutexes.find a with
      | none =>
          have hfree : m.free (.mutex a) = m := by simp only [Memory.free, hfind]
          rw [hfree]
          split
          · rename_i heq
            rw [heq, Memory.lock, hfind, Option.map_none]
          · rfl
      | some mutex =>
          cases h' <;>
            simp [Memory.free, hfind, Memory.lock, UnorderedMap.find_erase, Memory.intrusivePtrRelease]
          split <;> simp

theorem locks_free (m : Memory) {h : Handle} {e : Entry} (he : m.entry h = some e) (l : Ptr) :
    (m.free h).locks.find l = if m.lock h = some l then none else m.locks.find l := by
  cases h with
  | comm a =>
      obtain ⟨comm, hfind, -⟩ := Option.map_eq_some_iff.mp he
      simp [Memory.free, hfind, Memory.lock, Memory.intrusivePtrRelease]
  | conditionVariable a =>
      obtain ⟨cv, hfind, -⟩ := Option.map_eq_some_iff.mp he
      simp [Memory.free, hfind, Memory.lock, Memory.intrusivePtrRelease]
  | mutex a =>
      obtain ⟨mutex, hfind, -⟩ := Option.map_eq_some_iff.mp he
      simp only [Memory.free, hfind, Memory.lock, Memory.intrusivePtrRelease, UnorderedMap.find_erase,
        Option.map_some, Option.some.injEq]
      simp only [eq_comm]

theorem Exact.released {m : Memory} (h : Exact m) {handle : Handle} {e : Entry}
    (he : m.entry handle = some e) : OwnershipStep m (m.free handle) (some (handle, e)) :=
  .released handle e he (h.held handle e he) (isSome_lock he) (h.lock handle) (m.entry_free handle)
    (m.references_free he) (lock_free m handle) (locks_free m he)

theorem lock_eq_of_store {m m' : Memory} (hstore : m'.store = m.store) (h : Handle) :
    m'.lock h = m.lock h := by
  cases h <;> simp only [Memory.lock, hstore]

/-- Every step is one of the cases of `OwnershipStep`. -/
theorem StoreInv.ownershipStep (h : StoreInv s) (hexact : Exact s.memory)
    (hstep : simulationStep K s event = some (t, out)) :
    OwnershipStep s.memory t.memory (releasing s event) := by
  rcases hreleasing : releasing s event with _ | ⟨handle, e⟩
  · obtain ⟨p, hchange⟩ := (simulationStep_cases hstep).2.change
    generalize t.memory = m at hchange
    cases hchange with
    | same _ hstore hreferences hlocks _ =>
        exact .kept (entry_eq_of_store hstore) hreferences (lock_eq_of_store hstore) hlocks
    | freed d handle e hd hreleased he hone =>
        rw [releasing_of_dispatches hd hreleased he hone] at hreleasing
        cases hreleasing
    | decreased d handle e hd hreleased he hne =>
        exact absurd (h.owned.entry handle e he).2.2.2.1 hne
    | taken address buffer payload =>
        refine .kept (Memory.entry_takePayload _ _ _ _) rfl ?_ rfl
        intro handle
        cases handle <;> rfl
    | insertedComm address comm frame hcreated hcomm hnode hcount hnone =>
        obtain ⟨actor, _, _, hfind, hpoint⟩ := hcreated
        obtain ⟨-, hfresh⟩ := h.unstored.fresh p actor frame address hfind hpoint
        subst hcomm
        have hentry : comm.entry = ⟨s.memory.next, comm.comm, 1⟩ := by
          rw [StoredComm.entry, hnode, hcount]
        refine .stored (.comm comm.comm) none (h.owned.entry_eq_none _ hfresh) hfresh rfl
          (fun _ h => by cases h) ?_ rfl ?_ (fun _ => rfl)
        · intro handle
          rw [Memory.entry_insertComm _ comm hnone, hentry]
          rfl
        · intro handle
          cases handle with
          | mutex a => rfl
          | comm a => exact (ite_self _).symm
          | conditionVariable a => rfl
    | insertedMutex address frame hcreated =>
        obtain ⟨actor, _, _, hfind, hpoint⟩ := hcreated
        obtain ⟨-, hfresh⟩ := h.unstored.fresh p actor frame address hfind hpoint
        have hnone : s.memory.store.mutexes.find address = none :=
          Option.map_eq_none_iff.mp (h.owned.entry_eq_none (.mutex address) hfresh)
        have hfreshLock : s.memory.locks.find (s.memory.next + 1) = none := by
          by_contra hsome
          exact absurd (h.owned.locks _ hsome) (Nat.not_lt.mpr (Nat.le_succ _))
        refine .stored (.mutex address) (some (s.memory.next + 1)) (h.owned.entry_eq_none _ hfresh)
          hfresh rfl ?_ ?_ rfl ?_ ?_
        · intro l hl
          cases hl
          exact hfreshLock
        · intro handle
          rw [Memory.entry_insertMutex _
            { mutex := address, lock := s.memory.next + 1, node := s.memory.next } hnone]
          rfl
        · intro handle
          cases handle with
          | comm a => rfl
          | conditionVariable a => rfl
          | mutex a =>
              simp only [Memory.lock, Memory.insertMutex, Memory.intrusivePtrAddRef,
                UnorderedMap.find_insert, hnone, and_true, Handle.mutex.injEq]
              split <;> rfl
        · intro l
          simp only [Memory.insertMutex, Memory.intrusivePtrAddRef, UnorderedMap.find_insert,
            hfreshLock, and_true, Option.some.injEq, Handle.address, eq_comm]
    | insertedConditionVariable address frame hcreated =>
        obtain ⟨actor, _, _, hfind, hpoint⟩ := hcreated
        obtain ⟨-, hfresh⟩ := h.unstored.fresh p actor frame address hfind hpoint
        have hnone : s.memory.store.conditionVariables.find address = none :=
          Option.map_eq_none_iff.mp (h.owned.entry_eq_none (.conditionVariable address) hfresh)
        refine .stored (.conditionVariable address) none (h.owned.entry_eq_none _ hfresh) hfresh rfl
          (fun _ h => by cases h) ?_ rfl ?_ (fun _ => rfl)
        · intro handle
          rw [Memory.entry_insertConditionVariable _
            { conditionVariable := address, node := s.memory.next } hnone]
          rfl
        · intro handle
          cases handle with
          | mutex a => rfl
          | comm a => rfl
          | conditionVariable a => exact (ite_self _).symm
  · rw [memory_of_releasing hstep hreleasing]
    obtain ⟨-, -, -, -, he, -⟩ := releasing_eq_some hreleasing
    exact hexact.released he

/-! ### Whole runs -/

/-- The insertion of a new object succeeds: no object is stored under its address, and the handler
ends with an acknowledgment. -/
def StoresNew (s : Simulation K) (event : SimEvent K) (t : Simulation K) : Prop :=
  ∀ p actor a frame h, event = .schedule p → s.actors.find p = some actor →
    actor.point = .returned (.address a) frame → frame.stores a = some h →
    s.memory.entry h = none ∧ t.memory.entry h = some ⟨s.memory.next, a, 1⟩ ∧
      t.point p = some .reading

/-- No two steps of a run release the same entry. The `node` of an entry is its allocation. -/
def ReleasedOnce (s : Simulation K) (events : List (SimEvent K)) : Prop :=
  ∀ first event second event' rest t u trace trace' h e h' e',
    events = first ++ event :: second ++ event' :: rest → Run (simulationStep K) s first t trace →
    Run (simulationStep K) s (first ++ event :: second) u trace' →
    releasing t event = some (h, e) → releasing u event' = some (h', e') → e.node ≠ e'.node

theorem StoreInv.storesNew (h : StoreInv s) (hstep : simulationStep K s event = some (t, out)) :
    StoresNew s event t := by
  rintro p actor a frame handle rfl hfind hpoint hstores
  obtain ⟨-, hfresh⟩ := h.unstored.fresh p actor frame a hfind hpoint
  have haddress : handle.address = a := by
    cases frame <;> cases hstores <;> rfl
  have hnone : s.memory.entry handle = none := h.owned.entry_eq_none handle (haddress ▸ hfresh)
  refine ⟨hnone, ?_⟩
  obtain ⟨-, hcases⟩ := simulationStep_cases hstep
  cases hcases with
  | started _ actor' _ hfind' hpoint' =>
      rw [hfind, Option.some.injEq] at hfind'
      rw [← hfind', hpoint] at hpoint'
      cases hpoint'
  | ran _ q socket segment hran =>
      have hreading : p = q → ∀ {ack : DecisionAck} {m : Memory}, segment = .answer m ack →
          (({ s with ready := SimEvent.remaining (.schedule p : SimEvent K) s.ready }).conclude q socket
            segment).1.point p = some .reading := by
        rintro rfl ack m rfl
        rw [hran.points, if_pos rfl]
        rfl
      cases hran with
      | firstYield _ actor' _ _ hfind' hpoint' =>
          rw [hfind, Option.some.injEq] at hfind'
          rw [← hfind', hpoint] at hpoint'
          cases hpoint'
      | resumed _ actor' ret frame' _ _ hfind' hpoint' hresumed =>
          rw [hfind, Option.some.injEq] at hfind'
          rw [← hfind', hpoint] at hpoint'
          cases hpoint'
          cases hresumed with
          | mailboxPutAsync address hframe hret hfree =>
              cases hret
              subst hframe
              cases hstores
              refine ⟨?_, hreading rfl rfl⟩
              exact (Memory.entry_insertComm _ { comm := a, node := s.memory.next } hfree
                (.comm a)).trans (if_pos rfl)
          | mailboxGetAsync receptionBuffer address hframe hret hfree =>
              cases hret
              subst hframe
              cases hstores
              refine ⟨?_, hreading rfl rfl⟩
              exact (Memory.entry_insertComm _
                { comm := a, receptionBuffer := some receptionBuffer, node := s.memory.next } hfree
                (.comm a)).trans (if_pos rfl)
          | existingComm address what hframe hret hsome =>
              cases hret
              rcases hframe with rfl | ⟨receptionBuffer, rfl⟩ <;> cases hstores <;>
                exact absurd (Option.map_eq_none_iff.mp hnone) hsome
          | mutexCreate address hframe hret =>
              cases hret
              subst hframe
              cases hstores
              refine ⟨?_, hreading rfl rfl⟩
              exact (Memory.entry_insertMutex _
                { mutex := a, lock := s.memory.next + 1, node := s.memory.next }
                (Option.map_eq_none_iff.mp hnone) (.mutex a)).trans (if_pos rfl)
          | conditionVariableCreate address hframe hret =>
              cases hret
              subst hframe
              cases hstores
              refine ⟨?_, hreading rfl rfl⟩
              exact (Memory.entry_insertConditionVariable _
                { conditionVariable := a, node := s.memory.next }
                (Option.map_eq_none_iff.mp hnone) (.conditionVariable a)).trans (if_pos rfl)
          | _ => simp_all [S4uReturn.isException, Frame.stores, Frame.plain]

/-- An allocation that no entry has and that no entry will have. -/
def Gone (node : Ptr) (m : Memory) : Prop :=
  node < m.next ∧ ∀ h e, m.entry h = some e → e.node ≠ node

theorem Gone.step {m m' : Memory} {r : Option (Handle × Entry)} {node : Ptr} (h : Gone node m)
    (hstep : OwnershipStep m m' r) (hnext : m.next ≤ m'.next) : Gone node m' := by
  refine ⟨lt_of_lt_of_le h.1 hnext, ?_⟩
  intro handle e he
  cases hstep with
  | kept hentry => exact h.2 handle e (hentry handle ▸ he)
  | stored handle' lock _ _ _ _ hentry =>
      rw [hentry] at he
      split at he
      · cases he
        exact (ne_of_lt h.1).symm
      · exact h.2 handle e he
  | released handle' e' _ _ _ _ hentry =>
      rw [hentry] at he
      split at he
      · cases he
      · exact h.2 handle e he

/-- An entry that a step releases is gone. -/
theorem StoreInv.gone (h : StoreInv s) (hexact : Exact s.memory)
    (hstep : simulationStep K s event = some (t, out)) {handle : Handle} {e : Entry}
    (hreleasing : releasing s event = some (handle, e)) : Gone e.node t.memory := by
  obtain ⟨-, -, -, -, he, -⟩ := releasing_eq_some hreleasing
  refine ⟨lt_of_lt_of_le (h.owned.entry handle e he).2.2.2.2 (simulationStep_cases hstep).2.next, ?_⟩
  intro handle' e' he' heq
  have hcases := h.ownershipStep hexact hstep
  rw [hreleasing] at hcases
  cases hcases with
  | released _ _ _ _ _ _ hentry =>
      rw [hentry] at he'
      split at he'
      · cases he'
      · rename_i hne
        exact hne (h.owned.unique handle' handle e' e he' he (Or.inr heq))

theorem Exact.spawn (connections : List ActorConnection) :
    Exact (Simulation.spawn K connections).memory where
  key h e he := by cases h <;> cases he
  unique h h' e e' he := by cases h <;> cases he
  remote h e he := by cases h <;> cases he
  held h e he := by cases h <;> cases he
  stored a ha := by cases ha
  lock h lock hlock := by cases h <;> cases hlock
  locked lock a hlock := by cases hlock

section

variable {connections : List ActorConnection} {events : List (SimEvent K)}

theorem exact_run (hrun : Run (simulationStep K) (Simulation.spawn K connections) events s out)
    (hfresh : Throughout (simulationStep K) FreshAddress (Simulation.spawn K connections) events) :
    StoreInv s ∧ Exact s.memory :=
  hrun.guarded_invariant (P := fun _ s _ => StoreInv s ∧ Exact s.memory) hfresh
    ⟨StoreInv.spawn connections, Exact.spawn connections⟩
    (fun _ hinv hevent hstep =>
      ⟨hinv.1.step hevent (simulationStep_cases hstep).2,
        hinv.2.step (hinv.1.ownershipStep hinv.2 hstep)⟩)

theorem gone_run {first second : List (SimEvent K)} {t u : Simulation K} {trace trace' : List SimOutput}
    (hfresh : Throughout (simulationStep K) FreshAddress (Simulation.spawn K connections)
      (first ++ event :: second))
    (hfirst : Run (simulationStep K) (Simulation.spawn K connections) first t trace)
    (hsecond : Run (simulationStep K) (Simulation.spawn K connections) (first ++ event :: second) u
      trace') {h : Handle} {e : Entry} (hreleasing : releasing t event = some (h, e)) :
    Gone e.node u.memory := by
  induction second using List.reverseRecOn generalizing u trace' with
  | nil =>
      obtain ⟨t', trace₁, out₁, hfirst', hstep, -⟩ := hsecond.snoc_inv
      obtain ⟨rfl, -⟩ := hfirst.unique hfirst'
      obtain ⟨hstore, hexact⟩ := exact_run hfirst hfresh.before
      exact hstore.gone hexact hstep hreleasing
  | append_singleton second event' ih =>
      rw [← List.cons_append, ← List.append_assoc] at hsecond hfresh
      obtain ⟨v, trace₁, out₁, hbefore, hstep, -⟩ := hsecond.snoc_inv
      obtain ⟨hstore, hexact⟩ := exact_run hbefore hfresh.before
      exact (ih hfresh.before hbefore).step (hstore.ownershipStep hexact hstep)
        (simulationStep_cases hstep).2.next

/-- The server owns exactly what it stores. At every moment it holds one reference to each stored
object and none to any other, and one lock for each stored mutex; each step of it stores a new object,
releases an entry with its only reference and its lock, or leaves all of this alone; no entry is
released twice; and the insertion of a new object is never refused. -/
theorem refcountStore_owned
    (hrun : Run (simulationStep K) (Simulation.spawn K connections) events s out)
    (hfresh : Throughout (simulationStep K) FreshAddress (Simulation.spawn K connections) events) :
    Always (simulationStep K) (fun t _ => Exact t.memory) (Simulation.spawn K connections) events ∧
      EveryStep (simulationStep K)
        (fun t event u _ =>
          OwnershipStep t.memory u.memory (releasing t event) ∧ StoresNew t event u)
        (Simulation.spawn K connections) events ∧
      ReleasedOnce (Simulation.spawn K connections) events := by
  refine ⟨?_, ?_, ?_⟩
  · intro before after t trace heq hbefore
    subst heq
    exact (exact_run hbefore hfresh.before).2
  · intro before event after t trace u out heq hbefore hstep
    subst heq
    obtain ⟨hstore, hexact⟩ := exact_run hbefore hfresh.before
    exact ⟨hstore.ownershipStep hexact hstep, hstore.storesNew hstep⟩
  · intro first event second event' rest t u trace trace' h e h' e' heq hfirst hsecond hreleasing
      hreleasing'
    have hgone : Gone e.node u.memory := by
      refine gone_run ?_ hfirst hsecond hreleasing
      rw [heq, show first ++ event :: second ++ event' :: rest =
        (first ++ event :: second) ++ event' :: rest by simp] at hfresh
      exact hfresh.before
    obtain ⟨-, -, -, -, he', -⟩ := releasing_eq_some hreleasing'
    exact (hgone.2 h' e' he').symm

end

/-- Two actors create a mutex and a comm, and release them among handles that do not exist; the
address of the released comm is used again. -/
def recycledEvents : List (SimEvent permissiveS4u) :=
  [.schedule 2, .decision { type := .mutexCreate true }, .serve 2 (.address 100), .schedule 3,
    .decision { type := .mailboxGetAsync { name := "mailbox" } }, .schedule 2,
    .decision { type := .commRefcountDecrease { address := 200 } },
    .decision { type := .thisActorYield true }, .serve 3 (.address 200), .schedule 3,
    .decision { type := .commRefcountDecrease { address := 200 } },
    .decision { type := .commRefcountDecrease { address := 200 } },
    .decision { type := .mailboxPutAsync { mailbox := { name := "mailbox" }, data := [1] } },
    .serve 3 (.address 200), .schedule 3,
    .decision { type := .mutexRefcountDecrease { address := 100 } },
    .decision { type := .commRefcountDecrease { address := 200 } }]

theorem refcountStore_owned_recycled :
    ∃ s out, Run (simulationStep permissiveS4u)
      (Simulation.spawn permissiveS4u [{ actorId := 2 }, { actorId := 3 }]) recycledEvents s out ∧
      s.memory.references = [] ∧ Exact s.memory ∧
      ReleasedOnce (Simulation.spawn permissiveS4u [{ actorId := 2 }, { actorId := 3 }])
        recycledEvents := by
  have hexec : (exec (simulationStep permissiveS4u)
      (Simulation.spawn permissiveS4u [{ actorId := 2 }, { actorId := 3 }]) recycledEvents).any
      (fun result => result.1.memory.references.isEmpty) = true := by
    decide +kernel
  obtain ⟨s, out, hrun, hcheck⟩ := Run.of_check hexec
  obtain ⟨halways, -, honce⟩ :=
    refcountStore_owned hrun (Throughout.of_check (by decide +kernel))
  exact ⟨s, out, hrun, List.isEmpty_iff.mp hcheck,
    halways recycledEvents [] s out (by simp) hrun, honce⟩

end RemoteSimgrid
