import Mathlib.Data.Finset.Image
import RemoteSimgrid.Interthread
import RemoteSimgrid.LibraryFdSet
import RemoteSimgrid.LibraryPollSet

/-! `rsg::Selector`: two `fd_set` and the largest descriptor that was ever added. It refines a set that is
polled, as long as its callers pass descriptors that an `fd_set` can hold. -/

namespace RemoteSimgrid

/-- `FD_SETSIZE`. -/
def fdSetSize : Nat := 1024

/-- A descriptor that an `fd_set` can hold. -/
def InFdSet (fd : Int) : Prop := 0 ≤ fd ∧ fd < fdSetSize

instance (fd : Int) : Decidable (InFdSet fd) := inferInstanceAs (Decidable (_ ∧ _))

structure Selector where
  registeredSockets : FdSet fdSetSize := .zero
  readableSockets : FdSet fdSetSize := .zero
  maxFd : Int := -1

/-- What the system answers to `::select`: -1, with whatever it leaves in the set, or the number of the
descriptors that it keeps in the set, which are those that are ready. -/
inductive SelectResult where
  | failed (errno : String) (left : FdSet fdSetSize)
  | ready (fds : FdSet fdSetSize)
  deriving DecidableEq

/-- The arguments of `::select`. -/
structure SelectCall where
  nfds : Int
  readfds : FdSet fdSetSize
  timeout : Option (Int × Int)

/-- The descriptors that the system looks at. -/
def SelectCall.Polls (call : SelectCall) (fd : Int) : Prop :=
  call.readfds.isSet fd.toNat = true ∧ fd < call.nfds

namespace Selector

variable (s : Selector)

def add (fd : Int) : Selector :=
  { s with
    registeredSockets := s.registeredSockets.set fd.toNat
    maxFd := max s.maxFd fd }

def remove (fd : Int) : Selector :=
  { s with registeredSockets := s.registeredSockets.clr fd.toNat }

/-- The call that `wait_any_readable` makes. -/
def selectCall (timeoutMs : Int) : SelectCall :=
  { nfds := s.maxFd + 1
    readfds := s.registeredSockets
    timeout := if timeoutMs ≥ 0 then some (timeoutMs.tdiv 1000, timeoutMs.tmod 1000 * 1000) else none }

def waitAnyReadable (timeoutMs : Int) (result : SelectResult) : Selector × Except Error Bool :=
  let call := s.selectCall timeoutMs
  match result with
  | .failed errno left =>
      ({ s with readableSockets := left }, .error ⟨s!"Cannot select: {errno}"⟩)
  | .ready fds =>
      let readable := call.readfds.select call.nfds.toNat fds
      ({ s with readableSockets := readable }, .ok (0 < readable.count))

def isReadable (fd : Int) : Bool := s.readableSockets.isSet fd.toNat

end Selector

/-- The operations of the callers. -/
inductive SelectorOp where
  | add (fd : Int)
  | remove (fd : Int)
  | wait (timeoutMs : Int) (result : SelectResult)
  deriving DecidableEq

namespace SelectorOp

/-- The descriptor passed is in range. -/
def InRange : SelectorOp → Prop
  | add fd => InFdSet fd
  | remove fd => InFdSet fd
  | wait _ _ => True

instance (op : SelectorOp) : Decidable op.InRange :=
  match op with
  | add fd => inferInstanceAs (Decidable (InFdSet fd))
  | remove fd => inferInstanceAs (Decidable (InFdSet fd))
  | wait _ _ => .isTrue trivial

def isWait : SelectorOp → Bool
  | wait _ _ => true
  | _ => false

/-- The descriptors in a set. -/
def descriptors (set : FdSet fdSetSize) : Finset Int :=
  ((List.range fdSetSize).filter set.isSet).toFinset.image Int.ofNat

/-- The operation on a set that is polled. -/
def abstract : SelectorOp → PollOp Int
  | add fd => .add fd
  | remove fd => .remove fd
  | wait _ (.ready fds) => .poll (some (descriptors fds))
  | wait _ (.failed _ _) => .poll none

end SelectorOp

namespace Selector

def apply (s : Selector) : SelectorOp → Selector
  | .add fd => s.add fd
  | .remove fd => s.remove fd
  | .wait timeoutMs result => (s.waitAnyReadable timeoutMs result).1

/-- The selector after a sequence of operations. -/
def after (ops : List SelectorOp) : Selector := ops.foldl apply {}

@[simp] theorem after_snoc (ops : List SelectorOp) (op : SelectorOp) :
    after (ops ++ [op]) = (after ops).apply op := by
  rw [after, List.foldl_append]
  rfl

/-- The two bit sets and the maximum stand for a set that is polled. -/
structure Refines (s : Selector) (p : PollSet Int) : Prop where
  registered : ∀ fd, InFdSet fd → (s.registeredSockets.isSet fd.toNat = true ↔ fd ∈ p.registered)
  inRange : ∀ fd ∈ p.registered, InFdSet fd
  maxFd : ∀ fd ∈ p.registered, fd ≤ s.maxFd
  reported : ∀ fds, p.reported = some fds →
    ∀ fd, InFdSet fd → (s.isReadable fd = true ↔ fd ∈ fds)

theorem mem_descriptors {set : FdSet fdSetSize} {fd : Int} (hfd : InFdSet fd) :
    fd ∈ SelectorOp.descriptors set ↔ set.isSet fd.toNat = true := by
  obtain ⟨hpos, hlt⟩ := hfd
  simp only [SelectorOp.descriptors, Finset.mem_image, List.mem_toFinset, List.mem_filter,
    List.mem_range]
  constructor
  · rintro ⟨k, ⟨-, hset⟩, rfl⟩
    exact hset
  · intro hset
    exact ⟨fd.toNat, ⟨by omega, hset⟩, Int.toNat_of_nonneg hpos⟩

theorem toNat_eq_iff {fd other : Int} (hfd : InFdSet fd) (hother : InFdSet other) :
    fd.toNat = other.toNat ↔ fd = other := by
  obtain ⟨hpos, -⟩ := hfd
  obtain ⟨hpos', -⟩ := hother
  omega

theorem Refines.init : Refines {} {} where
  registered fd _ := by simp
  inRange fd hfd := by simp at hfd
  maxFd fd hfd := by simp at hfd
  reported fds h fd _ := by
    cases h
    simp [isReadable]

variable {s : Selector} {p : PollSet Int}

/-- What `wait_any_readable` leaves readable. -/
theorem Refines.isReadable_select (h : Refines s p) {fds : FdSet fdSetSize} {timeoutMs fd : Int}
    (hfd : InFdSet fd) :
    (s.waitAnyReadable timeoutMs (.ready fds)).1.isReadable fd = true ↔
      fd ∈ p.registered ∩ SelectorOp.descriptors fds := by
  simp only [waitAnyReadable, isReadable, selectCall, FdSet.isSet_select, Finset.mem_inter,
    mem_descriptors hfd, h.registered fd hfd]
  constructor
  · rintro ⟨hregistered, hready, -⟩
    exact ⟨hregistered, hready⟩
  · rintro ⟨hregistered, hready⟩
    have hmax := h.maxFd fd hregistered
    obtain ⟨hpos, -⟩ := hfd
    exact ⟨hregistered, hready, by omega⟩

/-- Every operation on the selector is that on the set. -/
theorem Refines.apply (h : Refines s p) {op : SelectorOp} (hop : op.InRange) :
    Refines (s.apply op) (p.apply op.abstract) := by
  cases op with
  | add new =>
      have hnew : new.toNat < fdSetSize := by
        obtain ⟨hpos, hlt⟩ := hop
        omega
      exact
        { registered := fun fd hfd => by
            rw [Selector.apply, Selector.add, FdSet.isSet_set hnew, toNat_eq_iff hfd hop,
              h.registered fd hfd]
            exact Finset.mem_insert.symm
          inRange := fun fd hfd => by
            rcases Finset.mem_insert.mp hfd with rfl | hfd
            · exact hop
            · exact h.inRange fd hfd
          maxFd := fun fd hfd => by
            rcases Finset.mem_insert.mp hfd with rfl | hfd
            · exact le_max_right _ _
            · exact (h.maxFd fd hfd).trans (le_max_left _ _)
          reported := h.reported }
  | remove old =>
      exact
        { registered := fun fd hfd => by
            rw [Selector.apply, Selector.remove, FdSet.isSet_clr, Ne, toNat_eq_iff hfd hop,
              h.registered fd hfd]
            exact Finset.mem_erase.symm
          inRange := fun fd hfd => h.inRange fd (Finset.mem_of_mem_erase hfd)
          maxFd := fun fd hfd => h.maxFd fd (Finset.mem_of_mem_erase hfd)
          reported := h.reported }
  | wait timeoutMs result =>
      cases result with
      | failed errno left =>
          exact
            { registered := h.registered
              inRange := h.inRange
              maxFd := h.maxFd
              reported := fun fds hfds => by cases hfds }
      | ready ready =>
          exact
            { registered := h.registered
              inRange := h.inRange
              maxFd := h.maxFd
              reported := fun fds hfds fd hfd => by
                cases hfds
                exact h.isReadable_select hfd }

/-- The selector is in accord with the operations of its callers. -/
theorem refines_after {ops : List SelectorOp} (hops : ∀ op ∈ ops, op.InRange) :
    Refines (after ops) (PollSet.after (ops.map SelectorOp.abstract)) := by
  induction ops using List.reverseRecOn with
  | nil => exact Refines.init
  | append_singleton ops op ih =>
      rw [after_snoc, List.map_append, List.map_singleton, PollSet.after_snoc]
      exact (ih fun op hop => hops op (List.mem_append_left _ hop)).apply
        (hops op (List.mem_append_right _ (List.mem_singleton_self op)))

/-- Added by an operation that no removal follows. -/
def Registered (ops : List SelectorOp) (fd : Int) : Prop :=
  ∃ before rest, ops = before ++ .add fd :: rest ∧ .remove fd ∉ rest

theorem abstract_eq_add {op : SelectorOp} {fd : Int} : op.abstract = .add fd ↔ op = .add fd := by
  cases op with
  | wait timeoutMs result => cases result <;> simp [SelectorOp.abstract]
  | _ => simp [SelectorOp.abstract]

theorem abstract_eq_remove {op : SelectorOp} {fd : Int} :
    op.abstract = .remove fd ↔ op = .remove fd := by
  cases op with
  | wait timeoutMs result => cases result <;> simp [SelectorOp.abstract]
  | _ => simp [SelectorOp.abstract]

theorem isPoll_abstract (op : SelectorOp) : op.abstract.isPoll = op.isWait := by
  cases op with
  | wait timeoutMs result => cases result <;> rfl
  | _ => rfl

theorem added_abstract {ops : List SelectorOp} {fd : Int} :
    PollSet.Added (ops.map SelectorOp.abstract) fd ↔ Registered ops fd := by
  constructor
  · rintro ⟨first, second, heq, hnot⟩
    obtain ⟨before, after, rfl, rfl, hafter⟩ := List.map_eq_append_iff.mp heq
    obtain ⟨op, rest, rfl, hop, rfl⟩ := List.map_eq_cons_iff.mp hafter
    rw [abstract_eq_add.mp hop]
    exact ⟨before, rest, rfl, fun hremove => hnot (List.mem_map.mpr ⟨_, hremove, rfl⟩)⟩
  · rintro ⟨before, rest, rfl, hnot⟩
    refine ⟨before.map SelectorOp.abstract, rest.map SelectorOp.abstract, ?_, ?_⟩
    · rw [List.map_append, List.map_cons, SelectorOp.abstract]
    · intro hremove
      obtain ⟨op, hop, heq⟩ := List.mem_map.mp hremove
      exact hnot (abstract_eq_remove.mp heq ▸ hop)

theorem mem_registered_abstract {ops : List SelectorOp} {fd : Int} :
    fd ∈ (PollSet.after (ops.map SelectorOp.abstract)).registered ↔ Registered ops fd :=
  PollSet.mem_registered_after.trans added_abstract

theorem isPoll_map_abstract {ops : List SelectorOp} (h : ∀ op ∈ ops, op.isWait = false) :
    ∀ op ∈ ops.map SelectorOp.abstract, op.isPoll = false := by
  intro poll hpoll
  obtain ⟨op, hop, rfl⟩ := List.mem_map.mp hpoll
  rw [isPoll_abstract]
  exact h op hop

/-- Whatever its callers do, the selector polls the descriptors that have been added and not removed
since, and reports those that were registered at the last wait and ready then: none before the first
wait. The result of a wait tells whether there are any. -/
theorem selector_polls_registered (ops : List SelectorOp) (hops : ∀ op ∈ ops, op.InRange) :
    (∀ timeoutMs fd, 0 ≤ fd → (((after ops).selectCall timeoutMs).Polls fd ↔ Registered ops fd)) ∧
    (∀ fd, Registered ops fd → fd ≤ (after ops).maxFd) ∧
    (∀ timeoutMs fds, ∃ found, ((after ops).waitAnyReadable timeoutMs (.ready fds)).2 = .ok found ∧
      (found = true ↔ ∃ fd, Registered ops fd ∧ fds.isSet fd.toNat = true)) ∧
    ((∀ op ∈ ops, op.isWait = false) → ∀ fd, InFdSet fd → (after ops).isReadable fd = false) ∧
    ∀ before timeoutMs fds rest, ops = before ++ .wait timeoutMs (.ready fds) :: rest →
      (∀ op ∈ rest, op.isWait = false) → ∀ fd, InFdSet fd →
        ((after ops).isReadable fd = true ↔ Registered before fd ∧ fds.isSet fd.toNat = true) := by
  have h := refines_after hops
  refine ⟨fun timeoutMs fd hpos => ?_, fun fd hfd => h.maxFd fd (mem_registered_abstract.mpr hfd),
    fun timeoutMs fds => ⟨_, rfl, ?_⟩, fun hnone fd hfd => ?_,
    fun before timeoutMs fds rest heq hrest fd hfd => ?_⟩
  · rw [← mem_registered_abstract]
    constructor
    · rintro ⟨hset, -⟩
      have hlt := FdSet.isSet_lt hset
      exact (h.registered fd ⟨hpos, by omega⟩).mp hset
    · intro hfd
      have hmax := h.maxFd fd hfd
      exact ⟨(h.registered fd (h.inRange fd hfd)).mpr hfd, Int.lt_add_one_of_le hmax⟩
  · have hselect : ∀ fd, InFdSet fd →
        (((after ops).waitAnyReadable timeoutMs (.ready fds)).1.isReadable fd = true ↔
          fd ∈ (PollSet.after (ops.map SelectorOp.abstract)).registered ∩
            SelectorOp.descriptors fds) :=
      fun _ hin => h.isReadable_select hin
    rw [decide_eq_true_eq, FdSet.count_pos_iff]
    constructor
    · rintro ⟨k, hk⟩
      have hin : InFdSet k := ⟨Int.natCast_nonneg k, Int.ofNat_lt.mpr (FdSet.isSet_lt hk)⟩
      obtain ⟨hregistered, hready⟩ := Finset.mem_inter.mp ((hselect k hin).mp hk)
      exact ⟨k, mem_registered_abstract.mp hregistered, (mem_descriptors hin).mp hready⟩
    · rintro ⟨fd, hregistered, hready⟩
      have hmem := mem_registered_abstract.mpr hregistered
      have hin := h.inRange fd hmem
      exact ⟨fd.toNat, (hselect fd hin).mpr
        (Finset.mem_inter.mpr ⟨hmem, (mem_descriptors hin).mpr hready⟩)⟩
  · have hpoll := PollSet.reported_after_of_no_poll (isPoll_map_abstract hnone)
    rw [← Bool.not_eq_true, h.reported _ hpoll fd hfd]
    exact Finset.notMem_empty fd
  · have hpoll : (PollSet.after (before.map SelectorOp.abstract ++
        .poll (some (SelectorOp.descriptors fds)) :: rest.map SelectorOp.abstract)).reported =
          some ((PollSet.after (before.map SelectorOp.abstract)).registered ∩
            SelectorOp.descriptors fds) :=
      PollSet.reported_after_poll (isPoll_map_abstract hrest)
    rw [heq, List.map_append, List.map_cons] at h
    rw [heq, h.reported _ hpoll fd hfd, Finset.mem_inter, mem_registered_abstract,
      mem_descriptors hfd]

/-- Two descriptors are added, the larger one is removed, both become ready, a third one comes. -/
theorem selector_polls_registered_removed :
    (after [.add 4, .add 6, .remove 6, .wait 200 (.ready ((FdSet.zero.set 4).set 6)),
        .add 5]).isReadable 4 = true ∧
      (after [.add 4, .add 6, .remove 6, .wait 200 (.ready ((FdSet.zero.set 4).set 6)),
        .add 5]).isReadable 6 = false := by
  obtain ⟨-, -, -, -, hreadable⟩ := selector_polls_registered
    [.add 4, .add 6, .remove 6, .wait 200 (.ready ((FdSet.zero.set 4).set 6)), .add 5]
    (by decide)
  have hlast := hreadable [.add 4, .add 6, .remove 6] 200 _ [.add 5] rfl (by decide)
  have hready : ((FdSet.zero.set 4).set 6 : FdSet fdSetSize).isSet 4 = true :=
    (FdSet.isSet_set (by decide)).mpr (Or.inr ((FdSet.isSet_set (by decide)).mpr (Or.inl rfl)))
  refine ⟨(hlast 4 (by decide)).mpr ⟨⟨[], [.add 6, .remove 6], rfl, by decide⟩, hready⟩, ?_⟩
  rw [← Bool.not_eq_true, hlast 6 (by decide), ← mem_registered_abstract]
  rintro ⟨hregistered, -⟩
  exact absurd hregistered (by decide)

end Selector

end RemoteSimgrid
