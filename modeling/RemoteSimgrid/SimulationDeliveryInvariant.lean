import RemoteSimgrid.SimulationDelivery

/-! Where the payloads and the reception buffers are. Each payload that is allocated is in one place at
most, each buffer is opened by one comm at most, and SimGrid waits exactly for the buffers that are not
written. -/

namespace RemoteSimgrid

open Machine Pb

/-- Where a payload may be. -/
inductive Place where
  | simgrid
  | buffer (buffer : Ptr)
  | actor (actor : Pid)

/-- Who may use a reception buffer. -/
inductive BufferPlace where
  | comm (address : Address)
  | actor (actor : Pid)

section

variable {K : S4u} (R : Rendezvous K) (k : K.State) (m : Memory) (point : Pid → Option ActorPoint)

def payloadAt : Place → Ptr → Prop
  | .simgrid, x => R.sent k x
  | .buffer b, x => m.buffers.find b = some (some x)
  | .actor p, x => point p = some (.returned (.payload x) .mailboxGet)

def bufferAt : BufferPlace → Ptr → Prop
  | .comm c, b => ∃ comm, m.store.comms.find c = some comm ∧ comm.receptionBuffer = some b
  | .actor p, b => ∃ at', point p = some at' ∧ at'.opened = some b

structure DeliveryInv : Prop where
  awaiting : ∀ b, R.awaiting k b ↔ m.buffers.find b = some none
  strings_lt : ∀ x, m.strings.find x ≠ none → x < m.next
  buffers_lt : ∀ b, m.buffers.find b ≠ none → b < m.next
  payload_live : ∀ place x, payloadAt R k m point place x → m.strings.find x ≠ none
  payload_unique : ∀ place place' x, payloadAt R k m point place x →
    payloadAt R k m point place' x → place = place'
  buffer_live : ∀ place b, bufferAt m point place b → m.buffers.find b ≠ none
  buffer_unique : ∀ place place' b, bufferAt m point place b → bufferAt m point place' b →
    place = place'
  receiving : ∀ c comm b, m.store.comms.find c = some comm → comm.receptionBuffer = some b →
    R.receiving k c = some b
  returned : ∀ p c b, point p = some (.returned (.address c) (.mailboxGetAsync b)) →
    R.receiving k c = some b
  completed : ∀ p ret frame it, point p = some (.returned ret frame) →
    frame.completed ret = some it → ∀ comm b, m.store.comms.find it.address = some comm →
    comm.receptionBuffer = some b → m.buffers.find b ≠ some none
  index : ∀ p index comms pointers, point p = some (.returned (.index index)
    (.commWaitAnyFor comms pointers)) → 0 ≤ index → comms[index.toNat]? ≠ none

end

section

variable {K : S4u} {R : Rendezvous K} {k k' : K.State} {m m' : Memory}
  {point : Pid → Option ActorPoint} {p : Pid} {before after : ActorPoint} {log : List SimOutput}

/-- The state of SimGrid after a segment: the actor may have issued a call. -/
def Issued (K : S4u) (k : K.State) (p : Pid) (after : ActorPoint) (k' : K.State) : Prop :=
  (∃ call frame, after = .calling call frame ∧ k' = K.issue k p call) ∨
    (∀ call frame, after ≠ .calling call frame) ∧ k' = k

theorem Issued.reading : Issued K k p .reading k :=
  Or.inr ⟨fun _ _ heq => (by cases heq), rfl⟩

theorem Issued.sent (h : Issued K k p after k') {x : Ptr} (hsent : R.sent k' x) :
    R.sent k x ∨ ∃ call frame, after = .calling call frame ∧ call.payload = some x := by
  rcases h with ⟨call, frame, hafter, rfl⟩ | ⟨-, rfl⟩
  · exact (R.issue_sent k p call x hsent).imp_right fun hx => ⟨call, frame, hafter, hx⟩
  · exact Or.inl hsent

theorem Issued.awaiting (h : Issued K k p after k') (b : Ptr) :
    R.awaiting k' b ↔ R.awaiting k b ∨ ∃ call frame, after = .calling call frame ∧
      call.buffer = some b := by
  rcases h with ⟨call, frame, rfl, rfl⟩ | ⟨hother, rfl⟩
  · rw [R.issue_awaiting]
    refine or_congr_right ⟨fun hb => ⟨call, frame, rfl, hb⟩, ?_⟩
    rintro ⟨call', frame', heq, hb⟩
    cases heq
    exact hb
  · refine ⟨Or.inl, ?_⟩
    rintro (hb | ⟨call, frame, heq, -⟩)
    · exact hb
    · exact absurd heq (hother call frame)

theorem Issued.receiving (h : Issued K k p after k') : R.receiving k' = R.receiving k := by
  rcases h with ⟨call, frame, -, rfl⟩ | ⟨-, rfl⟩
  · exact R.issue_receiving k p call
  · rfl

/-- Where a payload is after a segment that has put none into a buffer. -/
theorem payloadAt_after (hissued : Issued K k p after k')
    (hafter : ∀ ret frame, after ≠ .returned ret frame)
    (hbuffers : ∀ b x, m'.buffers.find b = some (some x) → m.buffers.find b = some (some x))
    {place : Place} {x : Ptr}
    (h : payloadAt R k' m' (Function.update point p (some after)) place x) :
    place ≠ .actor p ∧ payloadAt R k m point place x ∨
      place = .simgrid ∧ ∃ call frame, after = .calling call frame ∧ call.payload = some x := by
  cases place with
  | simgrid =>
      rcases hissued.sent h with hsent | hcall
      · exact Or.inl ⟨nofun, hsent⟩
      · exact Or.inr ⟨rfl, hcall⟩
  | buffer b => exact Or.inl ⟨nofun, hbuffers b x h⟩
  | actor q =>
      by_cases hq : q = p
      · subst hq
        simp only [payloadAt, Function.update_self, Option.some.injEq] at h
        exact absurd h (hafter _ _)
      · refine Or.inl ⟨fun heq => hq (Place.actor.inj heq), ?_⟩
        simp only [payloadAt, Function.update_of_ne hq] at h
        exact h

/-- Who uses a buffer after a segment that has stored none. -/
theorem bufferAt_after
    (hcomms : ∀ c comm b, m'.store.comms.find c = some comm → comm.receptionBuffer = some b →
      m.store.comms.find c = some comm)
    {place : BufferPlace} {b : Ptr}
    (h : bufferAt m' (Function.update point p (some after)) place b) :
    place ≠ .actor p ∧ bufferAt m point place b ∨ place = .actor p ∧ after.opened = some b := by
  cases place with
  | comm c =>
      obtain ⟨comm, hfind, hb⟩ := h
      exact Or.inl ⟨nofun, comm, hcomms c comm b hfind hb, hb⟩
  | actor q =>
      by_cases hq : q = p
      · subst hq
        obtain ⟨at', hat, hb⟩ := h
        rw [Function.update_self, Option.some.injEq] at hat
        subst hat
        exact Or.inr ⟨rfl, hb⟩
      · obtain ⟨at', hat, hb⟩ := h
        rw [Function.update_of_ne hq] at hat
        exact Or.inl ⟨fun heq => hq (BufferPlace.actor.inj heq), at', hat, hb⟩

/-- The other actors after a segment. -/
theorem point_after (hafter : ∀ ret frame, after ≠ .returned ret frame) {q : Pid} {ret : S4uReturn}
    {frame : Frame} (h : Function.update point p (some after) q = some (.returned ret frame)) :
    point q = some (.returned ret frame) := by
  by_cases hq : q = p
  · subst hq
    rw [Function.update_self, Option.some.injEq] at h
    exact absurd h (hafter ret frame)
  · rwa [Function.update_of_ne hq] at h

/-- A segment that collects nothing. What it allocates, if anything, goes to SimGrid. -/
theorem DeliveryInv.grow (h : DeliveryInv R k m point) (hissued : Issued K k p after k')
    (hstrings : ∀ x, m.strings.find x ≠ none → m'.strings.find x ≠ none)
    (hstrings_lt : ∀ x, m'.strings.find x ≠ none → x < m'.next)
    (hbuffers : ∀ b, m.buffers.find b ≠ none → m'.buffers.find b = m.buffers.find b)
    (hbuffers_lt : ∀ b, m'.buffers.find b ≠ none → b < m'.next)
    (hwritten : ∀ b x, m'.buffers.find b = some (some x) → m.buffers.find b = some (some x))
    (hawaiting : ∀ b, m'.buffers.find b = some none ↔ m.buffers.find b = some none ∨
      ∃ call frame, after = .calling call frame ∧ call.buffer = some b)
    (hcomms : ∀ c comm b, m'.store.comms.find c = some comm → comm.receptionBuffer = some b →
      m.store.comms.find c = some comm)
    (hpayload : ∀ call frame x, after = .calling call frame → call.payload = some x →
      m.strings.find x = none ∧ m'.strings.find x ≠ none)
    (hopened : ∀ b, after.opened = some b → m.buffers.find b = none ∧ m'.buffers.find b ≠ none)
    (hafter : ∀ ret frame, after ≠ .returned ret frame) :
    DeliveryInv R k' m' (Function.update point p (some after)) := by
  have hpayloads : ∀ {place x}, payloadAt R k' m' (Function.update point p (some after)) place x →
      payloadAt R k m point place x ∨ place = .simgrid ∧ m.strings.find x = none ∧
        m'.strings.find x ≠ none := by
    intro place x hx
    rcases payloadAt_after hissued hafter hwritten hx with ⟨-, hx⟩ | ⟨hplace, call, frame, heq, hx⟩
    · exact Or.inl hx
    · exact Or.inr ⟨hplace, hpayload call frame x heq hx⟩
  have hopenings : ∀ {place b}, bufferAt m' (Function.update point p (some after)) place b →
      bufferAt m point place b ∨ place = .actor p ∧ m.buffers.find b = none ∧
        m'.buffers.find b ≠ none := by
    intro place b hb
    rcases bufferAt_after hcomms hb with ⟨-, hb⟩ | ⟨hplace, hb⟩
    · exact Or.inl hb
    · exact Or.inr ⟨hplace, hopened b hb⟩
  constructor
  · intro b
    rw [hissued.awaiting, h.awaiting, hawaiting]
  · exact hstrings_lt
  · exact hbuffers_lt
  · intro place x hx
    rcases hpayloads hx with hx | ⟨-, -, hx⟩
    · exact hstrings x (h.payload_live place x hx)
    · exact hx
  · intro place place' x hx hx'
    rcases hpayloads hx with hx | ⟨rfl, hnone, -⟩ <;> rcases hpayloads hx' with hx' | ⟨rfl, hnone', -⟩
    · exact h.payload_unique place place' x hx hx'
    · exact absurd hnone' (h.payload_live place x hx)
    · exact absurd hnone (h.payload_live place' x hx')
    · rfl
  · intro place b hb
    rcases hopenings hb with hb | ⟨-, -, hb⟩
    · have hlive := h.buffer_live place b hb
      rwa [hbuffers b hlive]
    · exact hb
  · intro place place' b hb hb'
    rcases hopenings hb with hb | ⟨rfl, hnone, -⟩ <;> rcases hopenings hb' with hb' | ⟨rfl, hnone', -⟩
    · exact h.buffer_unique place place' b hb hb'
    · exact absurd hnone' (h.buffer_live place b hb)
    · exact absurd hnone (h.buffer_live place' b hb')
    · rfl
  · intro c comm b hfind hb
    rw [hissued.receiving]
    exact h.receiving c comm b (hcomms c comm b hfind hb) hb
  · intro q c b hq
    rw [hissued.receiving]
    exact h.returned q c b (point_after hafter hq)
  · intro q ret frame it hq hcompleted comm b hfind hb
    have hfind' := hcomms _ comm b hfind hb
    rw [hbuffers b (h.buffer_live (.comm it.address) b ⟨comm, hfind', hb⟩)]
    exact h.completed q ret frame it (point_after hafter hq) hcompleted comm b hfind' hb
  · exact fun q index comms pointers hq => h.index q index comms pointers (point_after hafter hq)

/-- A segment that changes no payload and no buffer. -/
theorem DeliveryInv.quiet (h : DeliveryInv R k m point) (hissued : Issued K k p after k')
    (hstrings : m'.strings = m.strings) (hbuffers : m'.buffers = m.buffers) (hnext : m.next ≤ m'.next)
    (hcomms : ∀ c comm b, m'.store.comms.find c = some comm → comm.receptionBuffer = some b →
      m.store.comms.find c = some comm)
    (hopened : after.opened = none) (hafter : ∀ ret frame, after ≠ .returned ret frame)
    (hcall : ∀ call frame, after = .calling call frame → call.payload = none ∧ call.buffer = none) :
    DeliveryInv R k' m' (Function.update point p (some after)) := by
  refine h.grow hissued ?_ ?_ ?_ ?_ ?_ ?_ hcomms ?_ ?_ hafter
  · intro x hx
    rwa [hstrings]
  · intro x hx
    rw [hstrings] at hx
    exact (h.strings_lt x hx).trans_le hnext
  · intro b _
    rw [hbuffers]
  · intro b hb
    rw [hbuffers] at hb
    exact (h.buffers_lt b hb).trans_le hnext
  · intro b x hx
    rwa [hbuffers] at hx
  · intro b
    rw [hbuffers]
    refine ⟨Or.inl, ?_⟩
    rintro (hb | ⟨call, frame, heq, hb⟩)
    · exact hb
    · rw [(hcall call frame heq).2] at hb
      cases hb
  · intro call frame x heq hx
    rw [(hcall call frame heq).1] at hx
    cases hx
  · intro b hb
    rw [hopened] at hb
    cases hb

theorem DeliveryInv.strings_next (h : DeliveryInv R k m point) : m.strings.find m.next = none := by
  by_contra hlive
  exact lt_irrefl _ (h.strings_lt m.next hlive)

theorem DeliveryInv.buffers_next (h : DeliveryInv R k m point) : m.buffers.find m.next = none := by
  by_contra hlive
  exact lt_irrefl _ (h.buffers_lt m.next hlive)

theorem DeliveryInv.put (h : DeliveryInv R k m point) {data : Bytes} {call : S4uCall} {frame : Frame}
    (hissued : Issued K k p (.calling call frame) k') (hpayload : call.payload = some m.next)
    (hbuffer : call.buffer = none) (hopened : frame.opened = none) :
    DeliveryInv R k' (m.newString data)
      (Function.update point p (some (.calling call frame))) := by
  refine h.grow hissued ?_ ?_ (fun b _ => rfl) (fun b hb => (h.buffers_lt b hb).trans_le (Nat.le_succ _))
    (fun b x hx => hx) ?_ (fun c comm b hfind _ => hfind) ?_ ?_ (fun _ _ heq => by cases heq)
  · intro x hx
    simp only [Memory.newString, UnorderedMap.find_insert]
    split
    · exact Option.some_ne_none data
    · exact hx
  · intro x hx
    simp only [Memory.newString, UnorderedMap.find_insert] at hx
    split at hx
    · rename_i hx'
      rw [hx'.1]
      exact Nat.lt_succ_self _
    · exact (h.strings_lt x hx).trans_le (Nat.le_succ _)
  · intro b
    refine ⟨Or.inl, ?_⟩
    rintro (hb | ⟨call', frame', heq, hb⟩)
    · exact hb
    · cases heq
      rw [hbuffer] at hb
      cases hb
  · intro call' frame' x heq hx
    cases heq
    rw [hpayload, Option.some.injEq] at hx
    subst hx
    refine ⟨h.strings_next, ?_⟩
    rw [Memory.newString, UnorderedMap.find_insert_self data h.strings_next]
    exact Option.some_ne_none data
  · intro b hb
    rw [ActorPoint.opened, hopened] at hb
    cases hb

theorem DeliveryInv.opening (h : DeliveryInv R k m point) {mbox : String}
    (hissued : Issued K k p (.calling (.mailboxGetAsync mbox m.next) (.mailboxGetAsync m.next)) k') :
    DeliveryInv R k' m.newBuffer (Function.update point p
      (some (.calling (.mailboxGetAsync mbox m.next) (.mailboxGetAsync m.next)))) := by
  have hfind : ∀ b, m.newBuffer.buffers.find b =
      if b = m.next then some none else m.buffers.find b := by
    intro b
    simp only [Memory.newBuffer, UnorderedMap.find_insert, h.buffers_next, and_true]
  refine h.grow hissued (fun x hx => hx) (fun x hx => (h.strings_lt x hx).trans_le (Nat.le_succ _))
    ?_ ?_ ?_ ?_ (fun c comm b hfind _ => hfind) ?_ ?_ (fun _ _ heq => by cases heq)
  · intro b hb
    rw [hfind, if_neg]
    rintro rfl
    exact hb h.buffers_next
  · intro b hb
    rw [hfind] at hb
    split at hb
    · rename_i heq
      rw [heq]
      exact Nat.lt_succ_self _
    · exact (h.buffers_lt b hb).trans_le (Nat.le_succ _)
  · intro b x hx
    rw [hfind] at hx
    split at hx
    · cases hx
    · exact hx
  · intro b
    rw [hfind]
    constructor
    · intro hb
      split at hb
      · rename_i heq
        exact Or.inr ⟨_, _, rfl, congrArg some heq.symm⟩
      · exact Or.inl hb
    · rintro (hb | ⟨call, frame, heq, hb⟩)
      · rw [if_neg, hb]
        rintro rfl
        rw [h.buffers_next] at hb
        cases hb
      · cases heq
        cases hb
        exact if_pos rfl
  · intro call frame x heq hx
    cases heq
    cases hx
  · intro b hb
    cases hb
    exact ⟨h.buffers_next, by rw [hfind, if_pos rfl]; exact Option.some_ne_none none⟩

/-- The payload and the buffer of a completed comm are collected: nobody else has them. -/
theorem DeliveryInv.taken (h : DeliveryInv R k m point) {address : Address} {comm : StoredComm}
    {buffer payload : Ptr} (hfind : m.store.comms.find address = some comm)
    (hbuffer : comm.receptionBuffer = some buffer)
    (hpayload : m.buffers.find buffer = some (some payload)) :
    DeliveryInv R k (m.takePayload address buffer payload)
      (Function.update point p (some .reading)) := by
  have hissued : Issued K k p .reading k := .reading
  have hafter : ∀ ret frame, ActorPoint.reading ≠ .returned ret frame := fun _ _ heq => by cases heq
  have hcomms : ∀ c comm' b, (m.takePayload address buffer payload).store.comms.find c = some comm' →
      comm'.receptionBuffer = some b → c ≠ address ∧ m.store.comms.find c = some comm' := by
    intro c comm' b hc hb
    simp only [Memory.takePayload, UnorderedMap.find_modify] at hc
    split at hc
    · rw [hfind, Option.map_some, Option.some.injEq] at hc
      rw [← hc] at hb
      cases hb
    · rename_i hne
      exact ⟨hne, hc⟩
  have hbuffers : ∀ b, (m.takePayload address buffer payload).buffers.find b =
      if b = buffer then none else m.buffers.find b := UnorderedMap.find_erase m.buffers buffer
  have hstrings : ∀ x, (m.takePayload address buffer payload).strings.find x =
      if x = payload then none else m.strings.find x := UnorderedMap.find_erase m.strings payload
  have hwritten : ∀ b x, (m.takePayload address buffer payload).buffers.find b = some (some x) →
      m.buffers.find b = some (some x) := by
    intro b x hx
    rw [hbuffers] at hx
    split at hx
    · cases hx
    · exact hx
  have hpayloads : ∀ {place x}, payloadAt R k (m.takePayload address buffer payload)
      (Function.update point p (some .reading)) place x → payloadAt R k m point place x := by
    intro place x hx
    rcases payloadAt_after hissued hafter hwritten hx with ⟨-, hx⟩ | ⟨-, _, _, heq, -⟩
    · exact hx
    · cases heq
  have hopenings : ∀ {place b}, bufferAt (m.takePayload address buffer payload)
      (Function.update point p (some .reading)) place b → bufferAt m point place b := by
    intro place b hb
    rcases bufferAt_after (fun c comm' b hc hb => (hcomms c comm' b hc hb).2) hb with
      ⟨-, hb⟩ | ⟨-, heq⟩
    · exact hb
    · cases heq
  constructor
  · intro b
    rw [h.awaiting, hbuffers]
    split
    · rename_i heq
      rw [heq, hpayload]
      simp
    · exact Iff.rfl
  · intro x hx
    rw [hstrings] at hx
    split at hx
    · exact absurd rfl hx
    · exact h.strings_lt x hx
  · intro b hb
    rw [hbuffers] at hb
    split at hb
    · exact absurd rfl hb
    · exact h.buffers_lt b hb
  · intro place x hx
    rw [hstrings, if_neg]
    · exact h.payload_live place x (hpayloads hx)
    · -- the payload was in the buffer, which is gone
      rintro rfl
      have hplace : place = .buffer buffer :=
        h.payload_unique place (.buffer buffer) x (hpayloads hx) hpayload
      subst hplace
      rw [payloadAt, hbuffers, if_pos rfl] at hx
      cases hx
  · exact fun place place' x hx hx' => h.payload_unique place place' x (hpayloads hx) (hpayloads hx')
  · intro place b hb
    rw [hbuffers, if_neg]
    · exact h.buffer_live place b (hopenings hb)
    · -- the comm that had opened the buffer has forgotten it
      rintro rfl
      have hplace : place = .comm address :=
        h.buffer_unique place (.comm address) b (hopenings hb) ⟨comm, hfind, hbuffer⟩
      subst hplace
      obtain ⟨comm', hc, hb⟩ := hb
      exact (hcomms address comm' b hc hb).1 rfl
  · exact fun place place' b hb hb' => h.buffer_unique place place' b (hopenings hb) (hopenings hb')
  · exact fun c comm' b hc hb => h.receiving c comm' b (hcomms c comm' b hc hb).2 hb
  · exact fun q c b hq => h.returned q c b (point_after hafter hq)
  · intro q ret frame it hq hcompleted comm' b hc hb
    have hold := h.completed q ret frame it (point_after hafter hq) hcompleted comm' b
      (hcomms _ comm' b hc hb).2 hb
    rw [hbuffers]
    split
    · exact fun heq => by cases heq
    · exact hold
  · exact fun q index comms pointers hq => h.index q index comms pointers (point_after hafter hq)

/-- The payload of a blocking get is collected by the actor that has it. -/
theorem DeliveryInv.got (h : DeliveryInv R k m point) {payload : Ptr}
    (hp : point p = some (.returned (.payload payload) .mailboxGet)) :
    DeliveryInv R k { m with strings := m.strings.erase payload }
      (Function.update point p (some .reading)) := by
  have hissued : Issued K k p .reading k := .reading
  have hafter : ∀ ret frame, ActorPoint.reading ≠ .returned ret frame := fun _ _ heq => by cases heq
  have hpayloads : ∀ {place x}, payloadAt R k { m with strings := m.strings.erase payload }
      (Function.update point p (some .reading)) place x →
      place ≠ .actor p ∧ payloadAt R k m point place x := by
    intro place x hx
    rcases payloadAt_after (m := m) hissued hafter (fun b x hx => hx) hx with hx | ⟨-, _, _, heq, -⟩
    · exact hx
    · cases heq
  have hopenings : ∀ {place b}, bufferAt { m with strings := m.strings.erase payload }
      (Function.update point p (some .reading)) place b → bufferAt m point place b := by
    intro place b hb
    rcases bufferAt_after (m := m) (fun c comm b hc _ => hc) hb with ⟨-, hb⟩ | ⟨-, heq⟩
    · exact hb
    · cases heq
  constructor
  · exact h.awaiting
  · intro x hx
    simp only [UnorderedMap.find_erase] at hx
    split at hx
    · exact absurd rfl hx
    · exact h.strings_lt x hx
  · exact h.buffers_lt
  · intro place x hx
    simp only [UnorderedMap.find_erase]
    rw [if_neg]
    · exact h.payload_live place x (hpayloads hx).2
    · rintro rfl
      exact (hpayloads hx).1 (h.payload_unique place (.actor p) x (hpayloads hx).2 hp)
  · exact fun place place' x hx hx' =>
      h.payload_unique place place' x (hpayloads hx).2 (hpayloads hx').2
  · exact fun place b hb => h.buffer_live place b (hopenings hb)
  · exact fun place place' b hb hb' => h.buffer_unique place place' b (hopenings hb) (hopenings hb')
  · exact h.receiving
  · exact fun q c b hq => h.returned q c b (point_after hafter hq)
  · exact fun q ret frame it hq => h.completed q ret frame it (point_after hafter hq)
  · exact fun q index comms pointers hq => h.index q index comms pointers (point_after hafter hq)

/-- The comm that a receive has returned is stored: its entry takes over the buffer. -/
theorem DeliveryInv.stored (h : DeliveryInv R k m point) {address : Address} {buffer : Ptr}
    (hp : point p = some (.returned (.address address) (.mailboxGetAsync buffer)))
    (hnone : m.store.comms.find address = none)
    (hfound : ∀ q ret frame it, point q = some (.returned ret frame) →
      frame.completed ret = some it → m.store.comms.find it.address ≠ none) :
    DeliveryInv R k
      ((m.intrusivePtrAddRef address).insertComm
        { comm := address, receptionBuffer := some buffer, node := m.next })
      (Function.update point p (some .reading)) := by
  have hissued : Issued K k p .reading k := .reading
  have hafter : ∀ ret frame, ActorPoint.reading ≠ .returned ret frame := fun _ _ heq => by cases heq
  generalize hm' : (m.intrusivePtrAddRef address).insertComm
    { comm := address, receptionBuffer := some buffer, node := m.next } = m'
  have hstrings : m'.strings = m.strings := by rw [← hm']; rfl
  have hbuffers : m'.buffers = m.buffers := by rw [← hm']; rfl
  have hnext : m'.next = m.next + 1 := by rw [← hm']; rfl
  have hcomms : ∀ c comm, m'.store.comms.find c = some comm →
      c = address ∧ comm.receptionBuffer = some buffer ∨ m.store.comms.find c = some comm := by
    intro c comm hc
    rw [← hm'] at hc
    simp only [Memory.insertComm, Memory.intrusivePtrAddRef, UnorderedMap.find_insert] at hc
    split at hc
    · rename_i heq
      cases hc
      exact Or.inl ⟨heq.1, rfl⟩
    · exact Or.inr hc
  have hpayloads : ∀ {place x}, payloadAt R k m' (Function.update point p (some .reading)) place x →
      payloadAt R k m point place x := by
    intro place x hx
    rcases payloadAt_after (m := m) hissued hafter (fun b x hx => by rwa [hbuffers] at hx) hx with
      ⟨-, hx⟩ | ⟨-, _, _, heq, -⟩
    · exact hx
    · cases heq
  have hmoved : bufferAt m point (.actor p) buffer := ⟨_, hp, rfl⟩
  have hopenings : ∀ {place b}, bufferAt m' (Function.update point p (some .reading)) place b →
      place ≠ .actor p ∧ (place = .comm address ∧ b = buffer ∨ bufferAt m point place b) := by
    intro place b hb
    cases place with
    | comm c =>
        obtain ⟨comm, hc, hb⟩ := hb
        refine ⟨(fun h => by cases h), ?_⟩
        rcases hcomms c comm hc with ⟨rfl, hbuffer⟩ | hc
        · rw [hbuffer, Option.some.injEq] at hb
          exact Or.inl ⟨rfl, hb.symm⟩
        · exact Or.inr ⟨comm, hc, hb⟩
    | actor q =>
        obtain ⟨at', hat, hb⟩ := hb
        by_cases hq : q = p
        · subst hq
          rw [Function.update_self, Option.some.injEq] at hat
          subst hat
          cases hb
        · rw [Function.update_of_ne hq] at hat
          exact ⟨fun heq => hq (BufferPlace.actor.inj heq), Or.inr ⟨at', hat, hb⟩⟩
  constructor
  · rw [hbuffers]
    exact h.awaiting
  · intro x hx
    rw [hstrings] at hx
    rw [hnext]
    exact (h.strings_lt x hx).trans_le (Nat.le_succ _)
  · intro b hb
    rw [hbuffers] at hb
    rw [hnext]
    exact (h.buffers_lt b hb).trans_le (Nat.le_succ _)
  · intro place x hx
    rw [hstrings]
    exact h.payload_live place x (hpayloads hx)
  · exact fun place place' x hx hx' => h.payload_unique place place' x (hpayloads hx) (hpayloads hx')
  · intro place b hb
    rw [hbuffers]
    rcases (hopenings hb).2 with ⟨-, rfl⟩ | hb
    · exact h.buffer_live (.actor p) b hmoved
    · exact h.buffer_live place b hb
  · intro place place' b hb hb'
    obtain ⟨hne, hb⟩ := hopenings hb
    obtain ⟨hne', hb'⟩ := hopenings hb'
    rcases hb with ⟨rfl, rfl⟩ | hb <;> rcases hb' with ⟨rfl, heq⟩ | hb'
    · rfl
    · exact absurd (h.buffer_unique place' (.actor p) b hb' hmoved) hne'
    · subst heq
      exact absurd (h.buffer_unique place (.actor p) b hb hmoved) hne
    · exact h.buffer_unique place place' b hb hb'
  · intro c comm b hc hb
    rcases hcomms c comm hc with ⟨rfl, hbuffer⟩ | hc
    · rw [hbuffer, Option.some.injEq] at hb
      exact hb ▸ h.returned p c buffer hp
    · exact h.receiving c comm b hc hb
  · exact fun q c b hq => h.returned q c b (point_after hafter hq)
  · intro q ret frame it hq hcompleted comm b hc hb
    have hq' := point_after hafter hq
    rw [hbuffers]
    rcases hcomms _ comm hc with ⟨heq, -⟩ | hc
    · exact absurd (heq ▸ hnone) (hfound q ret frame it hq' hcompleted)
    · exact h.completed q ret frame it hq' hcompleted comm b hc hb
  · exact fun q index comms pointers hq => h.index q index comms pointers (point_after hafter hq)

/-- A handler whose comm is completed, and still there, finds the payload. -/
theorem DeliveryInv.collectible (h : DeliveryInv R k m point) {ret : S4uReturn} {frame : Frame}
    {it : Iterator} (hp : point p = some (.returned ret frame))
    (hcompleted : frame.completed ret = some it) {comm : StoredComm}
    (hfind : m.store.comms.find it.address = some comm) : takeReceived it.address m ≠ none := by
  unfold takeReceived
  rw [hfind]
  cases hbuffer : comm.receptionBuffer with
  | none => simp [hbuffer]
  | some b =>
      have hlive := h.buffer_live (.comm it.address) b ⟨comm, hfind, hbuffer⟩
      have hwritten := h.completed p ret frame it hp hcompleted comm b hfind hbuffer
      simp only [hbuffer]
      cases hpayload : m.buffers.find b with
      | none => exact absurd hpayload hlive
      | some slot =>
          cases slot with
          | none => exact absurd hpayload hwritten
          | some x =>
              have hstring := h.payload_live (.buffer b) x hpayload
              cases hdata : m.strings.find x with
              | none => exact absurd hdata hstring
              | some data => simp [hdata]

/-- No handler meets an entry, a buffer or a payload that is gone. -/
theorem DeliveryInv.defined (h : DeliveryInv R k m point) {ret : S4uReturn} {frame : Frame}
    (hp : point p = some (.returned ret frame))
    (hfound : ∀ it, frame.completed ret = some it →
      ∃ comm, m.store.comms.find it.address = some comm ∧ comm.node = it.node) :
    ¬frame.Dangles ret m := by
  rintro (⟨it, hcompleted, hnone⟩ | ⟨it, hcompleted, -, hnone⟩ |
    ⟨comms, pointers, index, rfl, rfl, hindex, hnone⟩ | ⟨payload, rfl, rfl, hnone⟩)
  · obtain ⟨comm, hfind, hnode⟩ := hfound it hcompleted
    rw [takeThrough, hfind] at hnone
    simp only [if_pos hnode] at hnone
    exact h.collectible hp hcompleted hfind hnone
  · obtain ⟨comm, hfind, -⟩ := hfound it hcompleted
    exact h.collectible hp hcompleted hfind hnone
  · exact h.index p index comms pointers hp hindex hnone
  · exact h.payload_live (.actor p) payload hp hnone

/-- A segment keeps the invariant, when the comms of the handlers that wait are still stored. -/
theorem Transfer.deliveryInv (htransfer : Transfer m before m' after log)
    (h : DeliveryInv R k m point) (hp : point p = some before) (hissued : Issued K k p after k')
    (hfound : ∀ q ret frame it, point q = some (.returned ret frame) →
      frame.completed ret = some it →
      ∃ comm, m.store.comms.find it.address = some comm ∧ comm.node = it.node) :
    DeliveryInv R k' m' (Function.update point p (some after)) := by
  have hsame : (∀ call frame, after ≠ .calling call frame) → k' = k := by
    intro hne
    rcases hissued with ⟨call, frame, heq, -⟩ | ⟨-, rfl⟩
    · exact absurd heq (hne call frame)
    · rfl
  cases htransfer with
  | quiet _ _ hstrings hbuffers hnext hcomms _ hopened hafter hcall =>
      refine h.quiet hissued hstrings hbuffers hnext (fun c comm b hc hb => ?_) hopened hafter hcall
      rcases hcomms c comm hc with hc | hnone
      · exact hc
      · rw [hnone] at hb
        cases hb
  | put data call frame hpayload hbuffer hopened => exact h.put hissued hpayload hbuffer hopened
  | opening mbox => exact h.opening hissued
  | nothing =>
      refine h.quiet hissued rfl rfl le_rfl (fun c comm b hc _ => hc) rfl
        (fun _ _ heq => by cases heq) (fun _ _ heq => by cases heq)
  | taken ret frame it comm buffer payload data _ _ hfind hbuffer hpayload _ =>
      rw [hsame (fun _ _ heq => by cases heq)]
      exact h.taken hfind hbuffer hpayload
  | got payload data hbefore _ =>
      rw [hsame (fun _ _ heq => by cases heq)]
      exact h.got (hbefore ▸ hp)
  | stored address buffer hbefore hnone =>
      rw [hsame (fun _ _ heq => by cases heq)]
      refine h.stored (hbefore ▸ hp) hnone fun q ret frame it hq hcompleted heq => ?_
      obtain ⟨comm, hfind, -⟩ := hfound q ret frame it hq hcompleted
      rw [hfind] at heq
      cases heq
  | undefined ret frame hbefore hundefined =>
      have hp' : point p = some (.returned ret frame) := hbefore ▸ hp
      exact absurd hundefined (h.defined hp' fun it => hfound p ret frame it hp')

/-! ### What SimGrid does to them -/

/-- The comm that a handler takes as completed is the one that S4U reports. -/
theorem completed_of_serves {call : S4uCall} {frame : Frame} {ret : S4uReturn} {it : Iterator}
    (hserves : frame.ofLoop = true ∨ ∃ type, frame.Serves type call)
    (hcompleted : frame.completed ret = some it) :
    call.completed ret = some it.address ∧ ∀ a, ret ≠ .address a := by
  unfold Frame.completed at hcompleted
  split at hcompleted
  · cases hcompleted
    rcases hserves with hloop | ⟨type, wait, -, -, rfl⟩
    · cases hloop
    · exact ⟨rfl, nofun⟩
  · cases hcompleted
    rcases hserves with hloop | ⟨type, -, rfl⟩
    · cases hloop
    · exact ⟨rfl, nofun⟩
  · rename_i comms pointers index
    split at hcompleted
    · rename_i hindex
      rcases hserves with hloop | ⟨type, wait, -, -, rfl, rfl⟩
      · cases hloop
      · refine ⟨?_, fun _ heq => by cases heq⟩
        rw [S4uCall.completed, if_pos hindex, List.getElem?_map, hcompleted, Option.map_some]
    · cases hcompleted
  · cases hcompleted

/-- SimGrid serves a call. -/
theorem DeliveryInv.served (h : DeliveryInv R k m point) {call : S4uCall} {frame : Frame}
    {ret : S4uReturn} {point' : Pid → Option ActorPoint}
    (hserve : K.serve k p call ret = some k') (hp : point p = some (.calling call frame))
    (hframe : frame.ofLoop = true ∨ ∃ d, Suspends d call frame)
    (hself : point' p = some (.returned ret frame))
    (hother : ∀ q, q ≠ p → point' q = point q ∨ ∃ connectAck, point' q = some (.spawned connectAck))
    (hfresh : ∀ a, ret = .address a → m.store.comms.find a = none ∧
      ∀ q b, point q ≠ some (.returned (.address a) (.mailboxGetAsync b))) :
    DeliveryInv R k' m point' := by
  have hserves : frame.ofLoop = true ∨ ∃ type, frame.Serves type call := by
    rcases hframe with hloop | ⟨d, hd⟩
    · exact Or.inl hloop
    · exact Or.inr ⟨d.type, hd.serves⟩
  have hreturned : ∀ q ret' frame', q ≠ p → point' q = some (.returned ret' frame') →
      point q = some (.returned ret' frame') := by
    intro q ret' frame' hq hat
    rcases hother q hq with heq | ⟨connectAck, heq⟩
    · rwa [heq] at hat
    · rw [heq] at hat
      cases hat
  have hpayloads : ∀ {place x}, payloadAt R k' m point' place x →
      payloadAt R k m point place x ∧ place ≠ .actor p ∨
        place = .actor p ∧ R.sent k x ∧ ¬R.sent k' x := by
    intro place x hx
    cases place with
    | simgrid => exact Or.inl ⟨R.serve_sent k p call ret k' x hserve hx, nofun⟩
    | buffer b => exact Or.inl ⟨hx, nofun⟩
    | actor q =>
        by_cases hq : q = p
        · subst hq
          rw [payloadAt, hself] at hx
          cases hx
          rcases hserves with hloop | ⟨type, mbox, -, rfl⟩
          · cases hloop
          · exact Or.inr ⟨rfl, R.serve_get k q mbox.name x k' hserve⟩
        · exact Or.inl ⟨hreturned q _ _ hq hx, fun heq => hq (Place.actor.inj heq)⟩
  have hsimgrid : ∀ {place x}, payloadAt R k' m point' place x → payloadAt R k m point place x →
      R.sent k x → ¬R.sent k' x → False := by
    intro place x hx' hx hsent hgone
    have hplace : place = .simgrid := h.payload_unique place .simgrid x hx hsent
    subst hplace
    exact hgone hx'
  have hopenings : ∀ {place b}, bufferAt m point' place b → bufferAt m point place b := by
    intro place b hb
    cases place with
    | comm c => exact hb
    | actor q =>
        obtain ⟨at', hat, hb⟩ := hb
        by_cases hq : q = p
        · subst hq
          rw [hself, Option.some.injEq] at hat
          subst hat
          exact ⟨_, hp, hb⟩
        · rcases hother q hq with heq | ⟨connectAck, heq⟩
          · exact ⟨at', heq ▸ hat, hb⟩
          · rw [heq, Option.some.injEq] at hat
            subst hat
            cases hb
  constructor
  · intro b
    rw [R.serve_awaiting k p call ret k' b hserve, h.awaiting]
  · exact h.strings_lt
  · exact h.buffers_lt
  · intro place x hx
    rcases hpayloads hx with ⟨hx, -⟩ | ⟨-, hsent, -⟩
    · exact h.payload_live place x hx
    · exact h.payload_live .simgrid x hsent
  · intro place place' x hx hx'
    rcases hpayloads hx with ⟨hold, -⟩ | ⟨rfl, hsent, hgone⟩ <;>
      rcases hpayloads hx' with ⟨hold', -⟩ | ⟨rfl, hsent', hgone'⟩
    · exact h.payload_unique place place' x hold hold'
    · exact absurd hgone' fun hgone' => hsimgrid hx hold hsent' hgone'
    · exact absurd hgone fun hgone => hsimgrid hx' hold' hsent hgone
    · rfl
  · exact fun place b hb => h.buffer_live place b (hopenings hb)
  · exact fun place place' b hb hb' => h.buffer_unique place place' b (hopenings hb) (hopenings hb')
  · intro c comm b hc hb
    rw [R.serve_receiving k p call ret k' c hserve]
    · exact h.receiving c comm b hc hb
    · intro heq
      rw [(hfresh c heq).1] at hc
      cases hc
  · intro q c b hat
    by_cases hq : q = p
    · subst hq
      rw [hself] at hat
      cases hat
      rcases hserves with hloop | ⟨type, mbox, -, rfl⟩
      · cases hloop
      · exact R.serve_getAsync k q mbox.name b c k' hserve
    · have hold := hreturned q _ _ hq hat
      rw [R.serve_receiving k p call ret k' c hserve]
      · exact h.returned q c b hold
      · exact fun heq => (hfresh c heq).2 q b hold
  · intro q ret' frame' it hat hcompleted comm b hc hb
    by_cases hq : q = p
    · subst hq
      rw [hself, Option.some.injEq] at hat
      cases hat
      obtain ⟨hcompleted', hne⟩ := completed_of_serves hserves hcompleted
      rw [ne_eq, ← h.awaiting, ← R.serve_awaiting k q call ret k' b hserve]
      refine R.serve_completed k q call ret k' it.address b hserve hcompleted' ?_
      rw [R.serve_receiving k q call ret k' it.address hserve (hne it.address)]
      exact h.receiving it.address comm b hc hb
    · exact h.completed q ret' frame' it (hreturned q _ _ hq hat) hcompleted comm b hc hb
  · intro q index comms pointers hat hindex
    by_cases hq : q = p
    · subst hq
      rw [hself] at hat
      cases hat
      rcases hserves with hloop | ⟨type, wait, -, -, rfl, rfl⟩
      · cases hloop
      · have hne := R.serve_index k q _ wait.timeout index k' hserve hindex
        intro hnone
        rw [List.getElem?_map, hnone] at hne
        exact hne rfl
    · exact h.index q index comms pointers (hreturned q _ _ hq hat) hindex

/-- The buffers after some of them have been written, each once. -/
theorem find_writes {writes : List (Ptr × Ptr)} {buffers : UnorderedMap Ptr (Option Ptr)}
    (hnodup : (writes.map Prod.fst).Nodup) (b : Ptr) :
    (writes.foldl (fun buffers write => buffers.modify write.1 fun _ => some write.2) buffers).find b =
      match writes.find? fun write => write.1 = b with
      | some write => (buffers.find b).map fun _ => some write.2
      | none => buffers.find b := by
  induction writes generalizing buffers with
  | nil => rfl
  | cons write writes ih =>
      rw [List.map_cons, List.nodup_cons] at hnodup
      rw [List.foldl_cons, ih hnodup.2, UnorderedMap.find_modify, List.find?_cons]
      by_cases hb : write.1 = b
      · subst hb
        have hnone : writes.find? (fun other => other.1 = write.1) = none := by
          rw [List.find?_eq_none]
          intro other hother heq
          exact hnodup.1 (decide_eq_true_eq.mp heq ▸ List.mem_map_of_mem hother)
        simp [hnone]
      · simp [hb, Ne.symm hb]

/-- SimGrid makes progress: it writes payloads into buffers. -/
theorem DeliveryInv.progressed (h : DeliveryInv R k m point) {event : K.Event}
    {writes : List (Ptr × Ptr)} (hprogress : K.progress k event = some (k', writes)) :
    DeliveryInv R k'
      { m with
        buffers := writes.foldl (fun buffers write => buffers.modify write.1 fun _ => some write.2)
          m.buffers }
      point := by
  obtain ⟨hfirst, hsecond, hwrites⟩ := R.progress_writes k event k' writes hprogress
  generalize hm' : ({ m with
    buffers := writes.foldl (fun buffers write => buffers.modify write.1 fun _ => some write.2)
      m.buffers } : Memory) = m'
  have hbuffers : ∀ b, m'.buffers.find b = match writes.find? fun write => write.1 = b with
      | some write => (m.buffers.find b).map fun _ => some write.2
      | none => m.buffers.find b := by
    intro b
    rw [← hm']
    exact find_writes hfirst b
  have hstore : m'.store = m.store := by rw [← hm']
  have hstrings : m'.strings = m.strings := by rw [← hm']
  have hnext : m'.next = m.next := by rw [← hm']
  have hlive : ∀ b, m'.buffers.find b ≠ none ↔ m.buffers.find b ≠ none := by
    intro b
    rw [hbuffers]
    split
    · rw [ne_eq, Option.map_eq_none_iff]
    · exact Iff.rfl
  -- a payload in a buffer has been there, or has just been written
  have hwritten : ∀ b x, m'.buffers.find b = some (some x) →
      m.buffers.find b = some (some x) ∨ (b, x) ∈ writes := by
    intro b x hx
    rw [hbuffers] at hx
    split at hx
    · rename_i write hfound
      obtain ⟨slot, -, heq⟩ := Option.map_eq_some_iff.mp hx
      cases heq
      have hb : write.1 = b := by simpa using List.find?_some hfound
      exact Or.inr (hb ▸ List.mem_of_find?_eq_some hfound)
    · exact Or.inl hx
  have hnone : ∀ b, m'.buffers.find b = some none ↔
      m.buffers.find b = some none ∧ b ∉ writes.map Prod.fst := by
    intro b
    rw [hbuffers]
    split
    · rename_i write hfound
      have hb : write.1 = b := by simpa using List.find?_some hfound
      have hmem : b ∈ writes.map Prod.fst :=
        hb ▸ List.mem_map_of_mem (List.mem_of_find?_eq_some hfound)
      constructor
      · intro heq
        obtain ⟨slot, -, heq⟩ := Option.map_eq_some_iff.mp heq
        cases heq
      · exact fun heq => absurd hmem heq.2
    · rename_i hfound
      refine ⟨fun heq => ⟨heq, fun hmem => ?_⟩, fun heq => heq.1⟩
      obtain ⟨write, hwrite, hb⟩ := List.mem_map.mp hmem
      exact List.find?_eq_none.mp hfound write hwrite (decide_eq_true hb)
  have hpayloads : ∀ {place x}, payloadAt R k' m' point place x →
      payloadAt R k m point place x ∧ (∀ b, (b, x) ∉ writes) ∨
        ∃ b, place = .buffer b ∧ (b, x) ∈ writes := by
    intro place x hx
    have hold : payloadAt R k m point place x ∨ ∃ b, place = .buffer b ∧ (b, x) ∈ writes := by
      cases place with
      | simgrid => exact Or.inl (R.progress_sent k event k' writes x hprogress hx)
      | buffer b => exact (hwritten b x hx).imp id fun hmem => ⟨b, rfl, hmem⟩
      | actor q => exact Or.inl hx
    rcases hold with hold | hnew
    · refine Or.inl ⟨hold, fun b hmem => ?_⟩
      obtain ⟨-, hsent, hgone⟩ := hwrites _ hmem
      have hplace : place = .simgrid := h.payload_unique place .simgrid x hold hsent
      subst hplace
      exact hgone hx
    · exact Or.inr hnew
  constructor
  · intro b
    rw [R.progress_awaiting k event k' writes b hprogress, h.awaiting, hnone]
  · rw [hstrings, hnext]
    exact h.strings_lt
  · intro b hb
    rw [hnext]
    exact h.buffers_lt b ((hlive b).mp hb)
  · intro place x hx
    rw [hstrings]
    rcases hpayloads hx with ⟨hx, -⟩ | ⟨b, -, hmem⟩
    · exact h.payload_live place x hx
    · exact h.payload_live .simgrid x (hwrites _ hmem).2.1
  · intro place place' x hx hx'
    rcases hpayloads hx with ⟨hx, hno⟩ | ⟨b, rfl, hmem⟩ <;>
      rcases hpayloads hx' with ⟨hx', hno'⟩ | ⟨b', rfl, hmem'⟩
    · exact h.payload_unique place place' x hx hx'
    · exact absurd hmem' (hno b')
    · exact absurd hmem (hno' b)
    · have heq := List.inj_on_of_nodup_map hsecond hmem hmem' rfl
      cases heq
      rfl
  · intro place b hb
    rw [hlive]
    refine h.buffer_live place b ?_
    cases place with
    | comm c => rwa [bufferAt, hstore] at hb
    | actor q => exact hb
  · intro place place' b hb hb'
    have hold : ∀ {place}, bufferAt m' point place b → bufferAt m point place b := by
      intro place hb
      cases place with
      | comm c => rwa [bufferAt, hstore] at hb
      | actor q => exact hb
    exact h.buffer_unique place place' b (hold hb) (hold hb')
  · intro c comm b hc hb
    rw [hstore] at hc
    rw [R.progress_receiving k event k' writes hprogress]
    exact h.receiving c comm b hc hb
  · intro q c b hq
    rw [R.progress_receiving k event k' writes hprogress]
    exact h.returned q c b hq
  · intro q ret frame it hq hcompleted comm b hc hb heq
    rw [hstore] at hc
    exact h.completed q ret frame it hq hcompleted comm b hc hb ((hnone b).mp heq).1
  · exact h.index

/-- SimGrid writes into buffers that exist. -/
theorem DeliveryInv.progress_defined (h : DeliveryInv R k m point) {event : K.Event}
    {writes : List (Ptr × Ptr)} (hprogress : K.progress k event = some (k', writes)) :
    ∀ write ∈ writes, (m.buffers.find write.1).isSome := by
  intro write hwrite
  have hawaiting := ((R.progress_writes k event k' writes hprogress).2.2 write hwrite).1
  rw [(h.awaiting write.1).mp hawaiting]
  rfl

/-- Other actors than those that wait or are resumed play no role. -/
theorem DeliveryInv.points (h : DeliveryInv R k m point) {point' : Pid → Option ActorPoint}
    (hsame : ∀ q at', point' q = some at' → point q = some at' ∨
      at'.opened = none ∧ ∀ ret frame, at' ≠ .returned ret frame) :
    DeliveryInv R k m point' := by
  have hreturned : ∀ q ret frame, point' q = some (.returned ret frame) →
      point q = some (.returned ret frame) := by
    intro q ret frame hq
    rcases hsame q _ hq with hq | ⟨-, hne⟩
    · exact hq
    · exact absurd rfl (hne ret frame)
  have hpayloads : ∀ {place x}, payloadAt R k m point' place x → payloadAt R k m point place x := by
    intro place x hx
    cases place with
    | simgrid => exact hx
    | buffer b => exact hx
    | actor q => exact hreturned q _ _ hx
  have hopenings : ∀ {place b}, bufferAt m point' place b → bufferAt m point place b := by
    intro place b hb
    cases place with
    | comm c => exact hb
    | actor q =>
        obtain ⟨at', hat, hb⟩ := hb
        rcases hsame q at' hat with hat | ⟨hopened, -⟩
        · exact ⟨at', hat, hb⟩
        · rw [hopened] at hb
          cases hb
  exact
    { h with
      payload_live := fun place x hx => h.payload_live place x (hpayloads hx)
      payload_unique := fun place place' x hx hx' =>
        h.payload_unique place place' x (hpayloads hx) (hpayloads hx')
      buffer_live := fun place b hb => h.buffer_live place b (hopenings hb)
      buffer_unique := fun place place' b hb hb' =>
        h.buffer_unique place place' b (hopenings hb) (hopenings hb')
      returned := fun q c b hq => h.returned q c b (hreturned q _ _ hq)
      completed := fun q ret frame it hq => h.completed q ret frame it (hreturned q _ _ hq)
      index := fun q index comms pointers hq => h.index q index comms pointers (hreturned q _ _ hq) }

end

end RemoteSimgrid
