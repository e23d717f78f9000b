import RemoteSimgrid.SimulationDeliveryInvariant

/-! How the log of a run fits to the memory it leads to: a payload that is still allocated was sent
and not copied, a buffer that is still allocated was not read, and an entry that still has its buffer
was not found completed. -/

namespace RemoteSimgrid

open Machine Pb

/-! ### The log -/

/-- How far the log has come with each payload, each buffer and each entry. -/
structure DeliveryLog (m : Memory) (log : List SimOutput) : Prop where
  payload : ∀ x, match m.strings.find x with
    | some data => payloadLog x log = [.newString x data]
    | none => payloadLog x log = [] ∨
        ∃ data, payloadLog x log = [.newString x data, .copied x, .deletedString x]
  buffer : ∀ b, match m.buffers.find b with
    | some none => bufferLog b log = []
    | some (some x) => bufferLog b log = [.transferred b x]
    | none => bufferLog b log = [] ∨
        ∃ x, bufferLog b log = [.transferred b x, .readBuffer b, .deletedBuffer b]
  found : ∀ n, foundLog n log = [] ∨
    ∃ first count, foundLog n log = first :: List.replicate count none
  kept : ∀ c comm, m.store.comms.find c = some comm → comm.receptionBuffer ≠ none →
    foundLog comm.node log = []
  payload_fresh : ∀ x, m.next ≤ x → payloadLog x log = []
  buffer_fresh : ∀ b, m.next ≤ b → bufferLog b log = []
  found_fresh : ∀ n, m.next ≤ n → foundLog n log = []

section

variable {K : S4u} {R : Rendezvous K} {k k' : K.State} {m m' : Memory}
  {point : Pid → Option ActorPoint} {before after : ActorPoint} {log log' : List SimOutput}

theorem DeliveryLog.empty (hstrings : m.strings = ∅) (hbuffers : m.buffers = ∅) :
    DeliveryLog m [] where
  payload x := by
    rw [hstrings]
    exact Or.inl rfl
  buffer b := by
    rw [hbuffers]
    exact Or.inl rfl
  found _ := Or.inl rfl
  kept _ _ _ _ := rfl
  payload_fresh _ _ := rfl
  buffer_fresh _ _ := rfl
  found_fresh _ _ := rfl

/-- A step that logs nothing and collects nothing. -/
theorem DeliveryLog.same (h : DeliveryLog m log) (hstrings : m'.strings = m.strings)
    (hbuffers : m'.buffers = m.buffers) (hnext : m.next ≤ m'.next)
    (hcomms : ∀ c comm, m'.store.comms.find c = some comm → comm.receptionBuffer ≠ none →
      m.store.comms.find c = some comm) : DeliveryLog m' log where
  payload := by
    rw [hstrings]
    exact h.payload
  buffer := by
    rw [hbuffers]
    exact h.buffer
  found := h.found
  kept c comm hc hb := h.kept c comm (hcomms c comm hc hb) hb
  payload_fresh x hx := h.payload_fresh x (hnext.trans hx)
  buffer_fresh b hb := h.buffer_fresh b (hnext.trans hb)
  found_fresh n hn := h.found_fresh n (hnext.trans hn)

theorem DeliveryLog.put (h : DeliveryLog m log) (hnone : m.strings.find m.next = none)
    (data : Bytes) : DeliveryLog (m.newString data) (log ++ [.newString m.next data]) where
  payload x := by
    rw [payloadLog_append, Memory.newString, UnorderedMap.find_insert]
    by_cases hx : x = m.next
    · subst hx
      rw [if_pos ⟨rfl, hnone⟩, h.payload_fresh m.next le_rfl]
      simp [payloadLog, SimOutput.ofPayload]
    · have hother : payloadLog x [.newString m.next data] = [] := by
        simp [payloadLog, SimOutput.ofPayload, Ne.symm hx]
      rw [if_neg (fun heq => hx heq.1), hother, List.append_nil]
      exact h.payload x
  buffer b := by
    rw [bufferLog_append, show bufferLog b [.newString m.next data] = [] from rfl, List.append_nil]
    exact h.buffer b
  found n := by
    rw [foundLog_append, show foundLog n [.newString m.next data] = [] from rfl, List.append_nil]
    exact h.found n
  kept c comm hc hb := by
    rw [foundLog_append, h.kept c comm hc hb]
    rfl
  payload_fresh x hx := by
    have hne : m.next ≠ x := (Nat.lt_of_succ_le hx).ne
    rw [payloadLog_append, h.payload_fresh x ((Nat.le_succ _).trans hx)]
    simp [payloadLog, SimOutput.ofPayload, hne]
  buffer_fresh b hb := by
    rw [bufferLog_append, h.buffer_fresh b ((Nat.le_succ _).trans hb)]
    rfl
  found_fresh n hn := by
    rw [foundLog_append, h.found_fresh n ((Nat.le_succ _).trans hn)]
    rfl

theorem DeliveryLog.opening (h : DeliveryLog m log) (hnone : m.buffers.find m.next = none) :
    DeliveryLog m.newBuffer log where
  payload := h.payload
  buffer b := by
    rw [Memory.newBuffer, UnorderedMap.find_insert]
    by_cases hb : b = m.next
    · subst hb
      rw [if_pos ⟨rfl, hnone⟩]
      exact h.buffer_fresh m.next le_rfl
    · rw [if_neg (fun heq => hb heq.1)]
      exact h.buffer b
  found := h.found
  kept := h.kept
  payload_fresh x hx := h.payload_fresh x ((Nat.le_succ _).trans hx)
  buffer_fresh b hb := h.buffer_fresh b ((Nat.le_succ _).trans hb)
  found_fresh n hn := h.found_fresh n ((Nat.le_succ _).trans hn)

/-- The nodes of the log are those of entries, and an entry that is found empty stays empty. -/
theorem DeliveryLog.nothing (h : DeliveryLog m log) (howned : Owned m) {c : Address}
    {comm : StoredComm} (hfind : m.store.comms.find c = some comm)
    (hempty : comm.receptionBuffer = none) :
    DeliveryLog m (log ++ [.found comm.node none]) where
  payload x := by
    rw [payloadLog_append, show payloadLog x [.found comm.node none] = [] from rfl, List.append_nil]
    exact h.payload x
  buffer b := by
    rw [bufferLog_append, show bufferLog b [.found comm.node none] = [] from rfl, List.append_nil]
    exact h.buffer b
  found n := by
    rw [foundLog_append]
    by_cases hn : comm.node = n
    · have hlast : foundLog n [.found comm.node none] = [none] := by simp [foundLog, hn]
      rw [hlast]
      rcases h.found n with hnil | ⟨first, count, hcons⟩
      · exact Or.inr ⟨none, 0, by rw [hnil]; rfl⟩
      · exact Or.inr ⟨first, count + 1, by rw [hcons, List.replicate_succ']; rfl⟩
    · have hlast : foundLog n [.found comm.node none] = [] := by simp [foundLog, hn]
      rw [hlast, List.append_nil]
      exact h.found n
  kept c' comm' hc hb := by
    have hne : comm.node ≠ comm'.node := by
      intro heq
      have hsame := howned.unique (.comm c) (.comm c') comm.entry comm'.entry
        (by rw [Memory.entry, hfind, Option.map_some]) (by rw [Memory.entry, hc, Option.map_some])
        (Or.inr heq)
      cases hsame
      rw [hfind, Option.some.injEq] at hc
      exact hb (hc ▸ hempty)
    rw [foundLog_append, h.kept c' comm' hc hb]
    simp [foundLog, hne]
  payload_fresh x hx := by
    rw [payloadLog_append, h.payload_fresh x hx]
    rfl
  buffer_fresh b hb := by
    rw [bufferLog_append, h.buffer_fresh b hb]
    rfl
  found_fresh n hn := by
    have hlt := (howned.entry (.comm c) comm.entry (by rw [Memory.entry, hfind, Option.map_some])).2.2.2.2
    have hne : comm.node ≠ n := (lt_of_lt_of_le hlt hn).ne
    rw [foundLog_append, h.found_fresh n hn]
    simp [foundLog, hne]

theorem DeliveryLog.taken (h : DeliveryLog m log) (howned : Owned m) {c : Address}
    {comm : StoredComm} {buffer payload : Ptr} {data : Bytes}
    (hfind : m.store.comms.find c = some comm) (hbuffer : comm.receptionBuffer = some buffer)
    (hpayload : m.buffers.find buffer = some (some payload))
    (hdata : m.strings.find payload = some data) :
    DeliveryLog (m.takePayload c buffer payload)
      (log ++ [.found comm.node (some payload), .readBuffer buffer, .copied payload,
        .deletedString payload, .deletedBuffer buffer]) where
  payload x := by
    rw [payloadLog_append, Memory.takePayload, UnorderedMap.find_erase]
    have hold := h.payload x
    by_cases hx : x = payload
    · subst hx
      rw [hdata] at hold
      rw [if_pos rfl, hold]
      exact Or.inr ⟨data, by simp [payloadLog, SimOutput.ofPayload]⟩
    · have hother : payloadLog x [.found comm.node (some payload), .readBuffer buffer,
          .copied payload, .deletedString payload, .deletedBuffer buffer] = [] := by
        simp [payloadLog, SimOutput.ofPayload, Ne.symm hx]
      rw [if_neg hx, hother, List.append_nil]
      exact hold
  buffer b := by
    rw [bufferLog_append, Memory.takePayload, UnorderedMap.find_erase]
    have hold := h.buffer b
    by_cases hb : b = buffer
    · subst hb
      rw [hpayload] at hold
      rw [if_pos rfl, hold]
      exact Or.inr ⟨payload, by simp [bufferLog, SimOutput.ofBuffer]⟩
    · have hother : bufferLog b [.found comm.node (some payload), .readBuffer buffer,
          .copied payload, .deletedString payload, .deletedBuffer buffer] = [] := by
        simp [bufferLog, SimOutput.ofBuffer, Ne.symm hb]
      rw [if_neg hb, hother, List.append_nil]
      exact hold
  found n := by
    rw [foundLog_append]
    by_cases hn : comm.node = n
    · subst hn
      have hempty := h.kept c comm hfind (by rw [hbuffer]; exact Option.some_ne_none buffer)
      exact Or.inr ⟨some payload, 0, by rw [hempty]; simp [foundLog]⟩
    · have hlast : foundLog n [.found comm.node (some payload), .readBuffer buffer, .copied payload,
          .deletedString payload, .deletedBuffer buffer] = [] := by
        simp [foundLog, hn]
      rw [hlast, List.append_nil]
      exact h.found n
  kept c' comm' hc hb := by
    simp only [Memory.takePayload, UnorderedMap.find_modify] at hc
    split at hc
    · rw [hfind, Option.map_some, Option.some.injEq] at hc
      rw [← hc] at hb
      exact absurd rfl hb
    · rename_i hne
      have hnode : comm.node ≠ comm'.node := by
        intro heq
        have hsame := howned.unique (.comm c) (.comm c') comm.entry comm'.entry
          (by rw [Memory.entry, hfind, Option.map_some]) (by rw [Memory.entry, hc, Option.map_some])
          (Or.inr heq)
        cases hsame
        exact hne rfl
      rw [foundLog_append, h.kept c' comm' hc hb]
      simp [foundLog, hnode]
  payload_fresh x hx := by
    have hne : payload ≠ x := by
      rintro rfl
      have hold := h.payload payload
      rw [hdata, h.payload_fresh payload hx] at hold
      cases hold
    rw [payloadLog_append, h.payload_fresh x hx]
    simp [payloadLog, SimOutput.ofPayload, hne]
  buffer_fresh b hb := by
    have hne : buffer ≠ b := by
      rintro rfl
      have hold := h.buffer buffer
      rw [hpayload, h.buffer_fresh buffer hb] at hold
      cases hold
    rw [bufferLog_append, h.buffer_fresh b hb]
    simp [bufferLog, SimOutput.ofBuffer, hne]
  found_fresh n hn := by
    have hlt := (howned.entry (.comm c) comm.entry (by rw [Memory.entry, hfind, Option.map_some])).2.2.2.2
    have hne : comm.node ≠ n := (lt_of_lt_of_le hlt hn).ne
    rw [foundLog_append, h.found_fresh n hn]
    simp [foundLog, hne]

theorem DeliveryLog.got (h : DeliveryLog m log) {payload : Ptr} {data : Bytes}
    (hdata : m.strings.find payload = some data) :
    DeliveryLog { m with strings := m.strings.erase payload }
      (log ++ [.copied payload, .deletedString payload]) where
  payload x := by
    simp only [payloadLog_append, UnorderedMap.find_erase]
    have hold := h.payload x
    by_cases hx : x = payload
    · subst hx
      rw [hdata] at hold
      rw [if_pos rfl, hold]
      exact Or.inr ⟨data, by simp [payloadLog, SimOutput.ofPayload]⟩
    · have hother : payloadLog x [.copied payload, .deletedString payload] = [] := by
        simp [payloadLog, SimOutput.ofPayload, Ne.symm hx]
      rw [if_neg hx, hother, List.append_nil]
      exact hold
  buffer b := by
    rw [bufferLog_append, show bufferLog b [.copied payload, .deletedString payload] = [] from rfl,
      List.append_nil]
    exact h.buffer b
  found n := by
    rw [foundLog_append, show foundLog n [.copied payload, .deletedString payload] = [] from rfl,
      List.append_nil]
    exact h.found n
  kept c comm hc hb := by
    rw [foundLog_append, h.kept c comm hc hb]
    rfl
  payload_fresh x hx := by
    have hne : payload ≠ x := by
      rintro rfl
      have hold := h.payload payload
      rw [hdata, h.payload_fresh payload hx] at hold
      cases hold
    rw [payloadLog_append, h.payload_fresh x hx]
    simp [payloadLog, SimOutput.ofPayload, hne]
  buffer_fresh b hb := by
    rw [bufferLog_append, h.buffer_fresh b hb]
    rfl
  found_fresh n hn := by
    rw [foundLog_append, h.found_fresh n hn]
    rfl

theorem DeliveryLog.stored (h : DeliveryLog m log) (address : Address) (buffer : Ptr) :
    DeliveryLog ((m.intrusivePtrAddRef address).insertComm
      { comm := address, receptionBuffer := some buffer, node := m.next }) log where
  payload := h.payload
  buffer := h.buffer
  found := h.found
  kept c comm hc hb := by
    simp only [Memory.insertComm, Memory.intrusivePtrAddRef, UnorderedMap.find_insert] at hc
    split at hc
    · cases hc
      exact h.found_fresh m.next le_rfl
    · exact h.kept c comm hc hb
  payload_fresh x hx := h.payload_fresh x ((Nat.le_succ _).trans hx)
  buffer_fresh b hb := h.buffer_fresh b ((Nat.le_succ _).trans hb)
  found_fresh n hn := h.found_fresh n ((Nat.le_succ _).trans hn)

/-- A segment keeps the log in step with the memory. -/
theorem Transfer.deliveryLog (htransfer : Transfer m before m' after log') (h : DeliveryLog m log)
    (howned : Owned m) (hdelivery : DeliveryInv R k m point) : DeliveryLog m' (log ++ log') := by
  cases htransfer with
  | quiet _ _ hstrings hbuffers hnext hcomms _ _ _ _ =>
      rw [List.append_nil]
      exact h.same hstrings hbuffers hnext fun c comm hc hb =>
        (hcomms c comm hc).resolve_right hb
  | put data => exact h.put hdelivery.strings_next data
  | opening =>
      rw [List.append_nil]
      exact h.opening hdelivery.buffers_next
  | nothing ret frame it comm _ _ hfind hempty => exact h.nothing howned hfind hempty
  | taken ret frame it comm buffer payload data _ _ hfind hbuffer hpayload hdata =>
      exact h.taken howned hfind hbuffer hpayload hdata
  | got payload data _ hdata => exact h.got hdata
  | stored address buffer =>
      rw [List.append_nil]
      exact h.stored address buffer
  | undefined =>
      rw [List.append_nil]
      exact h

/-- What is logged of a buffer when SimGrid writes into some, each once. -/
theorem bufferLog_writes {writes : List (Ptr × Ptr)} (hnodup : (writes.map Prod.fst).Nodup) (b : Ptr) :
    bufferLog b (writes.map fun write => .transferred write.1 write.2) =
      match writes.find? fun write => write.1 = b with
      | some write => [.transferred b write.2]
      | none => [] := by
  induction writes with
  | nil => rfl
  | cons write writes ih =>
      rw [List.map_cons, List.nodup_cons] at hnodup
      have hcons : bufferLog b ((write :: writes).map fun write => .transferred write.1 write.2) =
          (if write.1 = b then [.transferred write.1 write.2] else []) ++
            bufferLog b (writes.map fun write => .transferred write.1 write.2) := by
        simp only [bufferLog, List.map_cons, List.filter_cons, SimOutput.ofBuffer]
        split <;> rename_i heq <;> simp [decide_eq_true_eq] at heq <;> simp [heq]
      rw [hcons, ih hnodup.2, List.find?_cons]
      by_cases hb : write.1 = b
      · subst hb
        have hnone : writes.find? (fun other => other.1 = write.1) = none := by
          rw [List.find?_eq_none]
          intro other hother heq
          exact hnodup.1 (decide_eq_true_eq.mp heq ▸ List.mem_map_of_mem hother)
        simp [hnone]
      · simp [hb]

theorem DeliveryLog.progressed (h : DeliveryLog m log) (hdelivery : DeliveryInv R k m point)
    {event : K.Event} {writes : List (Ptr × Ptr)}
    (hprogress : K.progress k event = some (k', writes)) :
    DeliveryLog
      { m with
        buffers := writes.foldl (fun buffers write => buffers.modify write.1 fun _ => some write.2)
          m.buffers }
      (log ++ writes.map fun write => .transferred write.1 write.2) := by
  obtain ⟨hfirst, -, hwrites⟩ := R.progress_writes k event k' writes hprogress
  have hpayload : ∀ x, payloadLog x (writes.map fun write => .transferred write.1 write.2) = [] := by
    intro x
    refine List.filter_eq_nil_iff.mpr fun o ho => ?_
    obtain ⟨write, -, rfl⟩ := List.mem_map.mp ho
    exact Bool.false_ne_true
  have hfound : ∀ n, foundLog n (writes.map fun write => .transferred write.1 write.2) = [] := by
    intro n
    refine List.filterMap_eq_nil_iff.mpr fun o ho => ?_
    obtain ⟨write, -, rfl⟩ := List.mem_map.mp ho
    rfl
  have hawaiting : ∀ b write, writes.find? (fun write => write.1 = b) = some write →
      m.buffers.find b = some none := by
    intro b write hsome
    have hb : write.1 = b := by simpa using List.find?_some hsome
    rw [← hdelivery.awaiting, ← hb]
    exact (hwrites write (List.mem_of_find?_eq_some hsome)).1
  constructor
  · intro x
    rw [payloadLog_append, hpayload, List.append_nil]
    exact h.payload x
  · intro b
    have hold := h.buffer b
    simp only [find_writes hfirst, bufferLog_append, bufferLog_writes hfirst]
    cases hsome : writes.find? fun write => write.1 = b with
    | none => simpa using hold
    | some write =>
        rw [hawaiting b write hsome] at hold
        simp [hawaiting b write hsome, hold]
  · intro n
    rw [foundLog_append, hfound, List.append_nil]
    exact h.found n
  · intro c comm hc hb
    rw [foundLog_append, hfound, List.append_nil]
    exact h.kept c comm hc hb
  · intro x hx
    rw [payloadLog_append, hpayload, List.append_nil]
    exact h.payload_fresh x hx
  · intro b hb
    rw [bufferLog_append, h.buffer_fresh b hb, bufferLog_writes hfirst]
    cases hsome : writes.find? fun write => write.1 = b with
    | none => rfl
    | some write =>
        have hlt := hdelivery.buffers_lt b (by
          rw [hawaiting b write hsome]
          exact Option.some_ne_none none)
        exact absurd hlt hb.not_gt
  · intro n hn
    rw [foundLog_append, hfound, List.append_nil]
    exact h.found_fresh n hn

end

end RemoteSimgrid
