import RemoteSimgrid.SimulationAsked
import RemoteSimgrid.SimulationDelivery

/-! Where the payloads of the receive comms come from: the trace of the SimGrid thread tells who sent
them, which buffers SimGrid has written them into, and which receive a buffer belongs to. -/

namespace RemoteSimgrid

open Machine Pb

/-- The payload that a decision sends. -/
def Pb.DecisionType.sends : DecisionType → Option Bytes
  | .mailboxPut message => some message.data
  | .mailboxPutAsync message => some message.data
  | _ => none

/-- A payload with these bytes was allocated for a put. -/
def WasSent (trace : List SimOutput) (x : Ptr) (data : Bytes) : Prop :=
  .newString x data ∈ trace ∧ ∃ q d, .dispatched q d ∈ trace ∧ d.type.sends = some data

/-- A receive with this buffer has returned this comm. -/
def WasOpened (trace : List SimOutput) (b : Ptr) (comm : Address) : Prop :=
  ∃ q mbox, .served q (.mailboxGetAsync mbox b) (.address comm) ∈ trace

/-- What the trace tells of the payloads and of the comms with a reception buffer. -/
structure ReceiveLog (m : Memory) (point : Pid → Option ActorPoint) (trace : List SimOutput) :
    Prop where
  sent : ∀ x data, .newString x data ∈ trace → ∃ q d, .dispatched q d ∈ trace ∧ d.type.sends = some data
  string : ∀ x data, m.strings.find x = some data → .newString x data ∈ trace
  written : ∀ b x, m.buffers.find b = some (some x) → .transferred b x ∈ trace
  opened : ∀ c comm b, m.store.comms.find c = some comm → comm.receptionBuffer = some b →
    WasOpened trace b c
  undelivered : ∀ c comm b, m.store.comms.find c = some comm → comm.receptionBuffer = some b →
    ∀ x, .found comm.node (some x) ∉ trace
  returned : ∀ p c b, point p = some (.returned (.address c) (.mailboxGetAsync b)) →
    WasOpened trace b c
  found_lt : ∀ n x, .found n (some x) ∈ trace → n < m.next

section

variable {K : S4u} {s t : Simulation K} {event : SimEvent K} {trace out : List SimOutput} {p : Pid}
  {socket : Socket} {segment : Segment} {m m' : Memory} {point : Pid → Option ActorPoint}

theorem WasOpened.mono {b : Ptr} {comm : Address} (h : WasOpened trace b comm) (out : List SimOutput) :
    WasOpened (trace ++ out) b comm := by
  obtain ⟨q, mbox, hserved⟩ := h
  exact ⟨q, mbox, List.mem_append_left _ hserved⟩

/-- A payload is allocated in the segment that dispatches its put. -/
theorem Switched.sends {d : Decision} (h : Switched d m segment) {x : Ptr} {data : Bytes}
    (hx : .newString x data ∈ segment.out) : d.type.sends = some data := by
  cases h with
  | mailboxPut message hd =>
      rw [hd]
      cases List.mem_singleton.mp hx
      rfl
  | mailboxPutAsync message hd =>
      rw [hd]
      cases List.mem_singleton.mp hx
      rfl
  | _ => cases hx

theorem newString_out {x : Ptr} {data : Bytes} (outcome : Outcome) :
    .newString x data ∉ outcome.out p socket := by
  intro hx
  cases outcome with
  | finished ack sendAck quitReceived => cases sendAck <;> cases quitReceived <;> simp [Outcome.out] at hx
  | _ => simp [Outcome.out] at hx

theorem dispatch_sends {k : K.State} {d : Decision} {x : Ptr} {data : Bytes}
    (hx : .newString x data ∈ (dispatch K k p d m).out) :
    .dispatched p d ∈ (dispatch K k p d m).out ∧ d.type.sends = some data := by
  obtain ⟨segment, hswitched, heq⟩ := dispatch_eq K k p d m
  rw [heq] at hx ⊢
  rcases List.mem_cons.mp hx with hx | hx
  · cases hx
  · exact ⟨List.mem_cons_self, hswitched.sends hx⟩

theorem Taken.newString {address : Address} {taken : Bytes} (h : Taken address m m' out taken) {x : Ptr}
    {data : Bytes} : .newString x data ∉ out := by
  cases h with
  | nothing => simp
  | payload => simp

theorem SimStep.sends (h : SimStep s event t out) {x : Ptr} {data : Bytes}
    (hx : .newString x data ∈ out) : ∃ q d, .dispatched q d ∈ out ∧ d.type.sends = some data := by
  cases h with
  | ran _ p socket segment hran =>
      replace hx : .newString x data ∈ segment.out ++ segment.outcome.out p socket := hx
      have hsegment : .newString x data ∈ segment.out :=
        (List.mem_append.mp hx).resolve_right (newString_out segment.outcome)
      have hdispatched : ∀ d, segment = dispatch K s.kernel p d s.memory →
          ∃ q d, .dispatched q d ∈ segment.out ++ segment.outcome.out p socket ∧
            d.type.sends = some data := by
        rintro d rfl
        obtain ⟨hmem, hsends⟩ := dispatch_sends hsegment
        exact ⟨p, d, List.mem_append_left _ hmem, hsends⟩
      cases hran with
      | decided _ _ d => exact hdispatched d rfl
      | resumed _ actor ret frame _ _ _ _ hresumed =>
          cases hresumed with
          | dispatched d => exact hdispatched d rfl
          | commWaited _ _ _ _ _ _ _ htaken => exact absurd hsegment htaken.newString
          | commTested _ _ _ _ _ _ _ htaken => exact absurd hsegment htaken.newString
          | commWaitedAny _ _ _ _ _ _ _ _ _ _ _ htaken => exact absurd hsegment htaken.newString
          | actorCreated => simp at hsegment
          | mailboxGet => simp at hsegment
          | _ => cases hsegment
      | childAccepted => simp at hsegment
      | _ => cases hsegment
  | progressed event kernel writes =>
      obtain ⟨write, -, heq⟩ := List.mem_map.mp hx
      cases heq
  | served => simp at hx
  | _ => cases hx

/-! ### The invariant -/

/-- A step may allocate payloads, write into buffers and collect them, and it may open a comm in a new
entry. -/
theorem ReceiveLog.grow {point' : Pid → Option ActorPoint} (h : ReceiveLog m point trace)
    (hnext : m.next ≤ m'.next)
    (hsent : ∀ x data, .newString x data ∈ out → ∃ q d, .dispatched q d ∈ out ∧ d.type.sends = some data)
    (hstring : ∀ x data, m'.strings.find x = some data →
      m.strings.find x = some data ∨ .newString x data ∈ out)
    (hwritten : ∀ b x, m'.buffers.find b = some (some x) →
      m.buffers.find b = some (some x) ∨ .transferred b x ∈ out)
    (hcomms : ∀ c comm b, m'.store.comms.find c = some comm → comm.receptionBuffer = some b →
      (m.store.comms.find c = some comm ∨ m.next ≤ comm.node ∧ WasOpened trace b c) ∧
        ∀ x, .found comm.node (some x) ∉ out)
    (hreturned : ∀ p c b, point' p = some (.returned (.address c) (.mailboxGetAsync b)) →
      point p = some (.returned (.address c) (.mailboxGetAsync b)) ∨ WasOpened out b c)
    (hfound : ∀ n x, .found n (some x) ∈ out → n < m'.next) :
    ReceiveLog m' point' (trace ++ out) where
  sent x data hx := by
    rcases List.mem_append.mp hx with hx | hx
    · obtain ⟨q, d, hd, hsends⟩ := h.sent x data hx
      exact ⟨q, d, List.mem_append_left _ hd, hsends⟩
    · obtain ⟨q, d, hd, hsends⟩ := hsent x data hx
      exact ⟨q, d, List.mem_append_right _ hd, hsends⟩
  string x data hx := by
    rcases hstring x data hx with hold | hnew
    · exact List.mem_append_left _ (h.string x data hold)
    · exact List.mem_append_right _ hnew
  written b x hb := by
    rcases hwritten b x hb with hold | hnew
    · exact List.mem_append_left _ (h.written b x hold)
    · exact List.mem_append_right _ hnew
  opened c comm b hc hb := by
    rcases (hcomms c comm b hc hb).1 with hold | ⟨-, hopened⟩
    · exact (h.opened c comm b hold hb).mono out
    · exact hopened.mono out
  undelivered c comm b hc hb x hx := by
    obtain ⟨hcomm, hout⟩ := hcomms c comm b hc hb
    rcases List.mem_append.mp hx with hx | hx
    · rcases hcomm with hold | ⟨hnode, -⟩
      · exact h.undelivered c comm b hold hb x hx
      · exact absurd (h.found_lt _ x hx) (Nat.not_lt.mpr hnode)
    · exact hout x hx
  returned p c b hp := by
    rcases hreturned p c b hp with hold | ⟨q, mbox, hserved⟩
    · exact (h.returned p c b hold).mono out
    · exact ⟨q, mbox, List.mem_append_right _ hserved⟩
  found_lt n x hx := by
    rcases List.mem_append.mp hx with hx | hx
    · exact lt_of_lt_of_le (h.found_lt n x hx) hnext
    · exact hfound n x hx

/-- What a segment does to the comms that are open. -/
theorem Transfer.comms {before after : ActorPoint} {log : List SimOutput} (howned : Owned m)
    (h : Transfer m before m' after log) {c : Address} {comm : StoredComm} {b : Ptr}
    (hc : m'.store.comms.find c = some comm) (hb : comm.receptionBuffer = some b) :
    (m.store.comms.find c = some comm ∨ m.next ≤ comm.node ∧
        before = .returned (.address c) (.mailboxGetAsync b)) ∧
      ∀ x, .found comm.node (some x) ∉ log := by
  cases h with
  | quiet _ _ _ _ _ hcomms =>
      refine ⟨Or.inl ?_, fun x hx => by cases hx⟩
      rcases hcomms c comm hc with hold | hnone
      · exact hold
      · rw [hb] at hnone
        cases hnone
  | put => exact ⟨Or.inl hc, fun x hx => by cases List.mem_singleton.mp hx⟩
  | nothing => exact ⟨Or.inl hc, fun x hx => by simp at hx⟩
  | taken ret frame it comm' buffer payload data _ _ hfind =>
      simp only [Memory.takePayload, UnorderedMap.find_modify] at hc
      split at hc
      · rw [hfind, Option.map_some, Option.some.injEq] at hc
        subst hc
        cases hb
      · rename_i hne
        refine ⟨Or.inl hc, fun x hx => ?_⟩
        -- another entry has another node
        have hnode : comm.node = comm'.node ∧ x = payload := by simpa using hx
        have hsame := howned.unique (.comm c) (.comm it.address) comm.entry comm'.entry
          (by rw [Memory.entry, hc, Option.map_some]) (by rw [Memory.entry, hfind, Option.map_some])
          (Or.inr hnode.1)
        exact hne (Handle.comm.inj hsame)
  | stored address buffer hbefore hnone =>
      refine ⟨?_, fun x hx => by cases hx⟩
      simp only [Memory.insertComm, Memory.intrusivePtrAddRef, UnorderedMap.find_insert] at hc
      split at hc
      · rename_i hnew
        cases hc
        cases hb
        rw [hnew.1]
        exact Or.inr ⟨le_rfl, hbefore⟩
      · exact Or.inl hc
  | opening => exact ⟨Or.inl hc, fun x hx => by cases hx⟩
  | got => exact ⟨Or.inl hc, fun x hx => by simp at hx⟩
  | undefined => exact ⟨Or.inl hc, fun x hx => by cases hx⟩

theorem Transfer.strings {before after : ActorPoint} {log : List SimOutput}
    (h : Transfer m before m' after log) {x : Ptr} {data : Bytes} (hx : m'.strings.find x = some data) :
    m.strings.find x = some data ∨ .newString x data ∈ log := by
  have herase : ∀ payload, (m.strings.erase payload).find x = some data →
      m.strings.find x = some data := by
    intro payload hx
    rw [UnorderedMap.find_erase] at hx
    split at hx
    · cases hx
    · exact hx
  cases h with
  | quiet _ _ hstrings => exact Or.inl (hstrings ▸ hx)
  | put data' =>
      simp only [Memory.newString, UnorderedMap.find_insert] at hx
      split at hx
      · rename_i hnew
        cases hx
        rw [hnew.1]
        exact Or.inr (List.mem_singleton_self _)
      · exact Or.inl hx
  | taken _ _ _ _ _ payload => exact Or.inl (herase payload hx)
  | got payload => exact Or.inl (herase payload hx)
  | _ => exact Or.inl hx

theorem Transfer.buffers {before after : ActorPoint} {log : List SimOutput}
    (h : Transfer m before m' after log) {b x : Ptr} (hb : m'.buffers.find b = some (some x)) :
    m.buffers.find b = some (some x) := by
  cases h with
  | quiet _ _ _ hbuffers => exact hbuffers ▸ hb
  | opening mbox =>
      simp only [Memory.newBuffer, UnorderedMap.find_insert] at hb
      split at hb
      · cases hb
      · exact hb
  | taken _ _ _ _ buffer =>
      simp only [Memory.takePayload, UnorderedMap.find_erase] at hb
      split at hb
      · cases hb
      · exact hb
  | _ => exact hb

theorem Transfer.found {before after : ActorPoint} {log : List SimOutput} (howned : Owned m)
    (h : Transfer m before m' after log) {n : Nat} {x : Ptr} (hx : .found n (some x) ∈ log) :
    n < m'.next := by
  cases h with
  | taken ret frame it comm buffer payload data _ _ hfind =>
      have hnode : n = comm.node := by
        have heq : n = comm.node ∧ x = payload := by simpa using hx
        exact heq.1
      rw [hnode]
      have hentry := howned.entry (.comm it.address) comm.entry
        (by rw [Memory.entry, hfind, Option.map_some])
      exact hentry.2.2.2.2
  | _ => simp at hx

/-- A segment keeps the invariant. -/
theorem ReceiveLog.ran (h : ReceiveLog s.memory s.point trace) (howned : Owned s.memory)
    (hran : Ran s event p socket segment)
    (hsent : ∀ x data, .newString x data ∈ segment.out ++ segment.outcome.out p socket →
      ∃ q d, .dispatched q d ∈ segment.out ++ segment.outcome.out p socket ∧ d.type.sends = some data)
    {point' : Pid → Option ActorPoint}
    (hpoint : ∀ q, point' q = if q = p then some segment.outcome.point else s.point q) :
    ReceiveLog segment.memory point' (trace ++ (segment.out ++ segment.outcome.out p socket)) := by
  obtain ⟨before, hfind, htransfer⟩ := hran.transfer howned
  have hmem : ∀ {o : SimOutput}, o.quiet = false → o ∈ segment.out ++ segment.outcome.out p socket →
      o ∈ deliveryLog (segment.out ++ segment.outcome.out p socket) := by
    intro o hquiet ho
    exact List.mem_filter.mpr ⟨ho, by rw [hquiet]; rfl⟩
  refine h.grow hran.turn.next hsent ?_ ?_ ?_ ?_ ?_
  · exact fun x data hx => (htransfer.strings hx).imp_right fun hnew => List.mem_of_mem_filter hnew
  · exact fun b x hb => Or.inl (htransfer.buffers hb)
  · intro c comm b hc hb
    obtain ⟨hcomm, hfound⟩ := htransfer.comms howned hc hb
    refine ⟨hcomm.imp_right ?_, fun x hx => hfound x (hmem rfl hx)⟩
    rintro ⟨hnode, hbefore⟩
    exact ⟨hnode, h.returned p c b (point_eq_some.mpr ⟨before, hfind, hbefore⟩)⟩
  · intro q c b hq
    rw [hpoint] at hq
    split at hq
    · -- a segment does not end in a return
      rw [Option.some.injEq] at hq
      cases houtcome : segment.outcome with
      | finished ack sendAck quitReceived =>
          rw [houtcome] at hq
          cases quitReceived <;> cases hq
      | _ => rw [houtcome] at hq; cases hq
    · exact Or.inl hq
  · exact fun n x hx => htransfer.found howned (hmem rfl hx)

/-- The buffers after SimGrid has written into some of them. -/
theorem find_written {writes : List (Ptr × Ptr)} {buffers : UnorderedMap Ptr (Option Ptr)} {b x : Ptr}
    (h : (writes.foldl (fun buffers write => buffers.modify write.1 fun _ => some write.2)
      buffers).find b = some (some x)) : buffers.find b = some (some x) ∨ (b, x) ∈ writes := by
  induction writes generalizing buffers with
  | nil => exact Or.inl h
  | cons write writes ih =>
      rw [List.foldl_cons] at h
      rcases ih h with hfirst | hrest
      · rw [UnorderedMap.find_modify] at hfirst
        split at hfirst
        · rename_i heq
          obtain ⟨-, -, hwrite⟩ := Option.map_eq_some_iff.mp hfirst
          rw [Option.some.injEq] at hwrite
          rw [heq, ← hwrite]
          exact Or.inr List.mem_cons_self
        · exact Or.inl hfirst
      · exact Or.inr (List.mem_cons_of_mem _ hrest)

theorem ReceiveLog.spawn (connections : List ActorConnection) :
    ReceiveLog {} (Simulation.spawn K connections).point [] where
  sent x data hx := by cases hx
  string x data hx := by cases hx
  written b x hb := by cases hb
  opened c comm b hc := by cases hc
  undelivered c comm b hc := by cases hc
  returned p c b hp := by
    obtain ⟨actor, hfind, hpoint⟩ := point_eq_some.mp hp
    rw [find_spawn hfind] at hpoint
    cases hpoint
  found_lt n x hx := by cases hx

theorem ReceiveLog.step (h : ReceiveLog s.memory s.point trace) (howned : Owned s.memory)
    (hsuspended : AllSuspended s) (hstep : SimStep s event t out) :
    ReceiveLog t.memory t.point (trace ++ out) := by
  have hidle : t.memory = s.memory → out = [] →
      (∀ q c b, t.point q = some (.returned (.address c) (.mailboxGetAsync b)) →
        s.point q = some (.returned (.address c) (.mailboxGetAsync b))) →
      ReceiveLog t.memory t.point (trace ++ out) := by
    rintro hmemory rfl hpoint
    rw [hmemory]
    exact h.grow le_rfl (fun x data hx => by cases hx) (fun x data hx => Or.inl hx)
      (fun b x hb => Or.inl hb) (fun c comm b hc _ => ⟨Or.inl hc, fun x hx => by cases hx⟩)
      (fun q c b hq => Or.inl (hpoint q c b hq)) (fun n x hx => by cases hx)
  have hstays : ∀ q c b, t.point q = some (.returned (.address c) (.mailboxGetAsync b)) →
      s.point q = some (.returned (.address c) (.mailboxGetAsync b)) ∨ WasOpened out b c := by
    intro q c b hq
    obtain ⟨actor, hfind, hpoint⟩ := point_eq_some.mp hq
    cases hstep.moved hfind with
    | stayed hs => exact Or.inl (point_eq_some.mpr ⟨actor, hs, hpoint⟩)
    | ran before socket segment _ _ _ heq =>
        subst heq
        cases houtcome : segment.outcome with
        | finished ack sendAck quitReceived =>
            rw [houtcome] at hpoint
            cases quitReceived <;> cases hpoint
        | _ => rw [houtcome] at hpoint; cases hpoint
    | served before call frame ret hevent hbefore hat heq =>
        subst heq hevent
        cases hpoint
        rcases hsuspended q before call _ hbefore hat with hloop | ⟨d, hsuspends⟩
        · cases hloop
        · obtain ⟨mbox, -, rfl⟩ := hsuspends.serves
          cases hstep with
          | ran _ _ _ _ hran => cases hran
          | served _ actor call' _ _ _ _ _ hfind' hat' =>
              rw [hbefore, Option.some.injEq] at hfind'
              subst hfind'
              rw [hat] at hat'
              cases hat'
              exact Or.inr ⟨q, mbox.name, List.mem_singleton_self _⟩
    | started before _ _ _ heq => subst heq; cases hpoint
    | spawned p before name host connectAck frame _ _ _ _ heq => subst heq; cases hpoint
    | connected before connectAck socket _ _ _ heq => subst heq; cases hpoint
    | connectFailed before _ heq => subst heq; cases hpoint
  have hsent : ∀ x data, .newString x data ∈ out →
      ∃ q d, .dispatched q d ∈ out ∧ d.type.sends = some data := fun x data hx => hstep.sends hx
  cases hstep with
  | ran _ p socket segment hran => exact h.ran howned hran hsent hran.points
  | served p actor call frame ret kernel _ _ _ _ _ hserve =>
      have hmemory : t.memory = s.memory := by
        rcases serve_cases hserve with rfl | ⟨_, _, _, _, -, -, -, rfl⟩
        · rfl
        · rfl
      rw [hmemory]
      exact h.grow le_rfl hsent (fun x data hx => Or.inl hx) (fun b x hb => Or.inl hb)
        (fun c comm b hc _ => ⟨Or.inl hc, fun x hx => by cases List.mem_singleton.mp hx⟩) hstays
        (fun n x hx => by cases List.mem_singleton.mp hx)
  | progressed event kernel writes =>
      have hfound : ∀ n x, .found n (some x) ∉
          writes.map fun write => SimOutput.transferred write.1 write.2 := by
        intro n x hx
        obtain ⟨write, -, heq⟩ := List.mem_map.mp hx
        cases heq
      refine h.grow le_rfl hsent (fun x data hx => Or.inl hx) ?_
        (fun c comm b hc _ => ⟨Or.inl hc, hfound comm.node⟩) hstays
        (fun n x hx => absurd hx (hfound n x))
      intro b x hb
      exact (find_written hb).imp_right fun hwrite => List.mem_map.mpr ⟨(b, x), hwrite, rfl⟩
  | started p actor _ hfind _ =>
      refine hidle rfl rfl fun q c b hq => ?_
      rcases hstays q c b hq with hold | ⟨_, _, hopened⟩
      · exact hold
      · cases hopened
  | progressFailed => exact hidle rfl rfl fun q c b hq => hq
  | round => exact hidle rfl rfl fun q c b hq => hq
  | connected =>
      refine hidle rfl rfl fun q c b hq => ?_
      rcases hstays q c b hq with hold | ⟨_, _, hopened⟩
      · exact hold
      · cases hopened
  | connectFailed =>
      refine hidle rfl rfl fun q c b hq => ?_
      rcases hstays q c b hq with hold | ⟨_, _, hopened⟩
      · exact hold
      · cases hopened

/-- What the entry of a comm holds is a payload that was sent and that SimGrid has written into the
buffer of its receive, and it was not found there before. -/
theorem ReceiveLog.taken (h : ReceiveLog m point trace) {c : Address} {data : Bytes}
    (htaken : Taken c m m' out data) :
    ∃ stored, m.store.comms.find c = some stored ∧
      ((stored.receptionBuffer = none ∧ data = [] ∧ m' = m) ∨
        ∃ b x, stored.receptionBuffer = some b ∧ WasOpened trace b c ∧ .transferred b x ∈ trace ∧
          WasSent trace x data ∧ (∀ y, .found stored.node (some y) ∉ trace) ∧
          m'.store.comms.find c = some { stored with receptionBuffer := none }) := by
  cases htaken with
  | nothing stored hfind hbuffer => exact ⟨stored, hfind, Or.inl ⟨hbuffer, rfl, rfl⟩⟩
  | payload stored b x _ hfind hbuffer hx hdata =>
      have hnew := h.string x data hdata
      refine ⟨stored, hfind, Or.inr ⟨b, x, hbuffer, h.opened c stored b hfind hbuffer,
        h.written b x hx, ⟨hnew, h.sent x data hnew⟩, h.undelivered c stored b hfind hbuffer, ?_⟩⟩
      rw [Memory.takePayload, UnorderedMap.find_modify_self, hfind]
      rfl

end

end RemoteSimgrid
