import Mathlib.Tactic.Linarith
import RemoteSimgrid.ServeLaunch

/-! The invariant of the command thread and what it gives for every run. The ids are consecutive and
the sockets distinct until the simulation is started; the counter counts the connected entries in
every state. -/

namespace RemoteSimgrid

open Machine Pb

/-- The ids acknowledged to the accepted AddActor commands, in order. -/
def acceptedIds (out : List ServeOutput) : List Int :=
  out.filterMap fun
    | .writeCommandAck _ ack => ack.actor.map (·.id)
    | .push _ _ => none

@[simp] theorem acceptedIds_append (out out' : List ServeOutput) :
    acceptedIds (out ++ out') = acceptedIds out ++ acceptedIds out' := List.filterMap_append

/-- The number of entries whose socket is not null. -/
def connectedEntries (m : UnorderedMap Int ActorConnection) : Nat :=
  m.values.countP (·.socket.isSome)

/-- A map of `n` actors, all registered and connected, that can be given to the simulation. -/
structure Registered (n : Nat) (m : UnorderedMap Int ActorConnection) : Prop where
  ids : ∀ id, (m.find id).isSome ↔ 2 ≤ id ∧ id ≤ n + 1
  own : ∀ id c, m.find id = some c → c.actorId = id
  connected : ∀ id c, m.find id = some c → c.socket ≠ none
  distinct : ∀ id id' c c', m.find id = some c → m.find id' = some c' → c.socket = c'.socket → id = id'

/-- The keys of the map are positive ints, each the id of its entry. -/
def KeyedById (m : UnorderedMap Int ActorConnection) : Prop :=
  ∀ id c, m.find id = some c → c.actorId = id ∧ 0 < id ∧ id < 2 ^ 31

theorem connectedEntries_le (m : UnorderedMap Int ActorConnection) : connectedEntries m ≤ m.size := by
  rw [← UnorderedMap.length_values]
  exact List.countP_le_length

theorem connectedEntries_insert {m : UnorderedMap Int ActorConnection} {id : Int}
    {c : ActorConnection} (hid : m.find id = none) (hc : c.socket = none) :
    connectedEntries (m.insert id c) = connectedEntries m := by
  simp [connectedEntries, UnorderedMap.values_insert c hid, hc]

theorem connectedEntries_connect {m : UnorderedMap Int ActorConnection} {id : Int}
    {c : ActorConnection} (hid : m.find id = some c) (hc : c.socket = none) (socket : Socket) :
    connectedEntries (m.modify id fun c => { c with socket := some socket }) =
      connectedEntries m + 1 ∧ connectedEntries m < m.size := by
  obtain ⟨rest, hperm, hvalues⟩ :=
    UnorderedMap.values_modify (fun c => { c with socket := some socket }) hid
  have hcount : connectedEntries m = rest.countP (·.socket.isSome) := by
    simp [connectedEntries, hperm.countP_eq, hc]
  have hlength : m.size = rest.length + 1 := by
    rw [← UnorderedMap.length_values, hperm.length_eq, List.length_cons]
  have hle : rest.countP (·.socket.isSome) ≤ rest.length := List.countP_le_length
  constructor
  · rw [hcount]
    simp [connectedEntries, hvalues]
  · omega

/-- All sockets are set when as many entries are connected as there are entries. -/
theorem socket_ne_none {m : UnorderedMap Int ActorConnection} (h : connectedEntries m = m.size)
    {id : Int} {c : ActorConnection} (hid : m.find id = some c) : c.socket ≠ none := by
  rw [connectedEntries, ← UnorderedMap.length_values, List.countP_eq_length] at h
  have hc := h c (UnorderedMap.mem_values.mpr ⟨id, hid⟩)
  intro hnone
  rw [hnone] at hc
  cases hc

theorem exists_socket_none {m : UnorderedMap Int ActorConnection} (h : connectedEntries m < m.size) :
    ∃ id c, m.find id = some c ∧ c.socket = none := by
  rw [connectedEntries, ← UnorderedMap.length_values] at h
  by_contra hall
  push Not at hall
  refine absurd (List.countP_eq_length.mpr ?_) h.ne
  intro c hc
  obtain ⟨id, hid⟩ := UnorderedMap.mem_values.mp hc
  exact Option.isSome_iff_ne_none.mpr (hall id c hid)

theorem map_actorId_values {m : UnorderedMap Int ActorConnection}
    (h : ∀ id c, m.find id = some c → c.actorId = id) : m.values.map (·.actorId) = m.keys := by
  rw [UnorderedMap.values, AList.keys, List.keys, List.map_map]
  apply List.map_congr_left
  rintro ⟨id, c⟩ hmem
  exact h id c (AList.mem_lookup_iff.mpr hmem)

/-- There are fewer ids than positive ints, so the counter never wraps. -/
theorem KeyedById.size_lt {m : UnorderedMap Int ActorConnection} (h : KeyedById m) :
    m.size < 2 ^ 31 := by
  have hsub : m.keys.toFinset ⊆ Finset.Ioo (0 : Int) (2 ^ 31) := by
    intro id hid
    rw [List.mem_toFinset, ← AList.mem_keys] at hid
    obtain ⟨c, hc⟩ := Option.isSome_iff_exists.mp (AList.lookup_isSome.mpr hid)
    exact Finset.mem_Ioo.mpr (h id c hc).2
  have hcard := Finset.card_le_card hsub
  rw [List.toFinset_card_of_nodup m.keys_nodup, Int.card_Ioo] at hcard
  have hlength : m.keys.length = m.size := by
    rw [UnorderedMap.size, AList.keys, List.keys, List.length_map]
  omega

theorem Registered.perm {n : Nat} {m : UnorderedMap Int ActorConnection} (h : Registered n m) :
    (m.values.map (·.actorId)).Perm (consecutiveIds 2 n) := by
  rw [map_actorId_values h.own]
  rw [List.perm_ext_iff_of_nodup m.keys_nodup (nodup_consecutiveIds 2 n)]
  intro id
  have hids := h.ids id
  have hmem : (m.find id).isSome ↔ id ∈ m.keys := AList.lookup_isSome.trans AList.mem_keys
  rw [← hmem, hids, mem_consecutiveIds]
  omega

/-! ### Before the start -/

/-- While no simulation has been started, the ids are consecutive, and a socket that has become the
socket of an entry is neither barely connected nor dropped, nor the socket of another entry. -/
structure Registering (n : Nat) (s : Serve) : Prop where
  size : s.actorConnections.size = n
  ids : ∀ id, (s.actorConnections.find id).isSome ↔ 2 ≤ id ∧ id ≤ n + 1
  barely : ∀ socket ∈ s.barelyConnectedSockets,
    socket ∈ s.sockets ∧ socket ∉ s.droppedSockets
  dropped : ∀ socket ∈ s.droppedSockets, socket ∈ s.sockets
  nodup : s.droppedSockets.Nodup
  taken : ∀ id c socket, s.actorConnections.find id = some c → c.socket = some socket →
    socket ∈ s.sockets ∧ socket ∉ s.barelyConnectedSockets ∧ socket ∉ s.droppedSockets
  distinct : ∀ id id' c c' socket, s.actorConnections.find id = some c →
    s.actorConnections.find id' = some c' → c.socket = some socket → c'.socket = some socket →
    id = id'

namespace Registering

variable {n : Nat} {s : Serve} {socket : Socket}

theorem init : Registering 0 {} where
  size := rfl
  ids id := by simp; omega
  barely := by simp
  dropped := by simp
  nodup := List.nodup_nil
  taken := by simp
  distinct := by simp

theorem accept (h : Registering n s) (hfresh : socket ∉ s.sockets) :
    Registering n { s with
      barelyConnectedSockets := insert socket s.barelyConnectedSockets
      sockets := insert socket s.sockets } where
  size := h.size
  ids := h.ids
  barely k hk := by
    rcases Finset.mem_insert.mp hk with rfl | hk
    · exact ⟨Finset.mem_insert_self _ _, fun hd => hfresh (h.dropped _ hd)⟩
    · exact ⟨Finset.mem_insert_of_mem (h.barely k hk).1, (h.barely k hk).2⟩
  dropped k hk := Finset.mem_insert_of_mem (h.dropped k hk)
  nodup := h.nodup
  taken id c k hid hc := by
    obtain ⟨hlive, hbarely, hdropped⟩ := h.taken id c k hid hc
    refine ⟨Finset.mem_insert_of_mem hlive, fun hk => ?_, hdropped⟩
    rcases Finset.mem_insert.mp hk with heq | hk
    · exact hfresh (heq ▸ hlive)
    · exact hbarely hk
  distinct := h.distinct

theorem delete (h : Registering n s) (hsocket : socket ∈ s.droppedSockets) :
    Registering n { s with
      droppedSockets := s.droppedSockets.erase socket
      sockets := s.sockets.erase socket } where
  size := h.size
  ids := h.ids
  barely k hk := by
    obtain ⟨hlive, hdropped⟩ := h.barely k hk
    have hne : k ≠ socket := fun heq => hdropped (heq ▸ hsocket)
    exact ⟨Finset.mem_erase.mpr ⟨hne, hlive⟩, fun hd => hdropped (List.mem_of_mem_erase hd)⟩
  dropped k hk := by
    obtain ⟨hne, hk⟩ := h.nodup.mem_erase_iff.mp hk
    exact Finset.mem_erase.mpr ⟨hne, h.dropped k hk⟩
  nodup := h.nodup.erase socket
  taken id c k hid hc := by
    obtain ⟨hlive, hbarely, hdropped⟩ := h.taken id c k hid hc
    have hne : k ≠ socket := fun heq => hdropped (heq ▸ hsocket)
    exact ⟨Finset.mem_erase.mpr ⟨hne, hlive⟩, hbarely,
      fun hd => hdropped (List.mem_of_mem_erase hd)⟩
  distinct := h.distinct

/-- The end of a command whose client is dropped. -/
theorem drop (h : Registering n s) (hsocket : socket ∈ s.barelyConnectedSockets) :
    Registering n (s.afterCommand socket true) where
  size := h.size
  ids := h.ids
  barely k hk := by
    obtain ⟨hne, hk⟩ := Finset.mem_erase.mp hk
    refine ⟨(h.barely k hk).1, fun hd => ?_⟩
    rcases List.mem_append.mp hd with hd | hd
    · exact (h.barely k hk).2 hd
    · exact hne (List.mem_singleton.mp hd)
  dropped k hk := by
    rcases List.mem_append.mp hk with hk | hk
    · exact h.dropped k hk
    · rw [List.mem_singleton.mp hk]
      exact (h.barely socket hsocket).1
  nodup := by
    refine List.nodup_append.mpr ⟨h.nodup, List.nodup_singleton _, ?_⟩
    intro a ha b hb heq
    rw [List.mem_singleton.mp hb] at heq
    exact (h.barely socket hsocket).2 (heq ▸ ha)
  taken id c k hid hc := by
    obtain ⟨hlive, hbarely, hdropped⟩ := h.taken id c k hid hc
    refine ⟨hlive, fun hk => hbarely (Finset.mem_of_mem_erase hk), fun hd => ?_⟩
    rcases List.mem_append.mp hd with hd | hd
    · exact hdropped hd
    · exact hbarely (List.mem_singleton.mp hd ▸ hsocket)
  distinct := h.distinct

/-- A client connects to an initial actor; its socket stays open. -/
theorem connect (h : Registering n s) (hsocket : socket ∈ s.barelyConnectedSockets) {id : Int}
    {c : ActorConnection} (hid : s.actorConnections.find id = some c) :
    Registering n ((s.connected id socket).afterCommand socket false) where
  size := (UnorderedMap.size_modify _ _ _).trans h.size
  ids j := by
    have hj := h.ids j
    by_cases heq : j = id
    · subst heq
      simpa [Serve.connected, Serve.afterCommand, hid] using hj
    · simpa [Serve.connected, Serve.afterCommand, heq] using hj
  barely k hk := h.barely k (Finset.mem_of_mem_erase hk)
  dropped := h.dropped
  nodup := h.nodup
  taken j d k hj hd := by
    simp only [Serve.connected, Serve.afterCommand, UnorderedMap.find_modify] at hj
    by_cases heq : j = id
    · rw [if_pos heq, hid] at hj
      cases hj
      cases hd
      exact ⟨(h.barely _ hsocket).1, Finset.notMem_erase _ _, (h.barely _ hsocket).2⟩
    · rw [if_neg heq] at hj
      obtain ⟨hlive, hbarely, hdropped⟩ := h.taken j d k hj hd
      exact ⟨hlive, fun hk => hbarely (Finset.mem_of_mem_erase hk), hdropped⟩
  distinct j j' d d' k hj hj' hd hd' := by
    simp only [Serve.connected, Serve.afterCommand, UnorderedMap.find_modify] at hj hj'
    by_cases heq : j = id <;> by_cases heq' : j' = id
    · rw [heq, heq']
    · rw [if_pos heq, hid] at hj
      rw [if_neg heq'] at hj'
      cases hj
      cases hd
      exact absurd hsocket (h.taken j' d' _ hj' hd').2.1
    · rw [if_neg heq] at hj
      rw [if_pos heq', hid] at hj'
      cases hj'
      cases hd'
      exact absurd hsocket (h.taken j d _ hj hd).2.1
    · rw [if_neg heq] at hj
      rw [if_neg heq'] at hj'
      exact h.distinct j j' d d' k hj hj' hd hd'

/-- The next id is free, and the registration keeps the ids consecutive. -/
theorem add (h : Registering n s) {c : ActorConnection} (hc : c.actorId = n + 2)
    (hsocket : c.socket = none) :
    s.actorConnections.find c.actorId = none ∧
      Registering (n + 1)
        { s with actorConnections := s.actorConnections.insert c.actorId c } := by
  have hfree : s.actorConnections.find c.actorId = none := by
    rw [← Option.not_isSome_iff_eq_none, h.ids, hc]
    omega
  have hold : ∀ {j : Int} {d : ActorConnection} {k : Socket},
      (s.actorConnections.insert c.actorId c).find j = some d → d.socket = some k →
      s.actorConnections.find j = some d := by
    intro j d k hj hd
    rw [UnorderedMap.find_insert] at hj
    split at hj
    · cases hj
      rw [hsocket] at hd
      cases hd
    · exact hj
  refine ⟨hfree, ?_⟩
  exact
    { size := by rw [UnorderedMap.size_insert c hfree, h.size]
      ids := fun id => by
        have hid := h.ids id
        rw [UnorderedMap.find_insert]
        by_cases heq : id = c.actorId
        · rw [if_pos ⟨heq, hfree⟩]
          simp only [Option.isSome_some, true_iff]
          omega
        · rw [if_neg (fun hand => heq hand.1), hid]
          omega
      barely := h.barely
      dropped := h.dropped
      nodup := h.nodup
      taken := fun j d k hj hd => h.taken j d k (hold hj hd) hd
      distinct := fun j j' d d' k hj hj' hd hd' =>
        h.distinct j j' d d' k (hold hj hd) (hold hj' hd') hd hd' }

/-- Once every entry is connected, the map can be given to the simulation. -/
theorem registered (h : Registering n s) (hkeyed : KeyedById s.actorConnections)
    (hall : connectedEntries s.actorConnections = s.actorConnections.size) :
    Registered n s.actorConnections where
  ids := h.ids
  own id c hid := (hkeyed id c hid).1
  connected id c hid := socket_ne_none hall hid
  distinct id id' c c' hid hid' heq := by
    obtain ⟨socket, hsocket⟩ := Option.ne_none_iff_exists'.mp (socket_ne_none hall hid)
    exact h.distinct id id' c c' socket hid hid' hsocket (heq ▸ hsocket)

end Registering

/-! ### Every state -/

theorem consecutiveIds_succ (k n : Nat) :
    consecutiveIds k (n + 1) = consecutiveIds k n ++ [((k + n : Nat) : Int)] := by
  simp [consecutiveIds, List.range'_1_concat]

/-- The invariant of `serve`, given what it has written so far. -/
structure LaunchInv (s : Serve) (out : List ServeOutput) : Prop where
  keyed : KeyedById s.actorConnections
  counted : s.nbConnectedActors = connectedEntries s.actorConnections
  notStarted : s.serverState = .acceptingNewActors ∨
    s.serverState = .waitingForAllActorsConnection → s.simulationThreads = []
  running : s.serverState = .simulationRunning → s.simulationThreads ≠ []
  waiting : s.serverState = .waitingForAllActorsConnection →
    connectedEntries s.actorConnections < s.actorConnections.size
  acked : acceptedIds out = consecutiveIds 2 (acceptedIds out).length
  once : s.simulationThreads.length ≤ 1
  registering : s.simulationThreads = [] → Registering (acceptedIds out).length s
  launched : ∀ m ∈ s.simulationThreads, Registered (acceptedIds out).length m

namespace LaunchInv

variable {s t : Serve} {out out' : List ServeOutput} {socket : Socket}

theorem init : LaunchInv {} [] where
  keyed := by simp [KeyedById]
  counted := rfl
  notStarted _ := rfl
  running h := by cases h
  waiting h := by cases h
  acked := rfl
  once := Nat.zero_le _
  registering _ := Registering.init
  launched m hm := by cases hm

/-- The counter after a connection counts the connected entries of the new map. -/
theorem counted_connected (h : LaunchInv s out) (socket : Socket) {id : Int} {c : ActorConnection}
    (hid : s.actorConnections.find id = some c) (hc : c.socket = none) :
    (s.connected id socket).nbConnectedActors =
        connectedEntries (s.connected id socket).actorConnections ∧
      KeyedById (s.connected id socket).actorConnections := by
  obtain ⟨hcount, hlt⟩ := connectedEntries_connect hid hc socket
  have hsize := h.keyed.size_lt
  have hcounted := h.counted
  constructor
  · simp only [Serve.connected] at hcount ⊢
    rw [hcount, hcounted]
    omega
  · intro j d hj
    simp only [Serve.connected, UnorderedMap.find_modify] at hj
    by_cases heq : j = id
    · rw [if_pos heq, hid] at hj
      cases hj
      exact heq ▸ h.keyed id c hid
    · rw [if_neg heq] at hj
      exact h.keyed j d hj

/-- A step that leaves the connection map, the counter and the simulation threads alone. -/
theorem same (h : LaunchInv s out) (hmap : t.actorConnections = s.actorConnections)
    (hnb : t.nbConnectedActors = s.nbConnectedActors)
    (hthreads : t.simulationThreads = s.simulationThreads) (hids : acceptedIds out' = [])
    (hnotStarted : t.serverState = .acceptingNewActors ∨
      t.serverState = .waitingForAllActorsConnection → s.simulationThreads = [])
    (hrunning : t.serverState = .simulationRunning → s.simulationThreads ≠ [])
    (hwaiting : t.serverState = .waitingForAllActorsConnection →
      connectedEntries s.actorConnections < s.actorConnections.size)
    (hregistering : s.simulationThreads = [] → Registering (acceptedIds out).length s →
      Registering (acceptedIds out).length t) :
    LaunchInv t (out ++ out') where
  keyed := hmap ▸ h.keyed
  counted := by rw [hnb, hmap, h.counted]
  notStarted hstate := hthreads ▸ hnotStarted hstate
  running hstate := hthreads ▸ hrunning hstate
  waiting hstate := by
    rw [hmap]
    exact hwaiting hstate
  acked := by
    rw [acceptedIds_append, hids, List.append_nil]
    exact h.acked
  once := hthreads ▸ h.once
  registering hnone := by
    rw [acceptedIds_append, hids, List.append_nil]
    rw [hthreads] at hnone
    exact hregistering hnone (h.registering hnone)
  launched m hm := by
    rw [acceptedIds_append, hids, List.append_nil]
    rw [hthreads] at hm
    exact h.launched m hm

attribute [local irreducible] toInt in
/-- A registration: the next id fits an int, so it is `n + 2`. -/
theorem add (h : LaunchInv s out) (hsocket : socket ∈ s.barelyConnectedSockets)
    (hstate : s.serverState = .acceptingNewActors) {c : ActorConnection}
    (hid : c.actorId = toInt (s.actorConnections.size + 2)) (hc : c.socket = none)
    (hfits : (acceptedIds out).length + 2 < 2 ^ 31) :
    LaunchInv
      (Serve.afterCommand socket true
        { s with actorConnections := s.actorConnections.insert c.actorId c })
      (out ++ [.writeCommandAck socket { success := true, actor := some { id := c.actorId } }]) := by
  have hnone := h.notStarted (Or.inl hstate)
  have hregistering := h.registering hnone
  have hnext : c.actorId = ((acceptedIds out).length : Int) + 2 := by
    rw [hid, hregistering.size, toInt_of_lt hfits]
    push_cast
    rfl
  obtain ⟨hfree, hadded⟩ := hregistering.add hnext hc
  have hids : acceptedIds (out ++ [.writeCommandAck socket
      { success := true, actor := some { id := c.actorId } }]) = acceptedIds out ++ [c.actorId] := by
    rw [acceptedIds_append]
    rfl
  have hlength : (acceptedIds (out ++ [.writeCommandAck socket
      { success := true, actor := some { id := c.actorId } }])).length =
      (acceptedIds out).length + 1 := by
    rw [hids]
    simp
  exact
    { keyed := fun j d hj => by
        simp only [Serve.afterCommand, UnorderedMap.find_insert] at hj
        split at hj
        · rename_i heq
          cases hj
          refine ⟨heq.1.symm, ?_⟩
          omega
        · exact h.keyed j d hj
      counted := by
        simp only [Serve.afterCommand]
        rw [connectedEntries_insert hfree hc, h.counted]
      notStarted := fun _ => hnone
      running := fun hrunning => by
        simp only [Serve.afterCommand, hstate] at hrunning
        cases hrunning
      waiting := fun hwaiting => by
        simp only [Serve.afterCommand, hstate] at hwaiting
        cases hwaiting
      acked := by
        rw [hlength, consecutiveIds_succ, ← h.acked, hids, hnext]
        push_cast
        rw [add_comm]
      once := h.once
      registering := fun _ => by
        rw [hlength]
        exact hadded.drop hsocket
      launched := fun m hm => by
        simp only [Serve.afterCommand, hnone] at hm
        cases hm }

/-- The start, on a map whose entries are all connected. -/
theorem start (h : LaunchInv s out) (hnone : s.simulationThreads = [])
    (hall : s.nbConnectedActors = s.actorConnections.size) (drop : Bool)
    (hids : acceptedIds out' = []) :
    LaunchInv
      (Serve.afterCommand socket drop
        (Serve.startSimulationInAnotherThread { s with serverState := .simulationRunning }))
      (out ++ out') where
  keyed := h.keyed
  counted := h.counted
  notStarted hstate := by
    simp only [Serve.afterCommand, Serve.startSimulationInAnotherThread] at hstate
    rcases hstate with hstate | hstate <;> cases hstate
  running _ := by simp [Serve.afterCommand, Serve.startSimulationInAnotherThread]
  waiting hstate := by
    simp only [Serve.afterCommand, Serve.startSimulationInAnotherThread] at hstate
    cases hstate
  acked := by
    rw [acceptedIds_append, hids, List.append_nil]
    exact h.acked
  once := by simp [Serve.afterCommand, Serve.startSimulationInAnotherThread, hnone]
  registering hthreads := by
    simp [Serve.afterCommand, Serve.startSimulationInAnotherThread] at hthreads
  launched m hm := by
    simp only [Serve.afterCommand, Serve.startSimulationInAnotherThread, hnone, List.nil_append,
      List.mem_singleton] at hm
    rw [acceptedIds_append, hids, List.append_nil, hm]
    exact (h.registering hnone).registered h.keyed (h.counted.symm.trans hall)

/-- A connection, before the test for the start. -/
theorem connect (h : LaunchInv s out) {id : Int} {c : ActorConnection}
    (hid : s.actorConnections.find id = some c) (hc : c.socket = none)
    (hsocket : socket ∈ s.barelyConnectedSockets)
    (hwaiting : s.serverState = .waitingForAllActorsConnection →
      (s.connected id socket).nbConnectedActors ≠ (s.connected id socket).actorConnections.size)
    (hids : acceptedIds out' = []) :
    LaunchInv ((s.connected id socket).afterCommand socket false) (out ++ out') where
  keyed := (h.counted_connected socket hid hc).2
  counted := (h.counted_connected socket hid hc).1
  notStarted := h.notStarted
  running := h.running
  waiting hstate := by
    have hne := hwaiting hstate
    rw [(h.counted_connected socket hid hc).1] at hne
    exact lt_of_le_of_ne (connectedEntries_le _) hne
  acked := by
    rw [acceptedIds_append, hids, List.append_nil]
    exact h.acked
  once := h.once
  registering hnone := by
    rw [acceptedIds_append, hids, List.append_nil]
    exact (h.registering hnone).connect hsocket hid
  launched m hm := by
    rw [acceptedIds_append, hids, List.append_nil]
    exact h.launched m hm

/-- The last connection that a waiting server needs. -/
theorem connectLast (h : LaunchInv s out) {id : Int} {c : ActorConnection}
    (hstate : s.serverState = .waitingForAllActorsConnection)
    (hid : s.actorConnections.find id = some c) (hc : c.socket = none)
    (hsocket : socket ∈ s.barelyConnectedSockets)
    (hall : (s.connected id socket).nbConnectedActors =
      (s.connected id socket).actorConnections.size)
    (hids : acceptedIds out' = []) :
    LaunchInv
      (Serve.afterCommand socket false
        (Serve.startSimulationInAnotherThread
          { s.connected id socket with serverState := .simulationRunning }))
      (out ++ out') := by
  have hnone := h.notStarted (Or.inr hstate)
  obtain ⟨hcounted, hkeyed⟩ := h.counted_connected socket hid hc
  have hregistering := (h.registering hnone).connect hsocket hid
  exact
    { keyed := hkeyed
      counted := hcounted
      notStarted := fun hbad => by
        simp only [Serve.afterCommand, Serve.startSimulationInAnotherThread] at hbad
        rcases hbad with hbad | hbad <;> cases hbad
      running := fun _ => by simp [Serve.afterCommand, Serve.startSimulationInAnotherThread]
      waiting := fun hbad => by
        simp only [Serve.afterCommand, Serve.startSimulationInAnotherThread] at hbad
        cases hbad
      acked := by
        rw [acceptedIds_append, hids, List.append_nil]
        exact h.acked
      once := by
        simp [Serve.afterCommand, Serve.startSimulationInAnotherThread, Serve.connected, hnone]
      registering := fun hthreads => by
        simp [Serve.afterCommand, Serve.startSimulationInAnotherThread] at hthreads
      launched := fun m hm => by
        simp only [Serve.afterCommand, Serve.startSimulationInAnotherThread, Serve.connected, hnone,
          List.nil_append, List.mem_singleton] at hm
        rw [acceptedIds_append, hids, List.append_nil, hm]
        exact hregistering.registered hkeyed (hcounted.symm.trans hall) }

end LaunchInv

end RemoteSimgrid
