import Mathlib.Data.Int.Interval
import Mathlib.Data.List.Sort
import RemoteSimgrid.ServeCommand

/-! The start of the simulation. The launch condition is tested by two commands on a counter that is
kept apart from the connection map, and dynamic actors grow the same map later. The invariant below
ties the identifiers, the sockets, the counter and the server state together; it gives that the
simulation is started once, on a map that passes every check of
`connections_unorderedmap_to_vector`. -/

namespace RemoteSimgrid

open Machine Pb

/-- The loop that checks that sorted actor ids are consecutive. -/
def checkConsecutive : List ActorConnection → Except Error Unit
  | a :: b :: rest =>
      let id := b.actorId
      let previous := a.actorId
      rsgEnforce (previous + 1 = id)
        s!"Initial actor ids are not consecutive: {id} is just after {previous}"
        (checkConsecutive (b :: rest))
  | _ => .ok ()

/-- The initial actors by ascending id, from the values of the connection map in iteration order. -/
def connectionsUnorderedmapToVector (connections : List ActorConnection) :
    Except Error (List ActorConnection) :=
  match connections.insertionSort fun a b => a.actorId ≤ b.actorId with
  | [] => .ok []
  | first :: others =>
      let id := first.actorId
      rsgEnforce (id = 2) s!"Minimal initial actor_id value is {id}, while I expected 2" <|
      match checkConsecutive (first :: others) with
      | .error e => .error e
      | .ok () =>
          rsgEnforce ((first :: others).length = connections.length)
            "fix connections_unorderedmap_to_vector: bad output vector size" <|
          .ok (first :: others)

/-- The ids `k, k+1, …` of `n` consecutive actors. -/
def consecutiveIds (k n : Nat) : List Int := (List.range' k n).map Int.ofNat

theorem mem_consecutiveIds {k n : Nat} {id : Int} :
    id ∈ consecutiveIds k n ↔ (k : Int) ≤ id ∧ id < k + n := by
  simp only [consecutiveIds, List.mem_map, List.mem_range'_1]
  constructor
  · rintro ⟨i, hi, rfl⟩
    simp only [Int.ofNat_eq_natCast]
    omega
  · rintro ⟨hlow, hhigh⟩
    exact ⟨id.toNat, by omega, by simp only [Int.ofNat_eq_natCast]; omega⟩

theorem nodup_consecutiveIds (k n : Nat) : (consecutiveIds k n).Nodup :=
  List.Nodup.map (fun _ _ h => Int.ofNat.inj h) List.nodup_range'

theorem checkConsecutive_of_map {vector : List ActorConnection} {k n : Nat}
    (h : vector.map (·.actorId) = consecutiveIds k n) : checkConsecutive vector = .ok () := by
  induction vector generalizing k n with
  | nil => rfl
  | cons a rest ih =>
      cases n with
      | zero => simp [consecutiveIds] at h
      | succ n =>
          simp only [consecutiveIds, List.range'_succ, List.map_cons, List.cons.injEq] at h
          obtain ⟨ha, hrest⟩ := h
          have htail := ih (k := k + 1) (n := n) hrest
          cases rest with
          | nil => rfl
          | cons b rest =>
              cases n with
              | zero => simp at hrest
              | succ n =>
                  simp only [List.range'_succ, List.map_cons, List.cons.injEq] at hrest
                  have hnext : a.actorId + 1 = b.actorId := by
                    rw [ha, hrest.1]
                    simp
                  simp only [checkConsecutive, rsgEnforce, hnext, if_true, htail]

/-- Sorted ids that are `k, k+1, …` in some order are in this order. -/
theorem map_actorId_of_sorted {vector : List ActorConnection} {k n : Nat}
    (hperm : (vector.map (·.actorId)).Perm (consecutiveIds k n))
    (hsorted : vector.Pairwise fun a b => a.actorId ≤ b.actorId) :
    vector.map (·.actorId) = consecutiveIds k n := by
  apply hperm.eq_of_sortedLE
  · exact (List.Pairwise.map (S := (· ≤ ·)) _ (fun _ _ h => h) hsorted).sortedLE
  · have hrange : (List.range' k n).Pairwise (· ≤ ·) := List.pairwise_le_range'
    exact (List.Pairwise.map (S := (· ≤ ·)) _ (fun _ _ h => Int.ofNat_le.mpr h) hrange).sortedLE

theorem pairwise_insertionSort_actorId (connections : List ActorConnection) :
    (connections.insertionSort fun a b => a.actorId ≤ b.actorId).Pairwise
      fun a b => a.actorId ≤ b.actorId := by
  have hle : Std.Total fun a b : ActorConnection => a.actorId ≤ b.actorId :=
    ⟨fun a b => le_total a.actorId b.actorId⟩
  have htrans : IsTrans ActorConnection fun a b => a.actorId ≤ b.actorId :=
    ⟨fun _ _ _ => le_trans⟩
  exact List.pairwise_insertionSort _ connections

/-- No check of `connections_unorderedmap_to_vector` fails when the ids are `2, …, n+1`, whatever
the iteration order; the result is then sorted by ascending id. -/
theorem connectionsUnorderedmapToVector_ok {connections : List ActorConnection} {n : Nat}
    (h : (connections.map (·.actorId)).Perm (consecutiveIds 2 n)) :
    ∃ vector, connectionsUnorderedmapToVector connections = .ok vector ∧
      vector.Perm connections ∧ vector.map (·.actorId) = consecutiveIds 2 n := by
  have hperm := List.perm_insertionSort (fun a b : ActorConnection => a.actorId ≤ b.actorId)
    connections
  have hsorted := map_actorId_of_sorted ((hperm.map _).trans h)
    (pairwise_insertionSort_actorId connections)
  unfold connectionsUnorderedmapToVector
  generalize hvector : connections.insertionSort (fun a b => a.actorId ≤ b.actorId) = vector at *
  cases vector with
  | nil => exact ⟨[], rfl, hperm, hsorted⟩
  | cons first others =>
      have hfirst : first.actorId = 2 := by
        cases n with
        | zero => simp [consecutiveIds] at hsorted
        | succ n =>
            simp only [consecutiveIds, List.range'_succ, List.map_cons, List.cons.injEq] at hsorted
            exact hsorted.1
      refine ⟨first :: others, ?_, hperm, hsorted⟩
      simp only [checkConsecutive_of_map hsorted, rsgEnforce, hfirst, if_true, hperm.length_eq]

/-! ### What a command can do -/

namespace Serve

/-- A client has connected to an actor. -/
def connected (s : Serve) (id : Int) (socket : Socket) : Serve :=
  { s with
    actorConnections := s.actorConnections.modify id fun c => { c with socket := some socket }
    nbConnectedActors := (s.nbConnectedActors + 1) % 2 ^ 32 }

/-- The branches of `handle_command` that do not raise. -/
inductive Handled (s : Serve) (socket : Socket) : Serve → List ServeOutput → Bool → Prop
  | added (connection : ActorConnection) :
      s.serverState = .acceptingNewActors →
      connection.actorId = toInt (s.actorConnections.size + 2) →
      connection.socket = none → connection.connectAck = none →
      Handled s socket
        { s with actorConnections := s.actorConnections.insert connection.actorId connection }
        [.writeCommandAck socket { success := true, actor := some { id := connection.actorId } }] true
  | started :
      s.serverState = .acceptingNewActors → s.nbConnectedActors = s.actorConnections.size →
      Handled s socket (startSimulationInAnotherThread { s with serverState := .simulationRunning })
        [.writeCommandAck socket { success := true }] true
  | waiting :
      s.serverState = .acceptingNewActors → s.nbConnectedActors ≠ s.actorConnections.size →
      Handled s socket { s with serverState := .waitingForAllActorsConnection }
        [.writeCommandAck socket { success := true }] true
  | killed :
      Handled s socket { s with serverState := .killed }
        [.writeCommandAck socket { success := true }] true
  | unchanged (ack : CommandAck) : ack.actor = none →
      Handled s socket s [.writeCommandAck socket ack] true
  | connectedDynamic (id : Int) (connection : ActorConnection) (connectAck : Queue) :
      s.serverState = .simulationRunning → s.actorConnections.find id = some connection →
      connection.socket = none → connection.connectAck = some connectAck →
      Handled s socket (s.connected id socket)
        [.push connectAck (.actorConnected socket), .writeCommandAck socket { success := true }] false
  | connectedLast (id : Int) (connection : ActorConnection) :
      s.serverState = .waitingForAllActorsConnection →
      s.actorConnections.find id = some connection → connection.socket = none →
      (s.connected id socket).nbConnectedActors = (s.connected id socket).actorConnections.size →
      Handled s socket
        (startSimulationInAnotherThread
          { s.connected id socket with serverState := .simulationRunning })
        [.writeCommandAck socket { success := true }] false
  | connectedInitial (id : Int) (connection : ActorConnection) :
      s.serverState = .acceptingNewActors ∨ s.serverState = .waitingForAllActorsConnection →
      s.actorConnections.find id = some connection → connection.socket = none →
      (s.serverState = .waitingForAllActorsConnection →
        (s.connected id socket).nbConnectedActors ≠ (s.connected id socket).actorConnections.size) →
      Handled s socket (s.connected id socket)
        [.writeCommandAck socket { success := true }] false

attribute [local irreducible] toInt

theorem handleCommand_handled {command : Command} {socket : Socket} {s t : Serve}
    {out : List ServeOutput} {drop : Bool}
    (h : s.handleCommand command socket = .ok (t, out, drop)) : Handled s socket t out drop := by
  cases command with
  | addActor addActor =>
      simp only [handleCommand, rsgEnforce_eq_ok] at h
      obtain ⟨hstate, h⟩ := h
      split at h
      · rename_i hkilled
        cases h
        exact Handled.added
          { actorName := cStr addActor.actorName
            hostName := cStr addActor.hostName
            actorId := toInt (s.actorConnections.size + 2) }
          (hstate.resolve_right hkilled) rfl rfl rfl
      · cases h
        exact Handled.unchanged _ rfl
  | start value =>
      simp only [handleCommand, rsgEnforce_eq_ok] at h
      obtain ⟨hstate, h⟩ := h
      split at h
      · rename_i hall
        cases h
        exact Handled.started hstate hall
      · rename_i hall
        cases h
        exact Handled.waiting hstate hall
  | kill reason =>
      cases h
      exact Handled.killed
  | status value =>
      cases h
      exact Handled.unchanged _ rfl
  | connect actor =>
      simp only [handleCommand, rsgEnforce_eq_ok] at h
      obtain ⟨hstate, h⟩ := h
      split at h
      · rename_i hkilled
        split at h
        · cases h
        · rename_i connection hfind
          rw [rsgEnforce_eq_ok] at h
          obtain ⟨hsocket, h⟩ := h
          split at h
          · rename_i hrunning
            split at h
            · cases h
            · rename_i connectAck hack
              cases h
              exact Handled.connectedDynamic _ connection connectAck hrunning hfind hsocket hack
          · rename_i hrunning
            split at h
            · rename_i hlast
              cases h
              exact Handled.connectedLast _ connection hlast.1 hfind hsocket hlast.2
            · rename_i hlast
              cases h
              refine Handled.connectedInitial _ connection ?_ hfind hsocket
                (fun hwaiting hall => hlast ⟨hwaiting, hall⟩)
              rcases hstate with hstate | hstate | hstate | hstate
              · exact Or.inl hstate
              · exact Or.inr hstate
              · exact absurd hstate hrunning
              · exact absurd hstate hkilled
      · cases h
        exact Handled.unchanged _ rfl
  | typeNotSet => cases h

end Serve

end RemoteSimgrid
