import RemoteSimgrid.ServerHandshake

/-! Who keeps the sockets of the server. A socket is handed over from the collections of the command
thread to the entry of an actor, through a queue or the launch to the actor, and through `to_command`
back; nobody else has it at any time, although the pointers of deleted sockets are used again. -/

namespace RemoteSimgrid

open Machine Pb

/-- Who has a socket of the server; an entry, until the simulation is launched. -/
inductive Keeper where
  | barelyConnected
  | entry (id : Int)
  | queue (connectAck : Queue)
  | actor (p : Pid)
  | quitting
  | dropped
  deriving DecidableEq

/-- `maestro` gives the sockets of the entries to the initial actors. -/
def Keeper.spawned : Keeper → Keeper
  | .entry id => .actor id
  | keeper => keeper

/-- The actor has its socket, and has not ended. -/
def ActorPoint.connected (point : ActorPoint) : Bool :=
  !point.unconnected && decide (point ≠ .ended)

section

variable {K : S4u}

/-- The places where a socket is found. -/
structure Keeps (s : Server K) (keeper : Socket → Option Keeper) : Prop where
  live : ∀ k, keeper k ≠ none → k ∈ s.serve.sockets
  barely : ∀ k ∈ s.serve.barelyConnectedSockets, keeper k = some .barelyConnected
  dropped : ∀ k ∈ s.serve.droppedSockets, keeper k = some .dropped
  nodup : s.serve.droppedSockets.Nodup
  quitting : ∀ k, .actorQuit k ∈ s.toCommand → keeper k = some .quitting
  quits : ∀ k, s.toCommand.count (.actorQuit k) ≤ 1
  queued : ∀ queue k, .actorConnected k ∈ s.queues queue → keeper k = some (.queue queue)
  tells : ∀ queue k, (s.queues queue).count (.actorConnected k) ≤ 1
  actors : ∀ p actor, s.simulation.actors.find p = some actor → actor.point.connected = true →
    keeper actor.socket = some (.actor p)
  entries : s.serve.simulationThreads = [] → ∀ id c k,
    s.serve.actorConnections.find id = some c → c.socket = some k → keeper k = some (.entry id)
  given : s.maestro = .notCalled → ∀ map ∈ s.serve.simulationThreads, ∀ id c k,
    map.find id = some c → c.socket = some k → keeper k = some (.entry id)

/-- The counter of the connected clients, as long as it may wrap, and the maps that are given to the
simulation. -/
structure CountInv (s : Serve) : Prop where
  counted : s.nbConnectedActors = connectedEntries s.actorConnections % 2 ^ 32
  given : ∀ map ∈ s.simulationThreads, ∀ id c, map.find id = some c → c.socket ≠ none
  running : s.serverState = .simulationRunning → s.simulationThreads ≠ []

end

/-! ### The maps given to the simulation -/

namespace CountInv

variable {s t : Serve} {event : ServeEvent} {out : List ServeOutput}

theorem same (h : CountInv s) (hconnected : t.nbConnectedActors = s.nbConnectedActors)
    (hconnections : t.actorConnections = s.actorConnections)
    (hthreads : t.simulationThreads = s.simulationThreads)
    (hstate : t.serverState = .simulationRunning → s.serverState = .simulationRunning) :
    CountInv t where
  counted := by rw [hconnected, hconnections]; exact h.counted
  given := by rw [hthreads]; exact h.given
  running hrunning := by rw [hthreads]; exact h.running (hstate hrunning)

theorem insert (h : CountInv s) (id : Int) {c : ActorConnection} (hsocket : c.socket = none) :
    CountInv { s with actorConnections := s.actorConnections.insert id c } where
  counted := by
    rw [h.counted]
    by_cases hfree : s.actorConnections.find id = none
    · rw [connectedEntries_insert hfree hsocket]
    · have hsame : s.actorConnections.insert id c = s.actorConnections := by
        unfold UnorderedMap.insert
        exact if_pos (not_not.mp (mt UnorderedMap.find_eq_none.mpr hfree))
      rw [hsame]
  given := h.given
  running := h.running

/-- The counter does not wrap before it is compared with the number of entries. -/
theorem start (h : CountInv s) (hall : s.nbConnectedActors = s.actorConnections.size) :
    CountInv { s with serverState := .simulationRunning }.startSimulationInAnotherThread where
  counted := h.counted
  running _ := List.append_ne_nil_of_right_ne_nil _ nofun
  given map hmap id c hfind := by
    rcases List.mem_append.mp hmap with hmap | hmap
    · exact h.given map hmap id c hfind
    · rw [List.mem_singleton.mp hmap] at hfind
      refine socket_ne_none ?_ hfind
      have hcounted := h.counted
      have hle := connectedEntries_le s.actorConnections
      have hlt := Nat.mod_lt (connectedEntries s.actorConnections) (show 2 ^ 32 > 0 by omega)
      rw [Nat.mod_eq_of_lt (by omega)] at hcounted
      exact hcounted.symm.trans hall

theorem connect (h : CountInv s) {id : Int} {c : ActorConnection} (socket : Socket)
    (hfind : s.actorConnections.find id = some c) (hsocket : c.socket = none) :
    CountInv (s.connected id socket) where
  counted := by
    simp only [Serve.connected, (connectedEntries_connect hfind hsocket socket).1, h.counted]
    omega
  given := h.given
  running := h.running

theorem step (h : CountInv s) (hstep : ServeStep s event t out) : CountInv t := by
  cases hstep with
  | accept => exact h.same rfl rfl rfl id
  | delete => exact h.same rfl rfl rfl id
  | command socket command v _ dropClient _ hhandled =>
      suffices CountInv v from this.same rfl rfl rfl id
      cases hhandled with
      | added connection _ _ hnull => exact h.insert connection.actorId hnull
      | started _ hall => exact h.start hall
      | waiting => exact h.same rfl rfl rfl nofun
      | killed => exact h.same rfl rfl rfl nofun
      | unchanged => exact h
      | connectedDynamic id connection connectAck _ hfind hnull =>
          exact h.connect socket hfind hnull
      | connectedLast id connection _ hfind hnull hall =>
          exact (h.connect socket hfind hnull).start hall
      | connectedInitial id connection _ hfind hnull => exact h.connect socket hfind hnull
  | interthread msg _ _ _ _ hpopped =>
      cases hpopped with
      | finished => exact h.same rfl rfl rfl nofun
      | aborted => exact h.same rfl rfl rfl nofun
      | quit => exact h.same rfl rfl rfl id
      | created actorId => exact h.insert actorId rfl

theorem server_step {K : S4u} {platformFile : String} {s t : Server K} {event : ServerEvent K}
    {out : List ServerOutput} (h : CountInv s.serve) (hstep : ServerStep platformFile s event t out) :
    CountInv t.serve := by
  cases hstep with
  | popped msg rest serve out _ hserve => exact h.step (serveStep_cases hserve)
  | served event serve out _ hserve => exact h.step (serveStep_cases hserve)
  | _ => exact h

end CountInv

/-! ### Steps of the SimGrid thread -/

section

variable {K : S4u} {s t : Simulation K} {event : SimEvent K} {out : List SimOutput}

theorem Ran.find_socket {p : Pid} {socket : Socket} {segment : Segment}
    (h : Ran s event p socket segment) : ∃ point, s.actors.find p = some ⟨socket, point⟩ ∧
      point ≠ .ended := by
  cases h with
  | firstYield _ actor _ _ hfind hpoint => exact ⟨actor.point, hfind, by rw [hpoint]; exact nofun⟩
  | resumed _ actor _ _ _ _ hfind hpoint => exact ⟨actor.point, hfind, by rw [hpoint]; exact nofun⟩
  | decided _ _ _ _ hfind => exact ⟨_, hfind, nofun⟩
  | thinking _ _ _ _ hfind => exact ⟨_, hfind, nofun⟩
  | badThinkTime _ _ _ _ _ hfind => exact ⟨_, hfind, nofun⟩
  | readFailed _ _ _ _ hfind => exact ⟨_, hfind, nofun⟩
  | childAccepted _ _ _ _ _ hfind => exact ⟨_, hfind, nofun⟩
  | badCanConnectAck _ _ _ _ _ _ _ hfind => exact ⟨_, hfind, nofun⟩

/-- An actor that has its socket after a turn had it before. -/
theorem Ran.connected {p : Pid} {socket : Socket} {segment : Segment}
    (h : Ran s event p socket segment) (hconnected : segment.outcome.point.unconnected = false) :
    ∃ actor, s.actors.find p = some actor ∧ actor.socket = socket ∧
      actor.point.connected = true := by
  obtain ⟨point, hfind, hended⟩ := h.find_socket
  refine ⟨_, hfind, rfl, ?_⟩
  have hpoint : s.point p = some point := point_eq_some.mpr ⟨_, hfind, rfl⟩
  have hbefore : point.unconnected = false := by
    by_contra hunconnected
    rw [h.unconnected hpoint (Bool.eq_true_of_not_eq_false hunconnected)] at hconnected
    cases hconnected
  simp only [ActorPoint.connected, hbefore, hended, ne_eq, not_false_eq_true, decide_true,
    Bool.not_false, Bool.and_self]

theorem ActorPoint.connected_iff {point : ActorPoint} :
    point.connected = true ↔ point.unconnected = false ∧ point ≠ .ended := by
  simp [ActorPoint.connected]

/-- Where an actor that has its socket had it from. -/
theorem SimStep.connected_before (h : SimStep s event t out) {q : Pid} {actor : ServerActor}
    (hq : t.actors.find q = some actor) (hconnected : actor.point.connected = true) :
    (∃ before, s.actors.find q = some before ∧ before.socket = actor.socket ∧
      before.point.connected = true) ∨
    event = .connectAck (.actorConnected actor.socket) := by
  cases h.moved hq with
  | stayed hs => exact Or.inl ⟨actor, hs, rfl, hconnected⟩
  | ran before socket segment hbefore hran _ heq =>
      subst heq
      obtain ⟨actor', hfind, hsocket, hpoint⟩ :=
        hran.connected (ActorPoint.connected_iff.mp hconnected).1
      cases hfind.symm.trans hbefore
      exact Or.inl ⟨before, hbefore, rfl, hpoint⟩
  | started before _ hbefore hpoint heq =>
      subst heq
      exact Or.inl ⟨before, hbefore, rfl, by rw [hpoint]; rfl⟩
  | served before call frame ret _ hbefore hpoint heq =>
      subst heq
      refine Or.inl ⟨before, hbefore, rfl, ?_⟩
      rw [hpoint]
      cases frame <;> first | rfl | cases hconnected
  | spawned p before name host connectAck frame _ _ _ _ heq =>
      subst heq
      cases hconnected
  | connected before connectAck socket hevent _ _ heq =>
      subst heq
      exact Or.inr hevent
  | connectFailed before _ heq =>
      subst heq
      cases hconnected

/-- The messages of a step on `to_command` hold a socket only if its actor has just ended. -/
theorem SimStep.quits (h : SimStep s event t out) :
    (∀ k, .actorQuit k ∉ out.filterMap SimOutput.sent) ∨
    ∃ p before after, out.filterMap SimOutput.sent = [.actorQuit before.socket] ∧
      s.actors.find p = some before ∧ before.point.connected = true ∧
      t.actors.find p = some after ∧ after.point = .ended := by
  cases h with
  | ran _ p socket segment hran =>
      simp only [Simulation.conclude, List.filterMap_append]
      obtain ⟨point, hfind, -⟩ := hran.find_socket
      have hnone : ∀ {out : List SimOutput}, (∀ o ∈ out, o.internal = true) →
          ∀ k, .actorQuit k ∉ out.filterMap SimOutput.sent := by
        intro out hout k hmem
        rw [sent_of_internal hout] at hmem
        cases hmem
      cases hturn : hran.turn with
      | ends m out outcome _ hout hends =>
          simp only [sent_of_internal hout, List.nil_append]
          cases outcome with
          | finished ack sendAck quitReceived =>
              obtain ⟨rfl, rfl⟩ : sendAck = false ∧ quitReceived = true := by
                simpa [Outcome.ends] using hends
              obtain ⟨before, hbefore, hsocket, hpoint⟩ := hran.connected rfl
              refine Or.inr ⟨p, before, { before with point := .ended }, ?_, hbefore, hpoint, ?_, rfl⟩
              · rw [hsocket]
                rfl
              · rw [find_setPoint, if_pos rfl]
                simp only [hbefore, Option.map_some]
                rfl
          | raised e => exact Or.inl (fun k hmem => by cases List.mem_singleton.mp hmem)
          | _ => exact Or.inl (fun k hmem => by cases hmem)
      | replies m out ack _ hout =>
          simp only [sent_of_internal hout, List.nil_append]
          exact Or.inl (fun k hmem => by cases hmem)
      | suspends m out call frame _ hout =>
          simp only [sent_of_internal hout, List.nil_append]
          exact Or.inl (fun k hmem => by cases hmem)
      | requests out name host hout =>
          simp only [sent_of_internal hout, List.nil_append]
          exact Or.inl (fun k hmem => by cases hmem)
      | yields => exact Or.inl (fun k hmem => by cases hmem)
      | waits => exact Or.inl (fun k hmem => by cases hmem)
      | asks => exact Or.inl (fun k hmem => by cases List.mem_singleton.mp hmem)
      | delivers => exact Or.inl (fun k hmem => by cases hmem)
      | tells => exact Or.inl (fun k hmem => by cases hmem)
  | progressed e kernel writes =>
      refine Or.inl (fun k hmem => ?_)
      rw [sent_of_internal] at hmem
      · cases hmem
      · intro o ho
        obtain ⟨write, -, rfl⟩ := List.mem_map.mp ho
        rfl
  | served => exact Or.inl (fun k hmem => by cases hmem)
  | _ => exact Or.inl (fun k hmem => by cases hmem)

/-- An initial actor has the socket of its entry. -/
theorem find_spawn_socket {connections : List ActorConnection} {p : Pid} {actor : ServerActor}
    (h : (Simulation.spawn K connections).actors.find p = some actor) :
    ∃ connection ∈ connections, connection.actorId = p ∧
      actor.socket = connection.socket.getD 0 := by
  have hfold : ∀ (rest : List ActorConnection) (actors : UnorderedMap Pid ServerActor),
      rest ⊆ connections →
      (∀ q x, actors.find q = some x → ∃ connection ∈ connections, connection.actorId = q ∧
        x.socket = connection.socket.getD 0) →
      ∀ q x, (rest.foldl (fun actors connection => actors.insert connection.actorId
        { socket := connection.socket.getD 0, point := .spawned none }) actors).find q = some x →
      ∃ connection ∈ connections, connection.actorId = q ∧
        x.socket = connection.socket.getD 0 := by
    intro rest
    induction rest with
    | nil => exact fun actors _ hactors => hactors
    | cons connection rest ih =>
        intro actors hsub hactors
        apply ih _ (fun c hc => hsub (List.mem_cons_of_mem _ hc))
        intro q x hq
        rw [UnorderedMap.find_insert] at hq
        split at hq
        · rename_i heq
          cases hq
          exact ⟨connection, hsub List.mem_cons_self, heq.1.symm, rfl⟩
        · exact hactors q x hq
  exact hfold connections ∅ (fun _ hc => hc) (fun q x hq => by cases hq) p actor h

end

/-! ### Handing over -/

section

variable {keeper : Socket → Option Keeper} {k : Socket} {old new : Option Keeper}

/-- A socket that someone else keeps stays where it is. -/
theorem kept_of_ne {r : Keeper} {x : Socket} (hx : keeper x = some r) (hk : keeper k = old)
    (hne : some r ≠ old) : Function.update keeper k new x = some r := by
  have hother : x ≠ k := by
    rintro rfl
    exact hne (hx.symm.trans hk)
  rw [Function.update_of_ne hother, hx]

namespace Keeps

variable {K : S4u} {s t : Server K}

theorem init : Keeps ({} : Server K) (fun _ => none) where
  live k hk := absurd rfl hk
  barely k hk := by cases hk
  dropped k hk := by cases hk
  nodup := List.nodup_nil
  quitting k hk := by cases hk
  quits k := Nat.zero_le _
  queued queue k hk := by cases hk
  tells queue k := Nat.zero_le _
  actors p actor hfind := by cases hfind
  entries _ id c k hfind := by cases hfind
  given _ map hmap := by cases hmap

/-- The command thread accepts a client. -/
theorem accept (h : Keeps s keeper) (hfresh : k ∉ s.serve.sockets) :
    Keeps { s with
      serve := { s.serve with
        barelyConnectedSockets := insert k s.serve.barelyConnectedSockets
        sockets := insert k s.serve.sockets } }
      (Function.update keeper k (some .barelyConnected)) := by
  have hnone : keeper k = none := by
    by_contra hkept
    exact hfresh (h.live k hkept)
  have hkept : ∀ {x r}, keeper x = some r →
      Function.update keeper k (some .barelyConnected) x = some r :=
    fun hx => kept_of_ne hx hnone nofun
  exact
    { live := fun x hx => by
        by_cases heq : x = k
        · exact heq ▸ Finset.mem_insert_self _ _
        · rw [Function.update_of_ne heq] at hx
          exact Finset.mem_insert_of_mem (h.live x hx)
      barely := fun x hx => by
        rcases Finset.mem_insert.mp hx with rfl | hx
        · exact Function.update_self _ _ _
        · exact hkept (h.barely x hx)
      dropped := fun x hx => hkept (h.dropped x hx)
      nodup := h.nodup
      quitting := fun x hx => hkept (h.quitting x hx)
      quits := h.quits
      queued := fun queue x hx => hkept (h.queued queue x hx)
      tells := h.tells
      actors := fun p actor hfind hpoint => hkept (h.actors p actor hfind hpoint)
      entries := fun hnot id c x hfind hx => hkept (h.entries hnot id c x hfind hx)
      given := fun hnot map hmap id c x hfind hx => hkept (h.given hnot map hmap id c x hfind hx) }

/-- The command thread deletes a socket. -/
theorem delete (h : Keeps s keeper) (hdropped : k ∈ s.serve.droppedSockets) :
    Keeps { s with
      serve := { s.serve with
        droppedSockets := s.serve.droppedSockets.erase k
        sockets := s.serve.sockets.erase k } }
      (Function.update keeper k none) := by
  have hold := h.dropped k hdropped
  have hkept : ∀ {x r}, keeper x = some r → r ≠ .dropped → Function.update keeper k none x = some r :=
    fun hx hne => kept_of_ne hx hold (fun heq => hne (Option.some.inj heq))
  exact
    { live := fun x hx => by
        by_cases heq : x = k
        · rw [heq, Function.update_self] at hx
          exact absurd rfl hx
        · rw [Function.update_of_ne heq] at hx
          exact Finset.mem_erase.mpr ⟨heq, h.live x hx⟩
      barely := fun x hx => hkept (h.barely x hx) nofun
      dropped := fun x hx => by
        obtain ⟨hne, hx⟩ := h.nodup.mem_erase_iff.mp hx
        rw [Function.update_of_ne hne]
        exact h.dropped x hx
      nodup := h.nodup.erase k
      quitting := fun x hx => hkept (h.quitting x hx) nofun
      quits := h.quits
      queued := fun queue x hx => hkept (h.queued queue x hx) nofun
      tells := h.tells
      actors := fun p actor hfind hpoint => hkept (h.actors p actor hfind hpoint) nofun
      entries := fun hnot id c x hfind hx => hkept (h.entries hnot id c x hfind hx) nofun
      given := fun hnot map hmap id c x hfind hx =>
        hkept (h.given hnot map hmap id c x hfind hx) nofun }

/-- The end of a command: its socket is dropped, or has been handed over. -/
theorem command (h : Keeps s keeper) (hbarely : k ∈ s.serve.barelyConnectedSockets) (r : Keeper)
    {v : Serve} {queues : Queue → List InterthreadMessage} {drop : Bool}
    (hserve : t.serve = v.afterCommand k drop) (hqueues : t.queues = queues)
    (hcommand : t.toCommand = s.toCommand) (hsimulation : t.simulation = s.simulation)
    (hmaestro : t.maestro = s.maestro)
    (hsame : v.barelyConnectedSockets = s.serve.barelyConnectedSockets)
    (hdropped : v.droppedSockets = s.serve.droppedSockets) (hsockets : v.sockets = s.serve.sockets)
    (hrole : drop = true → r = .dropped)
    (hqueued : ∀ queue x, .actorConnected x ∈ queues queue →
      Function.update keeper k (some r) x = some (.queue queue))
    (htells : ∀ queue x, (queues queue).count (.actorConnected x) ≤ 1)
    (hentries : v.simulationThreads = [] → ∀ id c x, v.actorConnections.find id = some c →
      c.socket = some x → Function.update keeper k (some r) x = some (.entry id))
    (hgiven : s.maestro = .notCalled → ∀ map ∈ v.simulationThreads, ∀ id c x,
      map.find id = some c → c.socket = some x →
        Function.update keeper k (some r) x = some (.entry id)) :
    Keeps t (Function.update keeper k (some r)) := by
  have hold := h.barely k hbarely
  have hkept : ∀ {x r'}, keeper x = some r' → r' ≠ .barelyConnected →
      Function.update keeper k (some r) x = some r' :=
    fun hx hne => kept_of_ne hx hold (fun heq => hne (Option.some.inj heq))
  constructor
  · intro x hx
    rw [hserve]
    change x ∈ v.sockets
    rw [hsockets]
    by_cases heq : x = k
    · exact h.live x (by rw [heq, hold]; exact nofun)
    · rw [Function.update_of_ne heq] at hx
      exact h.live x hx
  · intro x hx
    rw [hserve] at hx
    change x ∈ v.barelyConnectedSockets.erase k at hx
    rw [hsame] at hx
    obtain ⟨hne, hx⟩ := Finset.mem_erase.mp hx
    rw [Function.update_of_ne hne]
    exact h.barely x hx
  · intro x hx
    rw [hserve] at hx
    change x ∈ (if drop then v.droppedSockets ++ [k] else v.droppedSockets) at hx
    rw [hdropped] at hx
    split at hx
    · rename_i hdrop
      rcases List.mem_append.mp hx with hx | hx
      · exact hkept (h.dropped x hx) nofun
      · rw [List.mem_singleton.mp hx, Function.update_self, hrole hdrop]
    · exact hkept (h.dropped x hx) nofun
  · rw [hserve]
    change (if drop then v.droppedSockets ++ [k] else v.droppedSockets).Nodup
    rw [hdropped]
    split
    · refine List.nodup_append.mpr ⟨h.nodup, List.nodup_singleton k, ?_⟩
      intro x hx y hy heq
      rw [heq, List.mem_singleton.mp hy] at hx
      cases (h.dropped k hx).symm.trans hold
    · exact h.nodup
  · rw [hcommand]
    exact fun x hx => hkept (h.quitting x hx) nofun
  · rw [hcommand]
    exact h.quits
  · rw [hqueues]
    exact hqueued
  · rw [hqueues]
    exact htells
  · rw [hsimulation]
    exact fun p actor hfind hpoint => hkept (h.actors p actor hfind hpoint) nofun
  · rw [hserve]
    exact hentries
  · rw [hserve, hmaestro]
    exact hgiven

/-- What is pushed on a queue is not the socket of a client. -/
theorem pushed (h : Keeps s keeper) (msg : InterthreadMessage) (hmsg : ∀ x, msg ≠ .actorConnected x)
    (queue : Queue) : (∀ queue' x, .actorConnected x ∈ pushOn s.queues queue msg queue' →
      keeper x = some (.queue queue')) ∧
    ∀ queue' x, (pushOn s.queues queue msg queue').count (.actorConnected x) ≤ 1 := by
  constructor
  · intro queue' x hx
    unfold pushOn at hx
    by_cases heq : queue' = queue
    · subst heq
      rw [Function.update_self] at hx
      rcases List.mem_append.mp hx with hx | hx
      · exact h.queued queue' x hx
      · exact absurd (List.mem_singleton.mp hx).symm (hmsg x)
    · rw [Function.update_of_ne heq] at hx
      exact h.queued queue' x hx
  · intro queue' x
    unfold pushOn
    by_cases heq : queue' = queue
    · subst heq
      rw [Function.update_self, List.count_append, List.count_singleton, if_neg]
      · exact h.tells queue' x
      · rw [beq_iff_eq]
        exact hmsg x
    · rw [Function.update_of_ne heq]
      exact h.tells queue' x

/-- The socket of a client is pushed on the queue of its actor. -/
theorem told (h : Keeps s keeper) (hold : keeper k = some .barelyConnected) (queue : Queue) :
    (∀ queue' x, .actorConnected x ∈ pushOn s.queues queue (.actorConnected k) queue' →
      Function.update keeper k (some (.queue queue)) x = some (.queue queue')) ∧
    ∀ queue' x, (pushOn s.queues queue (.actorConnected k) queue').count (.actorConnected x) ≤ 1 := by
  have hkept : ∀ queue' x, .actorConnected x ∈ s.queues queue' →
      Function.update keeper k (some (.queue queue)) x = some (.queue queue') :=
    fun queue' x hx => kept_of_ne (h.queued queue' x hx) hold nofun
  constructor
  · intro queue' x hx
    unfold pushOn at hx
    by_cases heq : queue' = queue
    · subst heq
      rw [Function.update_self] at hx
      rcases List.mem_append.mp hx with hx | hx
      · exact hkept queue' x hx
      · cases List.mem_singleton.mp hx
        exact Function.update_self _ _ _
    · rw [Function.update_of_ne heq] at hx
      exact hkept queue' x hx
  · intro queue' x
    unfold pushOn
    by_cases heq : queue' = queue
    · subst heq
      rw [Function.update_self, List.count_append, List.count_singleton]
      split
      · rename_i hsame
        cases eq_of_beq hsame
        have hnot : (s.queues queue').count (.actorConnected k) = 0 := by
          refine List.count_eq_zero_of_not_mem fun hmem => ?_
          cases (h.queued queue' k hmem).symm.trans hold
        omega
      · exact h.tells queue' x
    · rw [Function.update_of_ne heq]
      exact h.tells queue' x

/-- A command is handled. -/
theorem handled (h : Keeps s keeper) (hconnections : ConnectionInv s.serve)
    (hcount : CountInv s.serve) {v : Serve} {out : List ServeOutput} {drop : Bool}
    (hbarely : k ∈ s.serve.barelyConnectedSockets) (hhandled : s.serve.Handled k v out drop)
    (hserve : t.serve = v.afterCommand k drop)
    (hqueues : t.queues = (s.afterServe v out).queues) (hcommand : t.toCommand = s.toCommand)
    (hsimulation : t.simulation = s.simulation) (hmaestro : t.maestro = s.maestro) :
    ∃ r, Keeps t (Function.update keeper k (some r)) := by
  have hold := h.barely k hbarely
  have hkept : ∀ {x r r'}, keeper x = some r' → r' ≠ .barelyConnected →
      Function.update keeper k (some r) x = some r' :=
    fun hx hne => kept_of_ne hx hold (fun heq => hne (Option.some.inj heq))
  have hqueued : ∀ {r} queue x, .actorConnected x ∈ s.queues queue →
      Function.update keeper k (some r) x = some (.queue queue) :=
    fun queue x hx => hkept (h.queued queue x hx) (fun h => by cases h)
  have hentries : ∀ {r}, s.serve.simulationThreads = [] → ∀ id c x,
      s.serve.actorConnections.find id = some c → c.socket = some x →
      Function.update keeper k (some r) x = some (.entry id) :=
    fun hnot id c x hfind hx => hkept (h.entries hnot id c x hfind hx) (fun h => by cases h)
  have hgiven : ∀ {r}, s.maestro = .notCalled → ∀ map ∈ s.serve.simulationThreads, ∀ id c x,
      map.find id = some c → c.socket = some x →
      Function.update keeper k (some r) x = some (.entry id) :=
    fun hnot map hmap id c x hfind hx => hkept (h.given hnot map hmap id c x hfind hx)
      fun h => by cases h
  -- the entry of an initial actor gets the socket
  have hconnected : ∀ {id}, s.serve.simulationThreads = [] → ∀ id' c x,
      (s.serve.connected id k).actorConnections.find id' = some c → c.socket = some x →
      Function.update keeper k (some (.entry id)) x = some (.entry id') := by
    intro id hnot id' c x hfind hx
    simp only [Serve.connected, UnorderedMap.find_modify] at hfind
    split at hfind
    · rename_i heq
      subst heq
      obtain ⟨before, -, rfl⟩ := Option.map_eq_some_iff.mp hfind
      cases hx
      exact Function.update_self _ _ _
    · exact hentries hnot id' c x hfind hx
  cases hhandled with
  | added connection _ _ hnull _ =>
      refine ⟨.dropped, h.command hbarely _ hserve hqueues hcommand hsimulation hmaestro rfl rfl rfl
        (fun _ => rfl) hqueued h.tells ?_ hgiven⟩
      intro hnot id c x hfind hx
      rw [UnorderedMap.find_insert] at hfind
      split at hfind
      · cases hfind
        rw [hnull] at hx
        cases hx
      · exact hentries hnot id c x hfind hx
  | started hstate _ =>
      refine ⟨.dropped, h.command hbarely _ hserve hqueues hcommand hsimulation hmaestro rfl rfl rfl
        (fun _ => rfl) hqueued h.tells (fun hnot => ?_) (fun hnot map hmap => ?_)⟩
      · exact absurd hnot (List.append_ne_nil_of_right_ne_nil _ (fun h => by cases h))
      · rcases List.mem_append.mp hmap with hmap | hmap
        · exact hgiven hnot map hmap
        · rw [List.mem_singleton.mp hmap]
          exact hentries (hconnections.started (Or.inl hstate))
  | waiting =>
      exact ⟨.dropped, h.command hbarely _ hserve hqueues hcommand hsimulation hmaestro rfl rfl rfl
        (fun _ => rfl) hqueued h.tells hentries hgiven⟩
  | killed =>
      exact ⟨.dropped, h.command hbarely _ hserve hqueues hcommand hsimulation hmaestro rfl rfl rfl
        (fun _ => rfl) hqueued h.tells hentries hgiven⟩
  | unchanged =>
      exact ⟨.dropped, h.command hbarely _ hserve hqueues hcommand hsimulation hmaestro rfl rfl rfl
        (fun _ => rfl) hqueued h.tells hentries hgiven⟩
  | connectedDynamic id connection connectAck hstate =>
      obtain ⟨htold, htells⟩ := h.told hold connectAck
      exact ⟨.queue connectAck, h.command hbarely _ hserve hqueues hcommand hsimulation hmaestro
        rfl rfl rfl (fun h => by cases h) htold htells
        (fun hnot => absurd hnot (hcount.running hstate)) hgiven⟩
  | connectedLast id connection hstate hfind =>
      refine ⟨.entry id, h.command hbarely _ hserve hqueues hcommand hsimulation hmaestro rfl rfl rfl
        (fun h => by cases h) hqueued h.tells (fun hnot => ?_) (fun hnot map hmap => ?_)⟩
      · exact absurd hnot (List.append_ne_nil_of_right_ne_nil _ (fun h => by cases h))
      · rcases List.mem_append.mp hmap with hmap | hmap
        · exact hgiven hnot map hmap
        · rw [List.mem_singleton.mp hmap]
          exact hconnected (hconnections.started (Or.inr hstate))
  | connectedInitial id connection hstate =>
      exact ⟨.entry id, h.command hbarely _ hserve hqueues hcommand hsimulation hmaestro rfl rfl rfl
        (fun h => by cases h) hqueued h.tells hconnected hgiven⟩

/-- The command thread pops a message. -/
theorem popped (h : Keeps s keeper) {msg : InterthreadMessage} {rest : List InterthreadMessage}
    {v : Serve} {out : List ServeOutput} (hqueue : s.toCommand = msg :: rest)
    (hthreads : s.serve.simulationThreads ≠ []) (hpopped : s.serve.Popped msg v out) :
    ∃ keeper', Keeps (({ s with toCommand := rest } : Server K).afterServe v out) keeper' := by
  have hquitting : ∀ x, .actorQuit x ∈ rest → keeper x = some .quitting := fun x hx =>
    h.quitting x (hqueue ▸ List.mem_cons_of_mem msg hx)
  have hquits : ∀ x, rest.count (.actorQuit x) ≤ 1 := by
    intro x
    have hle := h.quits x
    rw [hqueue, List.count_cons] at hle
    omega
  have hrest : ∀ v' : Serve, v'.barelyConnectedSockets = s.serve.barelyConnectedSockets →
      v'.droppedSockets = s.serve.droppedSockets → v'.sockets = s.serve.sockets →
      v'.simulationThreads = s.serve.simulationThreads →
      Keeps { s with toCommand := rest, serve := v' } keeper := by
    intro v' hbarely hdropped hsockets hsame
    exact
      { live := fun x hx => by rw [hsockets]; exact h.live x hx
        barely := by rw [hbarely]; exact h.barely
        dropped := by rw [hdropped]; exact h.dropped
        nodup := by rw [hdropped]; exact h.nodup
        quitting := hquitting
        quits := hquits
        queued := h.queued
        tells := h.tells
        actors := h.actors
        entries := fun hnot => absurd (hsame.symm.trans hnot) hthreads
        given := by rw [hsame]; exact h.given }
  cases hpopped with
  | finished =>
      have hsame := hrest { s.serve with serverState := .simulationFinished } rfl rfl rfl rfl
      exact ⟨keeper, { hsame with queued := h.queued }⟩
  | aborted =>
      have hsame := hrest { s.serve with serverState := .simulationFinished, returnCode := 1 }
        rfl rfl rfl rfl
      exact ⟨keeper, { hsame with queued := h.queued }⟩
  | created actorId canConnectAck connectAck =>
      have hsame := hrest { s.serve with
        actorConnections := s.serve.actorConnections.insert actorId
          { actorId := actorId, connectAck := some connectAck } } rfl rfl rfl rfl
      obtain ⟨hqueued, htells⟩ := h.pushed .actorCreateAck (fun _ h => by cases h) canConnectAck
      exact ⟨keeper, { hsame with queued := hqueued, tells := htells }⟩
  | quit k =>
      have hold : keeper k = some .quitting :=
        h.quitting k (hqueue ▸ List.mem_cons_self)
      have hkept : ∀ {x r}, keeper x = some r → r ≠ .quitting →
          Function.update keeper k (some .dropped) x = some r :=
        fun hx hne => kept_of_ne hx hold (fun heq => hne (Option.some.inj heq))
      refine ⟨Function.update keeper k (some .dropped), ?_⟩
      exact
        { live := fun x hx => by
            by_cases heq : x = k
            · exact h.live x (by rw [heq, hold]; exact nofun)
            · rw [Function.update_of_ne heq] at hx
              exact h.live x hx
          barely := fun x hx => hkept (h.barely x hx) nofun
          dropped := fun x hx => by
            rcases List.mem_append.mp hx with hx | hx
            · exact hkept (h.dropped x hx) nofun
            · rw [List.mem_singleton.mp hx, Function.update_self]
          nodup := by
            refine List.nodup_append.mpr ⟨h.nodup, List.nodup_singleton k, ?_⟩
            intro x hx y hy heq
            rw [heq, List.mem_singleton.mp hy] at hx
            cases (h.dropped k hx).symm.trans hold
          quitting := fun x hx => by
            -- the message that announced the end of the actor was the only one
            have hne : x ≠ k := by
              rintro rfl
              have hle := h.quits x
              have hpos : 0 < rest.count (.actorQuit x) := List.count_pos_iff.mpr hx
              rw [hqueue, List.count_cons_self] at hle
              omega
            rw [Function.update_of_ne hne]
            exact hquitting x hx
          quits := hquits
          queued := fun queue x hx => hkept (h.queued queue x hx) nofun
          tells := h.tells
          actors := fun p actor hfind hpoint => hkept (h.actors p actor hfind hpoint) nofun
          entries := fun hnot => absurd hnot hthreads
          given := fun hnot map hmap id c x hfind hx =>
            hkept (h.given hnot map hmap id c x hfind hx) nofun }

/-- `maestro` spawns the initial actors with the sockets of their entries. -/
theorem spawn (h : Keeps s keeper) (hcount : CountInv s.serve) (hconnections : ConnectionInv s.serve)
    {map : UnorderedMap Int ActorConnection} {vector : List ActorConnection}
    (hnot : s.maestro = .notCalled) (hthreads : s.serve.simulationThreads = [map])
    (hperm : vector.Perm map.values) :
    ∃ keeper', Keeps { s with maestro := .running, simulation := .spawn K vector } keeper' := by
  have hmap : map ∈ s.serve.simulationThreads := hthreads ▸ List.mem_singleton_self map
  have hkept : ∀ {x r}, keeper x = some r → (∀ id, r ≠ .entry id) →
      (keeper x).map Keeper.spawned = some r := by
    intro x r hx hne
    rw [hx]
    cases r with
    | entry id => exact absurd rfl (hne id)
    | _ => rfl
  refine ⟨fun x => (keeper x).map Keeper.spawned, ?_⟩
  exact
    { live := fun x hx => h.live x (fun hnone => hx (by rw [hnone, Option.map_none]))
      barely := fun x hx => hkept (h.barely x hx) (fun _ h => by cases h)
      dropped := fun x hx => hkept (h.dropped x hx) (fun _ h => by cases h)
      nodup := h.nodup
      quitting := fun x hx => hkept (h.quitting x hx) (fun _ h => by cases h)
      quits := h.quits
      queued := fun queue x hx => hkept (h.queued queue x hx) (fun _ h => by cases h)
      tells := h.tells
      actors := fun p actor hfind _ => by
        obtain ⟨connection, hmem, hid, hsocket⟩ := find_spawn_socket hfind
        obtain ⟨id, hentry⟩ := UnorderedMap.mem_values.mp (hperm.mem_iff.mp hmem)
        obtain ⟨k, hk⟩ := Option.ne_none_iff_exists'.mp (hcount.given map hmap id connection hentry)
        have hown := (hconnections.launched map hmap).1 id connection hentry
        have hold := h.given hnot map hmap id connection k hentry hk
        rw [hk, Option.getD_some] at hsocket
        rw [hsocket, hold, ← hid, hown]
        rfl
      entries := fun hempty => by
        rw [hthreads] at hempty
        cases hempty
      given := fun hbad => by cases hbad }

/-- The actors make a step in which none gets a socket. -/
theorem simulated (h : Keeps s keeper) {event : SimEvent K} {simulation : Simulation K}
    {out : List SimOutput} (queues : Queue → List InterthreadMessage)
    (hstep : SimStep s.simulation event simulation out) (hrunning : s.maestro ≠ .notCalled)
    (hevent : ∀ socket, event ≠ .connectAck (.actorConnected socket))
    (hqueues : ∀ queue, (queues queue).Sublist (s.queues queue)) :
    ∃ keeper', Keeps (({ s with queues := queues } : Server K).afterSimulation simulation out)
      keeper' := by
  have hbefore : ∀ {q actor}, simulation.actors.find q = some actor → actor.point.connected = true →
      keeper actor.socket = some (.actor q) := by
    intro q actor hfind hpoint
    rcases hstep.connected_before hfind hpoint with ⟨before, hq, hsocket, hconnected⟩ | heq
    · rw [← hsocket]
      exact h.actors q before hq hconnected
    · exact absurd heq (hevent _)
  have htells : ∀ queue x, (queues queue).count (.actorConnected x) ≤ 1 :=
    fun queue x => ((hqueues queue).count_le _).trans (h.tells queue x)
  rcases hstep.quits with hnone | ⟨p, before, after, hsent, hfind, hconnected, hafter, hended⟩
  · refine ⟨keeper, ?_⟩
    exact
      { live := h.live
        barely := h.barely
        dropped := h.dropped
        nodup := h.nodup
        quitting := fun x hx =>
          h.quitting x ((List.mem_append.mp hx).resolve_right (hnone x))
        quits := fun x => by
          change (s.toCommand ++ out.filterMap SimOutput.sent).count (.actorQuit x) ≤ 1
          rw [List.count_append, List.count_eq_zero_of_not_mem (hnone x)]
          exact h.quits x
        queued := fun queue x hx => h.queued queue x ((hqueues queue).subset hx)
        tells := htells
        actors := fun q actor => hbefore
        entries := h.entries
        given := fun hbad => absurd hbad hrunning }
  · have hold := h.actors p before hfind hconnected
    have hkept : ∀ {x r}, keeper x = some r → r ≠ .actor p →
        Function.update keeper before.socket (some .quitting) x = some r :=
      fun hx hne => kept_of_ne hx hold (fun heq => hne (Option.some.inj heq))
    refine ⟨Function.update keeper before.socket (some .quitting), ?_⟩
    exact
      { live := fun x hx => by
          by_cases heq : x = before.socket
          · exact h.live x (by rw [heq, hold]; exact nofun)
          · rw [Function.update_of_ne heq] at hx
            exact h.live x hx
        barely := fun x hx => hkept (h.barely x hx) nofun
        dropped := fun x hx => hkept (h.dropped x hx) nofun
        nodup := h.nodup
        quitting := fun x hx => by
          rcases List.mem_append.mp hx with hx | hx
          · exact hkept (h.quitting x hx) nofun
          · rw [hsent] at hx
            cases List.mem_singleton.mp hx
            exact Function.update_self _ _ _
        quits := fun x => by
          change (s.toCommand ++ out.filterMap SimOutput.sent).count (.actorQuit x) ≤ 1
          rw [hsent, List.count_append, List.count_singleton]
          split
          · rename_i heq
            cases eq_of_beq heq
            have hnot : s.toCommand.count (.actorQuit before.socket) = 0 := by
              refine List.count_eq_zero_of_not_mem fun hmem => ?_
              cases (h.quitting _ hmem).symm.trans hold
            omega
          · exact h.quits x
        queued := fun queue x hx => hkept (h.queued queue x ((hqueues queue).subset hx)) nofun
        tells := htells
        actors := fun q actor hq hpoint => by
          refine hkept (hbefore hq hpoint) fun heq => ?_
          cases heq
          cases hq.symm.trans hafter
          rw [ActorPoint.connected_iff, hended] at hpoint
          exact hpoint.2 rfl
        entries := fun hnot id c x hentry hx => hkept (h.entries hnot id c x hentry hx) nofun
        given := fun hbad => absurd hbad hrunning }

/-- A created actor pops the socket of its client. -/
theorem received (h : Keeps s keeper) {simulation : Simulation K} {out : List SimOutput}
    {queue : Queue} {rest : List InterthreadMessage}
    (hstep : SimStep s.simulation (.connectAck (.actorConnected k)) simulation out)
    (hrunning : s.maestro ≠ .notCalled) (hqueue : s.queues queue = .actorConnected k :: rest) :
    ∃ keeper', Keeps (({ s with queues := Function.update s.queues queue rest } :
      Server K).afterSimulation simulation out) keeper' := by
  have hold : keeper k = some (.queue queue) :=
    h.queued queue k (hqueue ▸ List.mem_cons_self)
  cases hstep with
  | ran _ _ _ _ hran => cases hran
  | connectFailed _ _ _ _ _ _ hmsg => exact absurd rfl (hmsg k)
  | connected p socket connectAck _ _ hfind =>
      have hkept : ∀ {x r}, keeper x = some r → r ≠ .queue queue →
          Function.update keeper k (some (.actor p)) x = some r :=
        fun hx hne => kept_of_ne hx hold (fun heq => hne (Option.some.inj heq))
      have hempty : s.toCommand ++ ([] : List SimOutput).filterMap SimOutput.sent = s.toCommand :=
        List.append_nil _
      refine ⟨Function.update keeper k (some (.actor p)), ?_⟩
      exact
        { live := fun x hx => by
            by_cases heq : x = k
            · exact h.live x (by rw [heq, hold]; exact (fun h => by cases h))
            · rw [Function.update_of_ne heq] at hx
              exact h.live x hx
          barely := fun x hx => hkept (h.barely x hx) (fun h => by cases h)
          dropped := fun x hx => hkept (h.dropped x hx) (fun h => by cases h)
          nodup := h.nodup
          quitting := fun x hx => hkept (h.quitting x (hempty ▸ hx)) (fun h => by cases h)
          quits := fun x => by
            change (s.toCommand ++ ([] : List SimOutput).filterMap SimOutput.sent).count _ ≤ 1
            rw [hempty]
            exact h.quits x
          queued := fun queue' x hx => by
            change .actorConnected x ∈ Function.update s.queues queue rest queue' at hx
            by_cases heq : queue' = queue
            · subst heq
              rw [Function.update_self] at hx
              have hne : x ≠ k := by
                rintro rfl
                have hle := h.tells queue' x
                have hpos := List.count_pos_iff.mpr hx
                rw [hqueue, List.count_cons_self] at hle
                omega
              rw [Function.update_of_ne hne]
              exact h.queued queue' x (hqueue ▸ List.mem_cons_of_mem _ hx)
            · rw [Function.update_of_ne heq] at hx
              exact hkept (h.queued queue' x hx) (fun hbad => heq (by cases hbad; rfl))
          tells := fun queue' x => by
            change (Function.update s.queues queue rest queue').count _ ≤ 1
            by_cases heq : queue' = queue
            · subst heq
              have hle := h.tells queue' x
              rw [hqueue, List.count_cons] at hle
              rw [Function.update_self]
              omega
            · rw [Function.update_of_ne heq]
              exact h.tells queue' x
          actors := fun q actor hq hpoint => by
            change (s.simulation.actors.modify p fun _ => _).find q = some actor at hq
            rw [UnorderedMap.find_modify] at hq
            split at hq
            · rename_i heq
              rw [hfind, Option.map_some, Option.some.injEq] at hq
              rw [← hq, heq]
              exact Function.update_self _ _ _
            · exact hkept (h.actors q actor hq hpoint) (fun h => by cases h)
          entries := fun hnot id c x hentry hx =>
            hkept (h.entries hnot id c x hentry hx) fun h => by cases h
          given := fun hbad => absurd hbad hrunning }

/-- `maestro` announces its end. -/
theorem announced (h : Keeps s keeper) (msg : InterthreadMessage) (hmsg : ∀ x, msg ≠ .actorQuit x) :
    Keeps { s with maestro := .returned, toCommand := s.toCommand ++ [msg] } keeper :=
  { h with
    quitting := fun x hx => by
      rcases List.mem_append.mp hx with hx | hx
      · exact h.quitting x hx
      · exact absurd (List.mem_singleton.mp hx).symm (hmsg x)
    quits := fun x => by
      rw [List.count_append, List.count_singleton, if_neg]
      · exact h.quits x
      · rw [beq_iff_eq]
        exact hmsg x
    given := fun hbad => by cases hbad }

/-- Every step of the server hands over at most one socket, the launch apart. -/
theorem step {platformFile : String} {event : ServerEvent K} {out : List ServerOutput}
    (h : Keeps s keeper) (hconnections : ConnectionInv s.serve) (hcount : CountInv s.serve)
    (hstep : ServerStep platformFile s event t out) : ∃ keeper', Keeps t keeper' := by
  cases hstep with
  | popped msg rest serve out hqueue hserve =>
      cases serveStep_cases hserve with
      | interthread _ _ _ hthreads _ hpopped => exact h.popped hqueue hthreads hpopped
  | served event serve out hnot hserve =>
      cases serveStep_cases hserve with
      | accept k hfresh =>
          have hsame := h.accept hfresh
          exact ⟨_, { hsame with queued := hsame.queued }⟩
      | delete k hdropped =>
          have hsame := h.delete hdropped
          exact ⟨_, { hsame with queued := hsame.queued }⟩
      | interthread msg => exact absurd rfl (hnot msg)
      | command k command v _ drop hbarely hhandled =>
          obtain ⟨r, hkeeps⟩ := h.handled (t := (s.uninvite (.command k command)).afterServe
            (v.afterCommand k drop) _) hconnections hcount hbarely hhandled rfl
            (by cases command <;> rfl) (by cases command <;> rfl) (by cases command <;> rfl)
            (by cases command <;> rfl)
          exact ⟨_, hkeeps⟩
  | unknownHost connections map vector connection hnot =>
      exact ⟨keeper, { h with given := fun hbad => by cases hbad }⟩
  | spawned connections map vector hnot hthreads hperm hvector =>
      refine h.spawn hcount hconnections hnot hthreads ?_
      exact (connectionsUnorderedmapToVector_eq_ok hvector).1.trans hperm
  | ran event simulation out hrunning hpops hsimulation =>
      refine h.simulated s.queues (simulationStep_cases hsimulation).2 ?_ ?_
        fun queue => List.Sublist.refl _
      · rw [hrunning]
        exact nofun
      · rintro socket rfl
        cases hpops
  | received event p queue msg rest simulation out hrunning hpops _ _ hqueue hsimulation =>
      have hsim := (simulationStep_cases hsimulation).2
      have hcalled : s.maestro ≠ .notCalled := by
        rw [hrunning]
        exact nofun
      by_cases hevent : ∃ socket, event = .connectAck (.actorConnected socket)
      · obtain ⟨socket, rfl⟩ := hevent
        cases hpops
        exact h.received hsim hcalled hqueue
      · refine h.simulated _ hsim hcalled (fun socket heq => hevent ⟨socket, heq⟩) fun queue' => ?_
        by_cases heq : queue' = queue
        · subst heq
          rw [Function.update_self, hqueue]
          exact List.sublist_cons_self _ _
        · rw [Function.update_of_ne heq]
  | aborted reason => exact ⟨keeper, h.announced (.simulationAborted reason) (fun _ h => by cases h)⟩
  | finished => exact ⟨keeper, h.announced .simulationFinished (fun _ h => by cases h)⟩

end Keeps

theorem keeps_run {K : S4u} {platformFile : String} {s : Server K} {events : List (ServerEvent K)}
    {trace : List ServerOutput} (hrun : Run (serverStep K platformFile) {} events s trace) :
    ∃ keeper, Keeps s keeper := by
  have hinv : (∃ creations, HandshakeInv s creations trace) ∧ CountInv s.serve ∧
      ∃ keeper, Keeps s keeper := by
    refine hrun.invariant (P := fun _ s trace => (∃ creations, HandshakeInv s creations trace) ∧
      CountInv s.serve ∧ ∃ keeper, Keeps s keeper) ?_ ?_
    · refine ⟨⟨_, HandshakeInv.init⟩, ?_, ⟨_, Keeps.init⟩⟩
      exact ⟨rfl, (fun map hmap => by cases hmap), nofun⟩
    · rintro _ t out label u out' _ ⟨⟨creations, hhandshake⟩, hcount, keeper, hkeeps⟩ hstep
      have hcases := serverStep_cases hstep
      exact ⟨(hhandshake.step hcases).imp fun _ => And.right, hcount.server_step hcases,
        hkeeps.step hhandshake.connections hcount hcases⟩
  exact hinv.2.2

end

end RemoteSimgrid
