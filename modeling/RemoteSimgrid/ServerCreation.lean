import RemoteSimgrid.ServerReturn
import RemoteSimgrid.SimulationCreation

/-! The creation of actors, seen from the whole server: the messages on `to_command` and on the two
queues of each creation, and the connections that the command thread expects. -/

namespace RemoteSimgrid

open Machine Pb

/-! ### The expected connections -/

/-- The connections of the initial actors are those of the map that the simulation was started with. -/
structure ConnectionInv (s : Serve) : Prop where
  own : ∀ id c, s.actorConnections.find id = some c → c.actorId = id
  started : s.serverState = .acceptingNewActors ∨ s.serverState = .waitingForAllActorsConnection →
    s.simulationThreads = []
  launched : ∀ map ∈ s.simulationThreads, (∀ id c, map.find id = some c → c.actorId = id) ∧
    ∀ id c, s.actorConnections.find id = some c → c.connectAck = none → map.find id ≠ none

namespace ConnectionInv

variable {s t : Serve}

theorem init : ConnectionInv {} where
  own id c hfind := by simp at hfind
  started _ := rfl
  launched map hmap := by cases hmap

theorem same (h : ConnectionInv s) (hconnections : t.actorConnections = s.actorConnections)
    (hthreads : t.simulationThreads = s.simulationThreads)
    (hstate : t.serverState = .acceptingNewActors ∨ t.serverState = .waitingForAllActorsConnection →
      s.serverState = .acceptingNewActors ∨ s.serverState = .waitingForAllActorsConnection) :
    ConnectionInv t where
  own := by rw [hconnections]; exact h.own
  started hbefore := hthreads.trans (h.started (hstate hbefore))
  launched := by rw [hconnections, hthreads]; exact h.launched

/-- An entry is added, or the socket of one is set. -/
theorem extend (h : ConnectionInv s)
    (hown : ∀ id c, t.actorConnections.find id = some c → c.actorId = id)
    (hthreads : t.simulationThreads = s.simulationThreads) (hstate : t.serverState = s.serverState)
    (hold : s.simulationThreads ≠ [] → ∀ id c, t.actorConnections.find id = some c →
      c.connectAck = none → ∃ c', s.actorConnections.find id = some c' ∧ c'.connectAck = none) :
    ConnectionInv t where
  own := hown
  started hbefore := by
    rw [hstate] at hbefore
    exact hthreads.trans (h.started hbefore)
  launched map hmap := by
    rw [hthreads] at hmap
    refine ⟨(h.launched map hmap).1, fun id c hfind hack => ?_⟩
    obtain ⟨c', hfind', hack'⟩ := hold (List.ne_nil_of_mem hmap) id c hfind hack
    exact (h.launched map hmap).2 id c' hfind' hack'

/-- The simulation is started. -/
theorem start (h : ConnectionInv s) (hbefore : s.serverState = .acceptingNewActors ∨
      s.serverState = .waitingForAllActorsConnection) :
    ConnectionInv
      ({ s with serverState := .simulationRunning } : Serve).startSimulationInAnotherThread where
  own := h.own
  started hbad := by rcases hbad with hbad | hbad <;> cases hbad
  launched map hmap := by
    simp only [Serve.startSimulationInAnotherThread, h.started hbefore, List.nil_append,
      List.mem_singleton] at hmap
    subst hmap
    refine ⟨h.own, fun id c hfind _ hnone => ?_⟩
    have hsome : s.actorConnections.find id = some c := hfind
    rw [hsome] at hnone
    cases hnone

theorem find_connected_inv {id id' : Int} {socket : Socket} {c : ActorConnection}
    (hfind : (s.connected id socket).actorConnections.find id' = some c) :
    ∃ c', s.actorConnections.find id' = some c' ∧ c.actorId = c'.actorId ∧
      c.connectAck = c'.connectAck := by
  rw [Serve.connected, UnorderedMap.find_modify] at hfind
  split at hfind
  · rename_i heq
    subst heq
    obtain ⟨c', hfind', rfl⟩ := Option.map_eq_some_iff.mp hfind
    exact ⟨c', hfind', rfl, rfl⟩
  · exact ⟨c, hfind, rfl, rfl⟩

theorem connect (h : ConnectionInv s) (id : Int) (socket : Socket) :
    ConnectionInv (s.connected id socket) := by
  refine h.extend ?_ rfl rfl ?_
  · intro id' c hfind
    obtain ⟨c', hfind', hid, -⟩ := find_connected_inv hfind
    exact hid.trans (h.own id' c' hfind')
  · intro _ id' c hfind hack
    obtain ⟨c', hfind', -, hack'⟩ := find_connected_inv hfind
    exact ⟨c', hfind', hack'.symm.trans hack⟩

theorem insert {t : Serve} (h : ConnectionInv s) (connection : ActorConnection)
    (hconnections : t.actorConnections =
      s.actorConnections.insert connection.actorId connection)
    (hthreads : t.simulationThreads = s.simulationThreads) (hstate : t.serverState = s.serverState)
    (hack : s.simulationThreads ≠ [] → connection.connectAck ≠ none) : ConnectionInv t := by
  have hcases : ∀ id c, t.actorConnections.find id = some c →
      id = connection.actorId ∧ c = connection ∨ s.actorConnections.find id = some c := by
    intro id c hfind
    rw [hconnections, UnorderedMap.find_insert] at hfind
    split at hfind
    · rename_i hnew
      cases hfind
      exact Or.inl ⟨hnew.1, rfl⟩
    · exact Or.inr hfind
  refine h.extend ?_ hthreads hstate ?_
  · intro id c hfind
    rcases hcases id c hfind with ⟨rfl, rfl⟩ | hfind
    · rfl
    · exact h.own id c hfind
  · intro hne id c hfind hnone
    rcases hcases id c hfind with ⟨-, rfl⟩ | hfind
    · exact absurd hnone (hack hne)
    · exact ⟨c, hfind, hnone⟩

theorem step {event : ServeEvent} {out : List ServeOutput} (h : ConnectionInv s)
    (hstep : ServeStep s event t out) : ConnectionInv t := by
  cases hstep with
  | accept => exact h.same rfl rfl id
  | delete => exact h.same rfl rfl id
  | command socket command v _ dropClient _ hhandled =>
      suffices hv : ConnectionInv v from hv.same rfl rfl id
      cases hhandled with
      | added connection hstate _ _ _ =>
          exact h.insert connection rfl rfl rfl fun hne => absurd (h.started (Or.inl hstate)) hne
      | started hstate _ => exact h.start (Or.inl hstate)
      | waiting hstate _ => exact h.same rfl rfl fun _ => Or.inl hstate
      | killed => exact h.same rfl rfl fun hbad => by rcases hbad with hbad | hbad <;> cases hbad
      | unchanged => exact h
      | connectedDynamic id => exact h.connect id socket
      | connectedLast id connection hstate _ _ _ =>
          exact (h.connect id socket).start (Or.inr hstate)
      | connectedInitial id => exact h.connect id socket
  | interthread msg _ _ _ _ hpopped =>
      cases hpopped with
      | finished => exact h.same rfl rfl fun hbad => by rcases hbad with hbad | hbad <;> cases hbad
      | aborted => exact h.same rfl rfl fun hbad => by rcases hbad with hbad | hbad <;> cases hbad
      | quit => exact h.same rfl rfl id
      | created actorId canConnectAck connectAck _ =>
          exact h.insert { actorId := actorId, connectAck := some connectAck } rfl rfl rfl fun _ => nofun

end ConnectionInv

/-- What the command thread does to the connections when it pops no message, and where it pushes. -/
theorem ServeStep.entries {s t : Serve} {event : ServeEvent} {out : List ServeOutput}
    (h : ServeStep s event t out) (hevent : ∀ msg, event ≠ .interthread msg) :
    (∀ id c, t.actorConnections.find id = some c →
      (∃ c', s.actorConnections.find id = some c' ∧ c.connectAck = c'.connectAck) ∨
        s.serverState = .acceptingNewActors ∧ c.connectAck = none) ∧
    (∀ id c, s.actorConnections.find id = some c →
      ∃ c', t.actorConnections.find id = some c' ∧ c'.connectAck = c.connectAck) ∧
    ∀ queue msg, .push queue msg ∈ out →
      ∃ id c, s.actorConnections.find id = some c ∧ c.connectAck = some queue := by
  have hsame : t.actorConnections = s.actorConnections → (∀ queue msg, .push queue msg ∉ out) →
      (∀ id c, t.actorConnections.find id = some c →
        (∃ c', s.actorConnections.find id = some c' ∧ c.connectAck = c'.connectAck) ∨
          s.serverState = .acceptingNewActors ∧ c.connectAck = none) ∧
      (∀ id c, s.actorConnections.find id = some c →
        ∃ c', t.actorConnections.find id = some c' ∧ c'.connectAck = c.connectAck) ∧
      ∀ queue msg, .push queue msg ∈ out →
        ∃ id c, s.actorConnections.find id = some c ∧ c.connectAck = some queue := by
    intro heq hout
    rw [heq]
    exact ⟨fun id c hfind => Or.inl ⟨c, hfind, rfl⟩, fun id c hfind => ⟨c, hfind, rfl⟩,
      fun queue msg hmem => absurd hmem (hout queue msg)⟩
  have hconnected : ∀ (id : Int) (socket : Socket),
      t.actorConnections = (s.connected id socket).actorConnections →
      (∀ id c, t.actorConnections.find id = some c →
        (∃ c', s.actorConnections.find id = some c' ∧ c.connectAck = c'.connectAck) ∨
          s.serverState = .acceptingNewActors ∧ c.connectAck = none) ∧
      ∀ id c, s.actorConnections.find id = some c →
        ∃ c', t.actorConnections.find id = some c' ∧ c'.connectAck = c.connectAck := by
    intro id socket heq
    rw [heq]
    constructor
    · intro id' c hfind
      obtain ⟨c', hfind', -, hack⟩ := ConnectionInv.find_connected_inv hfind
      exact Or.inl ⟨c', hfind', hack⟩
    · intro id' c hfind
      rw [Serve.connected, UnorderedMap.find_modify]
      split
      · rename_i hid
        rw [← hid, hfind]
        exact ⟨_, rfl, rfl⟩
      · exact ⟨c, hfind, rfl⟩
  cases h with
  | accept => exact hsame rfl (fun _ _ h => by cases h)
  | delete => exact hsame rfl (fun _ _ h => by cases h)
  | interthread msg => exact absurd rfl (hevent msg)
  | command socket command v _ dropClient _ hhandled =>
      cases hhandled with
      | added connection hstate _ _ hack =>
          refine ⟨fun id c hfind => ?_, fun id c hfind => ⟨c, ?_, rfl⟩, by simp⟩
          · simp only [Serve.afterCommand, UnorderedMap.find_insert] at hfind
            split at hfind
            · cases hfind
              exact Or.inr ⟨hstate, hack⟩
            · exact Or.inl ⟨c, hfind, rfl⟩
          · simp only [Serve.afterCommand, UnorderedMap.find_insert]
            rw [if_neg, hfind]
            rintro ⟨rfl, hnone⟩
            rw [hfind] at hnone
            cases hnone
      | started => exact hsame rfl (by simp)
      | waiting => exact hsame rfl (by simp)
      | killed => exact hsame rfl (by simp)
      | unchanged => exact hsame rfl (by simp)
      | connectedDynamic id connection connectAck _ hfind _ hack =>
          obtain ⟨hentries, hkept⟩ := hconnected id socket rfl
          refine ⟨hentries, hkept, fun queue msg hmem => ⟨id, connection, hfind, ?_⟩⟩
          simp only [List.mem_cons, ServeOutput.push.injEq, reduceCtorEq, List.not_mem_nil,
            or_false] at hmem
          rw [hack, hmem.1]
      | connectedLast id =>
          obtain ⟨hentries, hkept⟩ := hconnected id socket rfl
          exact ⟨hentries, hkept, by simp⟩
      | connectedInitial id =>
          obtain ⟨hentries, hkept⟩ := hconnected id socket rfl
          exact ⟨hentries, hkept, by simp⟩

/-- The messages that the command thread pushes on a queue in a step. -/
def pushesOn (queue : Queue) (out : List ServeOutput) : List InterthreadMessage :=
  out.filterMap fun
    | .push queue' msg => if queue' = queue then some msg else none
    | .writeCommandAck _ _ => none

theorem queues_afterServe {K : S4u} (s : Server K) (serve : Serve) (out : List ServeOutput)
    (queue : Queue) :
    (s.afterServe serve out).queues queue = s.queues queue ++ pushesOn queue out := by
  simp only [Server.afterServe]
  generalize s.queues = queues
  induction out generalizing queues with
  | nil => simp [pushesOn]
  | cons o out ih =>
      rw [List.foldl_cons, ih]
      cases o with
      | writeCommandAck socket ack => rfl
      | push queue' msg =>
          by_cases hqueue : queue' = queue
          · subst hqueue
            simp [pushesOn, pushOn]
          · simp [pushesOn, pushOn, hqueue, Function.update_of_ne (Ne.symm hqueue)]

theorem pushesOn_eq_nil {queue : Queue} {out : List ServeOutput}
    (h : ∀ msg, .push queue msg ∉ out) : pushesOn queue out = [] := by
  rw [pushesOn, List.filterMap_eq_nil_iff]
  intro o ho
  cases o with
  | writeCommandAck socket ack => rfl
  | push queue' msg =>
      by_cases hqueue : queue' = queue
      · rw [hqueue] at ho
        exact absurd ho (h msg)
      · simp [hqueue]

/-! ### Creations and queues -/

def InterthreadMessage.creation : InterthreadMessage → Bool
  | .actorCreate _ _ _ => true
  | _ => false

/-- What the command thread has written for the parent, who has not read it yet. -/
def CreationPhase.acks : CreationPhase → List InterthreadMessage
  | .registered _ => [.actorCreateAck]
  | _ => []

/-- The command thread has handled the message that announces the creation. -/
def Handles (trace : List ServerOutput) (child : Pid) (canConnectAck : Queue) : Prop :=
  .popped (.actorCreate child canConnectAck (canConnectAck + 1)) ∈ trace

/-- The client of the parent has been sent the id of the created actor. -/
def Acknowledged (trace : List ServerOutput) (parent child : Pid) : Prop :=
  ∃ socket, .simulation (some parent)
    (.writeAck parent socket { success := true, data := .actorCreate { id := child } }) ∈ trace

section

variable {K : S4u} {platformFile : String} {s t : Server K} {event : ServerEvent K}
  {trace out : List ServerOutput} {creations : Creations}

/-- What a step of the server does to the simulation and to the creations. -/
inductive HandshakeStep (s : Server K) (event : ServerEvent K) (creations : Creations)
    (simulation : Simulation K) : Creations → Prop
  | still : (∀ e, event ≠ .simulation e) →
      (∀ child queue queue', event ≠ .serve (.interthread (.actorCreate child queue queue'))) →
      simulation = s.simulation → HandshakeStep s event creations simulation creations
  | spawned (connections vector : List ActorConnection) : event = .launch connections →
      s.maestro = .notCalled → simulation = .spawn K vector → (vector.map (·.actorId)).Nodup →
      HandshakeStep s event creations simulation creations
  | registered (queue : Queue) (p child : Pid) :
      event = .serve (.interthread (.actorCreate child queue (queue + 1))) →
      simulation = s.simulation → creations queue = some ⟨p, .announced child⟩ →
      HandshakeStep s event creations simulation
        (Function.update creations queue (some ⟨p, .registered child⟩))
  | simulated (e : SimEvent K) (sent : List SimOutput) (creations' : Creations) :
      event = .simulation e → simulationStep K s.simulation e = some (simulation, sent) →
      CreationStep s.simulation e creations sent creations' →
      HandshakeStep s event creations simulation creations'

structure HandshakeInv (s : Server K) (creations : Creations) (trace : List ServerOutput) : Prop where
  simulation : CreationInv s.simulation creations
  connections : ConnectionInv s.serve
  called : s.maestro ≠ .notCalled → s.serve.simulationThreads ≠ []
  asleep : s.maestro = .notCalled →
    (∀ queue, creations queue = none) ∧ s.simulation.memory.next = 1
  canConnect : ∀ queue creation, creations queue = some creation →
    s.queues queue = creation.phase.acks
  connect : ∀ queue creation, creations queue = some creation → creation.phase.stored = false →
    s.queues (queue + 1) = []
  unused : ∀ queue, s.simulation.memory.next ≤ queue → s.queues queue = []
  messages : ∀ child queue connectAck, .actorCreate child queue connectAck ∈ s.toCommand →
    connectAck = queue + 1 ∧ ∃ p, creations queue = some ⟨p, .announced child⟩
  once : (s.toCommand.filter (·.creation)).Nodup
  entries : ∀ id c connectAck, s.serve.actorConnections.find id = some c →
    c.connectAck = some connectAck → ∃ queue creation, creations queue = some creation ∧
      creation.phase.stored = true ∧ creation.phase.child = some id ∧ connectAck = queue + 1
  initial : ∀ id c, s.serve.actorConnections.find id = some c → c.connectAck = none →
    s.maestro = .running → s.simulation.point id ≠ none
  others : ∀ id c queue creation, s.serve.actorConnections.find id = some c → c.connectAck = none →
    creations queue = some creation → creation.phase.child ≠ some id
  stored : ∀ queue creation child, creations queue = some creation → creation.phase.stored = true →
    creation.phase.child = some child → Handles trace child queue ∧
      ∃ c, s.serve.actorConnections.find child = some c ∧ c.connectAck = some (queue + 1)
  acknowledged : ∀ queue p child, creations queue = some ⟨p, .told child⟩ →
    Acknowledged trace p child

namespace HandshakeInv

theorem init : HandshakeInv ({} : Server K) (fun _ => none) [] where
  simulation :=
    { next := le_rfl
      allocated := fun queue creation hcreation => by cases hcreation
      paired := fun queue creation hcreation => rfl
      known := fun queue creation child hcreation => by cases hcreation
      single := fun queue queue' creation creation' child hcreation => by cases hcreation
      placed := fun p point hp => by simp [Simulation.point] at hp
      running := fun p point hp => by simp [Simulation.point] at hp
      parents := fun queue creation point hcreation => by cases hcreation }
  connections := ConnectionInv.init
  called hcalled := absurd rfl hcalled
  asleep _ := ⟨fun _ => rfl, rfl⟩
  canConnect queue creation hcreation := by cases hcreation
  connect queue creation hcreation := by cases hcreation
  unused queue hqueue := rfl
  messages child queue connectAck hmem := by cases hmem
  once := List.nodup_nil
  entries id c connectAck hfind := by simp at hfind
  initial id c hfind := by simp at hfind
  others id c queue creation hfind := by simp at hfind
  stored queue creation child hcreation := by cases hcreation
  acknowledged queue p child hcreation := by cases hcreation

theorem handles_mono {child : Pid} {queue : Queue} (h : Handles trace child queue) :
    Handles (trace ++ out) child queue := List.mem_append_left _ h

theorem acknowledged_mono {parent child : Pid} (h : Acknowledged trace parent child) :
    Acknowledged (trace ++ out) parent child := by
  obtain ⟨socket, hmem⟩ := h
  exact ⟨socket, List.mem_append_left _ hmem⟩

/-- The rule for what `maestro` does around its run. -/
theorem maestro (h : HandshakeInv s creations trace) (hserve : t.serve = s.serve)
    (hqueues : t.queues = s.queues) (hsimulation : t.simulation = s.simulation)
    (hthreads : s.serve.simulationThreads ≠ []) (hcalled : t.maestro ≠ .notCalled)
    (hrunning : t.maestro ≠ .running)
    {messages : List InterthreadMessage} (hqueue : t.toCommand = s.toCommand ++ messages)
    (hmessages : ∀ msg ∈ messages, msg.creation = false) : HandshakeInv t creations (trace ++ out) where
  simulation := hsimulation ▸ h.simulation
  connections := hserve ▸ h.connections
  called _ := by rw [hserve]; exact hthreads
  asleep hnot := absurd hnot hcalled
  canConnect := by rw [hqueues]; exact h.canConnect
  connect := by rw [hqueues]; exact h.connect
  unused := by rw [hqueues, hsimulation]; exact h.unused
  messages child queue connectAck hmem := by
    rw [hqueue, List.mem_append] at hmem
    rcases hmem with hmem | hmem
    · exact h.messages child queue connectAck hmem
    · cases hmessages _ hmem
  once := by
    have hnone : messages.filter (·.creation) = [] := by
      rw [List.filter_eq_nil_iff]
      intro msg hmem
      simp [hmessages msg hmem]
    rw [hqueue, List.filter_append, hnone, List.append_nil]
    exact h.once
  entries := by rw [hserve]; exact h.entries
  initial id c _ _ hyes := absurd hyes hrunning
  others := by rw [hserve]; exact h.others
  stored queue creation child hcreation hstored hchild := by
    obtain ⟨hhandles, hentry⟩ := h.stored queue creation child hcreation hstored hchild
    rw [hserve]
    exact ⟨handles_mono hhandles, hentry⟩
  acknowledged queue p child hcreation := acknowledged_mono (h.acknowledged queue p child hcreation)

/-- `maestro` spawns the initial actors. -/
theorem spawn (h : HandshakeInv s creations trace) {vector : List ActorConnection}
    {map : UnorderedMap Int ActorConnection} (hnot : s.maestro = .notCalled)
    (hthreads : s.serve.simulationThreads = [map]) (hperm : vector.Perm map.values)
    (hserve : t.serve = s.serve) (hqueues : t.queues = s.queues) (hqueue : t.toCommand = s.toCommand)
    (hsimulation : t.simulation = .spawn K vector) (hrunning : t.maestro = .running) :
    HandshakeInv t creations (trace ++ out) := by
  obtain ⟨hnone, hnext⟩ := h.asleep hnot
  obtain rfl : creations = fun _ => none := funext hnone
  exact
    { simulation := by rw [hsimulation]; exact CreationInv.spawn vector
      connections := hserve ▸ h.connections
      called := fun _ => by rw [hserve, hthreads]; exact nofun
      asleep := fun hbad => by rw [hrunning] at hbad; cases hbad
      canConnect := fun queue creation hcreation => by cases hcreation
      connect := fun queue creation hcreation => by cases hcreation
      unused := fun queue hle => by
        rw [hqueues]
        refine h.unused queue ?_
        rw [hsimulation] at hle
        rw [hnext]
        exact hle
      messages := fun child queue connectAck hmem => by
        rw [hqueue] at hmem
        obtain ⟨-, p, hcreation⟩ := h.messages child queue connectAck hmem
        cases hcreation
      once := by rw [hqueue]; exact h.once
      entries := fun id c connectAck hfind hack => by
        rw [hserve] at hfind
        obtain ⟨queue, creation, hcreation, -⟩ := h.entries id c connectAck hfind hack
        cases hcreation
      initial := fun id c hfind hack _ => by
        rw [hserve] at hfind
        obtain ⟨hown, hlaunched⟩ := h.connections.launched map
          (by rw [hthreads]; exact List.mem_singleton_self _)
        obtain ⟨connection, hconnection⟩ := Option.ne_none_iff_exists'.mp (hlaunched id c hfind hack)
        rw [hsimulation]
        refine point_spawn ⟨connection, hperm.mem_iff.mpr (UnorderedMap.mem_values.mpr ⟨id, hconnection⟩),
          hown id connection hconnection⟩
      others := fun id c queue creation _ _ hcreation => by cases hcreation
      stored := fun queue creation child hcreation => by cases hcreation
      acknowledged := fun queue p child hcreation => by cases hcreation }

/-- No message for the command thread announces a creation. -/
theorem sent_of_creation {sent : List SimOutput} (h : ∀ o ∈ sent, o.creation = false) :
    ∀ msg ∈ sent.filterMap SimOutput.sent, msg.creation = false := by
  intro msg hmem
  obtain ⟨o, ho, hsent⟩ := List.mem_filterMap.mp hmem
  have hnot := h o ho
  cases o with
  | push queue msg' =>
      simp only [SimOutput.sent] at hsent
      split at hsent
      · cases hsent
        cases msg <;> first | rfl | cases hnot
      · cases hsent
  | _ => cases hsent

/-- The command thread does not see the step. -/
theorem unannounced (h : HandshakeInv s creations trace) {messages : List InterthreadMessage}
    (hnone : ∀ msg ∈ messages, msg.creation = false) {creations' : Creations}
    (hkept : ∀ queue p child, creations queue = some ⟨p, .announced child⟩ →
      creations' queue = some ⟨p, .announced child⟩) :
    (∀ child queue connectAck, .actorCreate child queue connectAck ∈ s.toCommand ++ messages →
      connectAck = queue + 1 ∧ ∃ p, creations' queue = some ⟨p, .announced child⟩) ∧
    ((s.toCommand ++ messages).filter (·.creation)).Nodup := by
  constructor
  · intro child queue connectAck hmem
    rcases List.mem_append.mp hmem with hmem | hmem
    · obtain ⟨heq, p, hcreation⟩ := h.messages child queue connectAck hmem
      exact ⟨heq, p, hkept queue p child hcreation⟩
    · cases hnone _ hmem
  · have hfilter : messages.filter (·.creation) = [] := by
      rw [List.filter_eq_nil_iff]
      intro msg hmem
      simp [hnone msg hmem]
    rw [List.filter_append, hfilter, List.append_nil]
    exact h.once

/-- The rule for a creation that goes on in the SimGrid thread. -/
theorem update (h : HandshakeInv s creations trace) {simulation : Simulation K}
    {sent : List SimOutput} {queue : Queue} {p : Pid} {phase : CreationPhase}
    (hold : ∀ old, creations queue = some old → old.phase.stored = false)
    (hphase : phase.stored = false) (hqueue : s.queues queue = []) (hconnect : s.queues (queue + 1) = [])
    (hfresh : ∀ id c, s.serve.actorConnections.find id = some c → c.connectAck = none →
      phase.child ≠ some id)
    (hinv : CreationInv simulation (Function.update creations queue (some ⟨p, phase⟩)))
    (hnext : s.simulation.memory.next ≤ simulation.memory.next)
    (hpoints : ∀ p, s.simulation.point p ≠ none → simulation.point p ≠ none)
    (hrunning : s.maestro = .running)
    (hmessages : (∀ child queue' connectAck, .actorCreate child queue' connectAck ∈
        s.toCommand ++ sent.filterMap SimOutput.sent → connectAck = queue' + 1 ∧
          ∃ p', Function.update creations queue (some ⟨p, phase⟩) queue' =
            some ⟨p', .announced child⟩) ∧
      ((s.toCommand ++ sent.filterMap SimOutput.sent).filter (·.creation)).Nodup) :
    HandshakeInv (s.afterSimulation simulation sent)
      (Function.update creations queue (some ⟨p, phase⟩)) (trace ++ out) := by
  have hcases : ∀ {queue' creation},
      Function.update creations queue (some ⟨p, phase⟩) queue' = some creation →
      queue' = queue ∧ creation = ⟨p, phase⟩ ∨ creations queue' = some creation := by
    intro queue' creation hcreation
    by_cases hne : queue' = queue
    · subst hne
      rw [Function.update_self, Option.some.injEq] at hcreation
      exact Or.inl ⟨rfl, hcreation.symm⟩
    · rw [Function.update_of_ne hne] at hcreation
      exact Or.inr hcreation
  have hacks : phase.acks = [] := by
    cases phase with
    | registered => cases hphase
    | _ => rfl
  exact
    { simulation := hinv
      connections := h.connections
      called := h.called
      asleep := fun hbad => by
        have hnot : s.maestro = .notCalled := hbad
        rw [hrunning] at hnot
        cases hnot
      canConnect := fun queue' creation hcreation => by
        rcases hcases hcreation with ⟨rfl, rfl⟩ | hbefore
        · exact hqueue.trans hacks.symm
        · exact h.canConnect queue' creation hbefore
      connect := fun queue' creation hcreation hstored => by
        rcases hcases hcreation with ⟨rfl, rfl⟩ | hbefore
        · exact hconnect
        · exact h.connect queue' creation hbefore hstored
      unused := fun queue' hle => h.unused queue' (le_trans hnext hle)
      messages := hmessages.1
      once := hmessages.2
      entries := fun id c connectAck hfind hack => by
        obtain ⟨queue', creation, hcreation, hstored, hchild, heq⟩ :=
          h.entries id c connectAck hfind hack
        refine ⟨queue', creation, ?_, hstored, hchild, heq⟩
        rw [Function.update_of_ne, hcreation]
        rintro rfl
        rw [hold creation hcreation] at hstored
        cases hstored
      initial := fun id c hfind hack _ => hpoints id (h.initial id c hfind hack hrunning)
      others := fun id c queue' creation hfind hack hcreation => by
        rcases hcases hcreation with ⟨rfl, rfl⟩ | hbefore
        · exact hfresh id c hfind hack
        · exact h.others id c queue' creation hfind hack hbefore
      stored := fun queue' creation child hcreation hstored hchild => by
        rcases hcases hcreation with ⟨rfl, rfl⟩ | hbefore
        · rw [hphase] at hstored
          cases hstored
        · obtain ⟨hhandles, hentry⟩ := h.stored queue' creation child hbefore hstored hchild
          exact ⟨handles_mono hhandles, hentry⟩
      acknowledged := fun queue' p' child hcreation => by
        rcases hcases hcreation with ⟨rfl, heq⟩ | hbefore
        · cases heq
          cases hphase
        · exact acknowledged_mono (h.acknowledged queue' p' child hbefore) }

/-- The rule for a step of the SimGrid thread that pops nothing from `can_connect_ack`. -/
theorem simulated (h : HandshakeInv s creations trace) {event : SimEvent K}
    {simulation : Simulation K} {sent : List SimOutput} {creations' : Creations}
    (hstep : CreationStep s.simulation event creations sent creations')
    (hevent : ∀ msg, event ≠ .canConnectAck msg) (hinv : CreationInv simulation creations')
    (hnext : s.simulation.memory.next ≤ simulation.memory.next)
    (hpoints : ∀ p, s.simulation.point p ≠ none → simulation.point p ≠ none)
    (hrunning : s.maestro = .running) :
    HandshakeInv (s.afterSimulation simulation sent) creations' (trace ++ out) := by
  have hother : ∀ {queue : Queue} {p : Pid} {phase : CreationPhase},
      (∀ old child, creations queue = some old → old.phase ≠ .announced child) →
      ∀ queue' p' child, creations queue' = some ⟨p', .announced child⟩ →
        Function.update creations queue (some ⟨p, phase⟩) queue' = some ⟨p', .announced child⟩ := by
    intro queue p phase hnot queue' p' child hcreation
    rw [Function.update_of_ne, hcreation]
    rintro rfl
    exact hnot _ child hcreation rfl
  cases hstep with
  | same _ _ hsent =>
      obtain ⟨hmessages, honce⟩ :=
        h.unannounced (sent_of_creation hsent) fun queue p child hcreation => hcreation
      exact
        { simulation := hinv
          connections := h.connections
          called := h.called
          asleep := fun hbad => by
            have hnot : s.maestro = .notCalled := hbad
            rw [hrunning] at hnot
            cases hnot
          canConnect := h.canConnect
          connect := h.connect
          unused := fun queue hle => h.unused queue (le_trans hnext hle)
          messages := hmessages
          once := honce
          entries := h.entries
          initial := fun id c hfind hack _ => hpoints id (h.initial id c hfind hack hrunning)
          others := h.others
          stored := fun queue creation child hcreation hstored hchild => by
            obtain ⟨hhandles, hentry⟩ := h.stored queue creation child hcreation hstored hchild
            exact ⟨handles_mono hhandles, hentry⟩
          acknowledged := fun queue p child hcreation =>
            acknowledged_mono (h.acknowledged queue p child hcreation) }
  | requested p _ _ hsent =>
      have hfresh := h.simulation.none_of_le (le_refl s.simulation.memory.next)
      have hnone : ∀ old, creations s.simulation.memory.next = some old → False := by
        intro old hold
        rw [hfresh] at hold
        cases hold
      exact h.update (fun old hold => (hnone old hold).elim) rfl (h.unused _ le_rfl)
        (h.unused _ (Nat.le_succ _)) (fun _ _ _ _ => nofun) hinv hnext hpoints hrunning
        (h.unannounced (sent_of_creation (creation_of_internal hsent))
          (hother fun old child hold => (hnone old hold).elim))
  | created p queue child call _ _ hcreation hunknown =>
      have hold : ∀ old, creations queue = some old → old = ⟨p, .requested⟩ := by
        intro old hold
        rw [hcreation, Option.some.injEq] at hold
        exact hold.symm
      refine h.update (fun old hsome => by rw [hold old hsome]; rfl) rfl (h.canConnect queue _ hcreation)
        (h.connect queue _ hcreation rfl) ?_ hinv hnext hpoints hrunning (h.unannounced ?_ (hother ?_))
      · rintro id c hfind hack heq
        obtain rfl := Option.some.inj heq
        exact h.initial _ c hfind hack hrunning hunknown
      · exact sent_of_creation (List.forall_mem_singleton.mpr rfl)
      · intro old child' hsome
        rw [hold old hsome]
        exact nofun
  | announced p queue child _ _ hcreation =>
      have hold : ∀ old, creations queue = some old → old = ⟨p, .created child⟩ := by
        intro old hold
        rw [hcreation, Option.some.injEq] at hold
        exact hold.symm
      have hmoved : ∀ queue' p' child', creations queue' = some ⟨p', .announced child'⟩ →
          Function.update creations queue (some ⟨p, .announced child⟩) queue' =
            some ⟨p', .announced child'⟩ := by
        refine hother fun old child' hsome => ?_
        rw [hold old hsome]
        exact nofun
      have hnothing : ∀ msg ∈ ([] : List InterthreadMessage), msg.creation = false :=
        List.forall_mem_nil _
      have hkept := h.unannounced hnothing hmoved
      rw [List.append_nil] at hkept
      refine h.update (fun old hsome => by rw [hold old hsome]; rfl) rfl (h.canConnect queue _ hcreation)
        (h.connect queue _ hcreation rfl)
        (fun id c hfind hack => h.others id c queue ⟨p, .created child⟩ hfind hack hcreation)
        hinv hnext hpoints hrunning ⟨?_, ?_⟩
      · intro child' queue' connectAck hmem
        rcases List.mem_append.mp hmem with hmem | hmem
        · exact hkept.1 child' queue' connectAck hmem
        · cases List.mem_singleton.mp hmem
          exact ⟨rfl, p, Function.update_self ..⟩
      · have hsent : [SimOutput.push toCommand (.actorCreate child queue (queue + 1))].filterMap
            SimOutput.sent = [.actorCreate child queue (queue + 1)] := rfl
        rw [hsent, List.filter_append]
        refine List.nodup_append.mpr ⟨h.once, List.nodup_singleton _, ?_⟩
        -- the creation was not announced before
        intro msg hmem msg' hmem' heq
        rw [List.mem_singleton.mp hmem'] at heq
        subst heq
        obtain ⟨-, p', hbefore⟩ := h.messages _ _ _ (List.mem_filter.mp hmem).1
        rw [hcreation] at hbefore
        cases hbefore
  | told p socket queue child heq => exact absurd heq (hevent _)

/-- The parent pops the acknowledgment of the command thread and tells its client. -/
theorem tell (h : HandshakeInv s creations trace) {simulation : Simulation K} {p : Pid}
    {socket : Socket} {queue : Queue} {child : Pid} {msg : InterthreadMessage}
    {rest : List InterthreadMessage}
    (hpoint : s.simulation.point p = some (.waitingCanConnectAck queue child))
    (hpopped : s.queues queue = msg :: rest)
    (hinv : CreationInv simulation (Function.update creations queue (some ⟨p, .told child⟩)))
    (hnext : s.simulation.memory.next ≤ simulation.memory.next)
    (hpoints : ∀ p, s.simulation.point p ≠ none → simulation.point p ≠ none)
    (hrunning : s.maestro = .running) :
    HandshakeInv (({ s with queues := Function.update s.queues queue rest } : Server K).afterSimulation
        simulation
        [.writeAck p socket { success := true, data := .actorCreate { id := child } }])
      (Function.update creations queue (some ⟨p, .told child⟩))
      (trace ++ [.received p msg, .simulation (some p)
        (.writeAck p socket { success := true, data := .actorCreate { id := child } })]) := by
  have hcreation : creations queue = some ⟨p, .registered child⟩ := by
    rcases h.simulation.placed p _ hpoint with hcreation | hcreation
    · have hempty := h.canConnect queue _ hcreation
      rw [hpopped] at hempty
      cases hempty
    · exact hcreation
  have hrest : rest = [] := by
    have hqueue := h.canConnect queue _ hcreation
    rw [hpopped] at hqueue
    exact (List.cons.inj hqueue).2
  have hpaired := h.simulation.pair hcreation
  have hcases : ∀ {queue' creation},
      Function.update creations queue (some ⟨p, .told child⟩) queue' = some creation →
      queue' = queue ∧ creation = ⟨p, .told child⟩ ∨ queue' ≠ queue ∧ creations queue' = some creation := by
    intro queue' creation hcreation'
    by_cases hne : queue' = queue
    · subst hne
      rw [Function.update_self, Option.some.injEq] at hcreation'
      exact Or.inl ⟨rfl, hcreation'.symm⟩
    · rw [Function.update_of_ne hne] at hcreation'
      exact Or.inr ⟨hne, hcreation'⟩
  have hqueues : ∀ queue', queue' ≠ queue → Function.update s.queues queue rest queue' = s.queues queue' :=
    fun queue' hne => Function.update_of_ne hne _ _
  obtain ⟨hhandles, hentry⟩ := h.stored queue _ child hcreation rfl rfl
  exact
    { simulation := hinv
      connections := h.connections
      called := h.called
      asleep := fun hbad => by
        have hnot : s.maestro = .notCalled := hbad
        rw [hrunning] at hnot
        cases hnot
      canConnect := fun queue' creation hcreation' => by
        rcases hcases hcreation' with ⟨rfl, rfl⟩ | ⟨hne, hbefore⟩
        · exact (Function.update_self ..).trans hrest
        · exact (hqueues queue' hne).trans (h.canConnect queue' creation hbefore)
      connect := fun queue' creation hcreation' hstored => by
        rcases hcases hcreation' with ⟨rfl, rfl⟩ | ⟨hne, hbefore⟩
        · cases hstored
        · refine (hqueues (queue' + 1) fun heq => ?_).trans (h.connect queue' creation hbefore hstored)
          rw [hpaired.2 queue' heq] at hbefore
          cases hbefore
      unused := fun queue' hle => by
        refine (hqueues queue' fun heq => ?_).trans (h.unused queue' (le_trans hnext hle))
        have hlt := (h.simulation.allocated queue _ hcreation).2
        rw [heq] at hle
        exact absurd (lt_of_lt_of_le (lt_trans (Nat.lt_succ_self _) hlt) (le_trans hnext hle))
          (lt_irrefl _)
      messages := fun child' queue' connectAck hmem => by
        have hold : .actorCreate child' queue' connectAck ∈ s.toCommand := by
          rcases List.mem_append.mp hmem with hmem | hmem
          · exact hmem
          · cases hmem
        obtain ⟨heq, p', hcreation'⟩ := h.messages child' queue' connectAck hold
        refine ⟨heq, p', ?_⟩
        rw [Function.update_of_ne, hcreation']
        rintro rfl
        rw [hcreation] at hcreation'
        cases hcreation'
      once := by
        have hsent : (({ s with queues := Function.update s.queues queue rest } :
            Server K).afterSimulation simulation [.writeAck p socket
              { success := true, data := .actorCreate { id := child } }]).toCommand = s.toCommand :=
          List.append_nil _
        rw [hsent]
        exact h.once
      entries := fun id c connectAck hfind hack => by
        obtain ⟨queue', creation, hcreation', hstored, hchild, heq⟩ :=
          h.entries id c connectAck hfind hack
        by_cases hne : queue' = queue
        · subst hne
          rw [hcreation, Option.some.injEq] at hcreation'
          subst hcreation'
          exact ⟨queue', _, Function.update_self .., rfl, hchild, heq⟩
        · exact ⟨queue', creation, by rw [Function.update_of_ne hne, hcreation'], hstored, hchild, heq⟩
      initial := fun id c hfind hack _ => hpoints id (h.initial id c hfind hack hrunning)
      others := fun id c queue' creation hfind hack hcreation' => by
        rcases hcases hcreation' with ⟨rfl, rfl⟩ | ⟨-, hbefore⟩
        · exact h.others id c queue' ⟨p, .registered child⟩ hfind hack hcreation
        · exact h.others id c queue' creation hfind hack hbefore
      stored := fun queue' creation child' hcreation' hstored hchild => by
        rcases hcases hcreation' with ⟨rfl, rfl⟩ | ⟨-, hbefore⟩
        · cases hchild
          exact ⟨handles_mono hhandles, hentry⟩
        · obtain ⟨hhandles', hentry'⟩ := h.stored queue' creation child' hbefore hstored hchild
          exact ⟨handles_mono hhandles', hentry'⟩
      acknowledged := fun queue' p' child' hcreation' => by
        rcases hcases hcreation' with ⟨rfl, heq⟩ | ⟨-, hbefore⟩
        · cases heq
          exact ⟨socket, List.mem_append_right _ (by simp)⟩
        · exact acknowledged_mono (h.acknowledged queue' p' child' hbefore) }

/-- The child pops the message with its socket. -/
theorem connected (h : HandshakeInv s creations trace) {p : Pid} {connectAck : Queue}
    {msg : InterthreadMessage} {rest : List InterthreadMessage}
    (hpoint : s.simulation.point p = some (.waitingConnectAck connectAck))
    (hpopped : s.queues connectAck = msg :: rest) :
    HandshakeInv { s with queues := Function.update s.queues connectAck rest } creations trace := by
  obtain ⟨queue, creation, hcreation, hchild, rfl⟩ := h.simulation.placed p _ hpoint
  have hpaired := h.simulation.paired queue creation hcreation
  exact
    { simulation := h.simulation
      connections := h.connections
      called := h.called
      asleep := h.asleep
      canConnect := fun queue' creation' hcreation' => by
        refine (Function.update_of_ne ?_ _ _).trans (h.canConnect queue' creation' hcreation')
        rintro rfl
        rw [hpaired] at hcreation'
        cases hcreation'
      connect := fun queue' creation' hcreation' hstored => by
        have hempty := h.connect queue' creation' hcreation' hstored
        refine (Function.update_of_ne ?_ _ _).trans hempty
        intro heq
        rw [heq, hpopped] at hempty
        cases hempty
      unused := fun queue' hle => by
        have hempty := h.unused queue' hle
        refine (Function.update_of_ne ?_ _ _).trans hempty
        rintro rfl
        rw [hpopped] at hempty
        cases hempty
      messages := h.messages
      once := h.once
      entries := h.entries
      initial := h.initial
      others := h.others
      stored := h.stored
      acknowledged := h.acknowledged }

/-- A step of the command thread that pops nothing. -/
theorem served (h : HandshakeInv s creations trace) {event : ServeEvent} {serve : Serve}
    {written : List ServeOutput} (hevent : ∀ msg, event ≠ .interthread msg)
    (hstep : serveStep s.serve event = some (serve, written)) (ht : t.serve = serve)
    (hqueues : ∀ queue, t.queues queue = s.queues queue ++ pushesOn queue written)
    (hqueue : t.toCommand = s.toCommand) (hsimulation : t.simulation = s.simulation)
    (hmaestro : t.maestro = s.maestro) : HandshakeInv t creations (trace ++ out) := by
  have hcases := serveStep_cases hstep
  obtain ⟨hentries, hkept, hpushes⟩ := hcases.entries hevent
  -- a push is on the second queue of a creation that is stored
  have hsame : ∀ queue, (∀ queue' creation, creations queue' = some creation →
      creation.phase.stored = true → queue ≠ queue' + 1) → t.queues queue = s.queues queue := by
    intro queue hnot
    rw [hqueues, pushesOn_eq_nil, List.append_nil]
    intro msg hmem
    obtain ⟨id, c, hfind, hack⟩ := hpushes queue msg hmem
    obtain ⟨queue', creation, hcreation, hstored, -, heq⟩ := h.entries id c queue hfind hack
    exact hnot queue' creation hcreation hstored heq
  exact
    { simulation := hsimulation ▸ h.simulation
      connections := by rw [ht]; exact h.connections.step hcases
      called := fun hcalled => by
        rw [hmaestro] at hcalled
        rw [ht]
        obtain ⟨map, hmap⟩ := List.exists_mem_of_ne_nil _ (h.called hcalled)
        exact List.ne_nil_of_mem (serveStep_threads hstep map hmap)
      asleep := by rw [hmaestro, hsimulation]; exact h.asleep
      canConnect := fun queue creation hcreation => by
        refine (hsame queue ?_).trans (h.canConnect queue creation hcreation)
        rintro queue' creation' hcreation' - rfl
        rw [h.simulation.paired queue' creation' hcreation'] at hcreation
        cases hcreation
      connect := fun queue creation hcreation hnot => by
        refine (hsame (queue + 1) ?_).trans (h.connect queue creation hcreation hnot)
        intro queue' creation' hcreation' hstored heq
        obtain rfl := Nat.succ.inj heq
        rw [hcreation, Option.some.injEq] at hcreation'
        rw [← hcreation', hnot] at hstored
        cases hstored
      unused := fun queue hle => by
        rw [hsimulation] at hle
        refine (hsame queue ?_).trans (h.unused queue hle)
        rintro queue' creation hcreation - rfl
        exact absurd (h.simulation.allocated queue' creation hcreation).2 (not_lt.mpr hle)
      messages := by rw [hqueue]; exact h.messages
      once := by rw [hqueue]; exact h.once
      entries := fun id c connectAck hfind hack => by
        rw [ht] at hfind
        rcases hentries id c hfind with ⟨c', hfind', heq⟩ | ⟨-, hnone⟩
        · exact h.entries id c' connectAck hfind' (heq.symm.trans hack)
        · rw [hack] at hnone
          cases hnone
      initial := fun id c hfind hack hrunning => by
        rw [ht] at hfind
        rw [hmaestro] at hrunning
        rw [hsimulation]
        rcases hentries id c hfind with ⟨c', hfind', heq⟩ | ⟨hstate, -⟩
        · exact h.initial id c' hfind' (heq.symm.trans hack) hrunning
        · refine absurd (h.connections.started (Or.inl hstate)) (h.called ?_)
          rw [hrunning]
          exact nofun
      others := fun id c queue creation hfind hack hcreation => by
        rw [ht] at hfind
        rcases hentries id c hfind with ⟨c', hfind', heq⟩ | ⟨hstate, -⟩
        · exact h.others id c' queue creation hfind' (heq.symm.trans hack) hcreation
        · have hcalled : s.maestro ≠ .notCalled := by
            intro hnot
            rw [(h.asleep hnot).1] at hcreation
            cases hcreation
          exact absurd (h.connections.started (Or.inl hstate)) (h.called hcalled)
      stored := fun queue creation child hcreation hstored hchild => by
        obtain ⟨hhandles, c, hfind, hack⟩ := h.stored queue creation child hcreation hstored hchild
        obtain ⟨c', hfind', heq⟩ := hkept child c hfind
        exact ⟨handles_mono hhandles, c', by rw [ht]; exact hfind', heq.trans hack⟩
      acknowledged := fun queue p child hcreation =>
        acknowledged_mono (h.acknowledged queue p child hcreation) }

/-- The command thread pops a message that announces no creation. -/
theorem pop (h : HandshakeInv s creations trace) {msg : InterthreadMessage}
    {rest : List InterthreadMessage} {serve : Serve} (hmsg : s.toCommand = msg :: rest)
    (hconnections : ConnectionInv serve)
    (hentries : serve.actorConnections = s.serve.actorConnections)
    (hthreads : serve.simulationThreads = s.serve.simulationThreads) :
    HandshakeInv (({ s with toCommand := rest } : Server K).afterServe serve []) creations
      (trace ++ out) where
  simulation := h.simulation
  connections := hconnections
  called hcalled := by
    change serve.simulationThreads ≠ []
    rw [hthreads]
    exact h.called hcalled
  asleep := h.asleep
  canConnect := h.canConnect
  connect := h.connect
  unused := h.unused
  messages child queue connectAck hmem :=
    h.messages child queue connectAck (by rw [hmsg]; exact List.mem_cons_of_mem _ hmem)
  once := by
    have honce := h.once
    rw [hmsg] at honce
    exact honce.sublist ((List.sublist_cons_self msg rest).filter _)
  entries id c connectAck hfind hack := by
    have hfind' : serve.actorConnections.find id = some c := hfind
    rw [hentries] at hfind'
    exact h.entries id c connectAck hfind' hack
  initial id c hfind hack hrunning := by
    have hfind' : serve.actorConnections.find id = some c := hfind
    rw [hentries] at hfind'
    exact h.initial id c hfind' hack hrunning
  others id c queue creation hfind hack hcreation := by
    have hfind' : serve.actorConnections.find id = some c := hfind
    rw [hentries] at hfind'
    exact h.others id c queue creation hfind' hack hcreation
  stored queue creation child hcreation hstored hchild := by
    obtain ⟨hhandles, c, hfind, hack⟩ := h.stored queue creation child hcreation hstored hchild
    refine ⟨handles_mono hhandles, c, ?_, hack⟩
    change serve.actorConnections.find child = some c
    rw [hentries, hfind]
  acknowledged queue p child hcreation := acknowledged_mono (h.acknowledged queue p child hcreation)

/-- The command thread is never told of an actor id that it already knows. -/
theorem free (h : HandshakeInv s creations trace) {child : Pid} {queue : Queue} {p : Pid}
    (hcreation : creations queue = some ⟨p, .announced child⟩) :
    s.serve.actorConnections.find child = none := by
  cases hfind : s.serve.actorConnections.find child with
  | none => rfl
  | some c =>
      cases hack : c.connectAck with
      | none => exact absurd rfl (h.others child c queue _ hfind hack hcreation)
      | some connectAck =>
          obtain ⟨queue', creation, hcreation', hstored, hchild, -⟩ :=
            h.entries child c connectAck hfind hack
          obtain rfl := h.simulation.single queue' queue creation _ child hcreation' hcreation hchild rfl
          rw [hcreation, Option.some.injEq] at hcreation'
          rw [← hcreation'] at hstored
          cases hstored

/-- A creation after the one of a queue is registered. -/
theorem registered_cases {queue queue' : Queue} {p : Pid} {child : Pid} {creation : Creation}
    (h : Function.update creations queue (some ⟨p, .registered child⟩) queue' = some creation) :
    queue' = queue ∧ creation = ⟨p, .registered child⟩ ∨
      queue' ≠ queue ∧ creations queue' = some creation := by
  by_cases hne : queue' = queue
  · subst hne
    rw [Function.update_self, Option.some.injEq] at h
    exact Or.inl ⟨rfl, h.symm⟩
  · rw [Function.update_of_ne hne] at h
    exact Or.inr ⟨hne, h⟩

/-- A creation whose connection is stored is not one that was just announced. -/
theorem ne_of_stored {queue queue' : Queue} {p : Pid} {child : Pid} {creation : Creation}
    (hcreation : creations queue = some ⟨p, .announced child⟩)
    (hcreation' : creations queue' = some creation) (hstored : creation.phase.stored = true) :
    queue' ≠ queue := by
  rintro rfl
  rw [hcreation, Option.some.injEq] at hcreation'
  rw [← hcreation'] at hstored
  cases hstored

/-- The messages behind the one that announces a creation announce other ones. -/
theorem announced_behind (h : HandshakeInv s creations trace) {child child' : Pid}
    {queue queue' connectAck connectAck' : Queue} {rest : List InterthreadMessage} {p : Pid}
    (hmsg : s.toCommand = .actorCreate child queue connectAck :: rest)
    (hcreation : creations queue = some ⟨p, .announced child⟩)
    (hrest : .actorCreate child' queue' connectAck' ∈ rest) :
    connectAck' = queue' + 1 ∧ queue' ≠ queue ∧
      ∃ p', creations queue' = some ⟨p', .announced child'⟩ := by
  have hbehind : .actorCreate child' queue' connectAck' ∈ s.toCommand := by
    rw [hmsg]
    exact List.mem_cons_of_mem _ hrest
  obtain ⟨rfl, p', hcreation'⟩ := h.messages child' queue' connectAck' hbehind
  refine ⟨rfl, ?_, p', hcreation'⟩
  rintro rfl
  rw [hcreation, Option.some.injEq, Creation.mk.injEq, CreationPhase.announced.injEq] at hcreation'
  obtain ⟨rfl, rfl⟩ := hcreation'
  have hhead : .actorCreate child queue' connectAck ∈ s.toCommand := by
    rw [hmsg]
    exact List.mem_cons_self ..
  obtain ⟨rfl, -⟩ := h.messages child queue' connectAck hhead
  -- the message would be in the queue twice
  have honce := h.once
  rw [hmsg] at honce
  exact (List.nodup_cons.mp honce).1 (List.mem_filter.mpr ⟨hrest, rfl⟩)

/-- The queues once a parent has been told that its child may connect. -/
theorem queues_told (rest : List InterthreadMessage) (serve : Serve) (queue queue' : Queue) :
    (({ s with toCommand := rest } : Server K).afterServe serve [.push queue .actorCreateAck]).queues queue' =
      s.queues queue' ++ if queue' = queue then [.actorCreateAck] else [] := by
  rw [queues_afterServe]
  congr 1
  by_cases heq : queue' = queue
  · simp [pushesOn, heq]
  · simp [pushesOn, heq, Ne.symm heq]

/-- The command thread stores the connection that it expects, and tells the parent. -/
theorem store (h : HandshakeInv s creations trace) {child : Pid} {queue connectAck : Queue}
    {rest : List InterthreadMessage}
    (hmsg : s.toCommand = .actorCreate child queue connectAck :: rest) {serve : Serve}
    (hconnections : ConnectionInv serve)
    (hentries : serve.actorConnections = s.serve.actorConnections.insert child
      { actorId := child, connectAck := some connectAck })
    (hthreads : serve.simulationThreads = s.serve.simulationThreads) :
    connectAck = queue + 1 ∧ ∃ p, creations queue = some ⟨p, .announced child⟩ ∧ HandshakeInv
      (({ s with toCommand := rest } : Server K).afterServe serve [.push queue .actorCreateAck])
      (Function.update creations queue (some ⟨p, .registered child⟩))
      (trace ++ .popped (.actorCreate child queue connectAck) :: out) := by
  have hhead : .actorCreate child queue connectAck ∈ s.toCommand := by
    rw [hmsg]
    exact List.mem_cons_self ..
  obtain ⟨rfl, p, hcreation⟩ := h.messages child queue connectAck hhead
  have honce := h.once
  rw [hmsg] at honce
  have hsame : ∀ queue', queue' ≠ queue → (({ s with toCommand := rest } : Server K).afterServe serve
      [.push queue .actorCreateAck]).queues queue' = s.queues queue' := by
    intro queue' hne
    rw [queues_told, if_neg hne, List.append_nil]
  have hfind : ∀ id, serve.actorConnections.find id = if id = child then
      some { actorId := child, connectAck := some (queue + 1) }
      else s.serve.actorConnections.find id := by
    intro id
    rw [hentries, UnorderedMap.find_insert]
    simp only [h.free hcreation, and_true]
  -- an entry that waits for no acknowledgment was there before
  have hold : ∀ {id c}, serve.actorConnections.find id = some c → c.connectAck = none →
      s.serve.actorConnections.find id = some c := by
    intro id c hentry hack
    rw [hfind] at hentry
    split at hentry
    · cases hentry
      cases hack
    · exact hentry
  refine ⟨rfl, p, hcreation, ?_⟩
  exact
    { simulation := h.simulation.register hcreation
      connections := hconnections
      called := fun hcalled => by
        change serve.simulationThreads ≠ []
        rw [hthreads]
        exact h.called hcalled
      asleep := fun hnot => by
        rw [(h.asleep hnot).1] at hcreation
        cases hcreation
      canConnect := fun queue' creation hcreation' => by
        rcases registered_cases hcreation' with ⟨rfl, rfl⟩ | ⟨hne, hbefore⟩
        · rw [queues_told, h.canConnect queue' _ hcreation, if_pos rfl]
          rfl
        · rw [hsame queue' hne]
          exact h.canConnect queue' creation hbefore
      connect := fun queue' creation hcreation' hnot => by
        rcases registered_cases hcreation' with ⟨rfl, rfl⟩ | ⟨hne, hbefore⟩
        · cases hnot
        · rw [hsame (queue' + 1)]
          · exact h.connect queue' creation hbefore hnot
          · intro heq
            rw [(h.simulation.pair hcreation).2 queue' heq] at hbefore
            cases hbefore
      unused := fun queue' hle => by
        rw [hsame queue']
        · exact h.unused queue' hle
        · rintro rfl
          exact absurd (lt_trans (Nat.lt_succ_self _) (h.simulation.allocated queue' _ hcreation).2)
            (not_lt.mpr hle)
      messages := fun child' queue' connectAck' hmem => by
        obtain ⟨rfl, hne, p', hcreation'⟩ := h.announced_behind hmsg hcreation hmem
        exact ⟨rfl, p', (Function.update_of_ne hne _ _).trans hcreation'⟩
      once := (List.nodup_cons.mp honce).2
      entries := fun id c connectAck' hfind' hack => by
        have hentry : serve.actorConnections.find id = some c := hfind'
        rw [hfind] at hentry
        split at hentry
        · rename_i heq
          cases hentry
          cases hack
          exact ⟨queue, _, Function.update_self .., rfl, by rw [heq]; rfl, rfl⟩
        · obtain ⟨queue', creation, hcreation', hstored, hchild, heq⟩ :=
            h.entries id c connectAck' hentry hack
          refine ⟨queue', creation, ?_, hstored, hchild, heq⟩
          rw [Function.update_of_ne (ne_of_stored hcreation hcreation' hstored), hcreation']
      initial := fun id c hentry hack => h.initial id c (hold hentry hack) hack
      others := fun id c queue' creation hentry hack hcreation' => by
        rcases registered_cases hcreation' with ⟨rfl, rfl⟩ | ⟨-, hbefore⟩
        · exact h.others id c queue' ⟨p, .announced child⟩ (hold hentry hack) hack hcreation
        · exact h.others id c queue' creation (hold hentry hack) hack hbefore
      stored := fun queue' creation child' hcreation' hstored hchild => by
        rcases registered_cases hcreation' with ⟨rfl, rfl⟩ | ⟨hne, hbefore⟩
        · cases hchild
          refine ⟨List.mem_append_right _ (List.mem_cons_self ..),
            ({ actorId := child, connectAck := some (queue' + 1) } : ActorConnection), ?_, rfl⟩
          exact (hfind child).trans (if_pos rfl)
        · obtain ⟨hhandles, c, hentry, hack⟩ := h.stored queue' creation child' hbefore hstored hchild
          refine ⟨handles_mono hhandles, c, ?_, hack⟩
          change serve.actorConnections.find child' = some c
          rw [hfind, if_neg, hentry]
          rintro rfl
          exact hne (h.simulation.single queue' queue creation _ child' hbefore hcreation hchild rfl)
      acknowledged := fun queue' p' child' hcreation' => by
        rcases registered_cases hcreation' with ⟨rfl, heq⟩ | ⟨-, hbefore⟩
        · cases heq
        · exact acknowledged_mono (h.acknowledged queue' p' child' hbefore) }

/-- What the running actor waits on, and what is there. -/
theorem awaited_cases {simulation : Simulation K} {queue : Queue} {p : Pid}
    (hcurrent : simulation.current = some p) (hawaited : simulation.awaited = some queue) :
    simulation.point p = some (.waitingConnectAck queue) ∨
      ∃ child, simulation.point p = some (.waitingCanConnectAck queue child) := by
  simp only [Simulation.awaited, hcurrent] at hawaited
  split at hawaited
  · rename_i hpoint
    cases hawaited
    exact Or.inl hpoint
  · rename_i child hpoint
    cases hawaited
    exact Or.inr ⟨child, hpoint⟩
  · cases hawaited

/-- An actor that pops a message waits on the queue that it is popped from. -/
theorem pops_cases {simulation simulation' : Simulation K} {event : SimEvent K} {sent : List SimOutput}
    {msg : InterthreadMessage} {queue : Queue} {p : Pid}
    (hstep : SimStep simulation event simulation' sent) (hpops : event.pops = some msg)
    (hcurrent : simulation.current = some p) (hawaited : simulation.awaited = some queue) :
    event = .connectAck msg ∧ simulation.point p = some (.waitingConnectAck queue) ∨
      ∃ child, event = .canConnectAck msg ∧
        simulation.point p = some (.waitingCanConnectAck queue child) := by
  have hfound : ∀ {q : Pid} {actor : ServerActor}, simulation.current = some q →
      simulation.actors.find q = some actor → simulation.point p = some actor.point := by
    intro q actor hq hfind
    rw [hcurrent, Option.some.injEq] at hq
    rw [hq, Simulation.point, hfind]
    rfl
  have hconnect : ∀ {q : Pid} {socket : Socket} {connectAck : Queue}, simulation.current = some q →
      simulation.actors.find q = some ⟨socket, .waitingConnectAck connectAck⟩ →
      simulation.point p = some (.waitingConnectAck queue) := by
    intro q socket connectAck hq hfind
    rcases awaited_cases hcurrent hawaited with hpoint | ⟨child, hpoint⟩
    · exact hpoint
    · rw [hfound hq hfind] at hpoint
      cases hpoint
  have hcanConnect : ∀ {q : Pid} {socket : Socket} {canConnectAck : Queue} {child : Pid},
      simulation.current = some q →
      simulation.actors.find q = some ⟨socket, .waitingCanConnectAck canConnectAck child⟩ →
      ∃ child, simulation.point p = some (.waitingCanConnectAck queue child) := by
    intro q socket canConnectAck child hq hfind
    rcases awaited_cases hcurrent hawaited with hpoint | hpoint
    · rw [hfound hq hfind] at hpoint
      cases hpoint
    · exact hpoint
  cases event with
  | connectAck msg' =>
      cases hpops
      refine Or.inl ⟨rfl, ?_⟩
      cases hstep with
      | ran _ _ _ _ hran => cases hran
      | connected q _ _ _ hq hfind => exact hconnect hq hfind
      | connectFailed q _ _ _ hq hfind _ => exact hconnect hq hfind
  | canConnectAck msg' =>
      cases hpops
      refine Or.inr ?_
      have hwaiting : ∃ child, simulation.point p = some (.waitingCanConnectAck queue child) := by
        cases hstep with
        | ran _ q _ _ hran =>
            cases hran with
            | childAccepted _ _ _ _ hq hfind => exact hcanConnect hq hfind
            | badCanConnectAck _ _ _ _ _ _ hq hfind _ => exact hcanConnect hq hfind
      exact hwaiting.imp fun _ hpoint => ⟨rfl, hpoint⟩
  | _ => cases hpops

/-- What a parent pops is the acknowledgment of the command thread. -/
theorem canConnectAck_popped (h : HandshakeInv s creations trace) {p child : Pid} {queue : Queue}
    {msg : InterthreadMessage}
    (hpoint : s.simulation.point p = some (.waitingCanConnectAck queue child))
    (hmem : msg ∈ s.queues queue) : msg = .actorCreateAck := by
  rcases h.simulation.placed p _ hpoint with hcreation | hcreation
  · rw [h.canConnect queue _ hcreation] at hmem
    cases hmem
  · rw [h.canConnect queue _ hcreation] at hmem
    exact List.mem_singleton.mp hmem

theorem receive (h : HandshakeInv s creations trace) {event : SimEvent K} {p : Pid} {queue : Queue}
    {msg : InterthreadMessage} {rest : List InterthreadMessage} {simulation : Simulation K}
    {sent : List SimOutput} (hrunning : s.maestro = .running) (hpops : event.pops = some msg)
    (hcurrent : s.simulation.current = some p) (hawaited : s.simulation.awaited = some queue)
    (hqueue : s.queues queue = msg :: rest)
    (hsimulation : simulationStep K s.simulation event = some (simulation, sent)) :
    ∃ creations', CreationStep s.simulation event creations sent creations' ∧ HandshakeInv
      (({ s with queues := Function.update s.queues queue rest } : Server K).afterSimulation
        simulation sent) creations' (trace ++ .received p msg :: sent.map (.simulation (some p))) := by
  have hcases := (simulationStep_cases hsimulation).2
  rcases pops_cases hcases hpops hcurrent hawaited with ⟨rfl, hpoint⟩ | ⟨child, rfl, hpoint⟩
  · obtain ⟨creations', hstep, hinv⟩ := h.simulation.step hcases nofun
    exact ⟨creations', hstep, (h.connected hpoint hqueue).simulated hstep nofun hinv hcases.next
      (fun _ => hcases.point_ne_none) hrunning⟩
  · have hack : msg = .actorCreateAck := by
      refine h.canConnectAck_popped hpoint ?_
      rw [hqueue]
      exact List.mem_cons_self ..
    obtain ⟨creations', hstep, hinv⟩ := h.simulation.step hcases (by
      intro msg' heq
      cases heq
      exact hack)
    cases hstep with
    | same _ hevent => exact absurd rfl (hevent msg)
    | requested _ _ hevent => exact absurd rfl (hevent msg)
    | created _ _ _ _ _ heq => cases heq
    | announced _ _ _ heq => cases heq
    | told q socket queue' child' _ hq hpoint' =>
        rw [hcurrent, Option.some.injEq] at hq
        subst hq
        rw [hpoint, Option.some.injEq, ActorPoint.waitingCanConnectAck.injEq] at hpoint'
        obtain ⟨rfl, rfl⟩ := hpoint'
        exact ⟨_, .told p socket queue child (by rw [hack]) hcurrent hpoint,
          h.tell hpoint hqueue hinv hcases.next (fun _ => hcases.point_ne_none) hrunning⟩

theorem step (h : HandshakeInv s creations trace) (hstep : ServerStep platformFile s event t out) :
    ∃ creations', HandshakeStep s event creations t.simulation creations' ∧
      HandshakeInv t creations' (trace ++ out) := by
  cases hstep with
  | popped msg rest serve written hqueue hserve =>
      have hconnections := h.connections.step (serveStep_cases hserve)
      cases serveStep_cases hserve with
      | interthread _ _ _ _ _ hpopped =>
          cases hpopped with
          | finished => exact ⟨creations, .still nofun nofun rfl, h.pop hqueue hconnections rfl rfl⟩
          | aborted => exact ⟨creations, .still nofun nofun rfl, h.pop hqueue hconnections rfl rfl⟩
          | quit => exact ⟨creations, .still nofun nofun rfl, h.pop hqueue hconnections rfl rfl⟩
          | created child queue connectAck _ =>
              obtain ⟨rfl, p, hcreation, hinv⟩ := h.store hqueue hconnections rfl rfl
              exact ⟨_, .registered queue p child rfl rfl hcreation, hinv⟩
  | served event serve written hevent hserve =>
      have hsame : (s.uninvite event).queues = s.queues ∧
          (s.uninvite event).toCommand = s.toCommand ∧
          (s.uninvite event).simulation = s.simulation ∧ (s.uninvite event).maestro = s.maestro := by
        cases event with
        | command socket command => cases command <;> exact ⟨rfl, rfl, rfl, rfl⟩
        | _ => exact ⟨rfl, rfl, rfl, rfl⟩
      obtain ⟨hqueues, hqueue, hsimulation, hmaestro⟩ := hsame
      refine ⟨creations, .still nofun ?_ hsimulation,
        h.served hevent hserve rfl ?_ hqueue hsimulation hmaestro⟩
      · rintro child queue queue' ⟨⟩
        exact hevent _ rfl
      · intro queue
        rw [queues_afterServe, hqueues]
  | unknownHost connections map vector connection _ hthreads _ _ _ _ =>
      exact ⟨creations, .still nofun nofun rfl,
        h.maestro rfl rfl rfl (by rw [hthreads]; exact nofun) nofun nofun
          (List.append_nil _).symm (List.forall_mem_nil _)⟩
  | spawned connections map vector hnot hthreads hperm hvector _ =>
      obtain ⟨hvalues, hids⟩ := connectionsUnorderedmapToVector_eq_ok hvector
      refine ⟨creations, .spawned connections vector rfl hnot rfl ?_,
        h.spawn hnot hthreads (hvalues.trans hperm) rfl rfl rfl rfl rfl⟩
      rw [hids]
      exact nodup_consecutiveIds 2 _
  | ran event simulation sent hrunning hpops hsimulation =>
      have hcases := (simulationStep_cases hsimulation).2
      have hevent : ∀ msg, event ≠ .canConnectAck msg := by
        rintro msg rfl
        cases hpops
      obtain ⟨creations', hstep, hinv⟩ :=
        h.simulation.step hcases fun msg heq => absurd heq (hevent msg)
      exact ⟨creations', .simulated event sent creations' rfl hsimulation hstep,
        h.simulated hstep hevent hinv hcases.next (fun _ => hcases.point_ne_none) hrunning⟩
  | received event p queue msg rest simulation sent hrunning hpops hcurrent hawaited hqueue
      hsimulation =>
      obtain ⟨creations', hstep, hinv⟩ :=
        h.receive hrunning hpops hcurrent hawaited hqueue hsimulation
      exact ⟨creations',
        .simulated event sent creations' rfl hsimulation hstep, hinv⟩
  | aborted reason hmaestro =>
      refine ⟨creations, .still nofun nofun rfl, h.maestro rfl rfl rfl (h.called ?_) nofun nofun rfl
        (List.forall_mem_singleton.mpr rfl)⟩
      rw [hmaestro]
      exact nofun
  | finished hmaestro _ =>
      refine ⟨creations, .still nofun nofun rfl, h.maestro rfl rfl rfl (h.called ?_) nofun nofun rfl
        (List.forall_mem_singleton.mpr rfl)⟩
      rw [hmaestro]
      exact nofun

end HandshakeInv

end

end RemoteSimgrid
