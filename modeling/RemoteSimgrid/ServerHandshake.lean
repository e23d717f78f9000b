import RemoteSimgrid.ServerRounds

/-! The handshake that connects the client of a created actor: what the command thread answers to its
CONNECT command, and what the created actor receives. -/

namespace RemoteSimgrid

open Machine Pb

/-! ### The command thread while the simulation runs -/

/-- What a command does once the simulation has been started. -/
inductive StartedStep (s : Serve) (event : ServeEvent) (t : Serve) (out : List ServeOutput) : Prop
  | same : t.actorConnections = s.actorConnections → (∀ queue msg, .push queue msg ∉ out) →
      StartedStep s event t out
  | connected (socket : Socket) (actor : Actor) (c : ActorConnection) (connectAck : Queue) :
      event = .command socket (.connect actor) → s.actorConnections.find actor.id = some c →
      c.socket = none → c.connectAck = some connectAck →
      t.actorConnections = (s.connected actor.id socket).actorConnections →
      out = [.push connectAck (.actorConnected socket), .writeCommandAck socket { success := true }] →
      StartedStep s event t out

section

variable {s t : Serve} {event : ServeEvent} {out : List ServeOutput}

theorem handleCommand_started {command : Command} {socket : Socket} {drop : Bool}
    (hstate : s.serverState ≠ .acceptingNewActors ∧ s.serverState ≠ .waitingForAllActorsConnection)
    (h : s.handleCommand command socket = .ok (t, out, drop)) :
    StartedStep s (.command socket command) t out := by
  obtain ⟨haccepting, hwaiting⟩ := hstate
  cases command with
  | addActor addActor =>
      simp only [Serve.handleCommand, rsgEnforce_eq_ok, haccepting, false_or] at h
      rw [if_neg (not_not.mpr h.1), Except.ok.injEq, Prod.mk.injEq, Prod.mk.injEq] at h
      obtain ⟨-, rfl, rfl, -⟩ := h
      exact .same rfl (by simp)
  | start value =>
      simp only [Serve.handleCommand, rsgEnforce_eq_ok] at h
      exact absurd h.1 haccepting
  | kill reason =>
      cases h
      exact .same rfl (by simp)
  | status value =>
      cases h
      exact .same rfl (by simp)
  | typeNotSet => cases h
  | connect actor =>
      simp only [Serve.handleCommand, rsgEnforce_eq_ok] at h
      obtain ⟨hallowed, h⟩ := h
      split at h
      · rename_i hkilled
        have hrunning : s.serverState = .simulationRunning := by
          rcases hallowed with hstate | hstate | hstate | hstate
          · exact absurd hstate haccepting
          · exact absurd hstate hwaiting
          · exact hstate
          · exact absurd hstate hkilled
        split at h
        · cases h
        · rename_i c hfind
          rw [rsgEnforce_eq_ok, if_pos hrunning] at h
          obtain ⟨hsocket, h⟩ := h
          split at h
          · cases h
          · rename_i connectAck hack
            cases h
            exact .connected socket actor c connectAck rfl hfind hsocket hack rfl rfl
      · cases h
        exact .same rfl (by simp)

theorem serveStep_started (h : serveStep s event = some (t, out))
    (hevent : ∀ msg, event ≠ .interthread msg)
    (hstate : s.serverState ≠ .acceptingNewActors ∧ s.serverState ≠ .waitingForAllActorsConnection) :
    StartedStep s event t out := by
  unfold serveStep at h
  split at h
  · cases h
  · cases event with
    | accept socket =>
        simp only at h
        split at h
        · cases h
        · cases h
          exact .same rfl nofun
    | delete socket =>
        simp only at h
        split at h
        · cases h
          exact .same rfl nofun
        · cases h
    | interthread msg => exact absurd rfl (hevent msg)
    | command socket command =>
        simp only at h
        split at h
        · split at h
          · cases h
          · rename_i t' out' drop hhandled
            cases h
            cases handleCommand_started hstate hhandled with
            | same hconnections hpush => exact .same hconnections hpush
            | connected socket' actor c connectAck hevent hfind hsocket hack hconnections hout =>
                exact .connected socket' actor c connectAck hevent hfind hsocket hack hconnections hout
        · cases h

/-- Only a KILL command makes the state KILLED. -/
theorem handleCommand_killed {command : Command} {socket : Socket} {drop : Bool}
    (h : s.handleCommand command socket = .ok (t, out, drop)) (hkilled : t.serverState = .killed) :
    s.serverState = .killed ∨ ∃ reason, command = .kill reason := by
  cases command with
  | kill reason => exact Or.inr ⟨reason, rfl⟩
  | addActor addActor =>
      simp only [Serve.handleCommand, rsgEnforce_eq_ok] at h
      obtain ⟨-, h⟩ := h
      split at h
      · cases h
        exact Or.inl hkilled
      · cases h
        exact Or.inl hkilled
  | start value =>
      simp only [Serve.handleCommand, rsgEnforce_eq_ok] at h
      obtain ⟨-, h⟩ := h
      split at h
      · cases h
        cases hkilled
      · cases h
        cases hkilled
  | status value =>
      cases h
      exact Or.inl hkilled
  | typeNotSet => cases h
  | connect actor =>
      simp only [Serve.handleCommand, rsgEnforce_eq_ok] at h
      obtain ⟨-, h⟩ := h
      split at h
      · split at h
        · cases h
        · rw [rsgEnforce_eq_ok] at h
          obtain ⟨-, h⟩ := h
          split at h
          · split at h
            · cases h
            · cases h
              exact Or.inl hkilled
          · split at h
            · cases h
              cases hkilled
            · cases h
              exact Or.inl hkilled
      · cases h
        exact Or.inl hkilled

theorem serveStep_killed (h : serveStep s event = some (t, out)) (hkilled : t.serverState = .killed) :
    s.serverState = .killed ∨ ∃ socket reason, event = .command socket (.kill reason) := by
  have hcases := serveStep_cases h
  unfold serveStep at h
  split at h
  · cases h
  · cases hcases with
    | accept => exact Or.inl hkilled
    | delete => exact Or.inl hkilled
    | interthread msg _ _ _ _ hpopped =>
        cases hpopped with
        | finished => cases hkilled
        | aborted => cases hkilled
        | quit => exact Or.inl hkilled
        | created => exact Or.inl hkilled
    | command socket command v _ dropClient hsocket hhandled =>
        simp only [if_pos hsocket] at h
        split at h
        · cases h
        · rename_i v' out' drop hcommand
          rw [Option.some.injEq, Prod.mk.injEq] at h
          have hstate : v'.serverState = .killed := by
            have heq := congrArg Serve.serverState h.1
            exact heq.trans hkilled
          refine (handleCommand_killed hcommand hstate).imp_right ?_
          rintro ⟨reason, rfl⟩
          exact ⟨socket, reason, rfl⟩

end

/-! ### What a created actor receives -/

/-- The sockets of the ACTOR_CONNECTED messages that an actor has received. -/
def connectedSockets (p : Pid) (trace : List ServerOutput) : List Socket :=
  trace.filterMap fun
    | .received q (.actorConnected socket) => if q = p then some socket else none
    | _ => none

/-- The switch of the command thread has a case for the message. -/
def InterthreadMessage.handled : InterthreadMessage → Bool
  | .simulationFinished | .simulationAborted _ | .actorQuit _ | .actorCreate _ _ _ => true
  | _ => false

/-- The actor has no socket, or is gone. -/
def ActorPoint.unconnected : ActorPoint → Bool
  | .spawned (some _) | .calling _ (.firstYield _) | .returned _ (.firstYield _)
  | .waitingConnectAck _ | .terminated => true
  | _ => false

section

variable {K : S4u} {platformFile : String} {s t : Server K} {event : ServerEvent K}
  {creations creations' : Creations} {trace out : List ServerOutput}
  {events : List (ServerEvent K)}

/-- The way of the socket of a CONNECT command to the created actor: the entry of the connection, what
the actor has received and what is in its queue. -/
inductive Delivered (events : List (ServerEvent K)) (id : Int) :
    Option Socket → List Socket → List InterthreadMessage → Prop
  | waiting : Delivered events id none [] []
  | pushed (socket : Socket) : .serve (.command socket (.connect { id := id })) ∈ events →
      Delivered events id (some socket) [] [.actorConnected socket]
  | received (socket : Socket) : .serve (.command socket (.connect { id := id })) ∈ events →
      Delivered events id (some socket) [socket] []

theorem Delivered.mono {id : Int} {socket : Option Socket} {received : List Socket}
    {queue : List InterthreadMessage} (h : Delivered events id socket received queue) :
    Delivered (events ++ [event]) id socket received queue := by
  cases h with
  | waiting => exact .waiting
  | pushed socket hmem => exact .pushed socket (List.mem_append_left _ hmem)
  | received socket hmem => exact .received socket (List.mem_append_left _ hmem)

/-- Before the first CONNECT. -/
theorem Delivered.socket_eq_none {id : Int} {socket : Option Socket} {received : List Socket}
    {queue : List InterthreadMessage} (h : Delivered events id socket received queue)
    (hfirst : ∀ socket', .serve (.command socket' (.connect { id := id })) ∉ events) : socket = none := by
  cases h with
  | waiting => rfl
  | pushed socket' hevent => exact absurd hevent (hfirst socket')
  | received socket' hevent => exact absurd hevent (hfirst socket')

theorem Delivered.message {id : Int} {socket : Option Socket} {received : List Socket}
    {queue : List InterthreadMessage} {msg : InterthreadMessage}
    (h : Delivered events id socket received queue) (hmem : msg ∈ queue) :
    ∃ socket', msg = .actorConnected socket' := by
  cases h with
  | waiting => cases hmem
  | pushed socket' => exact ⟨socket', List.mem_singleton.mp hmem⟩
  | received => cases hmem

/-- The actor that has received something has received one socket. -/
theorem Delivered.received_eq {id : Int} {socket : Option Socket} {received : List Socket}
    {queue : List InterthreadMessage} (h : Delivered events id socket received queue)
    (hne : received ≠ []) : ∃ socket', received = [socket'] ∧
      .serve (.command socket' (.connect { id := id })) ∈ events := by
  cases h with
  | waiting => exact absurd rfl hne
  | pushed => exact absurd rfl hne
  | received socket' hevent => exact ⟨socket', rfl, hevent⟩

/-- The deliveries of all created actors whose connection is expected, and of no other actor. -/
structure Deliveries (s : Server K) (events : List (ServerEvent K)) (trace : List ServerOutput) :
    Prop where
  delivered : ∀ id c connectAck, s.serve.actorConnections.find id = some c →
    c.connectAck = some connectAck →
    Delivered events id c.socket (connectedSockets id trace) (s.queues connectAck)
  silent : ∀ id, (∀ c, s.serve.actorConnections.find id = some c → c.connectAck = none) →
    connectedSockets id trace = []

structure ConnectedInv (s : Server K) (creations : Creations) (events : List (ServerEvent K))
    (trace : List ServerOutput) : Prop where
  killed : s.serve.serverState = .killed →
    ∃ socket reason, .serve (.command socket (.kill reason)) ∈ events
  told : ∀ actor parent socket ack child, .simulation actor (.writeAck parent socket ack) ∈ trace →
    ack.data = .actorCreate child → ∃ queue, creations queue = some ⟨parent, .told child.id⟩
  handled : ∀ msg ∈ s.toCommand, msg.handled = true
  deliveries : Deliveries s events trace
  received : ∀ queue creation child point, creations queue = some creation →
    creation.phase.child = some child → s.simulation.point child = some point →
    point.unconnected = false → connectedSockets child trace ≠ []

theorem connectedSockets_append (p : Pid) (trace out : List ServerOutput) :
    connectedSockets p (trace ++ out) = connectedSockets p trace ++ connectedSockets p out :=
  List.filterMap_append

theorem connectedSockets_of_forall {p : Pid} (h : ∀ o ∈ out, ∀ q msg, o ≠ .received q msg) :
    connectedSockets p out = [] := by
  rw [connectedSockets, List.filterMap_eq_nil_iff]
  intro o ho
  have hnot := h o ho
  cases o with
  | received q msg => exact absurd rfl (hnot q msg)
  | _ => rfl

theorem connectedSockets_serve (p : Pid) (out : List ServeOutput) :
    connectedSockets p (out.map .serve) = [] := by
  refine connectedSockets_of_forall ?_
  intro o ho q msg heq
  obtain ⟨o', -, rfl⟩ := List.mem_map.mp ho
  cases heq

theorem connectedSockets_simulation (p : Pid) (actor : Option Pid) (out : List SimOutput) :
    connectedSockets p (out.map (.simulation actor)) = [] := by
  refine connectedSockets_of_forall ?_
  intro o ho q msg heq
  obtain ⟨o', -, rfl⟩ := List.mem_map.mp ho
  cases heq

/-! ### Steps of the SimGrid thread -/

/-- What the SimGrid thread pushes on `to_command` has a case in the switch of the command thread. -/
theorem SimStep.handled {s t : Simulation K} {event : SimEvent K} {out : List SimOutput}
    (h : SimStep s event t out) : ∀ msg ∈ out.filterMap SimOutput.sent, msg.handled = true := by
  cases h with
  | ran _ p socket segment hran =>
      have hsends := hran.turn.sends
      simp only [Simulation.conclude]
      generalize (segment.out ++ segment.outcome.out p socket).filterMap SimOutput.sent = messages
        at hsends
      cases hsends with
      | nothing => exact List.forall_mem_nil _
      | creation => exact List.forall_mem_singleton.mpr rfl
      | quit => exact List.forall_mem_singleton.mpr rfl
      | abort => exact List.forall_mem_singleton.mpr rfl
  | progressed e kernel writes =>
      rw [sent_of_internal]
      · exact List.forall_mem_nil _
      · intro o ho
        obtain ⟨write, -, rfl⟩ := List.mem_map.mp ho
        rfl
  | _ => exact List.forall_mem_nil _

theorem Ran.unconnected {s : Simulation K} {event : SimEvent K} {p : Pid} {socket : Socket}
    {segment : Segment} {point : ActorPoint} (h : Ran s event p socket segment)
    (hpoint : s.point p = some point) (hunconnected : point.unconnected = true) :
    segment.outcome.point.unconnected = true := by
  have hsame : ∀ {actor : ServerActor}, s.actors.find p = some actor → point = actor.point := by
    intro actor hfind
    rw [Simulation.point, hfind] at hpoint
    exact (Option.some.inj hpoint).symm
  cases h with
  | firstYield => rfl
  | resumed _ actor ret frame _ _ hfind hreturned hresumed =>
      rw [hsame hfind, hreturned] at hunconnected
      cases frame with
      | firstYield connectAck =>
          cases hresumed.looped rfl with
          | escaped => rfl
          | connected => rfl
      | _ => cases hunconnected
  | decided _ _ _ _ hfind _ => rw [hsame hfind] at hunconnected; cases hunconnected
  | thinking _ _ _ _ hfind _ => rw [hsame hfind] at hunconnected; cases hunconnected
  | badThinkTime _ _ _ _ _ hfind _ => rw [hsame hfind] at hunconnected; cases hunconnected
  | readFailed _ _ _ _ hfind => rw [hsame hfind] at hunconnected; cases hunconnected
  | childAccepted _ _ _ _ _ hfind => rw [hsame hfind] at hunconnected; cases hunconnected
  | badCanConnectAck _ _ _ _ _ _ _ hfind _ => rw [hsame hfind] at hunconnected; cases hunconnected

/-- An actor gets its socket in one kind of step only. -/
theorem SimStep.unconnected {s t : Simulation K} {event : SimEvent K} {out : List SimOutput} {p : Pid}
    {point point' : ActorPoint} (h : SimStep s event t out) (hpoint : s.point p = some point)
    (hunconnected : point.unconnected = true) (hpoint' : t.point p = some point') :
    point'.unconnected = true ∨
      s.current = some p ∧ ∃ socket, event = .connectAck (.actorConnected socket) := by
  have hsame : s.point p = some point' → point'.unconnected = true := by
    intro heq
    rw [hpoint, Option.some.injEq] at heq
    rwa [← heq]
  cases h with
  | ran _ q socket segment hran =>
      rw [hran.points] at hpoint'
      split at hpoint'
      · rename_i heq
        subst heq
        cases hpoint'
        exact Or.inl (hran.unconnected hpoint hunconnected)
      · exact Or.inl (hsame hpoint')
  | started q actor _ hfind hspawned =>
      have hp : (s.setPoint q .reading).point p = some point' := hpoint'
      rw [point_setPoint] at hp
      split at hp
      · rename_i heq
        subst heq
        rw [Simulation.point, hfind, Option.map_some, hspawned, Option.some.injEq] at hpoint
        rw [← hpoint] at hunconnected
        cases hunconnected
      · exact Or.inl (hsame hp)
  | served q actor call frame ret kernel _ _ hfind hcalling _ hserve =>
      obtain ⟨actor', hfind', rfl⟩ := point_eq_some.mp hpoint'
      rcases serve_find hserve hfind hfind' with ⟨rfl, hreturned⟩ | ⟨-, hkept | ⟨hnone, _, -⟩⟩
      · refine Or.inl ?_
        rw [Simulation.point, hfind, Option.map_some, hcalling, Option.some.injEq] at hpoint
        rw [← hpoint] at hunconnected
        rw [hreturned]
        cases frame <;> first | rfl | cases hunconnected
      · exact Or.inl (hsame (point_eq_some.mpr ⟨actor', hkept, rfl⟩))
      · rw [Simulation.point, hnone] at hpoint
        cases hpoint
  | progressed => exact Or.inl (hsame hpoint')
  | progressFailed => exact Or.inl (hsame hpoint')
  | round => exact Or.inl (hsame hpoint')
  | connected q socket connectAck socket' hcurrent hfind =>
      by_cases heq : p = q
      · subst heq
        exact Or.inr ⟨hcurrent, socket', rfl⟩
      · refine Or.inl (hsame ?_)
        simpa only [Simulation.point, UnorderedMap.find_modify, if_neg heq] using hpoint'
  | connectFailed q socket connectAck msg _ hfind _ =>
      have hp : (s.setPoint q .terminated).point p = some point' := hpoint'
      rw [point_setPoint] at hp
      split at hp
      · obtain ⟨_, -, rfl⟩ := Option.map_eq_some_iff.mp hp
        exact Or.inl rfl
      · exact Or.inl (hsame hp)

/-- SimGrid creates actors without a socket. -/
theorem SimStep.newborn {s t : Simulation K} {event : SimEvent K} {out : List SimOutput} {p : Pid}
    {point : ActorPoint} (h : SimStep s event t out) (hnone : s.point p = none)
    (hpoint : t.point p = some point) : point.unconnected = true := by
  have hkept : t.point p = s.point p → point.unconnected = true := by
    intro heq
    rw [heq, hnone] at hpoint
    cases hpoint
  have hset : ∀ {q : Pid} {point' : ActorPoint}, (s.setPoint q point').point p = s.point p := by
    intro q point'
    rw [point_setPoint]
    split
    · rename_i heq
      rw [← heq, hnone]
      rfl
    · rfl
  cases h with
  | ran _ q socket segment hran =>
      refine hkept ?_
      rw [hran.points, if_neg]
      rintro rfl
      obtain ⟨actor, hfind⟩ := hran.find
      rw [Simulation.point, hfind] at hnone
      cases hnone
  | started q actor _ hfind _ => exact hkept hset
  | served q actor call frame ret kernel _ _ hfind _ _ hserve =>
      rcases serve_cases hserve with rfl | ⟨name, host, connectAck, child, -, -, hfresh, rfl⟩
      · exact hkept hset
      · have hafter := hpoint.symm.trans (point_insert hfresh)
        split at hafter
        · cases hafter
          rfl
        · have hp : (s.answered q frame ret kernel).point p = s.point p := hset
          rw [hp, hnone] at hafter
          cases hafter
  | progressed => exact hkept rfl
  | progressFailed => exact hkept rfl
  | round => exact hkept rfl
  | connected q socket connectAck socket' _ hfind =>
      refine hkept ?_
      rw [Simulation.point, UnorderedMap.find_modify, if_neg]
      · rfl
      · rintro rfl
        rw [Simulation.point, hfind] at hnone
        cases hnone
  | connectFailed q => exact hkept hset

/-! ### Steps of the server -/

/-- A creation that the client of the parent has been told of stays so. -/
theorem HandshakeStep.told {simulation : Simulation K} {queue : Queue} {p child : Pid}
    (h : HandshakeStep s event creations simulation creations') (hinv : HandshakeInv s creations trace)
    (htold : creations queue = some ⟨p, .told child⟩) : creations' queue = some ⟨p, .told child⟩ := by
  have hother : ∀ {queue' : Queue} {creation : Creation},
      (∀ old child', creations queue' = some old → old.phase ≠ .told child') →
      Function.update creations queue' (some creation) queue = some ⟨p, .told child⟩ := by
    intro queue' creation hnot
    rw [Function.update_of_ne, htold]
    rintro rfl
    exact hnot _ child htold rfl
  have hphase : ∀ {queue' : Queue} {creation : Creation}, creations queue' = some creation →
      (∀ child', creation.phase ≠ .told child') →
      ∀ old child', creations queue' = some old → old.phase ≠ .told child' := by
    intro queue' creation hcreation hnot old child' hold
    rw [hcreation, Option.some.injEq] at hold
    rw [← hold]
    exact hnot child'
  cases h with
  | still => exact htold
  | spawned => exact htold
  | registered queue' q child' _ _ hcreation => exact hother (hphase hcreation nofun)
  | simulated e sent _ _ _ hstep =>
      cases hstep with
      | same => exact htold
      | requested =>
          refine hother ?_
          intro old child' hold
          rw [hinv.simulation.none_of_le le_rfl] at hold
          cases hold
      | created q queue' child' call _ _ hcreation => exact hother (hphase hcreation nofun)
      | announced q queue' child' _ _ hcreation => exact hother (hphase hcreation nofun)
      | told q socket queue' child' _ _ hpoint =>
          rcases hinv.simulation.placed q _ hpoint with hcreation | hcreation
          · exact hother (hphase hcreation nofun)
          · exact hother (hphase hcreation nofun)

/-- The actor of a creation was there, or has just been created. -/
theorem HandshakeStep.child {simulation : Simulation K} {queue : Queue} {creation : Creation}
    {child : Pid} (h : HandshakeStep s event creations simulation creations')
    (hinv : HandshakeInv s creations trace) (hcreation : creations' queue = some creation)
    (hchild : creation.phase.child = some child) :
    (∃ old, creations queue = some old ∧ old.phase.child = some child) ∨
      s.simulation.point child = none ∧
        ∃ e sent, event = .simulation e ∧ SimStep s.simulation e simulation sent := by
  have hupdate : ∀ {queue' : Queue} {new : Creation},
      Function.update creations queue' (some new) queue = some creation →
      (new.phase.child = some child →
        ∃ old, creations queue' = some old ∧ old.phase.child = some child) →
      ∃ old, creations queue = some old ∧ old.phase.child = some child := by
    intro queue' new hupdated hnew
    by_cases hqueue : queue = queue'
    · rw [hqueue, Function.update_self, Option.some.injEq] at hupdated
      rw [hqueue]
      exact hnew (by rw [hupdated, hchild])
    · rw [Function.update_of_ne hqueue] at hupdated
      exact ⟨creation, hupdated, hchild⟩
  cases h with
  | still => exact Or.inl ⟨creation, hcreation, hchild⟩
  | spawned => exact Or.inl ⟨creation, hcreation, hchild⟩
  | registered queue' q child' _ _ hold => exact Or.inl (hupdate hcreation fun hnew => ⟨_, hold, hnew⟩)
  | simulated e sent _ hevent hsim hstep =>
      cases hstep with
      | same => exact Or.inl ⟨creation, hcreation, hchild⟩
      | requested => exact Or.inl (hupdate hcreation nofun)
      | created q queue' child' call _ _ _ hunknown =>
          by_cases heq : child' = child
          · subst heq
            exact Or.inr ⟨hunknown, e, _, hevent, (simulationStep_cases hsim).2⟩
          · refine Or.inl (hupdate hcreation fun hnew => absurd ?_ heq)
            exact Option.some.inj hnew
      | announced q queue' child' _ _ hold => exact Or.inl (hupdate hcreation fun hnew => ⟨_, hold, hnew⟩)
      | told q socket queue' child' _ _ hpoint =>
          refine Or.inl (hupdate hcreation fun hnew => ?_)
          rcases hinv.simulation.placed q _ hpoint with hold | hold
          · exact ⟨_, hold, hnew⟩
          · exact ⟨_, hold, hnew⟩

namespace Deliveries

/-- The rule for a step that adds no entry and touches no queue of an entry. -/
theorem same (h : Deliveries s events trace)
    (hconnections : t.serve.actorConnections = s.serve.actorConnections)
    (hqueues : ∀ id c connectAck, s.serve.actorConnections.find id = some c →
      c.connectAck = some connectAck → t.queues connectAck = s.queues connectAck)
    (hout : ∀ id, connectedSockets id out = []) : Deliveries t (events ++ [event]) (trace ++ out) where
  delivered id c connectAck hfind hack := by
    rw [hconnections] at hfind
    rw [connectedSockets_append, hout, List.append_nil, hqueues id c connectAck hfind hack]
    exact (h.delivered id c connectAck hfind hack).mono
  silent id hnone := by
    rw [hconnections] at hnone
    rw [connectedSockets_append, hout, List.append_nil]
    exact h.silent id hnone

/-- The command thread stores the connection of a created actor. -/
theorem store (h : Deliveries s events trace) (hinv : HandshakeInv s creations trace) {child : Pid}
    {queue : Queue} {p : Pid} (hcreation : creations queue = some ⟨p, .announced child⟩)
    (hconnections : t.serve.actorConnections = s.serve.actorConnections.insert child
      { actorId := child, connectAck := some (queue + 1) })
    (hqueues : ∀ queue', queue' ≠ queue → t.queues queue' = s.queues queue')
    (hout : ∀ id, connectedSockets id out = []) : Deliveries t (events ++ [event]) (trace ++ out) := by
  have hfree := hinv.free hcreation
  have hfind : ∀ id, t.serve.actorConnections.find id = if id = child then
      some { actorId := child, connectAck := some (queue + 1) }
      else s.serve.actorConnections.find id := by
    intro id
    rw [hconnections, UnorderedMap.find_insert]
    simp only [hfree, and_true]
  constructor
  · intro id c connectAck hentry hack
    rw [connectedSockets_append, hout, List.append_nil]
    rw [hfind] at hentry
    split at hentry
    · rename_i heq
      subst heq
      cases hentry
      cases hack
      rw [hqueues _ (Nat.succ_ne_self queue), hinv.connect queue _ hcreation rfl, h.silent id]
      · exact .waiting
      · intro c hsome
        rw [hfree] at hsome
        cases hsome
    · obtain ⟨queue', creation, hcreation', hstored, -, rfl⟩ := hinv.entries id c connectAck hentry hack
      rw [hqueues]
      · exact (h.delivered id c _ hentry hack).mono
      · intro heq
        rw [(hinv.simulation.pair hcreation).2 queue' heq] at hcreation'
        cases hcreation'
  · intro id hnone
    rw [connectedSockets_append, hout, List.append_nil]
    refine h.silent id fun c hentry => hnone c ?_
    rw [hfind, if_neg, hentry]
    rintro rfl
    rw [hfree] at hentry
    cases hentry

/-- The command thread handles the CONNECT command of a created actor. -/
theorem connect (h : Deliveries s events trace) (hinv : HandshakeInv s creations trace)
    {socket : Socket} {actor : Actor} {c : ActorConnection} {queue : Queue}
    (hevent : event = .serve (.command socket (.connect actor)))
    (hfind : s.serve.actorConnections.find actor.id = some c) (hsocket : c.socket = none)
    (hack : c.connectAck = some queue)
    (hconnections : t.serve.actorConnections = (s.serve.connected actor.id socket).actorConnections)
    (hqueues : ∀ queue', t.queues queue' =
      if queue' = queue then s.queues queue ++ [.actorConnected socket] else s.queues queue')
    (hout : ∀ id, connectedSockets id out = []) : Deliveries t (events ++ [event]) (trace ++ out) := by
  have hentries : ∀ id, t.serve.actorConnections.find id =
      if id = actor.id then some { c with socket := some socket }
      else s.serve.actorConnections.find id := by
    intro id
    rw [hconnections, Serve.connected, UnorderedMap.find_modify, hfind]
    rfl
  constructor
  · intro id c' connectAck hentry hack'
    rw [connectedSockets_append, hout, List.append_nil]
    rw [hentries] at hentry
    split at hentry
    · rename_i heq
      cases hentry
      rw [hack] at hack'
      cases hack'
      have hbefore := h.delivered actor.id c queue hfind hack
      rw [hsocket] at hbefore
      rw [hqueues, if_pos rfl, heq]
      generalize connectedSockets actor.id trace = received at hbefore
      generalize s.queues queue = messages at hbefore
      cases hbefore
      exact .pushed socket (List.mem_append_right _ (by rw [hevent]; exact List.mem_singleton_self _))
    · rename_i hne
      rw [hqueues, if_neg]
      · exact (h.delivered id c' connectAck hentry hack').mono
      · rintro rfl
        -- two actors would have the same queue
        obtain ⟨first, creation, hcreation, -, hchild, rfl⟩ := hinv.entries id c' connectAck hentry hack'
        obtain ⟨second, creation', hcreation', -, hchild', heq⟩ := hinv.entries actor.id c _ hfind hack
        obtain rfl := Nat.succ.inj heq
        rw [hcreation, Option.some.injEq] at hcreation'
        rw [← hcreation', hchild] at hchild'
        exact hne (Option.some.inj hchild')
  · intro id hnone
    rw [connectedSockets_append, hout, List.append_nil]
    refine h.silent id fun c' hentry => ?_
    by_cases heq : id = actor.id
    · have hnew := hnone { c with socket := some socket } (by rw [hentries, if_pos heq])
      rw [hack] at hnew
      cases hnew
    · exact hnone c' (by rw [hentries, if_neg heq, hentry])

/-- A created actor pops the message with its socket. -/
theorem receive (h : Deliveries s events trace) (hinv : HandshakeInv s creations trace) {p : Pid}
    {queue : Queue} {msg : InterthreadMessage} {rest : List InterthreadMessage}
    (hpoint : s.simulation.point p = some (.waitingConnectAck queue))
    (hqueue : s.queues queue = msg :: rest)
    (hconnections : t.serve.actorConnections = s.serve.actorConnections)
    (hqueues : t.queues = Function.update s.queues queue rest)
    (hout : ∀ id, connectedSockets id out = []) :
    Deliveries t (events ++ [event]) (trace ++ .received p msg :: out) := by
  obtain ⟨first, creation, hcreation, hchild, rfl⟩ := hinv.simulation.placed p _ hpoint
  have hstored : creation.phase.stored = true := by
    by_contra hnot
    rw [hinv.connect first creation hcreation (Bool.eq_false_iff.mpr hnot)] at hqueue
    cases hqueue
  obtain ⟨-, c, hfind, hack⟩ := hinv.stored first creation p hcreation hstored hchild
  obtain ⟨socket, rfl, rfl, hconnected, hsocket, hnone⟩ : ∃ socket, msg = .actorConnected socket ∧
      rest = [] ∧ .serve (.command socket (.connect { id := p })) ∈ events ∧ c.socket = some socket ∧
      connectedSockets p trace = [] := by
    have hbefore := h.delivered p c _ hfind hack
    rw [hqueue] at hbefore
    generalize c.socket = connected at hbefore
    generalize connectedSockets p trace = received at hbefore
    cases hbefore with
    | pushed socket hmem => exact ⟨socket, rfl, rfl, hmem, rfl, rfl⟩
  have hreceived : ∀ id, connectedSockets id
      (trace ++ .received p (.actorConnected socket) :: out) =
      if p = id then [socket] else connectedSockets id trace := by
    intro id
    rw [connectedSockets_append, show ∀ o : ServerOutput, o :: out = [o] ++ out from fun _ => rfl,
      connectedSockets_append, hout, List.append_nil]
    by_cases heq : p = id
    · subst heq
      rw [hnone, if_pos rfl]
      simp [connectedSockets]
    · simp [connectedSockets, heq]
  constructor
  · intro id c' connectAck hentry hack'
    rw [hconnections] at hentry
    rw [hreceived, hqueues]
    split
    · rename_i heq
      subst heq
      rw [hfind] at hentry
      cases hentry
      rw [hack] at hack'
      cases hack'
      rw [Function.update_self, hsocket]
      exact .received socket (List.mem_append_left _ hconnected)
    · rename_i hne
      rw [Function.update_of_ne]
      · exact (h.delivered id c' connectAck hentry hack').mono
      · rintro rfl
        obtain ⟨second, creation', hcreation', -, hchild', heq⟩ := hinv.entries id c' _ hentry hack'
        obtain rfl := Nat.succ.inj heq
        rw [hcreation, Option.some.injEq] at hcreation'
        rw [← hcreation', hchild] at hchild'
        exact hne (Option.some.inj hchild')
  · intro id hnot
    rw [hconnections] at hnot
    rw [hreceived, if_neg]
    · exact h.silent id hnot
    · rintro rfl
      rw [hnot c hfind] at hack
      cases hack

theorem step (h : Deliveries s events trace) (hinv : HandshakeInv s creations trace)
    (hinv' : HandshakeInv t creations' (trace ++ out))
    (hcreation : HandshakeStep s event creations t.simulation creations')
    (hstep : ServerStep platformFile s event t out) : Deliveries t (events ++ [event]) (trace ++ out) := by
  cases hstep with
  | popped msg rest serve written hqueue hserve =>
      have hout : ∀ id, connectedSockets id (.popped msg :: written.map .serve) = [] :=
        fun id => connectedSockets_serve id written
      cases serveStep_cases hserve with
      | interthread _ _ _ _ _ hpopped =>
          cases hpopped with
          | finished => exact h.same rfl (fun _ _ _ _ _ => rfl) hout
          | aborted => exact h.same rfl (fun _ _ _ _ _ => rfl) hout
          | quit => exact h.same rfl (fun _ _ _ _ _ => rfl) hout
          | created child queue connectAck _ =>
              obtain ⟨rfl, p, hannounced⟩ := hinv.messages child queue connectAck
                (by rw [hqueue]; exact List.mem_cons_self ..)
              refine h.store hinv hannounced rfl ?_ hout
              intro queue' hne
              rw [queues_afterServe]
              simp [pushesOn, Ne.symm hne]
  | served serveEvent serve written hevent hserve =>
      have hsame : (s.uninvite serveEvent).queues = s.queues := by
        cases serveEvent with
        | command socket command => cases command <;> rfl
        | _ => rfl
      have hout : ∀ id, connectedSockets id (written.map .serve) = [] :=
        fun id => connectedSockets_serve id written
      by_cases hnot : s.maestro = .notCalled
      · -- no actor has been created
        obtain ⟨hnone, -⟩ := hinv.asleep hnot
        have hnone' : ∀ queue, creations' queue = none := by
          cases hcreation with
          | still => exact hnone
          | spawned _ _ heq => cases heq
          | registered queue p child heq =>
              rcases heq with ⟨⟩
              exact absurd rfl (hevent _)
          | simulated _ _ _ heq => cases heq
        constructor
        · intro id c connectAck hfind hack
          obtain ⟨queue, creation, hsome, -⟩ := hinv'.entries id c connectAck hfind hack
          rw [hnone'] at hsome
          cases hsome
        · intro id _
          rw [connectedSockets_append, hout, List.append_nil]
          refine h.silent id fun c hfind => ?_
          cases hack : c.connectAck with
          | none => rfl
          | some connectAck =>
              obtain ⟨queue, creation, hsome, -⟩ := hinv.entries id c connectAck hfind hack
              rw [hnone] at hsome
              cases hsome
      · have hstate : s.serve.serverState ≠ .acceptingNewActors ∧
            s.serve.serverState ≠ .waitingForAllActorsConnection :=
          ⟨fun heq => hinv.called hnot (hinv.connections.started (Or.inl heq)),
            fun heq => hinv.called hnot (hinv.connections.started (Or.inr heq))⟩
        cases serveStep_started hserve hevent hstate with
        | same hconnections hpush =>
            refine h.same hconnections (fun id c connectAck _ _ => ?_) hout
            rw [queues_afterServe, pushesOn_eq_nil (hpush connectAck), List.append_nil, hsame]
        | connected socket actor c connectAck heq hfind hsocket hack hconnections hwritten =>
            refine h.connect hinv (by rw [heq]) hfind hsocket hack hconnections ?_ hout
            intro queue'
            rw [queues_afterServe, hsame, hwritten]
            by_cases hqueue : queue' = connectAck
            · simp [pushesOn, hqueue]
            · simp [pushesOn, hqueue, Ne.symm hqueue]
  | unknownHost => exact h.same rfl (fun _ _ _ _ _ => rfl) fun _ => rfl
  | spawned => exact h.same rfl (fun _ _ _ _ _ => rfl) fun _ => rfl
  | ran e simulation sent _ _ _ =>
      exact h.same rfl (fun _ _ _ _ _ => rfl) fun id => connectedSockets_simulation id _ sent
  | received e p queue msg rest simulation sent _ hpops hcurrent hawaited hqueue hsimulation =>
      have hout : ∀ id, connectedSockets id (sent.map (.simulation (some p))) = [] :=
        fun id => connectedSockets_simulation id _ sent
      rcases HandshakeInv.pops_cases (simulationStep_cases hsimulation).2 hpops hcurrent hawaited with
        ⟨-, hpoint⟩ | ⟨child, -, hpoint⟩
      · exact h.receive hinv hpoint hqueue rfl rfl hout
      · obtain rfl := hinv.canConnectAck_popped hpoint (by rw [hqueue]; exact List.mem_cons_self ..)
        refine h.same rfl (fun id c connectAck hfind hack => ?_) hout
        obtain ⟨queue', creation, hcreation', -, -, rfl⟩ := hinv.entries id c connectAck hfind hack
        refine Function.update_of_ne ?_ _ _
        rintro rfl
        have hpaired := hinv.simulation.paired queue' creation hcreation'
        rcases hinv.simulation.placed p _ hpoint with hsome | hsome
        · rw [hpaired] at hsome
          cases hsome
        · rw [hpaired] at hsome
          cases hsome
  | aborted => exact h.same rfl (fun _ _ _ _ _ => rfl) fun _ => rfl
  | finished => exact h.same rfl (fun _ _ _ _ _ => rfl) fun _ => rfl

end Deliveries

namespace ConnectedInv

theorem init : ConnectedInv ({} : Server K) (fun _ => none) [] [] where
  killed h := by cases h
  told actor parent socket ack child hmem := by cases hmem
  handled msg hmem := by cases hmem
  deliveries := ⟨fun id c connectAck hfind => by simp at hfind, fun _ _ => rfl⟩
  received queue creation child point hcreation := by cases hcreation

theorem step_killed (h : ConnectedInv s creations events trace)
    (hstep : ServerStep platformFile s event t out) (hkilled : t.serve.serverState = .killed) :
    ∃ socket reason, .serve (.command socket (.kill reason)) ∈ events ++ [event] := by
  have hsame : s.serve.serverState = .killed →
      ∃ socket reason, .serve (.command socket (.kill reason)) ∈ events ++ [event] := by
    intro hbefore
    obtain ⟨socket, reason, hmem⟩ := h.killed hbefore
    exact ⟨socket, reason, List.mem_append_left _ hmem⟩
  have hserve : ∀ {serveEvent : ServeEvent} {serve : Serve} {written : List ServeOutput},
      event = .serve serveEvent → serveStep s.serve serveEvent = some (serve, written) →
      serve.serverState = .killed →
      ∃ socket reason, .serve (.command socket (.kill reason)) ∈ events ++ [event] := by
    intro serveEvent serve written hevent hserve hafter
    rcases serveStep_killed hserve hafter with hbefore | ⟨socket, reason, rfl⟩
    · exact hsame hbefore
    · exact ⟨socket, reason, List.mem_append_right _ (by rw [hevent]; exact List.mem_singleton_self _)⟩
  cases hstep with
  | popped msg rest serve written _ hstep => exact hserve rfl hstep hkilled
  | served serveEvent serve written _ hstep => exact hserve rfl hstep hkilled
  | _ => exact hsame hkilled

/-- An acknowledgment of a creation is written when the creation is told. -/
theorem step_told (h : ConnectedInv s creations events trace) (hinv : HandshakeInv s creations trace)
    (hstep : ServerStep platformFile s event t out)
    (hcreation : HandshakeStep s event creations t.simulation creations') {actor : Option Pid}
    {parent : Pid} {socket : Socket} {ack : DecisionAck} {child : Actor}
    (hmem : .simulation actor (.writeAck parent socket ack) ∈ trace ++ out)
    (hack : ack.data = .actorCreate child) :
    ∃ queue, creations' queue = some ⟨parent, .told child.id⟩ := by
  rcases List.mem_append.mp hmem with hmem | hmem
  · obtain ⟨queue, htold⟩ := h.told actor parent socket ack child hmem hack
    exact ⟨queue, hcreation.told hinv htold⟩
  · have hsimulated : ∀ {e : SimEvent K} {sent : List SimOutput}, event = .simulation e →
        simulationStep K s.simulation e = some (t.simulation, sent) →
        .writeAck parent socket ack ∈ sent → ∃ queue, creations' queue = some ⟨parent, .told child.id⟩ := by
      intro e sent hevent hsimulation hmem
      have hcreates : SimOutput.creation (.writeAck parent socket ack) = true := by
        simp [SimOutput.creation, hack, AckData.dataCase]
      cases hcreation with
      | still hnot => exact absurd hevent (hnot e)
      | spawned _ _ heq => rw [hevent] at heq; cases heq
      | registered _ _ _ heq => rw [hevent] at heq; cases heq
      | simulated e' sent' _ heq hsimulation' hstep =>
          rw [hevent] at heq
          cases heq
          rw [hsimulation] at hsimulation'
          cases hsimulation'
          cases hstep with
          | same _ _ hnot =>
              rw [hnot _ hmem] at hcreates
              cases hcreates
          | requested _ _ _ hinternal => cases hinternal _ hmem
          | created => cases List.mem_singleton.mp hmem
          | announced => cases List.mem_singleton.mp hmem
          | told p socket' queue child' =>
              cases List.mem_singleton.mp hmem
              cases hack
              exact ⟨queue, Function.update_self ..⟩
    cases hstep with
    | popped msg rest serve written _ _ =>
        rcases List.mem_cons.mp hmem with heq | hmem
        · cases heq
        · obtain ⟨o, -, heq⟩ := List.mem_map.mp hmem
          cases heq
    | served serveEvent serve written _ _ =>
        obtain ⟨o, -, heq⟩ := List.mem_map.mp hmem
        cases heq
    | ran e simulation sent _ _ hsimulation =>
        obtain ⟨o, ho, heq⟩ := List.mem_map.mp hmem
        cases heq
        exact hsimulated rfl hsimulation ho
    | received e p queue msg rest simulation sent _ _ _ _ _ hsimulation =>
        rcases List.mem_cons.mp hmem with heq | hmem
        · cases heq
        · obtain ⟨o, ho, heq⟩ := List.mem_map.mp hmem
          cases heq
          exact hsimulated rfl hsimulation ho
    | unknownHost => cases List.mem_singleton.mp hmem
    | spawned => cases List.mem_singleton.mp hmem
    | aborted => cases List.mem_singleton.mp hmem
    | finished => cases List.mem_singleton.mp hmem

theorem step_handled (h : ConnectedInv s creations events trace)
    (hstep : ServerStep platformFile s event t out) : ∀ msg ∈ t.toCommand, msg.handled = true := by
  have hsame : t.toCommand = s.toCommand → ∀ msg ∈ t.toCommand, msg.handled = true := by
    intro heq
    rw [heq]
    exact h.handled
  cases hstep with
  | popped msg rest serve written hqueue _ =>
      intro msg' hmem
      exact h.handled msg' (by rw [hqueue]; exact List.mem_cons_of_mem _ hmem)
  | served serveEvent serve written _ _ =>
      refine hsame ?_
      cases serveEvent with
      | command socket command => cases command <;> rfl
      | _ => rfl
  | unknownHost => exact hsame rfl
  | spawned => exact hsame rfl
  | ran e simulation sent _ _ hsimulation =>
      exact List.forall_mem_append.mpr ⟨h.handled, (simulationStep_cases hsimulation).2.handled⟩
  | received e p queue msg rest simulation sent _ _ _ _ _ hsimulation =>
      exact List.forall_mem_append.mpr ⟨h.handled, (simulationStep_cases hsimulation).2.handled⟩
  | aborted reason => exact List.forall_mem_append.mpr ⟨h.handled, List.forall_mem_singleton.mpr rfl⟩
  | finished => exact List.forall_mem_append.mpr ⟨h.handled, List.forall_mem_singleton.mpr rfl⟩

theorem step_received (h : ConnectedInv s creations events trace)
    (hinv : HandshakeInv s creations trace) (hstep : ServerStep platformFile s event t out)
    (hcreation : HandshakeStep s event creations t.simulation creations') {queue : Queue}
    {creation : Creation} {child : Pid} {point : ActorPoint} (hnew : creations' queue = some creation)
    (hchild : creation.phase.child = some child) (hpoint : t.simulation.point child = some point)
    (hconnected : point.unconnected = false) : connectedSockets child (trace ++ out) ≠ [] := by
  rw [connectedSockets_append]
  rcases hcreation.child hinv hnew hchild with ⟨old, hold, hchild'⟩ | ⟨hnone, e, sent, -, hsim⟩
  · obtain ⟨before, hbefore⟩ :=
      Option.ne_none_iff_exists'.mp (hinv.simulation.known queue old child hold hchild')
    by_cases hunconnected : before.unconnected = true
    · -- the actor has just received its socket
      have hstill : t.simulation ≠ s.simulation := by
        intro heq
        rw [heq, hbefore, Option.some.injEq] at hpoint
        rw [← hpoint, hunconnected] at hconnected
        cases hconnected
      cases hcreation with
      | still _ _ heq => exact absurd heq hstill
      | spawned _ _ _ hnot =>
          rw [(hinv.asleep hnot).1] at hold
          cases hold
      | registered _ _ _ _ heq => exact absurd heq hstill
      | simulated e sent _ hevent hsim _ =>
          rcases (simulationStep_cases hsim).2.unconnected hbefore hunconnected hpoint with
            hafter | ⟨hcurrent, socket, rfl⟩
          · rw [hafter] at hconnected
            cases hconnected
          · subst hevent
            cases hstep with
            | ran _ _ _ _ hpops => cases hpops
            | received _ p _ msg _ _ _ _ hpops hcurrent' =>
                cases hpops
                rw [hcurrent, Option.some.injEq] at hcurrent'
                subst hcurrent'
                simp [connectedSockets]
    · intro hnil
      exact h.received queue old child before hold hchild' hbefore (Bool.eq_false_iff.mpr hunconnected)
        (List.append_eq_nil_iff.mp hnil).1
  · rw [hsim.newborn hnone hpoint] at hconnected
    cases hconnected

theorem step (h : ConnectedInv s creations events trace) (hinv : HandshakeInv s creations trace)
    (hinv' : HandshakeInv t creations' (trace ++ out))
    (hcreation : HandshakeStep s event creations t.simulation creations')
    (hstep : ServerStep platformFile s event t out) :
    ConnectedInv t creations' (events ++ [event]) (trace ++ out) where
  killed := h.step_killed hstep
  told _ _ _ _ _ := h.step_told hinv hstep hcreation
  handled := h.step_handled hstep
  deliveries := h.deliveries.step hinv hinv' hcreation hstep
  received _ _ _ _ := h.step_received hinv hstep hcreation

end ConnectedInv

theorem connectedInv_run (hrun : Run (serverStep K platformFile) {} events s trace) :
    ∃ creations, HandshakeInv s creations trace ∧ ConnectedInv s creations events trace := by
  refine hrun.invariant (P := fun events s trace => ∃ creations, HandshakeInv s creations trace ∧
    ConnectedInv s creations events trace)
    ⟨fun _ => none, HandshakeInv.init, ConnectedInv.init⟩ ?_
  rintro events s trace event t out - ⟨creations, hinv, hconnected⟩ hstep
  obtain ⟨creations', hcreation, hinv'⟩ := hinv.step (serverStep_cases hstep)
  exact ⟨creations', hinv', hconnected.step hinv hinv' hcreation (serverStep_cases hstep)⟩

/-- The entry of an actor that the client of its creator has been told of. -/
theorem told_entry (hinv : HandshakeInv s creations trace) (h : ConnectedInv s creations events trace)
    {actor : Option Pid} {parent : Pid} {socket : Socket} {ack : DecisionAck} {child : Actor}
    (hmem : .simulation actor (.writeAck parent socket ack) ∈ trace)
    (hack : ack.data = .actorCreate child) :
    ∃ c connectAck, s.serve.actorConnections.find child.id = some c ∧ c.connectAck = some connectAck := by
  obtain ⟨queue, htold⟩ := h.told actor parent socket ack child hmem hack
  obtain ⟨-, c, hfind, hconnectAck⟩ := hinv.stored queue _ child.id htold rfl rfl
  exact ⟨c, queue + 1, hfind, hconnectAck⟩

/-- The state of `serve` once an actor has been created. -/
theorem started_state (hinv : HandshakeInv s creations trace) {id : Int} {c : ActorConnection}
    {connectAck : Queue} (hfind : s.serve.actorConnections.find id = some c)
    (hack : c.connectAck = some connectAck) : s.serve.serverState = .simulationRunning ∨
      s.serve.serverState = .killed ∨ s.serve.serverState = .simulationFinished := by
  obtain ⟨queue, creation, hcreation, -⟩ := hinv.entries id c connectAck hfind hack
  have hcalled : s.maestro ≠ .notCalled := by
    intro hnot
    rw [(hinv.asleep hnot).1] at hcreation
    cases hcreation
  have hthreads := hinv.called hcalled
  cases hstate : s.serve.serverState with
  | acceptingNewActors => exact absurd (hinv.connections.started (Or.inl hstate)) hthreads
  | waitingForAllActorsConnection => exact absurd (hinv.connections.started (Or.inr hstate)) hthreads
  | simulationRunning => exact Or.inl rfl
  | killed => exact Or.inr (Or.inl rfl)
  | simulationFinished => exact Or.inr (Or.inr rfl)

/-- The message that the command thread pops next is handled without an error. -/
theorem popped_ok (hinv : HandshakeInv s creations trace) (h : ConnectedInv s creations events trace)
    {msg : InterthreadMessage} {rest : List InterthreadMessage} (hqueue : s.toCommand = msg :: rest) :
    ∃ serve out, s.serve.handleInterthreadMessage msg = .ok (serve, out) := by
  have hmem : msg ∈ s.toCommand := by
    rw [hqueue]
    exact List.mem_cons_self ..
  have hhandled := h.handled msg hmem
  cases msg with
  | actorCreate child queue connectAck =>
      obtain ⟨-, p, hcreation⟩ := hinv.messages child queue connectAck hmem
      exact ⟨_, _, rsgEnforce_eq_ok.mpr ⟨hinv.free hcreation, rfl⟩⟩
  | simulationFinished => exact ⟨_, _, rfl⟩
  | simulationAborted reason => exact ⟨_, _, rfl⟩
  | actorQuit socket => exact ⟨_, _, rfl⟩
  | _ => cases hhandled

/-- What the command thread answers to the first CONNECT of a created actor. -/
theorem handleCommand_connect {serve : Serve} {actor : Actor} {c : ActorConnection} {connectAck : Queue}
    (socket : Socket) (hstate : serve.serverState = .simulationRunning)
    (hfind : serve.actorConnections.find actor.id = some c) (hsocket : c.socket = none)
    (hack : c.connectAck = some connectAck) :
    serve.handleCommand (.connect actor) socket = .ok (serve.connected actor.id socket,
      [.push connectAck (.actorConnected socket), .writeCommandAck socket { success := true }],
      false) := by
  simp [Serve.handleCommand, rsgEnforce, Serve.connected, hstate, hfind, hsocket, hack]

/-- The creation of actors, in every run of the server. When the client of the creator has been sent an
id, the connection is expected with a queue, and the first CONNECT with this id is accepted unless a
KILL command has been handled, after which it is answered without success; the command thread can
handle every message that it pops; actors pop what they expect; a created actor receives one socket,
that of the accepted CONNECT. -/
theorem creation_handshake (hrun : Run (serverStep K platformFile) {} events s trace) :
    (∀ actor parent socket ack child, .simulation actor (.writeAck parent socket ack) ∈ trace →
      ack.data = .actorCreate child →
      ∃ c connectAck, s.serve.actorConnections.find child.id = some c ∧
        c.connectAck = some connectAck ∧
        ∀ socket', ((∀ socket'', .serve (.command socket'' (.connect child)) ∉ events) →
          (∀ socket'' reason, .serve (.command socket'' (.kill reason)) ∉ events) →
          s.serve.serverState ≠ .simulationFinished →
          s.serve.handleCommand (.connect child) socket' =
            .ok (s.serve.connected child.id socket',
              [.push connectAck (.actorConnected socket'), .writeCommandAck socket' { success := true }],
              false)) ∧
          (s.serve.serverState = .killed → s.serve.handleCommand (.connect child) socket' =
            .ok (s.serve, [.writeCommandAck socket' { success := false }], true))) ∧
    (∀ msg rest, s.toCommand = msg :: rest →
      ∃ serve out, s.serve.handleInterthreadMessage msg = .ok (serve, out)) ∧
    (∀ p canConnectAck child, s.simulation.point p = some (.waitingCanConnectAck canConnectAck child) →
      ∀ msg ∈ s.queues canConnectAck, msg = .actorCreateAck) ∧
    (∀ p connectAck, s.simulation.point p = some (.waitingConnectAck connectAck) →
      ∀ msg ∈ s.queues connectAck, ∃ socket, msg = .actorConnected socket) ∧
    (∀ p c connectAck, s.serve.actorConnections.find p = some c → c.connectAck = some connectAck →
      Delivered events p c.socket (connectedSockets p trace) (s.queues connectAck) ∧
      (∀ queue, s.simulation.point p = some (.waitingConnectAck queue) → queue = connectAck) ∧
      ∀ point, s.simulation.point p = some point → point.unconnected = false →
        ∃ socket, connectedSockets p trace = [socket] ∧
          .serve (.command socket (.connect { id := p })) ∈ events) := by
  obtain ⟨creations, hinv, hconnected⟩ := connectedInv_run hrun
  have hown : ∀ p c connectAck queue, s.serve.actorConnections.find p = some c →
      c.connectAck = some connectAck → s.simulation.point p = some (.waitingConnectAck queue) →
      queue = connectAck := by
    intro p c connectAck queue hfind hack hpoint
    obtain ⟨first, creation, hcreation, hchild, rfl⟩ := hinv.simulation.placed p _ hpoint
    obtain ⟨second, creation', hcreation', -, hchild', rfl⟩ := hinv.entries p c connectAck hfind hack
    rw [hinv.simulation.single first second creation creation' p hcreation hcreation' hchild hchild']
  refine ⟨?_, fun msg rest => popped_ok hinv hconnected,
    fun p queue child hpoint msg hmem => hinv.canConnectAck_popped hpoint hmem, ?_, ?_⟩
  · intro actor parent socket ack child hmem hack
    obtain ⟨c, connectAck, hfind, hconnectAck⟩ := told_entry hinv hconnected hmem hack
    refine ⟨c, connectAck, hfind, hconnectAck, fun socket' =>
      ⟨fun hfirst hkill hfinished => ?_, fun hkilled => by simp [Serve.handleCommand, rsgEnforce, hkilled]⟩⟩
    have hstate : s.serve.serverState = .simulationRunning := by
      rcases started_state hinv hfind hconnectAck with hrunning | hkilled | hend
      · exact hrunning
      · obtain ⟨socket'', reason, hevent⟩ := hconnected.killed hkilled
        exact absurd hevent (hkill socket'' reason)
      · exact absurd hend hfinished
    have hsocket :=
      (hconnected.deliveries.delivered child.id c connectAck hfind hconnectAck).socket_eq_none hfirst
    exact handleCommand_connect socket' hstate hfind hsocket hconnectAck
  · intro p queue hpoint msg hmem
    obtain ⟨first, creation, hcreation, hchild, rfl⟩ := hinv.simulation.placed p _ hpoint
    by_cases hstored : creation.phase.stored = true
    · obtain ⟨-, c, hfind, hack⟩ := hinv.stored first creation p hcreation hstored hchild
      exact (hconnected.deliveries.delivered p c _ hfind hack).message hmem
    · rw [hinv.connect first creation hcreation (Bool.eq_false_iff.mpr hstored)] at hmem
      cases hmem
  · intro p c connectAck hfind hack
    have hdelivered := hconnected.deliveries.delivered p c connectAck hfind hack
    refine ⟨hdelivered, fun queue => hown p c connectAck queue hfind hack, ?_⟩
    intro point hpoint hunconnected
    obtain ⟨queue, creation, hcreation, -, hchild, -⟩ := hinv.entries p c connectAck hfind hack
    exact hdelivered.received_eq
      (hconnected.received queue creation p point hcreation hchild hpoint hunconnected)

end

/-- The client of the created actor connects, and the actor gets its socket. -/
def connectedActorEvents : List (ServerEvent permissiveS4u) :=
  createdActorEvents ++
    [.serve (.accept 16), .serve (.command 16 (.connect { id := 7 })),
      .simulation (.connectAck (.actorConnected 16))]

theorem creation_handshake_connected_actor : ∃ s trace,
    Run (serverStep permissiveS4u "platform.xml") {} connectedActorEvents s trace ∧
      s.simulation.point 7 = some .reading ∧
      ∃ socket, connectedSockets 7 trace = [socket] ∧
        .serve (.command socket (.connect { id := 7 })) ∈ connectedActorEvents := by
  have hexec : (exec (serverStep permissiveS4u "platform.xml") {} connectedActorEvents).any
      (fun reached => reached.1.simulation.point 7 = some .reading ∧
        (reached.1.serve.actorConnections.find 7).map (·.connectAck) = some (some 2)) = true := by
    decide +kernel
  obtain ⟨s, trace, hrun, hcheck⟩ := Run.of_check hexec
  obtain ⟨hpoint, hentry⟩ := of_decide_eq_true hcheck
  obtain ⟨c, hfind, hack⟩ := Option.map_eq_some_iff.mp hentry
  obtain ⟨-, -, -, -, hconnections⟩ := creation_handshake hrun
  exact ⟨s, trace, hrun, hpoint, (hconnections 7 c 2 hfind hack).2.2 _ hpoint rfl⟩

/-- A client connects once with an id that it has received. -/
def ConnectsInvited {K : S4u} (s : Server K) : ServerEvent K → Prop
  | .serve (.command _ (.connect actor)) => actor.id ∈ s.invited
  | _ => True

instance {K : S4u} (s : Server K) (event : ServerEvent K) : Decidable (ConnectsInvited s event) :=
  match event with
  | .serve (.command _ command) =>
      match command with
      | .connect actor => inferInstanceAs (Decidable (actor.id ∈ s.invited))
      | .addActor _ | .start _ | .kill _ | .status _ | .typeNotSet => .isTrue trivial
  | .serve (.accept _) | .serve (.interthread _) | .serve (.delete _) | .launch _ | .simulation _
  | .runEnds => .isTrue trivial

/-- A KILL command comes before the CONNECT of the created actor. -/
def killedCreationEvents : List (ServerEvent permissiveS4u) :=
  createdActorEvents ++
    [.serve (.accept 15), .serve (.command 15 (.kill "reason")), .serve (.accept 16),
      .serve (.command 16 (.connect { id := 7 }))]

theorem connect_refused_after_kill : ∃ s trace,
    Run (serverStep permissiveS4u "platform.xml") {} killedCreationEvents s trace ∧
      Throughout (serverStep permissiveS4u "platform.xml") ConnectsInvited {} killedCreationEvents ∧
      Acknowledged trace 3 7 ∧ .serve (.writeCommandAck 16 { success := false }) ∈ trace ∧
      s.simulation.point 7 = some (.waitingConnectAck 2) ∧ s.queues 2 = [] ∧
      connectedSockets 7 trace = [] := by
  have hexec : (exec (serverStep permissiveS4u "platform.xml") {} killedCreationEvents).any
      (fun reached =>
        .simulation (some 3) (.writeAck 3 12 { success := true, data := .actorCreate { id := 7 } }) ∈
            reached.2 ∧
          .serve (.writeCommandAck 16 { success := false }) ∈ reached.2 ∧
          reached.1.simulation.point 7 = some (.waitingConnectAck 2) ∧ reached.1.queues 2 = [] ∧
          connectedSockets 7 reached.2 = []) = true := by
    decide +kernel
  obtain ⟨s, trace, hrun, hcheck⟩ := Run.of_check hexec
  obtain ⟨hacknowledged, hrefused, hpoint, hqueue, hnone⟩ := of_decide_eq_true hcheck
  exact ⟨s, trace, hrun, Throughout.of_check (by decide +kernel), ⟨12, hacknowledged⟩, hrefused, hpoint,
    hqueue, hnone⟩

end RemoteSimgrid
