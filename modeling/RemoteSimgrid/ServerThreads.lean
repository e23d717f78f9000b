import RemoteSimgrid.ServeRuns
import RemoteSimgrid.SimulationExchange
import RemoteSimgrid.SimulationTurns

/-! The server as a whole: the command thread, the SimGrid thread from `start_simulation` to the end of
`maestro`, and the queues between them. A step is one of the command thread, one of the SimGrid thread
or one of `maestro`, in any order. -/

namespace RemoteSimgrid

open Machine Pb

/-- Where `maestro` is: not called yet, in the empty run that precedes an abort, in `Engine::run`, or
returned. -/
inductive MaestroPoint where
  | notCalled
  | aborting (abortReason : String)
  | running
  | returned
  deriving DecidableEq

/-- The state of the server. `invited` are the actor ids that clients have received, in acknowledgments
of ADD_ACTOR commands or of actor creations, and have not connected with. -/
structure Server (K : S4u) where
  serve : Serve := {}
  toCommand : List InterthreadMessage := []
  queues : Queue → List InterthreadMessage := fun _ => []
  maestro : MaestroPoint := .notCalled
  simulation : Simulation K := { kernel := K.init }
  invited : Finset Int := ∅

inductive ServerEvent (K : S4u) where
  | serve (event : ServeEvent)
  | launch (connections : List ActorConnection)
  | simulation (event : SimEvent K)
  | runEnds

/-- What the threads do that others can see: the writes of the command thread, its pops from
`to_command`, what an actor does and pops, and what `maestro` does. -/
inductive ServerOutput where
  | serve (out : ServeOutput)
  | popped (msg : InterthreadMessage)
  | simulation (actor : Option Pid) (out : SimOutput)
  | received (actor : Pid) (msg : InterthreadMessage)
  | unknownHost (connection : ActorConnection)
  | spawned (connections : List ActorConnection)
  | maestro (msg : InterthreadMessage)
  deriving DecidableEq

/-- `push` on a queue. -/
def pushOn (queues : Queue → List InterthreadMessage) (queue : Queue) (msg : InterthreadMessage) :
    Queue → List InterthreadMessage :=
  Function.update queues queue (queues queue ++ [msg])

/-- The message that the running actor pops in a step. -/
def SimEvent.pops {K : S4u} : SimEvent K → Option InterthreadMessage
  | .canConnectAck msg | .connectAck msg => some msg
  | _ => none

/-- The queue that the running actor busy-waits on. -/
def Simulation.awaited {K : S4u} (s : Simulation K) : Option Queue :=
  match s.current with
  | none => none
  | some p =>
      match s.point p with
      | some (.waitingConnectAck connectAck) => some connectAck
      | some (.waitingCanConnectAck canConnectAck _) => some canConnectAck
      | _ => none

namespace Server

variable {K : S4u} (s : Server K)

/-- What the command thread writes. -/
def afterServe (serve : Serve) (out : List ServeOutput) : Server K :=
  { s with
    serve := serve
    queues := out.foldl (fun queues out => match out with
      | .push queue msg => pushOn queues queue msg
      | .writeCommandAck _ _ => queues) s.queues
    invited := s.invited ∪ (out.filterMap fun out => match out with
      | .writeCommandAck _ ack => ack.actor.map (·.id)
      | .push _ _ => none).toFinset }

/-- What the SimGrid thread writes; `toCommand` is the queue that the command thread reads. -/
def afterSimulation (simulation : Simulation K) (out : List SimOutput) : Server K :=
  { s with
    simulation := simulation
    toCommand := s.toCommand ++ out.filterMap SimOutput.sent
    invited := s.invited ∪ (out.filterMap fun out => match out with
      | .writeAck _ _ ack => match ack.data with
        | .actorCreate actor => some actor.id
        | _ => none
      | _ => none).toFinset }

/-- A CONNECT uses the id that its client has received. -/
def uninvite : ServeEvent → Server K
  | .command _ (.connect actor) => { s with invited := s.invited.erase actor.id }
  | _ => s

/-- `snprintf` into the 256 bytes of `error_message`. -/
def errorMessage (platformFile : String) (connection : ActorConnection) : String :=
  let actorId := connection.actorId
  let hostName := connection.hostName
  String.ofList ((s!"Invalid initial state: actor_id={actorId} requested host='{hostName}', " ++
    s!"but this host does not exist in the provided platform file '{platformFile}'").toList.take 255)

/-- `maestro` up to its run of the engine, on the vector that `start_simulation` makes of the map. -/
def maestroRuns (platformFile : String) (vector : List ActorConnection) :
    Server K × List ServerOutput :=
  match vector.find? fun connection => !K.hostByName K.init connection.hostName with
  | some connection =>
      ({ s with maestro := .aborting (errorMessage platformFile connection) },
        [.unknownHost connection])
  | none => ({ s with maestro := .running, simulation := .spawn K vector }, [.spawned vector])

end Server

/-- Every actor function has returned. -/
def Simulation.Ended {K : S4u} (s : Simulation K) : Prop :=
  s.current = none ∧ s.crashed = false ∧ ∀ actor ∈ s.actors.values, actor.point = .ended

instance {K : S4u} (s : Simulation K) : Decidable s.Ended := by
  unfold Simulation.Ended
  infer_instance

/-- The step function. `Engine::run` returns only after all actor functions have. -/
def serverStep (K : S4u) (platformFile : String) (s : Server K) :
    ServerEvent K → Option (Server K × List ServerOutput)
  | .serve (.interthread msg) =>
      match s.toCommand with
      | [] => none
      | first :: rest =>
          if first = msg then
            match serveStep s.serve (.interthread msg) with
            | none => none
            | some (serve, out) =>
                some (({ s with toCommand := rest } : Server K).afterServe serve out,
                  .popped msg :: out.map .serve)
          else none
  | .serve event =>
      match serveStep s.serve event with
      | none => none
      | some (serve, out) => some ((s.uninvite event).afterServe serve out, out.map .serve)
  | .launch connections =>
      match s.maestro, s.serve.simulationThreads with
      | .notCalled, [map] =>
          if connections.Perm map.values then
            match connectionsUnorderedmapToVector connections with
            | .error _ => none
            | .ok vector => some (s.maestroRuns platformFile vector)
          else none
      | _, _ => none
  | .simulation event =>
      match s.maestro with
      | .running =>
          match event.pops with
          | none =>
              match simulationStep K s.simulation event with
              | none => none
              | some (simulation, out) =>
                  some (s.afterSimulation simulation out,
                    out.map (.simulation (event.runs s.simulation)))
          | some msg =>
              match s.simulation.current, s.simulation.awaited with
              | some p, some queue =>
                  match s.queues queue with
                  | [] => none
                  | first :: rest =>
                      if first = msg then
                        match simulationStep K s.simulation event with
                        | none => none
                        | some (simulation, out) =>
                            some (({ s with queues := Function.update s.queues queue rest } :
                              Server K).afterSimulation simulation out,
                              .received p msg :: out.map (.simulation (some p)))
                      else none
              | _, _ => none
      | _ => none
  | .runEnds =>
      match s.maestro with
      | .aborting reason =>
          some ({ s with
            maestro := .returned
            toCommand := s.toCommand ++ [.simulationAborted reason] },
            [.maestro (.simulationAborted reason)])
      | .running =>
          if s.simulation.Ended then
            some ({ s with
              maestro := .returned
              toCommand := s.toCommand ++ [.simulationFinished] }, [.maestro .simulationFinished])
          else none
      | _ => none

section

variable {K : S4u} {platformFile : String}

/-- The steps of the server. -/
inductive ServerStep (platformFile : String) (s : Server K) :
    ServerEvent K → Server K → List ServerOutput → Prop
  | popped (msg : InterthreadMessage) (rest : List InterthreadMessage) (serve : Serve)
      (out : List ServeOutput) : s.toCommand = msg :: rest →
      serveStep s.serve (.interthread msg) = some (serve, out) →
      ServerStep platformFile s (.serve (.interthread msg))
        (({ s with toCommand := rest } : Server K).afterServe serve out)
        (.popped msg :: out.map .serve)
  | served (event : ServeEvent) (serve : Serve) (out : List ServeOutput) :
      (∀ msg, event ≠ .interthread msg) → serveStep s.serve event = some (serve, out) →
      ServerStep platformFile s (.serve event) ((s.uninvite event).afterServe serve out)
        (out.map .serve)
  | unknownHost (connections : List ActorConnection) (map : UnorderedMap Int ActorConnection)
      (vector : List ActorConnection) (connection : ActorConnection) : s.maestro = .notCalled →
      s.serve.simulationThreads = [map] → connections.Perm map.values →
      connectionsUnorderedmapToVector connections = .ok vector → connection ∈ vector →
      K.hostByName K.init connection.hostName = false →
      ServerStep platformFile s (.launch connections)
        { s with maestro := .aborting (Server.errorMessage platformFile connection) }
        [.unknownHost connection]
  | spawned (connections : List ActorConnection) (map : UnorderedMap Int ActorConnection)
      (vector : List ActorConnection) : s.maestro = .notCalled →
      s.serve.simulationThreads = [map] → connections.Perm map.values →
      connectionsUnorderedmapToVector connections = .ok vector →
      (∀ connection ∈ vector, K.hostByName K.init connection.hostName = true) →
      ServerStep platformFile s (.launch connections)
        { s with maestro := .running, simulation := .spawn K vector } [.spawned vector]
  | ran (event : SimEvent K) (simulation : Simulation K) (out : List SimOutput) :
      s.maestro = .running → event.pops = none →
      simulationStep K s.simulation event = some (simulation, out) →
      ServerStep platformFile s (.simulation event) (s.afterSimulation simulation out)
        (out.map (.simulation (event.runs s.simulation)))
  | received (event : SimEvent K) (p : Pid) (queue : Queue) (msg : InterthreadMessage)
      (rest : List InterthreadMessage) (simulation : Simulation K) (out : List SimOutput) :
      s.maestro = .running → event.pops = some msg → s.simulation.current = some p →
      s.simulation.awaited = some queue → s.queues queue = msg :: rest →
      simulationStep K s.simulation event = some (simulation, out) →
      ServerStep platformFile s (.simulation event)
        (({ s with queues := Function.update s.queues queue rest } : Server K).afterSimulation
          simulation out)
        (.received p msg :: out.map (.simulation (some p)))
  | aborted (reason : String) : s.maestro = .aborting reason →
      ServerStep platformFile s .runEnds
        { s with
          maestro := .returned
          toCommand := s.toCommand ++ [.simulationAborted reason] }
        [.maestro (.simulationAborted reason)]
  | finished : s.maestro = .running → s.simulation.Ended →
      ServerStep platformFile s .runEnds
        { s with
          maestro := .returned
          toCommand := s.toCommand ++ [.simulationFinished] } [.maestro .simulationFinished]

theorem serverStep_cases {s t : Server K} {event : ServerEvent K} {out : List ServerOutput}
    (h : serverStep K platformFile s event = some (t, out)) : ServerStep platformFile s event t out := by
  cases event with
  | serve event =>
      cases event with
      | interthread msg =>
          simp only [serverStep] at h
          split at h
          · cases h
          · rename_i first rest hqueue
            split at h
            · rename_i heq
              subst heq
              split at h
              · cases h
              · rename_i serve out hserve
                cases h
                exact .popped first rest serve out hqueue hserve
            · cases h
      | _ =>
          simp only [serverStep] at h
          split at h
          · cases h
          · rename_i serve out hserve
            cases h
            exact .served _ serve out (fun _ hmsg => by cases hmsg) hserve
  | launch connections =>
      simp only [serverStep] at h
      split at h
      · rename_i map hmaestro hthreads
        split at h
        · rename_i hperm
          split at h
          · cases h
          · rename_i vector hvector
            rw [Option.some.injEq, Server.maestroRuns] at h
            split at h
            · rename_i connection hfind
              cases h
              have hunknown := List.find?_some hfind
              rw [Bool.not_eq_true'] at hunknown
              exact .unknownHost connections map vector connection hmaestro hthreads hperm hvector
                (List.mem_of_find?_eq_some hfind) hunknown
            · rename_i hfind
              cases h
              refine .spawned connections map vector hmaestro hthreads hperm hvector ?_
              intro connection hmem
              simpa using List.find?_eq_none.mp hfind connection hmem
        · cases h
      · cases h
  | simulation event =>
      simp only [serverStep] at h
      split at h
      · rename_i hmaestro
        split at h
        · rename_i hpops
          split at h
          · cases h
          · rename_i simulation out hsimulation
            cases h
            exact .ran event simulation out hmaestro hpops hsimulation
        · rename_i msg hpops
          split at h
          · rename_i p queue hcurrent hawaited
            split at h
            · cases h
            · rename_i first rest hqueue
              split at h
              · rename_i heq
                subst heq
                split at h
                · cases h
                · rename_i simulation out hsimulation
                  cases h
                  exact .received event p queue first rest simulation out hmaestro hpops hcurrent
                    hawaited hqueue hsimulation
              · cases h
          · cases h
      · cases h
  | runEnds =>
      simp only [serverStep] at h
      split at h
      · rename_i reason hmaestro
        cases h
        exact .aborted reason hmaestro
      · rename_i hmaestro
        split at h
        · rename_i hended
          cases h
          exact .finished hmaestro hended
        · cases h
      · cases h

end

end RemoteSimgrid
