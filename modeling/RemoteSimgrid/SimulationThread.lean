import RemoteSimgrid.LibraryMachine
import RemoteSimgrid.ServeCommand
import RemoteSimgrid.SimulationDecision

/-! The SimGrid thread: the server-side actors, each a request-reply loop, of which one runs at a
time. The actor that runs keeps the thread, also while it busy-waits or reads, until it makes an S4U
call or ends. Every choice of SimGrid, every decision read and every message popped is a label. -/

namespace RemoteSimgrid

open Machine Pb

/-- Where a server-side actor is. -/
inductive ActorPoint where
  | spawned (connectAck : Option Queue)
  | calling (call : S4uCall) (frame : Frame)
  | returned (ret : S4uReturn) (frame : Frame)
  | waitingConnectAck (connectAck : Queue)
  | waitingCanConnectAck (canConnectAck : Queue) (child : Pid)
  | reading
  | ended
  | terminated
  deriving DecidableEq

/-- The `CommPtr`s that a suspended handler has on its stack. -/
def Frame.pointers : Frame → List Address
  | .commWaitAnyFor _ pointers => pointers
  | _ => []

/-- The object that S4U returns a handle to. -/
def S4uReturn.objects : S4uReturn → List Address
  | .address object => [object]
  | _ => []

/-- The S4U handles on the stack of an actor; each keeps its object alive. -/
def ActorPoint.handles : ActorPoint → List Address
  | .calling _ frame => frame.pointers
  | .returned ret frame => ret.objects ++ frame.pointers
  | _ => []

/-- A server-side actor, with its socket once it has one. -/
structure ServerActor where
  socket : Socket := 0
  point : ActorPoint
  deriving DecidableEq

/-- The state of the SimGrid thread. The actors that may still run in the current scheduling round
and those that become ready for the next one are kept for the results that speak of rounds. -/
structure Simulation (K : S4u) where
  kernel : K.State
  memory : Memory := {}
  actors : UnorderedMap Pid ServerActor := ∅
  current : Option Pid := none
  ready : List Pid := []
  due : List Pid := []
  crashed : Bool := false

/-- One step of the SimGrid thread: SimGrid runs an actor, serves a call, makes progress or begins a
round; the running actor reads a decision, fails to read one, or pops a message. -/
inductive SimEvent (K : S4u) where
  | schedule (actor : Pid)
  | serve (actor : Pid) (ret : S4uReturn)
  | progress (event : K.Event)
  | round
  | decision (decision : Decision)
  | readError (error : Error)
  | canConnectAck (msg : InterthreadMessage)
  | connectAck (msg : InterthreadMessage)

namespace Simulation

variable {K : S4u}

def point (s : Simulation K) (p : Pid) : Option ActorPoint := (s.actors.find p).map (·.point)

def setPoint (s : Simulation K) (p : Pid) (point : ActorPoint) : Simulation K :=
  { s with actors := s.actors.modify p fun actor => { actor with point := point } }

/-- The spawning of the initial actors by `maestro`. -/
def spawn (K : S4u) (connections : List ActorConnection) : Simulation K :=
  { kernel := K.init
    actors := connections.foldl
      (fun actors connection => actors.insert connection.actorId
        { socket := connection.socket.getD 0, point := .spawned none }) ∅
    ready := connections.map (·.actorId) }

/-- `snprintf` into the 256 bytes of `reason`. -/
def abortReason (p : Pid) (e : Error) : String :=
  let what := e.what
  String.ofList ((s!"Problem detected with remote actor_id={p}: {what}").toList.take 255)

end Simulation

namespace Outcome

/-- Where an actor is after a segment with this outcome. -/
def point : Outcome → ActorPoint
  | .call c frame => .calling c frame
  | .waitConnectAck connectAck => .waitingConnectAck connectAck
  | .waitCanConnectAck canConnectAck child => .waitingCanConnectAck canConnectAck child
  | .finished _ _ quitReceived => if quitReceived then .ended else .reading
  | .raised _ => .ended
  | .escaped => .terminated
  | .undefinedBehaviour => .terminated

/-- Whether the actor goes on running: it busy-waits, or it reads its next decision. -/
def keepsThread : Outcome → Bool
  | .waitConnectAck _ | .waitCanConnectAck _ _ => true
  | .finished _ _ quitReceived => !quitReceived
  | _ => false

/-- What `Actor::operator()` does after the handling of a decision. -/
def out (p : Pid) (socket : Socket) : Outcome → List SimOutput
  | .finished ack sendAck quitReceived =>
      (if sendAck then [.writeAck p socket ack] else []) ++
        if quitReceived then [.push toCommand (.actorQuit socket)] else []
  | .raised e => [.push toCommand (.simulationAborted (Simulation.abortReason p e))]
  | _ => []

end Outcome

namespace Simulation

variable {K : S4u}

/-- The running actor reaches the end of a segment. -/
def conclude (s : Simulation K) (p : Pid) (socket : Socket) (segment : Segment) :
    Simulation K × List SimOutput :=
  ({ s.setPoint p segment.outcome.point with
      memory := segment.memory
      current := if segment.outcome.keepsThread then some p else none
      kernel := match segment.outcome with
        | .call call _ => K.issue s.kernel p call
        | _ => s.kernel
      crashed := decide (segment.outcome = .undefinedBehaviour) },
    segment.out ++ segment.outcome.out p socket)

/-- SimGrid has executed the call of an actor, which becomes ready. -/
def answered (s : Simulation K) (p : Pid) (frame : Frame) (ret : S4uReturn) (kernel : K.State) :
    Simulation K :=
  { s.setPoint p (.returned ret frame) with kernel := kernel, due := s.due ++ [p] }

/-- A created actor becomes ready together with the actor that created it. -/
def serve (s : Simulation K) (p : Pid) (call : S4uCall) (frame : Frame) (ret : S4uReturn)
    (kernel : K.State) : Option (Simulation K) :=
  let s := s.answered p frame ret kernel
  match call, ret with
  | .actorCreate _ _ connectAck, .pid child =>
      if s.actors.find child = none then
        some { s with
          actors := s.actors.insert child { point := .spawned (some connectAck) }
          due := s.due ++ [child] }
      else none
  | _, _ => some s

end Simulation

/-- The step function. Nothing is defined after undefined behaviour. -/
def simulationStep (K : S4u) (s : Simulation K) (event : SimEvent K) :
    Option (Simulation K × List SimOutput) :=
  if s.crashed then none
  else
    match event, s.current with
    | .schedule p, none =>
        match s.actors.find p with
        | none => none
        | some actor =>
            let s := { s with ready := s.ready.erase p }
            match actor.point with
            | .spawned none => some ({ s.setPoint p .reading with current := some p }, [])
            | .spawned (some connectAck) =>
                some (s.conclude p actor.socket (.call s.memory .yield (.firstYield connectAck)))
            | .returned ret frame =>
                match resume K s.kernel p actor.socket frame ret s.memory with
                | some segment => some (s.conclude p actor.socket segment)
                | none => none
            | _ => none
    | .serve p ret, none =>
        match s.actors.find p with
        | none => none
        | some actor =>
            match actor.point with
            | .calling call frame =>
                match K.serve s.kernel p call ret with
                | none => none
                | some kernel =>
                    match s.serve p call frame ret kernel with
                    | some s' => some (s', [.served p call ret])
                    | none => none
            | _ => none
    | .progress event, none =>
        match K.progress s.kernel event with
        | some (kernel, writes) =>
            if ∀ write ∈ writes, (s.memory.buffers.find write.1).isSome then
              some ({ s with
                  kernel := kernel
                  memory := { s.memory with
                    buffers := writes.foldl
                      (fun buffers write => buffers.modify write.1 fun _ => some write.2)
                      s.memory.buffers } },
                writes.map fun write => .transferred write.1 write.2)
            else some ({ s with crashed := true }, [])
        | none => none
    | .round, none => some ({ s with ready := s.ready ++ s.due, due := [] }, [])
    | .decision d, some p =>
        match s.actors.find p with
        | some { socket, point := .reading } =>
            some (s.conclude p socket (handleDecision K s.kernel p d s.memory))
        | _ => none
    | .readError e, some p =>
        match s.actors.find p with
        | some { socket, point := .reading } =>
            some (s.conclude p socket { memory := s.memory, outcome := .raised e })
        | _ => none
    | .canConnectAck msg, some p =>
        match s.actors.find p with
        | some { socket, point := .waitingCanConnectAck _ child } =>
            some (s.conclude p socket (resumeCanConnectAck p socket child msg s.memory))
        | _ => none
    | .connectAck msg, some p =>
        match s.actors.find p with
        | some { socket := _, point := .waitingConnectAck _ } =>
            match msg with
            | .actorConnected socket =>
                some ({ s with
                  actors := s.actors.modify p fun _ => { socket := socket, point := .reading } }, [])
            -- the assertion on the type is outside of the `try` block
            | _ => some ({ s.setPoint p .terminated with current := none }, [])
        | _ => none
    | _, _ => none

/-- The acknowledgments that a step writes. -/
def acks (out : List SimOutput) : List (Pid × DecisionAck) :=
  out.filterMap fun
    | .writeAck p _ ack => some (p, ack)
    | _ => none

/-- A SimGrid that serves every call with the result its label announces, and writes what its label
announces. The runs of this one include those of any other with the same queries. -/
def permissiveS4u : S4u where
  State := Unit
  Event := List (Ptr × Ptr)
  init := ()
  issue _ _ _ := ()
  serve _ _ _ _ := some ()
  progress _ writes := some ((), writes)
  hostByName _ _ := true
  actorByPid _ _ := none
  currentHost _ _ := ""
  getClock _ := 0
  mailboxEmpty _ _ := true
  mailboxListen _ _ := false
  mailboxReady _ _ := false

end RemoteSimgrid
