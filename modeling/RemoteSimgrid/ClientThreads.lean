import RemoteSimgrid.ServerReads

/-! The threads of the client processes beside the server. The first thread of a process connects by
itself; `Actor::create` starts a thread of the same process, which runs `actor_wrapper`, and waits on a
semaphore; `Actor::fork` starts a process. A connection is the one of an accepted `CONNECT`: the actor
that was connected reads on it what the thread sends, and writes on it what the thread receives. -/

namespace RemoteSimgrid

open Machine Pb

/-- A call that makes a thread send a decision. `firstYield` is the one of `actor_wrapper`, `function` any
call that returns to the code of the actor. -/
inductive ThreadCall where
  | function (type : DecisionType)
  | create (actor : CreateActor)
  | fork (actor : CreateActor)
  | firstYield
  | disconnect
  deriving DecidableEq

def ThreadCall.decision (connection : Connection) (elapsed : ℚ) : ThreadCall → Decision
  | .function type => connection.sendDecision elapsed { type := type }
  | .create actor | .fork actor => connection.sendDecision elapsed { type := .actorCreate actor }
  | .firstYield => connection.sendDecision elapsed { type := .thisActorYield true }
  | .disconnect => Connection.quit

/-- Where a thread is: not connecting yet, in `rsg::connect` before and after the acknowledgment is
written, connected, past `sem_post`, with a decision sent, with a decision that the server has read, in
`sem_wait`, in the code of the actor, or at its end. -/
inductive ThreadPoint where
  | starting
  | connecting
  | accepted (socket : Socket) (ack : CommandAck)
  | connected
  | posted
  | sent (call : ThreadCall) (decision : Decision)
  | asking (call : ThreadCall)
  | waiting (child : Nat) (posted : Bool)
  | running
  | ended
  deriving DecidableEq

/-- A thread, with the acknowledgments that it has not read. `parent` is the thread that waits for it. -/
structure ClientThread where
  process : Nat
  environment : Environment
  opening : Opening
  parent : Option Nat := none
  actorId : Int := 0
  point : ThreadPoint := .starting
  connection : Option Connection := none
  received : List DecisionAck := []

/-- `clients` are the threads whose `CONNECT` was accepted, by the id of their actor. -/
structure ThreadSystem (K : S4u) where
  server : Server K := {}
  threads : List ClientThread := []
  clients : Pid → Option Nat := fun _ => none

/-- A process starts; a thread goes on, calls a function or has a callback that raises; the command
thread handles the `CONNECT` of a thread; the running actor reads the decision of its thread; the server
makes any other step. -/
inductive ThreadEvent (K : S4u) where
  | launch (environment : Environment) (opening : Opening)
  | proceed (thread : Nat)
  | raise (thread : Nat)
  | call (thread : Nat) (call : ThreadCall) (elapsed : ℚ)
  | connect (thread : Nat) (socket : Socket)
  | read
  | server (event : ServerEvent K)

inductive ThreadOutput where
  | server (out : ServerOutput)
  | created (parent child : Nat)
  | sent (thread : Nat) (decision : Decision)
  | acked (thread : Nat) (ack : DecisionAck)
  | starts (thread : Nat)
  deriving DecidableEq

/-- The step is one of the server alone: no client has a part in it. -/
def ServerEvent.alone {K : S4u} : ServerEvent K → Bool
  | .serve (.command _ (.connect _)) | .simulation (.decision _) => false
  | _ => true

/-- The calls that a thread can make where it is. The callbacks of `actor_wrapper` make none. -/
def ClientThread.mayCall (thread : ClientThread) (call : ThreadCall) : Bool :=
  match thread.point with
  | .running => call ≠ .firstYield
  | .connected => thread.parent.isNone && call ≠ .firstYield
  | .posted => call = .firstYield
  | _ => false

namespace ThreadSystem

variable {K : S4u} (s : ThreadSystem K)

def put (i : Nat) (thread : ClientThread) : ThreadSystem K :=
  { s with threads := s.threads.set i thread }

def add (thread : ClientThread) : ThreadSystem K := { s with threads := s.threads ++ [thread] }

/-- `sem_post` on the semaphore of the thread that waits for thread `i`. -/
def post (i : Nat) (parent : Option Nat) : ThreadSystem K :=
  match parent with
  | none => s
  | some p =>
      match s.threads[p]? with
      | none => s
      | some waiter =>
          if waiter.point = .waiting i false then s.put p { waiter with point := .waiting i true } else s

/-- The thread raises an `rsg::Error` before its first yield. -/
def abandon (i : Nat) (thread : ClientThread) : ThreadSystem K :=
  (s.put i { thread with point := .ended }).post i thread.parent

/-- What follows the reading of an acknowledgment. The destructor of a connection reads none. -/
def returns (i : Nat) (thread : ClientThread) (ack : DecisionAck) :
    ThreadCall → ThreadSystem K × List ThreadOutput
  | .function _ => (s.put i { thread with point := .running }, [])
  | .firstYield => (s.put i { thread with point := .running }, [.starts i])
  | .disconnect => (s.put i { thread with point := .ended }, [])
  | .create _ =>
      if ack.success then
        ((s.put i { thread with point := .waiting s.threads.length false }).add
          { process := thread.process, environment := thread.environment
            opening := .actorWrapper ack.actorCreate.id, parent := some i },
          [.created i s.threads.length])
      else (s.put i { thread with point := .running }, [])
  | .fork _ =>
      if ack.success then
        ((s.put i { thread with point := .running }).add
          { process := s.threads.length, environment := thread.environment
            opening := .fork ack.actorCreate.id }, [])
      else (s.put i { thread with point := .running }, [])

/-- The next step of a thread that waits for no one. -/
def proceed (i : Nat) (thread : ClientThread) : Option (ThreadSystem K × List ThreadOutput) :=
  match thread.point with
  | .starting =>
      match thread.opening.start thread.environment none with
      | none => none
      | some (.sends actorId) =>
          some (s.put i { thread with point := .connecting, actorId := actorId }, [])
      | some (.throws _ _) => some (s.abandon i thread, [])
  | .accepted socket ack =>
      match (Connection.ofServer thread.environment thread.actorId socket ack).2 with
      | .ok connection =>
          some (s.put i { thread with point := .connected, connection := some connection }, [])
      | .error _ => some (s.abandon i thread, [])
  | .connected =>
      if thread.parent.isSome then
        some ((s.put i { thread with point := .posted }).post i thread.parent, [])
      else none
  | .asking call =>
      match thread.received with
      | [] => none
      | ack :: rest => some (s.returns i { thread with received := rest } ack call)
  | .waiting _ true => some (s.put i { thread with point := .running }, [])
  | _ => none

/-- The acknowledgments get to the threads that are connected to their actors. -/
def deliver (s : ThreadSystem K) : List (Pid × DecisionAck) → ThreadSystem K × List ThreadOutput
  | [] => (s, [])
  | (p, ack) :: rest =>
      match s.clients p with
      | none => s.deliver rest
      | some i =>
          match s.threads[i]? with
          | none => s.deliver rest
          | some thread =>
              let delivered := s.put i { thread with received := thread.received ++ [ack] }
              ((delivered.deliver rest).1, .acked i ack :: (delivered.deliver rest).2)

/-- The server makes a step. -/
def serverMoves (server : Server K) (out : List ServerOutput) : ThreadSystem K × List ThreadOutput :=
  let delivered := ({ s with server := server } : ThreadSystem K).deliver (decisionAcks out)
  (delivered.1, out.map .server ++ delivered.2)

/-- The thread that is connected to the running actor. -/
def runningThread : Option (Nat × ClientThread) :=
  match s.server.simulation.current with
  | none => none
  | some p =>
      match s.clients p with
      | none => none
      | some i => s.threads[i]?.map fun thread => (i, thread)

end ThreadSystem

/-- The step function. -/
def threadStep (K : S4u) (platformFile : String) (s : ThreadSystem K) :
    ThreadEvent K → Option (ThreadSystem K × List ThreadOutput)
  | .launch environment opening =>
      some (s.add { process := s.threads.length, environment := environment, opening := opening }, [])
  | .proceed i =>
      match s.threads[i]? with
      | none => none
      | some thread => s.proceed i thread
  | .raise i =>
      match s.threads[i]? with
      | none => none
      | some thread =>
          if thread.parent.isSome ∧ (thread.point = .starting ∨ thread.point = .connected) then
            some (s.abandon i thread, [])
          else none
  | .call i call elapsed =>
      match s.threads[i]? with
      | none => none
      | some thread =>
          match thread.connection with
          | none => none
          | some connection =>
              if thread.mayCall call then
                let decision := call.decision connection elapsed
                some (s.put i { thread with point := .sent call decision }, [.sent i decision])
              else none
  | .connect i socket =>
      match s.threads[i]? with
      | none => none
      | some thread =>
          if thread.point = .connecting then
            match serverStep K platformFile s.server
              (.serve (.command socket (.connect { id := thread.actorId }))) with
            | none => none
            | some (server, out) =>
                match commandAnswer out with
                | none => none
                | some (socket, ack) =>
                    some ({ server := server
                            threads := s.threads.set i { thread with point := .accepted socket ack }
                            clients := if ack.success then
                              Function.update s.clients thread.actorId (some i) else s.clients },
                      out.map .server)
          else none
  | .read =>
      match s.runningThread with
      | none => none
      | some (i, thread) =>
          match thread.point with
          | .sent call decision =>
              match serverStep K platformFile s.server (.simulation (.decision decision)) with
              | none => none
              | some (server, out) =>
                  some ((s.put i { thread with point := .asking call }).serverMoves server out)
          | _ => none
  | .server event =>
      if event.alone then
        match serverStep K platformFile s.server event with
        | none => none
        | some (server, out) => some (s.serverMoves server out)
      else none

/-- The steps of the system. -/
inductive ThreadStep {K : S4u} (platformFile : String) (s : ThreadSystem K) :
    ThreadEvent K → ThreadSystem K → List ThreadOutput → Prop
  | launched (environment : Environment) (opening : Opening) :
      ThreadStep platformFile s (.launch environment opening)
        (s.add { process := s.threads.length, environment := environment, opening := opening }) []
  | connecting (i : Nat) (thread : ClientThread) (actorId : Int) : s.threads[i]? = some thread →
      thread.point = .starting →
      ThreadStep platformFile s (.proceed i)
        (s.put i { thread with point := .connecting, actorId := actorId }) []
  | abandoned (event : ThreadEvent K) (i : Nat) (thread : ClientThread) : s.threads[i]? = some thread →
      (thread.point = .starting ∨ thread.point = .connected ∨
        ∃ socket ack, thread.point = .accepted socket ack) →
      ThreadStep platformFile s event (s.abandon i thread) []
  | connected (i : Nat) (thread : ClientThread) (socket : Socket) (ack : CommandAck)
      (connection : Connection) : s.threads[i]? = some thread → thread.point = .accepted socket ack →
      ThreadStep platformFile s (.proceed i)
        (s.put i { thread with point := .connected, connection := some connection }) []
  | posted (i : Nat) (thread : ClientThread) : s.threads[i]? = some thread →
      thread.point = .connected → thread.parent.isSome = true →
      ThreadStep platformFile s (.proceed i)
        ((s.put i { thread with point := .posted }).post i thread.parent) []
  | returned (i : Nat) (thread : ClientThread) (call : ThreadCall) (ack : DecisionAck)
      (rest : List DecisionAck) : s.threads[i]? = some thread → thread.point = .asking call →
      thread.received = ack :: rest →
      ThreadStep platformFile s (.proceed i) (s.returns i { thread with received := rest } ack call).1
        (s.returns i { thread with received := rest } ack call).2
  | resumed (i : Nat) (thread : ClientThread) (child : Nat) : s.threads[i]? = some thread →
      thread.point = .waiting child true →
      ThreadStep platformFile s (.proceed i) (s.put i { thread with point := .running }) []
  | sent (i : Nat) (thread : ClientThread) (call : ThreadCall) (connection : Connection)
      (elapsed : ℚ) : s.threads[i]? = some thread → thread.mayCall call = true →
      ThreadStep platformFile s (.call i call elapsed)
        (s.put i { thread with point := .sent call (call.decision connection elapsed) })
        [.sent i (call.decision connection elapsed)]
  | accepted (i : Nat) (thread : ClientThread) (socket socket' : Socket) (server : Server K)
      (out : List ServerOutput) (ack : CommandAck) : s.threads[i]? = some thread →
      thread.point = .connecting →
      serverStep K platformFile s.server
        (.serve (.command socket (.connect { id := thread.actorId }))) = some (server, out) →
      commandAnswer out = some (socket', ack) →
      ThreadStep platformFile s (.connect i socket)
        { server := server
          threads := s.threads.set i { thread with point := .accepted socket' ack }
          clients := if ack.success then
            Function.update s.clients thread.actorId (some i) else s.clients }
        (out.map .server)
  | read (p : Pid) (i : Nat) (thread : ClientThread) (call : ThreadCall) (decision : Decision)
      (server : Server K) (out : List ServerOutput) : s.server.simulation.current = some p →
      s.clients p = some i → s.threads[i]? = some thread → thread.point = .sent call decision →
      serverStep K platformFile s.server (.simulation (.decision decision)) = some (server, out) →
      ThreadStep platformFile s .read
        ((s.put i { thread with point := .asking call }).serverMoves server out).1
        ((s.put i { thread with point := .asking call }).serverMoves server out).2
  | server (event : ServerEvent K) (server : Server K) (out : List ServerOutput) :
      event.alone = true → serverStep K platformFile s.server event = some (server, out) →
      ThreadStep platformFile s (.server event) (s.serverMoves server out).1 (s.serverMoves server out).2

section

variable {K : S4u} {platformFile : String} {s t : ThreadSystem K} {out : List ThreadOutput}

theorem proceed_cases {i : Nat} {thread : ClientThread} (hi : s.threads[i]? = some thread)
    (h : s.proceed i thread = some (t, out)) : ThreadStep platformFile s (.proceed i) t out := by
  unfold ThreadSystem.proceed at h
  split at h
  · rename_i hpoint
    split at h
    · cases h
    · cases h
      exact .connecting i thread _ hi hpoint
    · cases h
      exact .abandoned _ i thread hi (Or.inl hpoint)
  · rename_i socket ack hpoint
    split at h
    · cases h
      exact .connected i thread socket ack _ hi hpoint
    · cases h
      exact .abandoned _ i thread hi (Or.inr (Or.inr ⟨socket, ack, hpoint⟩))
  · rename_i hpoint
    split at h
    · rename_i hparent
      cases h
      exact .posted i thread hi hpoint hparent
    · cases h
  · rename_i call hpoint
    split at h
    · cases h
    · rename_i ack rest hreceived
      rw [Option.some.injEq] at h
      rw [show t = (s.returns i { thread with received := rest } ack call).1 from (congrArg Prod.fst h).symm,
        show out = (s.returns i { thread with received := rest } ack call).2 from
          (congrArg Prod.snd h).symm]
      exact .returned i thread call ack rest hi hpoint hreceived
  · rename_i child hpoint
    cases h
    exact .resumed i thread child hi hpoint
  · cases h

theorem runningThread_eq_some {i : Nat} {thread : ClientThread}
    (h : s.runningThread = some (i, thread)) : ∃ p, s.server.simulation.current = some p ∧
      s.clients p = some i ∧ s.threads[i]? = some thread := by
  unfold ThreadSystem.runningThread at h
  split at h
  · cases h
  · rename_i p hcurrent
    split at h
    · cases h
    · rename_i j hp
      obtain ⟨x, hx, heq⟩ := Option.map_eq_some_iff.mp h
      cases heq
      exact ⟨p, hcurrent, hp, hx⟩

theorem threadStep_cases {event : ThreadEvent K} (h : threadStep K platformFile s event = some (t, out)) :
    ThreadStep platformFile s event t out := by
  cases event with
  | launch environment opening =>
      cases h
      exact .launched environment opening
  | proceed i =>
      simp only [threadStep] at h
      split at h
      · cases h
      · rename_i thread hi
        exact proceed_cases hi h
  | raise i =>
      simp only [threadStep] at h
      split at h
      · cases h
      · rename_i thread hi
        split at h
        · rename_i hraises
          cases h
          exact .abandoned _ i thread hi (hraises.2.imp_right Or.inl)
        · cases h
  | call i call elapsed =>
      simp only [threadStep] at h
      split at h
      · cases h
      · rename_i thread hi
        split at h
        · cases h
        · rename_i connection _
          split at h
          · rename_i hmay
            cases h
            exact .sent i thread call connection elapsed hi hmay
          · cases h
  | connect i socket =>
      simp only [threadStep] at h
      split at h
      · cases h
      · rename_i thread hi
        split at h
        · rename_i hpoint
          split at h
          · cases h
          · rename_i server sent hserver
            split at h
            · cases h
            · rename_i socket' ack hanswer
              cases h
              exact .accepted i thread socket socket' server sent ack hi hpoint hserver hanswer
        · cases h
  | read =>
      simp only [threadStep] at h
      split at h
      · cases h
      · rename_i i thread hrunning
        obtain ⟨p, hcurrent, hp, hi⟩ := runningThread_eq_some hrunning
        split at h
        · rename_i call decision hpoint
          split at h
          · cases h
          · rename_i server sent hserver
            cases h
            exact .read p i thread call decision server sent hcurrent hp hi hpoint hserver
        · cases h
  | server event =>
      simp only [threadStep] at h
      split at h
      · rename_i halone
        split at h
        · cases h
        · rename_i server sent hserver
          cases h
          exact .server event server sent halone hserver
      · cases h

end

end RemoteSimgrid
