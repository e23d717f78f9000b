import Mathlib.Algebra.Field.Rat
import Mathlib.Algebra.BigOperators.Group.List.Basic
import Mathlib.Logic.Function.Basic
import RemoteSimgrid.ClientConnection
import RemoteSimgrid.SimulationTurns

/-! The think time of the clients. The threads of the clients open connections, reuse the sockets of
connections that a process mutation has lost, send decisions and quit, while the server reads these
decisions and sleeps before it handles them. -/

namespace RemoteSimgrid

open Machine Pb

/-- The decision that a step has just begun to handle, after its thinking time. -/
def SimOutput.dispatch : SimOutput → Option (Pid × Decision)
  | .dispatched p d => some (p, d)
  | _ => none

inductive Origin where
  | sendDecision
  | destructor
  deriving DecidableEq

/-- A decision that was sent, with the function that sent it. -/
structure Sent where
  decision : Decision
  origin : Origin

/-- A decision that the server handles, and the time it has slept before. -/
structure HandledAfter where
  actor : Pid
  sent : Sent
  slept : ℚ

/-- The client threads, the decisions that were sent on each socket and are not read, the server, and
for each of its actors the decision that it has read last with the time it has slept since. A client
thread has no connection, or one with the constructor that made it. -/
structure Thinking (K : S4u) where
  connections : Nat → Option (Connection × Bool) := fun _ => none
  wires : Socket → List Sent := fun _ => []
  sim : Simulation K
  read : Pid → Option (Sent × ℚ) := fun _ => none

/-- A mutation replaces the image of a process: its connections are lost, their destructors not run. -/
inductive ThinkEvent (K : S4u) where
  | opening (client : Nat) (way : Opening) (socket : Socket) (ack : CommandAck)
  | mutation (client : Nat)
  | reuse (client : Nat) (fd : Socket)
  | send (client : Nat) (elapsed : ℚ) (decision : Decision)
  | disconnect (client : Nat)
  | server (event : SimEvent K)

namespace Thinking

variable {K : S4u}

def connection (s : Thinking K) (c : Nat) : Option Connection := (s.connections c).map Prod.fst

def setConnection (s : Thinking K) (c : Nat) (connection : Option (Connection × Bool)) : Thinking K :=
  { s with connections := Function.update s.connections c connection }

def write (s : Thinking K) (socket : Socket) (sent : Sent) : Thinking K :=
  { s with wires := Function.update s.wires socket (s.wires socket ++ [sent]) }

/-- What a step of the server reads from a socket, and how long it has slept for an actor. -/
def follow (s : Thinking K) : SimEvent K → Option (Thinking K)
  | .decision d =>
      match s.sim.current with
      | none => none
      | some p =>
          match s.sim.actors.find p with
          | none => none
          | some actor =>
              match s.wires actor.socket with
              | [] => none
              | sent :: rest =>
                  if sent.decision = d then
                    some { s with
                      wires := Function.update s.wires actor.socket rest
                      read := Function.update s.read p (some (sent, 0)) }
                  else none
  | .serve p .done =>
      match s.sim.point p with
      | some (.calling (.sleepFor duration) (.thinkTime _)) =>
          some { s with
            read := Function.update s.read p
              ((s.read p).map fun (sent, slept) => (sent, slept + duration)) }
      | _ => some s
  | _ => some s

/-- The decisions that a step of the server begins to handle. -/
def handled (s : Thinking K) (out : List SimOutput) : List HandledAfter :=
  (out.filterMap SimOutput.dispatch).filterMap fun (p, _) =>
    (s.read p).map fun (sent, slept) => ⟨p, sent, slept⟩

end Thinking

/-- The step function, with the environments of the client threads. -/
def thinkStep (K : S4u) (env : Nat → Environment) (s : Thinking K) (event : ThinkEvent K) :
    Option (Thinking K × List HandledAfter) :=
  match event with
  | .opening c way socket ack =>
      match way.start (env c) (s.connection c) with
      | some (.sends actorId) =>
          match (Connection.ofServer (env c) actorId socket ack).2 with
          | .ok connection => some (s.setConnection c (some (connection, false)), [])
          | .error _ => some (s.setConnection c none, [])
      | _ => some (s, [])
  | .mutation c => some (s.setConnection c none, [])
  | .reuse c fd =>
      match reuseConnectedSocket (env c) (s.connection c) fd with
      | .ok connection => some (s.setConnection c (some (connection, true)), [])
      | .error _ => some (s, [])
  | .send c elapsed decision =>
      match s.connection c with
      | some connection =>
          some (s.write connection.socket ⟨connection.sendDecision elapsed decision, .sendDecision⟩, [])
      | none => some (s, [])
  | .disconnect c =>
      match s.connection c with
      | some connection =>
          some ((s.setConnection c none).write connection.socket ⟨Connection.quit, .destructor⟩, [])
      | none => some (s, [])
  | .server event =>
      match s.follow event, simulationStep K s.sim event with
      | some s', some (sim, out) => some ({ s' with sim := sim }, s'.handled out)
      | _, _ => none

/-! ### The law -/

/-- The time for which the server is to sleep before it handles a decision. -/
def Sent.due (thinkTime : ℚ) (sent : Sent) : ℚ :=
  match sent.origin with
  | .sendDecision => thinkTime
  | .destructor => 0

/-- The time for which the server has slept for the think times of an actor. -/
def totalSlept (p : Pid) (trace : List HandledAfter) : ℚ :=
  ((trace.filter fun h => h.actor = p).map (·.slept)).sum

/-- The decisions of an actor that were sent by `send_decision`. -/
def decisionsHandled (p : Pid) (trace : List HandledAfter) : Nat :=
  trace.countP fun h => h.actor = p ∧ h.sent.origin = .sendDecision

/-- The server sleeps for the think time before each decision that `send_decision` sends, and for
nothing before the final quit: in what it has handled, and in what is still to be read. -/
structure ThinksFor {K : S4u} (thinkTime : ℚ) (s : Thinking K) (trace : List HandledAfter) : Prop where
  handled : ∀ h ∈ trace, h.slept = h.sent.due thinkTime
  total : ∀ p, totalSlept p trace = thinkTime * decisionsHandled p trace
  sent : ∀ socket, ∀ sent ∈ s.wires socket, sent.decision.thinkTime = sent.due thinkTime

/-- No decision is sent on a connection that reuses a socket, but with a null think time. -/
def SendsOnOpened {K : S4u} (thinkTime : ℚ) (s : Thinking K) : ThinkEvent K → Prop
  | .send c _ _ => thinkTime = 0 ∨ ∀ connection, s.connections c ≠ some (connection, true)
  | _ => True

theorem totalSlept_eq {thinkTime : ℚ} {trace : List HandledAfter}
    (h : ∀ x ∈ trace, x.slept = x.sent.due thinkTime) (p : Pid) :
    totalSlept p trace = thinkTime * decisionsHandled p trace := by
  induction trace with
  | nil => rw [decisionsHandled, List.countP_nil, Nat.cast_zero, mul_zero]; rfl
  | cons x trace ih =>
      have hx := h x List.mem_cons_self
      have htail := ih fun y hy => h y (List.mem_cons_of_mem x hy)
      unfold totalSlept decisionsHandled at htail ⊢
      by_cases hp : x.actor = p
      · rw [List.filter_cons_of_pos (by rw [decide_eq_true_eq]; exact hp), List.map_cons, List.sum_cons,
          htail, hx, Sent.due]
        cases horigin : x.sent.origin with
        | sendDecision =>
            rw [List.countP_cons_of_pos (by rw [decide_eq_true_eq]; exact ⟨hp, horigin⟩), Nat.cast_add,
              Nat.cast_one, mul_add, mul_one, add_comm]
        | destructor =>
            have hquit : ¬(x.actor = p ∧ x.sent.origin = .sendDecision) := by
              rw [horigin]
              exact fun h => nomatch h.2
            rw [List.countP_cons_of_neg (by rw [decide_eq_true_eq]; exact hquit), zero_add]
      · rw [List.filter_cons_of_neg (by rw [decide_eq_true_eq]; exact hp),
          List.countP_cons_of_neg (by rw [decide_eq_true_eq]; exact fun h => hp h.1), htail]

/-! ### The server -/

section

variable {K : S4u} {s t : Simulation K} {event : SimEvent K} {out : List SimOutput} {p : Pid}
  {socket : Socket} {segment : Segment}

theorem Switched.no_dispatch {d : Decision} {m : Memory} (h : Switched d m segment) :
    segment.out.filterMap SimOutput.dispatch = [] := by
  cases h <;> rfl

theorem Taken.no_dispatch {address : Address} {m m' : Memory} {data : Bytes}
    (h : Taken address m m' out data) : out.filterMap SimOutput.dispatch = [] := by
  cases h <;> rfl

theorem dispatch_out (outcome : Outcome) :
    (outcome.out p socket).filterMap SimOutput.dispatch = [] := by
  cases outcome with
  | finished ack sendAck quitReceived => cases sendAck <;> cases quitReceived <;> rfl
  | _ => rfl

/-- The handling of the decision begins in the first segment after its thinking time. -/
theorem dispatch_dispatched (k : K.State) (d : Decision) (m : Memory) :
    (dispatch K k p d m).out.filterMap SimOutput.dispatch = [(p, d)] := by
  obtain ⟨segment, hswitched, heq⟩ := dispatch_eq K k p d m
  rw [heq]
  show (p, d) :: segment.out.filterMap SimOutput.dispatch = [(p, d)]
  rw [hswitched.no_dispatch]

theorem Resumed.no_dispatch {k : K.State} {frame : Frame} {ret : S4uReturn} {m : Memory}
    (h : Resumed K k p socket frame ret m segment) (hthink : ∀ d, frame ≠ .thinkTime d) :
    segment.out.filterMap SimOutput.dispatch = [] := by
  cases h with
  | dispatched d heq _ => exact absurd heq (hthink d)
  | commWaited _ _ _ _ _ _ _ htaken => exact htaken.no_dispatch
  | commTested _ _ _ _ _ _ _ htaken => exact htaken.no_dispatch
  | commWaitedAny _ _ _ _ _ _ _ _ _ _ _ htaken => exact htaken.no_dispatch
  | _ => rfl

/-- A frame of a thinking time is left for the handling of its decision, or by an exception. -/
theorem Resumed.think {k : K.State} {frame : Frame} {d : Decision} {ret : S4uReturn} {m : Memory}
    (h : Resumed K k p socket frame ret m segment) (hframe : frame = .thinkTime d) :
    segment.out.filterMap SimOutput.dispatch = [] ∨
      ret = .done ∧ segment.out.filterMap SimOutput.dispatch = [(p, d)] := by
  cases h with
  | escaped => exact Or.inl rfl
  | dispatched d' heq hret =>
      cases heq.symm.trans hframe
      exact Or.inr ⟨hret, dispatch_dispatched k d m⟩
  | acknowledged hplain =>
      rw [hframe] at hplain
      cases hplain
  | _ => grind

theorem SimStep.dispatched (h : SimStep s event t out) :
    out.filterMap SimOutput.dispatch = [] ∨
      ∃ p d, out.filterMap SimOutput.dispatch = [(p, d)] ∧ Dispatches s event p d := by
  have hconclude : ∀ (s' : Simulation K) (p : Pid) (socket : Socket) (segment : Segment),
      (s'.conclude p socket segment).2.filterMap SimOutput.dispatch =
        segment.out.filterMap SimOutput.dispatch := by
    intro s' p socket segment
    show (segment.out ++ segment.outcome.out p socket).filterMap _ = _
    rw [List.filterMap_append, dispatch_out, List.append_nil]
  cases h with
  | ran _ p socket segment hran =>
      rw [hconclude]
      cases hran with
      | resumed p actor ret frame segment hcurrent hfind hpoint hresumed =>
          by_cases hframe : ∃ d, frame = .thinkTime d
          · obtain ⟨d, rfl⟩ := hframe
            rcases hresumed.think rfl with hnone | ⟨rfl, hdispatch⟩
            · exact Or.inl hnone
            · exact Or.inr ⟨p, d, hdispatch, .later p actor d hcurrent hfind hpoint⟩
          · exact Or.inl (hresumed.no_dispatch fun d heq => hframe ⟨d, heq⟩)
      | decided p socket d hcurrent hfind hthink =>
          exact Or.inr ⟨p, d, dispatch_dispatched _ d _, .now p socket d hcurrent hfind hthink⟩
      | _ => exact Or.inl rfl
  | progressed event kernel writes =>
      refine Or.inl ?_
      rw [List.filterMap_map]
      exact List.filterMap_eq_nil_iff.mpr fun _ _ => rfl
  | _ => exact Or.inl rfl

/-- The frames of the calls that a handler makes. -/
theorem Switched.frame_ne {d d' : Decision} {m : Memory} (h : Switched d m segment) (call : S4uCall) :
    segment.outcome ≠ .call call (.thinkTime d') := by
  cases h with
  | plainCalled call' frame _ _ hframe =>
      intro heq
      cases heq
      rcases hframe with hframe | hframe <;> cases hframe
  | lockWaited c x cv mutex call' frame _ _ _ hframe =>
      intro heq
      cases heq
      rcases hframe with ⟨hframe, -⟩ | ⟨hframe, -⟩ | ⟨hframe, -⟩ <;> cases hframe
  | _ => exact fun heq => by cases heq

theorem dispatch_frame_ne {k : K.State} {d d' : Decision} {m : Memory} (call : S4uCall) :
    (dispatch K k p d m).outcome ≠ .call call (.thinkTime d') := by
  obtain ⟨segment, hswitched, heq⟩ := dispatch_eq K k p d m
  rw [heq]
  exact hswitched.frame_ne call

/-- Only the decision that it has just read makes an actor sleep for a thinking time. -/
theorem Ran.thinks {call : S4uCall} {d : Decision} (h : Ran s event p socket segment)
    (hcall : segment.outcome = .call call (.thinkTime d)) :
    event = .decision d ∧ s.current = some p ∧ call = .sleepFor d.thinkTime := by
  cases h with
  | thinking _ _ d' hcurrent _ _ =>
      cases hcall
      exact ⟨rfl, hcurrent, rfl⟩
  | decided => exact absurd hcall (dispatch_frame_ne call)
  | resumed _ actor ret frame segment _ _ _ hresumed =>
      cases hresumed with
      | dispatched => exact absurd hcall (dispatch_frame_ne call)
      | _ => cases hcall
  | _ => cases hcall

end

/-! ### The invariant -/

section

variable {K : S4u} {s s' t : Thinking K} {thinkTime : ℚ}

/-- An actor that sleeps for a thinking time, or has slept. -/
def ActorPoint.ThinksFor (thinkTime : ℚ) (read : Option (Sent × ℚ)) : ActorPoint → Prop
  | .calling call (.thinkTime d) => call = .sleepFor d.thinkTime ∧
      ∃ sent, read = some (sent, 0) ∧ sent.decision = d ∧ d.thinkTime = sent.due thinkTime
  | .returned .done (.thinkTime d) =>
      ∃ sent, read = some (sent, d.thinkTime) ∧ sent.decision = d ∧ d.thinkTime = sent.due thinkTime
  | _ => True

structure ThinkInv (thinkTime : ℚ) (s : Thinking K) : Prop where
  points : ∀ p point, s.sim.point p = some point → point.ThinksFor thinkTime (s.read p)
  sent : ∀ socket, ∀ sent ∈ s.wires socket, sent.decision.thinkTime = sent.due thinkTime
  connections : ∀ c connection reused, s.connections c = some (connection, reused) →
    connection.measureThinkTime = false ∧
      connection.decisionThinkTime = if reused then 0 else thinkTime

/-- The cases of `follow`. -/
inductive Followed (s : Thinking K) : SimEvent K → Thinking K → Prop
  | read (p : Pid) (actor : ServerActor) (sent : Sent) (rest : List Sent) : s.sim.current = some p →
      s.sim.actors.find p = some actor → s.wires actor.socket = sent :: rest →
      Followed s (.decision sent.decision)
        { s with
          wires := Function.update s.wires actor.socket rest
          read := Function.update s.read p (some (sent, 0)) }
  | slept (p : Pid) (duration : ℚ) (d : Decision) :
      s.sim.point p = some (.calling (.sleepFor duration) (.thinkTime d)) →
      Followed s (.serve p .done)
        { s with
          read := Function.update s.read p
            ((s.read p).map fun (sent, slept) => (sent, slept + duration)) }
  | same (event : SimEvent K) : (∀ d, event ≠ .decision d) →
      (∀ p, event = .serve p .done → ∀ duration d,
        s.sim.point p ≠ some (.calling (.sleepFor duration) (.thinkTime d))) →
      Followed s event s

theorem follow_cases {event : SimEvent K} (h : s.follow event = some s') : Followed s event s' := by
  unfold Thinking.follow at h
  split at h
  · split at h
    · cases h
    · rename_i p hcurrent
      split at h
      · cases h
      · rename_i actor hfind
        split at h
        · cases h
        · rename_i sent rest hwire
          split at h
          · rename_i heq
            subst heq
            cases h
            exact .read p actor sent rest hcurrent hfind hwire
          · cases h
  · split at h
    · rename_i p _ duration d hpoint
      cases h
      exact .slept p duration d hpoint
    · rename_i p hpoint
      cases h
      refine .same _ nofun ?_
      intro p' heq duration d hcalling
      cases heq
      exact hpoint duration d hcalling
  · rename_i hdecision hserve
    cases h
    exact .same _ (fun d heq => hdecision d heq) fun p heq _ _ _ => hserve p heq

theorem ActorPoint.thinksFor_of_ne {point : ActorPoint} {read : Option (Sent × ℚ)}
    (hcalling : ∀ call d, point ≠ .calling call (.thinkTime d))
    (hreturned : ∀ d, point ≠ .returned .done (.thinkTime d)) : point.ThinksFor thinkTime read := by
  unfold ThinksFor
  split
  · exact absurd rfl (hcalling _ _)
  · exact absurd rfl (hreturned _)
  · trivial

theorem Followed.connections {event : SimEvent K} (h : Followed s event s') :
    s'.connections = s.connections := by
  cases h <;> rfl

theorem Followed.wires {event : SimEvent K} (h : Followed s event s') {socket : Socket} {sent : Sent}
    (hsent : sent ∈ s'.wires socket) : sent ∈ s.wires socket := by
  cases h with
  | read p actor first rest _ _ hwire =>
      replace hsent : sent ∈ Function.update s.wires actor.socket rest socket := hsent
      by_cases hsocket : socket = actor.socket
      · subst hsocket
        rw [Function.update_self] at hsent
        rw [hwire]
        exact List.mem_cons_of_mem first hsent
      · rwa [Function.update_of_ne hsocket] at hsent
  | _ => exact hsent

theorem ActorPoint.thinksFor_of_outcome {outcome : Outcome} {read : Option (Sent × ℚ)}
    (hcalling : ∀ call d, outcome = .call call (.thinkTime d) →
      (ActorPoint.calling call (.thinkTime d)).ThinksFor thinkTime read) :
    outcome.point.ThinksFor thinkTime read := by
  cases outcome with
  | call call' frame =>
      cases frame with
      | thinkTime d => exact hcalling call' d rfl
      | _ => trivial
  | finished ack sendAck quitReceived => cases quitReceived <;> trivial
  | _ => trivial

namespace ThinkInv

variable {event : SimEvent K} {sim : Simulation K} {out : List SimOutput} {q : Pid} {point : ActorPoint}

theorem point_served {p : Pid} {ret : S4uReturn} (hstep : SimStep s.sim (.serve p ret) sim out)
    (hpoint : sim.point q = some point) :
    s.sim.point q = some point ∧ q ≠ p ∨ (∃ connectAck, point = .spawned connectAck) ∨
      q = p ∧ ∃ call frame, s.sim.point p = some (.calling call frame) ∧ point = .returned ret frame := by
  cases hstep with
  | served _ actor call frame _ kernel _ _ hfind hcalling _ hserve =>
      have hanswered : ∀ {point}, (s.sim.answered p frame ret kernel).point q = some point →
          s.sim.point q = some point ∧ q ≠ p ∨ (∃ connectAck, point = .spawned connectAck) ∨
            q = p ∧ ∃ call frame, s.sim.point p = some (.calling call frame) ∧
              point = .returned ret frame := by
        intro point hpoint
        have hold : s.sim.point p = some (.calling call frame) :=
          point_eq_some.mpr ⟨actor, hfind, hcalling⟩
        replace hpoint : (s.sim.setPoint p (.returned ret frame)).point q = some point := hpoint
        rw [point_setPoint] at hpoint
        split at hpoint
        · rename_i hq
          rw [hold] at hpoint
          cases hpoint
          exact Or.inr (Or.inr ⟨hq, call, frame, hold, rfl⟩)
        · rename_i hq
          exact Or.inl ⟨hpoint, hq⟩
      rcases serve_cases hserve with rfl | ⟨name, host, connectAck, child, -, -, hnone, rfl⟩
      · exact hanswered hpoint
      · by_cases hq : q = child
        · subst hq
          obtain ⟨new, hnew, rfl⟩ := point_eq_some.mp hpoint
          rw [UnorderedMap.find_insert_self _ hnone] at hnew
          cases hnew
          exact Or.inr (Or.inl ⟨_, rfl⟩)
        · refine hanswered ?_
          rw [← hpoint, Simulation.point, Simulation.point, UnorderedMap.find_insert_of_ne _ _ hq]
  | ran _ _ _ _ hran => cases hran

/-- An actor after it has read a decision. -/
theorem points_read (h : ThinkInv thinkTime s) {p : Pid} {actor : ServerActor} {sent : Sent}
    {rest : List Sent} (hcurrent : s.sim.current = some p)
    (hwire : s.wires actor.socket = sent :: rest)
    (hstep : SimStep s.sim (.decision sent.decision) sim out) (hpoint : sim.point q = some point) :
    point.ThinksFor thinkTime (Function.update s.read p (some (sent, 0)) q) := by
  have hdue := h.sent actor.socket sent (hwire ▸ List.mem_cons_self)
  cases hstep with
  | ran _ p' socket segment hran =>
      have hp : p' = p := by
        cases hran with
        | decided _ _ _ hrunning => exact Option.some.inj (hrunning.symm.trans hcurrent)
        | thinking _ _ _ hrunning => exact Option.some.inj (hrunning.symm.trans hcurrent)
        | badThinkTime _ _ _ _ hrunning => exact Option.some.inj (hrunning.symm.trans hcurrent)
      subst hp
      rw [hran.points] at hpoint
      split at hpoint
      · rename_i hq
        subst hq
        cases hpoint
        rw [Function.update_self]
        refine ActorPoint.thinksFor_of_outcome fun call d hcall => ?_
        obtain ⟨hevent, -, rfl⟩ := hran.thinks hcall
        cases hevent
        exact ⟨rfl, sent, rfl, rfl, hdue⟩
      · rename_i hq
        rw [Function.update_of_ne hq]
        exact h.points q point hpoint

/-- An actor after its thinking time. -/
theorem points_slept (h : ThinkInv thinkTime s) {p : Pid} {duration : ℚ} {d : Decision}
    (hsleeping : s.sim.point p = some (.calling (.sleepFor duration) (.thinkTime d)))
    (hstep : SimStep s.sim (.serve p .done) sim out) (hpoint : sim.point q = some point) :
    point.ThinksFor thinkTime (Function.update s.read p
      ((s.read p).map fun (sent, slept) => (sent, slept + duration)) q) := by
  rcases point_served hstep hpoint with ⟨hold, hq⟩ | ⟨connectAck, rfl⟩ | ⟨rfl, call, frame, hold, rfl⟩
  · rw [Function.update_of_ne hq]
    exact h.points q point hold
  · trivial
  · rw [hsleeping] at hold
    cases hold
    obtain ⟨hcall, sent, hread, rfl, hdue⟩ := h.points q _ hsleeping
    cases hcall
    rw [Function.update_self, hread]
    exact ⟨sent, congrArg (fun x => some (sent, x)) (zero_add _), rfl, hdue⟩

/-- An actor after any other step. -/
theorem points_same (h : ThinkInv thinkTime s) (hdecision : ∀ d, event ≠ .decision d)
    (hserve : ∀ p, event = .serve p .done → ∀ duration d,
      s.sim.point p ≠ some (.calling (.sleepFor duration) (.thinkTime d)))
    (hstep : SimStep s.sim event sim out) (hpoint : sim.point q = some point) :
    point.ThinksFor thinkTime (s.read q) := by
  refine hstep.keepsPoints (P := fun q point => point.ThinksFor thinkTime (s.read q)) h.points ?_ ?_ ?_
    hpoint
  · intro q point hrest
    cases point <;> trivial
  · intro q socket segment hran
    exact ActorPoint.thinksFor_of_outcome fun call d hcall =>
      absurd (hran.thinks hcall).1 (hdecision d)
  · intro q call frame ret hevent hcalling
    refine ActorPoint.thinksFor_of_ne (fun _ _ hne => by cases hne) ?_
    intro d hreturned
    cases hreturned
    obtain ⟨rfl, -⟩ := h.points q _ hcalling
    exact hserve q hevent _ d hcalling

theorem server (h : ThinkInv thinkTime s) (hfollow : Followed s event s')
    (hstep : SimStep s.sim event sim out) : ThinkInv thinkTime { s' with sim := sim } where
  points q point hpoint := by
    cases hfollow with
    | read p actor sent rest hcurrent _ hwire => exact h.points_read hcurrent hwire hstep hpoint
    | slept p duration d hsleeping => exact h.points_slept hsleeping hstep hpoint
    | same _ hdecision hserve => exact h.points_same hdecision hserve hstep hpoint
  sent socket sent hsent := h.sent socket sent (hfollow.wires hsent)
  connections c connection reused hconnection :=
    h.connections c connection reused (hfollow.connections ▸ hconnection)

/-- What the server handles was read, and slept for. -/
theorem handled (h : ThinkInv thinkTime s) (hfollow : Followed s event s')
    (hstep : SimStep s.sim event sim out) : ∀ x ∈ s'.handled out, x.slept = x.sent.due thinkTime := by
  intro x hx
  rcases hstep.dispatched with hnone | ⟨p, d, hdispatch, hdispatches⟩
  · rw [Thinking.handled, hnone] at hx
    cases hx
  · rw [Thinking.handled, hdispatch] at hx
    obtain ⟨_, hmem, hread⟩ := List.mem_filterMap.mp hx
    cases List.mem_singleton.mp hmem
    obtain ⟨⟨sent, slept⟩, hsent, rfl⟩ := Option.map_eq_some_iff.mp hread
    cases hdispatches with
    | now _ socket _ hcurrent hfind hthink =>
        cases hfollow with
        | read p' actor sent' rest hrunning _ hwire =>
            cases hcurrent.symm.trans hrunning
            replace hsent : Function.update s.read p (some (sent', 0)) p = some (sent, slept) := hsent
            rw [Function.update_self] at hsent
            cases hsent
            have hdue := h.sent actor.socket sent (hwire ▸ List.mem_cons_self)
            exact hthink.symm.trans hdue
        | same _ hdecision => exact absurd rfl (hdecision d)
    | later _ actor _ hcurrent hfind hpoint =>
        cases hfollow with
        | same =>
            obtain ⟨sent', hread', -, hdue⟩ := h.points p _ (point_eq_some.mpr ⟨actor, hfind, hpoint⟩)
            rw [hread'] at hsent
            cases hsent
            exact hdue

theorem init (connections : List ActorConnection) :
    ThinkInv thinkTime ({ sim := Simulation.spawn K connections } : Thinking K) where
  points p point hpoint := by
    obtain ⟨actor, hfind, rfl⟩ := point_eq_some.mp hpoint
    rw [find_spawn hfind]
    trivial
  sent socket sent hsent := by cases hsent
  connections c connection reused hconnection := by cases hconnection

/-! ### The clients -/

theorem setConnection (h : ThinkInv thinkTime s) (c : Nat) {connection : Option (Connection × Bool)}
    (hconnection : ∀ x reused, connection = some (x, reused) →
      x.measureThinkTime = false ∧ x.decisionThinkTime = if reused then 0 else thinkTime) :
    ThinkInv thinkTime (s.setConnection c connection) where
  points := h.points
  sent := h.sent
  connections c' x reused hx := by
    replace hx : Function.update s.connections c connection c' = some (x, reused) := hx
    by_cases hc : c' = c
    · subst hc
      rw [Function.update_self] at hx
      exact hconnection x reused hx
    · rw [Function.update_of_ne hc] at hx
      exact h.connections c' x reused hx

theorem write (h : ThinkInv thinkTime s) (socket : Socket) {sent : Sent}
    (hsent : sent.decision.thinkTime = sent.due thinkTime) :
    ThinkInv thinkTime (s.write socket sent) where
  points := h.points
  connections := h.connections
  sent x sent' hsent' := by
    replace hsent' : sent' ∈ Function.update s.wires socket (s.wires socket ++ [sent]) x := hsent'
    by_cases hx : x = socket
    · subst hx
      rw [Function.update_self] at hsent'
      rcases List.mem_append.mp hsent' with hmem | hmem
      · exact h.sent x sent' hmem
      · rw [List.mem_singleton.mp hmem]
        exact hsent
    · rw [Function.update_of_ne hx] at hsent'
      exact h.sent x sent' hsent'

/-- The think time in a decision is that of the connection. -/
theorem sendDecision_due (h : ThinkInv thinkTime s) {c : Nat} {connection : Connection} {reused : Bool}
    (hconnection : s.connections c = some (connection, reused)) (elapsed : ℚ) (decision : Decision) :
    (connection.sendDecision elapsed decision).thinkTime = thinkTime ↔ thinkTime = 0 ∨ reused = false := by
  obtain ⟨hmeasure, hthink⟩ := h.connections c connection reused hconnection
  have hsent : (connection.sendDecision elapsed decision).thinkTime =
      if reused then 0 else thinkTime := by
    rw [← hthink]
    show (if connection.measureThinkTime then elapsed else connection.decisionThinkTime) = _
    rw [hmeasure]
    rfl
  rw [hsent]
  cases reused with
  | false => exact iff_of_true rfl (Or.inr rfl)
  | true =>
      constructor
      · exact fun heq => Or.inl heq.symm
      · exact fun hor => (hor.resolve_right nofun).symm

/-- A step keeps the law when it meets the condition. -/
theorem step (h : ThinkInv thinkTime s) (hpositive : 0 ≤ thinkTime) {env : Nat → Environment}
    (henv : ∀ c, (env c).thinkTime = .valid (.constant thinkTime)) {event : ThinkEvent K}
    {out : List HandledAfter} (hguard : SendsOnOpened thinkTime s event)
    (hstep : thinkStep K env s event = some (t, out)) :
    ThinkInv thinkTime t ∧ ∀ x ∈ out, x.slept = x.sent.due thinkTime := by
  cases event with
  | opening c way socket ack =>
      simp only [thinkStep] at hstep
      split at hstep
      · rename_i actorId _
        split at hstep
        · rename_i connection hconnection
          cases hstep
          refine ⟨h.setConnection c ?_, List.forall_mem_nil _⟩
          intro x reused hx
          cases hx
          have hthink : (env c).retrieveRsgThinkTimeFromEnv = .ok (false, thinkTime) := by
            simp only [Environment.retrieveRsgThinkTimeFromEnv, henv c, rsgEnforce, if_pos hpositive]
          simp only [Connection.ofServer, hthink, Except.ok.injEq] at hconnection
          subst hconnection
          exact ⟨rfl, rfl⟩
        · cases hstep
          exact ⟨h.setConnection c (fun _ _ hx => by cases hx), List.forall_mem_nil _⟩
      · cases hstep
        exact ⟨h, List.forall_mem_nil _⟩
  | mutation c =>
      cases hstep
      exact ⟨h.setConnection c (fun _ _ hx => by cases hx), List.forall_mem_nil _⟩
  | reuse c fd =>
      simp only [thinkStep] at hstep
      split at hstep
      · rename_i connection hconnection
        cases hstep
        refine ⟨h.setConnection c ?_, List.forall_mem_nil _⟩
        intro x reused hx
        cases hx
        unfold reuseConnectedSocket at hconnection
        split at hconnection
        · cases hconnection
        · split at hconnection
          · cases hconnection
          · cases hconnection
            exact ⟨rfl, rfl⟩
      · cases hstep
        exact ⟨h, List.forall_mem_nil _⟩
  | send c elapsed decision =>
      simp only [thinkStep] at hstep
      split at hstep
      · rename_i connection hconnection
        cases hstep
        obtain ⟨⟨_, reused⟩, hfound, rfl⟩ := Option.map_eq_some_iff.mp hconnection
        refine ⟨h.write _ ((h.sendDecision_due hfound elapsed decision).mpr ?_),
          List.forall_mem_nil _⟩
        rcases hguard with hnull | hopened
        · exact Or.inl hnull
        · refine Or.inr ?_
          rw [← Bool.not_eq_true]
          rintro rfl
          exact hopened _ hfound
      · cases hstep
        exact ⟨h, List.forall_mem_nil _⟩
  | disconnect c =>
      simp only [thinkStep] at hstep
      split at hstep
      · cases hstep
        exact ⟨(h.setConnection c (fun _ _ hx => by cases hx)).write _ rfl, List.forall_mem_nil _⟩
      · cases hstep
        exact ⟨h, List.forall_mem_nil _⟩
  | server event =>
      simp only [thinkStep] at hstep
      split at hstep
      · rename_i s' sim out' hfollow hsim
        cases hstep
        have hfollowed := follow_cases hfollow
        have hstep := (simulationStep_cases hsim).2
        exact ⟨h.server hfollowed hstep, h.handled hfollowed hstep⟩
      · cases hstep

end ThinkInv

end

/-- With a constant think time, the server sleeps for it before each decision, and not before the final
quit, exactly in the runs where no decision is sent on a connection that reuses a socket, unless the
think time is null. -/
theorem thinks_iff {K : S4u} {connections : List ActorConnection} {thinkTime : ℚ}
    (hpositive : 0 ≤ thinkTime) {env : Nat → Environment}
    (henv : ∀ c, (env c).thinkTime = .valid (.constant thinkTime)) {events : List (ThinkEvent K)}
    {t : Thinking K} {trace : List HandledAfter}
    (hrun : Run (thinkStep K env) { sim := Simulation.spawn K connections } events t trace) :
    Always (thinkStep K env) (ThinksFor thinkTime) { sim := Simulation.spawn K connections } events ↔
      Throughout (thinkStep K env) (SendsOnOpened thinkTime)
        { sim := Simulation.spawn K connections } events := by
  have hassumed : Throughout (thinkStep K env) (fun _ _ => True)
      { sim := Simulation.spawn K connections } events := fun _ _ _ _ _ _ _ => trivial
  refine always_iff_throughout
    (I := fun s trace => ThinkInv thinkTime s ∧ ∀ x ∈ trace, x.slept = x.sent.due thinkTime)
    hrun hassumed ⟨.init connections, List.forall_mem_nil _⟩ ?_ ?_ ?_
  · exact fun s trace h => ⟨h.2, totalSlept_eq h.2, h.1.sent⟩
  · intro s trace event t out hinv _ hguard hstep
    obtain ⟨hnext, hout⟩ := hinv.1.step hpositive henv hguard hstep
    refine ⟨hnext, ?_⟩
    intro x hx
    rcases List.mem_append.mp hx with hx | hx
    · exact hinv.2 x hx
    · exact hout x hx
  · intro s trace event t out hinv _ hguard hstep hlaw
    cases event with
    | send c elapsed decision =>
        unfold SendsOnOpened at hguard
        push Not at hguard
        obtain ⟨hpositive', connection, hconnection⟩ := hguard
        simp only [thinkStep, Thinking.connection, hconnection, Option.map_some] at hstep
        cases hstep
        have hmem := hlaw.sent connection.socket
          ⟨connection.sendDecision elapsed decision, .sendDecision⟩ (by
            show _ ∈ Function.update s.wires connection.socket _ connection.socket
            rw [Function.update_self]
            exact List.mem_append_right _ List.mem_cons_self)
        rcases (hinv.1.sendDecision_due hconnection elapsed decision).mp hmem with hnull | hreused
        · exact hpositive' hnull
        · cases hreused
    | _ => exact hguard trivial

/-- An environment with a think time of one second. -/
def oneSecondEnvironment : Environment where
  serverHostname := some "localhost"
  serverPort := .valid 35000
  initialActorId := .valid 2
  thinkTime := .valid (.constant 1)

def oneConnection : List ActorConnection := [{ actorId := 2, socket := some 7 }]

/-- An actor sleeps, mutates, and sleeps again. -/
def mutantEvents : List (ThinkEvent permissiveS4u) :=
  [.opening 0 (.connect 2) 7 { success := true }, .send 0 0 { type := .thisActorSleepFor 10 },
    .server (.schedule 2), .server (.decision { thinkTime := 1, type := .thisActorSleepFor 10 }),
    .server (.serve 2 .done), .server (.schedule 2), .server (.serve 2 .done), .server (.schedule 2),
    .mutation 0, .reuse 1 7, .send 1 0 { type := .thisActorSleepFor 5 },
    .server (.decision { type := .thisActorSleepFor 5 })]

theorem mutant_run : ∃ t trace, Run (thinkStep permissiveS4u fun _ => oneSecondEnvironment)
    { sim := Simulation.spawn permissiveS4u oneConnection } mutantEvents t trace ∧
      trace.map (fun h => (h.slept, h.sent.origin)) = [(1, .sendDecision), (0, .sendDecision)] := by
  have hexec : (exec (thinkStep permissiveS4u fun _ => oneSecondEnvironment)
      { sim := Simulation.spawn permissiveS4u oneConnection } mutantEvents).any (fun result =>
        decide (result.2.map (fun h => (h.slept, h.sent.origin)) =
          [(1, .sendDecision), (0, .sendDecision)])) = true := by
    decide +kernel
  obtain ⟨t, trace, hrun, hcheck⟩ := Run.of_check hexec
  exact ⟨t, trace, hrun, of_decide_eq_true hcheck⟩

theorem thinks_iff_mutant : ∃ t trace, Run (thinkStep permissiveS4u fun _ => oneSecondEnvironment)
    { sim := Simulation.spawn permissiveS4u oneConnection } mutantEvents t trace ∧
    (Always (thinkStep permissiveS4u fun _ => oneSecondEnvironment) (ThinksFor 1)
        { sim := Simulation.spawn permissiveS4u oneConnection } mutantEvents ↔
      Throughout (thinkStep permissiveS4u fun _ => oneSecondEnvironment) (SendsOnOpened 1)
        { sim := Simulation.spawn permissiveS4u oneConnection } mutantEvents) := by
  obtain ⟨t, trace, hrun, -⟩ := mutant_run
  exact ⟨t, trace, hrun, thinks_iff zero_le_one (fun _ => rfl) hrun⟩

/-- The server does not sleep before the decision that follows the mutation. -/
theorem mutant_does_not_think : ∃ t trace, Run (thinkStep permissiveS4u fun _ => oneSecondEnvironment)
    { sim := Simulation.spawn permissiveS4u oneConnection } mutantEvents t trace ∧
    (∃ h ∈ trace, h.sent.origin = .sendDecision ∧ h.slept = 0) ∧ ¬ThinksFor 1 t trace := by
  obtain ⟨t, trace, hrun, htrace⟩ := mutant_run
  have hmem : ((0 : ℚ), Origin.sendDecision) ∈ trace.map fun h => (h.slept, h.sent.origin) := by
    rw [htrace]
    decide
  obtain ⟨h, hin, heq⟩ := List.mem_map.mp hmem
  obtain ⟨hslept, horigin⟩ := Prod.mk.inj heq
  refine ⟨t, trace, hrun, ⟨h, hin, horigin, hslept⟩, ?_⟩
  intro hlaw
  have hdue := hlaw.handled h hin
  rw [hslept, Sent.due, horigin] at hdue
  exact absurd hdue zero_ne_one

end RemoteSimgrid
