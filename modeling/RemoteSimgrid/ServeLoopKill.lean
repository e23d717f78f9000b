import RemoteSimgrid.ServeLoopClosing

/-! The end of an iteration in which a KILL has been handled: the other commands of the pass, the message
popped after it and the closing of the sockets. -/

namespace RemoteSimgrid

open Machine Pb

/-- The commands that `handle_command` admits in the state KILLED. -/
def Command.admitted : Command → Bool
  | .start _ | .typeNotSet => false
  | _ => true

/-- The commands that would add, connect or start something. -/
def Command.launches : Command → Bool
  | .addActor _ | .connect _ | .start _ => true
  | _ => false

theorem Serve.handleCommand_killed {s : Serve} (hkilled : s.serverState = .killed)
    (command : Command) (socket : Socket) :
    (Command.admitted command = true ∧ ∃ ack,
      s.handleCommand command socket = .ok (s, [.writeCommandAck socket ack], true) ∧
        (Command.launches command = true → ack.success = false)) ∨
    (Command.admitted command = false ∧ ∃ e, s.handleCommand command socket = .error e) := by
  unfold Serve.handleCommand
  cases command with
  | addActor addActor => exact Or.inl ⟨rfl, {}, by simp [rsgEnforce, hkilled], fun _ => rfl⟩
  | connect actor => exact Or.inl ⟨rfl, {}, by simp [rsgEnforce, hkilled], fun _ => rfl⟩
  | start _ => exact Or.inr ⟨rfl, _, by simp only [rsgEnforce, hkilled]; rfl⟩
  | typeNotSet => exact Or.inr ⟨rfl, _, rfl⟩
  | status _ => exact Or.inl ⟨rfl, _, rfl, (fun h => by cases h)⟩
  | kill _ =>
      refine Or.inl ⟨rfl, { success := true }, ?_, (fun h => by cases h)⟩
      rw [← hkilled]

/-! ### Where the loop is in the states KILLED and SIMULATION_FINISHED -/

/-- In the state KILLED the iteration goes on, and the loop ends with it. -/
def KilledPoint (s : Loop) : Prop :=
  match s.point with
  | .header _ _ | .content _ _ => s.clientDropped = true
  | .closing _ code => code = 0
  | .message | .left _ | .raised _ => True
  | _ => False

/-- In the state SIMULATION_FINISHED the loop has ended. -/
def FinishedPoint (s : Loop) : Prop :=
  match s.point with
  | .closing _ _ | .left _ | .raised _ => True
  | _ => False

structure EndInv (s : Loop) : Prop where
  code : s.serve.returnCode = 0 ∨ s.serve.serverState = .simulationFinished
  finished : s.serve.serverState = .simulationFinished → FinishedPoint s
  killed : s.serve.serverState = .killed → KilledPoint s

section

variable {format : CommandFormat} {s t : Loop} {event : LoopEvent} {out : List LoopOutput}

theorem closeSockets_frame (abortive : Bool) (code : Nat) (failing : Finset Socket)
    (sockets : List Socket) (s : Loop) :
    (Loop.closeSockets abortive code failing sockets s).1.serve.serverState = s.serve.serverState ∧
      (Loop.closeSockets abortive code failing sockets s).1.serve.returnCode = s.serve.returnCode ∧
      (Loop.closeSockets abortive code failing sockets s).1.serve.simulationThreads =
        s.serve.simulationThreads :=
  closeSockets_keeps (P := fun t => t.serve.serverState = s.serve.serverState ∧
      t.serve.returnCode = s.serve.returnCode ∧ t.serve.simulationThreads = s.serve.simulationThreads)
    ⟨rfl, rfl, rfl⟩ (fun _ _ h => h) (fun _ _ h => h) _ _ _ _

theorem Serve.Handled.frame {s t : Serve} {socket : Socket} {out : List ServeOutput} {drop : Bool}
    (h : s.Handled socket t out drop) :
    t.returnCode = s.returnCode ∧
      (t.serverState = .simulationFinished → s.serverState = .simulationFinished) ∧
      (drop = false → t.serverState ≠ .killed) := by
  cases h with
  | added hstate | unchanged hstate => exact ⟨rfl, id, nofun⟩
  | started | waiting | killed => exact ⟨rfl, nofun, nofun⟩
  | connectedDynamic id connection connectAck hstate =>
      refine ⟨rfl, fun h => h, fun _ => ?_⟩
      show s.serverState ≠ .killed
      rw [hstate]
      decide
  | connectedLast => exact ⟨rfl, nofun, fun _ => nofun⟩
  | connectedInitial id connection hstate =>
      refine ⟨rfl, fun h => h, fun _ => ?_⟩
      show s.serverState ≠ .killed
      rcases hstate with hstate | hstate <;> rw [hstate] <;> decide

/-- The state of the server is that of before. -/
theorem EndInv.same (h : EndInv s) (hcode : t.serve.returnCode = s.serve.returnCode)
    (hstate : t.serve.serverState = s.serve.serverState)
    (hfinished : s.serve.serverState = .simulationFinished → FinishedPoint t)
    (hkilled : s.serve.serverState = .killed → KilledPoint t) : EndInv t where
  code := by rw [hcode, hstate]; exact h.code
  finished := by rw [hstate]; exact hfinished
  killed := by rw [hstate]; exact hkilled

theorem EndInv.nextIteration
    (hcode : s.serve.returnCode = 0 ∨ s.serve.serverState = .simulationFinished) :
    EndInv s.nextIteration := by
  unfold Loop.nextIteration
  split
  · refine ⟨hcode, fun _ => trivial, fun hkilled => ?_⟩
    have hkilled : s.serve.serverState = .killed := hkilled
    rw [hkilled] at hcode
    exact hcode.resolve_right nofun
  · rename_i hstate
    exact ⟨hcode, fun h => (hstate (Or.inl h)).elim, fun h => (hstate (Or.inr h)).elim⟩

theorem Loop.PassPoint.killedPoint {rest : List Socket} {point : LoopPoint}
    (h : s.PassPoint rest point) (hdropped : s.clientDropped = true) :
    KilledPoint { s with point := point } := by
  cases h with
  | reads _ _ _ hpoint => rcases hpoint with rfl | rfl <;> exact hdropped
  | skipped => trivial
  | dropped _ hnot => rw [hdropped] at hnot; cases hnot

/-- At these points the state is neither KILLED nor SIMULATION_FINISHED. -/
theorem EndInv.ongoing (h : EndInv s) (hkilled : ¬KilledPoint s) (hfinished : ¬FinishedPoint s) :
    s.serve.serverState ≠ .simulationFinished ∧ s.serve.serverState ≠ .killed :=
  ⟨fun hstate => hfinished (h.finished hstate), fun hstate => hkilled (h.killed hstate)⟩

theorem Loop.Reading.not_finishedPoint {socket : Socket} {rest : List Socket}
    (h : s.Reading socket rest) : ¬FinishedPoint s := by
  unfold FinishedPoint
  rcases h with h | h <;> rw [h] <;> exact id

theorem EndInv.step (h : EndInv s) (hstep : LoopStep format s event t out) : EndInv t := by
  -- a step that leaves the server as it is, from a point that is out of both states
  have hongoing : ∀ {u : Loop}, ¬KilledPoint s → ¬FinishedPoint s → u.serve.returnCode =
      s.serve.returnCode → u.serve.serverState = s.serve.serverState → EndInv u := by
    intro u hkilled hfinished hcode hstate
    obtain ⟨hnotFinished, hnotKilled⟩ := h.ongoing hkilled hfinished
    exact h.same hcode hstate (fun heq => absurd heq hnotFinished) (fun heq => absurd heq hnotKilled)
  have hat : ∀ {point : LoopPoint}, s.point = point →
      (KilledPoint s ↔ KilledPoint { s with point := point }) ∧
        (FinishedPoint s ↔ FinishedPoint { s with point := point }) := by
    intro point heq
    subst heq
    exact ⟨Iff.rfl, Iff.rfl⟩
  cases hstep with
  | selectFailed => exact h.same rfl rfl (fun _ => trivial) (fun _ => trivial)
  | selected readable order u point heq _ _ _ _ hu =>
      subst hu
      exact hongoing (fun hk => (hat heq).1.mp hk) (fun hf => (hat heq).2.mp hf) rfl rfl
  | accepted socket fd heq =>
      exact hongoing (fun hk => (hat heq).1.mp hk) (fun hf => (hat heq).2.mp hf) rfl rfl
  | readMore socket rest outcome info point hread _ hnext =>
      refine h.same rfl rfl (fun heq => (hread.not_finishedPoint (h.finished heq)).elim) fun heq => ?_
      have hkilled := h.killed heq
      unfold KilledPoint at hkilled
      rcases hread with hpoint | hpoint <;> rw [hpoint] at hkilled <;>
        rcases hnext with rfl | rfl <;> exact hkilled
  | readFailed socket rest outcome infos u v e hread _ hv hu =>
      subst hv
      rcases hu with rfl | rfl <;> exact h.same rfl rfl (fun _ => trivial) (fun _ => trivial)
  | refused => exact h.same rfl rfl (fun _ => trivial) (fun _ => trivial)
  | droppedClient socket rest outcome info command serve out' u point hread _ hok hu hpass =>
      subst hu
      obtain ⟨hcode, hfinished, -⟩ := (Serve.handleCommand_handled hok).frame
      have hnot : s.serve.serverState ≠ .simulationFinished := fun heq =>
        hread.not_finishedPoint (h.finished heq)
      refine ⟨Or.inl ?_, fun heq => (hnot (hfinished heq)).elim, fun _ => hpass.killedPoint rfl⟩
      exact hcode.trans (h.code.resolve_right hnot)
  | connected socket rest outcome info command serve out' hread _ hok =>
      obtain ⟨hcode, hfinished, hkilled⟩ := (Serve.handleCommand_handled hok).frame
      have hnot : s.serve.serverState ≠ .simulationFinished := fun heq =>
        hread.not_finishedPoint (h.finished heq)
      refine ⟨Or.inl ?_, fun heq => (hnot (hfinished heq)).elim, fun heq => (hkilled rfl heq).elim⟩
      exact hcode.trans (h.code.resolve_right hnot)
  | unanswered socket rest bytes errno info command serve out' dropClient e hpoint _ hok =>
      obtain ⟨hcode, hfinished, -⟩ := (Serve.handleCommand_handled hok).frame
      have hread : s.Reading socket rest := Or.inr hpoint
      have hnot : s.serve.serverState ≠ .simulationFinished := fun heq =>
        hread.not_finishedPoint (h.finished heq)
      refine ⟨Or.inl ?_, fun _ => trivial, fun _ => trivial⟩
      exact hcode.trans (h.code.resolve_right hnot)
  | unregistered socket rest u point heq hu =>
      subst hu
      exact hongoing (fun hk => (hat heq).1.mp hk) (fun hf => (hat heq).2.mp hf) rfl rfl
  | droppedData socket rest bytes u point heq hu =>
      subst hu
      exact hongoing (fun hk => (hat heq).1.mp hk) (fun hf => (hat heq).2.mp hf) rfl rfl
  | droppedClosed socket rest u point heq hu =>
      subst hu
      exact hongoing (fun hk => (hat heq).1.mp hk) (fun hf => (hat heq).2.mp hf) rfl rfl
  | droppedFailed socket rest errno u point heq hu =>
      subst hu
      exact hongoing (fun hk => (hat heq).1.mp hk) (fun hf => (hat heq).2.mp hf) rfl rfl
  | noMessage => exact EndInv.nextIteration h.code
  | messageFailed => exact h.same rfl rfl (fun _ => trivial) (fun _ => trivial)
  | message msg serve out' heq _ _ hok =>
      apply EndInv.nextIteration
      cases Serve.handleInterthreadMessage_popped hok with
      | finished => exact Or.inr rfl
      | aborted => exact Or.inr rfl
      | quit => exact h.code
      | created => exact h.code
  | closed abortive code order failing heq =>
      obtain ⟨hstate, hcode, -⟩ := closeSockets_frame abortive code failing
        (order ++ s.serve.droppedSockets ++ s.actorSockets) s
      obtain ⟨result, hleft⟩ := closeSockets_left abortive code failing
        (order ++ s.serve.droppedSockets ++ s.actorSockets) s
      refine h.same hcode hstate (fun _ => ?_) (fun _ => ?_)
      · unfold FinishedPoint
        rw [hleft]
        trivial
      · unfold KilledPoint
        rw [hleft]
        trivial
  | actorClosed => exact h.same rfl rfl h.finished h.killed

theorem endInv_run {signalFd listenerFd : Nat} {events : List LoopEvent} {trace : List LoopOutput}
    (hrun : Run (loopStep format) (Loop.start signalFd listenerFd) events s trace) : EndInv s :=
  hrun.invariant (P := fun _ s _ => EndInv s) ⟨Or.inl rfl, nofun, nofun⟩
    fun _ h hstep => h.step (loopStep_cases hstep)

end

/-! ### What a KILL is to bring -/

/-- A step in the state KILLED: the state is kept, nothing is started and nothing raised, the loop is
not entered again, a command is answered, and refused if it would launch something, and `serve` only
returns 0 and with its sockets closed. -/
structure StaysKilled (t : Loop) (s : Loop) (out : List LoopOutput) : Prop where
  state : t.serve.serverState = .killed
  threads : t.serve.simulationThreads = s.serve.simulationThreads
  goes : ∀ e, t.point ≠ .raised e
  ends : t.point ≠ .select
  answers : ∀ socket command, .handled socket command ∈ out → ∃ ack,
    out = [.handled socket command, .wrote (.writeCommandAck socket ack)] ∧
      (Command.launches command = true → ack.success = false)
  returns : ∀ result, t.point = .left result → result = .ok 0 ∧ t.serve.sockets = ∅

/-- A KILL that is handled leads to the state KILLED and raises nothing, and every step in this state is
as above, up to the return from `serve`. -/
def KillLasts (s : Loop) (_ : LoopEvent) (t : Loop) (out : List LoopOutput) : Prop :=
  (∀ socket reason, .handled socket (.kill reason) ∈ out →
      t.serve.serverState = .killed ∧ ∀ e, t.point ≠ .raised e) ∧
    (s.serve.serverState = .killed → (∀ result, s.point ≠ .left result) →
      (∀ e, s.point ≠ .raised e) → StaysKilled t s out)

/-- The messages that can be popped in the state KILLED. -/
def Serve.admitsMessage (s : Serve) : InterthreadMessage → Bool
  | .actorQuit _ => true
  | .actorCreate actorId _ _ => s.actorConnections.find actorId = none
  | _ => false

/-- A KILL whose `CommandAck` cannot be written. -/
def LoopEvent.unansweredKill (format : CommandFormat) (s : Loop) : LoopEvent → Bool
  | .unanswered bytes _ =>
      match s.brings format (.data bytes) with
      | .complete (.kill _) => true
      | _ => false
  | _ => false

/-- The acknowledgment of a KILL is written. In the state KILLED: a `recv` on a barely connected socket
does not fail and completes neither a START nor a command without type, the acknowledgment of a command
is written, the message popped is an ACTOR_QUIT or the ACTOR_CREATE of a new actor, and
`close_open_sockets` has all the sockets and fails to shut down none of them. -/
def LoopEvent.keepsKilled (format : CommandFormat) (s : Loop) (event : LoopEvent) : Bool :=
  (s.serve.serverState ≠ .killed && !event.unansweredKill format s) ||
    match s.point, event with
    | _, .unanswered _ _ => false
    | .header _ _, .recv outcome | .content _ _, .recv outcome =>
        match s.brings format outcome with
        | .incomplete => true
        | .complete command => Command.admitted command
        | .invalid => false
    | .message, .message (some msg) => s.serve.admitsMessage msg
    | .closing _ _, .close order failing =>
        s.shutsDown failing (order ++ s.serve.droppedSockets ++ s.actorSockets) &&
          s.serve.sockets ⊆ s.serve.barelyConnectedSockets ∪ s.serve.droppedSockets.toFinset
    | _, _ => true

section

variable {format : CommandFormat} {s t : Loop} {event : LoopEvent} {out : List LoopOutput}

theorem keepsKilled_recv {socket : Socket} {rest : List Socket} {outcome : RecvOutcome}
    (hread : s.Reading socket rest) (hkilled : s.serve.serverState = .killed) :
    LoopEvent.keepsKilled format s (.recv outcome) =
      match s.brings format outcome with
      | .incomplete => true
      | .complete command => Command.admitted command
      | .invalid => false := by
  unfold LoopEvent.keepsKilled
  rcases hread with hpoint | hpoint <;> rw [hpoint, hkilled] <;> rfl

theorem keepsKilled_unanswered {bytes : Bytes} {errno : String} :
    LoopEvent.keepsKilled format s (.unanswered bytes errno) = true ↔
      s.serve.serverState ≠ .killed ∧
        LoopEvent.unansweredKill format s (.unanswered bytes errno) = false := by
  unfold LoopEvent.keepsKilled
  cases s.point <;> simp

theorem Serve.handleInterthreadMessage_admitted (serve : Serve) (msg : InterthreadMessage) :
    (serve.admitsMessage msg = true ∧ ∃ t out, serve.handleInterthreadMessage msg = .ok (t, out) ∧
      t.serverState = serve.serverState ∧ t.simulationThreads = serve.simulationThreads) ∨
    (serve.admitsMessage msg = false ∧ ((∃ e, serve.handleInterthreadMessage msg = .error e) ∨
      ∃ t out, serve.handleInterthreadMessage msg = .ok (t, out) ∧
        t.serverState = .simulationFinished)) := by
  cases msg with
  | actorQuit socket => exact Or.inl ⟨rfl, _, _, rfl, rfl, rfl⟩
  | actorCreate actorId canConnectAck connectAck =>
      by_cases hfree : serve.actorConnections.find actorId = none
      · refine Or.inl ⟨decide_eq_true hfree, ?_⟩
        simp only [Serve.handleInterthreadMessage, rsgEnforce, if_pos hfree]
        exact ⟨_, _, rfl, rfl, rfl⟩
      · refine Or.inr ⟨decide_eq_false hfree, Or.inl ?_⟩
        simp only [Serve.handleInterthreadMessage, rsgEnforce, if_neg hfree]
        exact ⟨_, rfl⟩
  | simulationFinished => exact Or.inr ⟨rfl, Or.inr ⟨_, _, rfl, rfl⟩⟩
  | simulationAborted reason => exact Or.inr ⟨rfl, Or.inr ⟨_, _, rfl, rfl⟩⟩
  | undefined => exact Or.inr ⟨rfl, Or.inl ⟨_, rfl⟩⟩
  | startSimulation => exact Or.inr ⟨rfl, Or.inl ⟨_, rfl⟩⟩
  | actorCreateAck => exact Or.inr ⟨rfl, Or.inl ⟨_, rfl⟩⟩
  | actorConnected socket => exact Or.inr ⟨rfl, Or.inl ⟨_, rfl⟩⟩

/-- In the state KILLED the loop ends with the iteration. -/
theorem nextIteration_killed (hkilled : s.serve.serverState = .killed) :
    s.nextIteration = { s with point := .closing false s.serve.returnCode } := by
  unfold Loop.nextIteration
  rw [if_pos (Or.inr hkilled)]

theorem afterMessage_serve (s : Loop) (msg : InterthreadMessage) :
    (s.afterMessage msg).serve = s.serve := by
  cases msg <;> rfl

theorem Loop.PassPoint.ongoing {rest : List Socket} {point : LoopPoint} (h : s.PassPoint rest point) :
    (∀ e, point ≠ .raised e) ∧ point ≠ .select ∧ ∀ result, point ≠ .left result := by
  cases h with
  | reads _ _ _ hpoint => rcases hpoint with rfl | rfl <;> exact ⟨nofun, nofun, nofun⟩
  | skipped => exact ⟨nofun, nofun, nofun⟩
  | dropped _ _ hpoint => cases hpoint <;> exact ⟨nofun, nofun, nofun⟩

theorem closeSockets_handled (abortive : Bool) (code : Nat) (failing : Finset Socket)
    (sockets : List Socket) (s : Loop) {socket : Socket} {command : Command} :
    .handled socket command ∉ (Loop.closeSockets abortive code failing sockets s).2 := by
  induction sockets generalizing s with
  | nil => simp [Loop.closeSockets]
  | cons x rest ih =>
      unfold Loop.closeSockets
      split
      · simp
      · have hrest := ih (s.deleteSocket x)
        simpa using hrest

/-- Only a KILL leads to the state KILLED. -/
theorem Serve.handleCommand_enters {s t : Serve} {command : Command} {socket : Socket}
    {out : List ServeOutput} {drop : Bool} (hok : s.handleCommand command socket = .ok (t, out, drop))
    (hbefore : s.serverState ≠ .killed) (hafter : t.serverState = .killed) :
    ∃ reason, command = .kill reason := by
  cases command with
  | kill reason => exact ⟨reason, rfl⟩
  | status _ =>
      cases hok
      exact (hbefore hafter).elim
  | typeNotSet => cases hok
  | addActor addActor =>
      simp only [Serve.handleCommand, rsgEnforce_eq_ok] at hok
      obtain ⟨-, hok⟩ := hok
      split at hok <;> cases hok <;> exact (hbefore hafter).elim
  | start _ =>
      simp only [Serve.handleCommand, rsgEnforce_eq_ok] at hok
      obtain ⟨-, hok⟩ := hok
      split at hok <;> cases hok <;> cases hafter
  | connect actor =>
      simp only [Serve.handleCommand, rsgEnforce_eq_ok] at hok
      obtain ⟨-, hok⟩ := hok
      rw [if_pos hbefore] at hok
      split at hok
      · cases hok
      · rw [rsgEnforce_eq_ok] at hok
        obtain ⟨-, hok⟩ := hok
        split at hok
        · split at hok <;> cases hok
          exact (hbefore hafter).elim
        · split at hok <;> cases hok
          · cases hafter
          · exact (hbefore hafter).elim

/-- A step that handles a KILL leads to the state KILLED. -/
theorem handled_kill (hstep : LoopStep format s event t out) {socket : Socket} {reason : String}
    (hmem : .handled socket (.kill reason) ∈ out) : t.serve.serverState = .killed := by
  have hnone : ∀ {out' : List ServeOutput}, .handled socket (.kill reason) ∉ out'.map LoopOutput.wrote :=
    fun h => by simp at h
  cases hstep with
  | refused socket' _ _ _ command e _ _ he =>
      rw [List.mem_singleton] at hmem
      cases hmem
      cases he
  | droppedClient socket' _ _ _ command serve out' u _ _ _ hok hu =>
      subst hu
      rcases List.mem_cons.mp hmem with hmem | hmem
      · cases hmem
        cases hok
        rfl
      · exact (hnone hmem).elim
  | connected socket' _ _ _ command serve out' _ _ hok =>
      rcases List.mem_cons.mp hmem with hmem | hmem
      · cases hmem
        cases hok
      · exact (hnone hmem).elim
  | unanswered socket' _ _ _ _ command serve out' _ _ _ _ hok =>
      rcases List.mem_cons.mp hmem with hmem | hmem
      · cases hmem
        cases hok
        rfl
      · exact (hnone hmem).elim
  | message => exact (hnone hmem).elim
  | droppedClosed | droppedFailed => simp at hmem
  | closed abortive code order failing => exact (closeSockets_handled _ _ _ _ _ hmem).elim
  | _ => cases hmem

/-- The closing of sockets one of which fails to shut down. -/
theorem closeSockets_fails (abortive : Bool) (code : Nat) {failing : Finset Socket}
    {sockets : List Socket} (hnodup : sockets.Nodup) (hfailing : s.shutsDown failing sockets ≠ true) :
    ∃ e, (Loop.closeSockets abortive code failing sockets s).1.point = .left (.error e) := by
  induction sockets generalizing s with
  | nil => exact absurd rfl hfailing
  | cons socket rest ih =>
      obtain ⟨hnot, hnodup⟩ := List.nodup_cons.mp hnodup
      unfold Loop.closeSockets
      split
      · exact ⟨_, rfl⟩
      · rename_i hshut
        refine ih hnodup fun hrest => hfailing (Loop.shutsDown_cons.mpr ⟨?_, ?_⟩)
        · by_contra hbad
          rw [not_or, not_not] at hbad
          exact hshut hbad
        · unfold Loop.shutsDown at hrest ⊢
          rw [List.all_eq_true] at hrest ⊢
          intro x hx
          have hne : x ≠ socket := by
            rintro rfl
            exact hnot hx
          have hx' := hrest x hx
          rw [Loop.fd_deleteSocket, if_neg hne] at hx'
          exact hx'

theorem closing_sockets (hs : SocketInv s) {order : List Socket}
    (horder : order.toFinset = s.serve.barelyConnectedSockets) :
    (order ++ s.serve.droppedSockets ++ s.actorSockets).toFinset =
      s.serve.barelyConnectedSockets ∪ s.serve.droppedSockets.toFinset := by
  rw [hs.actorSockets, List.append_nil, List.toFinset_append, horder]

theorem keepsKilled_close {abortive : Bool} {code : Nat} {order : List Socket}
    {failing : Finset Socket} (hpoint : s.point = .closing abortive code)
    (hkilled : s.serve.serverState = .killed) :
    LoopEvent.keepsKilled format s (.close order failing) = true ↔
      s.shutsDown failing (order ++ s.serve.droppedSockets ++ s.actorSockets) = true ∧
        s.serve.sockets ⊆ s.serve.barelyConnectedSockets ∪ s.serve.droppedSockets.toFinset := by
  unfold LoopEvent.keepsKilled
  rw [hpoint, hkilled]
  simp

theorem keepsKilled_message {msg : InterthreadMessage} (hpoint : s.point = .message)
    (hkilled : s.serve.serverState = .killed) :
    LoopEvent.keepsKilled format s (.message (some msg)) = s.serve.admitsMessage msg := by
  unfold LoopEvent.keepsKilled
  rw [hpoint, hkilled]
  simp

/-- In the state KILLED the points of a step. -/
theorem EndInv.killed_at (h : EndInv s) (hkilled : s.serve.serverState = .killed) {point : LoopPoint}
    (hpoint : s.point = point) : KilledPoint { s with point := point } := by
  subst hpoint
  exact h.killed hkilled

/-- The command thread has left `serve`. -/
def LoopPoint.over : LoopPoint → Bool
  | .left _ | .raised _ => true
  | _ => false

/-- Then only an actor still closes its socket. -/
theorem LoopStep.actor_of_over (hstep : LoopStep format s event t out) (hover : s.point.over = true) :
    ∃ socket, event = .actorCloses socket ∧ t = s.closeObject socket := by
  have hat : ∀ {point : LoopPoint}, s.point = point → point.over = false → False := by
    intro point heq hnot
    rw [heq, hnot] at hover
    cases hover
  have hreading : ∀ {socket rest}, ¬s.Reading socket rest := fun hread =>
    hread.elim (fun heq => hat heq rfl) (fun heq => hat heq rfl)
  cases hstep with
  | actorClosed socket => exact ⟨socket, rfl, rfl⟩
  | readMore _ _ _ _ _ hread => exact (hreading hread).elim
  | readFailed _ _ _ _ _ _ _ hread => exact (hreading hread).elim
  | refused _ _ _ _ _ _ hread => exact (hreading hread).elim
  | droppedClient _ _ _ _ _ _ _ _ _ hread => exact (hreading hread).elim
  | connected _ _ _ _ _ _ _ hread => exact (hreading hread).elim
  | unanswered _ _ _ _ _ _ _ _ _ _ heq => exact (hat heq rfl).elim
  | selectFailed _ _ _ heq => exact (hat heq rfl).elim
  | selected _ _ _ _ heq => exact (hat heq rfl).elim
  | accepted _ _ heq => exact (hat heq rfl).elim
  | unregistered _ _ _ _ heq => exact (hat heq rfl).elim
  | droppedData _ _ _ _ _ heq => exact (hat heq rfl).elim
  | droppedClosed _ _ _ _ heq => exact (hat heq rfl).elim
  | droppedFailed _ _ _ _ _ heq => exact (hat heq rfl).elim
  | noMessage heq => exact (hat heq rfl).elim
  | messageFailed _ _ heq => exact (hat heq rfl).elim
  | message _ _ _ heq => exact (hat heq rfl).elim
  | closed _ _ _ _ heq => exact (hat heq rfl).elim

theorem keepsKilled_actorCloses {socket : Socket} :
    LoopEvent.keepsKilled format s (.actorCloses socket) = true := by
  unfold LoopEvent.keepsKilled
  cases s.point <;> simp

/-- A step of the state KILLED that meets the guard. -/
theorem StaysKilled.of_step (h : EndInv s) (hs : SocketInv s) (hkilled : s.serve.serverState = .killed)
    (hgoes : (∀ result, s.point ≠ .left result) ∧ ∀ e, s.point ≠ .raised e)
    (hkeeps : event.keepsKilled format s = true) (hstep : LoopStep format s event t out) :
    StaysKilled t s out := by
  have hwrote : ∀ {socket command} {out' : List ServeOutput},
      .handled socket command ∉ out'.map LoopOutput.wrote := fun h => by simp at h
  cases hstep with
  | selectFailed _ _ _ hpoint => exact (h.killed_at hkilled hpoint).elim
  | selected _ _ _ _ hpoint => exact (h.killed_at hkilled hpoint).elim
  | accepted _ _ hpoint => exact (h.killed_at hkilled hpoint).elim
  | unregistered _ _ _ _ hpoint => exact (h.killed_at hkilled hpoint).elim
  | droppedData _ _ _ _ _ hpoint => exact (h.killed_at hkilled hpoint).elim
  | droppedClosed _ _ _ _ hpoint => exact (h.killed_at hkilled hpoint).elim
  | droppedFailed _ _ _ _ _ hpoint => exact (h.killed_at hkilled hpoint).elim
  | readMore socket rest outcome info point hread _ hnext =>
      have hpoint : (∀ e, point ≠ .raised e) ∧ point ≠ .select ∧ ∀ result, point ≠ .left result := by
        rcases hnext with rfl | rfl <;> exact ⟨nofun, nofun, nofun⟩
      exact
        { state := hkilled
          threads := rfl
          goes := hpoint.1
          ends := hpoint.2.1
          answers := fun _ _ hmem => by cases hmem
          returns := fun result hleft => (hpoint.2.2 result hleft).elim }
  | readFailed socket rest outcome infos u v e hread hbrings =>
      rw [keepsKilled_recv hread hkilled, hbrings] at hkeeps
      cases hkeeps
  | refused socket rest outcome info command e hread hbrings he =>
      rw [keepsKilled_recv hread hkilled, hbrings] at hkeeps
      rcases Serve.handleCommand_killed hkilled command socket with ⟨-, ack, hok, -⟩ | ⟨hnot, -⟩
      · rw [he] at hok
        cases hok
      · have hadmitted : Command.admitted command = true := hkeeps
        rw [hnot] at hadmitted
        cases hadmitted
  | droppedClient socket rest outcome info command serve out' u point hread hbrings hok hu hpass =>
      rcases Serve.handleCommand_killed hkilled command socket with ⟨-, ack, hok', hack⟩ | ⟨-, e, he⟩
      · rw [hok] at hok'
        cases hok'
        subst hu
        obtain ⟨hraised, hselect, hleft⟩ := hpass.ongoing
        exact
          { state := hkilled
            threads := rfl
            goes := hraised
            ends := hselect
            answers := fun socket' command' hmem => by
              rcases List.mem_cons.mp hmem with hmem | hmem
              · cases hmem
                exact ⟨ack, rfl, hack⟩
              · exact (hwrote hmem).elim
            returns := fun result h => (hleft result h).elim }
      · rw [hok] at he
        cases he
  | connected socket rest outcome info command serve out' hread hbrings hok =>
      rcases Serve.handleCommand_killed hkilled command socket with ⟨-, ack, hok', -⟩ | ⟨-, e, he⟩
      · rw [hok] at hok'
        cases hok'
      · rw [hok] at he
        cases he
  | unanswered => exact absurd hkilled (keepsKilled_unanswered.mp hkeeps).1
  | noMessage =>
      rw [nextIteration_killed hkilled]
      exact
        { state := hkilled
          threads := rfl
          goes := nofun
          ends := nofun
          answers := fun _ _ hmem => by cases hmem
          returns := nofun }
  | messageFailed msg e hpoint _ _ he =>
      rw [keepsKilled_message hpoint hkilled] at hkeeps
      rcases Serve.handleInterthreadMessage_admitted s.serve msg with
        ⟨-, serve, out', hok, -⟩ | ⟨hnot, -⟩
      · rw [he] at hok
        cases hok
      · rw [hkeeps] at hnot
        cases hnot
  | message msg serve out' hpoint _ _ hok =>
      rw [keepsKilled_message hpoint hkilled] at hkeeps
      rcases Serve.handleInterthreadMessage_admitted s.serve msg with
        ⟨-, serve', out'', hok', hstate, hthreads⟩ | ⟨hnot, -⟩
      · rw [hok] at hok'
        cases hok'
        have hserve : (({ s with serve := serve } : Loop).afterMessage msg).serve = serve :=
          afterMessage_serve _ _
        have hkilled' : (({ s with serve := serve } : Loop).afterMessage msg).serve.serverState =
            .killed := by
          rw [hserve, hstate, hkilled]
        rw [nextIteration_killed hkilled']
        exact
          { state := hkilled'
            threads := by simp only [hserve, hthreads]
            goes := nofun
            ends := nofun
            answers := fun _ _ hmem => (hwrote hmem).elim
            returns := nofun }
      · rw [hkeeps] at hnot
        cases hnot
  | closed abortive code order failing hpoint hnodup horder =>
      obtain ⟨hshut, hsockets⟩ := (keepsKilled_close hpoint hkilled).mp hkeeps
      obtain ⟨hstate, -, hthreads⟩ := closeSockets_frame abortive code failing
        (order ++ s.serve.droppedSockets ++ s.actorSockets) s
      obtain ⟨hleft, hpoint', -⟩ := closeSockets_all abortive code hshut
      have hcode : code = 0 := h.killed_at hkilled hpoint
      rw [closing_sockets hs horder, Finset.sdiff_eq_empty_iff_subset.mpr hsockets] at hleft
      exact
        { state := hstate.trans hkilled
          threads := hthreads
          goes := fun e => by rw [hpoint']; nofun
          ends := by rw [hpoint']; nofun
          answers := fun _ _ hmem => (closeSockets_handled _ _ _ _ _ hmem).elim
          returns := fun result hresult => by
            rw [hpoint', hcode] at hresult
            cases hresult
            exact ⟨rfl, hleft⟩ }
  | actorClosed socket =>
      have hselect : s.point ≠ .select := fun hpoint => h.killed_at hkilled hpoint
      exact
        { state := hkilled
          threads := rfl
          goes := hgoes.2
          ends := hselect
          answers := fun _ _ hmem => by cases hmem
          returns := fun result hleft => (hgoes.1 result hleft).elim }

/-- A step of the state KILLED that does not meet the guard. -/
theorem StaysKilled.keepsKilled (h : EndInv s) (hs : SocketInv s)
    (hkilled : s.serve.serverState = .killed) (hstep : LoopStep format s event t out)
    (hstays : StaysKilled t s out) : event.keepsKilled format s = true := by
  cases hstep with
  | selectFailed _ _ _ hpoint => exact (h.killed_at hkilled hpoint).elim
  | selected _ _ _ _ hpoint => exact (h.killed_at hkilled hpoint).elim
  | accepted _ _ hpoint => exact (h.killed_at hkilled hpoint).elim
  | unregistered _ _ _ _ hpoint => exact (h.killed_at hkilled hpoint).elim
  | droppedData _ _ _ _ _ hpoint => exact (h.killed_at hkilled hpoint).elim
  | droppedClosed _ _ _ _ hpoint => exact (h.killed_at hkilled hpoint).elim
  | droppedFailed _ _ _ _ _ hpoint => exact (h.killed_at hkilled hpoint).elim
  | readMore socket rest outcome info point hread hbrings =>
      rw [keepsKilled_recv hread hkilled, hbrings]
  | readFailed => exact (hstays.goes _ rfl).elim
  | refused => exact (hstays.goes _ rfl).elim
  | unanswered => exact (hstays.goes _ rfl).elim
  | droppedClient socket rest outcome info command serve out' u point hread hbrings hok =>
      rw [keepsKilled_recv hread hkilled, hbrings]
      rcases Serve.handleCommand_killed hkilled command socket with ⟨hadmitted, -⟩ | ⟨-, e, he⟩
      · exact hadmitted
      · rw [hok] at he
        cases he
  | connected socket rest outcome info command serve out' hread hbrings hok =>
      rw [keepsKilled_recv hread hkilled, hbrings]
      rcases Serve.handleCommand_killed hkilled command socket with ⟨hadmitted, -⟩ | ⟨-, e, he⟩
      · exact hadmitted
      · rw [hok] at he
        cases he
  | noMessage hpoint =>
      unfold LoopEvent.keepsKilled
      rw [hpoint]
      simp
  | messageFailed => exact (hstays.goes _ rfl).elim
  | message msg serve out' hpoint _ _ hok =>
      rw [keepsKilled_message hpoint hkilled]
      rcases Serve.handleInterthreadMessage_admitted s.serve msg with
        ⟨hadmits, -⟩ | ⟨-, ⟨e, he⟩ | ⟨serve', out'', hok', hfinished⟩⟩
      · exact hadmits
      · rw [hok] at he
        cases he
      · rw [hok] at hok'
        cases hok'
        have hstate : (({ s with serve := serve } : Loop).afterMessage msg).nextIteration.serve.serverState
            = serve.serverState := by
          unfold Loop.nextIteration
          split <;> simp only [afterMessage_serve]
        rw [hstays.state, hfinished] at hstate
        cases hstate
  | closed abortive code order failing hpoint hnodup horder =>
      obtain ⟨hall, -⟩ := hs.closingOrder hnodup horder
      have hshut : s.shutsDown failing (order ++ s.serve.droppedSockets ++ s.actorSockets) = true := by
        by_contra hbad
        obtain ⟨e, hleft⟩ := closeSockets_fails abortive code hall hbad
        cases (hstays.returns _ hleft).1
      obtain ⟨hsockets, hleft, -⟩ := closeSockets_all abortive code hshut
      refine (keepsKilled_close hpoint hkilled).mpr ⟨hshut, ?_⟩
      rw [← closing_sockets hs horder, ← Finset.sdiff_eq_empty_iff_subset, ← hsockets]
      exact (hstays.returns _ hleft).2
  | actorClosed => exact keepsKilled_actorCloses

/-- Outside of the state KILLED only a KILL without acknowledgment is not admitted. -/
theorem keepsKilled_before (hbefore : s.serve.serverState ≠ .killed) :
    event.keepsKilled format s = true ↔ event.unansweredKill format s = false := by
  cases event with
  | unanswered bytes errno =>
      rw [keepsKilled_unanswered]
      exact ⟨fun h => h.2, fun h => ⟨hbefore, h⟩⟩
  | _ => simp [LoopEvent.keepsKilled, LoopEvent.unansweredKill, hbefore]

/-- A KILL is handled without an error just if its acknowledgment is written. -/
theorem killed_goes (hstep : LoopStep format s event t out) :
    (∀ socket reason, .handled socket (.kill reason) ∈ out → ∀ e, t.point ≠ .raised e) ↔
      event.unansweredKill format s = false := by
  constructor
  · intro hgoes
    by_contra hbad
    cases event with
    | unanswered bytes errno =>
        cases hstep with
        | unanswered socket rest _ _ info command serve out' dropClient e _ hbrings hok =>
            simp only [LoopEvent.unansweredKill, hbrings] at hbad
            cases command with
            | kill reason => exact hgoes socket reason List.mem_cons_self e rfl
            | _ => exact hbad rfl
    | _ => exact hbad rfl
  · intro hanswered socket reason hmem e hraised
    have hnone : ∀ {out' : List ServeOutput},
        .handled socket (.kill reason) ∉ out'.map LoopOutput.wrote := fun h => by simp at h
    cases hstep with
    | refused socket' _ _ _ command e' _ _ he =>
        rw [List.mem_singleton] at hmem
        cases hmem
        cases he
    | unanswered socket' rest bytes errno info command serve out' dropClient e' _ hbrings =>
        rcases List.mem_cons.mp hmem with hmem | hmem
        · cases hmem
          simp only [LoopEvent.unansweredKill, hbrings] at hanswered
          cases hanswered
        · exact (hnone hmem).elim
    | droppedClient _ _ _ _ _ _ _ _ _ _ _ _ _ hpass => exact hpass.ongoing.1 e hraised
    | connected => cases hraised
    | message => exact (hnone hmem).elim
    | droppedClosed | droppedFailed => simp at hmem
    | closed => exact (closeSockets_handled _ _ _ _ _ hmem).elim
    | _ => cases hmem

/-- A step is as it should be around a KILL just if it meets the guard. -/
theorem killLasts_iff (h : EndInv s) (hs : SocketInv s) (hstep : LoopStep format s event t out) :
    KillLasts s event t out ↔ event.keepsKilled format s = true := by
  constructor
  · rintro ⟨hkill, hstays⟩
    by_cases hkilled : s.serve.serverState = .killed
    · by_cases hover : s.point.over = true
      · obtain ⟨socket, rfl, -⟩ := hstep.actor_of_over hover
        exact keepsKilled_actorCloses
      · have hstays := hstays hkilled (fun result heq => hover (by rw [heq]; rfl))
          (fun e heq => hover (by rw [heq]; rfl))
        exact hstays.keepsKilled h hs hkilled hstep
    · rw [keepsKilled_before hkilled, ← killed_goes hstep]
      exact fun socket reason hmem => (hkill socket reason hmem).2
  · intro hkeeps
    have hanswered : event.unansweredKill format s = false := by
      by_cases hkilled : s.serve.serverState = .killed
      · cases event with
        | unanswered bytes errno => exact (keepsKilled_unanswered.mp hkeeps).2
        | _ => rfl
      · exact (keepsKilled_before hkilled).mp hkeeps
    refine ⟨fun socket reason hmem =>
      ⟨handled_kill hstep hmem, (killed_goes hstep).mpr hanswered socket reason hmem⟩, ?_⟩
    intro hkilled hleft hraised
    exact StaysKilled.of_step h hs hkilled ⟨hleft, hraised⟩ hkeeps hstep

end

/-! ### The return from `serve` -/

/-- The content of a command is read after its header. -/
def HeaderInv (s : Loop) : Prop :=
  ∀ socket rest, s.point = .content socket rest → 4 ≤ (s.infos socket).header.length

/-- A bound on the bytes that the pass may still read, and on its commands. -/
def Loop.pending (format : CommandFormat) (s : Loop) (sockets : List Socket) : Nat :=
  (sockets.map fun x => (s.infos x).missing format.endianness + 1).sum

/-- The sockets that actors may still close. -/
def Loop.openActors (s : Loop) : Finset Socket := s.actors.filter fun x => s.fd x ≠ -1

/-- A bound on the steps up to the return from `serve` in the state KILLED. -/
def Loop.toGo (format : CommandFormat) (s : Loop) : Nat :=
  (match s.point with
    | .header socket rest | .content socket rest => s.pending format (socket :: rest) + 2
    | .message => 2
    | .closing _ _ => 1
    | _ => 0) + s.openActors.card

section

variable {format : CommandFormat} {s t : Loop} {event : LoopEvent} {out : List LoopOutput}

theorem Loop.PassPoint.headerInv {rest : List Socket} {point : LoopPoint} (h : s.PassPoint rest point) :
    HeaderInv { s with point := point } := by
  intro socket' rest' heq
  cases h with
  | reads socket after _ hpoint _ _ hheader =>
      rcases hpoint with rfl | rfl
      · cases heq
      · cases heq
        exact hheader rfl
  | skipped => cases heq
  | dropped _ _ hpoint => cases hpoint <;> cases heq

theorem HeaderInv.step (h : HeaderInv s) (hstep : LoopStep format s event t out) : HeaderInv t := by
  cases hstep with
  | selected readable order u point _ _ _ _ _ _ hpass =>
      rcases hpass with rfl | rfl | rfl | hpass
      · exact nofun
      · exact nofun
      · exact nofun
      · exact hpass.headerInv
  | readMore socket rest outcome info point _ _ hnext hheader =>
      intro socket' rest' heq
      have heq : point = .content socket' rest' := heq
      show 4 ≤ (Function.update s.infos socket info socket').header.length
      rcases hnext with rfl | rfl
      · cases heq
      · cases heq
        rw [Function.update_self]
        exact hheader rfl
  | droppedClient _ _ _ _ _ _ _ _ _ _ _ _ _ hpass => exact hpass.headerInv
  | unregistered _ _ _ _ _ _ hpass => exact hpass.headerInv
  | droppedData _ _ _ _ _ _ _ hpass =>
      intro socket rest heq
      cases hpass <;> cases heq
  | droppedClosed _ _ _ _ _ _ hpass =>
      intro socket rest heq
      cases hpass <;> cases heq
  | droppedFailed _ _ _ _ _ _ _ hpass =>
      intro socket rest heq
      cases hpass <;> cases heq
  | noMessage =>
      unfold Loop.nextIteration
      split <;> exact nofun
  | message =>
      unfold Loop.nextIteration
      split <;> exact nofun
  | closed abortive code order failing =>
      intro socket rest heq
      obtain ⟨result, hleft⟩ := closeSockets_left abortive code failing
        (order ++ s.serve.droppedSockets ++ s.actorSockets) s
      rw [hleft] at heq
      cases heq
  | actorClosed => exact h
  | selectFailed | accepted | readFailed | refused | unanswered | connected | messageFailed =>
      exact nofun

theorem pending_suffix (format : CommandFormat) {sockets rest : List Socket} (h : sockets <:+ rest) :
    s.pending format sockets ≤ s.pending format rest := by
  obtain ⟨before, rfl⟩ := h
  unfold Loop.pending
  rw [List.map_append, List.sum_append]
  omega

theorem pending_cons (socket : Socket) (rest : List Socket) :
    s.pending format (socket :: rest) =
      (s.infos socket).missing format.endianness + 1 + s.pending format rest := by
  unfold Loop.pending
  rw [List.map_cons, List.sum_cons]

/-- What is known of the other sockets of the pass is kept. -/
theorem pending_congr (format : CommandFormat) {sockets : List Socket}
    (h : ∀ x ∈ sockets, t.infos x = s.infos x) :
    t.pending format sockets = s.pending format sockets := by
  unfold Loop.pending
  congr 1
  exact List.map_congr_left fun x hx => by rw [h x hx]

theorem Loop.Reading.toGo {socket : Socket} {rest : List Socket} (h : s.Reading socket rest) :
    s.toGo format = s.pending format (socket :: rest) + 2 + s.openActors.card := by
  unfold Loop.toGo
  rcases h with h | h <;> rw [h]

theorem Loop.PassPoint.toGo_le (format : CommandFormat) {rest : List Socket} {point : LoopPoint}
    (h : s.PassPoint rest point) (hdropped : s.clientDropped = true) :
    ({ s with point := point } : Loop).toGo format ≤ s.pending format rest + 2 + s.openActors.card := by
  cases h with
  | reads socket after _ hpoint hsuffix =>
      have hle := pending_suffix (s := s) format hsuffix
      rcases hpoint with rfl | rfl
      · show s.pending format (socket :: after) + 2 + s.openActors.card ≤ _
        omega
      · show s.pending format (socket :: after) + 2 + s.openActors.card ≤ _
        omega
  | skipped =>
      show 2 + s.openActors.card ≤ _
      omega
  | dropped _ hnot => rw [hdropped] at hnot; cases hnot

theorem closeSockets_openActors (abortive : Bool) (code : Nat) (failing : Finset Socket)
    (sockets : List Socket) (s : Loop) :
    (Loop.closeSockets abortive code failing sockets s).1.openActors ⊆ s.openActors := by
  refine closeSockets_keeps (P := fun t => t.openActors ⊆ s.openActors) (Finset.Subset.refl _) ?_
    (fun _ _ h => h) _ _ _ _
  intro t socket h
  refine Finset.Subset.trans ?_ h
  intro x hx
  obtain ⟨hactor, hopen⟩ := Finset.mem_filter.mp hx
  refine Finset.mem_filter.mpr ⟨hactor, fun hclosed => hopen ?_⟩
  rw [Loop.fd_deleteSocket, hclosed]
  split <;> rfl

/-- Every step of the state KILLED that meets the guard brings the return nearer. -/
theorem toGo_step (h : EndInv s) (hpoint : PointInv s) (hheader : HeaderInv s)
    (hkilled : s.serve.serverState = .killed) (hkeeps : event.keepsKilled format s = true)
    (hstep : LoopStep format s event t out) : t.toGo format < s.toGo format := by
  have hnotMem : ∀ {socket rest}, s.Reading socket rest → socket ∉ rest := by
    intro socket rest hread
    unfold PointInv at hpoint
    rcases hread with heq | heq <;> rw [heq] at hpoint <;> exact (List.nodup_cons.mp hpoint.1).1
  have hother : ∀ {socket rest} {info : BarelyConnectedSocketInformation}, s.Reading socket rest →
      ∀ x ∈ rest, Function.update s.infos socket info x = s.infos x := by
    intro socket rest info hread x hx
    refine Function.update_of_ne ?_ _ _
    rintro rfl
    exact hnotMem hread hx
  cases hstep with
  | selectFailed _ _ _ hpoint => exact (h.killed_at hkilled hpoint).elim
  | selected _ _ _ _ hpoint => exact (h.killed_at hkilled hpoint).elim
  | accepted _ _ hpoint => exact (h.killed_at hkilled hpoint).elim
  | unregistered _ _ _ _ hpoint => exact (h.killed_at hkilled hpoint).elim
  | droppedData _ _ _ _ _ hpoint => exact (h.killed_at hkilled hpoint).elim
  | droppedClosed _ _ _ _ hpoint => exact (h.killed_at hkilled hpoint).elim
  | droppedFailed _ _ _ _ _ hpoint => exact (h.killed_at hkilled hpoint).elim
  | readMore socket rest outcome info point hread _ hnext _ hmissing =>
      have hless := hmissing (hheader socket rest)
      have hnext : ({ s.noted socket info with point := point } : Loop).Reading socket rest := hnext
      have hrest := pending_congr (s := s) (t := { s.noted socket info with point := point })
        format (hother hread)
      have hinfo : (Function.update s.infos socket info socket).missing format.endianness =
          info.missing format.endianness := by
        rw [Function.update_self]
      rw [hnext.toGo, hread.toGo, pending_cons, pending_cons, hrest]
      show (Function.update s.infos socket info socket).missing format.endianness + 1 +
        s.pending format rest + 2 + s.openActors.card < _
      omega
  | readFailed socket rest outcome infos u v e hread hbrings =>
      rw [keepsKilled_recv hread hkilled, hbrings] at hkeeps
      cases hkeeps
  | refused socket rest outcome info command e hread hbrings he =>
      rw [keepsKilled_recv hread hkilled, hbrings] at hkeeps
      rcases Serve.handleCommand_killed hkilled command socket with ⟨-, ack, hok, -⟩ | ⟨hnot, -⟩
      · rw [he] at hok
        cases hok
      · have hadmitted : Command.admitted command = true := hkeeps
        rw [hnot] at hadmitted
        cases hadmitted
  | droppedClient socket rest outcome info command serve out' u point hread _ _ hu hpass =>
      subst hu
      have hrest := pending_congr (s := s) (t := { s.noted socket info with
        serve := serve.afterCommand socket true, clientDropped := true }) format (hother hread)
      have hle := hpass.toGo_le format rfl
      rw [hrest] at hle
      rw [hread.toGo, pending_cons]
      have hactors : ({ s.noted socket info with
        serve := serve.afterCommand socket true, clientDropped := true } : Loop).openActors.card =
          s.openActors.card := rfl
      omega
  | connected socket rest outcome info command serve out' _ _ hok =>
      rcases Serve.handleCommand_killed hkilled command socket with ⟨-, ack, hok', -⟩ | ⟨-, e, he⟩
      · rw [hok] at hok'
        cases hok'
      · rw [hok] at he
        cases he
  | unanswered => exact absurd hkilled (keepsKilled_unanswered.mp hkeeps).1
  | noMessage hpoint =>
      rw [nextIteration_killed hkilled]
      unfold Loop.toGo
      rw [hpoint]
      show 1 + s.openActors.card < 2 + s.openActors.card
      omega
  | messageFailed msg e hpoint _ _ he =>
      rw [keepsKilled_message hpoint hkilled] at hkeeps
      rcases Serve.handleInterthreadMessage_admitted s.serve msg with
        ⟨-, serve, out', hok, -⟩ | ⟨hnot, -⟩
      · rw [he] at hok
        cases hok
      · rw [hkeeps] at hnot
        cases hnot
  | message msg serve out' hpoint _ _ hok =>
      have hactors : (({ s with serve := serve } : Loop).afterMessage msg).openActors ⊆
          s.openActors := by
        cases msg with
        | actorQuit socket => exact Finset.filter_subset_filter _ (Finset.erase_subset _ _)
        | _ => exact Finset.Subset.refl _
      have hcard := Finset.card_le_card hactors
      have hnext : ∃ u : Loop, (({ s with serve := serve } : Loop).afterMessage msg).nextIteration = u ∧
          (u.point = .select ∨ ∃ code, u.point = .closing false code) ∧
          u.openActors = (({ s with serve := serve } : Loop).afterMessage msg).openActors := by
        refine ⟨_, rfl, ?_⟩
        unfold Loop.nextIteration
        split
        · exact ⟨Or.inr ⟨_, rfl⟩, rfl⟩
        · exact ⟨Or.inl rfl, rfl⟩
      obtain ⟨u, hu, hpoint', hsame⟩ := hnext
      rw [hu]
      unfold Loop.toGo
      rw [hpoint, hsame]
      rcases hpoint' with hpoint' | ⟨code, hpoint'⟩ <;> rw [hpoint']
      · show 0 + _ < 2 + s.openActors.card
        omega
      · show 1 + _ < 2 + s.openActors.card
        omega
  | closed abortive code order failing hpoint =>
      obtain ⟨result, hleft⟩ := closeSockets_left abortive code failing
        (order ++ s.serve.droppedSockets ++ s.actorSockets) s
      have hcard := Finset.card_le_card (closeSockets_openActors abortive code failing
        (order ++ s.serve.droppedSockets ++ s.actorSockets) s)
      unfold Loop.toGo
      rw [hpoint, hleft]
      show 0 + _ < 1 + s.openActors.card
      omega
  | actorClosed socket hactor hopen =>
      have hcard : (s.closeObject socket).openActors.card < s.openActors.card := by
        refine Finset.card_lt_card ⟨?_, ?_⟩
        · intro x hx
          obtain ⟨hx, hfd⟩ := Finset.mem_filter.mp hx
          refine Finset.mem_filter.mpr ⟨hx, fun hclosed => hfd ?_⟩
          rw [Loop.fd_closeObject, hclosed]
          split <;> rfl
        · intro hsubset
          have hmem := hsubset (Finset.mem_filter.mpr ⟨hactor, hopen⟩)
          refine (Finset.mem_filter.mp hmem).2 ?_
          rw [Loop.fd_closeObject, if_pos rfl]
      unfold Loop.toGo
      show _ + (s.closeObject socket).openActors.card < _ + s.openActors.card
      exact Nat.add_lt_add_left hcard _

/-- A step into the state KILLED whose acknowledgment is written does not leave the loop. -/
theorem killed_entered (hstep : LoopStep format s event t out)
    (hkeeps : event.keepsKilled format s = true) (hbefore : s.serve.serverState ≠ .killed)
    (hkilled : t.serve.serverState = .killed) :
    (∀ e, t.point ≠ .raised e) ∧ ∀ result, t.point ≠ .left result := by
  have hnext : ∀ {u : Loop}, u.serve.serverState = .killed → (∀ e, u.nextIteration.point ≠ .raised e) ∧
      ∀ result, u.nextIteration.point ≠ .left result := by
    intro u hu
    rw [nextIteration_killed hu]
    exact ⟨nofun, nofun⟩
  have hsame : ∀ {u : Loop}, u.nextIteration.serve.serverState = u.serve.serverState := by
    intro u
    unfold Loop.nextIteration
    split <;> rfl
  cases hstep with
  | droppedClient _ _ _ _ _ _ _ _ _ _ _ _ _ hpass => exact ⟨hpass.ongoing.1, hpass.ongoing.2.2⟩
  | unanswered socket rest bytes errno info command serve out' dropClient e _ hbrings hok =>
      obtain ⟨reason, rfl⟩ := Serve.handleCommand_enters hok hbefore hkilled
      have hguard := (keepsKilled_unanswered.mp hkeeps).2
      simp only [LoopEvent.unansweredKill, hbrings] at hguard
      cases hguard
  | connected => exact ⟨nofun, nofun⟩
  | noMessage =>
      rw [hsame] at hkilled
      exact (hbefore hkilled).elim
  | message => exact hnext (hsame.symm.trans hkilled)
  | closed abortive code order failing =>
      obtain ⟨hstate, -⟩ := closeSockets_frame abortive code failing
        (order ++ s.serve.droppedSockets ++ s.actorSockets) s
      exact (hbefore (hstate.symm.trans hkilled)).elim
  | selected _ _ _ _ _ _ _ _ _ hu => subst hu; exact (hbefore hkilled).elim
  | readFailed _ _ _ _ _ _ _ _ _ hv hu =>
      subst hv
      rcases hu with rfl | rfl <;> exact (hbefore hkilled).elim
  | unregistered _ _ _ _ _ hu => subst hu; exact (hbefore hkilled).elim
  | droppedData _ _ _ _ _ _ hu => subst hu; exact (hbefore hkilled).elim
  | droppedClosed _ _ _ _ _ hu => subst hu; exact (hbefore hkilled).elim
  | droppedFailed _ _ _ _ _ _ hu => subst hu; exact (hbefore hkilled).elim
  | selectFailed | accepted | readMore | refused | messageFailed | actorClosed =>
      exact (hbefore hkilled).elim

/-- What the guard gives in the state KILLED, up to the return. -/
structure KilledInv (s : Loop) : Prop where
  ends : EndInv s
  sockets : SocketInv s
  point : PointInv s
  header : HeaderInv s
  goes : s.serve.serverState = .killed → ∀ e, s.point ≠ .raised e
  returns : s.serve.serverState = .killed → ∀ result, s.point = .left result →
    result = .ok 0 ∧ s.serve.sockets = ∅

theorem KilledInv.step (h : KilledInv s) (hkeeps : event.keepsKilled format s = true)
    (hstep : LoopStep format s event t out) :
    KilledInv t ∧ (s.serve.serverState = .killed → t.serve.serverState = .killed) := by
  obtain ⟨hsockets, hpoint⟩ := h.sockets.step h.point hstep
  have hends := h.ends.step hstep
  have hheader := h.header.step hstep
  by_cases hkilled : s.serve.serverState = .killed
  · by_cases hleft : ∃ result, s.point = .left result
    · obtain ⟨result, hleft⟩ := hleft
      have hsame : t.serve = s.serve ∧ t.point = s.point := by
        obtain ⟨socket, -, rfl⟩ := hstep.actor_of_over (by rw [hleft]; rfl)
        exact ⟨rfl, rfl⟩
      refine ⟨⟨hends, hsockets, hpoint, hheader, ?_, ?_⟩, ?_⟩
      · rw [hsame.1, hsame.2]
        exact h.goes
      · rw [hsame.1, hsame.2]
        exact h.returns
      · rw [hsame.1]
        exact id
    · have hstays := StaysKilled.of_step h.ends h.sockets hkilled
        ⟨fun result heq => hleft ⟨result, heq⟩, h.goes hkilled⟩ hkeeps hstep
      exact ⟨⟨hends, hsockets, hpoint, hheader, fun _ => hstays.goes, fun _ => hstays.returns⟩,
        fun _ => hstays.state⟩
  · refine ⟨⟨hends, hsockets, hpoint, hheader, ?_, ?_⟩, fun h => (hkilled h).elim⟩
    · exact fun hafter => (killed_entered hstep hkeeps hkilled hafter).1
    · intro hafter result heq
      exact ((killed_entered hstep hkeeps hkilled hafter).2 result heq).elim

/-- In the state KILLED nothing but the return stops the command thread. -/
theorem KilledInv.stuck (h : KilledInv s) (hkilled : s.serve.serverState = .killed)
    (hstuck : ∀ event, loopStep format s event = none) :
    s.point = .left (.ok 0) ∧ s.serve.sockets = ∅ := by
  have hpoint := h.ends.killed hkilled
  unfold KilledPoint at hpoint
  split at hpoint
  · rename_i socket rest heq
    have hclosed := hstuck (.recv .closed)
    simp only [loopStep, heq] at hclosed
    cases hclosed
  · rename_i socket rest heq
    have hclosed := hstuck (.recv .closed)
    simp only [loopStep, heq] at hclosed
    cases hclosed
  · rename_i abortive code heq
    have hclose := hstuck (.close s.serve.barelyConnectedSockets.toList ∅)
    simp only [loopStep, heq, Finset.nodup_toList, Finset.toList_toFinset, and_self, if_true]
      at hclose
    cases hclose
  · rename_i heq
    have hmessage := hstuck (.message none)
    simp only [loopStep, heq] at hmessage
    cases hmessage
  · rename_i result heq
    obtain ⟨rfl, hsockets⟩ := h.returns hkilled result heq
    exact ⟨heq, hsockets⟩
  · rename_i e heq
    exact (h.goes hkilled e heq).elim
  · exact hpoint.elim

end

/-! ### Two clients in one pass -/

/-- A format with a `kill`, a `start` and an `addActor`. -/
def killFormat : CommandFormat where
  endianness := .little
  parseFromArray bytes :=
    if bytes = [26, 0] then some (.kill "")
    else if bytes = [16, 1] then some (.start true)
    else if bytes = [10, 0] then some (.addActor {}) else none

/-- Two clients become readable at once; the first sends a KILL, the second the header of a command. -/
def killPassEvents : List LoopEvent :=
  [.select {4} [], .accept 1 5, .message none, .select {4} [1], .accept 2 6, .message none,
    .select {5, 6} [1, 2], .recv (.data [2, 0, 0, 0]), .recv (.data [26, 0]),
    .recv (.data [2, 0, 0, 0])]

end RemoteSimgrid
