import RemoteSimgrid.ServeLoopSockets

/-! How many of the three collections of the main loop of `serve` hold a client socket, and what
`close_open_sockets` does with the sockets it goes through. -/

namespace RemoteSimgrid

open Machine Pb

/-- How often a socket occurs in the collections. -/
def Loop.holders (s : Loop) (socket : Socket) : Nat :=
  (if socket ∈ s.serve.barelyConnectedSockets then 1 else 0) +
    s.serve.droppedSockets.count socket + s.actorSockets.count socket

/-- The CONNECT of an actor, in a state in which `handle_command` leaves the client to it. -/
def Serve.accepts (s : Serve) : Command → Bool
  | .connect actor =>
      match s.actorConnections.find actor.id with
      | none => false
      | some connection =>
          s.serverState ≠ .killed ∧ s.serverState ≠ .simulationFinished ∧ connection.socket = none ∧
            (s.serverState = .simulationRunning → connection.connectAck ≠ none)
  | _ => false

/-- No `::shutdown` of these sockets fails; that of a closed one is not called. -/
def Loop.shutsDown (s : Loop) (failing : Finset Socket) (sockets : List Socket) : Bool :=
  sockets.all fun x => x ∉ failing ∨ s.fd x = -1

/-- No CONNECT is accepted, and `close_open_sockets` fails to shut down none of its sockets. -/
def LoopEvent.keepsSockets (format : CommandFormat) (s : Loop) (event : LoopEvent) : Bool :=
  match event with
  | .recv outcome =>
      match s.brings format outcome with
      | .complete command => !s.serve.accepts command
      | _ => true
  | .close order failing => s.shutsDown failing (order ++ s.serve.droppedSockets ++ s.actorSockets)
  | _ => true

/-- The accepted sockets are those of the loop. -/
structure HeldInv (s : Loop) : Prop where
  clients : ∀ x ∈ s.serve.sockets, x ∈ s.serve.barelyConnectedSockets ∨ x ∈ s.serve.droppedSockets
  actors : s.actors = ∅

section

variable {s t : Loop}

theorem Serve.accepts_of_connected {serve : Serve} {command : Command} {socket : Socket}
    {out : List ServeOutput} {s : Serve}
    (h : s.handleCommand command socket = .ok (serve, out, false)) : s.accepts command = true := by
  unfold Serve.handleCommand at h
  cases command with
  | addActor addActor =>
      simp only [rsgEnforce_eq_ok] at h
      obtain ⟨-, h⟩ := h
      split at h <;> cases h
  | start _ =>
      simp only [rsgEnforce_eq_ok] at h
      obtain ⟨-, h⟩ := h
      split at h <;> cases h
  | kill _ => cases h
  | status _ => cases h
  | typeNotSet => cases h
  | connect actor =>
      simp only [rsgEnforce_eq_ok] at h
      obtain ⟨hstate, h⟩ := h
      have hfinished : s.serverState ≠ .simulationFinished := by
        rintro heq
        rw [heq] at hstate
        simp at hstate
      split at h
      · rename_i hkilled
        split at h
        · cases h
        · rename_i connection hfind
          rw [rsgEnforce_eq_ok] at h
          obtain ⟨hsocket, h⟩ := h
          simp only [Serve.accepts, hfind]
          refine decide_eq_true ⟨hkilled, hfinished, hsocket, ?_⟩
          intro hrunning hnone
          rw [if_pos hrunning, hnone] at h
          cases h
      · cases h

theorem HeldInv.same (h : HeldInv s) (hserve : t.serve = s.serve) (hactors : t.actors = s.actors) :
    HeldInv t where
  clients := by rw [hserve]; exact h.clients
  actors := hactors.trans h.actors

theorem HeldInv.nextIteration (h : HeldInv s) : HeldInv s.nextIteration := by
  unfold Loop.nextIteration
  split
  · exact h.same rfl rfl
  · exact h.same rfl rfl

/-- Deleting a socket takes it out of every collection. -/
theorem HeldInv.deleteSocket (h : HeldInv s) (socket : Socket) : HeldInv (s.deleteSocket socket) where
  clients := by
    intro x hx
    obtain ⟨hne, hx⟩ := Finset.mem_erase.mp hx
    rcases h.clients x hx with hx | hx
    · exact Or.inl (Finset.mem_erase.mpr ⟨hne, hx⟩)
    · exact Or.inr ((List.mem_erase_of_ne hne).mpr hx)
  actors := h.actors

theorem HeldInv.closeSockets (h : HeldInv s) {abortive : Bool} {code : Nat} {failing : Finset Socket}
    {sockets : List Socket} : HeldInv (Loop.closeSockets abortive code failing sockets s).1 :=
  closeSockets_keeps h (fun _ socket hs => hs.deleteSocket socket) (fun _ _ hs => hs.same rfl rfl) _ _ _ _

/-- A step that accepts no CONNECT keeps every socket in a collection of the loop. -/
theorem HeldInv.step {format : CommandFormat} {event : LoopEvent} {out : List LoopOutput}
    (h : HeldInv s) (hkeeps : event.keepsSockets format s = true)
    (hstep : LoopStep format s event t out) : HeldInv t := by
  cases hstep with
  | selectFailed => exact h.same rfl rfl
  | selected readable order u point _ _ _ _ _ hu => exact h.same (by rw [hu]) (by rw [hu])
  | accepted socket fd =>
      refine ⟨?_, h.actors⟩
      intro x hx
      rcases Finset.mem_insert.mp hx with rfl | hx
      · exact Or.inl (Finset.mem_insert_self _ _)
      · rcases h.clients x hx with hx | hx
        · exact Or.inl (Finset.mem_insert_of_mem hx)
        · exact Or.inr hx
  | readMore => exact h.same rfl rfl
  | readFailed socket rest outcome infos u v e _ _ hv hu =>
      subst hv
      rcases hu with rfl | rfl <;> exact h.same rfl rfl
  | refused => exact h.same rfl rfl
  | droppedClient socket rest outcome info command serve out' u point hread _ hok hu =>
      subst hu
      obtain ⟨hbarely, hdropped, hsockets⟩ := Serve.handleCommand_sockets hok
      refine ⟨?_, h.actors⟩
      intro x hx
      show x ∈ serve.barelyConnectedSockets.erase socket ∨ x ∈ serve.droppedSockets ++ [socket]
      rw [hbarely, hdropped]
      by_cases heq : x = socket
      · exact Or.inr (List.mem_append_right _ (List.mem_singleton.mpr heq))
      · have hx : x ∈ serve.sockets := hx
        rcases h.clients x (hsockets ▸ hx) with hx | hx
        · exact Or.inl (Finset.mem_erase.mpr ⟨heq, hx⟩)
        · exact Or.inr (List.mem_append_left _ hx)
  | connected socket rest outcome info command serve out' _ hbrings hok =>
      simp only [LoopEvent.keepsSockets, hbrings, Serve.accepts_of_connected hok, Bool.not_true,
        Bool.false_eq_true] at hkeeps
  | unanswered socket rest bytes errno info command serve out' dropClient e _ _ hok =>
      obtain ⟨hbarely, hdropped, hsockets⟩ := Serve.handleCommand_sockets hok
      refine ⟨?_, h.actors⟩
      show ∀ x ∈ serve.sockets, x ∈ serve.barelyConnectedSockets ∨ x ∈ serve.droppedSockets
      rw [hbarely, hdropped, hsockets]
      exact h.clients
  | unregistered socket rest u point _ hu => exact h.same (by rw [hu]) (by rw [hu])
  | droppedData socket rest bytes u point _ hu => exact h.same (by rw [hu]) (by rw [hu])
  | droppedClosed socket rest u point _ hu =>
      subst hu
      have hclosed : HeldInv (({ s with unread := s.unread.erase (s.fd socket) } : Loop).closeObject
          socket) := h.same rfl rfl
      exact (hclosed.deleteSocket socket).same rfl rfl
  | droppedFailed socket rest errno u point _ hu =>
      subst hu
      exact (h.deleteSocket socket).same rfl rfl
  | noMessage => exact h.nextIteration
  | messageFailed => exact h.same rfl rfl
  | message msg serve out' _ _ hsends hok =>
      obtain ⟨hbarely, hdropped, hsockets⟩ := Serve.handleInterthreadMessage_sockets hok
      have hnext : HeldInv (({ s with serve := serve } : Loop).afterMessage msg) := by
        have hmsg : ∀ socket, msg ≠ .actorQuit socket := by
          rintro socket rfl
          have hactor : socket ∈ s.actors := hsends.1
          rw [h.actors] at hactor
          exact Finset.notMem_empty _ hactor
        rw [Loop.afterMessage_eq hmsg]
        refine ⟨?_, h.actors⟩
        intro x hx
        have hx : x ∈ serve.sockets := hx
        show x ∈ serve.barelyConnectedSockets ∨ x ∈ serve.droppedSockets
        rw [hbarely, hdropped, Serve.quitting_eq_nil hmsg, List.append_nil]
        exact h.clients x (hsockets ▸ hx)
      exact hnext.nextIteration
  | closed => exact h.closeSockets
  | actorClosed => exact h.same rfl rfl

/-- With both invariants each socket of the loop is in one collection, and no other socket in any. -/
theorem HeldInv.holders (h : HeldInv s) (hs : SocketInv s) (x : Socket) :
    s.holders x = if x ∈ s.serve.sockets then 1 else 0 := by
  unfold Loop.holders
  rw [hs.actorSockets, List.count_nil, add_zero]
  by_cases hbarely : x ∈ s.serve.barelyConnectedSockets
  · have hdropped : x ∉ s.serve.droppedSockets := fun hx => hs.apart x hx hbarely
    rw [if_pos hbarely, if_pos (hs.barely x hbarely), List.count_eq_zero_of_not_mem hdropped]
  · rw [if_neg hbarely, zero_add]
    by_cases hdropped : x ∈ s.serve.droppedSockets
    · rw [if_pos (hs.dropped x hdropped), List.count_eq_one_of_mem hs.nodup hdropped]
    · rw [List.count_eq_zero_of_not_mem hdropped, if_neg]
      intro hx
      rcases h.clients x hx with hx | hx
      · exact hbarely hx
      · exact hdropped hx

theorem Loop.shutsDown_cons {failing : Finset Socket} {socket : Socket} {rest : List Socket} :
    s.shutsDown failing (socket :: rest) = true ↔
      (socket ∉ failing ∨ s.fd socket = -1) ∧ s.shutsDown failing rest = true := by
  simp only [Loop.shutsDown, List.all_cons, Bool.and_eq_true, decide_eq_true_eq]

theorem Loop.fd_deleteSocket (s : Loop) (socket x : Socket) :
    (s.deleteSocket socket).fd x = if x = socket then -1 else s.fd x :=
  s.fd_closeObject socket x

theorem Loop.shutsDown_deleteSocket {failing : Finset Socket} {sockets : List Socket}
    (h : s.shutsDown failing sockets = true) (socket : Socket) :
    (s.deleteSocket socket).shutsDown failing sockets = true := by
  unfold Loop.shutsDown at h ⊢
  rw [List.all_eq_true] at h ⊢
  intro x hx
  have hx := h x hx
  rw [decide_eq_true_eq] at hx ⊢
  rw [Loop.fd_deleteSocket]
  split
  · exact Or.inr rfl
  · exact hx

/-- The closing of sockets none of which fails to shut down. -/
theorem closeSockets_all (abortive : Bool) (code : Nat) {failing : Finset Socket}
    {sockets : List Socket} (hfailing : s.shutsDown failing sockets = true) :
    (Loop.closeSockets abortive code failing sockets s).1.serve.sockets =
        s.serve.sockets \ sockets.toFinset ∧
      (Loop.closeSockets abortive code failing sockets s).1.point = .left (.ok code) ∧
      (Loop.closeSockets abortive code failing sockets s).2 =
        sockets.flatMap fun x => [.shutdown x abortive, .deleted x] := by
  induction sockets generalizing s with
  | nil => exact ⟨by simp [Loop.closeSockets], rfl, rfl⟩
  | cons socket rest ih =>
      obtain ⟨hsocket, hrest⟩ := Loop.shutsDown_cons.mp hfailing
      obtain ⟨hsockets, hpoint, hout⟩ := ih (Loop.shutsDown_deleteSocket hrest socket)
      have hshut : ¬(socket ∈ failing ∧ s.fd socket ≠ -1) := by
        rintro ⟨hbad, hopen⟩
        exact hsocket.elim (fun h => h hbad) hopen
      unfold Loop.closeSockets
      rw [if_neg hshut]
      refine ⟨?_, hpoint, ?_⟩
      · show (Loop.closeSockets abortive code failing rest (s.deleteSocket socket)).1.serve.sockets = _
        rw [hsockets, List.toFinset_cons]
        show s.serve.sockets.erase socket \ rest.toFinset = _
        ext x
        simp only [Finset.mem_sdiff, Finset.mem_erase, Finset.mem_insert, not_or]
        tauto
      · show _ :: _ :: (Loop.closeSockets abortive code failing rest (s.deleteSocket socket)).2 = _
        rw [hout]
        rfl

/-- The closing of the sockets: each socket of the loop is shut down and deleted once. -/
def ClosesAll (s : Loop) (event : LoopEvent) (t : Loop) (out : List LoopOutput) : Prop :=
  ∀ abortive code order failing, s.point = .closing abortive code → event = .close order failing →
    t.point = .left (.ok code) ∧ t.serve.sockets = ∅ ∧
      ∀ x ∈ s.serve.sockets,
        out.count (.shutdown x abortive) = 1 ∧ out.count (.deleted x) = 1

/-- An output that each element gives as often as it is `x`. -/
theorem count_flatMap_of_count {output : LoopOutput} {f : Socket → List LoopOutput} {x : Socket}
    (hf : ∀ y, (f y).count output = if y = x then 1 else 0) (sockets : List Socket) :
    (sockets.flatMap f).count output = sockets.count x := by
  induction sockets with
  | nil => rfl
  | cons y rest ih =>
      rw [List.flatMap_cons, List.count_append, hf, ih, List.count_cons]
      by_cases heq : y = x
      · simp [heq, Nat.add_comm]
      · simp [heq]

theorem count_closings {abortive : Bool} {sockets : List Socket} (hnodup : sockets.Nodup) {x : Socket}
    (hx : x ∈ sockets) :
    (sockets.flatMap fun x => [LoopOutput.shutdown x abortive, .deleted x]).count
        (.shutdown x abortive) = 1 ∧
      (sockets.flatMap fun x => [LoopOutput.shutdown x abortive, .deleted x]).count
        (.deleted x) = 1 := by
  have hone : sockets.count x = 1 := List.count_eq_one_of_mem hnodup hx
  constructor
  · rw [count_flatMap_of_count (x := x) ?_ sockets, hone]
    intro y
    simp [List.count_cons]
  · rw [count_flatMap_of_count (x := x) ?_ sockets, hone]
    intro y
    simp [List.count_cons]

theorem HeldInv.closesAll (h : HeldInv s) (hs : SocketInv s) {format : CommandFormat}
    {event : LoopEvent} {out : List LoopOutput} (hkeeps : event.keepsSockets format s = true)
    (hstep : LoopStep format s event t out) : ClosesAll s event t out := by
  rintro abortive code order failing hpoint rfl
  cases hstep with
  | closed abortive' code' _ _ heq hnodup horder =>
      rw [hpoint] at heq
      cases heq
      obtain ⟨hall, -⟩ := hs.closingOrder hnodup horder
      have hfailing : s.shutsDown failing (order ++ s.serve.droppedSockets ++ s.actorSockets) = true :=
        hkeeps
      rw [hs.actorSockets, List.append_nil] at hall hfailing ⊢
      have hclosed : ∀ x ∈ s.serve.sockets, x ∈ order ++ s.serve.droppedSockets := by
        intro x hx
        rw [List.mem_append, ← List.mem_toFinset, horder]
        exact h.clients x hx
      obtain ⟨hsockets, hleft, hout⟩ := closeSockets_all (s := s) abortive code hfailing
      refine ⟨hleft, ?_, ?_⟩
      · rw [hsockets, Finset.sdiff_eq_empty_iff_subset]
        exact fun x hx => List.mem_toFinset.mpr (hclosed x hx)
      · intro x hx
        rw [hout]
        exact count_closings hall (hclosed x hx)

/-- As long as no CONNECT is accepted and `close_open_sockets` fails to shut down none of its sockets:
every accepted socket that is not deleted is in exactly one of the collections, and once in it, no
other socket is in any, and the closing shuts down and deletes each of them once. -/
theorem sockets_held_once {format : CommandFormat} {signalFd listenerFd : Nat}
    {events : List LoopEvent} {trace : List LoopOutput}
    (hrun : Run (loopStep format) (Loop.start signalFd listenerFd) events s trace)
    (hkeeps : Throughout (loopStep format) (fun t event => event.keepsSockets format t = true)
      (Loop.start signalFd listenerFd) events) :
    (∀ x, s.holders x = if x ∈ s.serve.sockets then 1 else 0) ∧
      EveryStep (loopStep format) ClosesAll (Loop.start signalFd listenerFd) events := by
  have hinv : ∀ {events t trace}, Run (loopStep format) (Loop.start signalFd listenerFd) events t trace →
      Throughout (loopStep format) (fun t event => event.keepsSockets format t = true)
        (Loop.start signalFd listenerFd) events → HeldInv t := by
    intro events t trace hrun hkeeps
    refine hrun.guarded_invariant (P := fun _ s _ => HeldInv s) hkeeps ⟨?_, rfl⟩ ?_
    · exact fun x hx => by simp [Loop.start] at hx
    · intro _ _ _ _ _ _ _ h hguard hstep
      exact h.step hguard (loopStep_cases hstep)
  refine ⟨(hinv hrun hkeeps).holders (socketInv_run hrun).1, ?_⟩
  intro before event after t trace u out heq hbefore hstep
  subst heq
  exact (hinv hbefore hkeeps.before).closesAll (socketInv_run hbefore).1
    (hkeeps before event after t trace rfl hbefore) (loopStep_cases hstep)

end

/-! ### Runs with a connected actor and without one -/

/-- A format with three commands: an `addActor`, a `connect` to the actor 2 and a `kill`. -/
def connectFormat : CommandFormat where
  endianness := .little
  parseFromArray bytes :=
    if bytes = [10, 0] then some (.addActor {})
    else if bytes = [42, 2, 8, 2] then some (.connect { id := 2 })
    else if bytes = [26, 0] then some (.kill "") else none

/-- A client registers an actor; its socket 1 is dropped. -/
def registerEvents : List LoopEvent :=
  [.select {4} [], .accept 1 5, .message none, .select {5} [1], .recv (.data [2, 0, 0, 0]),
    .recv (.data [10, 0]), .message none]

/-- The actor connects with socket 2. -/
def connectEvents : List LoopEvent :=
  [.select {4} [], .accept 2 6, .message none, .select {6} [2], .recv (.data [4, 0, 0, 0]),
    .recv (.data [42, 2, 8, 2]), .unregister, .message none]

/-- A third client kills the server. -/
def killEvents : List LoopEvent :=
  [.select {4} [], .accept 3 7, .message none, .select {7} [3], .recv (.data [2, 0, 0, 0]),
    .recv (.data [26, 0]), .message none, .close [] ∅]

theorem sockets_held_once_killed :
    ∃ s trace, Run (loopStep connectFormat) (Loop.start 3 4) (registerEvents ++ killEvents) s trace ∧
      s.point = .left (.ok 0) ∧ (∀ x, s.holders x = if x ∈ s.serve.sockets then 1 else 0) ∧
      EveryStep (loopStep connectFormat) ClosesAll (Loop.start 3 4) (registerEvents ++ killEvents) := by
  obtain ⟨s, trace, hexec, hpoint⟩ : ∃ s trace, exec (loopStep connectFormat) (Loop.start 3 4)
      (registerEvents ++ killEvents) = some (s, trace) ∧ s.point = .left (.ok 0) := by
    refine ⟨_, _, rfl, ?_⟩
    rfl
  have hrun := Run.of_exec hexec
  exact ⟨s, trace, hrun, hpoint, sockets_held_once hrun (Throughout.of_check rfl)⟩

/-- The socket of a connected actor is in none of the collections, and `close_open_sockets` leaves it
open. -/
theorem connected_socket_held_by_none :
    ∃ s trace, Run (loopStep connectFormat) (Loop.start 3 4)
        (registerEvents ++ connectEvents ++ killEvents) s trace ∧
      s.point = .left (.ok 0) ∧ 2 ∈ s.serve.sockets ∧ s.holders 2 = 0 ∧ s.fd 2 ∈ s.openFds ∧
      (.shutdown 2 false) ∉ trace ∧ (.deleted 2) ∉ trace := by
  obtain ⟨s, trace, hexec, hpoint, hrest⟩ : ∃ s trace, exec (loopStep connectFormat) (Loop.start 3 4)
      (registerEvents ++ connectEvents ++ killEvents) = some (s, trace) ∧ s.point = .left (.ok 0) ∧
      2 ∈ s.serve.sockets ∧ s.holders 2 = 0 ∧ s.fd 2 ∈ s.openFds ∧
      (.shutdown 2 false) ∉ trace ∧ (.deleted 2) ∉ trace := by
    refine ⟨_, _, rfl, rfl, ?_⟩
    decide
  exact ⟨s, trace, Run.of_exec hexec, hpoint, hrest⟩

end RemoteSimgrid
