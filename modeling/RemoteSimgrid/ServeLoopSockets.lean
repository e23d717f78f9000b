import RemoteSimgrid.ServeLaunch
import RemoteSimgrid.ServeLoopSteps
import RemoteSimgrid.ServeRuns

/-! Who owns a client socket: the collections of the main loop of `serve`, the descriptors of their
sockets and the sockets that the current pass still visits. -/

namespace RemoteSimgrid

open Machine Pb

namespace Serve

variable {s t : Serve} {out : List ServeOutput}

/-- Handling a command moves no socket. -/
theorem handleCommand_sockets {command : Command} {socket : Socket} {drop : Bool}
    (h : s.handleCommand command socket = .ok (t, out, drop)) :
    t.barelyConnectedSockets = s.barelyConnectedSockets ∧ t.droppedSockets = s.droppedSockets ∧
      t.sockets = s.sockets := by
  cases handleCommand_handled h <;> exact ⟨rfl, rfl, rfl⟩

/-- The sockets that a popped message adds to the dropped ones. -/
def quitting : InterthreadMessage → List Socket
  | .actorQuit socket => [socket]
  | _ => []

theorem quitting_eq_nil {msg : InterthreadMessage} (h : ∀ socket, msg ≠ .actorQuit socket) :
    quitting msg = [] := by
  cases msg with
  | actorQuit socket => exact absurd rfl (h socket)
  | _ => rfl

theorem handleInterthreadMessage_sockets {msg : InterthreadMessage}
    (h : s.handleInterthreadMessage msg = .ok (t, out)) :
    t.barelyConnectedSockets = s.barelyConnectedSockets ∧
      t.droppedSockets = s.droppedSockets ++ quitting msg ∧ t.sockets = s.sockets := by
  cases Serve.handleInterthreadMessage_popped h with
  | quit => exact ⟨rfl, rfl, rfl⟩
  | finished => exact ⟨rfl, (List.append_nil _).symm, rfl⟩
  | aborted => exact ⟨rfl, (List.append_nil _).symm, rfl⟩
  | created => exact ⟨rfl, (List.append_nil _).symm, rfl⟩

end Serve

theorem Loop.afterMessage_eq {s : Loop} {msg : InterthreadMessage}
    (h : ∀ socket, msg ≠ .actorQuit socket) : s.afterMessage msg = s := by
  cases msg with
  | actorQuit socket => exact absurd rfl (h socket)
  | _ => rfl

/-- The collections and the SimGrid thread share no socket, and no two sockets a descriptor. -/
structure SocketInv (s : Loop) : Prop where
  barely : ∀ x ∈ s.serve.barelyConnectedSockets, x ∈ s.serve.sockets
  dropped : ∀ x ∈ s.serve.droppedSockets, x ∈ s.serve.sockets
  nodup : s.serve.droppedSockets.Nodup
  apart : ∀ x ∈ s.serve.droppedSockets, x ∉ s.serve.barelyConnectedSockets
  actors : ∀ x ∈ s.actors, x ∈ s.serve.sockets ∧ x ∉ s.serve.barelyConnectedSockets ∧
    x ∉ s.serve.droppedSockets
  isOpen : ∀ x ∈ s.serve.sockets, s.fd x ≠ -1 → s.fd x ∈ s.openFds
  unique : ∀ x ∈ s.serve.sockets, ∀ y ∈ s.serve.sockets, s.fd x = s.fd y → s.fd x ≠ -1 → x = y
  own : ∀ x ∈ s.serve.sockets, s.fd x ≠ s.signalFd ∧ s.fd x ≠ s.listenerFd
  actorSockets : s.actorSockets = []
  signal : s.signalFd ∈ s.openFds
  listener : s.listenerFd ∈ s.openFds
  nonneg : ∀ fd ∈ s.openFds, 0 ≤ fd

/-- The sockets that the current pass still visits are in the collection it traverses. -/
def PointInv (s : Loop) : Prop :=
  match s.point with
  | .header socket rest | .content socket rest =>
      (socket :: rest).Nodup ∧ ∀ x ∈ socket :: rest, x ∈ s.serve.barelyConnectedSockets
  | .unregister socket rest =>
      socket ∈ s.actors ∧ rest.Nodup ∧ ∀ x ∈ rest, x ∈ s.serve.barelyConnectedSockets
  | .dropped socket rest =>
      (socket :: rest).Nodup ∧ ∀ x ∈ socket :: rest, x ∈ s.serve.droppedSockets
  | _ => True

section

variable {s t : Loop} {rest : List Socket} {point : LoopPoint}

theorem Loop.DroppedPoint.pointInv (h : s.DroppedPoint rest point) (hnodup : rest.Nodup)
    (hrest : ∀ x ∈ rest, x ∈ s.serve.droppedSockets) : PointInv { s with point := point } := by
  cases h with
  | none => trivial
  | some socket after hsuffix _ =>
      exact ⟨hnodup.sublist hsuffix.sublist, fun x hx => hrest x (hsuffix.subset hx)⟩

theorem Loop.PassPoint.pointInv (h : s.PassPoint rest point) (hs : SocketInv s) (hnodup : rest.Nodup)
    (hrest : ∀ x ∈ rest, x ∈ s.serve.barelyConnectedSockets) : PointInv { s with point := point } := by
  cases h with
  | reads socket after _ hpoint hsuffix _ =>
      have hvisits : (socket :: after).Nodup ∧
          ∀ x ∈ socket :: after, x ∈ s.serve.barelyConnectedSockets :=
        ⟨hnodup.sublist hsuffix.sublist, fun x hx => hrest x (hsuffix.subset hx)⟩
      rcases hpoint with rfl | rfl <;> exact hvisits
  | skipped => trivial
  | dropped _ _ hpoint => exact hpoint.pointInv hs.nodup fun x hx => hx

/-- Of the server the invariant speaks of its sockets only. -/
theorem SocketInv.sameSockets (h : SocketInv s)
    (hserve : t.serve.barelyConnectedSockets = s.serve.barelyConnectedSockets ∧
      t.serve.droppedSockets = s.serve.droppedSockets ∧ t.serve.sockets = s.serve.sockets)
    (hactors : t.actors = s.actors) (hobjects : t.objects = s.objects) (hopen : t.openFds = s.openFds)
    (hfds : t.signalFd = s.signalFd ∧ t.listenerFd = s.listenerFd)
    (hactorSockets : t.actorSockets = s.actorSockets) : SocketInv t where
  barely := by rw [hserve.1, hserve.2.2]; exact h.barely
  dropped := by rw [hserve.2.1, hserve.2.2]; exact h.dropped
  nodup := by rw [hserve.2.1]; exact h.nodup
  apart := by rw [hserve.1, hserve.2.1]; exact h.apart
  actors := by rw [hserve.1, hserve.2.1, hserve.2.2, hactors]; exact h.actors
  isOpen := by unfold Loop.fd; rw [hserve.2.2, hobjects, hopen]; exact h.isOpen
  unique := by unfold Loop.fd; rw [hserve.2.2, hobjects]; exact h.unique
  own := by unfold Loop.fd; rw [hserve.2.2, hobjects, hfds.1, hfds.2]; exact h.own
  actorSockets := hactorSockets.trans h.actorSockets
  signal := by rw [hfds.1, hopen]; exact h.signal
  listener := by rw [hfds.2, hopen]; exact h.listener
  nonneg := by rw [hopen]; exact h.nonneg

/-- The invariant speaks neither of the point nor of what is read. -/
theorem SocketInv.same (h : SocketInv s) (hserve : t.serve = s.serve) (hactors : t.actors = s.actors)
    (hobjects : t.objects = s.objects) (hopen : t.openFds = s.openFds)
    (hfds : t.signalFd = s.signalFd ∧ t.listenerFd = s.listenerFd)
    (hactorSockets : t.actorSockets = s.actorSockets) : SocketInv t :=
  h.sameSockets (by rw [hserve]; exact ⟨rfl, rfl, rfl⟩) hactors hobjects hopen hfds hactorSockets

/-- A socket leaves the barely connected ones, for the dropped ones or for its actor. -/
theorem SocketInv.moved (h : SocketInv s) {socket : Socket} {serve : Serve}
    (hsocket : socket ∈ s.serve.barelyConnectedSockets) (drop : Bool)
    (hserve : serve.barelyConnectedSockets = s.serve.barelyConnectedSockets ∧
      serve.droppedSockets = s.serve.droppedSockets ∧ serve.sockets = s.serve.sockets)
    (hmoved : t.serve = serve.afterCommand socket drop)
    (hactors : t.actors = if drop then s.actors else insert socket s.actors)
    (hobjects : t.objects = s.objects) (hopen : t.openFds = s.openFds)
    (hfds : t.signalFd = s.signalFd ∧ t.listenerFd = s.listenerFd)
    (hactorSockets : t.actorSockets = s.actorSockets) : SocketInv t := by
  obtain ⟨hbarely, hdropped, hsockets⟩ := hserve
  have hnot : socket ∉ s.serve.droppedSockets := fun hmem => h.apart socket hmem hsocket
  have hbarely' : t.serve.barelyConnectedSockets = s.serve.barelyConnectedSockets.erase socket := by
    rw [hmoved, Serve.afterCommand, hbarely]
  have hsockets' : t.serve.sockets = s.serve.sockets := by rw [hmoved, Serve.afterCommand, hsockets]
  have hdropped' : t.serve.droppedSockets =
      if drop then s.serve.droppedSockets ++ [socket] else s.serve.droppedSockets := by
    rw [hmoved, Serve.afterCommand, hdropped]
  refine
    { barely := ?_
      dropped := ?_
      nodup := ?_
      apart := ?_
      actors := ?_
      isOpen := by unfold Loop.fd; rw [hsockets', hobjects, hopen]; exact h.isOpen
      unique := by unfold Loop.fd; rw [hsockets', hobjects]; exact h.unique
      own := by unfold Loop.fd; rw [hsockets', hobjects, hfds.1, hfds.2]; exact h.own
      actorSockets := hactorSockets.trans h.actorSockets
      signal := by rw [hfds.1, hopen]; exact h.signal
      listener := by rw [hfds.2, hopen]; exact h.listener
      nonneg := by rw [hopen]; exact h.nonneg }
  · intro x hx
    rw [hbarely'] at hx
    rw [hsockets']
    exact h.barely x (Finset.mem_of_mem_erase hx)
  · intro x hx
    rw [hdropped'] at hx
    rw [hsockets']
    cases drop with
    | true =>
        rcases List.mem_append.mp hx with hx | hx
        · exact h.dropped x hx
        · exact List.mem_singleton.mp hx ▸ h.barely socket hsocket
    | false => exact h.dropped x hx
  · rw [hdropped']
    cases drop with
    | true => exact List.Nodup.append h.nodup (List.nodup_singleton socket) (by simpa using hnot)
    | false => exact h.nodup
  · intro x hx
    rw [hdropped'] at hx
    rw [hbarely', Finset.mem_erase, not_and]
    cases drop with
    | true =>
        rcases List.mem_append.mp hx with hx | hx
        · exact fun _ => h.apart x hx
        · exact fun hne => absurd (List.mem_singleton.mp hx) hne
    | false => exact fun _ => h.apart x hx
  · intro x hx
    rw [hactors] at hx
    rw [hbarely', hsockets', hdropped', Finset.mem_erase, not_and]
    cases drop with
    | true =>
        obtain ⟨hmem, hbarely, hdropped⟩ := h.actors x hx
        refine ⟨hmem, fun _ => hbarely, ?_⟩
        rintro hx
        rcases List.mem_append.mp hx with hx | hx
        · exact hdropped hx
        · exact hbarely (List.mem_singleton.mp hx ▸ hsocket)
    | false =>
        rcases Finset.mem_insert.mp hx with rfl | hx
        · exact ⟨h.barely x hsocket, fun hne => absurd rfl hne, hnot⟩
        · obtain ⟨hmem, hbarely, hdropped⟩ := h.actors x hx
          exact ⟨hmem, fun _ => hbarely, hdropped⟩

theorem Loop.fd_closeObject (s : Loop) (socket x : Socket) :
    (s.closeObject socket).fd x = if x = socket then -1 else s.fd x := by
  unfold Loop.fd Loop.closeObject
  by_cases hx : x = socket
  · subst hx
    simp only [Function.update_self, if_true, TcpSocket.close]
    split
    · assumption
    · rfl
  · simp only [Function.update_of_ne hx, if_neg hx]

/-- Closing the descriptor of a socket. -/
theorem SocketInv.closeObject (h : SocketInv s) {socket : Socket}
    (hsocket : socket ∈ s.serve.sockets) : SocketInv (s.closeObject socket) where
  barely := h.barely
  dropped := h.dropped
  nodup := h.nodup
  apart := h.apart
  actors := h.actors
  isOpen := by
    intro x hx hfd
    rw [Loop.fd_closeObject] at hfd ⊢
    by_cases heq : x = socket
    · rw [if_pos heq] at hfd
      exact absurd rfl hfd
    · rw [if_neg heq] at hfd ⊢
      refine Finset.mem_erase.mpr ⟨?_, h.isOpen x hx hfd⟩
      exact fun hsame => heq (h.unique x hx socket hsocket hsame hfd)
  unique := by
    intro x hx y hy hsame hfd
    rw [Loop.fd_closeObject] at hsame hfd
    rw [Loop.fd_closeObject] at hsame
    by_cases hxs : x = socket
    · rw [if_pos hxs] at hfd
      exact absurd rfl hfd
    · rw [if_neg hxs] at hsame hfd
      by_cases hys : y = socket
      · rw [if_pos hys] at hsame
        exact absurd hsame hfd
      · rw [if_neg hys] at hsame
        exact h.unique x hx y hy hsame hfd
  own := by
    intro x hx
    rw [Loop.fd_closeObject]
    by_cases heq : x = socket
    · rw [if_pos heq]
      have hsignal := h.nonneg _ h.signal
      have hlistener := h.nonneg _ h.listener
      exact ⟨by show (-1 : Int) ≠ s.signalFd; omega, by show (-1 : Int) ≠ s.listenerFd; omega⟩
    · rw [if_neg heq]
      exact h.own x hx
  actorSockets := h.actorSockets
  signal := Finset.mem_erase.mpr ⟨(h.own socket hsocket).1.symm, h.signal⟩
  listener := Finset.mem_erase.mpr ⟨(h.own socket hsocket).2.symm, h.listener⟩
  nonneg := fun fd hfd => h.nonneg fd (Finset.mem_of_mem_erase hfd)

/-- Deleting a socket of the loop. -/
theorem SocketInv.deleteSocket (h : SocketInv s) {socket : Socket}
    (hsocket : socket ∈ s.serve.sockets) (hactors : socket ∉ s.actors) :
    SocketInv (s.deleteSocket socket) := by
  have hclosed := h.closeObject hsocket
  exact
    { barely := fun x hx => Finset.mem_erase.mpr
        ⟨Finset.ne_of_mem_erase hx, h.barely x (Finset.mem_of_mem_erase hx)⟩
      dropped := fun x hx => Finset.mem_erase.mpr
        ⟨fun heq => (h.nodup.not_mem_erase (heq ▸ hx)).elim, h.dropped x (List.mem_of_mem_erase hx)⟩
      nodup := h.nodup.erase socket
      apart := fun x hx hmem => h.apart x (List.mem_of_mem_erase hx) (Finset.mem_of_mem_erase hmem)
      actors := fun x hx => by
        obtain ⟨hmem, hbarely, hdropped⟩ := h.actors x hx
        exact ⟨Finset.mem_erase.mpr ⟨fun heq => hactors (heq ▸ hx), hmem⟩,
          fun hx => hbarely (Finset.mem_of_mem_erase hx), fun hx => hdropped (List.mem_of_mem_erase hx)⟩
      isOpen := fun x hx => hclosed.isOpen x (Finset.mem_of_mem_erase hx)
      unique := fun x hx y hy => hclosed.unique x (Finset.mem_of_mem_erase hx) y
        (Finset.mem_of_mem_erase hy)
      own := fun x hx => hclosed.own x (Finset.mem_of_mem_erase hx)
      actorSockets := h.actorSockets
      signal := hclosed.signal
      listener := hclosed.listener
      nonneg := hclosed.nonneg }

/-- A new client. -/
theorem SocketInv.accept (h : SocketInv s) {socket : Socket} {fd : Int}
    (hsocket : socket ∉ s.serve.sockets) (hfd : fd ∉ s.openFds) (hnonneg : 0 ≤ fd)
    (registered : Finset Int) (infos : Socket → BarelyConnectedSocketInformation) :
    SocketInv { s with
      point := .message
      serve := { s.serve with
        barelyConnectedSockets := insert socket s.serve.barelyConnectedSockets
        sockets := insert socket s.serve.sockets }
      infos := infos
      objects := Function.update s.objects socket (.accepted fd)
      openFds := insert fd s.openFds
      registered := registered } := by
  have hne : ∀ x ∈ s.serve.sockets, x ≠ socket := fun x hx heq => hsocket (heq ▸ hx)
  have hold : ∀ x, x ≠ socket → (Function.update s.objects socket (.accepted fd) x).fd = s.fd x :=
    fun x hx => by rw [Function.update_of_ne hx]; rfl
  have hnew : (Function.update s.objects socket (.accepted fd) socket).fd = fd := by
    rw [Function.update_self]
    rfl
  have hother : ∀ x ∈ s.serve.sockets, s.fd x ≠ fd := by
    intro x hx heq
    have hvalid : s.fd x ≠ -1 := by omega
    exact hfd (heq ▸ h.isOpen x hx hvalid)
  refine
    { barely := ?_
      dropped := fun x hx => Finset.mem_insert_of_mem (h.dropped x hx)
      nodup := h.nodup
      apart := ?_
      actors := ?_
      isOpen := ?_
      unique := ?_
      own := ?_
      actorSockets := h.actorSockets
      signal := Finset.mem_insert_of_mem h.signal
      listener := Finset.mem_insert_of_mem h.listener
      nonneg := ?_ }
  · intro x hx
    rcases Finset.mem_insert.mp hx with rfl | hx
    · exact Finset.mem_insert_self _ _
    · exact Finset.mem_insert_of_mem (h.barely x hx)
  · intro x hx hmem
    rcases Finset.mem_insert.mp hmem with rfl | hmem
    · exact hsocket (h.dropped x hx)
    · exact h.apart x hx hmem
  · intro x hx
    obtain ⟨hmem, hbarely, hdropped⟩ := h.actors x hx
    refine ⟨Finset.mem_insert_of_mem hmem, ?_, hdropped⟩
    intro hinsert
    rcases Finset.mem_insert.mp hinsert with rfl | hinsert
    · exact hsocket hmem
    · exact hbarely hinsert
  · intro x hx hvalid
    unfold Loop.fd at hvalid ⊢
    rcases Finset.mem_insert.mp hx with rfl | hx
    · simp only [hnew, Finset.mem_insert_self]
    · simp only [hold x (hne x hx)] at hvalid ⊢
      exact Finset.mem_insert_of_mem (h.isOpen x hx hvalid)
  · intro x hx y hy hsame hvalid
    unfold Loop.fd at hsame hvalid
    rcases Finset.mem_insert.mp hx with hxs | hxs
    · rcases Finset.mem_insert.mp hy with hys | hys
      · rw [hxs, hys]
      · simp only [hxs, hnew, hold y (hne y hys)] at hsame
        exact absurd hsame.symm (hother y hys)
    · rcases Finset.mem_insert.mp hy with hys | hys
      · simp only [hys, hnew, hold x (hne x hxs)] at hsame
        exact absurd hsame (hother x hxs)
      · simp only [hold x (hne x hxs), hold y (hne y hys)] at hsame hvalid
        exact h.unique x hxs y hys hsame hvalid
  · intro x hx
    unfold Loop.fd
    rcases Finset.mem_insert.mp hx with rfl | hx
    · simp only [hnew]
      exact ⟨fun heq => hfd (heq ▸ h.signal), fun heq => hfd (heq ▸ h.listener)⟩
    · simp only [hold x (hne x hx)]
      exact h.own x hx
  · intro x hx
    rcases Finset.mem_insert.mp hx with rfl | hx
    · exact hnonneg
    · exact h.nonneg x hx

/-- The sockets after a popped message: that of an actor that quits comes back to the loop. -/
theorem SocketInv.message (h : SocketInv s) {msg : InterthreadMessage} {serve : Serve}
    {out : List ServeOutput} (hsends : s.Sends msg)
    (hok : s.serve.handleInterthreadMessage msg = .ok (serve, out)) :
    SocketInv (({ s with serve := serve } : Loop).afterMessage msg) := by
  obtain ⟨hbarely, hdropped, hsockets⟩ := Serve.handleInterthreadMessage_sockets hok
  have hother : (∀ socket, msg ≠ .actorQuit socket) →
      SocketInv (({ s with serve := serve } : Loop).afterMessage msg) := by
    intro hmsg
    have hdropped' : serve.droppedSockets = s.serve.droppedSockets := by
      rw [hdropped, Serve.quitting_eq_nil hmsg, List.append_nil]
    rw [Loop.afterMessage_eq hmsg]
    exact
      { barely := by simp only [hbarely, hsockets]; exact h.barely
        dropped := by simp only [hdropped', hsockets]; exact h.dropped
        nodup := by simp only [hdropped']; exact h.nodup
        apart := by simp only [hdropped', hbarely]; exact h.apart
        actors := by simp only [hdropped', hbarely, hsockets]; exact h.actors
        isOpen := by simp only [hsockets]; exact h.isOpen
        unique := by simp only [hsockets]; exact h.unique
        own := by simp only [hsockets]; exact h.own
        actorSockets := h.actorSockets
        signal := h.signal
        listener := h.listener
        nonneg := h.nonneg }
  cases msg with
  | actorQuit socket =>
      obtain ⟨hactor, -⟩ := hsends
      obtain ⟨hmem, hnotBarely, hnotDropped⟩ := h.actors socket hactor
      have hdropped' : serve.droppedSockets = s.serve.droppedSockets ++ [socket] := hdropped
      refine
        { barely := by simp only [Loop.afterMessage, hbarely, hsockets]; exact h.barely
          dropped := ?_
          nodup := ?_
          apart := ?_
          actors := ?_
          isOpen := by simp only [Loop.afterMessage, hsockets]; exact h.isOpen
          unique := by simp only [Loop.afterMessage, hsockets]; exact h.unique
          own := by simp only [Loop.afterMessage, hsockets]; exact h.own
          actorSockets := h.actorSockets
          signal := h.signal
          listener := h.listener
          nonneg := h.nonneg }
      · intro x hx
        simp only [Loop.afterMessage, hdropped', hsockets] at hx ⊢
        rcases List.mem_append.mp hx with hx | hx
        · exact h.dropped x hx
        · exact List.mem_singleton.mp hx ▸ hmem
      · simp only [Loop.afterMessage, hdropped']
        exact List.Nodup.append h.nodup (List.nodup_singleton socket) (by simpa using hnotDropped)
      · intro x hx
        simp only [Loop.afterMessage, hdropped', hbarely] at hx ⊢
        rcases List.mem_append.mp hx with hx | hx
        · exact h.apart x hx
        · exact List.mem_singleton.mp hx ▸ hnotBarely
      · intro x hx
        simp only [Loop.afterMessage, hdropped', hbarely, hsockets] at hx ⊢
        obtain ⟨hne, hx⟩ := Finset.mem_erase.mp hx
        obtain ⟨hmem, hbarely, hdropped⟩ := h.actors x hx
        refine ⟨hmem, hbarely, ?_⟩
        intro happend
        rcases List.mem_append.mp happend with happend | happend
        · exact hdropped happend
        · exact hne (List.mem_singleton.mp happend)
  | _ => exact hother (fun _ h => by cases h)

theorem SocketInv.nextIteration (h : SocketInv s) :
    SocketInv s.nextIteration ∧ PointInv s.nextIteration := by
  unfold Loop.nextIteration
  split
  · exact ⟨h.same rfl rfl rfl rfl ⟨rfl, rfl⟩ rfl, trivial⟩
  · exact ⟨h.same rfl rfl rfl rfl ⟨rfl, rfl⟩ rfl, trivial⟩

/-- What the deletion of a socket and the way out of `serve` keep is kept by `close_open_sockets`. -/
theorem closeSockets_keeps {P : Loop → Prop} (h : P s)
    (hdelete : ∀ s socket, P s → P (s.deleteSocket socket))
    (hleave : ∀ s result, P s → P { s with point := .left result }) (abortive : Bool) (code : Nat)
    (failing : Finset Socket) (sockets : List Socket) :
    P (Loop.closeSockets abortive code failing sockets s).1 := by
  induction sockets generalizing s with
  | nil => exact hleave s _ h
  | cons socket rest ih =>
      unfold Loop.closeSockets
      split
      · exact hleave s _ h
      · exact ih (hdelete s socket h)

theorem SocketInv.closeSockets (h : SocketInv s) {abortive : Bool} {code : Nat}
    {failing : Finset Socket} {sockets : List Socket} (hnodup : sockets.Nodup)
    (hsockets : ∀ x ∈ sockets, x ∈ s.serve.sockets ∧ x ∉ s.actors) :
    SocketInv (Loop.closeSockets abortive code failing sockets s).1 := by
  induction sockets generalizing s with
  | nil => exact h.same rfl rfl rfl rfl ⟨rfl, rfl⟩ rfl
  | cons socket rest ih =>
      unfold Loop.closeSockets
      split
      · exact h.same rfl rfl rfl rfl ⟨rfl, rfl⟩ rfl
      · obtain ⟨hmem, hactors⟩ := hsockets socket List.mem_cons_self
        obtain ⟨hnot, hnodup⟩ := List.nodup_cons.mp hnodup
        refine ih (h.deleteSocket hmem hactors) hnodup ?_
        intro x hx
        obtain ⟨hmem, hactors⟩ := hsockets x (List.mem_cons_of_mem _ hx)
        exact ⟨Finset.mem_erase.mpr ⟨fun heq => hnot (heq ▸ hx), hmem⟩, hactors⟩

/-- The sockets that `close_open_sockets` goes through. -/
theorem SocketInv.closingOrder (h : SocketInv s) {order : List Socket} (hnodup : order.Nodup)
    (horder : order.toFinset = s.serve.barelyConnectedSockets) :
    (order ++ s.serve.droppedSockets ++ s.actorSockets).Nodup ∧
      ∀ x ∈ order ++ s.serve.droppedSockets ++ s.actorSockets, x ∈ s.serve.sockets ∧ x ∉ s.actors := by
  have hbarely : ∀ x ∈ order, x ∈ s.serve.barelyConnectedSockets := fun x hx => by
    rw [← horder]
    exact List.mem_toFinset.mpr hx
  rw [h.actorSockets, List.append_nil]
  refine ⟨List.Nodup.append hnodup h.nodup ?_, ?_⟩
  · exact fun x hx hdropped => h.apart x hdropped (hbarely x hx)
  · intro x hx
    rcases List.mem_append.mp hx with hx | hx
    · exact ⟨h.barely x (hbarely x hx), fun hactor => (h.actors x hactor).2.1 (hbarely x hx)⟩
    · exact ⟨h.dropped x hx, fun hactor => (h.actors x hactor).2.2 hx⟩

theorem closeSockets_left (abortive : Bool) (code : Nat) (failing : Finset Socket)
    (sockets : List Socket) (s : Loop) :
    ∃ result, (Loop.closeSockets abortive code failing sockets s).1.point = .left result := by
  induction sockets generalizing s with
  | nil => exact ⟨_, rfl⟩
  | cons socket rest ih =>
      unfold Loop.closeSockets
      split
      · exact ⟨_, rfl⟩
      · exact ih _

/-- What a step changes about the sockets keeps the invariant. -/
theorem SocketInv.step {format : CommandFormat} {event : LoopEvent} {out : List LoopOutput}
    (h : SocketInv s) (hpoint : PointInv s) (hstep : LoopStep format s event t out) :
    SocketInv t ∧ PointInv t := by
  have hreading : ∀ {socket rest}, s.Reading socket rest →
      (socket :: rest).Nodup ∧ ∀ x ∈ socket :: rest, x ∈ s.serve.barelyConnectedSockets := by
    intro socket rest hread
    unfold PointInv at hpoint
    rcases hread with heq | heq <;> rw [heq] at hpoint <;> exact hpoint
  have hdropping : ∀ {socket rest}, s.point = .dropped socket rest →
      (socket :: rest).Nodup ∧ ∀ x ∈ socket :: rest, x ∈ s.serve.droppedSockets := by
    intro socket rest heq
    unfold PointInv at hpoint
    rwa [heq] at hpoint
  have hforget : ∀ {u : Loop} {socket rest point}, s.point = .dropped socket rest → SocketInv u →
      u.serve = s.serve → u.actors = s.actors → (u.forget socket).DroppedPoint rest point →
      SocketInv { u.forget socket with point := point } ∧
        PointInv { u.forget socket with point := point } := by
    intro u socket rest point heq hu hserve hactors hpass
    obtain ⟨hnodup, hmem⟩ := hdropping heq
    have hsocket : socket ∈ s.serve.droppedSockets := hmem socket List.mem_cons_self
    obtain ⟨hnot, hrest⟩ := List.nodup_cons.mp hnodup
    have hdeleted : SocketInv (u.forget socket) := by
      have hregistered : SocketInv { u with
          registered := u.registered.erase (u.objects socket).fdBeforeClose } :=
        hu.same rfl rfl rfl rfl ⟨rfl, rfl⟩ rfl
      refine hregistered.deleteSocket ?_ ?_
      · show socket ∈ u.serve.sockets
        rw [hserve]
        exact h.dropped socket hsocket
      · show socket ∉ u.actors
        rw [hactors]
        exact fun hactor => (h.actors socket hactor).2.2 hsocket
    refine ⟨hdeleted.same rfl rfl rfl rfl ⟨rfl, rfl⟩ rfl, hpass.pointInv hrest ?_⟩
    intro x hx
    have hne : x ≠ socket := fun heq => hnot (heq ▸ hx)
    show x ∈ u.serve.droppedSockets.erase socket
    rw [hserve]
    exact (List.mem_erase_of_ne hne).mpr (hmem x (List.mem_cons_of_mem _ hx))
  cases hstep with
  | selectFailed => exact ⟨h.same rfl rfl rfl rfl ⟨rfl, rfl⟩ rfl, trivial⟩
  | selected readable order u point _ _ _ hnodup horder hu hpass =>
      subst hu
      have hu : SocketInv { s with readable := readable, unread := readable, clientDropped := false } :=
        h.same rfl rfl rfl rfl ⟨rfl, rfl⟩ rfl
      refine ⟨h.same rfl rfl rfl rfl ⟨rfl, rfl⟩ rfl, ?_⟩
      rcases hpass with rfl | rfl | rfl | hpass
      · trivial
      · trivial
      · trivial
      · refine hpass.pointInv hu hnodup ?_
        intro x hx
        show x ∈ s.serve.barelyConnectedSockets
        rw [← horder, List.mem_toFinset]
        exact hx
  | accepted socket fd _ hsocket hfd hnonneg =>
      exact ⟨h.accept hsocket hfd hnonneg _ _, trivial⟩
  | readMore socket rest outcome info point hread _ hnext =>
      refine ⟨h.same rfl rfl rfl rfl ⟨rfl, rfl⟩ rfl, ?_⟩
      rcases hnext with rfl | rfl <;> exact hreading hread
  | readFailed socket rest outcome infos u v e hread _ hv hu =>
      subst hv
      have hnoted : SocketInv { s with unread := s.unread.erase (s.fd socket), infos := infos } :=
        h.same rfl rfl rfl rfl ⟨rfl, rfl⟩ rfl
      refine ⟨?_, trivial⟩
      rcases hu with rfl | rfl
      · exact hnoted.same rfl rfl rfl rfl ⟨rfl, rfl⟩ rfl
      · have hsocket := h.barely socket ((hreading hread).2 socket List.mem_cons_self)
        exact (hnoted.closeObject hsocket).same rfl rfl rfl rfl ⟨rfl, rfl⟩ rfl
  | refused => exact ⟨h.same rfl rfl rfl rfl ⟨rfl, rfl⟩ rfl, trivial⟩
  | droppedClient socket rest outcome info command serve out' u point hread _ hok hu hpass =>
      subst hu
      obtain ⟨hnodup, hmem⟩ := hreading hread
      obtain ⟨hnot, hrest⟩ := List.nodup_cons.mp hnodup
      have hmoved := Serve.handleCommand_sockets hok
      have hu : SocketInv { s.noted socket info with
          serve := serve.afterCommand socket true, clientDropped := true } :=
        h.moved (hmem socket List.mem_cons_self) true hmoved rfl rfl rfl rfl ⟨rfl, rfl⟩ rfl
      refine ⟨hu.same rfl rfl rfl rfl ⟨rfl, rfl⟩ rfl, hpass.pointInv hu hrest ?_⟩
      intro x hx
      show x ∈ serve.barelyConnectedSockets.erase socket
      rw [hmoved.1]
      exact Finset.mem_erase.mpr
        ⟨fun heq => hnot (heq ▸ hx), hmem x (List.mem_cons_of_mem _ hx)⟩
  | connected socket rest outcome info command serve out' hread _ hok =>
      obtain ⟨hnodup, hmem⟩ := hreading hread
      obtain ⟨hnot, hrest⟩ := List.nodup_cons.mp hnodup
      have hmoved := Serve.handleCommand_sockets hok
      refine ⟨h.moved (hmem socket List.mem_cons_self) false hmoved rfl rfl rfl rfl ⟨rfl, rfl⟩ rfl,
        Finset.mem_insert_self _ _, hrest, ?_⟩
      intro x hx
      show x ∈ serve.barelyConnectedSockets.erase socket
      rw [hmoved.1]
      exact Finset.mem_erase.mpr
        ⟨fun heq => hnot (heq ▸ hx), hmem x (List.mem_cons_of_mem _ hx)⟩
  | unanswered socket rest bytes errno info command serve out' dropClient e _ _ hok =>
      exact ⟨h.sameSockets (Serve.handleCommand_sockets hok) rfl rfl rfl ⟨rfl, rfl⟩ rfl, trivial⟩
  | unregistered socket rest u point heq hu hpass =>
      subst hu
      unfold PointInv at hpoint
      rw [heq] at hpoint
      have hu : SocketInv { s with registered := s.registered.erase (s.fd socket) } :=
        h.same rfl rfl rfl rfl ⟨rfl, rfl⟩ rfl
      exact ⟨h.same rfl rfl rfl rfl ⟨rfl, rfl⟩ rfl, hpass.pointInv hu hpoint.2.1 hpoint.2.2⟩
  | droppedData socket rest bytes u point heq hu hpass =>
      subst hu
      obtain ⟨hnodup, hmem⟩ := hdropping heq
      exact ⟨h.same rfl rfl rfl rfl ⟨rfl, rfl⟩ rfl,
        hpass.pointInv (List.nodup_cons.mp hnodup).2 fun x hx => hmem x (List.mem_cons_of_mem _ hx)⟩
  | droppedClosed socket rest u point heq hu hpass =>
      subst hu
      have hsocket := h.dropped socket ((hdropping heq).2 socket List.mem_cons_self)
      have hunread : SocketInv { s with unread := s.unread.erase (s.fd socket) } :=
        h.same rfl rfl rfl rfl ⟨rfl, rfl⟩ rfl
      exact hforget heq (hunread.closeObject hsocket) rfl rfl hpass
  | droppedFailed socket rest errno u point heq hu hpass =>
      subst hu
      have hunread : SocketInv { s with unread := s.unread.erase (s.fd socket) } :=
        h.same rfl rfl rfl rfl ⟨rfl, rfl⟩ rfl
      exact hforget heq hunread rfl rfl hpass
  | noMessage => exact h.nextIteration
  | messageFailed => exact ⟨h.same rfl rfl rfl rfl ⟨rfl, rfl⟩ rfl, trivial⟩
  | message msg serve out' _ _ hsends hok => exact (h.message hsends hok).nextIteration
  | closed abortive code order failing heq hnodup horder =>
      obtain ⟨hall, hmem⟩ := h.closingOrder hnodup horder
      refine ⟨h.closeSockets hall fun x hx => ⟨(hmem x hx).1, (hmem x hx).2⟩, ?_⟩
      obtain ⟨result, hleft⟩ := closeSockets_left abortive code failing
        (order ++ s.serve.droppedSockets ++ s.actorSockets) s
      unfold PointInv
      rw [hleft]
      trivial
  | actorClosed socket hactor _ =>
      refine ⟨h.closeObject (h.actors socket hactor).1, ?_⟩
      exact hpoint

theorem SocketInv.start (signalFd listenerFd : Nat) : SocketInv (Loop.start signalFd listenerFd) where
  barely := fun x hx => by simp [Loop.start] at hx
  dropped := fun x hx => by simp [Loop.start] at hx
  nodup := List.nodup_nil
  apart := fun x hx => by simp [Loop.start] at hx
  actors := fun x hx => by simp [Loop.start] at hx
  isOpen := fun x hx => by simp [Loop.start] at hx
  unique := fun x hx => by simp [Loop.start] at hx
  own := fun x hx => by simp [Loop.start] at hx
  actorSockets := rfl
  signal := Finset.mem_insert_self _ _
  listener := Finset.mem_insert_of_mem (Finset.mem_singleton_self _)
  nonneg := by
    intro fd hfd
    rcases Finset.mem_insert.mp hfd with rfl | hfd
    · exact Int.natCast_nonneg signalFd
    · rw [Finset.mem_singleton.mp hfd]
      exact Int.natCast_nonneg listenerFd

/-- The socket invariant in every reachable state of the loop. -/
theorem socketInv_run {format : CommandFormat} {signalFd listenerFd : Nat} {events : List LoopEvent}
    {trace : List LoopOutput}
    (hrun : Run (loopStep format) (Loop.start signalFd listenerFd) events s trace) :
    SocketInv s ∧ PointInv s :=
  hrun.invariant (P := fun _ s _ => SocketInv s ∧ PointInv s) ⟨SocketInv.start _ _, trivial⟩
    fun _ h hstep => h.1.step h.2 (loopStep_cases hstep)

end

end RemoteSimgrid
