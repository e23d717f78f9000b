import RemoteSimgrid.ServeLoopSockets

/-! What the selector polls and what `close_open_sockets` closes, against the clients that the main loop
of `serve` has accepted. -/

namespace RemoteSimgrid

open Machine Pb

/-! ### The selector -/

/-- The sockets that the main loop reads. -/
def Loop.clients (s : Loop) : Finset Socket :=
  s.serve.barelyConnectedSockets ∪ s.serve.droppedSockets.toFinset

/-- The descriptors of the signals, of the listener and of the clients that the loop reads. -/
def Loop.polled (s : Loop) : Finset Int :=
  insert s.signalFd (insert s.listenerFd (s.clients.image s.fd))

/-- A `recv` on a dropped socket does not return -1, and a connected socket is taken out of the selector
before its actor closes it. -/
def LoopEvent.keepsDescriptors (s : Loop) (event : LoopEvent) : Bool :=
  match s.point, event with
  | .dropped _ _, .recv (.failed _) => false
  | .unregister socket _, .unregister => s.fd socket != -1
  | _, _ => true

/-- The selector polls just these descriptors, up to that of a socket that has connected in this pass. -/
def RegisteredInv (s : Loop) : Prop :=
  match s.point with
  | .closing _ _ | .left _ | .raised _ => True
  | .unregister socket _ =>
      (∃ fd, s.registered = insert fd s.polled ∧ (s.fd socket ≠ -1 → fd = s.fd socket)) ∧
        ∀ x ∈ s.clients, s.fd x ≠ -1
  | _ => s.registered = s.polled ∧ ∀ x ∈ s.clients, s.fd x ≠ -1

section

variable {s t : Loop}

theorem Loop.mem_clients {x : Socket} :
    x ∈ s.clients ↔ x ∈ s.serve.barelyConnectedSockets ∨ x ∈ s.serve.droppedSockets := by
  rw [Loop.clients, Finset.mem_union, List.mem_toFinset]

theorem SocketInv.client (h : SocketInv s) {x : Socket} (hx : x ∈ s.clients) :
    x ∈ s.serve.sockets ∧ x ∉ s.actors := by
  rcases Loop.mem_clients.mp hx with hx | hx
  · exact ⟨h.barely x hx, fun hactor => (h.actors x hactor).2.1 hx⟩
  · exact ⟨h.dropped x hx, fun hactor => (h.actors x hactor).2.2 hx⟩

theorem polled_eq (hclients : t.clients = s.clients) (hobjects : t.objects = s.objects)
    (hfds : t.signalFd = s.signalFd ∧ t.listenerFd = s.listenerFd) : t.polled = s.polled := by
  unfold Loop.polled Loop.fd
  rw [hclients, hobjects, hfds.1, hfds.2]

/-- The descriptors after a client is taken away. -/
theorem erase_polled (h : SocketInv s) {socket : Socket} (hmem : socket ∈ s.serve.sockets)
    (hvalid : s.fd socket ≠ -1) (hsocket : socket ∉ t.clients)
    (hclients : s.clients = insert socket t.clients)
    (hobjects : ∀ x ∈ t.clients, t.fd x = s.fd x)
    (hfds : t.signalFd = s.signalFd ∧ t.listenerFd = s.listenerFd) :
    s.polled = insert (s.fd socket) t.polled ∧ s.fd socket ∉ t.polled := by
  have himage : t.clients.image t.fd = t.clients.image s.fd :=
    Finset.image_congr fun x hx => hobjects x hx
  constructor
  · unfold Loop.polled
    rw [hclients, Finset.image_insert, himage, hfds.1, hfds.2]
    ext fd
    simp only [Finset.mem_insert]
    tauto
  · unfold Loop.polled
    rw [himage, hfds.1, hfds.2]
    simp only [Finset.mem_insert, Finset.mem_image, not_or]
    refine ⟨(h.own socket hmem).1, (h.own socket hmem).2, ?_⟩
    rintro ⟨x, hx, hsame⟩
    have hxs : x ∈ s.clients := hclients ▸ Finset.mem_insert_of_mem hx
    have heq : socket = x := h.unique socket hmem x (h.client hxs).1 hsame.symm hvalid
    exact hsocket (heq ▸ hx)

theorem RegisteredInv.of_all (h : t.registered = t.polled ∧ ∀ x ∈ t.clients, t.fd x ≠ -1)
    (hpoint : ∀ socket rest, t.point ≠ .unregister socket rest) : RegisteredInv t := by
  unfold RegisteredInv
  split
  · trivial
  · trivial
  · trivial
  · rename_i socket rest heq
    exact absurd heq (hpoint socket rest)
  · exact h

theorem RegisteredInv.keep (hregistered : t.registered = s.polled) (hvalid : ∀ x ∈ s.clients, s.fd x ≠ -1)
    (hclients : t.clients = s.clients) (hobjects : t.objects = s.objects)
    (hfds : t.signalFd = s.signalFd ∧ t.listenerFd = s.listenerFd)
    (hpoint : ∀ socket rest, t.point ≠ .unregister socket rest) : RegisteredInv t := by
  refine RegisteredInv.of_all ⟨?_, ?_⟩ hpoint
  · exact hregistered.trans (polled_eq hclients hobjects hfds).symm
  · rw [hclients]
    unfold Loop.fd
    rw [hobjects]
    exact hvalid

/-- A client is added, with its descriptor. -/
theorem polled_insert (h : s.registered = s.polled) (hvalid : ∀ x ∈ s.clients, s.fd x ≠ -1)
    {socket : Socket} {fd : Int} (hclients : t.clients = insert socket s.clients)
    (hfd : t.fd socket = fd) (hfdValid : fd ≠ -1) (hobjects : ∀ x ∈ s.clients, t.fd x = s.fd x)
    (hregistered : t.registered = insert fd s.registered)
    (hfds : t.signalFd = s.signalFd ∧ t.listenerFd = s.listenerFd) :
    t.registered = t.polled ∧ ∀ x ∈ t.clients, t.fd x ≠ -1 := by
  have himage : s.clients.image t.fd = s.clients.image s.fd :=
    Finset.image_congr fun x hx => hobjects x hx
  refine ⟨?_, ?_⟩
  · rw [hregistered, h]
    unfold Loop.polled
    rw [hclients, Finset.image_insert, himage, hfd, hfds.1, hfds.2]
    ext f
    simp only [Finset.mem_insert]
    tauto
  · intro x hx
    rcases Finset.mem_insert.mp (hclients ▸ hx) with rfl | hx
    · rwa [hfd]
    · rw [hobjects x hx]
      exact hvalid x hx

theorem Loop.DroppedPoint.ne_unregister {rest : List Socket} {point : LoopPoint}
    (h : s.DroppedPoint rest point) (socket : Socket) (after : List Socket) :
    point ≠ .unregister socket after := by
  rintro rfl
  cases h

theorem Loop.PassPoint.ne_unregister {rest : List Socket} {point : LoopPoint}
    (h : s.PassPoint rest point) (socket : Socket) (after : List Socket) :
    point ≠ .unregister socket after := by
  rintro rfl
  cases h with
  | reads _ _ _ hpoint => rcases hpoint with hpoint | hpoint <;> cases hpoint
  | dropped _ _ hpoint => exact hpoint.ne_unregister socket after rfl

/-- The next iteration begins with the sockets and the selector as they are. -/
theorem RegisteredInv.nextIteration (hregistered : s.registered = s.polled)
    (hvalid : ∀ x ∈ s.clients, s.fd x ≠ -1) : RegisteredInv s.nextIteration := by
  unfold Loop.nextIteration
  split
  · trivial
  · exact ⟨hregistered, hvalid⟩

theorem clients_afterCommand {serve serve' : Serve} {socket : Socket} (drop : Bool)
    (hsocket : socket ∈ serve.barelyConnectedSockets)
    (hbarely : serve'.barelyConnectedSockets = serve.barelyConnectedSockets)
    (hdropped : serve'.droppedSockets = serve.droppedSockets) (hnot : socket ∉ serve.droppedSockets) :
    (serve'.afterCommand socket drop).barelyConnectedSockets ∪
        (serve'.afterCommand socket drop).droppedSockets.toFinset =
      if drop then serve.barelyConnectedSockets ∪ serve.droppedSockets.toFinset
      else (serve.barelyConnectedSockets ∪ serve.droppedSockets.toFinset).erase socket := by
  ext x
  cases drop with
  | true =>
      simp only [Serve.afterCommand, hbarely, hdropped, if_true, Finset.mem_union, Finset.mem_erase,
        List.mem_toFinset, List.mem_append, List.mem_singleton]
      by_cases hx : x = socket
      · simp [hx, hsocket]
      · simp [hx]
  | false =>
      simp only [Serve.afterCommand, hbarely, hdropped, Bool.false_eq_true, if_false,
        Finset.mem_union, Finset.mem_erase, List.mem_toFinset]
      by_cases hx : x = socket
      · simp [hx, hnot]
      · simp [hx]

/-- A dropped socket that `recv` has closed leaves the selector. -/
theorem RegisteredInv.forget (h : s.registered = s.polled) (hvalid : ∀ x ∈ s.clients, s.fd x ≠ -1)
    (hs : SocketInv s) {socket : Socket} (hsocket : socket ∈ s.serve.droppedSockets)
    {u : Loop} (hu : u = (({ s with unread := s.unread.erase (s.fd socket) } : Loop).closeObject
      socket).forget socket) :
    u.registered = u.polled ∧ ∀ x ∈ u.clients, u.fd x ≠ -1 := by
  have hclient : socket ∈ s.clients := Loop.mem_clients.mpr (Or.inr hsocket)
  have hnot : socket ∉ s.serve.barelyConnectedSockets := hs.apart socket hsocket
  have hclients : u.clients = s.clients.erase socket := by
    subst hu
    ext x
    simp only [Loop.mem_clients, Finset.mem_erase]
    show x ∈ s.serve.barelyConnectedSockets.erase socket ∨ x ∈ s.serve.droppedSockets.erase socket ↔ _
    rw [Finset.mem_erase, hs.nodup.mem_erase_iff]
    tauto
  have hfd : ∀ x ∈ u.clients, u.fd x = s.fd x := by
    intro x hx
    have hne : x ≠ socket := Finset.ne_of_mem_erase (hclients ▸ hx)
    subst hu
    show ((Loop.closeObject _ socket).closeObject socket).fd x = s.fd x
    rw [Loop.fd_closeObject, if_neg hne, Loop.fd_closeObject, if_neg hne]
    rfl
  have hclosed : (s.objects socket).close.fdBeforeClose = s.fd socket := by
    have hopen : (s.objects socket).fd ≠ -1 := hvalid socket hclient
    rw [TcpSocket.close, if_neg hopen, Loop.fd]
  have hregistered : u.registered = s.registered.erase (s.fd socket) := by
    subst hu
    rw [← hclosed]
    show s.registered.erase
      ((Function.update s.objects socket (s.objects socket).close) socket).fdBeforeClose = _
    rw [Function.update_self]
  have hfds : u.signalFd = s.signalFd ∧ u.listenerFd = s.listenerFd := by
    subst hu
    exact ⟨rfl, rfl⟩
  have hinsert : s.clients = insert socket u.clients := by
    rw [hclients, Finset.insert_erase hclient]
  have hgone : socket ∉ u.clients := by
    rw [hclients]
    exact Finset.notMem_erase socket _
  obtain ⟨hpolled, hnotPolled⟩ := erase_polled hs (hs.client hclient).1 (hvalid socket hclient) hgone
    hinsert hfd hfds
  refine ⟨?_, ?_⟩
  · rw [hregistered, h, hpolled, Finset.erase_insert hnotPolled]
  · intro x hx
    rw [hfd x hx]
    exact hvalid x (hinsert ▸ Finset.mem_insert_of_mem hx)

/-- An actor has connected: its descriptor is the only one left over in the selector. -/
theorem RegisteredInv.connected (h : s.registered = s.polled) (hvalid : ∀ x ∈ s.clients, s.fd x ≠ -1)
    (hs : SocketInv s) {socket : Socket} {rest : List Socket} {serve : Serve}
    {info : BarelyConnectedSocketInformation} (hsocket : socket ∈ s.serve.barelyConnectedSockets)
    (hbarely : serve.barelyConnectedSockets = s.serve.barelyConnectedSockets)
    (hdropped : serve.droppedSockets = s.serve.droppedSockets) :
    RegisteredInv { s.noted socket info with
      serve := serve.afterCommand socket false
      actors := insert socket s.actors
      point := .unregister socket rest } := by
  have hclient : socket ∈ s.clients := Loop.mem_clients.mpr (Or.inl hsocket)
  have hclients := clients_afterCommand false hsocket hbarely hdropped
    fun hmem => hs.apart socket hmem hsocket
  generalize serve.afterCommand socket false = serve' at hclients
  have hgone : (serve'.barelyConnectedSockets ∪ serve'.droppedSockets.toFinset) =
      s.clients.erase socket := hclients
  have hinsert : s.clients =
      insert socket (serve'.barelyConnectedSockets ∪ serve'.droppedSockets.toFinset) := by
    rw [hgone, Finset.insert_erase hclient]
  obtain ⟨hpolled, -⟩ := erase_polled (t := { s.noted socket info with
      serve := serve', actors := insert socket s.actors, point := .unregister socket rest }) hs
    (hs.client hclient).1 (hvalid socket hclient) (by
      show socket ∉ serve'.barelyConnectedSockets ∪ serve'.droppedSockets.toFinset
      rw [hgone]
      exact Finset.notMem_erase socket _) hinsert (fun _ _ => rfl) ⟨rfl, rfl⟩
  refine ⟨⟨s.fd socket, h.trans hpolled, fun _ => rfl⟩, ?_⟩
  intro x hx
  exact hvalid x (hinsert ▸ Finset.mem_insert_of_mem hx)

/-- The descriptor of a connected actor is not that of a client. -/
theorem SocketInv.actor_notMem_polled (hs : SocketInv s) {socket : Socket} (hactor : socket ∈ s.actors)
    (hvalid : s.fd socket ≠ -1) : s.fd socket ∉ s.polled := by
  have hmem := (hs.actors socket hactor).1
  unfold Loop.polled
  simp only [Finset.mem_insert, Finset.mem_image, not_or]
  refine ⟨(hs.own socket hmem).1, (hs.own socket hmem).2, ?_⟩
  rintro ⟨x, hx, hsame⟩
  have heq := hs.unique socket hmem x (hs.client hx).1 hsame.symm hvalid
  exact (hs.client hx).2 (heq ▸ hactor)

/-- After a message the selector has the socket of an actor that has quit, too. -/
theorem RegisteredInv.message (h : s.registered = s.polled) (hvalid : ∀ x ∈ s.clients, s.fd x ≠ -1)
    {msg : InterthreadMessage} {serve : Serve} {out : List ServeOutput} (hsends : s.Sends msg)
    (hok : s.serve.handleInterthreadMessage msg = .ok (serve, out)) :
    RegisteredInv (({ s with serve := serve } : Loop).afterMessage msg).nextIteration := by
  obtain ⟨hbarely, hdropped, -⟩ := Serve.handleInterthreadMessage_sockets hok
  have hother : (∀ socket, msg ≠ .actorQuit socket) →
      RegisteredInv (({ s with serve := serve } : Loop).afterMessage msg).nextIteration := by
    intro hmsg
    have hclients : serve.barelyConnectedSockets ∪ serve.droppedSockets.toFinset = s.clients := by
      rw [hbarely, hdropped, Serve.quitting_eq_nil hmsg, List.append_nil, Loop.clients]
    rw [Loop.afterMessage_eq hmsg]
    refine RegisteredInv.nextIteration ?_ ?_
    · exact h.trans (polled_eq (t := { s with serve := serve }) hclients rfl ⟨rfl, rfl⟩).symm
    · intro x hx
      exact hvalid x (hclients ▸ hx)
  cases msg with
  | actorQuit socket =>
      obtain ⟨-, hfd⟩ := hsends
      have hclients : serve.barelyConnectedSockets ∪ serve.droppedSockets.toFinset =
          insert socket s.clients := by
        rw [hbarely, hdropped]
        ext x
        simp only [Serve.quitting, Finset.mem_union, List.mem_toFinset, List.mem_append,
          List.mem_singleton, Finset.mem_insert, Loop.mem_clients]
        tauto
      obtain ⟨hregistered', hvalid'⟩ := polled_insert
        (t := ({ s with serve := serve } : Loop).afterMessage (.actorQuit socket))
        h hvalid hclients rfl hfd (fun _ _ => rfl) rfl ⟨rfl, rfl⟩
      exact RegisteredInv.nextIteration hregistered' hvalid'
  | _ => exact hother (fun _ h => by cases h)

/-- An actor closes its socket, which is not one of the clients. -/
theorem RegisteredInv.actorClosed (h : RegisteredInv s) (hs : SocketInv s) {socket : Socket}
    (hactor : socket ∈ s.actors) : RegisteredInv (s.closeObject socket) := by
  have hfd : ∀ x ∈ s.clients, (s.closeObject socket).fd x = s.fd x := by
    intro x hx
    rw [Loop.fd_closeObject, if_neg]
    rintro rfl
    exact (hs.client hx).2 hactor
  have hpolled : (s.closeObject socket).polled = s.polled := by
    unfold Loop.polled
    show insert s.signalFd (insert s.listenerFd (s.clients.image (s.closeObject socket).fd)) = _
    rw [Finset.image_congr fun x hx => hfd x hx]
  have hvalid : (∀ x ∈ s.clients, s.fd x ≠ -1) →
      ∀ x ∈ (s.closeObject socket).clients, (s.closeObject socket).fd x ≠ -1 := by
    intro h x hx
    rw [hfd x hx]
    exact h x hx
  have hkeep : s.registered = s.polled ∧ (∀ x ∈ s.clients, s.fd x ≠ -1) →
      (s.closeObject socket).registered = (s.closeObject socket).polled ∧
        ∀ x ∈ (s.closeObject socket).clients, (s.closeObject socket).fd x ≠ -1 := fun h =>
    ⟨h.1.trans hpolled.symm, hvalid h.2⟩
  have hsame : (s.closeObject socket).point = s.point := rfl
  unfold RegisteredInv at h ⊢
  rw [hsame]
  cases heq : s.point with
  | closing | left | raised => trivial
  | unregister socket' rest =>
      rw [heq] at h
      obtain ⟨⟨fd, hregistered, hfd'⟩, hclients⟩ := h
      refine ⟨⟨fd, ?_, ?_⟩, hvalid hclients⟩
      · rw [hpolled]
        exact hregistered
      · rw [Loop.fd_closeObject]
        by_cases heq' : socket' = socket
        · rw [if_pos heq']
          exact fun hne => absurd rfl hne
        · rw [if_neg heq']
          exact hfd'
  | _ =>
      rw [heq] at h
      exact hkeep h

/-- A step keeps the selector in accord with the clients. -/
theorem RegisteredInv.step {format : CommandFormat} {event : LoopEvent} {out : List LoopOutput}
    (h : RegisteredInv s) (hs : SocketInv s) (hpoint : PointInv s)
    (hkeeps : event.keepsDescriptors s = true) (hstep : LoopStep format s event t out) : RegisteredInv t := by
  have hreading : ∀ {socket rest}, s.Reading socket rest →
      (s.registered = s.polled ∧ ∀ x ∈ s.clients, s.fd x ≠ -1) ∧
        socket ∈ s.serve.barelyConnectedSockets := by
    intro socket rest hread
    unfold RegisteredInv at h
    unfold PointInv at hpoint
    rcases hread with heq | heq <;> rw [heq] at h hpoint <;>
      exact ⟨h, hpoint.2 socket List.mem_cons_self⟩
  have hdropping : ∀ {socket rest}, s.point = .dropped socket rest →
      (s.registered = s.polled ∧ ∀ x ∈ s.clients, s.fd x ≠ -1) ∧ socket ∈ s.serve.droppedSockets := by
    intro socket rest heq
    unfold RegisteredInv at h
    unfold PointInv at hpoint
    rw [heq] at h hpoint
    exact ⟨h, hpoint.2 socket List.mem_cons_self⟩
  have hmessage : s.point = .message → s.registered = s.polled ∧ ∀ x ∈ s.clients, s.fd x ≠ -1 := by
    intro heq
    unfold RegisteredInv at h
    rwa [heq] at h
  cases hstep with
  | selectFailed => trivial
  | selected readable order u point heq _ _ _ _ hu hpass =>
      subst hu
      unfold RegisteredInv at h
      rw [heq] at h
      refine RegisteredInv.keep h.1 h.2 rfl rfl ⟨rfl, rfl⟩ ?_
      rcases hpass with rfl | rfl | rfl | hpass
      · exact fun _ _ h => by cases h
      · exact fun _ _ h => by cases h
      · exact fun _ _ h => by cases h
      · exact hpass.ne_unregister
  | accepted socket fd heq hsocket hfd hnonneg =>
      unfold RegisteredInv at h
      rw [heq] at h
      have hne : ∀ x ∈ s.clients, x ≠ socket := fun x hx heq => hsocket (heq ▸ (hs.client hx).1)
      refine polled_insert h.1 h.2 (Finset.insert_union _ _ _) ?_ (by omega) ?_ rfl ⟨rfl, rfl⟩
      · unfold Loop.fd
        simp only [Function.update_self, TcpSocket.accepted]
      · intro x hx
        unfold Loop.fd
        simp only [Function.update_of_ne (hne x hx)]
  | readMore socket rest outcome info point hread _ hnext =>
      obtain ⟨⟨hregistered, hvalid⟩, -⟩ := hreading hread
      refine RegisteredInv.keep hregistered hvalid rfl rfl ⟨rfl, rfl⟩ ?_
      rcases hnext with rfl | rfl <;> exact fun _ _ h => by cases h
  | readFailed => trivial
  | refused => trivial
  | unanswered => trivial
  | droppedClient socket rest outcome info command serve out' u point hread _ hok hu hpass =>
      subst hu
      obtain ⟨⟨hregistered, hvalid⟩, hsocket⟩ := hreading hread
      obtain ⟨hbarely, hdropped, -⟩ := Serve.handleCommand_sockets hok
      refine RegisteredInv.keep hregistered hvalid ?_ rfl ⟨rfl, rfl⟩ hpass.ne_unregister
      exact clients_afterCommand true hsocket hbarely hdropped fun hmem => hs.apart socket hmem hsocket
  | connected socket rest outcome info command serve out' hread _ hok =>
      obtain ⟨⟨hregistered, hvalid⟩, hsocket⟩ := hreading hread
      obtain ⟨hbarely, hdropped, -⟩ := Serve.handleCommand_sockets hok
      exact RegisteredInv.connected hregistered hvalid hs hsocket hbarely hdropped
  | unregistered socket rest u point heq hu hpass =>
      subst hu
      unfold RegisteredInv at h
      unfold PointInv at hpoint
      simp only [LoopEvent.keepsDescriptors, heq, bne_iff_ne] at hkeeps
      rw [heq] at h hpoint
      obtain ⟨⟨fd, hregistered, hfd⟩, hvalid⟩ := h
      obtain rfl := hfd hkeeps
      have hnot := hs.actor_notMem_polled hpoint.1 hkeeps
      refine RegisteredInv.keep ?_ hvalid rfl rfl ⟨rfl, rfl⟩ hpass.ne_unregister
      show s.registered.erase (s.fd socket) = s.polled
      rw [hregistered, Finset.erase_insert hnot]
  | droppedData socket rest bytes u point heq hu hpass =>
      subst hu
      obtain ⟨⟨hregistered, hvalid⟩, -⟩ := hdropping heq
      exact RegisteredInv.keep hregistered hvalid rfl rfl ⟨rfl, rfl⟩ hpass.ne_unregister
  | droppedClosed socket rest u point heq hu hpass =>
      obtain ⟨⟨hregistered, hvalid⟩, hsocket⟩ := hdropping heq
      obtain ⟨hregistered', hvalid'⟩ := RegisteredInv.forget hregistered hvalid hs hsocket hu
      exact RegisteredInv.keep hregistered' hvalid' rfl rfl ⟨rfl, rfl⟩ hpass.ne_unregister
  | droppedFailed socket rest errno u point heq =>
      simp only [LoopEvent.keepsDescriptors, heq, Bool.false_eq_true] at hkeeps
  | noMessage heq =>
      obtain ⟨hregistered, hvalid⟩ := hmessage heq
      exact RegisteredInv.nextIteration hregistered hvalid
  | messageFailed => trivial
  | message msg serve out' heq _ hsends hok =>
      obtain ⟨hregistered, hvalid⟩ := hmessage heq
      exact RegisteredInv.message hregistered hvalid hsends hok
  | closed abortive code order failing heq =>
      obtain ⟨result, hleft⟩ := closeSockets_left abortive code failing
        (order ++ s.serve.droppedSockets ++ s.actorSockets) s
      unfold RegisteredInv
      rw [hleft]
      trivial
  | actorClosed socket hactor _ => exact h.actorClosed hs hactor

/-- As long as no `recv` on a dropped socket returns -1 and no socket is closed by its actor before it is
taken out of the selector: in front of each `select` the selector holds just the descriptors of the
signals, of the listener and of the clients that the loop reads, and they are all open. -/
theorem selector_polls_clients {format : CommandFormat} {signalFd listenerFd : Nat}
    {events : List LoopEvent} {trace : List LoopOutput}
    (hrun : Run (loopStep format) (Loop.start signalFd listenerFd) events s trace)
    (hkeeps : Throughout (loopStep format) (fun t event => event.keepsDescriptors t = true)
      (Loop.start signalFd listenerFd) events) (hpoint : s.point = .select) :
    s.registered = s.polled ∧ ∀ fd ∈ s.registered, fd ∈ s.openFds := by
  have hinv : SocketInv s ∧ PointInv s ∧ RegisteredInv s :=
    hrun.guarded_invariant (P := fun _ s _ => SocketInv s ∧ PointInv s ∧ RegisteredInv s) hkeeps
      ⟨SocketInv.start _ _, trivial, rfl, fun x hx => by simp [Loop.start, Loop.clients] at hx⟩
      fun _ h hguard hstep => by
        obtain ⟨hs, hpoint, hregistered⟩ := h
        have hcases := loopStep_cases hstep
        obtain ⟨hs', hpoint'⟩ := hs.step hpoint hcases
        exact ⟨hs', hpoint', hregistered.step hs hpoint hguard hcases⟩
  obtain ⟨hs, -, hregistered⟩ := hinv
  unfold RegisteredInv at hregistered
  rw [hpoint] at hregistered
  obtain ⟨hregistered, hvalid⟩ := hregistered
  refine ⟨hregistered, ?_⟩
  intro fd hfd
  rw [hregistered, Loop.polled, Finset.mem_insert, Finset.mem_insert, Finset.mem_image] at hfd
  rcases hfd with rfl | rfl | ⟨x, hx, rfl⟩
  · exact hs.signal
  · exact hs.listener
  · exact hs.isOpen x (hs.client hx).1 (hvalid x hx)

end

/-! ### Runs with one client -/

/-- A format with two commands: `status` and `kill`. -/
def statusFormat : CommandFormat where
  endianness := .little
  parseFromArray bytes :=
    if bytes = [32, 1] then some (.status true) else if bytes = [26, 0] then some (.kill "") else none

/-- A client asks for the status and its socket is dropped. -/
def statusEvents : List LoopEvent :=
  [.select {4} [], .accept 1 5, .message none, .select {5} [1], .recv (.data [2, 0, 0, 0]),
    .recv (.data [32, 1]), .message none, .select {5} []]

theorem selector_polls_clients_closed :
    ∃ s trace, Run (loopStep statusFormat) (Loop.start 3 4)
        (statusEvents ++ [.recv .closed, .message none]) s trace ∧
      s.point = .select ∧ s.registered = s.polled ∧ ∀ fd ∈ s.registered, fd ∈ s.openFds := by
  obtain ⟨s, trace, hexec, hpoint⟩ : ∃ s trace, exec (loopStep statusFormat) (Loop.start 3 4)
      (statusEvents ++ [.recv .closed, .message none]) = some (s, trace) ∧ s.point = .select := by
    refine ⟨_, _, rfl, ?_⟩
    rfl
  have hrun := Run.of_exec hexec
  exact ⟨s, trace, hrun, hpoint, selector_polls_clients hrun (Throughout.of_check rfl) hpoint⟩

/-- The client resets its connection: the selector keeps the closed descriptor, and `select` fails. -/
theorem reset_leaves_closed_descriptor :
    ∃ s trace, Run (loopStep statusFormat) (Loop.start 3 4)
        (statusEvents ++ [.recv (.failed "Connection reset by peer"), .message none]) s trace ∧
      s.point = .select ∧ s.registered ≠ s.polled ∧ 5 ∈ s.registered ∧ 5 ∉ s.openFds ∧
      ∀ readable order t out, loopStep statusFormat s (.select readable order) = some (t, out) →
        t.point = .raised ⟨"Cannot select: Bad file descriptor"⟩ := by
  obtain ⟨s, trace, hexec, hpoint, hpolled, hmem, hnot⟩ : ∃ s trace,
      exec (loopStep statusFormat) (Loop.start 3 4)
        (statusEvents ++ [.recv (.failed "Connection reset by peer"), .message none]) =
          some (s, trace) ∧
      s.point = .select ∧ s.registered ≠ s.polled ∧ 5 ∈ s.registered ∧ 5 ∉ s.openFds := by
    refine ⟨_, _, rfl, rfl, ?_⟩
    decide
  refine ⟨s, trace, Run.of_exec hexec, hpoint, hpolled, hmem, hnot, ?_⟩
  intro readable order t out hstep
  have hclosed : ¬s.registered ⊆ s.openFds := fun hsubset => hnot (hsubset hmem)
  simp only [loopStep, hpoint, if_pos hclosed] at hstep
  cases hstep
  rfl

end RemoteSimgrid
