import RemoteSimgrid.ServeLoopClosing
import RemoteSimgrid.ServeLoopDescriptors
import RemoteSimgrid.ServeLoopKill

/-! `close_open_sockets` and the two exits of `serve` that call it, for any contents of the three collections
and any failures of `setsockopt` and `::shutdown`. -/

namespace RemoteSimgrid

/-- The global variables of `serve.cpp`, with the descriptor of the listener, the unordered collections in
iteration order and the `TcpSocket` objects. -/
structure OpenSockets where
  listener : Option Int
  barelyConnectedSockets : List Socket
  droppedSockets : List Socket
  actorSockets : List Socket
  objects : Socket → TcpSocket

/-- What the system calls on the socket of an object return: 0, or -1 with `errno`. -/
structure SocketCalls where
  setsockopt : Socket → Option String := fun _ => none
  shutdown : Socket → Option String := fun _ => none

inductive CloseOutput where
  | listenerClosed (fd : Int)
  | closed (socket : Socket)
  | deleted (socket : Socket)
  deriving DecidableEq

/-- How `serve` ends: by a signal, or past its main loop. -/
inductive ServeExit where
  | signal
  | loopEnd (returnCode : Nat)
  deriving DecidableEq

namespace ServeExit

def abortiveTermination : ServeExit → Bool
  | signal => true
  | loopEnd _ => false

def code : ServeExit → Nat
  | signal => 1
  | loopEnd returnCode => returnCode

end ServeExit

namespace TcpSocket

def setAbortiveTermination (s : TcpSocket) (result : Option String) : Except Error Unit :=
  rsgEnforce (s.fd ≠ -1) "Wrong TcpSocket::set_abortive_termination call: Invalid socket" <|
  match result with
  | some errno => .error ⟨s!"Cannot setsockopt SO_LINGER: {errno}"⟩
  | none => .ok ()

/-- `shutdown(true, true)`. -/
def shutdownBoth (s : TcpSocket) (result : Option String) : Except Error Unit :=
  if s.fd = -1 then .ok ()
  else
    match result with
    | some errno => .error ⟨s!"Cannot shutdown: {errno}\n"⟩
    | none => .ok ()

end TcpSocket

/-- What a part of `close_open_sockets` does: the objects, the descriptors closed and the objects deleted,
and whether it throws. -/
structure Closing where
  objects : Socket → TcpSocket
  out : List CloseOutput
  result : Except Error Unit

/-- A part that is only reached when the part before it does not throw. -/
def Closing.andThen (first : Closing) (next : (Socket → TcpSocket) → Closing) : Closing :=
  match first.result with
  | .error _ => first
  | .ok () =>
      let second := next first.objects
      { objects := second.objects, out := first.out ++ second.out, result := second.result }

section

variable (calls : SocketCalls) (abortiveTermination : Bool)

/-- `delete`, whose destructor closes the descriptor. -/
def deleteObject (objects : Socket → TcpSocket) (socket : Socket) : Closing :=
  { objects := Function.update objects socket (objects socket).close
    out := if (objects socket).fd = -1 then [.deleted socket] else [.closed socket, .deleted socket]
    result := .ok () }

/-- The body of the three loops. -/
def closeSocket (socket : Socket) (objects : Socket → TcpSocket) : Closing :=
  let object := objects socket
  let aborted :=
    if abortiveTermination then object.setAbortiveTermination (calls.setsockopt socket) else .ok ()
  match aborted with
  | .error e => { objects := objects, out := [], result := .error e }
  | .ok () =>
      match object.shutdownBoth (calls.shutdown socket) with
      | .error e => { objects := objects, out := [], result := .error e }
      | .ok () => deleteObject objects socket

/-- A loop over a collection, up to the first error. -/
def closeLoop : List Socket → (Socket → TcpSocket) → Closing
  | [], objects => { objects := objects, out := [], result := .ok () }
  | socket :: rest, objects =>
      (closeSocket calls abortiveTermination socket objects).andThen (closeLoop rest)

end

namespace OpenSockets

variable (s : OpenSockets) (calls : SocketCalls)

/-- `delete` on the listener. -/
def closeListener : List CloseOutput :=
  match s.listener with
  | none => []
  | some fd => [.listenerClosed fd]

def closeOpenSockets (abortiveTermination : Bool) :
    OpenSockets × List CloseOutput × Except Error Unit :=
  let s₁ := { s with listener := none }
  let barely := closeLoop calls abortiveTermination s.barelyConnectedSockets s₁.objects
  let s₂ := { s₁ with objects := barely.objects }
  let out := s.closeListener ++ barely.out
  match barely.result with
  | .error e => (s₂, out, .error e)
  | .ok () =>
      let s₃ := { s₂ with barelyConnectedSockets := [] }
      let dropped := closeLoop calls abortiveTermination s₃.droppedSockets s₃.objects
      let s₄ := { s₃ with objects := dropped.objects }
      let out := out ++ dropped.out
      match dropped.result with
      | .error e => (s₄, out, .error e)
      | .ok () =>
          let s₅ := { s₄ with droppedSockets := [] }
          let actors := closeLoop calls abortiveTermination s₅.actorSockets s₅.objects
          let s₆ := { s₅ with objects := actors.objects }
          let out := out ++ actors.out
          match actors.result with
          | .error e => (s₆, out, .error e)
          | .ok () => ({ s₆ with actorSockets := [] }, out, .ok ())

/-- The end of `serve`: what it returns after `close_open_sockets`. -/
def leaveServe (exit : ServeExit) : OpenSockets × List CloseOutput × Except Error Nat :=
  let (t, out, result) := s.closeOpenSockets calls exit.abortiveTermination
  (t, out, result.map fun _ => exit.code)

/-- All sockets of the collections. -/
def sockets : List Socket := s.barelyConnectedSockets ++ s.droppedSockets ++ s.actorSockets

end OpenSockets

/-- No call on the socket fails. -/
def Closable (calls : SocketCalls) (abortiveTermination : Bool) (objects : Socket → TcpSocket)
    (socket : Socket) : Prop :=
  (abortiveTermination = true → (objects socket).fd ≠ -1 ∧ calls.setsockopt socket = none) ∧
    ((objects socket).fd ≠ -1 → calls.shutdown socket = none)

section

variable {calls : SocketCalls} {abortive : Bool} {objects : Socket → TcpSocket} {socket x : Socket}
  {sockets rest : List Socket}

/-- A socket whose calls do not fail is deleted; the others stop the clean-up. -/
theorem closeSocket_cases (calls : SocketCalls) (abortive : Bool) (objects : Socket → TcpSocket)
    (socket : Socket) :
    Closable calls abortive objects socket ∧
        closeSocket calls abortive socket objects = deleteObject objects socket ∨
      ¬Closable calls abortive objects socket ∧
        ∃ e, closeSocket calls abortive socket objects = ⟨objects, [], .error e⟩ := by
  unfold closeSocket Closable TcpSocket.setAbortiveTermination TcpSocket.shutdownBoth rsgEnforce
  cases abortive <;> by_cases hfd : (objects socket).fd = -1 <;>
    cases hoption : calls.setsockopt socket <;> cases hshutdown : calls.shutdown socket <;>
    simp [hfd]

theorem closeLoop_cons_ok :
    (closeLoop calls abortive (socket :: rest) objects).result = .ok () ↔
      Closable calls abortive objects socket ∧
        (closeLoop calls abortive rest (deleteObject objects socket).objects).result = .ok () := by
  rw [closeLoop, Closing.andThen]
  rcases closeSocket_cases calls abortive objects socket with ⟨hclosable, heq⟩ | ⟨hnot, e, heq⟩
  · rw [heq]
    exact ⟨fun h => ⟨hclosable, h⟩, fun h => h.2⟩
  · rw [heq]
    exact ⟨fun h => (by cases h), fun h => absurd h.1 hnot⟩

theorem closeLoop_cons (hclosable : Closable calls abortive objects socket) :
    closeLoop calls abortive (socket :: rest) objects =
      ⟨(closeLoop calls abortive rest (deleteObject objects socket).objects).objects,
        (deleteObject objects socket).out ++
          (closeLoop calls abortive rest (deleteObject objects socket).objects).out,
        (closeLoop calls abortive rest (deleteObject objects socket).objects).result⟩ := by
  rw [closeLoop, Closing.andThen]
  rcases closeSocket_cases calls abortive objects socket with ⟨-, heq⟩ | ⟨hnot, -⟩
  · rw [heq]
    rfl
  · exact absurd hclosable hnot

/-- Deleting another socket changes nothing. -/
theorem closable_deleteObject (hne : x ≠ socket) :
    Closable calls abortive (deleteObject objects socket).objects x ↔
      Closable calls abortive objects x := by
  simp only [Closable, deleteObject, Function.update_of_ne hne]

/-- Distinct sockets are all closed just when no call on them fails. -/
theorem closeLoop_ok_iff (hnodup : sockets.Nodup) :
    (closeLoop calls abortive sockets objects).result = .ok () ↔
      ∀ x ∈ sockets, Closable calls abortive objects x := by
  induction sockets generalizing objects with
  | nil => exact ⟨fun _ => List.forall_mem_nil _, fun _ => rfl⟩
  | cons socket rest ih =>
      obtain ⟨hnot, hrest⟩ := List.nodup_cons.mp hnodup
      rw [closeLoop_cons_ok, List.forall_mem_cons, ih hrest]
      refine and_congr_right fun _ => forall₂_congr fun x hx => ?_
      exact closable_deleteObject fun heq => hnot (heq ▸ hx)

theorem fd_deleteObject :
    ((deleteObject objects socket).objects x).fd = if x = socket then -1 else (objects x).fd := by
  unfold deleteObject
  by_cases hx : x = socket
  · rw [hx, if_pos rfl]
    simp only [Function.update_self, TcpSocket.close]
    split
    · assumption
    · rfl
  · rw [if_neg hx]
    simp only [Function.update_of_ne hx]

theorem count_deleteObject (objects : Socket → TcpSocket) (socket x : Socket) :
    (deleteObject objects socket).out.count (.deleted x) = (if x = socket then 1 else 0) ∧
      (deleteObject objects socket).out.count (.closed x) =
        if x = socket ∧ (objects x).fd ≠ -1 then 1 else 0 := by
  unfold deleteObject
  by_cases hx : x = socket
  · subst hx
    by_cases hopen : (objects x).fd = -1 <;> simp [hopen]
  · have hne : socket ≠ x := fun heq => hx heq.symm
    by_cases hopen : (objects socket).fd = -1 <;> simp [hopen, hx, hne]

/-- What a loop that ends has done. -/
theorem closeLoop_done (h : (closeLoop calls abortive sockets objects).result = .ok ()) (x : Socket) :
    ((closeLoop calls abortive sockets objects).objects x).fd =
        (if x ∈ sockets then -1 else (objects x).fd) ∧
      (closeLoop calls abortive sockets objects).out.count (.deleted x) = sockets.count x ∧
      (closeLoop calls abortive sockets objects).out.count (.closed x) =
        if x ∈ sockets ∧ (objects x).fd ≠ -1 then 1 else 0 := by
  induction sockets generalizing objects with
  | nil => simp [closeLoop]
  | cons socket rest ih =>
      obtain ⟨hclosable, hrest⟩ := closeLoop_cons_ok.mp h
      obtain ⟨hfd, hdeleted, hclosed⟩ := ih hrest
      obtain ⟨hfirst, hfirst'⟩ := count_deleteObject objects socket x
      rw [fd_deleteObject] at hfd hclosed
      rw [closeLoop_cons hclosable]
      simp only [List.count_append, List.count_cons, List.mem_cons, beq_iff_eq, hfd, hdeleted, hclosed,
        hfirst, hfirst']
      by_cases hx : x = socket
      · subst hx
        simp [Nat.add_comm]
      · have hne : socket ≠ x := fun heq => hx heq.symm
        simp [hx, hne]

theorem closeLoop_listenerClosed (fd : Int) :
    .listenerClosed fd ∉ (closeLoop calls abortive sockets objects).out := by
  induction sockets generalizing objects with
  | nil => exact List.not_mem_nil
  | cons socket rest ih =>
      rw [closeLoop, Closing.andThen]
      rcases closeSocket_cases calls abortive objects socket with ⟨-, heq⟩ | ⟨-, e, heq⟩
      · rw [heq]
        simp only [deleteObject, List.mem_append, not_or]
        refine ⟨?_, ih⟩
        split <;> simp
      · rw [heq]
        exact List.not_mem_nil

theorem Closing.andThen_error {first : Closing} {e : Error} (h : first.result = .error e)
    (next : (Socket → TcpSocket) → Closing) : first.andThen next = first := by
  rw [Closing.andThen, h]

theorem Closing.andThen_ok {first : Closing} (h : first.result = .ok ())
    (next : (Socket → TcpSocket) → Closing) :
    first.andThen next =
      ⟨(next first.objects).objects, first.out ++ (next first.objects).out,
        (next first.objects).result⟩ := by
  rw [Closing.andThen, h]

theorem Closing.andThen_assoc (first : Closing) (second third : (Socket → TcpSocket) → Closing) :
    (first.andThen second).andThen third =
      first.andThen fun objects => (second objects).andThen third := by
  cases hfirst : first.result with
  | error e => simp only [andThen, hfirst]
  | ok _ =>
      cases hsecond : (second first.objects).result with
      | error e => simp only [andThen, hfirst, hsecond]
      | ok _ => simp only [andThen, hfirst, hsecond, List.append_assoc]

/-- One loop over two collections does what two loops do. -/
theorem closeLoop_append (first second : List Socket) (objects : Socket → TcpSocket) :
    closeLoop calls abortive (first ++ second) objects =
      (closeLoop calls abortive first objects).andThen (closeLoop calls abortive second) := by
  induction first generalizing objects with
  | nil => rfl
  | cons socket rest ih =>
      rw [List.cons_append, closeLoop, closeLoop, Closing.andThen_assoc]
      congr 1
      funext objects
      exact ih objects

/-- When no part throws, the collections end up empty. -/
theorem closeOpenSockets_ok {s : OpenSockets}
    (h : (closeLoop calls abortive s.sockets s.objects).result = .ok ()) :
    s.closeOpenSockets calls abortive =
      ({ listener := none
         barelyConnectedSockets := []
         droppedSockets := []
         actorSockets := []
         objects := (closeLoop calls abortive s.sockets s.objects).objects },
        s.closeListener ++ (closeLoop calls abortive s.sockets s.objects).out, .ok ()) := by
  unfold OpenSockets.sockets at h ⊢
  rw [closeLoop_append, closeLoop_append, Closing.andThen_assoc] at h ⊢
  unfold OpenSockets.closeOpenSockets
  dsimp only
  cases hbarely : (closeLoop calls abortive s.barelyConnectedSockets s.objects).result with
  | error e =>
      rw [Closing.andThen_error hbarely, hbarely] at h
      cases h
  | ok _ =>
      rw [Closing.andThen_ok hbarely] at h ⊢
      generalize closeLoop calls abortive s.barelyConnectedSockets s.objects = barely at h ⊢
      dsimp only at h ⊢
      cases hdropped : (closeLoop calls abortive s.droppedSockets barely.objects).result with
      | error e =>
          rw [Closing.andThen_error hdropped, hdropped] at h
          cases h
      | ok _ =>
          rw [Closing.andThen_ok hdropped] at h ⊢
          dsimp only at h ⊢
          simp only [h, List.append_assoc]

theorem closeOpenSockets_error {s : OpenSockets} {e : Error}
    (h : (closeLoop calls abortive s.sockets s.objects).result = .error e) :
    (s.closeOpenSockets calls abortive).2.2 = .error e := by
  unfold OpenSockets.sockets at h
  rw [closeLoop_append, closeLoop_append, Closing.andThen_assoc] at h
  unfold OpenSockets.closeOpenSockets
  dsimp only
  cases hbarely : (closeLoop calls abortive s.barelyConnectedSockets s.objects).result with
  | error e =>
      rw [Closing.andThen_error hbarely, hbarely] at h
      exact h
  | ok _ =>
      rw [Closing.andThen_ok hbarely] at h
      generalize closeLoop calls abortive s.barelyConnectedSockets s.objects = barely at h ⊢
      dsimp only at h ⊢
      cases hdropped : (closeLoop calls abortive s.droppedSockets barely.objects).result with
      | error e =>
          rw [Closing.andThen_error hdropped, hdropped] at h
          exact h
      | ok _ =>
          rw [Closing.andThen_ok hdropped] at h
          dsimp only at h
          simp only [h]

end

/-- The clean-up is complete: `serve` returns its code, the listener is closed, each socket is closed and
deleted once, and the collections are empty. -/
structure CleansUp (s : OpenSockets) (exit : ServeExit)
    (result : OpenSockets × List CloseOutput × Except Error Nat) : Prop where
  returned : result.2.2 = .ok exit.code
  listener : result.1.listener = none ∧
    ∀ fd, result.2.1.count (.listenerClosed fd) = if s.listener = some fd then 1 else 0
  deleted : ∀ x ∈ s.sockets, result.2.1.count (.deleted x) = 1
  closed : ∀ x ∈ s.sockets, (result.1.objects x).fd = -1 ∧
    result.2.1.count (.closed x) = if (s.objects x).fd = -1 then 0 else 1
  emptied : result.1.sockets = []

section

variable {s : OpenSockets} {calls : SocketCalls} {exit : ServeExit}

theorem count_closeListener (x : Socket) :
    s.closeListener.count (.deleted x) = 0 ∧ s.closeListener.count (.closed x) = 0 := by
  unfold OpenSockets.closeListener
  cases s.listener <;> simp

theorem closable_of_cleansUp (h : CleansUp s exit (s.leaveServe calls exit)) :
    s.sockets.Nodup ∧ ∀ x ∈ s.sockets, Closable calls exit.abortiveTermination s.objects x := by
  unfold OpenSockets.leaveServe at h
  have hresult : (closeLoop calls exit.abortiveTermination s.sockets s.objects).result = .ok () := by
    cases hloop : (closeLoop calls exit.abortiveTermination s.sockets s.objects).result with
    | ok _ => rfl
    | error e =>
        have hreturned := h.returned
        simp only [closeOpenSockets_error hloop] at hreturned
        cases hreturned
  have hnodup : s.sockets.Nodup := by
    rw [List.nodup_iff_count_eq_one]
    intro x hx
    have hdeleted := h.deleted x hx
    simp only [closeOpenSockets_ok hresult, List.count_append, (closeLoop_done hresult x).2.1,
      (count_closeListener x).1, Nat.zero_add] at hdeleted
    exact hdeleted
  exact ⟨hnodup, (closeLoop_ok_iff hnodup).mp hresult⟩

theorem cleansUp_of_closable (hnodup : s.sockets.Nodup)
    (hclosable : ∀ x ∈ s.sockets, Closable calls exit.abortiveTermination s.objects x) :
    CleansUp s exit (s.leaveServe calls exit) := by
  have hresult := (closeLoop_ok_iff hnodup).mpr hclosable
  unfold OpenSockets.leaveServe
  rw [closeOpenSockets_ok hresult]
  refine ⟨rfl, ⟨rfl, fun fd => ?_⟩, fun x hx => ?_, fun x hx => ?_, rfl⟩
  · have hlistener :
        .listenerClosed fd ∉ (closeLoop calls exit.abortiveTermination s.sockets s.objects).out :=
      closeLoop_listenerClosed fd
    have hnone := List.count_eq_zero_of_not_mem hlistener
    simp only [List.count_append, hnone, OpenSockets.closeListener]
    cases s.listener with
    | none => simp
    | some fd' => simp [List.count_singleton]
  · obtain ⟨-, hdeleted, -⟩ := closeLoop_done hresult x
    simp only [List.count_append, hdeleted, (count_closeListener x).1]
    rw [List.count_eq_one_of_mem hnodup hx]
  · obtain ⟨hfd, -, hclosed⟩ := closeLoop_done hresult x
    rw [if_pos hx] at hfd
    refine ⟨hfd, ?_⟩
    simp only [List.count_append, hclosed, (count_closeListener x).2]
    by_cases hopen : (s.objects x).fd = -1 <;> simp [hopen, hx]

/-- `close_open_sockets` completes just when no call of `setsockopt` or `::shutdown` that it makes fails, and
no socket is in the collections twice. -/
theorem leaveServe_cleansUp_iff (s : OpenSockets) (calls : SocketCalls) (exit : ServeExit) :
    CleansUp s exit (s.leaveServe calls exit) ↔
      s.sockets.Nodup ∧ ∀ x ∈ s.sockets, Closable calls exit.abortiveTermination s.objects x :=
  ⟨closable_of_cleansUp, fun h => cleansUp_of_closable h.1 h.2⟩

/-- Two dropped sockets at the end of the simulation. -/
def droppedPair : OpenSockets where
  listener := some 4
  barelyConnectedSockets := []
  droppedSockets := [1, 2]
  actorSockets := []
  objects x := .accepted (x + 4)

/-- The peer of the first has reset its connection: `serve` throws, and neither is closed. -/
theorem leaveServe_peer_reset :
    ¬CleansUp droppedPair (.loopEnd 0) (droppedPair.leaveServe
        { shutdown := fun x => if x = 1 then some "Transport endpoint is not connected" else none }
        (.loopEnd 0)) ∧
      (droppedPair.leaveServe
        { shutdown := fun x => if x = 1 then some "Transport endpoint is not connected" else none }
        (.loopEnd 0)).1.sockets = [1, 2] := by
  refine ⟨fun h => ?_, rfl⟩
  cases h.returned

/-! ### The main loop -/

/-- The global variables at the end of the main loop. -/
def Loop.openSockets (s : Loop) (order : List Socket) : OpenSockets where
  listener := some s.listenerFd
  barelyConnectedSockets := order
  droppedSockets := s.serve.droppedSockets
  actorSockets := s.actorSockets
  objects := s.objects

/-- `::shutdown` fails on these sockets. -/
def SocketCalls.failing (sockets : Finset Socket) : SocketCalls where
  shutdown x := if x ∈ sockets then some "" else none

theorem closable_failing {failing : Finset Socket} {abortive : Bool} {objects : Socket → TcpSocket}
    {x : Socket} (hfd : (objects x).fd ≠ -1) :
    Closable (.failing failing) abortive objects x ↔ x ∉ failing := by
  unfold Closable SocketCalls.failing
  by_cases hx : x ∈ failing <;> simp [hx, hfd]

/-- The end of a run of the main loop whose sockets have not been closed. -/
theorem loop_leaves_cleansUp {format : CommandFormat} {l t : Loop} {out : List LoopOutput}
    {order : List Socket} {failing : Finset Socket} (hs : SocketInv l)
    (hfds : ∀ x ∈ l.clients, l.fd x ≠ -1)
    (hpoint : l.point = .closing exit.abortiveTermination exit.code)
    (hstep : LoopStep format l (.close order failing) t out) :
    t.point = .left (.ok exit.code) ↔ CleansUp (l.openSockets order) exit
      ((l.openSockets order).leaveServe (.failing failing) exit) := by
  cases hstep with
  | closed abortive code _ _ heq hnodup horder =>
      rw [hpoint] at heq
      cases heq
      obtain ⟨hall, -⟩ := hs.closingOrder hnodup horder
      have hopen : ∀ x ∈ order ++ l.serve.droppedSockets ++ l.actorSockets, l.fd x ≠ -1 := by
        rw [hs.actorSockets, List.append_nil]
        intro x hx
        refine hfds x (Loop.mem_clients.mpr ?_)
        rw [← horder, List.mem_toFinset]
        exact List.mem_append.mp hx
      by_cases hshut : l.shutsDown failing
          (order ++ l.serve.droppedSockets ++ l.actorSockets) = true
      · obtain ⟨-, hleft, -⟩ := closeSockets_all exit.abortiveTermination exit.code hshut
        refine ⟨fun _ => cleansUp_of_closable hall fun x hx => ?_, fun _ => hleft⟩
        have hx' := List.all_eq_true.mp hshut x hx
        rw [decide_eq_true_eq] at hx'
        exact (closable_failing (hopen x hx)).mpr (hx'.resolve_right (hopen x hx))
      · obtain ⟨e, hleft⟩ := closeSockets_fails exit.abortiveTermination exit.code hall hshut
        refine ⟨fun hok => ?_, fun h => absurd ?_ hshut⟩
        · rw [hleft] at hok
          cases hok
        · refine List.all_eq_true.mpr fun x hx => ?_
          rw [decide_eq_true_eq]
          exact Or.inl ((closable_failing (hopen x hx)).mp ((closable_of_cleansUp h).2 x hx))

end

end RemoteSimgrid
