import RemoteSimgrid.Selector
import RemoteSimgrid.ServeLoopDescriptors

/-! The calls of the selector that the main loop of `serve` makes, and whether the descriptors it passes
are such as an `fd_set` can hold. -/

namespace RemoteSimgrid

open Machine Pb

/-- A call of the selector, each of which uses one of the macros `FD_SET`, `FD_CLR` and `FD_ISSET`. -/
inductive SelectorCall where
  | add (fd : Int)
  | remove (fd : Int)
  | isReadable (fd : Int)
  deriving DecidableEq

namespace SelectorCall

def fd : SelectorCall → Int
  | add fd | remove fd | isReadable fd => fd

/-- What the call does to the registered descriptors. -/
def apply (registered : Finset Int) : SelectorCall → Finset Int
  | add fd => insert fd registered
  | remove fd => registered.erase fd
  | isReadable _ => registered

end SelectorCall

namespace Loop

variable (s : Loop)

/-- The tests of the traversal of the dropped sockets, up to the first one that is readable. -/
def droppedTests : List Socket → List SelectorCall
  | [] => []
  | socket :: rest =>
      .isReadable (s.fd socket) :: if s.fd socket ∈ s.readable then [] else droppedTests rest

/-- The tests after the traversal of the barely connected sockets. -/
def afterTests : List SelectorCall :=
  if s.clientDropped then [] else s.droppedTests s.serve.droppedSockets

/-- The tests of the traversal of the barely connected sockets, up to the next `recv`. -/
def passTests : List Socket → List SelectorCall
  | [] => s.afterTests
  | socket :: rest =>
      .isReadable (s.fd socket) :: if s.fd socket ∈ s.readable then [] else passTests rest

/-- The calls after `wait_any_readable` has returned true. -/
def selectTests (readable : Finset Int) (order : List Socket) : List SelectorCall :=
  .isReadable s.signalFd ::
    if s.signalFd ∈ readable then []
    else .isReadable s.listenerFd :: if s.listenerFd ∈ readable then [] else s.passTests order

/-- The calls after a `recv` on a barely connected socket: a socket whose command is incomplete is tested
again, except between the header and the content, which are read in the same call. -/
def readTests (format : CommandFormat) (socket : Socket) (rest : List Socket) (outcome : RecvOutcome)
    (t : Loop) : List SelectorCall :=
  match s.brings format outcome with
  | .incomplete =>
      match s.point, t.point with
      | .header _ _, .content _ _ => []
      | _, _ => [.isReadable (s.fd socket)]
  | .complete command =>
      match s.serve.handleCommand command socket with
      | .ok (_, _, true) => t.passTests rest
      | _ => []
  | .invalid => []

end Loop

/-- The calls of the selector in a step from `s` to `t`. -/
def selectorCalls (format : CommandFormat) (s : Loop) (event : LoopEvent) (t : Loop) :
    List SelectorCall :=
  match s.point, event with
  | .select, .select readable order =>
      if ¬s.registered ⊆ s.openFds ∨ readable = ∅ then [] else t.selectTests readable order
  | .accept, .accept _ fd => [.add fd]
  | .header socket rest, .recv outcome => s.readTests format socket rest outcome t
  | .content socket rest, .recv outcome => s.readTests format socket rest outcome t
  | .unregister socket rest, .unregister => .remove (s.fd socket) :: t.passTests rest
  | .dropped _ rest, .recv (.data _) => t.droppedTests rest
  | .dropped socket rest, .recv .closed =>
      .remove (s.objects socket).close.fdBeforeClose :: t.droppedTests rest
  | .dropped socket rest, .recv (.failed _) =>
      .remove (s.objects socket).fdBeforeClose :: t.droppedTests rest
  | .message, .message (some (.actorQuit socket)) => [.add (s.fd socket)]
  | _, _ => []

/-- The main loop, with the calls of the selector as what can be seen of it. -/
def selectorStep (format : CommandFormat) (s : Loop) (event : LoopEvent) :
    Option (Loop × List SelectorCall) :=
  (loopStep format s event).map fun next => (next.1, selectorCalls format s event next.1)

/-- The calls in front of the main loop. -/
def selectorStart (signalFd listenerFd : Nat) : List SelectorCall := [.add signalFd, .add listenerFd]

/-- The kernel gives a new client a descriptor that an `fd_set` can hold, no `recv` on a dropped socket
returns -1, and a connected socket is taken out of the selector before its actor closes it. -/
def LoopEvent.fitsFdSet (s : Loop) (event : LoopEvent) : Bool :=
  match s.point, event with
  | .accept, .accept _ fd => decide (fd < fdSetSize)
  | _, _ => event.keepsDescriptors s

/-- The descriptors of the sockets fit into an `fd_set`, and those that are open have not been closed
before. -/
structure FitsInv (s : Loop) : Prop where
  signal : s.signalFd < fdSetSize
  listener : s.listenerFd < fdSetSize
  fits : ∀ x ∈ s.serve.sockets, s.fd x < fdSetSize
  fresh : ∀ x ∈ s.serve.sockets, s.fd x ≠ -1 → (s.objects x).fdBeforeClose = -1

section

variable {format : CommandFormat} {s t : Loop} {event : LoopEvent} {out : List LoopOutput}
  {calls : List SelectorCall}

theorem selectorStep_eq (h : selectorStep format s event = some (t, calls)) :
    ∃ out, loopStep format s event = some (t, out) ∧ calls = selectorCalls format s event t := by
  obtain ⟨⟨u, out⟩, hstep, heq⟩ := Option.map_eq_some_iff.mp h
  cases heq
  exact ⟨out, hstep, rfl⟩

/-- The runs are those of the main loop. -/
theorem exists_run_selectorStep {events : List LoopEvent} {trace : List LoopOutput} :
    Run (loopStep format) s events t trace → ∃ calls, Run (selectorStep format) s events t calls := by
  intro hrun
  induction hrun with
  | nil => exact ⟨[], Run.nil⟩
  | @snoc _ t _ event u _ _ hlast ih =>
      obtain ⟨calls, hrun⟩ := ih
      have hstep : selectorStep format t event = some (u, selectorCalls format t event u) := by
        unfold selectorStep
        rw [hlast]
        rfl
      exact ⟨_, hrun.snoc hstep⟩

theorem exists_run_loopStep {events : List LoopEvent} :
    Run (selectorStep format) s events t calls → ∃ trace, Run (loopStep format) s events t trace := by
  intro hrun
  induction hrun with
  | nil => exact ⟨[], Run.nil⟩
  | snoc _ hlast ih =>
      obtain ⟨trace, hrun⟩ := ih
      obtain ⟨out, hstep, -⟩ := selectorStep_eq hlast
      exact ⟨_, hrun.snoc hstep⟩

/-! ### The registered descriptors -/

theorem droppedTests_apply (registered : Finset Int) (rest : List Socket) :
    (s.droppedTests rest).foldl SelectorCall.apply registered = registered := by
  induction rest with
  | nil => rfl
  | cons socket rest ih =>
      unfold Loop.droppedTests
      split
      · rfl
      · exact ih

theorem passTests_apply (registered : Finset Int) (rest : List Socket) :
    (s.passTests rest).foldl SelectorCall.apply registered = registered := by
  induction rest with
  | nil =>
      unfold Loop.passTests Loop.afterTests
      split
      · rfl
      · exact droppedTests_apply registered _
  | cons socket rest ih =>
      unfold Loop.passTests
      split
      · rfl
      · exact ih

theorem readTests_apply (registered : Finset Int) (socket : Socket) (rest : List Socket)
    (outcome : RecvOutcome) :
    (s.readTests format socket rest outcome t).foldl SelectorCall.apply registered = registered := by
  unfold Loop.readTests
  split
  · split <;> rfl
  · split
    · exact passTests_apply registered rest
    · rfl
  · rfl

theorem selectTests_apply (registered readable : Finset Int) (order : List Socket) :
    (s.selectTests readable order).foldl SelectorCall.apply registered = registered := by
  unfold Loop.selectTests
  split
  · rfl
  · split
    · rfl
    · exact passTests_apply registered order

theorem registered_nextIteration : s.nextIteration.registered = s.registered := by
  unfold Loop.nextIteration
  split <;> rfl

theorem registered_closeSockets (abortive : Bool) (code : Nat) (failing : Finset Socket)
    (sockets : List Socket) (s : Loop) :
    (Loop.closeSockets abortive code failing sockets s).1.registered = s.registered := by
  induction sockets generalizing s with
  | nil => rfl
  | cons socket rest ih =>
      unfold Loop.closeSockets
      split
      · rfl
      · exact ih (s.deleteSocket socket)

/-- The calls of a step are those that change the registered descriptors. -/
theorem selectorCalls_apply (hstep : LoopStep format s event t out) :
    (selectorCalls format s event t).foldl SelectorCall.apply s.registered = t.registered := by
  have hread : ∀ {socket rest outcome}, s.Reading socket rest → event = .recv outcome →
      (selectorCalls format s event t).foldl SelectorCall.apply s.registered = s.registered := by
    rintro socket rest outcome hread rfl
    unfold selectorCalls
    rcases hread with heq | heq
    · rw [heq]
      exact readTests_apply _ _ _ _
    · rw [heq]
      exact readTests_apply _ _ _ _
  cases hstep with
  | selectFailed readable order e heq hopen =>
      unfold selectorCalls
      rw [heq]
      dsimp only
      rw [if_pos (Or.inl hopen)]
      rfl
  | selected readable order u point heq =>
      subst_vars
      unfold selectorCalls
      rw [heq]
      dsimp only
      split
      · rfl
      · exact selectTests_apply _ _ _
  | accepted socket fd heq =>
      unfold selectorCalls
      rw [heq]
      rfl
  | readMore _ _ _ _ _ hreading => exact hread hreading rfl
  | readFailed _ _ _ _ _ _ _ hreading _ hu ht =>
      rw [hread hreading rfl]
      rcases ht with rfl | rfl <;> subst hu <;> rfl
  | refused _ _ _ _ _ _ hreading => exact hread hreading rfl
  | droppedClient _ _ _ _ _ _ _ _ _ hreading _ _ hu =>
      rw [hread hreading rfl]
      subst hu
      rfl
  | connected _ _ _ _ _ _ _ hreading => exact hread hreading rfl
  | unanswered socket rest bytes errno info command serve out' dropClient e heq =>
      unfold selectorCalls
      rw [heq]
      rfl
  | unregistered socket rest u point heq hu =>
      subst hu
      unfold selectorCalls
      rw [heq]
      exact passTests_apply _ _
  | droppedData socket rest bytes u point heq hu =>
      subst hu
      unfold selectorCalls
      rw [heq]
      exact droppedTests_apply _ _
  | droppedClosed socket rest u point heq hu =>
      subst hu
      unfold selectorCalls
      rw [heq]
      refine (droppedTests_apply _ _).trans ?_
      show s.registered.erase _ = s.registered.erase
        (Function.update s.objects socket (s.objects socket).close socket).fdBeforeClose
      rw [Function.update_self]
  | droppedFailed socket rest errno u point heq hu =>
      subst hu
      unfold selectorCalls
      rw [heq]
      exact droppedTests_apply _ _
  | noMessage heq =>
      unfold selectorCalls
      rw [heq]
      exact registered_nextIteration.symm
  | messageFailed msg e heq _ _ hfails =>
      unfold selectorCalls
      rw [heq]
      cases msg with
      | actorQuit socket => cases hfails
      | _ => rfl
  | message msg serve out' heq =>
      unfold selectorCalls
      rw [heq, registered_nextIteration]
      cases msg <;> rfl
  | closed abortive code order failing heq =>
      unfold selectorCalls
      rw [heq, registered_closeSockets]
      rfl
  | actorClosed socket =>
      unfold selectorCalls
      cases s.point <;> rfl

/-! ### The descriptors of the sockets -/

theorem FitsInv.of (h : FitsInv s)
    (hfds : t.signalFd = s.signalFd ∧ t.listenerFd = s.listenerFd)
    (hsockets : ∀ x ∈ t.serve.sockets, (x ∈ s.serve.sockets ∧ t.objects x = s.objects x) ∨
      t.fd x = -1) : FitsInv t where
  signal := hfds.1 ▸ h.signal
  listener := hfds.2 ▸ h.listener
  fits x hx := by
    rcases hsockets x hx with ⟨hmem, hsame⟩ | hclosed
    · rw [Loop.fd, hsame]
      exact h.fits x hmem
    · rw [hclosed]
      decide
  fresh x hx hfd := by
    rcases hsockets x hx with ⟨hmem, hsame⟩ | hclosed
    · rw [Loop.fd, hsame] at hfd
      rw [hsame]
      exact h.fresh x hmem hfd
    · exact absurd hclosed hfd

theorem FitsInv.same (h : FitsInv s) (hserve : t.serve.sockets = s.serve.sockets)
    (hobjects : t.objects = s.objects)
    (hfds : t.signalFd = s.signalFd ∧ t.listenerFd = s.listenerFd) : FitsInv t :=
  h.of hfds fun x hx => Or.inl ⟨hserve ▸ hx, by rw [hobjects]⟩

theorem FitsInv.closeObject (h : FitsInv s) (socket : Socket) : FitsInv (s.closeObject socket) := by
  refine h.of ⟨rfl, rfl⟩ fun x hx => ?_
  by_cases heq : x = socket
  · rw [Loop.fd_closeObject, if_pos heq]
    exact Or.inr rfl
  · exact Or.inl ⟨hx, Function.update_of_ne heq _ _⟩

theorem FitsInv.deleteSocket (h : FitsInv s) (socket : Socket) : FitsInv (s.deleteSocket socket) :=
  (h.closeObject socket).of ⟨rfl, rfl⟩ fun _ hx => Or.inl ⟨Finset.mem_of_mem_erase hx, rfl⟩

theorem FitsInv.forget (h : FitsInv s) (socket : Socket) : FitsInv (s.forget socket) := by
  have hsame : FitsInv { s with registered := s.registered.erase (s.objects socket).fdBeforeClose } :=
    h.same rfl rfl ⟨rfl, rfl⟩
  exact hsame.deleteSocket socket

theorem FitsInv.closeSockets (h : FitsInv s) (abortive : Bool) (code : Nat) (failing : Finset Socket)
    (sockets : List Socket) : FitsInv (Loop.closeSockets abortive code failing sockets s).1 :=
  closeSockets_keeps h (fun _ socket hs => hs.deleteSocket socket)
    (fun _ _ hs => hs.same rfl rfl ⟨rfl, rfl⟩) _ _ _ _

theorem FitsInv.nextIteration (h : FitsInv s) : FitsInv s.nextIteration := by
  unfold Loop.nextIteration
  split
  · exact h.same rfl rfl ⟨rfl, rfl⟩
  · exact h.same rfl rfl ⟨rfl, rfl⟩

/-- A step whose new descriptor fits keeps them all so. -/
theorem FitsInv.step (h : FitsInv s) (hfits : event.fitsFdSet s = true)
    (hstep : LoopStep format s event t out) : FitsInv t := by
  cases hstep with
  | selectFailed => exact h.same rfl rfl ⟨rfl, rfl⟩
  | selected _ _ _ _ _ _ _ _ _ hu =>
      subst hu
      exact h.same rfl rfl ⟨rfl, rfl⟩
  | accepted socket fd heq =>
      simp only [LoopEvent.fitsFdSet, heq, decide_eq_true_eq] at hfits
      have hnew : ∀ x, x = socket → Function.update s.objects socket (.accepted fd) x = .accepted fd :=
        fun x hx => by rw [hx, Function.update_self]
      have hold : ∀ x ≠ socket, Function.update s.objects socket (.accepted fd) x = s.objects x :=
        fun x hx => Function.update_of_ne hx _ _
      refine ⟨h.signal, h.listener, fun x hx => ?_, fun x hx hfd => ?_⟩
      · unfold Loop.fd
        by_cases heq : x = socket
        · simp only [hnew x heq]
          exact hfits
        · simp only [hold x heq]
          exact h.fits x ((Finset.mem_insert.mp hx).resolve_left heq)
      · unfold Loop.fd at hfd
        by_cases heq : x = socket
        · simp only [hnew x heq]
          rfl
        · simp only [hold x heq] at hfd ⊢
          exact h.fresh x ((Finset.mem_insert.mp hx).resolve_left heq) hfd
  | readMore => exact h.same rfl rfl ⟨rfl, rfl⟩
  | readFailed socket _ _ infos u _ _ _ _ hu ht =>
      subst hu
      have hsame : FitsInv { s with unread := s.unread.erase (s.fd socket), infos := infos } :=
        h.same rfl rfl ⟨rfl, rfl⟩
      rcases ht with rfl | rfl
      · exact hsame.same rfl rfl ⟨rfl, rfl⟩
      · exact (hsame.closeObject socket).same rfl rfl ⟨rfl, rfl⟩
  | refused => exact h.same rfl rfl ⟨rfl, rfl⟩
  | droppedClient _ _ _ _ _ _ _ _ _ _ _ hok hu =>
      subst hu
      exact h.same (Serve.handleCommand_sockets hok).2.2 rfl ⟨rfl, rfl⟩
  | connected _ _ _ _ _ _ _ _ _ hok =>
      exact h.same (Serve.handleCommand_sockets hok).2.2 rfl ⟨rfl, rfl⟩
  | unanswered _ _ _ _ _ _ _ _ _ _ _ _ hok =>
      exact h.same (Serve.handleCommand_sockets hok).2.2 rfl ⟨rfl, rfl⟩
  | unregistered _ _ _ _ _ hu =>
      subst hu
      exact h.same rfl rfl ⟨rfl, rfl⟩
  | droppedData _ _ _ _ _ _ hu =>
      subst hu
      exact h.same rfl rfl ⟨rfl, rfl⟩
  | droppedClosed socket _ _ _ _ hu =>
      subst hu
      have hsame : FitsInv { s with unread := s.unread.erase (s.fd socket) } :=
        h.same rfl rfl ⟨rfl, rfl⟩
      exact ((hsame.closeObject socket).forget socket).same rfl rfl ⟨rfl, rfl⟩
  | droppedFailed socket _ _ _ _ _ hu =>
      subst hu
      have hsame : FitsInv { s with unread := s.unread.erase (s.fd socket) } :=
        h.same rfl rfl ⟨rfl, rfl⟩
      exact (hsame.forget socket).same rfl rfl ⟨rfl, rfl⟩
  | noMessage => exact h.nextIteration
  | messageFailed => exact h.same rfl rfl ⟨rfl, rfl⟩
  | message msg serve out' _ _ _ hok =>
      have hsockets := (Serve.handleInterthreadMessage_sockets hok).2.2
      refine FitsInv.nextIteration ?_
      cases msg <;> exact h.same hsockets rfl ⟨rfl, rfl⟩
  | closed => exact h.closeSockets _ _ _ _
  | actorClosed socket => exact h.closeObject socket

/-! ### The descriptors that are passed -/

/-- What the descriptors of the selector rest on. -/
structure SelectorInv (s : Loop) : Prop where
  sockets : SocketInv s
  point : PointInv s
  registered : RegisteredInv s
  fits : FitsInv s

theorem keepsDescriptors_of_fitsFdSet (h : event.fitsFdSet s = true) :
    event.keepsDescriptors s = true := by
  unfold LoopEvent.fitsFdSet at h
  split at h
  · rename_i heq
    unfold LoopEvent.keepsDescriptors
    rw [heq]
  · exact h

theorem SelectorInv.step (h : SelectorInv s) (hfits : event.fitsFdSet s = true)
    (hstep : LoopStep format s event t out) : SelectorInv t := by
  obtain ⟨hsockets, hpoint⟩ := h.sockets.step h.point hstep
  exact
    { sockets := hsockets
      point := hpoint
      registered :=
        h.registered.step h.sockets h.point (keepsDescriptors_of_fitsFdSet hfits) hstep
      fits := h.fits.step hfits hstep }

/-- A socket of the loop that is open has a descriptor that fits. -/
theorem SelectorInv.inFdSet (h : SelectorInv s) {x : Socket} (hx : x ∈ s.serve.sockets)
    (hfd : s.fd x ≠ -1) : InFdSet (s.fd x) :=
  ⟨h.sockets.nonneg _ (h.sockets.isOpen x hx hfd), h.fits.fits x hx⟩

theorem inFdSet_droppedTests {rest : List Socket} (h : ∀ x ∈ rest, InFdSet (s.fd x)) :
    ∀ call ∈ s.droppedTests rest, InFdSet call.fd := by
  induction rest with
  | nil => exact fun call hcall => absurd hcall List.not_mem_nil
  | cons socket rest ih =>
      intro call hcall
      unfold Loop.droppedTests at hcall
      rcases List.mem_cons.mp hcall with rfl | hcall
      · exact h socket List.mem_cons_self
      · split at hcall
        · cases hcall
        · exact ih (fun x hx => h x (List.mem_cons_of_mem _ hx)) call hcall

theorem inFdSet_passTests {rest : List Socket} (h : ∀ x ∈ rest, InFdSet (s.fd x))
    (hdropped : ∀ x ∈ s.serve.droppedSockets, InFdSet (s.fd x)) :
    ∀ call ∈ s.passTests rest, InFdSet call.fd := by
  induction rest with
  | nil =>
      unfold Loop.passTests Loop.afterTests
      split
      · exact fun call hcall => absurd hcall List.not_mem_nil
      · exact inFdSet_droppedTests hdropped
  | cons socket rest ih =>
      intro call hcall
      unfold Loop.passTests at hcall
      rcases List.mem_cons.mp hcall with rfl | hcall
      · exact h socket List.mem_cons_self
      · split at hcall
        · cases hcall
        · exact ih (fun x hx => h x (List.mem_cons_of_mem _ hx)) call hcall

theorem selectorCalls_reading {socket : Socket} {rest : List Socket} {outcome : RecvOutcome}
    (h : s.Reading socket rest) : selectorCalls format s (.recv outcome) t =
      s.readTests format socket rest outcome t := by
  unfold selectorCalls
  rcases h with heq | heq <;> rw [heq]

theorem SelectorInv.clients (h : SelectorInv s) (hvalid : ∀ x ∈ s.clients, s.fd x ≠ -1) :
    ∀ x ∈ s.clients, InFdSet (s.fd x) :=
  fun x hx => h.inFdSet (h.sockets.client hx).1 (hvalid x hx)

/-- In front of a `recv` on a barely connected socket. -/
theorem SelectorInv.reading (h : SelectorInv s) {socket : Socket} {rest : List Socket}
    (hread : s.Reading socket rest) :
    (∀ x ∈ s.clients, InFdSet (s.fd x)) ∧
      ∀ x ∈ socket :: rest, x ∈ s.serve.barelyConnectedSockets := by
  have hregistered := h.registered
  have hpoint := h.point
  unfold RegisteredInv at hregistered
  unfold PointInv at hpoint
  rcases hread with heq | heq <;> rw [heq] at hregistered hpoint <;>
    exact ⟨h.clients hregistered.2, hpoint.2⟩

/-- In front of a `recv` on a dropped socket. -/
theorem SelectorInv.dropping (h : SelectorInv s) {socket : Socket} {rest : List Socket}
    (heq : s.point = .dropped socket rest) :
    (∀ x ∈ s.clients, s.fd x ≠ -1) ∧ socket ∉ rest ∧
      ∀ x ∈ socket :: rest, x ∈ s.serve.droppedSockets := by
  have hregistered := h.registered
  have hpoint := h.point
  unfold RegisteredInv at hregistered
  unfold PointInv at hpoint
  rw [heq] at hregistered hpoint
  exact ⟨hregistered.2, (List.nodup_cons.mp hpoint.1).1, hpoint.2⟩

/-- The tests after `select`. -/
theorem SelectorInv.inFdSet_selectTests (h : SelectorInv s) {readable : Finset Int}
    {order : List Socket} (horder : order.toFinset = s.serve.barelyConnectedSockets)
    (hvalid : ∀ x ∈ s.clients, InFdSet (s.fd x)) (hserve : t.serve = s.serve)
    (hobjects : t.objects = s.objects)
    (hfds : t.signalFd = s.signalFd ∧ t.listenerFd = s.listenerFd) :
    ∀ call ∈ t.selectTests readable order, InFdSet call.fd := by
  have hsame : ∀ x, t.fd x = s.fd x := fun x => by rw [Loop.fd, hobjects, Loop.fd]
  have hsignal : InFdSet t.signalFd := by
    rw [hfds.1]
    exact ⟨h.sockets.nonneg _ h.sockets.signal, h.fits.signal⟩
  have hlistener : InFdSet t.listenerFd := by
    rw [hfds.2]
    exact ⟨h.sockets.nonneg _ h.sockets.listener, h.fits.listener⟩
  have htests : ∀ call ∈ t.passTests order, InFdSet call.fd := by
    refine inFdSet_passTests (fun x hx => ?_) fun x hx => ?_
    · rw [hsame x]
      refine hvalid x (Loop.mem_clients.mpr (Or.inl ?_))
      rw [← horder]
      exact List.mem_toFinset.mpr hx
    · rw [hserve] at hx
      rw [hsame x]
      exact hvalid x (Loop.mem_clients.mpr (Or.inr hx))
  intro call hcall
  unfold Loop.selectTests at hcall
  rcases List.mem_cons.mp hcall with rfl | hcall
  · exact hsignal
  · split at hcall
    · cases hcall
    · rcases List.mem_cons.mp hcall with rfl | hcall
      · exact hlistener
      · split at hcall
        · cases hcall
        · exact htests call hcall

/-- The tests after a command whose socket has been dropped. -/
theorem SelectorInv.inFdSet_dropped (h : SelectorInv s) {socket : Socket} {rest : List Socket}
    (hread : s.Reading socket rest) (hobjects : t.objects = s.objects)
    (hdropped : t.serve.droppedSockets = s.serve.droppedSockets ++ [socket]) :
    ∀ call ∈ t.passTests rest, InFdSet call.fd := by
  obtain ⟨hvalid, hmem⟩ := h.reading hread
  have hsame : ∀ x, t.fd x = s.fd x := fun x => by rw [Loop.fd, hobjects, Loop.fd]
  refine inFdSet_passTests (fun x hx => ?_) fun x hx => ?_
  · rw [hsame x]
    exact hvalid x (Loop.mem_clients.mpr (Or.inl (hmem x (List.mem_cons_of_mem _ hx))))
  · rw [hsame x]
    rw [hdropped] at hx
    rcases List.mem_append.mp hx with hx | hx
    · exact hvalid x (Loop.mem_clients.mpr (Or.inr hx))
    · rw [List.mem_singleton.mp hx]
      exact hvalid socket (Loop.mem_clients.mpr (Or.inl (hmem socket List.mem_cons_self)))

/-- The calls for a dropped socket that `recv` has closed. -/
theorem SelectorInv.inFdSet_closed (h : SelectorInv s) {socket : Socket} {rest : List Socket}
    (heq : s.point = .dropped socket rest) (hfd : ∀ x ≠ socket, t.fd x = s.fd x) :
    ∀ call ∈ .remove (s.objects socket).close.fdBeforeClose :: t.droppedTests rest,
      InFdSet call.fd := by
  obtain ⟨hvalid, hnot, hmem⟩ := h.dropping heq
  have hsocket : socket ∈ s.clients := Loop.mem_clients.mpr (Or.inr (hmem socket List.mem_cons_self))
  intro call hcall
  rcases List.mem_cons.mp hcall with rfl | hcall
  · have hopen : (s.objects socket).fd ≠ -1 := hvalid socket hsocket
    show InFdSet (s.objects socket).close.fdBeforeClose
    rw [TcpSocket.close, if_neg hopen]
    exact h.clients hvalid socket hsocket
  · refine inFdSet_droppedTests (fun x hx => ?_) call hcall
    rw [hfd x fun heq => hnot (heq ▸ hx)]
    exact h.clients hvalid x (Loop.mem_clients.mpr (Or.inr (hmem x (List.mem_cons_of_mem _ hx))))

/-- The selector is given descriptors that fit, as long as no step breaks the condition. -/
theorem SelectorInv.calls_inFdSet (h : SelectorInv s) (hfits : event.fitsFdSet s = true)
    (hstep : LoopStep format s event t out) :
    ∀ call ∈ selectorCalls format s event t, InFdSet call.fd := by
  have hnone : ∀ {u : Loop}, selectorCalls format s event u = [] →
      ∀ call ∈ selectorCalls format s event u, InFdSet call.fd := by
    intro u hu call hcall
    rw [hu] at hcall
    cases hcall
  have hregistered := h.registered
  have hpoint := h.point
  unfold RegisteredInv at hregistered
  unfold PointInv at hpoint
  cases hstep with
  | selectFailed readable order e heq hopen =>
      refine hnone ?_
      unfold selectorCalls
      rw [heq]
      exact if_pos (Or.inl hopen)
  | selected readable order u point heq _ _ _ horder hu =>
      subst hu
      rw [heq] at hregistered
      unfold selectorCalls
      rw [heq]
      dsimp only
      split
      · exact fun call hcall => by cases hcall
      · exact h.inFdSet_selectTests horder (h.clients hregistered.2) rfl rfl ⟨rfl, rfl⟩
  | accepted socket fd heq _ _ hnonneg =>
      simp only [LoopEvent.fitsFdSet, heq, decide_eq_true_eq] at hfits
      unfold selectorCalls
      rw [heq]
      intro call hcall
      rw [List.mem_singleton.mp hcall]
      exact ⟨hnonneg, hfits⟩
  | readMore socket rest outcome info point hread hbrings =>
      obtain ⟨hvalid, hmem⟩ := h.reading hread
      have hsocket : InFdSet (s.fd socket) :=
        hvalid socket (Loop.mem_clients.mpr (Or.inl (hmem socket List.mem_cons_self)))
      rw [selectorCalls_reading hread, Loop.readTests, hbrings]
      dsimp only
      intro call hcall
      split at hcall
      · cases hcall
      · rw [List.mem_singleton.mp hcall]
        exact hsocket
  | readFailed socket rest outcome infos u v e hread hbrings =>
      refine hnone ?_
      rw [selectorCalls_reading hread, Loop.readTests, hbrings]
  | refused socket rest outcome info command e hread hbrings he =>
      refine hnone ?_
      rw [selectorCalls_reading hread, Loop.readTests, hbrings]
      dsimp only
      rw [he]
  | droppedClient socket rest outcome info command serve out' u point hread hbrings hok hu =>
      subst hu
      rw [selectorCalls_reading hread, Loop.readTests, hbrings]
      dsimp only
      rw [hok]
      refine h.inFdSet_dropped hread rfl ?_
      show serve.droppedSockets ++ [socket] = _
      rw [(Serve.handleCommand_sockets hok).2.1]
  | connected socket rest outcome info command serve out' hread hbrings hok =>
      refine hnone ?_
      rw [selectorCalls_reading hread, Loop.readTests, hbrings]
      dsimp only
      rw [hok]
  | unanswered socket rest bytes errno info command serve out' dropClient e heq =>
      refine hnone ?_
      unfold selectorCalls
      rw [heq]
  | unregistered socket rest u point heq hu =>
      subst hu
      rw [heq] at hregistered hpoint
      simp only [LoopEvent.fitsFdSet, LoopEvent.keepsDescriptors, heq, bne_iff_ne] at hfits
      have hvalid := h.clients hregistered.2
      unfold selectorCalls
      rw [heq]
      intro call hcall
      rcases List.mem_cons.mp hcall with rfl | hcall
      · exact h.inFdSet (h.sockets.actors socket hpoint.1).1 hfits
      · refine inFdSet_passTests (fun x hx => ?_) (fun x hx => ?_) call hcall
        · exact hvalid x (Loop.mem_clients.mpr (Or.inl (hpoint.2.2 x hx)))
        · exact hvalid x (Loop.mem_clients.mpr (Or.inr hx))
  | droppedData socket rest bytes u point heq hu =>
      subst hu
      obtain ⟨hvalid, -, hmem⟩ := h.dropping heq
      unfold selectorCalls
      rw [heq]
      exact inFdSet_droppedTests fun x hx => h.clients hvalid x
        (Loop.mem_clients.mpr (Or.inr (hmem x (List.mem_cons_of_mem _ hx))))
  | droppedClosed socket rest u point heq hu =>
      subst hu
      unfold selectorCalls
      rw [heq]
      refine h.inFdSet_closed heq fun x hne => ?_
      show ((Loop.closeObject _ socket).closeObject socket).fd x = s.fd x
      rw [Loop.fd_closeObject, if_neg hne, Loop.fd_closeObject, if_neg hne]
      rfl
  | droppedFailed socket rest errno u point heq =>
      simp only [LoopEvent.fitsFdSet, LoopEvent.keepsDescriptors, heq, Bool.false_eq_true] at hfits
  | noMessage heq =>
      refine hnone ?_
      unfold selectorCalls
      rw [heq]
  | messageFailed msg e heq _ _ hfails =>
      unfold selectorCalls
      rw [heq]
      cases msg with
      | actorQuit socket => cases hfails
      | _ => exact fun call hcall => absurd hcall List.not_mem_nil
  | message msg serve out' heq _ hsends =>
      unfold selectorCalls
      rw [heq]
      cases msg with
      | actorQuit socket =>
          intro call hcall
          rw [List.mem_singleton.mp hcall]
          exact h.inFdSet (h.sockets.actors socket hsends.1).1 hsends.2
      | _ => exact fun call hcall => absurd hcall List.not_mem_nil
  | closed abortive code order failing heq =>
      refine hnone ?_
      unfold selectorCalls
      rw [heq]
  | actorClosed socket =>
      refine hnone ?_
      unfold selectorCalls
      cases s.point <;> rfl

/-- A step that breaks the condition passes a descriptor that does not fit. -/
theorem SelectorInv.not_calls_inFdSet (h : SelectorInv s) (hfits : event.fitsFdSet s ≠ true)
    (hstep : LoopStep format s event t out) :
    ∃ call ∈ selectorCalls format s event t, ¬InFdSet call.fd := by
  have hregistered := h.registered
  have hpoint := h.point
  unfold RegisteredInv at hregistered
  unfold PointInv at hpoint
  unfold LoopEvent.fitsFdSet at hfits
  split at hfits
  · rename_i socket fd heq
    have hlarge : ¬fd < fdSetSize := by simpa using hfits
    unfold selectorCalls
    rw [heq]
    exact ⟨.add fd, List.mem_cons_self, fun hin => hlarge hin.2⟩
  · unfold LoopEvent.keepsDescriptors at hfits
    split at hfits
    · -- a dropped socket was never closed, and -1 is removed
      rename_i socket rest errno heq _
      rw [heq] at hregistered hpoint
      have hsocket : socket ∈ s.serve.droppedSockets := hpoint.2 socket List.mem_cons_self
      have hopen := hregistered.2 socket (Loop.mem_clients.mpr (Or.inr hsocket))
      have hfresh := h.fits.fresh socket (h.sockets.dropped socket hsocket) hopen
      unfold selectorCalls
      rw [heq]
      refine ⟨.remove (s.objects socket).fdBeforeClose, List.mem_cons_self, ?_⟩
      rw [SelectorCall.fd, hfresh]
      decide
    · rename_i socket rest heq _
      have hclosed : s.fd socket = -1 := by simpa using hfits
      unfold selectorCalls
      rw [heq]
      refine ⟨.remove (s.fd socket), List.mem_cons_self, ?_⟩
      rw [SelectorCall.fd, hclosed]
      decide
    · exact absurd rfl hfits

theorem SelectorInv.start {signalFd listenerFd : Nat} (hsignal : signalFd < fdSetSize)
    (hlistener : listenerFd < fdSetSize) : SelectorInv (Loop.start signalFd listenerFd) where
  sockets := SocketInv.start _ _
  point := trivial
  registered := ⟨rfl, fun x hx => by simp [Loop.start, Loop.clients] at hx⟩
  fits :=
    { signal := Int.ofNat_lt.mpr hsignal
      listener := Int.ofNat_lt.mpr hlistener
      fits := fun x hx => by simp [Loop.start] at hx
      fresh := fun x hx => by simp [Loop.start] at hx }

theorem inFdSet_start {signalFd listenerFd : Nat} :
    (∀ call ∈ selectorStart signalFd listenerFd, InFdSet call.fd) ↔
      signalFd < fdSetSize ∧ listenerFd < fdSetSize := by
  constructor
  · intro h
    have hsignal := (h (.add signalFd) List.mem_cons_self).2
    have hlistener := (h (.add listenerFd) (List.mem_cons_of_mem _ List.mem_cons_self)).2
    exact ⟨Int.ofNat_lt.mp hsignal, Int.ofNat_lt.mp hlistener⟩
  · rintro ⟨hsignal, hlistener⟩ call hcall
    rcases List.mem_cons.mp hcall with rfl | hcall
    · exact ⟨Int.natCast_nonneg _, Int.ofNat_lt.mpr hsignal⟩
    · rw [List.mem_singleton.mp hcall]
      exact ⟨Int.natCast_nonneg _, Int.ofNat_lt.mpr hlistener⟩

/-- The calls of the loop fit just if each of its steps meets the condition. -/
theorem calls_inFdSet_iff {signalFd listenerFd : Nat} {events : List LoopEvent}
    (hsignal : signalFd < fdSetSize) (hlistener : listenerFd < fdSetSize)
    (hrun : Run (selectorStep format) (Loop.start signalFd listenerFd) events s calls) :
    (∀ call ∈ calls, InFdSet call.fd) ↔
      Throughout (selectorStep format) (fun t event => event.fitsFdSet t = true)
        (Loop.start signalFd listenerFd) events := by
  have halways : Always (selectorStep format) (fun _ calls => ∀ call ∈ calls, InFdSet call.fd)
      (Loop.start signalFd listenerFd) events ↔ ∀ call ∈ calls, InFdSet call.fd := by
    constructor
    · intro h
      exact h events [] s calls (List.append_nil _).symm hrun
    · rintro h before after t first rfl hbefore call hcall
      obtain ⟨rest, -, rfl⟩ := hrun.rest hbefore
      exact h call (List.mem_append_left _ hcall)
  rw [← halways]
  refine always_iff_throughout (F := fun _ _ => True)
    (I := fun t calls => SelectorInv t ∧ ∀ call ∈ calls, InFdSet call.fd) hrun
    (fun _ _ _ _ _ _ _ => trivial) ⟨SelectorInv.start hsignal hlistener, ?_⟩ (fun _ _ h => h.2) ?_ ?_
  · exact fun call hcall => absurd hcall List.not_mem_nil
  · intro t first event u out h _ hfits hstep
    obtain ⟨hinv, hfirst⟩ := h
    obtain ⟨_, hloop, rfl⟩ := selectorStep_eq hstep
    have hcases := loopStep_cases hloop
    refine ⟨hinv.step hfits hcases, fun call hcall => ?_⟩
    rcases List.mem_append.mp hcall with hcall | hcall
    · exact hfirst call hcall
    · exact hinv.calls_inFdSet hfits hcases call hcall
  · intro t first event u out h _ hbad hstep hall
    obtain ⟨_, hloop, rfl⟩ := selectorStep_eq hstep
    obtain ⟨call, hcall, hnot⟩ := h.1.not_calls_inFdSet hbad (loopStep_cases hloop)
    exact hnot (hall call (List.mem_append_right _ hcall))

/-- In a run of the loop, every descriptor that is passed to the selector is one that an `fd_set` can
hold just if those of the signals and of the listener are and every step meets the condition. -/
theorem selector_inFdSet_iff {signalFd listenerFd : Nat} {events : List LoopEvent}
    (hrun : Run (selectorStep format) (Loop.start signalFd listenerFd) events s calls) :
    (∀ call ∈ selectorStart signalFd listenerFd ++ calls, InFdSet call.fd) ↔
      signalFd < fdSetSize ∧ listenerFd < fdSetSize ∧
        Throughout (selectorStep format) (fun t event => event.fitsFdSet t = true)
          (Loop.start signalFd listenerFd) events := by
  have hsplit : (∀ call ∈ selectorStart signalFd listenerFd ++ calls, InFdSet call.fd) ↔
      (signalFd < fdSetSize ∧ listenerFd < fdSetSize) ∧ ∀ call ∈ calls, InFdSet call.fd := by
    rw [← inFdSet_start]
    exact List.forall_mem_append
  rw [hsplit, and_assoc]
  constructor
  · rintro ⟨hsignal, hlistener, hcalls⟩
    exact ⟨hsignal, hlistener, (calls_inFdSet_iff hsignal hlistener hrun).mp hcalls⟩
  · rintro ⟨hsignal, hlistener, hthroughout⟩
    exact ⟨hsignal, hlistener, (calls_inFdSet_iff hsignal hlistener hrun).mpr hthroughout⟩

end

/-- A client that asks for the status and closes its connection. -/
theorem selector_inFdSet_iff_closed :
    ∃ s calls, Run (selectorStep statusFormat) (Loop.start 3 4)
        (statusEvents ++ [.recv .closed, .message none]) s calls ∧
      ∀ call ∈ selectorStart 3 4 ++ calls, InFdSet call.fd := by
  obtain ⟨s, calls, hexec⟩ : ∃ s calls, exec (selectorStep statusFormat) (Loop.start 3 4)
      (statusEvents ++ [.recv .closed, .message none]) = some (s, calls) := ⟨_, _, rfl⟩
  have hrun := Run.of_exec hexec
  exact ⟨s, calls, hrun,
    (selector_inFdSet_iff hrun).mpr ⟨by decide, by decide, Throughout.of_check rfl⟩⟩

/-- The kernel hands out the descriptor 1024; a dropped client resets its connection, and -1 is removed
from the selector. -/
theorem large_descriptor_is_added :
    (∃ s calls, Run (selectorStep statusFormat) (Loop.start 3 4) [.select {4} [], .accept 1 1024] s
        calls ∧ ∃ call ∈ selectorStart 3 4 ++ calls, ¬InFdSet call.fd) ∧
      ∃ s calls, Run (selectorStep statusFormat) (Loop.start 3 4)
        (statusEvents ++ [.recv (.failed "Connection reset by peer")]) s calls ∧
        ∃ call ∈ selectorStart 3 4 ++ calls, ¬InFdSet call.fd := by
  refine ⟨?_, ?_⟩
  · have hexec : (exec (selectorStep statusFormat) (Loop.start 3 4)
        [.select {4} [], .accept 1 1024]).any (fun result =>
          decide (∃ call ∈ selectorStart 3 4 ++ result.2, ¬InFdSet call.fd)) = true := by
      decide +kernel
    obtain ⟨s, calls, hrun, hcheck⟩ := Run.of_check hexec
    exact ⟨s, calls, hrun, by simpa using hcheck⟩
  · have hexec : (exec (selectorStep statusFormat) (Loop.start 3 4)
        (statusEvents ++ [.recv (.failed "Connection reset by peer")])).any (fun result =>
          decide (∃ call ∈ selectorStart 3 4 ++ result.2, ¬InFdSet call.fd)) = true := by
      decide +kernel
    obtain ⟨s, calls, hrun, hcheck⟩ := Run.of_check hexec
    exact ⟨s, calls, hrun, by simpa using hcheck⟩

/-! ### The bit set -/

/-- The operation of a call, if it changes the selector. -/
def SelectorCall.op : SelectorCall → Option SelectorOp
  | .add fd => some (.add fd)
  | .remove fd => some (.remove fd)
  | .isReadable _ => none

theorem registered_after_op (calls : List SelectorCall) :
    (PollSet.after ((calls.filterMap SelectorCall.op).map SelectorOp.abstract)).registered =
      calls.foldl SelectorCall.apply ∅ := by
  induction calls using List.reverseRecOn with
  | nil => rfl
  | append_singleton calls call ih =>
      rw [List.filterMap_append, List.foldl_append, List.map_append, ← ih]
      cases call with
      | add fd => exact congrArg PollSet.registered PollSet.after_snoc
      | remove fd => exact congrArg PollSet.registered PollSet.after_snoc
      | isReadable fd =>
          rw [List.filterMap_cons_none rfl, List.filterMap_nil, List.map_nil, List.append_nil]
          rfl

theorem registered_run {format : CommandFormat} {signalFd listenerFd : Nat} {s : Loop}
    {events : List LoopEvent} {calls : List SelectorCall}
    (hrun : Run (selectorStep format) (Loop.start signalFd listenerFd) events s calls) :
    (selectorStart signalFd listenerFd ++ calls).foldl SelectorCall.apply ∅ = s.registered := by
  induction hrun with
  | nil => exact Finset.pair_comm _ _
  | snoc _ hlast ih =>
      obtain ⟨_, hloop, rfl⟩ := selectorStep_eq hlast
      rw [← List.append_assoc, List.foldl_append, ih]
      exact selectorCalls_apply (loopStep_cases hloop)

/-- In a run that meets the condition, the bits of the selector are the descriptors that the loop has
registered. -/
theorem selector_bits {format : CommandFormat} {signalFd listenerFd : Nat} {s : Loop}
    {events : List LoopEvent} {calls : List SelectorCall} (hsignal : signalFd < fdSetSize)
    (hlistener : listenerFd < fdSetSize)
    (hrun : Run (selectorStep format) (Loop.start signalFd listenerFd) events s calls)
    (hfits : Throughout (selectorStep format) (fun t event => event.fitsFdSet t = true)
      (Loop.start signalFd listenerFd) events) {fd : Int} (hfd : InFdSet fd) :
    (Selector.after ((selectorStart signalFd listenerFd ++ calls).filterMap
      SelectorCall.op)).registeredSockets.isSet fd.toNat = true ↔ fd ∈ s.registered := by
  have hin : ∀ op ∈ (selectorStart signalFd listenerFd ++ calls).filterMap SelectorCall.op,
      op.InRange := by
    intro op hop
    obtain ⟨call, hcall, heq⟩ := List.mem_filterMap.mp hop
    have hcall' : InFdSet call.fd := by
      rcases List.mem_append.mp hcall with hcall | hcall
      · exact inFdSet_start.mpr ⟨hsignal, hlistener⟩ call hcall
      · exact (calls_inFdSet_iff hsignal hlistener hrun).mpr hfits call hcall
    cases call with
    | add => cases heq; exact hcall'
    | remove => cases heq; exact hcall'
    | isReadable => cases heq
  rw [(Selector.refines_after hin).registered fd hfd, registered_after_op, registered_run hrun]

end RemoteSimgrid
