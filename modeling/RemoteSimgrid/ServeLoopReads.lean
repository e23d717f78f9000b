import RemoteSimgrid.ServeLoopDescriptors

/-! The reads of the main loop of `serve`: what a client that never sends a command can do to the server,
and on which descriptors a `recv` is issued. -/

namespace RemoteSimgrid

open Machine Pb

/-! ### Clients without a command -/

/-- A `recv` on a barely connected socket that completes no command: the loop goes on, with the state of
the server and the other clients as they were. -/
def Survives (format : CommandFormat) (s : Loop) (event : LoopEvent) (t : Loop)
    (_ : List LoopOutput) : Prop :=
  ∀ socket rest outcome, s.Reading socket rest → event = .recv outcome →
    (∀ command, s.brings format outcome ≠ .complete command) →
    (∀ e, t.point ≠ .raised e) ∧
      t.serve.serverState = s.serve.serverState ∧
      t.serve.actorConnections = s.serve.actorConnections ∧
      t.serve.nbConnectedActors = s.serve.nbConnectedActors ∧
      ∀ x ≠ socket, t.infos x = s.infos x ∧ t.objects x = s.objects x ∧
        (x ∈ t.serve.barelyConnectedSockets ↔ x ∈ s.serve.barelyConnectedSockets) ∧
        (x ∈ t.serve.droppedSockets ↔ x ∈ s.serve.droppedSockets) ∧
        (x ∈ t.serve.sockets ↔ x ∈ s.serve.sockets)

/-- A `recv` on a barely connected socket neither fails nor returns 0, and gives neither a size of
2^24 or more nor a content that is not that of a command. -/
def LoopEvent.keepsServing (format : CommandFormat) (s : Loop) (event : LoopEvent) : Bool :=
  match s.point, event with
  | .header _ _, .recv outcome | .content _ _, .recv outcome => s.brings format outcome ≠ .invalid
  | _, _ => true

section

variable {format : CommandFormat} {s t : Loop} {event : LoopEvent} {out : List LoopOutput}

theorem keepsServing_recv {socket : Socket} {rest : List Socket} {outcome : RecvOutcome}
    (hread : s.Reading socket rest) :
    LoopEvent.keepsServing format s (.recv outcome) = decide (s.brings format outcome ≠ .invalid) := by
  unfold LoopEvent.keepsServing
  rcases hread with hpoint | hpoint <;> rw [hpoint]

theorem Loop.Reading.unique {socket socket' : Socket} {rest rest' : List Socket}
    (h : s.Reading socket rest) (h' : s.Reading socket' rest') : socket' = socket ∧ rest' = rest := by
  rcases h with h | h <;> rcases h' with h' | h' <;> rw [h] at h' <;> cases h' <;> exact ⟨rfl, rfl⟩

theorem Loop.Reading.ne_dropped {socket : Socket} {rest : List Socket} (h : s.Reading socket rest)
    (socket' : Socket) (rest' : List Socket) : s.point ≠ .dropped socket' rest' := by
  intro hpoint
  rcases h with h | h <;> rw [hpoint] at h <;> cases h

/-- A `recv` harms no other client just if it keeps the server going. -/
theorem survives_iff (hstep : LoopStep format s event t out) :
    Survives format s event t out ↔ event.keepsServing format s = true := by
  constructor
  · intro hsurvives
    by_contra hbad
    have hinvalid : ∃ socket rest outcome, s.Reading socket rest ∧ event = .recv outcome ∧
        s.brings format outcome = .invalid := by
      unfold LoopEvent.keepsServing at hbad
      split at hbad
      · rename_i socket rest outcome hpoint
        exact ⟨socket, rest, outcome, Or.inl hpoint, rfl, by simpa using hbad⟩
      · rename_i socket rest outcome hpoint
        exact ⟨socket, rest, outcome, Or.inr hpoint, rfl, by simpa using hbad⟩
      · exact absurd rfl hbad
    obtain ⟨socket, rest, outcome, hread, rfl, hinvalid⟩ := hinvalid
    obtain ⟨hgoes, -⟩ := hsurvives socket rest outcome hread rfl (by rw [hinvalid]; nofun)
    cases hstep with
    | readFailed => exact hgoes _ rfl
    | readMore _ _ _ _ _ _ hbrings => rw [hbrings] at hinvalid; cases hinvalid
    | refused _ _ _ _ _ _ _ hbrings => rw [hbrings] at hinvalid; cases hinvalid
    | droppedClient _ _ _ _ _ _ _ _ _ _ hbrings => rw [hbrings] at hinvalid; cases hinvalid
    | connected _ _ _ _ _ _ _ _ hbrings => rw [hbrings] at hinvalid; cases hinvalid
    | droppedData _ _ _ _ _ hpoint => exact absurd hpoint (hread.ne_dropped _ _)
    | droppedClosed _ _ _ _ hpoint => exact absurd hpoint (hread.ne_dropped _ _)
    | droppedFailed _ _ _ _ _ hpoint => exact absurd hpoint (hread.ne_dropped _ _)
  · rintro hkeeps socket rest outcome hread rfl hnone
    rw [keepsServing_recv hread, decide_eq_true_eq] at hkeeps
    cases hstep with
    | readMore socket' rest' _ info point hread' _ hnext =>
        obtain ⟨rfl, rfl⟩ := hread.unique hread'
        refine ⟨?_, rfl, rfl, rfl, ?_⟩
        · intro e
          rcases hnext with rfl | rfl <;> nofun
        · intro x hx
          exact ⟨Function.update_of_ne hx _ _, rfl, Iff.rfl, Iff.rfl, Iff.rfl⟩
    | readFailed _ _ _ _ _ _ _ _ hbrings => exact absurd hbrings hkeeps
    | refused _ _ _ _ command _ _ hbrings => exact absurd hbrings (hnone command)
    | droppedClient _ _ _ _ command _ _ _ _ _ hbrings => exact absurd hbrings (hnone command)
    | connected _ _ _ _ command _ _ _ hbrings => exact absurd hbrings (hnone command)
    | droppedData _ _ _ _ _ hpoint => exact absurd hpoint (hread.ne_dropped _ _)
    | droppedClosed _ _ _ _ hpoint => exact absurd hpoint (hread.ne_dropped _ _)
    | droppedFailed _ _ _ _ _ hpoint => exact absurd hpoint (hread.ne_dropped _ _)

/-- Along a run, no client without a command harms the others just if every `recv` on a barely connected
socket keeps the server going. -/
theorem clients_survive_iff {signalFd listenerFd : Nat} {events : List LoopEvent}
    {trace : List LoopOutput}
    (hrun : Run (loopStep format) (Loop.start signalFd listenerFd) events s trace) :
    EveryStep (loopStep format) (Survives format) (Loop.start signalFd listenerFd) events ↔
      Throughout (loopStep format) (fun t event => event.keepsServing format t = true)
        (Loop.start signalFd listenerFd) events :=
  everyStep_iff_throughout hrun fun _ _ _ _ _ _ _ hstep => survives_iff (loopStep_cases hstep)

end

/-! ### Blocking reads -/

/-- The command thread is in front of a `recv`. -/
def Loop.Receiving (s : Loop) (socket : Socket) (rest : List Socket) : Prop :=
  s.Reading socket rest ∨ s.point = .dropped socket rest

/-- The next `recv` is on a descriptor that `select` has reported and that has not been read since. -/
def ReadsReady (s : Loop) : Prop := ∀ socket rest, s.Receiving socket rest → s.fd socket ∈ s.unread

/-- A `recv` on a barely connected socket does not leave its command incomplete. -/
def LoopEvent.completes (format : CommandFormat) (s : Loop) (event : LoopEvent) : Bool :=
  match s.point, event with
  | .header _ _, .recv outcome | .content _ _, .recv outcome =>
      s.brings format outcome ≠ .incomplete
  | _, _ => true

/-- The descriptors on which a `recv` returns at once, after the events of a run so far: their clients
have sent bytes that are not read yet, or have closed the connection. -/
abbrev Available := List LoopEvent → Finset Int

/-- What a step does to these descriptors: `select` reports some of them, a `recv` may take its own away,
and all others of the clients stay. More bytes may arrive at any time. -/
def Loop.KeepsBytes (s : Loop) (event : LoopEvent) (before after : Finset Int) : Prop :=
  match event with
  | .select readable _ => s.registered ⊆ s.openFds → readable ⊆ after
  | .recv _ | .unanswered _ _ =>
      ∀ socket rest, s.Receiving socket rest → ∀ x ∈ s.clients, s.fd x ∈ before →
        s.fd x ≠ s.fd socket → s.fd x ∈ after
  | _ => ∀ x ∈ s.clients, s.fd x ∈ before → s.fd x ∈ after

section

variable (format : CommandFormat) (start : Loop) (events : List LoopEvent) (available : Available)

/-- The bytes that are there along a run. -/
def Distributes : Prop :=
  ∀ before event after t trace, events = before ++ event :: after →
    Run (loopStep format) start before t trace →
    t.KeepsBytes event (available before) (available (before ++ [event]))

/-- No `recv` of the command thread blocks. -/
def NeverBlocks : Prop :=
  ∀ before after t trace, events = before ++ after → Run (loopStep format) start before t trace →
    ∀ socket rest, t.Receiving socket rest → t.fd socket ∈ available before

/-- After a `recv` that leaves its command incomplete, more bytes are there on its socket. -/
def MoreIsThere : Prop :=
  ∀ before event after t trace, events = before ++ event :: after →
    Run (loopStep format) start before t trace → event.completes format t = false →
    ∀ socket rest, t.Reading socket rest → t.fd socket ∈ available (before ++ [event])

end

/-- The points outside of the passes over the sockets. -/
def LoopPoint.outside : LoopPoint → Bool
  | .header _ _ | .content _ _ | .unregister _ _ | .dropped _ _ => false
  | _ => true

/-- The sockets that the current iteration may read after the next `recv`. -/
def Loop.ahead (s : Loop) : List Socket :=
  match s.point with
  | .header _ rest | .content _ rest | .unregister _ rest =>
      rest ++ if s.clientDropped then [] else s.serve.droppedSockets
  | .dropped _ rest => rest
  | _ => []

/-- Bytes are there on the socket that is received next, and on each of those ahead of it that `select`
has reported. -/
structure ReadyInv (available : Finset Int) (s : Loop) : Prop where
  valid : ∀ fd ∈ s.readable, fd ≠ -1
  reported : ∀ socket rest, s.Receiving socket rest → s.fd socket ∈ s.readable
  current : ∀ socket rest, s.Receiving socket rest → s.fd socket ∈ available
  next : ∀ x ∈ s.ahead, s.fd x ∈ s.readable → s.fd x ∈ available

section

variable {format : CommandFormat} {s t : Loop} {event : LoopEvent} {out : List LoopOutput}
  {before after : Finset Int}

theorem Loop.Receiving.not_outside {socket : Socket} {rest : List Socket}
    (h : s.Receiving socket rest) : s.point.outside = false := by
  rcases h with (h | h) | h <;> rw [h] <;> rfl

theorem ReadyInv.outside (hvalid : ∀ fd ∈ s.readable, fd ≠ -1) (hpoint : s.point.outside = true) :
    ReadyInv after s := by
  have hahead : s.ahead = [] := by
    unfold Loop.ahead
    unfold LoopPoint.outside at hpoint
    split <;> rename_i heq
    · rw [heq] at hpoint
      cases hpoint
    · rw [heq] at hpoint
      cases hpoint
    · rw [heq] at hpoint
      cases hpoint
    · rw [heq] at hpoint
      cases hpoint
    · rfl
  have hnone : ∀ {socket rest}, ¬s.Receiving socket rest := by
    intro socket rest hreceives
    rw [hreceives.not_outside] at hpoint
    cases hpoint
  refine ⟨hvalid, fun _ _ h => absurd h hnone, fun _ _ h => absurd h hnone, ?_⟩
  rw [hahead]
  exact fun x hx => by cases hx

theorem ReadyInv.droppedPoint {rest : List Socket} {point : LoopPoint}
    (hvalid : ∀ fd ∈ s.readable, fd ≠ -1)
    (hrest : ∀ x ∈ rest, s.fd x ∈ s.readable → s.fd x ∈ after)
    (hpass : s.DroppedPoint rest point) : ReadyInv after { s with point := point } := by
  cases hpass with
  | none => exact ReadyInv.outside hvalid rfl
  | some socket ahead hsuffix hreadable =>
      have hreceived : ∀ {socket' rest'},
          Loop.Receiving { s with point := .dropped socket ahead } socket' rest' → socket' = socket := by
        rintro socket' rest' ((h | h) | h) <;> cases h
        rfl
      refine ⟨hvalid, ?_, ?_, fun x hx => hrest x (hsuffix.subset (List.mem_cons_of_mem _ hx))⟩
      · intro socket' rest' h
        rw [hreceived h]
        exact hreadable
      · intro socket' rest' h
        rw [hreceived h]
        exact hrest socket (hsuffix.subset List.mem_cons_self) hreadable

theorem ReadyInv.passPoint {rest : List Socket} {point : LoopPoint}
    (hvalid : ∀ fd ∈ s.readable, fd ≠ -1)
    (hrest : ∀ x ∈ rest ++ (if s.clientDropped then [] else s.serve.droppedSockets),
      s.fd x ∈ s.readable → s.fd x ∈ after)
    (hpass : s.PassPoint rest point) : ReadyInv after { s with point := point } := by
  cases hpass with
  | reads socket ahead _ hpoint hsuffix hreadable =>
      have hreceived : ∀ {socket' rest'},
          Loop.Receiving { s with point := point } socket' rest' → socket' = socket := by
        rintro socket' rest' ((h | h) | h) <;> rcases hpoint with rfl | rfl <;> cases h <;> rfl
      have hnext : ∀ x ∈ ahead ++ (if s.clientDropped then [] else s.serve.droppedSockets),
          s.fd x ∈ s.readable → s.fd x ∈ after := by
        intro x hx
        rcases List.mem_append.mp hx with hx | hx
        · exact hrest x (List.mem_append_left _ (hsuffix.subset (List.mem_cons_of_mem _ hx)))
        · exact hrest x (List.mem_append_right _ hx)
      refine ⟨hvalid, ?_, ?_, ?_⟩
      · intro socket' rest' h
        rw [hreceived h]
        exact hreadable
      · intro socket' rest' h
        rw [hreceived h]
        exact hrest socket (List.mem_append_left _ (hsuffix.subset List.mem_cons_self)) hreadable
      · rcases hpoint with rfl | rfl <;> exact hnext
  | skipped => exact ReadyInv.outside hvalid rfl
  | dropped _ hdropped hpoint =>
      rw [hdropped] at hrest
      exact ReadyInv.droppedPoint hvalid (fun x hx => hrest x (List.mem_append_right _ hx)) hpoint

/-- The sockets that an iteration reads are those of the two collections, each of them once. -/
theorem Loop.ahead_clients (hpoint : PointInv s) {x : Socket} (hx : x ∈ s.ahead) : x ∈ s.clients := by
  have hdropped : ∀ {rest : List Socket},
      x ∈ rest ++ (if s.clientDropped then [] else s.serve.droppedSockets) →
      (∀ y ∈ rest, y ∈ s.serve.barelyConnectedSockets) → x ∈ s.clients := by
    intro rest hx hrest
    rw [Loop.mem_clients]
    rcases List.mem_append.mp hx with hx | hx
    · exact Or.inl (hrest x hx)
    · split at hx
      · cases hx
      · exact Or.inr hx
  unfold Loop.ahead at hx
  unfold PointInv at hpoint
  split at hx <;> rename_i heq <;> (try rw [heq] at hpoint)
  · exact hdropped hx fun y hy => hpoint.2 y (List.mem_cons_of_mem _ hy)
  · exact hdropped hx fun y hy => hpoint.2 y (List.mem_cons_of_mem _ hy)
  · exact hdropped hx hpoint.2.2
  · exact Loop.mem_clients.mpr (Or.inr (hpoint.2 x (List.mem_cons_of_mem _ hx)))
  · cases hx

theorem Loop.Receiving.client {socket : Socket} {rest : List Socket} (h : s.Receiving socket rest)
    (hpoint : PointInv s) : socket ∈ s.clients := by
  unfold PointInv at hpoint
  rw [Loop.mem_clients]
  rcases h with (h | h) | h <;> rw [h] at hpoint
  · exact Or.inl (hpoint.2 socket List.mem_cons_self)
  · exact Or.inl (hpoint.2 socket List.mem_cons_self)
  · exact Or.inr (hpoint.2 socket List.mem_cons_self)

theorem Loop.Receiving.notMem_ahead {socket : Socket} {rest : List Socket}
    (h : s.Receiving socket rest) (hs : SocketInv s) (hpoint : PointInv s) : socket ∉ s.ahead := by
  have hdropped : socket ∈ s.serve.barelyConnectedSockets → socket ∉ rest →
      socket ∉ rest ++ (if s.clientDropped then [] else s.serve.droppedSockets) := by
    intro hbarely hrest hmem
    rcases List.mem_append.mp hmem with hmem | hmem
    · exact hrest hmem
    · split at hmem
      · cases hmem
      · exact hs.apart socket hmem hbarely
  unfold PointInv at hpoint
  unfold Loop.ahead
  rcases h with (h | h) | h <;> rw [h] at hpoint ⊢ <;>
    obtain ⟨hnodup, hmem⟩ := hpoint <;> have hrest := (List.nodup_cons.mp hnodup).1
  · exact hdropped (hmem socket List.mem_cons_self) hrest
  · exact hdropped (hmem socket List.mem_cons_self) hrest
  · exact hrest

/-- The `recv` on a socket takes nothing from the sockets ahead. -/
theorem ReadyInv.others (h : ReadyInv before s) (hs : SocketInv s) (hpoint : PointInv s)
    {socket : Socket} {rest : List Socket} (hreceives : s.Receiving socket rest)
    (hbytes : ∀ x ∈ s.clients, s.fd x ∈ before → s.fd x ≠ s.fd socket → s.fd x ∈ after) {x : Socket}
    (hx : x ∈ s.ahead) (hreadable : s.fd x ∈ s.readable) : s.fd x ∈ after := by
  have hclient := Loop.ahead_clients hpoint hx
  have hvalid : s.fd socket ≠ -1 := h.valid _ (h.reported socket rest hreceives)
  refine hbytes x hclient (h.next x hx hreadable) ?_
  intro hsame
  have heq : socket = x := hs.unique socket (hs.client (hreceives.client hpoint)).1 x
    (hs.client hclient).1 hsame.symm hvalid
  exact hreceives.notMem_ahead hs hpoint (heq ▸ hx)

theorem ReadyInv.nextIteration (hvalid : ∀ fd ∈ s.readable, fd ≠ -1) :
    ReadyInv after s.nextIteration := by
  unfold Loop.nextIteration
  split
  · exact ReadyInv.outside hvalid rfl
  · exact ReadyInv.outside hvalid rfl

/-- The traversal of the dropped sockets after one of them has been read. -/
theorem ReadyInv.droppedRead (h : ReadyInv before s) (hs : SocketInv s) (hpoint : PointInv s)
    {socket : Socket} {rest : List Socket} {point : LoopPoint} (heq : s.point = .dropped socket rest)
    (hbytes : ∀ x ∈ s.clients, s.fd x ∈ before → s.fd x ≠ s.fd socket → s.fd x ∈ after)
    (hreadable : t.readable = s.readable) (hfd : ∀ x ≠ socket, t.fd x = s.fd x)
    (hpass : t.DroppedPoint rest point) : ReadyInv after { t with point := point } := by
  have hahead : s.ahead = rest := by
    unfold Loop.ahead
    rw [heq]
  refine ReadyInv.droppedPoint (by rw [hreadable]; exact h.valid) ?_ hpass
  intro x hx hmem
  have hne : x ≠ socket := by
    rintro rfl
    exact Loop.Receiving.notMem_ahead (Or.inr heq) hs hpoint (hahead ▸ hx)
  rw [hfd x hne, hreadable] at hmem
  rw [hfd x hne]
  exact h.others hs hpoint (Or.inr heq) hbytes (hahead ▸ hx) hmem

theorem Loop.Reading.ahead {socket : Socket} {rest : List Socket} (h : s.Reading socket rest) :
    s.ahead = rest ++ if s.clientDropped then [] else s.serve.droppedSockets := by
  unfold Loop.ahead
  rcases h with heq | heq <;> rw [heq]

theorem completes_readMore {socket : Socket} {rest : List Socket} {outcome : RecvOutcome}
    (hread : s.Reading socket rest) (hbrings : s.brings format outcome = .incomplete) :
    LoopEvent.completes format s (.recv outcome) = false := by
  unfold LoopEvent.completes
  rcases hread with heq | heq <;> rw [heq] <;> simp only [hbrings, ne_eq, not_true, decide_false]

theorem closeSockets_readable (abortive : Bool) (code : Nat) (failing : Finset Socket)
    (sockets : List Socket) (s : Loop) :
    (Loop.closeSockets abortive code failing sockets s).1.readable = s.readable :=
  closeSockets_keeps (P := fun t => t.readable = s.readable) rfl (fun _ _ h => h) (fun _ _ h => h) _ _ _ _

theorem closeSockets_unread (abortive : Bool) (code : Nat) (failing : Finset Socket)
    (sockets : List Socket) (s : Loop) :
    (Loop.closeSockets abortive code failing sockets s).1.unread = s.unread :=
  closeSockets_keeps (P := fun t => t.unread = s.unread) rfl (fun _ _ h => h) (fun _ _ h => h) _ _ _ _

/-- A step keeps bytes for what is still to be read, if there are more of a command that it leaves
incomplete. -/
theorem ReadyInv.step (h : ReadyInv before s) (hs : SocketInv s) (hpoint : PointInv s)
    (hbytes : s.KeepsBytes event before after)
    (hmore : event.completes format s = false → ∀ socket rest, s.Reading socket rest →
      s.fd socket ∈ after) (hstep : LoopStep format s event t out) : ReadyInv after t := by
  cases hstep with
  | selectFailed => exact ReadyInv.outside h.valid rfl
  | selected readable order u point _ hopen hregistered _ _ hu hpass =>
      subst hu
      have hvalid : ∀ fd ∈ readable, fd ≠ -1 := by
        intro fd hfd
        have hnonneg := hs.nonneg fd (hopen (hregistered hfd))
        omega
      rcases hpass with rfl | rfl | rfl | hpass
      · exact ReadyInv.outside hvalid rfl
      · exact ReadyInv.outside hvalid rfl
      · exact ReadyInv.outside hvalid rfl
      · exact ReadyInv.passPoint hvalid (fun x _ hx => hbytes hopen hx) hpass
  | accepted => exact ReadyInv.outside h.valid rfl
  | readMore socket rest outcome info point hread hbrings hnext =>
      have hcurrent := hmore (completes_readMore hread hbrings) socket rest hread
      have hahead : Loop.ahead { s.noted socket info with point := point } = s.ahead := by
        rw [hread.ahead]
        unfold Loop.ahead
        rcases hnext with rfl | rfl <;> rfl
      have hreceived : ∀ {socket' rest'},
          Loop.Receiving { s.noted socket info with point := point } socket' rest' →
          socket' = socket := by
        rintro socket' rest' ((h | h) | h) <;> rcases hnext with rfl | rfl <;> cases h <;> rfl
      refine ⟨h.valid, ?_, ?_, ?_⟩
      · intro socket' rest' hreceives
        rw [hreceived hreceives]
        exact h.reported socket rest (Or.inl hread)
      · intro socket' rest' hreceives
        rw [hreceived hreceives]
        exact hcurrent
      · rw [hahead]
        exact fun x hx => h.others hs hpoint (Or.inl hread) (hbytes socket rest (Or.inl hread)) hx
  | readFailed socket rest outcome infos u v e _ _ hv hu =>
      subst hv
      rcases hu with rfl | rfl
      · exact ReadyInv.outside h.valid rfl
      · exact ReadyInv.outside h.valid rfl
  | refused => exact ReadyInv.outside h.valid rfl
  | unanswered => exact ReadyInv.outside h.valid rfl
  | droppedClient socket rest outcome info command serve out' u point hread _ _ hu hpass =>
      subst hu
      refine ReadyInv.passPoint h.valid ?_ hpass
      intro x hx hreadable
      have hx : x ∈ rest := by simpa using hx
      refine h.others hs hpoint (Or.inl hread) (hbytes socket rest (Or.inl hread)) ?_ hreadable
      rw [hread.ahead]
      exact List.mem_append_left _ hx
  | connected socket rest outcome info command serve out' hread _ hok =>
      have hnone : ∀ {socket' rest'}, ¬Loop.Receiving { s.noted socket info with
          serve := serve.afterCommand socket false
          actors := insert socket s.actors
          point := .unregister socket rest } socket' rest' := by
        rintro socket' rest' ((h | h) | h) <;> cases h
      refine ⟨h.valid, fun _ _ h => absurd h hnone, fun _ _ h => absurd h hnone, ?_⟩
      intro x hx hreadable
      refine h.others hs hpoint (Or.inl hread) (hbytes socket rest (Or.inl hread)) ?_ hreadable
      rw [hread.ahead, ← (Serve.handleCommand_sockets hok).2.1]
      exact hx
  | unregistered socket rest u point heq hu hpass =>
      subst hu
      refine ReadyInv.passPoint h.valid ?_ hpass
      intro x hx hreadable
      have hahead : x ∈ s.ahead := by
        unfold Loop.ahead
        rw [heq]
        exact hx
      exact hbytes x (Loop.ahead_clients hpoint hahead) (h.next x hahead hreadable)
  | droppedData socket rest bytes u point heq hu hpass =>
      subst hu
      exact h.droppedRead hs hpoint heq (hbytes socket rest (Or.inr heq)) rfl (fun _ _ => rfl) hpass
  | droppedClosed socket rest u point heq hu hpass =>
      subst hu
      refine h.droppedRead hs hpoint heq (hbytes socket rest (Or.inr heq)) rfl (fun x hx => ?_) hpass
      show ((Loop.closeObject _ socket).closeObject socket).fd x = s.fd x
      rw [Loop.fd_closeObject, if_neg hx, Loop.fd_closeObject, if_neg hx]
      rfl
  | droppedFailed socket rest errno u point heq hu hpass =>
      subst hu
      refine h.droppedRead hs hpoint heq (hbytes socket rest (Or.inr heq)) rfl (fun x hx => ?_) hpass
      show (Loop.closeObject _ socket).fd x = s.fd x
      rw [Loop.fd_closeObject, if_neg hx]
      rfl
  | noMessage => exact ReadyInv.nextIteration h.valid
  | messageFailed => exact ReadyInv.outside h.valid rfl
  | message msg serve out' =>
      refine ReadyInv.nextIteration ?_
      cases msg <;> exact h.valid
  | closed abortive code order failing =>
      obtain ⟨result, hleft⟩ := closeSockets_left abortive code failing
        (order ++ s.serve.droppedSockets ++ s.actorSockets) s
      refine ReadyInv.outside ?_ ?_
      · rw [closeSockets_readable]
        exact h.valid
      · rw [hleft]
        rfl
  | actorClosed socket hactor _ =>
      have hclient : ∀ x ∈ s.clients, (s.closeObject socket).fd x = s.fd x := by
        intro x hx
        rw [Loop.fd_closeObject, if_neg]
        rintro rfl
        exact (hs.client hx).2 hactor
      refine ⟨h.valid, ?_, ?_, ?_⟩
      · intro socket' rest hreceives
        rw [hclient socket' (Loop.Receiving.client (s := s) hreceives hpoint)]
        exact h.reported socket' rest hreceives
      · intro socket' rest hreceives
        have hmem := Loop.Receiving.client (s := s) hreceives hpoint
        rw [hclient socket' hmem]
        exact hbytes socket' hmem (h.current socket' rest hreceives)
      · intro x hx
        have hmem := Loop.ahead_clients (s := s) hpoint hx
        rw [hclient x hmem]
        exact fun hreadable => hbytes x hmem (h.next x hx hreadable)

theorem reading_of_incomplete (h : event.completes format s = false) :
    ∃ socket rest, s.Reading socket rest := by
  unfold LoopEvent.completes at h
  split at h
  · exact ⟨_, _, Or.inl ‹_›⟩
  · exact ⟨_, _, Or.inr ‹_›⟩
  · cases h

/-- After a `recv` that leaves its command incomplete, the next one is on the same descriptor. -/
theorem readsAgain (hstep : LoopStep format s event t out)
    (hincomplete : event.completes format s = false) {socket : Socket} {rest : List Socket}
    (hread : s.Reading socket rest) :
    t.Reading socket rest ∧ t.fd socket = s.fd socket ∧ t.unread = s.unread.erase (s.fd socket) := by
  have hrecv : ∃ outcome, event = .recv outcome ∧ s.brings format outcome = .incomplete := by
    unfold LoopEvent.completes at hincomplete
    split at hincomplete
    · exact ⟨_, rfl, by simpa using hincomplete⟩
    · exact ⟨_, rfl, by simpa using hincomplete⟩
    · cases hincomplete
  obtain ⟨outcome, rfl, hnone⟩ := hrecv
  cases hstep with
  | readMore socket' rest' _ info point hread' _ hnext =>
      obtain ⟨rfl, rfl⟩ := hread.unique hread'
      refine ⟨?_, rfl, rfl⟩
      rcases hnext with rfl | rfl
      · exact Or.inl rfl
      · exact Or.inr rfl
  | readFailed _ _ _ _ _ _ _ _ hbrings => rw [hbrings] at hnone; cases hnone
  | refused _ _ _ _ _ _ _ hbrings => rw [hbrings] at hnone; cases hnone
  | droppedClient _ _ _ _ _ _ _ _ _ _ hbrings => rw [hbrings] at hnone; cases hnone
  | connected _ _ _ _ _ _ _ _ hbrings => rw [hbrings] at hnone; cases hnone
  | droppedData _ _ _ _ _ hpoint => exact absurd hpoint (hread.ne_dropped _ _)
  | droppedClosed _ _ _ _ hpoint => exact absurd hpoint (hread.ne_dropped _ _)
  | droppedFailed _ _ _ _ _ hpoint => exact absurd hpoint (hread.ne_dropped _ _)

theorem Loop.Receiving.unique {socket socket' : Socket} {rest rest' : List Socket}
    (h : s.Receiving socket rest) (h' : s.Receiving socket' rest') : socket' = socket := by
  rcases h with h | h
  · rcases h' with h' | h'
    · exact (h.unique h').1
    · rcases h with h | h <;> rw [h] at h' <;> cases h'
  · rcases h' with (h' | h') | h' <;> rw [h] at h' <;> cases h'
    rfl

/-- What `select` has reported and has not been read since is one of the possible distributions. -/
theorem unread_keepsBytes (hstep : LoopStep format s event t out) :
    s.KeepsBytes event s.unread t.unread := by
  have herased : ∀ {socket rest}, s.Receiving socket rest →
      t.unread = s.unread.erase (s.fd socket) → ∀ socket' rest', s.Receiving socket' rest' →
      ∀ x ∈ s.clients, s.fd x ∈ s.unread → s.fd x ≠ s.fd socket' → s.fd x ∈ t.unread := by
    intro socket rest hreceives hunread socket' rest' hreceives' x _ hmem hne
    rw [hreceives.unique hreceives'] at hne
    rw [hunread]
    exact Finset.mem_erase.mpr ⟨hne, hmem⟩
  have hnone : ∀ {u : Loop}, u.nextIteration.unread = u.unread := by
    intro u
    unfold Loop.nextIteration
    split <;> rfl
  cases hstep with
  | selectFailed readable order e _ hopen => exact fun h => absurd h hopen
  | selected readable order u point _ _ _ _ _ hu =>
      subst hu
      exact fun _ => Finset.Subset.refl _
  | accepted => exact fun x _ h => h
  | readMore socket rest outcome info point hread => exact herased (Or.inl hread) rfl
  | readFailed socket rest outcome infos u v e hread _ hv hu =>
      subst hv
      rcases hu with rfl | rfl
      · exact herased (Or.inl hread) rfl
      · exact herased (Or.inl hread) rfl
  | refused socket rest outcome info command e hread => exact herased (Or.inl hread) rfl
  | droppedClient socket rest outcome info command serve out' u point hread _ _ hu =>
      subst hu
      exact herased (Or.inl hread) rfl
  | connected socket rest outcome info command serve out' hread => exact herased (Or.inl hread) rfl
  | unanswered socket rest bytes errno info command serve out' dropClient e hpoint =>
      exact herased (Or.inl (Or.inr hpoint)) rfl
  | unregistered socket rest u point _ hu =>
      subst hu
      exact fun x _ h => h
  | droppedData socket rest bytes u point heq hu =>
      subst hu
      exact herased (Or.inr heq) rfl
  | droppedClosed socket rest u point heq hu =>
      subst hu
      exact herased (Or.inr heq) rfl
  | droppedFailed socket rest errno u point heq hu =>
      subst hu
      exact herased (Or.inr heq) rfl
  | noMessage =>
      show ∀ x ∈ s.clients, s.fd x ∈ s.unread → s.fd x ∈ s.nextIteration.unread
      rw [hnone]
      exact fun x _ h => h
  | messageFailed => exact fun x _ h => h
  | message msg serve out' =>
      have hkept : (({ s with serve := serve } : Loop).afterMessage msg).unread = s.unread := by
        cases msg <;> rfl
      show ∀ x ∈ s.clients, s.fd x ∈ s.unread → s.fd x ∈ (Loop.nextIteration _).unread
      rw [hnone, hkept]
      exact fun x _ h => h
  | closed abortive code order failing =>
      show ∀ x ∈ s.clients, s.fd x ∈ s.unread → s.fd x ∈ (Loop.closeSockets _ _ _ _ s).1.unread
      rw [closeSockets_unread]
      exact fun x _ h => h
  | actorClosed => exact fun x _ h => h

/-! ### Runs -/

variable {signalFd listenerFd : Nat} {events : List LoopEvent} {trace : List LoopOutput}

theorem readyInv_run {available : Available}
    (hrun : Run (loopStep format) (Loop.start signalFd listenerFd) events s trace)
    (hbytes : Distributes format (Loop.start signalFd listenerFd) events available)
    (hmore : MoreIsThere format (Loop.start signalFd listenerFd) events available) :
    ReadyInv (available events) s := by
  induction hrun with
  | nil => exact ReadyInv.outside (fun fd hfd => by simp [Loop.start] at hfd) rfl
  | @snoc labels t first label u out hbefore hlast ih =>
      have hsplit : ∀ {b label' c}, labels = b ++ label' :: c →
          labels ++ [label] = b ++ label' :: (c ++ [label]) := by
        intro b label' c heq
        rw [heq, List.append_assoc, List.cons_append]
      obtain ⟨hs, hpoint⟩ := socketInv_run hbefore
      have h := ih (fun b label' c v first' heq => hbytes b label' _ v first' (hsplit heq))
        (fun b label' c v first' heq => hmore b label' _ v first' (hsplit heq))
      exact h.step hs hpoint (hbytes labels label [] t first rfl hbefore)
        (hmore labels label [] t first rfl hbefore) (loopStep_cases hlast)

/-- Given the bytes that are there, no `recv` blocks just if each one that leaves its command incomplete
leaves more bytes of its client. -/
theorem neverBlocks_iff {available : Available}
    (hrun : Run (loopStep format) (Loop.start signalFd listenerFd) events s trace)
    (hbytes : Distributes format (Loop.start signalFd listenerFd) events available) :
    NeverBlocks format (Loop.start signalFd listenerFd) events available ↔
      MoreIsThere format (Loop.start signalFd listenerFd) events available := by
  constructor
  · intro hnever before event after t first heq hbefore hincomplete socket rest hread
    subst heq
    obtain ⟨t', out, v, out', hbefore', hlast, hnext⟩ := hrun.split_step
    obtain ⟨rfl, -⟩ := hbefore.unique hbefore'
    obtain ⟨hagain, hfd, -⟩ := readsAgain (loopStep_cases hlast) hincomplete hread
    rw [← hfd]
    exact hnever (before ++ [event]) after v _ (by simp) hnext socket rest (Or.inl hagain)
  · intro hmore before after t first heq hbefore
    subst heq
    have hsplit : ∀ {b label c}, before = b ++ label :: c →
        before ++ after = b ++ label :: (c ++ after) := by
      intro b label c heq
      rw [heq, List.append_assoc, List.cons_append]
    exact (readyInv_run hbefore
      (fun b label c v first' heq => hbytes b label _ v first' (hsplit heq))
      (fun b label c v first' heq => hmore b label _ v first' (hsplit heq))).current

/-- What `select` has reported and has not been read since, after the events of a run. -/
def unreadAfter (format : CommandFormat) (start : Loop) : Available := fun events =>
  ((exec (loopStep format) start events).map fun result => result.1.unread).getD ∅

theorem unreadAfter_eq {start : Loop} (hrun : Run (loopStep format) start events s trace) :
    unreadAfter format start events = s.unread := by
  unfold unreadAfter
  rw [hrun.exec_eq]
  rfl

theorem unreadAfter_distributes {start : Loop} (hrun : Run (loopStep format) start events s trace) :
    Distributes format start events (unreadAfter format start) := by
  intro before event after t first heq hbefore
  subst heq
  obtain ⟨t', out, v, out', hbefore', hlast, hnext⟩ := hrun.split_step
  obtain ⟨rfl, -⟩ := hbefore.unique hbefore'
  rw [unreadAfter_eq hbefore, unreadAfter_eq hnext]
  exact unread_keepsBytes (loopStep_cases hlast)

/-- Along a run, each `recv` is on a descriptor that the `select` of its iteration has reported readable
and that has not been read since, just if no `recv` on a barely connected socket leaves its command
incomplete. And whatever bytes are there, no `recv` blocks just if each one that leaves its command
incomplete leaves more bytes of its client. -/
theorem reads_ready_iff
    (hrun : Run (loopStep format) (Loop.start signalFd listenerFd) events s trace) :
    (Always (loopStep format) (fun t _ => ReadsReady t) (Loop.start signalFd listenerFd) events ↔
      Throughout (loopStep format) (fun t event => event.completes format t = true)
        (Loop.start signalFd listenerFd) events) ∧
      ∀ available, Distributes format (Loop.start signalFd listenerFd) events available →
        (NeverBlocks format (Loop.start signalFd listenerFd) events available ↔
          MoreIsThere format (Loop.start signalFd listenerFd) events available) := by
  refine ⟨?_, fun available hbytes => neverBlocks_iff hrun hbytes⟩
  have hready : Always (loopStep format) (fun t _ => ReadsReady t) (Loop.start signalFd listenerFd)
      events ↔ NeverBlocks format (Loop.start signalFd listenerFd) events
        (unreadAfter format (Loop.start signalFd listenerFd)) := by
    constructor
    · intro halways before after t first heq hbefore
      rw [unreadAfter_eq hbefore]
      exact halways before after t first heq hbefore
    · intro hnever before after t first heq hbefore
      have h := hnever before after t first heq hbefore
      rwa [unreadAfter_eq hbefore] at h
  rw [hready, neverBlocks_iff hrun (unreadAfter_distributes hrun)]
  constructor
  · intro hmore before event after t first heq hbefore
    by_contra hincomplete
    have hincomplete : event.completes format t = false := Bool.eq_false_iff.mpr hincomplete
    obtain ⟨socket, rest, hread⟩ := reading_of_incomplete hincomplete
    have hmem := hmore before event after t first heq hbefore hincomplete socket rest hread
    subst heq
    obtain ⟨t', out, v, out', hbefore', hlast, hnext⟩ := hrun.split_step
    obtain ⟨rfl, -⟩ := hbefore.unique hbefore'
    rw [unreadAfter_eq hnext, (readsAgain (loopStep_cases hlast) hincomplete hread).2.2] at hmem
    exact Finset.notMem_erase _ _ hmem
  · intro hcompletes before event after t first heq hbefore hincomplete
    rw [hcompletes before event after t first heq hbefore] at hincomplete
    cases hincomplete

end

/-! ### Runs of a client without a command -/

/-- The size of a content, and the content `[32, 1]` of a STATUS. -/
def sizeFormat : CommandFormat where
  endianness := .little
  parseFromArray bytes := if bytes = [32, 1] then some (.status true) else none

/-- A client is accepted and becomes readable. -/
def acceptEvents : List LoopEvent := [.select {4} [], .accept 1 5, .message none, .select {5} [1]]

theorem clients_survive_iff_header :
    ∃ s trace, Run (loopStep sizeFormat) (Loop.start 3 4) (acceptEvents ++ [.recv (.data [2, 0])]) s
        trace ∧
      EveryStep (loopStep sizeFormat) (Survives sizeFormat) (Loop.start 3 4)
        (acceptEvents ++ [.recv (.data [2, 0])]) := by
  obtain ⟨s, trace, hexec⟩ : ∃ s trace, exec (loopStep sizeFormat) (Loop.start 3 4)
      (acceptEvents ++ [.recv (.data [2, 0])]) = some (s, trace) := ⟨_, _, rfl⟩
  have hrun := Run.of_exec hexec
  exact ⟨s, trace, hrun, (clients_survive_iff hrun).mpr (Throughout.of_check rfl)⟩

/-- A client that closes its connection without having sent anything ends the server. -/
theorem closed_client_ends_serve :
    ∃ s t trace, Run (loopStep sizeFormat) (Loop.start 3 4) acceptEvents s trace ∧
      s.Reading 1 [] ∧ loopStep sizeFormat s (.recv .closed) = some (t, []) ∧
      t.point = .raised ⟨"Connection lost"⟩ ∧ ¬Survives sizeFormat s (.recv .closed) t [] := by
  obtain ⟨s, trace, hexec, hpoint⟩ : ∃ s trace, exec (loopStep sizeFormat) (Loop.start 3 4)
      acceptEvents = some (s, trace) ∧ s.point = .header 1 [] := by
    refine ⟨_, _, rfl, ?_⟩
    rfl
  have hstep : ∃ t, loopStep sizeFormat s (.recv .closed) = some (t, []) ∧
      t.point = .raised ⟨"Connection lost"⟩ := by
    simp only [loopStep, hpoint]
    exact ⟨_, rfl, rfl⟩
  obtain ⟨t, hstep, hraised⟩ := hstep
  refine ⟨s, t, trace, Run.of_exec hexec, Or.inl hpoint, hstep, hraised, ?_⟩
  intro hsurvives
  exact (hsurvives 1 [] .closed (Or.inl hpoint) rfl fun _ h => by cases h).1 _ hraised

/-- The client has sent a header of size 0: it is read at once, and the empty command ends the server. -/
theorem reads_ready_iff_empty :
    ∃ s trace, Run (loopStep sizeFormat) (Loop.start 3 4)
        (acceptEvents ++ [.recv (.data [0, 0, 0, 0])]) s trace ∧
      trace = [.handled 1 .typeNotSet] ∧
      Always (loopStep sizeFormat) (fun t _ => ReadsReady t) (Loop.start 3 4)
        (acceptEvents ++ [.recv (.data [0, 0, 0, 0])]) := by
  obtain ⟨s, trace, hexec, htrace⟩ : ∃ s trace, exec (loopStep sizeFormat) (Loop.start 3 4)
      (acceptEvents ++ [.recv (.data [0, 0, 0, 0])]) = some (s, trace) ∧
      trace = [.handled 1 .typeNotSet] := by
    refine ⟨_, _, rfl, ?_⟩
    rfl
  have hrun := Run.of_exec hexec
  exact ⟨s, trace, hrun, htrace, (reads_ready_iff hrun).1.mpr (Throughout.of_check rfl)⟩

/-- A client has sent two bytes of a header, and they have been read: the next `recv` is on its descriptor
again. -/
theorem partial_header_is_read_again :
    ∃ s trace, Run (loopStep sizeFormat) (Loop.start 3 4) (acceptEvents ++ [.recv (.data [2, 0])]) s
        trace ∧
      s.Reading 1 [] ∧ s.fd 1 = 5 ∧ s.unread = ∅ ∧ ¬ReadsReady s := by
  obtain ⟨s, trace, hexec, hpoint, hfd, hunread⟩ : ∃ s trace, exec (loopStep sizeFormat)
      (Loop.start 3 4) (acceptEvents ++ [.recv (.data [2, 0])]) = some (s, trace) ∧
      s.point = .header 1 [] ∧ s.fd 1 = 5 ∧ s.unread = ∅ := by
    refine ⟨_, _, rfl, rfl, rfl, ?_⟩
    decide
  have hread : s.Reading 1 [] := Or.inl hpoint
  refine ⟨s, trace, Run.of_exec hexec, hread, hfd, hunread, ?_⟩
  intro hready
  have hmem := hready 1 [] (Or.inl hread)
  rw [hunread] at hmem
  exact Finset.notMem_empty _ hmem

end RemoteSimgrid
