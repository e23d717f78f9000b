import RemoteSimgrid.ServerWires

/-! The first message on the socket of an actor. The command thread hands the socket over before it
writes its acknowledgment; where it hands it over to an actor that may run, only the client's waiting
orders the two writes. -/

namespace RemoteSimgrid

open Machine Pb

/-- The actor has read a decision and not yet finished with it. -/
def ActorPoint.deciding : ActorPoint → Bool
  | .calling _ (.firstYield _) | .returned _ (.firstYield _) => false
  | .calling _ _ | .returned _ _ | .waitingCanConnectAck _ _ => true
  | _ => false

theorem ActorPoint.connected_of_deciding {point : ActorPoint} (h : point.deciding = true) :
    point.connected = true := by
  cases point with
  | calling call frame => cases frame <;> first | rfl | cases h
  | returned ret frame => cases frame <;> first | rfl | cases h
  | waitingCanConnectAck => rfl
  | _ => cases h

/-! ### What an actor writes -/

section

variable {K : S4u} {s t : Simulation K} {event : SimEvent K} {out : List SimOutput} {p : Pid}
  {socket : Socket} {segment : Segment}

/-- An actor works on a decision that it has read, or reads in this step. -/
def Serving (s : Simulation K) (event : SimEvent K) (p : Pid) (socket : Socket) : Prop :=
  ∃ point, s.actors.find p = some ⟨socket, point⟩ ∧ (point.deciding = true ∨
    point = .reading ∧ s.current = some p ∧ ∃ d, event = .decision d)

theorem Serving.connected (h : Serving s event p socket) :
    ∃ actor, s.actors.find p = some actor ∧ actor.socket = socket ∧
      actor.point.connected = true := by
  obtain ⟨point, hfind, hdeciding | ⟨rfl, -, -⟩⟩ := h
  · exact ⟨_, hfind, rfl, ActorPoint.connected_of_deciding hdeciding⟩
  · exact ⟨_, hfind, rfl, rfl⟩

/-- Only the handling of a decision writes on the socket of an actor or goes on after the turn. -/
theorem Ran.serving (h : Ran s event p socket segment) : Serving s event p socket ∨
    segment.outcome.point.deciding = false ∧
      ∀ o ∈ segment.out ++ segment.outcome.out p socket, ∀ q k ack, o ≠ .writeAck q k ack := by
  cases h with
  | firstYield _ actor connectAck => exact Or.inr ⟨rfl, List.forall_mem_nil _⟩
  | resumed _ actor ret frame _ _ hfind hpoint hresumed =>
      by_cases hframe : ∃ connectAck, frame = .firstYield connectAck
      · obtain ⟨connectAck, rfl⟩ := hframe
        cases hresumed.looped rfl with
        | escaped => exact Or.inr ⟨rfl, List.forall_mem_nil _⟩
        | connected => exact Or.inr ⟨rfl, List.forall_mem_nil _⟩
      · refine Or.inl ⟨_, hfind, Or.inl ?_⟩
        rw [hpoint]
        cases frame with
        | firstYield connectAck => exact absurd ⟨connectAck, rfl⟩ hframe
        | _ => rfl
  | decided _ _ d hcurrent hfind => exact Or.inl ⟨_, hfind, Or.inr ⟨rfl, hcurrent, d, rfl⟩⟩
  | thinking _ _ d hcurrent hfind => exact Or.inl ⟨_, hfind, Or.inr ⟨rfl, hcurrent, d, rfl⟩⟩
  | badThinkTime _ _ d _ hcurrent hfind => exact Or.inl ⟨_, hfind, Or.inr ⟨rfl, hcurrent, d, rfl⟩⟩
  | readFailed _ _ e =>
      refine Or.inr ⟨rfl, List.forall_mem_singleton.mpr ?_⟩
      exact (fun q k ack heq => by cases heq)
  | childAccepted _ _ _ _ _ hfind => exact Or.inl ⟨_, hfind, Or.inl rfl⟩
  | badCanConnectAck _ _ _ _ _ _ _ hfind => exact Or.inl ⟨_, hfind, Or.inl rfl⟩

theorem not_writeAck_of_internal {out : List SimOutput} (h : ∀ o ∈ out, o.internal = true) {q : Pid}
    {k : Socket} {ack : DecisionAck} : .writeAck q k ack ∉ out := by
  intro hmem
  cases h _ hmem

/-- An actor writes on its own socket, and reads again. -/
theorem Turn.writes (h : Turn s event p socket segment) {q : Pid} {k : Socket} {ack : DecisionAck}
    (hmem : .writeAck q k ack ∈ segment.out ++ segment.outcome.out p socket) :
    q = p ∧ k = socket ∧ segment.outcome.point = .reading := by
  cases h with
  | ends m out outcome _ hout hends =>
      rcases List.mem_append.mp hmem with hmem | hmem
      · exact absurd hmem (not_writeAck_of_internal hout)
      · cases outcome with
        | finished ack sendAck quitReceived =>
            obtain ⟨rfl, rfl⟩ : sendAck = false ∧ quitReceived = true := by
              simpa [Outcome.ends] using hends
            cases List.mem_singleton.mp hmem
        | raised e => cases List.mem_singleton.mp hmem
        | _ => cases hmem
  | replies m out ack _ hout =>
      rcases List.mem_append.mp hmem with hmem | hmem
      · exact absurd hmem (not_writeAck_of_internal hout)
      · cases List.mem_singleton.mp hmem
        exact ⟨rfl, rfl, rfl⟩
  | suspends m out call frame _ hout =>
      rcases List.mem_append.mp hmem with hmem | hmem
      · exact absurd hmem (not_writeAck_of_internal hout)
      · cases hmem
  | requests out name host hout =>
      rcases List.mem_append.mp hmem with hmem | hmem
      · exact absurd hmem (not_writeAck_of_internal hout)
      · cases hmem
  | yields => cases hmem
  | waits => cases hmem
  | asks => cases List.mem_singleton.mp hmem
  | delivers =>
      simp only [Outcome.out, Bool.false_eq_true, if_false, List.append_nil, List.mem_cons,
        List.not_mem_nil, or_false] at hmem
      rcases hmem with hmem | hmem | hmem
      · cases hmem
      · cases hmem
        exact ⟨rfl, rfl, rfl⟩
      · cases hmem
  | tells =>
      cases List.mem_singleton.mp hmem
      exact ⟨rfl, rfl, rfl⟩

/-- What is written in a step is written by an actor that serves a decision, and reads afterwards. -/
theorem SimStep.writes (h : SimStep s event t out) {q : Pid} {k : Socket} {ack : DecisionAck}
    (hmem : .writeAck q k ack ∈ out) : Serving s event q k ∧
      ∃ after, t.actors.find q = some after ∧ after.socket = k ∧ after.point = .reading := by
  cases h with
  | ran _ p socket segment hran =>
      obtain ⟨rfl, rfl, hreading⟩ := hran.turn.writes hmem
      rcases hran.serving with hserving | ⟨-, hsilent⟩
      · obtain ⟨actor, hfind, hsocket, -⟩ := hserving.connected
        refine ⟨hserving, { actor with point := .reading }, ?_, hsocket, rfl⟩
        simp only [Simulation.conclude, find_setPoint, hreading]
        rw [if_pos trivial]
        exact congrArg (Option.map _) hfind
      · exact absurd rfl (hsilent _ hmem q k ack)
  | progressed e kernel writes =>
      obtain ⟨write, -, heq⟩ := List.mem_map.mp hmem
      cases heq
  | served => cases List.mem_singleton.mp hmem
  | _ => cases hmem

/-- An actor that is at work after a step was before it, or has just read. -/
theorem SimStep.deciding (h : SimStep s event t out) {q : Pid} {actor : ServerActor}
    (hq : t.actors.find q = some actor) (hdeciding : actor.point.deciding = true) :
    Serving s event q actor.socket := by
  cases h.moved hq with
  | stayed hs => exact ⟨actor.point, hs, Or.inl hdeciding⟩
  | ran before socket segment hbefore hran _ heq =>
      subst heq
      obtain ⟨point, hfind, -⟩ := hran.find_socket
      cases hfind.symm.trans hbefore
      rcases hran.serving with hserving | ⟨hnot, -⟩
      · exact hserving
      · rw [hnot] at hdeciding
        cases hdeciding
  | started before _ _ _ heq =>
      subst heq
      cases hdeciding
  | served before call frame ret _ hbefore hpoint heq =>
      subst heq
      refine ⟨before.point, hbefore, Or.inl ?_⟩
      rw [hpoint]
      cases frame <;> first | rfl | cases hdeciding
  | spawned p before name host connectAck frame _ _ _ _ heq =>
      subst heq
      cases hdeciding
  | connected before connectAck socket _ _ _ heq =>
      subst heq
      cases hdeciding
  | connectFailed before _ heq =>
      subst heq
      cases hdeciding

end

/-! ### The invariant -/

section

variable {K : S4u} {platformFile : String} {format : WireFormat} {s t : WiredServer K}

theorem written_ne_nil (format : WireFormat) (message : ServerMessage) :
    format.written message ≠ [] := by
  intro hnil
  have hlength := congrArg List.length hnil
  rw [WireFormat.written, List.length_map, Packet.length_frame, List.length_nil] at hlength
  omega

/-- How far the command thread is with the acknowledgment `ack` on the stream `wire` of a socket. -/
inductive Answering (format : WireFormat) (writer : Writer) (socket : Socket) (wire : List WrittenByte)
    (ack : CommandAck) : Prop
  | writing (rest : List WrittenByte) : writer = .writing socket rest → rest ≠ [] →
      wire ++ rest = format.written (.commandAck ack) → Answering format writer socket wire ack
  | failed (rest : List WrittenByte) : writer = .failed socket → rest ≠ [] →
      wire ++ rest = format.written (.commandAck ack) → Answering format writer socket wire ack
  | answered : writer.socket ≠ some socket → format.written (.commandAck ack) <+: wire →
      Answering format writer socket wire ack

/-- The acknowledgment of the command on a socket is complete. -/
def Answered (format : WireFormat) (s : WiredServer K) (socket : Socket) : Prop :=
  s.commandWriter.socket ≠ some socket ∧
    ∃ ack, s.answers socket = some ack ∧ format.written (.commandAck ack) <+: s.wire socket

/-- A live socket that is no longer barely connected has been answered, and an actor that is at work, or
writes, does so after that. -/
structure WireInv (format : WireFormat) (s : WiredServer K) : Prop where
  unanswered : ∀ k, s.answers k = none → s.wire k = [] ∧ s.commandWriter.socket ≠ some k
  barely : ∀ k ∈ s.server.serve.barelyConnectedSockets, s.answers k = none
  live : ∀ k ∈ s.server.serve.sockets, k ∉ s.server.serve.barelyConnectedSockets →
    s.answers k ≠ none
  answering : ∀ k ack, s.answers k = some ack → Answering format s.commandWriter k (s.wire k) ack
  deciding : ∀ p actor, s.server.simulation.actors.find p = some actor →
    actor.point.deciding = true → Answered format s actor.socket
  writer : ∀ k, s.simgridWriter.socket = some k → Answered format s k ∧
    ∃ p actor, s.server.simulation.actors.find p = some actor ∧ actor.socket = k ∧
      actor.point.connected = true

theorem Answering.complete {writer : Writer} {k : Socket} {wire : List WrittenByte} {ack : CommandAck}
    (h : Answering format writer k wire ack) (hwriter : writer.socket ≠ some k) :
    format.written (.commandAck ack) <+: wire := by
  cases h with
  | writing rest heq => exact absurd (heq ▸ rfl) hwriter
  | failed rest heq => exact absurd (heq ▸ rfl) hwriter
  | answered _ hfront => exact hfront

/-- Where the command thread is, something of the acknowledgment is missing. -/
theorem Answering.incomplete {writer : Writer} {k : Socket} {wire : List WrittenByte}
    {ack : CommandAck} (h : Answering format writer k wire ack) (hwriter : writer.socket = some k) :
    ∃ rest, rest ≠ [] ∧ wire ++ rest = format.written (.commandAck ack) := by
  cases h with
  | writing rest _ hne heq => exact ⟨rest, hne, heq⟩
  | failed rest _ hne heq => exact ⟨rest, hne, heq⟩
  | answered hnot => exact absurd hwriter hnot

theorem WireInv.first (h : WireInv format s) : CommandAckFirst format s := by
  intro k
  cases hanswer : s.answers k with
  | none => exact (h.unanswered k hanswer).1
  | some ack =>
      cases h.answering k ack hanswer with
      | writing rest _ _ heq => exact Or.inl ⟨rest, heq⟩
      | failed rest _ _ heq => exact Or.inl ⟨rest, heq⟩
      | answered _ hfront => exact Or.inr hfront

theorem WireInv.init : WireInv format ({} : WiredServer K) where
  unanswered k _ := ⟨rfl, nofun⟩
  barely k hk := by cases hk
  live k hk := by cases hk
  answering k ack hk := by cases hk
  deciding p actor hfind := by cases hfind
  writer k hk := by cases hk

/-- The socket of an actor is live and not barely connected. -/
theorem Keeps.actor_socket {server : Server K} {keeper : Socket → Option Keeper}
    (h : Keeps server keeper) {p : Pid} {actor : ServerActor}
    (hfind : server.simulation.actors.find p = some actor) (hconnected : actor.point.connected = true) :
    actor.socket ∈ server.serve.sockets ∧ actor.socket ∉ server.serve.barelyConnectedSockets := by
  have hkept := h.actors p actor hfind hconnected
  refine ⟨h.live _ (by rw [hkept]; exact nofun), fun hbarely => ?_⟩
  cases hkept.symm.trans (h.barely _ hbarely)

/-- Where the command thread is not, the acknowledgment is complete. -/
theorem WireInv.answered (h : WireInv format s) {keeper : Socket → Option Keeper}
    (hkeeps : Keeps s.server keeper) {p : Pid} {actor : ServerActor}
    (hfind : s.server.simulation.actors.find p = some actor) (hconnected : actor.point.connected = true)
    (hwriter : s.commandWriter.socket ≠ some actor.socket) : Answered format s actor.socket := by
  obtain ⟨hlive, hbarely⟩ := hkeeps.actor_socket hfind hconnected
  obtain ⟨ack, hack⟩ := Option.ne_none_iff_exists'.mp (h.live _ hlive hbarely)
  exact ⟨hwriter, ack, hack, (h.answering _ ack hack).complete hwriter⟩

/-! ### System calls -/

theorem Writer.send_eq_some {writer writer' : Writer} {result : SendResult} {k : Socket}
    {bytes : List WrittenByte} (h : writer.send result = some (k, bytes, writer')) :
    ∃ rest, writer = .writing k rest ∧ (writer' = .failed k ∧ bytes = [] ∨
      writer' = .idle ∧ bytes = rest ∨
      ∃ rest', writer' = .writing k rest' ∧ rest' ≠ [] ∧ rest = bytes ++ rest') := by
  unfold Writer.send at h
  split at h
  · rename_i socket rest
    split at h
    · cases h
      exact ⟨rest, rfl, Or.inl ⟨rfl, rfl⟩⟩
    · rename_i size
      dsimp only at h
      split at h
      · rename_i hempty
        cases h
        refine ⟨rest, rfl, Or.inr (Or.inl ⟨rfl, ?_⟩)⟩
        have happend := List.take_append_drop (piece size rest.length) rest
        rwa [hempty, List.append_nil] at happend
      · rename_i hrest
        cases h
        exact ⟨rest, rfl, Or.inr (Or.inr ⟨_, rfl, hrest, (List.take_append_drop _ _).symm⟩)⟩
  · cases h

theorem Writer.send_socket {writer writer' : Writer} {result : SendResult} {k : Socket}
    {bytes : List WrittenByte} (h : writer.send result = some (k, bytes, writer')) :
    writer.socket = some k ∧ ∀ x, writer'.socket = some x → x = k := by
  obtain ⟨rest, rfl, ⟨rfl, -⟩ | ⟨rfl, -⟩ | ⟨rest', rfl, -⟩⟩ := Writer.send_eq_some h
  · exact ⟨rfl, fun x hx => (Option.some.inj hx).symm⟩
  · exact ⟨rfl, fun x hx => by cases hx⟩
  · exact ⟨rfl, fun x hx => (Option.some.inj hx).symm⟩

theorem WireInv.commandSend (h : WireInv format s) {result : SendResult} {k : Socket}
    {bytes : List WrittenByte} {writer : Writer}
    (hsend : s.commandWriter.send result = some (k, bytes, writer)) :
    WireInv format { s with
      commandWriter := writer
      wire := Function.update s.wire k (s.wire k ++ bytes) } := by
  obtain ⟨hsocket, hother⟩ := Writer.send_socket hsend
  obtain ⟨ack, hack⟩ := Option.ne_none_iff_exists'.mp fun hnone => (h.unanswered k hnone).2 hsocket
  have hne : ∀ {x}, x ≠ k → writer.socket ≠ some x := fun hx heq => hx (hother _ heq)
  have hkept : ∀ {x}, Answered format s x → Answered format { s with
      commandWriter := writer
      wire := Function.update s.wire k (s.wire k ++ bytes) } x := by
    rintro x ⟨hwriter, ack, hx, hfront⟩
    have hxk : x ≠ k := by
      rintro rfl
      exact hwriter hsocket
    refine ⟨hne hxk, ack, hx, ?_⟩
    simp only [Function.update_of_ne hxk]
    exact hfront
  exact
    { unanswered := fun x hx => by
        have hxk : x ≠ k := by
          rintro rfl
          cases hack.symm.trans hx
        simp only [Function.update_of_ne hxk]
        exact ⟨(h.unanswered x hx).1, hne hxk⟩
      barely := h.barely
      live := h.live
      answering := fun x ack' hx => by
        by_cases hxk : x = k
        · subst hxk
          simp only [Function.update_self]
          obtain ⟨rest, hwriting, hcase⟩ := Writer.send_eq_some hsend
          obtain ⟨hmissing, hrest⟩ : rest ≠ [] ∧ s.wire x ++ rest = format.written (.commandAck ack') := by
            cases h.answering x ack' hx with
            | writing rest' heq hne hwritten =>
                cases hwriting.symm.trans heq
                exact ⟨hne, hwritten⟩
            | failed rest' heq => cases hwriting.symm.trans heq
            | answered hnot => exact absurd hsocket hnot
          rcases hcase with ⟨rfl, rfl⟩ | ⟨rfl, rfl⟩ | ⟨rest', rfl, hne', rfl⟩
          · exact .failed rest rfl hmissing (by rw [List.append_nil, hrest])
          · exact .answered nofun (by rw [hrest])
          · exact .writing rest' rfl hne' (by rw [List.append_assoc, hrest])
        · simp only [Function.update_of_ne hxk]
          refine .answered (hne hxk) ((h.answering x ack' hx).complete ?_)
          rw [hsocket]
          exact fun heq => hxk (Option.some.inj heq).symm
      deciding := fun p actor hfind hpoint => hkept (h.deciding p actor hfind hpoint)
      writer := fun x hx => ⟨hkept (h.writer x hx).1, (h.writer x hx).2⟩ }

theorem WireInv.simgridSend (h : WireInv format s) {result : SendResult} {k : Socket}
    {bytes : List WrittenByte} {writer : Writer}
    (hsend : s.simgridWriter.send result = some (k, bytes, writer)) :
    WireInv format { s with
      simgridWriter := writer
      wire := Function.update s.wire k (s.wire k ++ bytes) } := by
  obtain ⟨hsocket, hother⟩ := Writer.send_socket hsend
  obtain ⟨⟨hwriter, ack, hack, hfront⟩, hactor⟩ := h.writer k hsocket
  have hlonger : ∀ x, s.wire x <+: Function.update s.wire k (s.wire k ++ bytes) x := by
    intro x
    by_cases hxk : x = k
    · subst hxk
      rw [Function.update_self]
      exact List.prefix_append _ _
    · rw [Function.update_of_ne hxk]
  have hkept : ∀ {x}, Answered format s x → Answered format { s with
      simgridWriter := writer
      wire := Function.update s.wire k (s.wire k ++ bytes) } x :=
    fun ⟨hnot, ack, hx, hcomplete⟩ => ⟨hnot, ack, hx, hcomplete.trans (hlonger _)⟩
  exact
    { unanswered := fun x hx => by
        have hxk : x ≠ k := by
          rintro rfl
          cases hack.symm.trans hx
        simp only [Function.update_of_ne hxk]
        exact h.unanswered x hx
      barely := h.barely
      live := h.live
      answering := fun x ack' hx => by
        by_cases hxk : x = k
        · subst hxk
          exact .answered hwriter (((h.answering x ack' hx).complete hwriter).trans (hlonger x))
        · simp only [Function.update_of_ne hxk]
          exact h.answering x ack' hx
      deciding := fun p actor hfind hpoint => hkept (h.deciding p actor hfind hpoint)
      writer := fun x hx => by
        rw [hother x hx]
        exact ⟨hkept (h.writer k hsocket).1, hactor⟩ }

/-! ### Steps of the server -/

theorem Serve.Handled.answer {serve v : Serve} {k : Socket} {out : List ServeOutput} {drop : Bool}
    (h : serve.Handled k v out drop) : ∃ ack, commandAnswer (out.map .serve) = some (k, ack) := by
  cases h <;> exact ⟨_, rfl⟩

theorem Serve.Handled.sockets {serve v : Serve} {k : Socket} {out : List ServeOutput} {drop : Bool}
    (h : serve.Handled k v out drop) :
    (v.afterCommand k drop).sockets = serve.sockets ∧
      (v.afterCommand k drop).barelyConnectedSockets = serve.barelyConnectedSockets.erase k := by
  cases h <;> exact ⟨rfl, rfl⟩

/-- The command thread answers nobody. -/
theorem WireInv.unserved (h : WireInv format s) {server : Server K}
    (hsimulation : server.simulation = s.server.simulation)
    (hbarely : server.serve.barelyConnectedSockets = s.server.serve.barelyConnectedSockets)
    (hsockets : server.serve.sockets ⊆ s.server.serve.sockets) :
    WireInv format { s with server := server } where
  unanswered := h.unanswered
  barely := by rw [hbarely]; exact h.barely
  live k hk := by rw [hbarely]; exact h.live k (hsockets hk)
  answering := h.answering
  deciding := by rw [hsimulation]; exact h.deciding
  writer := by rw [hsimulation]; exact h.writer

theorem WireInv.accept (h : WireInv format s) {keeper : Socket → Option Keeper}
    (hkeeps : Keeps s.server keeper) (hidle : s.commandWriter = .idle) {server : Server K} {k : Socket}
    (hfresh : k ∉ s.server.serve.sockets)
    (hsimulation : server.simulation = s.server.simulation)
    (hbarely : server.serve.barelyConnectedSockets =
      insert k s.server.serve.barelyConnectedSockets)
    (hsockets : server.serve.sockets = insert k s.server.serve.sockets) :
    WireInv format { s with
      server := server
      wire := Function.update s.wire k []
      answers := Function.update s.answers k none } := by
  have hwriter : ∀ x, s.commandWriter.socket ≠ some x := by
    intro x
    rw [hidle]
    exact nofun
  have hkept : ∀ {p actor}, s.server.simulation.actors.find p = some actor →
      actor.point.connected = true → Answered format s actor.socket →
      Answered format { s with
        server := server
        wire := Function.update s.wire k []
        answers := Function.update s.answers k none } actor.socket := by
    rintro p actor hfind hconnected ⟨hnot, ack, hack, hfront⟩
    have hne : actor.socket ≠ k := by
      rintro rfl
      exact hfresh (hkeeps.actor_socket hfind hconnected).1
    refine ⟨hnot, ack, ?_, ?_⟩
    · simp only [Function.update_of_ne hne]
      exact hack
    · simp only [Function.update_of_ne hne]
      exact hfront
  exact
    { unanswered := fun x hx => by
        by_cases hxk : x = k
        · subst hxk
          exact ⟨Function.update_self _ _ _, hwriter x⟩
        · simp only [Function.update_of_ne hxk] at hx ⊢
          exact h.unanswered x hx
      barely := fun x hx => by
        by_cases hxk : x = k
        · subst hxk
          exact Function.update_self _ _ _
        · rw [hbarely] at hx
          simp only [Function.update_of_ne hxk]
          exact h.barely x ((Finset.mem_insert.mp hx).resolve_left hxk)
      live := fun x hx hnot => by
        rw [hbarely, Finset.mem_insert, not_or] at hnot
        rw [hsockets] at hx
        simp only [Function.update_of_ne hnot.1]
        exact h.live x ((Finset.mem_insert.mp hx).resolve_left hnot.1) hnot.2
      answering := fun x ack hx => by
        by_cases hxk : x = k
        · subst hxk
          simp only [Function.update_self] at hx
          cases hx
        · simp only [Function.update_of_ne hxk] at hx ⊢
          exact h.answering x ack hx
      deciding := fun p actor hfind hpoint => by
        rw [hsimulation] at hfind
        exact hkept hfind (ActorPoint.connected_of_deciding hpoint) (h.deciding p actor hfind hpoint)
      writer := fun x hx => by
        obtain ⟨hanswered, p, actor, hfind, rfl, hconnected⟩ := h.writer x hx
        exact ⟨hkept hfind hconnected hanswered, p, actor, hsimulation ▸ hfind, rfl, hconnected⟩ }

/-- The command thread begins to answer the command of a barely connected socket. -/
theorem WireInv.answer (h : WireInv format s) {keeper : Socket → Option Keeper}
    (hkeeps : Keeps s.server keeper) (hidle : s.commandWriter = .idle) {server : Server K} {k : Socket}
    (hk : k ∈ s.server.serve.barelyConnectedSockets) (ack : CommandAck)
    (hsimulation : server.simulation = s.server.simulation)
    (hbarely : server.serve.barelyConnectedSockets = s.server.serve.barelyConnectedSockets.erase k)
    (hsockets : server.serve.sockets = s.server.serve.sockets) :
    WireInv format { s with
      server := server
      commandWriter := .writing k (format.written (.commandAck ack))
      answers := Function.update s.answers k (some ack) } := by
  have hwriter : ∀ x, s.commandWriter.socket ≠ some x := by
    intro x
    rw [hidle]
    exact nofun
  have hother : ∀ {x}, x ≠ k →
      (Writer.writing k (format.written (.commandAck ack))).socket ≠ some x :=
    fun hne heq => hne (Option.some.inj heq).symm
  have hkept : ∀ {p actor}, s.server.simulation.actors.find p = some actor →
      actor.point.connected = true → Answered format s actor.socket →
      Answered format { s with
        server := server
        commandWriter := .writing k (format.written (.commandAck ack))
        answers := Function.update s.answers k (some ack) } actor.socket := by
    rintro p actor hfind hconnected ⟨-, ack', hack, hfront⟩
    have hne : actor.socket ≠ k := by
      rintro rfl
      exact (hkeeps.actor_socket hfind hconnected).2 hk
    refine ⟨hother hne, ack', ?_, hfront⟩
    simp only [Function.update_of_ne hne]
    exact hack
  exact
    { unanswered := fun x hx => by
        by_cases hxk : x = k
        · subst hxk
          simp only [Function.update_self] at hx
          cases hx
        · simp only [Function.update_of_ne hxk] at hx
          exact ⟨(h.unanswered x hx).1, hother hxk⟩
      barely := fun x hx => by
        rw [hbarely] at hx
        obtain ⟨hxk, hx⟩ := Finset.mem_erase.mp hx
        simp only [Function.update_of_ne hxk]
        exact h.barely x hx
      live := fun x hx hnot => by
        rw [hsockets] at hx
        by_cases hxk : x = k
        · subst hxk
          simp only [Function.update_self]
          exact nofun
        · simp only [Function.update_of_ne hxk]
          exact h.live x hx fun hmem => hnot (hbarely ▸ Finset.mem_erase.mpr ⟨hxk, hmem⟩)
      answering := fun x ack' hx => by
        by_cases hxk : x = k
        · subst hxk
          simp only [Function.update_self] at hx
          cases hx
          refine .writing _ rfl (written_ne_nil format _) ?_
          rw [(h.unanswered x (h.barely x hk)).1, List.nil_append]
        · simp only [Function.update_of_ne hxk] at hx
          exact .answered (hother hxk) ((h.answering x ack' hx).complete (hwriter x))
      deciding := fun p actor hfind hpoint => by
        rw [hsimulation] at hfind
        exact hkept hfind (ActorPoint.connected_of_deciding hpoint) (h.deciding p actor hfind hpoint)
      writer := fun x hx => by
        obtain ⟨hanswered, p, actor, hfind, rfl, hconnected⟩ := h.writer x hx
        exact ⟨hkept hfind hconnected hanswered, p, actor, hsimulation ▸ hfind, rfl, hconnected⟩ }

theorem WireInv.serve (h : WireInv format s) {keeper : Socket → Option Keeper}
    (hkeeps : Keeps s.server keeper) {event : ServeEvent} (hidle : s.idle (.serve event) = true)
    {server : Server K} {out : List ServerOutput}
    (hstep : ServerStep platformFile s.server (.serve event) server out) :
    WireInv format (s.advance format (.serve event) server out) := by
  have hwriter : s.commandWriter = .idle := of_decide_eq_true hidle
  cases hstep with
  | popped msg rest serve out hqueue hserve =>
      cases serveStep_cases hserve with
      | interthread _ _ _ _ _ hpopped =>
          cases hpopped with
          | finished => exact h.unserved rfl rfl subset_rfl
          | aborted => exact h.unserved rfl rfl subset_rfl
          | quit => exact h.unserved rfl rfl subset_rfl
          | created => exact h.unserved rfl rfl subset_rfl
  | served _ serve out hnot hserve =>
      cases serveStep_cases hserve with
      | accept k hfresh => exact h.accept hkeeps hwriter hfresh rfl rfl rfl
      | delete k hdropped => exact h.unserved rfl rfl (Finset.erase_subset _ _)
      | interthread msg => exact absurd rfl (hnot msg)
      | command k command v _ drop hbarely hhandled =>
          obtain ⟨ack, hack⟩ := hhandled.answer
          obtain ⟨hsockets, hsame⟩ := hhandled.sockets
          simp only [WiredServer.advance, hack]
          refine h.answer hkeeps hwriter hbarely ack ?_ hsame hsockets
          cases command <;> rfl

/-- An actor serves decisions on sockets whose clients have been answered. -/
theorem WireInv.serving (h : WireInv format s) {keeper : Socket → Option Keeper}
    (hkeeps : Keeps s.server keeper) {event : SimEvent K}
    (hguard : ReadsAnswered s (.server (.simulation event))) {p : Pid} {socket : Socket}
    (hserving : Serving s.server.simulation event p socket) : Answered format s socket := by
  obtain ⟨point, hfind, hdeciding | ⟨rfl, hcurrent, d, rfl⟩⟩ := hserving
  · exact h.deciding p _ hfind hdeciding
  · have hrunning : s.server.simulation.runningSocket = some socket := by
      simp only [Simulation.runningSocket, hcurrent, hfind, Option.map_some]
    rw [ReadsAnswered, hrunning] at hguard
    exact h.answered hkeeps hfind rfl hguard

theorem WireInv.simulated (h : WireInv format s) {keeper : Socket → Option Keeper}
    (hkeeps : Keeps s.server keeper) {event : SimEvent K}
    (hguard : ReadsAnswered s (.server (.simulation event))) (server : Server K)
    {sent : List SimOutput} (hstep : SimStep s.server.simulation event server.simulation sent)
    (hserve : server.serve = s.server.serve) {writer : Writer}
    (hwriter : ∀ k, writer.socket = some k → ∃ q ack, .writeAck q k ack ∈ sent) :
    WireInv format { s with server := server, simgridWriter := writer } where
  unanswered := h.unanswered
  barely := by rw [hserve]; exact h.barely
  live := by rw [hserve]; exact h.live
  answering := h.answering
  deciding p actor hfind hpoint := h.serving hkeeps hguard (hstep.deciding hfind hpoint)
  writer k hk := by
    obtain ⟨q, ack, hmem⟩ := hwriter k hk
    obtain ⟨hserving, after, hfind, hsocket, hpoint⟩ := hstep.writes hmem
    exact ⟨h.serving hkeeps hguard hserving, q, after, hfind, hsocket, by rw [hpoint]; rfl⟩

/-- `maestro` runs; no actor of its writes or is at work. -/
theorem WireInv.maestro (h : WireInv format s) {server : Server K}
    (hserve : server.serve = s.server.serve)
    (hactors : ∀ p actor, server.simulation.actors.find p = some actor →
      actor.point.deciding = true → s.server.simulation.actors.find p = some actor) :
    WireInv format { s with server := server, simgridWriter := .idle } where
  unanswered := h.unanswered
  barely := by rw [hserve]; exact h.barely
  live := by rw [hserve]; exact h.live
  answering := h.answering
  deciding p actor hfind hpoint := h.deciding p actor (hactors p actor hfind hpoint) hpoint
  writer k hk := by cases hk

theorem decisionAnswer_simulation {actor : Option Pid} {sent : List SimOutput} {k : Socket}
    {ack : DecisionAck} (h : decisionAnswer (sent.map (.simulation actor)) = some (k, ack)) :
    ∃ q, .writeAck q k ack ∈ sent := by
  obtain ⟨_, hmem, ho⟩ := List.exists_of_findSome?_eq_some h
  obtain ⟨o, hsent, rfl⟩ := List.mem_map.mp hmem
  cases o <;> cases ho
  exact ⟨_, hsent⟩

/-- The SimGrid thread begins to write at most what its step writes. -/
theorem simgridWriter_socket {out : List ServerOutput} {actor : Option Pid} {sent : List SimOutput}
    (hout : decisionAnswer out = decisionAnswer (sent.map (.simulation actor))) {k : Socket}
    (hk : (match decisionAnswer out with
      | none => Writer.idle
      | some (socket, ack) => .writing socket (format.written (.decisionAck ack))).socket = some k) :
    ∃ q ack, .writeAck q k ack ∈ sent := by
  cases hanswer : decisionAnswer out with
  | none =>
      rw [hanswer] at hk
      cases hk
  | some answer =>
      obtain ⟨socket, ack⟩ := answer
      rw [hanswer] at hk
      cases hk
      obtain ⟨q, hmem⟩ := decisionAnswer_simulation (hout.symm.trans hanswer)
      exact ⟨q, ack, hmem⟩

theorem WireInv.simgrid (h : WireInv format s) {keeper : Socket → Option Keeper}
    (hkeeps : Keeps s.server keeper) {event : ServerEvent K} (hevent : ∀ e, event ≠ .serve e)
    (hguard : ReadsAnswered s (.server event)) {server : Server K} {out : List ServerOutput}
    (hstep : ServerStep platformFile s.server event server out) :
    WireInv format (s.advance format event server out) := by
  cases hstep with
  | popped msg => exact absurd rfl (hevent _)
  | served event => exact absurd rfl (hevent _)
  | unknownHost => exact h.maestro rfl fun p actor hfind _ => hfind
  | spawned connections map vector =>
      refine h.maestro rfl fun p actor hfind hpoint => ?_
      rw [find_spawn hfind] at hpoint
      cases hpoint
  | ran event simulation sent _ _ hsimulation =>
      exact h.simulated hkeeps hguard (s.server.afterSimulation simulation sent)
        (simulationStep_cases hsimulation).2 rfl fun k hk => simgridWriter_socket rfl hk
  | received event p queue msg rest simulation sent _ _ _ _ _ hsimulation =>
      exact h.simulated hkeeps hguard
        (({ s.server with queues := Function.update s.server.queues queue rest } :
          Server K).afterSimulation simulation sent)
        (simulationStep_cases hsimulation).2 rfl fun k hk => simgridWriter_socket rfl hk
  | aborted => exact h.maestro rfl fun p actor hfind _ => hfind
  | finished => exact h.maestro rfl fun p actor hfind _ => hfind

/-! ### Whole runs -/

theorem wiredStep_eq_some {event : ServerEvent K} {out : List ServerOutput}
    (h : wiredStep K platformFile format s (.server event) = some (t, out)) :
    s.idle event = true ∧ ∃ server, serverStep K platformFile s.server event = some (server, out) ∧
      t = s.advance format event server out := by
  simp only [wiredStep] at h
  split at h
  · rename_i hidle
    split at h
    · cases h
    · rename_i server out' hstep
      cases h
      exact ⟨hidle, server, hstep, rfl⟩
  · cases h

/-- A run of the threads with their system calls is one of the server, and keeps the invariant while
decisions are read where the command thread has answered. -/
theorem wireInv_run {events : List (WiredEvent K)} {trace : List ServerOutput}
    (hrun : Run (wiredStep K platformFile format) {} events s trace)
    (hreads : Throughout (wiredStep K platformFile format) ReadsAnswered {} events) :
    WireInv format s := by
  refine (hrun.guarded_invariant (P := fun _ s trace =>
    (∃ events, Run (serverStep K platformFile) {} events s.server trace) ∧ WireInv format s)
    hreads ⟨⟨[], .nil⟩, WireInv.init⟩ ?_).2
  rintro _ s trace label t out _ ⟨⟨events, hserver⟩, hinv⟩ hguard hstep
  obtain ⟨keeper, hkeeps⟩ := keeps_run hserver
  cases label with
  | server event =>
      obtain ⟨hidle, server, hserverStep, rfl⟩ := wiredStep_eq_some hstep
      have hcases := serverStep_cases hserverStep
      have hsame : (s.advance format event server out).server = server := by
        unfold WiredServer.advance
        split
        · rfl
        · split <;> rfl
        · rfl
      refine ⟨⟨events ++ [event], by rw [hsame]; exact hserver.snoc hserverStep⟩, ?_⟩
      by_cases hevent : ∃ e, event = .serve e
      · obtain ⟨e, rfl⟩ := hevent
        exact hinv.serve hkeeps hidle hcases
      · exact hinv.simgrid hkeeps (fun e heq => hevent ⟨e, heq⟩) hguard hcases
  | commandSend result =>
      simp only [wiredStep] at hstep
      split at hstep
      · cases hstep
      · rename_i k bytes writer hsend
        cases hstep
        rw [List.append_nil]
        exact ⟨⟨events, hserver⟩, hinv.commandSend hsend⟩
  | simgridSend result =>
      simp only [wiredStep] at hstep
      split at hstep
      · cases hstep
      · rename_i k bytes writer hsend
        cases hstep
        rw [List.append_nil]
        exact ⟨⟨events, hserver⟩, hinv.simgridSend hsend⟩

/-! ### The first message -/

/-- A query is acknowledged at once. -/
theorem clock_step {simulation : Simulation K} {p : Pid} {socket : Socket}
    (hcrashed : simulation.crashed = false) (hcurrent : simulation.current = some p)
    (hfind : simulation.actors.find p = some ⟨socket, .reading⟩) :
    ∃ after ack, simulationStep K simulation (.decision { type := .engineGetClock true }) =
      some (after, [.dispatched p { type := .engineGetClock true }, .writeAck p socket ack]) := by
  simp only [simulationStep, hcrashed, hcurrent, hfind, handleDecision]
  exact ⟨_, _, rfl⟩

theorem message_of_mem_written {format : WireFormat} {message : ServerMessage} {b : WrittenByte}
    (h : b ∈ format.written message) : b.message = message := by
  obtain ⟨byte, -, rfl⟩ := List.mem_map.mp h
  rfl

/-- Once something else follows an incomplete acknowledgment, it will never be the first message. -/
theorem not_first_of_incomplete {ack : CommandAck} {ack' : DecisionAck} {wire rest : List WrittenByte}
    (hrest : rest ≠ []) (hwire : wire ++ rest = format.written (.commandAck ack)) :
    ¬(wire ++ format.written (.decisionAck ack') <+: format.written (.commandAck ack) ∨
      format.written (.commandAck ack) <+: wire ++ format.written (.decisionAck ack')) := by
  rw [← hwire, List.prefix_append_right_inj, List.prefix_append_right_inj]
  obtain ⟨b, bs, hb⟩ := List.exists_cons_of_ne_nil (written_ne_nil format (.decisionAck ack'))
  obtain ⟨c, cs, rfl⟩ := List.exists_cons_of_ne_nil hrest
  have hbmessage : b.message = .decisionAck ack' := message_of_mem_written (hb ▸ List.mem_cons_self)
  have hcmessage : c.message = .commandAck ack :=
    message_of_mem_written (hwire ▸ List.mem_append_right wire List.mem_cons_self)
  have hne : b ≠ c := by
    rintro rfl
    cases hbmessage.symm.trans hcmessage
  rw [hb]
  rintro (hfront | hfront)
  · exact hne (List.cons_prefix_cons.mp hfront).1
  · exact hne (List.cons_prefix_cons.mp hfront).1.symm

/-- Where a client sends its first decision too early, it may be answered before its `CONNECT`. -/
theorem early_decision (h : WireInv format s) {d : Decision} {out : List ServerOutput}
    (hstep : wiredStep K platformFile format s (.server (.simulation (.decision d))) = some (t, out))
    (hearly : ¬ReadsAnswered s (.server (.simulation (.decision d)))) :
    ∃ events u trace, Run (wiredStep K platformFile format) s events u trace ∧
      ¬CommandAckFirst format u := by
  obtain ⟨hidle, server, hserver, -⟩ := wiredStep_eq_some hstep
  have hwriter : s.simgridWriter = .idle := of_decide_eq_true hidle
  cases serverStep_cases hserver with
  | received _ _ _ _ _ _ _ _ hpops => cases hpops
  | ran _ simulation sent hrunning hpops hsimulation =>
      obtain ⟨hcrashed, hsim⟩ := simulationStep_cases hsimulation
      obtain ⟨p, hcurrent⟩ : ∃ p, s.server.simulation.current = some p := by
        cases hsim with
        | ran _ q socket segment hran =>
            cases hran with
            | decided _ _ _ hcurrent => exact ⟨q, hcurrent⟩
            | thinking _ _ _ hcurrent => exact ⟨q, hcurrent⟩
            | badThinkTime _ _ _ _ hcurrent => exact ⟨q, hcurrent⟩
      obtain ⟨k, hfind⟩ := hsim.reading hcurrent
      have hsocket : s.commandWriter.socket = some k := by
        have heq := not_not.mp hearly
        simpa only [Simulation.runningSocket, hcurrent, hfind, Option.map_some] using heq
      obtain ⟨ack, hack⟩ := Option.ne_none_iff_exists'.mp fun hnone =>
        (h.unanswered k hnone).2 hsocket
      obtain ⟨rest, hrest, hwire⟩ := (h.answering k ack hack).incomplete hsocket
      obtain ⟨after, ack', hclock⟩ := clock_step hcrashed hcurrent hfind
      -- the query is read and its acknowledgment taken by the system as a whole
      have hread : wiredStep K platformFile format s
          (.server (.simulation (.decision { type := .engineGetClock true }))) = some
            ({ s with
              server := s.server.afterSimulation after
                [.dispatched p { type := .engineGetClock true }, .writeAck p k ack']
              simgridWriter := .writing k (format.written (.decisionAck ack')) },
              [.dispatched p { type := .engineGetClock true }, .writeAck p k ack'].map
                (.simulation (some p))) := by
        simp only [wiredStep, WiredServer.idle, hwriter, decide_true, if_true, serverStep, hrunning,
          SimEvent.pops, hclock, SimEvent.runs, hcurrent]
        rfl
      have hsend : ∀ u : WiredServer K, u.simgridWriter = .writing k (format.written (.decisionAck ack')) →
          wiredStep K platformFile format u
            (.simgridSend (.accepted (format.written (.decisionAck ack')).length)) = some
              ({ u with
                simgridWriter := .idle
                wire := Function.update u.wire k (u.wire k ++ format.written (.decisionAck ack')) },
                []) := by
        intro u hu
        have hpos := List.length_pos_of_ne_nil (written_ne_nil format (.decisionAck ack'))
        have hpiece : piece (format.written (.decisionAck ack')).length
            (format.written (.decisionAck ack')).length =
              (format.written (.decisionAck ack')).length := by
          unfold piece
          omega
        simp only [wiredStep, hu, Writer.send, hpiece, List.take_length, List.drop_length, if_true]
      refine ⟨_, _, _, Run.cons hread (Run.cons (hsend _ rfl) Run.nil), fun hfirst => ?_⟩
      have hk := hfirst k
      simp only [hack, Function.update_self] at hk
      exact not_first_of_incomplete hrest hwire hk

/-- The first message on every socket is the answer to its command as long as decisions are read where
that answer is complete; the first one that is read earlier can be answered first. -/
theorem command_ack_is_first {events : List (WiredEvent K)} {trace : List ServerOutput}
    (hrun : Run (wiredStep K platformFile format) {} events s trace)
    (hreads : Throughout (wiredStep K platformFile format) ReadsAnswered {} events) :
    CommandAckFirst format s ∧
    ∀ d, wiredStep K platformFile format s (.server (.simulation (.decision d))) ≠ none →
      ¬ReadsAnswered s (.server (.simulation (.decision d))) →
      ∃ events' t trace', Run (wiredStep K platformFile format) s events' t trace' ∧
        ¬CommandAckFirst format t := by
  have hinv := wireInv_run hrun hreads
  refine ⟨hinv.first, fun d hstep hearly => ?_⟩
  obtain ⟨⟨t, out⟩, hd⟩ := Option.ne_none_iff_exists'.mp hstep
  exact early_decision hinv hd hearly

end

/-- The field `success` of the acknowledgments, `bool success = 1`. -/
def flagFormat : WireFormat where
  endianness := .little
  packet
    | .commandAck ack => ⟨flagProtobuf, ack.success⟩
    | .decisionAck ack => ⟨flagProtobuf, ack.success⟩

/-- One actor is added, the simulation is started, and the `CONNECT` that it waits for is handled; the
system has not taken a byte of its acknowledgment yet. -/
def connectingEvents : List (WiredEvent permissiveS4u) :=
  [.server (.serve (.accept 10)),
    .server (.serve (.command 10 (.addActor { actorName := "a", hostName := "h" }))),
    .commandSend (.accepted 6), .server (.serve (.accept 11)),
    .server (.serve (.command 11 (.start true))), .commandSend (.accepted 2),
    .commandSend (.accepted 4), .server (.serve (.accept 12)),
    .server (.serve (.command 12 (.connect { id := 2 }))),
    .server (.launch
      [{ actorName := "a", hostName := "h", actorId := 2, socket := some 12 }]),
    .server (.simulation (.schedule 2))]

/-- The client waits for its acknowledgment before it sends a decision. -/
def waitingClientEvents : List (WiredEvent permissiveS4u) :=
  connectingEvents ++
    [.commandSend (.accepted 1), .commandSend (.accepted 5),
      .server (.simulation (.decision { type := .mailboxEmpty { name := "m" } })),
      .simgridSend (.accepted 6)]

theorem command_ack_is_first_waiting_client : ∃ s trace,
    Run (wiredStep permissiveS4u "platform.xml" flagFormat) {} waitingClientEvents s trace ∧
      (s.wire 12).length = 12 ∧ CommandAckFirst flagFormat s := by
  have hexec : (exec (wiredStep permissiveS4u "platform.xml" flagFormat) {} waitingClientEvents).any
      (fun result => decide ((result.1.wire 12).length = 12)) = true := by
    decide +kernel
  obtain ⟨s, trace, hrun, hlength⟩ := Run.of_check hexec
  have hreads : Throughout (wiredStep permissiveS4u "platform.xml" flagFormat) ReadsAnswered {}
      waitingClientEvents := Throughout.of_check (by decide +kernel)
  exact ⟨s, trace, hrun, of_decide_eq_true hlength, (command_ack_is_first hrun hreads).1⟩

/-- The client sends its first decision right behind its `CONNECT`; the SimGrid thread answers it first. -/
def earlyClientEvents : List (WiredEvent permissiveS4u) :=
  connectingEvents ++
    [.server (.simulation (.decision { type := .mailboxEmpty { name := "m" } })),
      .simgridSend (.accepted 6), .commandSend (.accepted 6)]

theorem decision_ack_before_command_ack : ∃ s trace,
    Run (wiredStep permissiveS4u "platform.xml" flagFormat) {} earlyClientEvents s trace ∧
      s.answers 12 = some { success := true } ∧
      s.wire 12 = flagFormat.written (.decisionAck { success := true }) ++
        flagFormat.written (.commandAck { success := true }) ∧ ¬CommandAckFirst flagFormat s := by
  have hexec : (exec (wiredStep permissiveS4u "platform.xml" flagFormat) {} earlyClientEvents).any
      (fun result => decide (result.1.answers 12 = some { success := true } ∧
        result.1.wire 12 = flagFormat.written (.decisionAck { success := true }) ++
          flagFormat.written (.commandAck { success := true }))) = true := by
    decide +kernel
  obtain ⟨s, trace, hrun, hcheck⟩ := Run.of_check hexec
  obtain ⟨hanswer, hwire⟩ := of_decide_eq_true hcheck
  refine ⟨s, trace, hrun, hanswer, hwire, fun hfirst => ?_⟩
  have hsocket := hfirst 12
  rw [hanswer, hwire] at hsocket
  revert hsocket
  decide

end RemoteSimgrid
