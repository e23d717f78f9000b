import RemoteSimgrid.ClientThreadsRuns
import RemoteSimgrid.SimulationAnswers

/-! Request and reply between the threads of the clients and the server: every acknowledgment goes to the
thread that has sent the decision, and answers it. -/

namespace RemoteSimgrid

open Machine Pb

/-- A decision of the thread is on its way, or its acknowledgment is awaited. -/
def ThreadPoint.exchanging : ThreadPoint → Bool
  | .sent _ _ | .asking _ => true
  | _ => false

def ThreadCall.type : ThreadCall → DecisionType
  | .function type => type
  | .create actor | .fork actor => .actorCreate actor
  | .firstYield => .thisActorYield true
  | .disconnect => .quit true

/-- Decisions, each followed by its acknowledgment. -/
def exchanged (handled : List (Decision × DecisionAck)) : List Exchange :=
  handled.flatMap fun h => [.asked h.1, .answered h.2]

/-- The decision that has no acknowledgment yet. -/
def pendingDecision (exchanges : List Exchange) : Option Decision :=
  match exchanges.getLast? with
  | some (.asked decision) => some decision
  | _ => none

/-- The acknowledgments among exchanges. -/
def answers (exchanges : List Exchange) : List DecisionAck :=
  exchanges.filterMap fun
    | .answered ack => some ack
    | _ => none

/-- The acknowledgments that the server has written to actor `p`. -/
def writtenTo (p : Pid) (trace : List ThreadOutput) : List DecisionAck :=
  trace.filterMap fun
    | .server (.simulation _ (.writeAck q _ ack)) => if q = p then some ack else none
    | _ => none

/-- Where a thread is, and what it has exchanged: it sends a decision once the ones before it are
acknowledged, and what it reads is the acknowledgment of the decision of its present call. -/
inductive ClientThread.Converses (thread : ClientThread) : List Exchange → Prop
  | settled (handled : List (Decision × DecisionAck)) : thread.point.exchanging = false →
      thread.received = [] → (∀ h ∈ handled, h.1.type.Answers h.2) → Converses thread (exchanged handled)
  | sent (handled : List (Decision × DecisionAck)) (call : ThreadCall) (d : Decision) :
      thread.point = .sent call d → thread.received = [] → (∀ h ∈ handled, h.1.type.Answers h.2) →
      d.type = call.type → Converses thread (exchanged handled ++ [.asked d])
  | asked (handled : List (Decision × DecisionAck)) (call : ThreadCall) (d : Decision) :
      thread.point = .asking call → thread.received = [] → (∀ h ∈ handled, h.1.type.Answers h.2) →
      d.type = call.type → Converses thread (exchanged handled ++ [.asked d])
  | answered (handled : List (Decision × DecisionAck)) (call : ThreadCall) (d : Decision)
      (ack : DecisionAck) : thread.point = .asking call → thread.received = [ack] →
      (∀ h ∈ handled, h.1.type.Answers h.2) → d.type = call.type → d.type.Answers ack →
      Converses thread (exchanged handled ++ [.asked d, .answered ack])

theorem ThreadCall.decision_type (connection : Connection) (elapsed : ℚ) (call : ThreadCall) :
    (call.decision connection elapsed).type = call.type := by
  cases call <;> rfl

theorem exchanged_snoc (handled : List (Decision × DecisionAck)) (d : Decision) (ack : DecisionAck) :
    exchanged (handled ++ [(d, ack)]) = exchanged handled ++ [.asked d, .answered ack] := by
  simp [exchanged]

theorem pendingDecision_asked (exchanges : List Exchange) (d : Decision) :
    pendingDecision (exchanges ++ [.asked d]) = some d := by
  simp [pendingDecision]

theorem answers_append (first second : List Exchange) :
    answers (first ++ second) = answers first ++ answers second :=
  List.filterMap_append

theorem writtenTo_append (p : Pid) (trace out : List ThreadOutput) :
    writtenTo p (trace ++ out) = writtenTo p trace ++ writtenTo p out :=
  List.filterMap_append

/-- The acknowledgments of a step of the server. -/
theorem writtenTo_server (p : Pid) (sent : List ServerOutput) :
    writtenTo p (sent.map .server) =
      (decisionAcks sent).filterMap fun x => if x.1 = p then some x.2 else none := by
  rw [writtenTo, decisionAcks, List.filterMap_map, List.filterMap_filterMap]
  apply List.filterMap_congr
  intro o _
  cases o with
  | simulation actor o => cases o <;> rfl
  | _ => rfl

theorem exchanging_of_begins {thread : ClientThread} (h : thread.begins = true) :
    thread.point.exchanging = false := by
  revert h
  cases hpoint : thread.point <;> simp [ClientThread.begins, ThreadPoint.exchanging, hpoint]

theorem exchanging_of_mayCall {thread : ClientThread} {call : ThreadCall}
    (h : thread.mayCall call = true) : thread.point.exchanging = false := by
  rcases mayCall_cases h with ⟨hpoint, -⟩ | ⟨hpoint, -⟩ | ⟨hpoint, -⟩ <;> rw [hpoint] <;> rfl

namespace ClientThread

variable {thread new : ClientThread} {exchanges : List Exchange}

/-- A thread that exchanges nothing has read the acknowledgments of all its decisions. -/
theorem Converses.of_idle (h : thread.Converses exchanges) (hidle : thread.point.exchanging = false) :
    ∃ handled, exchanges = exchanged handled ∧ thread.received = [] ∧
      ∀ h ∈ handled, h.1.type.Answers h.2 := by
  cases h with
  | settled handled _ hempty hfits => exact ⟨handled, rfl, hempty, hfits⟩
  | sent _ _ _ hsent => rw [hsent] at hidle; cases hidle
  | asked _ _ _ hasking => rw [hasking] at hidle; cases hidle
  | answered _ _ _ _ hasking => rw [hasking] at hidle; cases hidle

/-- A thread that exchanges nothing goes from one point to another. -/
theorem Converses.idle (h : thread.Converses exchanges) (hidle : thread.point.exchanging = false)
    (hreceived : new.received = thread.received) (hpoint : new.point.exchanging = false) :
    new.Converses exchanges := by
  obtain ⟨handled, rfl, hempty, hfits⟩ := h.of_idle hidle
  exact .settled handled hpoint (hreceived.trans hempty) hfits

theorem Converses.send (h : thread.Converses exchanges) (hidle : thread.point.exchanging = false)
    (connection : Connection) (elapsed : ℚ) (call : ThreadCall) :
    Converses { thread with point := .sent call (call.decision connection elapsed) }
      (exchanges ++ [.asked (call.decision connection elapsed)]) := by
  obtain ⟨handled, rfl, hempty, hfits⟩ := h.of_idle hidle
  exact .sent handled call _ rfl hempty hfits (call.decision_type connection elapsed)

/-- The server reads the decision that the thread has sent. -/
theorem Converses.read {call : ThreadCall} {d : Decision} (h : thread.Converses exchanges)
    (hpoint : thread.point = .sent call d) :
    pendingDecision exchanges = some d ∧ thread.received = [] ∧
      Converses { thread with point := .asking call } exchanges := by
  cases h with
  | settled _ hidle => rw [hpoint] at hidle; cases hidle
  | sent handled _ _ hsent hempty hfits htype =>
      rw [hpoint, ThreadPoint.sent.injEq] at hsent
      obtain ⟨rfl, rfl⟩ := hsent
      exact ⟨pendingDecision_asked _ _, hempty, .asked handled call d rfl hempty hfits htype⟩
  | asked _ _ _ hasking => rw [hpoint] at hasking; cases hasking
  | answered _ _ _ _ hasking => rw [hpoint] at hasking; cases hasking

/-- The acknowledgment of the pending decision reaches the thread. -/
theorem Converses.acked {d : Decision} {ack : DecisionAck} (h : thread.Converses exchanges)
    (hasks : thread.Asks) (hpending : pendingDecision exchanges = some d) (hanswers : d.type.Answers ack) :
    Converses { thread with received := [ack] } (exchanges ++ [.answered ack]) := by
  obtain ⟨⟨call, hpoint⟩, hempty⟩ := hasks
  cases h with
  | settled _ hidle => rw [hpoint] at hidle; cases hidle
  | sent _ _ _ hsent => rw [hpoint] at hsent; cases hsent
  | asked handled call' d' hasking _ hfits htype =>
      rw [pendingDecision_asked, Option.some.injEq] at hpending
      subst hpending
      rw [List.append_assoc]
      exact .answered handled call' d' ack hasking rfl hfits htype hanswers
  | answered _ _ _ _ _ hone => rw [hone] at hempty; cases hempty

/-- The call returns, with the acknowledgment of its decision. -/
theorem Converses.returned {call : ThreadCall} {ack : DecisionAck} {rest : List DecisionAck}
    (h : thread.Converses exchanges) (hpoint : thread.point = .asking call)
    (hreceived : thread.received = ack :: rest) (hnew : new.received = rest)
    (hidle : new.point.exchanging = false) : new.Converses exchanges := by
  cases h with
  | settled _ hbefore => rw [hpoint] at hbefore; cases hbefore
  | sent _ _ _ hsent => rw [hpoint] at hsent; cases hsent
  | asked _ _ _ _ hempty => rw [hempty] at hreceived; cases hreceived
  | answered handled call' d ack' _ hone hfits _ hanswers =>
      rw [hone, List.cons.injEq] at hreceived
      rw [← exchanged_snoc]
      refine .settled _ hidle (hnew.trans hreceived.2.symm) ?_
      intro x hx
      rcases List.mem_append.mp hx with hx | hx
      · exact hfits x hx
      · rw [List.mem_singleton.mp hx]
        exact hanswers

end ClientThread

section

variable {K : S4u} {platformFile : String} {s : ThreadSystem K} {trace out : List ThreadOutput}

/-- The decision of the client of an actor that has no acknowledgment yet. -/
def ThreadSystem.asked (s : ThreadSystem K) (trace : List ThreadOutput) (p : Pid) : Option Decision :=
  (s.clients p).bind fun i => pendingDecision (conversation i trace)

theorem AllInHandler.congr {server : Simulation K} {asked asked' : Pid → Option Decision}
    (h : AllInHandler asked server) (hsame : ∀ p, server.Works p → asked' p = asked p) :
    AllInHandler asked' server := by
  intro p point hp
  by_cases hworking : point.working = true
  · rw [hsame p ⟨point, hp, hworking⟩]
    exact h p point hp
  · exact inHandler_of_idle _ (Bool.eq_false_iff.mpr hworking)

/-- The threads converse with the server; an actor that works is in the handler of the decision that its
thread waits for; what was written to an actor is what its thread has been sent. -/
structure ReplyInv (s : ThreadSystem K) (trace : List ThreadOutput) : Prop where
  converses : ∀ (i : Nat) thread, s.threads[i]? = some thread → thread.Converses (conversation i trace)
  handling : AllInHandler (s.asked trace) s.server.simulation
  written : ∀ p, writtenTo p trace =
    (s.clients p).elim [] fun i => answers (conversation i trace)

namespace ReplyInv

theorem init : ReplyInv ({} : ThreadSystem K) [] where
  converses _ _ h := by cases h
  handling _ _ h := by cases h
  written _ := rfl

/-- A thread moves, and no other is seen. -/
theorem put {i : Nat} {old new : ClientThread} (h : ReplyInv s trace) (hold : s.threads[i]? = some old)
    (hother : ∀ j, j ≠ i → conversation j out = []) (hanswers : answers (conversation i out) = [])
    (hwritten : ∀ p, writtenTo p out = [])
    (hnew : new.Converses (conversation i trace ++ conversation i out))
    (hhandling : AllInHandler (s.asked (trace ++ out)) s.server.simulation) :
    ReplyInv (s.put i new) (trace ++ out) := by
  refine ⟨?_, hhandling, ?_⟩
  · intro j thread hj
    rw [getElem?_put hold] at hj
    rw [conversation_append]
    split at hj
    · rename_i heq
      subst heq
      rw [← Option.some.inj hj]
      exact hnew
    · rename_i hne
      rw [hother j hne, List.append_nil]
      exact h.converses j thread hj
  · intro p
    have hsilent : ∀ j, answers (conversation j (trace ++ out)) = answers (conversation j trace) := by
      intro j
      rw [conversation_append, answers_append]
      by_cases hj : j = i
      · rw [hj, hanswers, List.append_nil]
      · rw [hother j hj]
        exact List.append_nil _
    calc writtenTo p (trace ++ out)
        = writtenTo p trace := by rw [writtenTo_append, hwritten, List.append_nil]
      _ = (s.clients p).elim [] fun j => answers (conversation j trace) := h.written p
      _ = (s.clients p).elim [] fun j => answers (conversation j (trace ++ out)) := by
          simp only [hsilent]

/-- A thread moves without sending or receiving. -/
theorem silentPut {i : Nat} {old new : ClientThread} (h : ReplyInv s trace)
    (hold : s.threads[i]? = some old) (hsilent : ∀ j, conversation j out = [])
    (hwritten : ∀ p, writtenTo p out = []) (hnew : new.Converses (conversation i trace)) :
    ReplyInv (s.put i new) (trace ++ out) := by
  refine h.put hold (fun j _ => hsilent j) (by rw [hsilent i]; rfl) hwritten ?_ ?_
  · rwa [hsilent i, List.append_nil]
  · refine h.handling.congr fun p _ => ?_
    simp only [ThreadSystem.asked, conversation_append, hsilent, List.append_nil]

theorem add {thread : ClientThread} (h : ReplyInv s trace) (hpoint : thread.point = .starting)
    (hreceived : thread.received = []) (hnew : conversation s.threads.length trace = []) :
    ReplyInv (s.add thread) trace := by
  refine ⟨?_, h.handling, h.written⟩
  intro i x hi
  rcases getElem?_add.mp hi with hi | ⟨rfl, rfl⟩
  · exact h.converses i x hi
  · rw [hnew]
    exact .settled [] (by rw [hpoint]; rfl) hreceived (List.forall_mem_nil _)

theorem post {i : Nat} {parent : Option Nat} (h : ReplyInv s trace) : ReplyInv (s.post i parent) trace := by
  unfold ThreadSystem.post
  cases parent with
  | none => exact h
  | some p =>
      cases hp : s.threads[p]? with
      | none => simpa only [hp] using h
      | some waiter =>
          simp only [hp]
          split
          · rename_i hwaiting
            have hput : ReplyInv (s.put p { waiter with point := .waiting i true }) (trace ++ []) := by
              refine h.silentPut hp (fun _ => rfl) (fun _ => rfl) ?_
              exact (h.converses p waiter hp).idle (by rw [hwaiting]; rfl) rfl rfl
            rwa [List.append_nil] at hput
          · exact h

/-- A thread that exchanges nothing goes from one point to another. -/
theorem idlePut {i : Nat} {old new : ClientThread} (h : ReplyInv s trace)
    (hold : s.threads[i]? = some old) (hidle : old.point.exchanging = false)
    (hreceived : new.received = old.received) (hpoint : new.point.exchanging = false) :
    ReplyInv (s.put i new) trace := by
  have hput : ReplyInv (s.put i new) (trace ++ []) :=
    h.silentPut hold (fun _ => rfl) (fun _ => rfl) ((h.converses i old hold).idle hidle hreceived hpoint)
  rwa [List.append_nil] at hput

/-- The acknowledgment of a thread that goes on. -/
theorem returns {i : Nat} {thread : ClientThread} {call : ThreadCall} {ack : DecisionAck}
    {rest : List DecisionAck} (h : ReplyInv s trace) (hlog : ThreadLog s trace)
    (hi : s.threads[i]? = some thread) (hpoint : thread.point = .asking call)
    (hreceived : thread.received = ack :: rest) :
    ReplyInv (s.returns i { thread with received := rest } ack call).1
      (trace ++ (s.returns i { thread with received := rest } ack call).2) := by
  have hput : ∀ (point : ThreadPoint) (out : List ThreadOutput), point.exchanging = false →
      (∀ j, conversation j out = []) → (∀ p, writtenTo p out = []) →
      ReplyInv (s.put i { thread with received := rest, point := point }) (trace ++ out) := by
    intro point out hidle hsilent hwritten
    refine h.silentPut hi hsilent hwritten ?_
    exact (h.converses i thread hi).returned hpoint hreceived rfl hidle
  have hnext : ∀ (point : ThreadPoint) (out : List ThreadOutput), (∀ j, conversation j out = []) →
      conversation (s.put i { thread with received := rest, point := point }).threads.length
        (trace ++ out) = [] := by
    intro point out hsilent
    rw [conversation_append, hsilent, List.append_nil]
    exact hlog.unknown _ (List.getElem?_eq_none (le_of_eq List.length_set.symm))
  cases call with
  | function type => exact hput .running [] rfl (fun _ => rfl) fun _ => rfl
  | firstYield => exact hput .running [.starts i] rfl (fun _ => rfl) fun _ => rfl
  | disconnect => exact hput .ended [] rfl (fun _ => rfl) fun _ => rfl
  | create actor =>
      simp only [ThreadSystem.returns]
      split
      · exact (hput (.waiting s.threads.length false) [.created i s.threads.length] rfl (fun _ => rfl)
          fun _ => rfl).add rfl rfl (hnext _ _ fun _ => rfl)
      · exact hput .running [] rfl (fun _ => rfl) fun _ => rfl
  | fork actor =>
      simp only [ThreadSystem.returns]
      split
      · exact (hput .running [] rfl (fun _ => rfl) fun _ => rfl).add rfl rfl (hnext _ _ fun _ => rfl)
      · exact hput .running [] rfl (fun _ => rfl) fun _ => rfl

theorem send {i : Nat} {thread : ClientThread} {call : ThreadCall} (h : ReplyInv s trace)
    (hinv : ThreadInv s) (hi : s.threads[i]? = some thread) (hmay : thread.mayCall call = true)
    (connection : Connection) (elapsed : ℚ) :
    ReplyInv (s.put i { thread with point := .sent call (call.decision connection elapsed) })
      (trace ++ [.sent i (call.decision connection elapsed)]) := by
  have hidle := exchanging_of_mayCall hmay
  have hother : ∀ j, j ≠ i → conversation j [.sent i (call.decision connection elapsed)] = [] := by
    intro j hne
    rw [conversation_sent, if_neg (Ne.symm hne)]
  refine h.put hi hother ?_ (fun _ => rfl) ?_ ?_
  · rw [conversation_sent, if_pos rfl]
    rfl
  · rw [conversation_sent, if_pos rfl]
    exact (h.converses i thread hi).send hidle connection elapsed call
  · refine h.handling.congr fun p hworks => ?_
    obtain ⟨j, asker, hp, hj, ⟨call', hasking⟩, -⟩ := hinv.working p hworks
    have hne : j ≠ i := by
      rintro rfl
      rw [hi, Option.some.injEq] at hj
      rw [hj, hasking] at hidle
      cases hidle
    simp only [ThreadSystem.asked, hp, Option.bind_some, conversation_append, hother j hne, List.append_nil]

/-- The server makes a step, after which it may acknowledge the decision of a thread. -/
theorem moved {event : ServerEvent K} {server : Server K} {sent : List ServerOutput} (h : ReplyInv s trace)
    (hinv : ThreadInv s) (hstep : ServerStep platformFile s.server event server sent)
    (hdecision : ∀ d p, event = .simulation (.decision d) → s.server.simulation.Reads p →
      ∃ i thread, s.clients p = some i ∧ s.threads[i]? = some thread ∧ thread.Asks)
    (hdecided : ∀ p d, s.server.simulation.current = some p → event = .simulation (.decision d) →
      s.asked trace p = some d) :
    ReplyInv (s.serverMoves server sent).1 (trace ++ (s.serverMoves server sent).2) := by
  have hhandling : AllInHandler (s.asked trace) server.simulation := hstep.inHandler h.handling hdecided
  rcases hinv.moves hstep hdecision with ⟨hnone, heq⟩ | ⟨i, thread, ack, hi, hasks, hclient, hreads, hone, heq⟩
  · rw [heq]
    have hsame : ∀ j, conversation j (trace ++ sent.map .server) = conversation j trace := by
      intro j
      rw [conversation_append, conversation_server, List.append_nil]
    refine ⟨?_, ?_, ?_⟩
    · intro j x hj
      rw [hsame]
      exact h.converses j x hj
    · refine hhandling.congr fun p _ => ?_
      simp only [ThreadSystem.asked, hsame]
    · intro p
      rw [writtenTo_append, writtenTo_server, hnone, List.filterMap_nil, List.append_nil, h.written p]
      simp only [hsame]
  · rw [heq]
    have hconversation : ∀ j, conversation j (trace ++ (sent.map .server ++ [.acked i ack])) =
        conversation j trace ++ if i = j then [.answered ack] else [] := by
      intro j
      rw [conversation_append, conversation_append, conversation_server, List.nil_append,
        conversation_acked]
    -- the actor of another thread
    have hother : ∀ {p : Pid} {j : Nat}, p ≠ thread.actorId → s.clients p = some j → i ≠ j := by
      rintro p j hp hj rfl
      obtain ⟨thread', hi', hid, -⟩ := hinv.client p i hj
      rw [hi, Option.some.injEq] at hi'
      exact hp (by rw [hi', hid])
    refine ⟨?_, ?_, ?_⟩
    · intro j x hj
      rw [hconversation]
      rw [getElem?_put (s := { s with server := server }) hi] at hj
      split at hj
      · rename_i hji
        subst hji
        have hmem : (thread.actorId, ack) ∈ decisionAcks sent := by
          rw [hone]
          exact List.mem_singleton.mpr rfl
        obtain ⟨d, hd, hanswers⟩ := hstep.fits h.handling hdecided hmem
        rw [ThreadSystem.asked, hclient, Option.bind_some] at hd
        rw [if_pos rfl, ← Option.some.inj hj]
        exact (h.converses j thread hi).acked hasks hd hanswers
      · rename_i hji
        rw [if_neg (Ne.symm hji), List.append_nil]
        exact h.converses j x hj
    · refine hhandling.congr fun p hworks => ?_
      have hp : p ≠ thread.actorId := by
        rintro rfl
        exact hreads.reads.not_works hworks
      show (s.clients p).bind _ = (s.clients p).bind _
      cases hj : s.clients p with
      | none => rfl
      | some j =>
          rw [Option.bind_some, Option.bind_some, hconversation, if_neg (hother hp hj), List.append_nil]
    · intro p
      rw [writtenTo_append, writtenTo_append, writtenTo_server, hone, h.written p]
      show _ = (s.clients p).elim [] fun j => _
      by_cases hp : p = thread.actorId
      · subst hp
        simp only [hclient, Option.elim_some, hconversation, if_true, answers_append]
        simp [writtenTo, answers]
      · cases hj : s.clients p with
        | none => simp [writtenTo, Ne.symm hp]
        | some j =>
            simp only [Option.elim_some, hconversation, if_neg (hother hp hj), List.append_nil]
            simp [writtenTo, Ne.symm hp]

/-- The `CONNECT` of a thread has been accepted. -/
theorem accept {i : Nat} {p : Pid} (h : ReplyInv s trace) (hfirst : s.clients p = none)
    (hsilent : conversation i trace = []) :
    ReplyInv { s with clients := Function.update s.clients p (some i) } trace := by
  refine ⟨h.converses, ?_, ?_⟩
  · refine h.handling.congr fun q _ => ?_
    by_cases hq : q = p
    · subst hq
      simp only [ThreadSystem.asked, Function.update_self, hfirst, Option.bind_some, Option.bind_none, hsilent]
      rfl
    · simp only [ThreadSystem.asked, Function.update_of_ne hq]
  · intro q
    rw [h.written q]
    by_cases hq : q = p
    · subst hq
      simp only [Function.update_self, hfirst, Option.elim_some, Option.elim_none, hsilent]
      rfl
    · simp only [Function.update_of_ne hq]

/-- The command thread handles the `CONNECT` of a thread. -/
theorem connect {i : Nat} {thread : ClientThread} {socket socket' : Socket} {server : Server K}
    {sent : List ServerOutput} {ack : CommandAck} (h : ReplyInv s trace) (hinv : ThreadInv s)
    (hlog : ThreadLog s trace) (hi : s.threads[i]? = some thread) (hpoint : thread.point = .connecting)
    (hstep : serverStep K platformFile s.server
      (.serve (.command socket (.connect { id := thread.actorId }))) = some (server, sent))
    (hanswer : commandAnswer sent = some (socket', ack)) :
    ReplyInv { server := server
               threads := s.threads.set i { thread with point := .accepted socket' ack }
               clients := if ack.success then
                 Function.update s.clients thread.actorId (some i) else s.clients }
      (trace ++ sent.map .server) := by
  have hcases := serverStep_cases hstep
  have hnone : decisionAcks sent = [] := by
    cases hcases with
    | served event serve out => exact decisionAcks_serve out
  have hserver : ReplyInv ({ s with server := server } : ThreadSystem K) (trace ++ sent.map .server) := by
    have hmoved := h.moved hinv hcases (fun _ _ hd => by cases hd) (fun _ _ _ hd => by cases hd)
    simpa only [ThreadSystem.serverMoves, hnone, ThreadSystem.deliver, List.append_nil] using hmoved
  have hput : ReplyInv (({ s with server := server } : ThreadSystem K).put i
      { thread with point := .accepted socket' ack }) (trace ++ sent.map .server) :=
    hserver.idlePut hi (by rw [hpoint]; rfl) rfl rfl
  cases hsuccess : ack.success with
  | false => exact hput
  | true =>
      refine hput.accept (hinv.unclaimed hstep hanswer hsuccess).1 ?_
      rw [conversation_append, conversation_server, hlog.connecting hi hpoint, List.append_nil]

theorem step {t : ThreadSystem K} {event : ThreadEvent K} (h : ReplyInv s trace) (hinv : ThreadInv s)
    (hlog : ThreadLog s trace) (hstep : ThreadStep platformFile s event t out) :
    ReplyInv t (trace ++ out) := by
  cases hstep with
  | launched environment opening =>
      rw [List.append_nil]
      exact h.add rfl rfl (hlog.unknown _ (List.getElem?_eq_none le_rfl))
  | connecting i thread actorId hi hpoint =>
      rw [List.append_nil]
      exact h.idlePut hi (by rw [hpoint]; rfl) rfl rfl
  | abandoned _ i thread hi hpoint =>
      rw [List.append_nil]
      have hput : ReplyInv (s.put i { thread with point := .ended }) trace := by
        refine h.idlePut hi (exchanging_of_begins ?_) rfl rfl
        rcases hpoint with hpoint | hpoint | ⟨socket, ack, hpoint⟩ <;> rw [ClientThread.begins, hpoint]
      exact hput.post
  | connected i thread socket ack connection hi hpoint =>
      rw [List.append_nil]
      exact h.idlePut hi (by rw [hpoint]; rfl) rfl rfl
  | posted i thread hi hpoint =>
      rw [List.append_nil]
      have hput : ReplyInv (s.put i { thread with point := .posted }) trace :=
        h.idlePut hi (by rw [hpoint]; rfl) rfl rfl
      exact hput.post
  | returned i thread call ack rest hi hpoint hreceived => exact h.returns hlog hi hpoint hreceived
  | resumed i thread child hi hpoint =>
      rw [List.append_nil]
      exact h.idlePut hi (by rw [hpoint]; rfl) rfl rfl
  | sent i thread call connection elapsed hi hmay => exact h.send hinv hi hmay connection elapsed
  | accepted i thread socket socket' server sent ack hi hpoint hserver hanswer =>
      exact h.connect hinv hlog hi hpoint hserver hanswer
  | read p i thread call decision server sent hcurrent hp hi hpoint hserver =>
      obtain ⟨hpending, hempty, hconverses⟩ := (h.converses i thread hi).read hpoint
      have hput : ReplyInv (s.put i { thread with point := .asking call }) trace := by
        have hsilent : ReplyInv (s.put i { thread with point := .asking call }) (trace ++ []) :=
          h.silentPut hi (fun _ => rfl) (fun _ => rfl) hconverses
        rwa [List.append_nil] at hsilent
      have hinv' := (hinv.read hcurrent hp hi hpoint (serverStep_cases hserver)).1
      refine hput.moved hinv' (serverStep_cases hserver) ?_ ?_
      · intro _ q _ hreads
        have hq : q = p := Option.some.inj (hreads.current.symm.trans hcurrent)
        subst hq
        exact ⟨i, _, hp, (getElem?_put hi).trans (if_pos rfl), ⟨call, rfl⟩, hempty⟩
      · intro q d hcurrent' hd
        have hq : q = p := Option.some.inj (hcurrent'.symm.trans hcurrent)
        subst hq
        cases hd
        show (s.clients q).bind _ = _
        rw [hp, Option.bind_some, hpending]
  | server event server sent halone hserver =>
      refine h.moved hinv (serverStep_cases hserver) ?_ ?_
      · rintro d p rfl -
        cases halone
      · rintro p d - rfl
        cases halone

end ReplyInv

/-- As long as no connection fails, every thread sends a decision once those before it are acknowledged,
every acknowledgment that it is sent answers the decision of its present call, and the acknowledgments
that the server writes to an actor are those that the thread connected as this actor is sent, in order. -/
theorem acknowledgments_reach_their_threads {events : List (ThreadEvent K)} {trace : List ThreadOutput}
    (hrun : Run (threadStep K platformFile) {} events s trace)
    (hread : Throughout (threadStep K platformFile) NoReadError {} events) :
    (∀ (i : Nat) thread, s.threads[i]? = some thread → thread.Converses (conversation i trace)) ∧
      ∀ p, writtenTo p trace = (s.clients p).elim [] fun i => answers (conversation i trace) := by
  have hinv : ThreadInv s ∧ ThreadLog s trace ∧ ReplyInv s trace := by
    refine hrun.guarded_invariant (P := fun _ s trace => ThreadInv s ∧ ThreadLog s trace ∧ ReplyInv s trace)
      hread ⟨ThreadInv.init, ThreadLog.init, ReplyInv.init⟩ ?_
    intro _ _ _ _ _ _ _ hinv hevent hstep
    have hcases := threadStep_cases hstep
    exact ⟨hinv.1.step hevent hcases, hinv.2.1.step hinv.1 hcases, hinv.2.2.step hinv.1 hinv.2.1 hcases⟩
  exact ⟨hinv.2.2.converses, hinv.2.2.written⟩

end

/-- Two threads of one process, the second of which has been sent one acknowledgment. -/
theorem acknowledgments_reach_their_threads_created : ∃ s trace,
    Run (threadStep permissiveS4u "platform.xml") {} createdThreadEvents s trace ∧
      (writtenTo 7 trace).length = 1 ∧ writtenTo 7 trace = answers (conversation 1 trace) := by
  have hexec : (exec (threadStep permissiveS4u "platform.xml") {} createdThreadEvents).any
      (fun reached => (reached.1.clients 7 = some 1 : Bool) && (writtenTo 7 reached.2).length == 1) =
        true := by
    decide +kernel
  obtain ⟨s, trace, hrun, hcheck⟩ := Run.of_check hexec
  rw [Bool.and_eq_true, decide_eq_true_eq, beq_iff_eq] at hcheck
  have hread : Throughout (threadStep permissiveS4u "platform.xml") NoReadError {} createdThreadEvents :=
    Throughout.of_check (by decide +kernel)
  have hwritten := (acknowledgments_reach_their_threads hrun hread).2 7
  rw [hcheck.1] at hwritten
  exact ⟨s, trace, hrun, hcheck.2, hwritten⟩

end RemoteSimgrid
