import RemoteSimgrid.ClientSemaphores

/-! The server under its clients: a run of the threads with the server is a run of the server, in which
every actor reads the decisions that its thread has sent, each of them once and in order. -/

namespace RemoteSimgrid

open Machine Pb

section

variable {K : S4u} {platformFile : String}

/-- The decision that actor `p` reads in a step. -/
def readIn (s : Server K) (p : Pid) : ServerEvent K → List Decision
  | .simulation (.decision decision) => if s.simulation.current = some p then [decision] else []
  | _ => []

/-- The decisions that actor `p` reads in a run. -/
def decisionsRead (platformFile : String) (p : Pid) : Server K → List (ServerEvent K) → List Decision
  | _, [] => []
  | s, event :: events =>
      match serverStep K platformFile s event with
      | none => []
      | some (t, _) => readIn s p event ++ decisionsRead platformFile p t events

/-- What the server has done. -/
def serverTrace (trace : List ThreadOutput) : List ServerOutput :=
  trace.filterMap fun
    | .server out => some out
    | _ => none

/-- The decisions among exchanges. -/
def questions (exchanges : List Exchange) : List Decision :=
  exchanges.filterMap fun
    | .asked decision => some decision
    | _ => none

/-- The decision that is on its way to the server. -/
def ClientThread.unread (thread : ClientThread) : List Decision :=
  match thread.point with
  | .sent _ decision => [decision]
  | _ => []

theorem decisionsRead_cons {s t : Server K} {event : ServerEvent K} {out : List ServerOutput}
    (hstep : serverStep K platformFile s event = some (t, out)) (p : Pid) (events : List (ServerEvent K)) :
    decisionsRead platformFile p s (event :: events) =
      readIn s p event ++ decisionsRead platformFile p t events := by
  rw [decisionsRead, hstep]

theorem decisionsRead_append {s t : Server K} {before : List (ServerEvent K)} {trace : List ServerOutput}
    (hrun : Run (serverStep K platformFile) s before t trace) (p : Pid) (after : List (ServerEvent K)) :
    decisionsRead platformFile p s (before ++ after) =
      decisionsRead platformFile p s before ++ decisionsRead platformFile p t after := by
  induction hrun generalizing after with
  | nil => rfl
  | @snoc before t trace event u out _ hlast ih =>
      calc decisionsRead platformFile p s (before ++ [event] ++ after)
          = decisionsRead platformFile p s before ++ decisionsRead platformFile p t (event :: after) := by
            rw [List.append_assoc, ih]
            rfl
        _ = decisionsRead platformFile p s before ++
              (decisionsRead platformFile p t [event] ++ decisionsRead platformFile p u after) := by
            rw [decisionsRead_cons hlast, decisionsRead_cons hlast, decisionsRead, List.append_nil]
        _ = decisionsRead platformFile p s (before ++ [event]) ++ decisionsRead platformFile p u after := by
            rw [ih, List.append_assoc]

theorem decisionsRead_snoc {s t u : Server K} {events : List (ServerEvent K)} {event : ServerEvent K}
    {trace out : List ServerOutput} (hrun : Run (serverStep K platformFile) s events t trace)
    (hstep : serverStep K platformFile t event = some (u, out)) (p : Pid) :
    decisionsRead platformFile p s (events ++ [event]) =
      decisionsRead platformFile p s events ++ readIn t p event := by
  rw [decisionsRead_append hrun, decisionsRead_cons hstep]
  exact congrArg _ (List.append_nil _)

theorem questions_append (first second : List Exchange) :
    questions (first ++ second) = questions first ++ questions second :=
  List.filterMap_append

theorem serverTrace_append (trace out : List ThreadOutput) :
    serverTrace (trace ++ out) = serverTrace trace ++ serverTrace out :=
  List.filterMap_append

theorem serverTrace_server (sent : List ServerOutput) : serverTrace (sent.map .server) = sent := by
  rw [serverTrace, List.filterMap_map]
  exact List.filterMap_some

theorem unread_of_begins {thread : ClientThread} (h : thread.begins = true) : thread.unread = [] := by
  revert h
  cases hpoint : thread.point <;> simp [ClientThread.begins, ClientThread.unread, hpoint]

theorem unread_of_mayCall {thread : ClientThread} {call : ThreadCall} (h : thread.mayCall call = true) :
    thread.unread = [] := by
  rcases mayCall_cases h with ⟨hpoint, -⟩ | ⟨hpoint, -⟩ | ⟨hpoint, -⟩ <;>
    rw [ClientThread.unread, hpoint]

variable {s t : ThreadSystem K} {trace out : List ThreadOutput} {events : List (ServerEvent K)}

/-- The run of the server, and what its actors have read. -/
structure FeedInv (platformFile : String) (s : ThreadSystem K) (trace : List ThreadOutput)
    (events : List (ServerEvent K)) : Prop where
  run : Run (serverStep K platformFile) {} events s.server (serverTrace trace)
  silent : ∀ p, s.clients p = none → decisionsRead platformFile p {} events = []
  fed : ∀ p i thread, s.clients p = some i → s.threads[i]? = some thread →
    questions (conversation i trace) = decisionsRead platformFile p {} events ++ thread.unread

namespace FeedInv

theorem init : FeedInv platformFile ({} : ThreadSystem K) [] [] where
  run := .nil
  silent _ _ := rfl
  fed _ _ _ h := by cases h

/-- A thread moves without the server, and no other is seen. -/
theorem put {i : Nat} {old new : ClientThread} (h : FeedInv platformFile s trace events)
    (hold : s.threads[i]? = some old) (hserver : serverTrace out = [])
    (hother : ∀ j, j ≠ i → conversation j out = [])
    (hnew : old.unread ++ questions (conversation i out) = new.unread) :
    FeedInv platformFile (s.put i new) (trace ++ out) events := by
  refine ⟨?_, h.silent, ?_⟩
  · rw [serverTrace_append, hserver, List.append_nil]
    exact h.run
  · intro p j thread hp hj
    rw [getElem?_put hold] at hj
    rw [conversation_append, questions_append]
    split at hj
    · rename_i heq
      subst heq
      rw [h.fed p j old hp hold, List.append_assoc, hnew, Option.some.inj hj]
    · rename_i hne
      rw [hother j hne, h.fed p j thread hp hj]
      exact List.append_nil _

/-- A thread that has nothing on its way goes from one point to another. -/
theorem idlePut {i : Nat} {old new : ClientThread} (h : FeedInv platformFile s trace events)
    (hold : s.threads[i]? = some old) (hserver : serverTrace out = [])
    (hsilent : ∀ j, conversation j out = []) (hbefore : old.unread = []) (hafter : new.unread = []) :
    FeedInv platformFile (s.put i new) (trace ++ out) events := by
  refine h.put hold hserver (fun j _ => hsilent j) ?_
  rw [hsilent, hbefore, hafter]
  rfl

theorem add {thread : ClientThread} (h : FeedInv platformFile s trace events)
    (hclient : ∀ p i, s.clients p = some i → ∃ x, s.threads[i]? = some x) :
    FeedInv platformFile (s.add thread) trace events := by
  refine ⟨h.run, h.silent, ?_⟩
  intro p i x hp hi
  obtain ⟨y, hy⟩ := hclient p i hp
  rw [getElem?_add.mpr (Or.inl hy), Option.some.injEq] at hi
  subst hi
  exact h.fed p i y hp hy

theorem post {i : Nat} {parent : Option Nat} (h : FeedInv platformFile s trace events) :
    FeedInv platformFile (s.post i parent) trace events := by
  unfold ThreadSystem.post
  cases parent with
  | none => exact h
  | some p =>
      cases hp : s.threads[p]? with
      | none => simpa only [hp] using h
      | some waiter =>
          simp only [hp]
          split
          · rename_i hwaiting
            have hput : FeedInv platformFile (s.put p { waiter with point := .waiting i true })
                (trace ++ []) events :=
              h.idlePut hp rfl (fun _ => rfl) (by rw [ClientThread.unread, hwaiting]) rfl
            rwa [List.append_nil] at hput
          · exact h

theorem returns {i : Nat} {thread : ClientThread} {call : ThreadCall} {ack : DecisionAck}
    {rest : List DecisionAck} (h : FeedInv platformFile s trace events) (hinv : ThreadInv s)
    (hi : s.threads[i]? = some thread) (hpoint : thread.point = .asking call) :
    FeedInv platformFile (s.returns i { thread with received := rest } ack call).1
      (trace ++ (s.returns i { thread with received := rest } ack call).2) events := by
  have hunread : thread.unread = [] := by rw [ClientThread.unread, hpoint]
  have hput : ∀ (point : ThreadPoint) (out : List ThreadOutput), serverTrace out = [] →
      (∀ j, conversation j out = []) → ClientThread.unread { thread with point := point } = [] →
      FeedInv platformFile (s.put i { thread with received := rest, point := point }) (trace ++ out)
        events :=
    fun point out hserver hsilent hafter => h.idlePut hi hserver hsilent hunread hafter
  have hclient : ∀ (point : ThreadPoint) p j,
      (s.put i { thread with received := rest, point := point }).clients p = some j →
      ∃ x, (s.put i { thread with received := rest, point := point }).threads[j]? = some x := by
    intro point p j hp
    obtain ⟨x, hx, -⟩ := hinv.client p j hp
    rw [getElem?_put hi]
    split
    · exact ⟨_, rfl⟩
    · exact ⟨x, hx⟩
  cases call with
  | function type => exact hput .running [] rfl (fun _ => rfl) rfl
  | firstYield => exact hput .running [.starts i] rfl (fun _ => rfl) rfl
  | disconnect => exact hput .ended [] rfl (fun _ => rfl) rfl
  | create actor =>
      simp only [ThreadSystem.returns]
      split
      · exact (hput (.waiting s.threads.length false) [.created i s.threads.length] rfl (fun _ => rfl)
          rfl).add (hclient _)
      · exact hput .running [] rfl (fun _ => rfl) rfl
  | fork actor =>
      simp only [ThreadSystem.returns]
      split
      · exact (hput .running [] rfl (fun _ => rfl) rfl).add (hclient _)
      · exact hput .running [] rfl (fun _ => rfl) rfl

/-- The rule for a step of the server. -/
theorem server {event : ServerEvent K} {server : Server K} {sent : List ServerOutput}
    (h : FeedInv platformFile s trace events)
    (hstep : serverStep K platformFile s.server event = some (server, sent)) (hserver : t.server = server)
    (hout : serverTrace out = sent)
    (hsilent : ∀ p, t.clients p = none → s.clients p = none ∧ readIn s.server p event = [])
    (hfed : ∀ p i thread, t.clients p = some i → t.threads[i]? = some thread →
      ∃ unread, questions (conversation i trace) = decisionsRead platformFile p {} events ++ unread ∧
        unread ++ questions (conversation i out) = readIn s.server p event ++ thread.unread) :
    FeedInv platformFile t (trace ++ out) (events ++ [event]) := by
  refine ⟨?_, ?_, ?_⟩
  · rw [serverTrace_append, hout, hserver]
    exact h.run.snoc hstep
  · intro p hp
    obtain ⟨hnone, hread⟩ := hsilent p hp
    rw [decisionsRead_snoc h.run hstep, h.silent p hnone, hread]
    rfl
  · intro p i thread hp hi
    obtain ⟨unread, hbefore, hafter⟩ := hfed p i thread hp hi
    calc questions (conversation i (trace ++ out))
        = decisionsRead platformFile p {} events ++ (unread ++ questions (conversation i out)) := by
          rw [conversation_append, questions_append, hbefore, List.append_assoc]
      _ = decisionsRead platformFile p {} events ++ (readIn s.server p event ++ thread.unread) := by
          rw [hafter]
      _ = decisionsRead platformFile p {} (events ++ [event]) ++ thread.unread := by
          rw [decisionsRead_snoc h.run hstep, List.append_assoc]

end FeedInv

/-- What the threads see of a step of the server is no decision. -/
theorem ServerMoved.unread {server : Server K} {sent : List ServerOutput}
    (h : ServerMoved s server sent t out) : t.clients = s.clients ∧ t.server = server ∧
      serverTrace out = sent ∧ ∀ (j : Nat) thread, t.threads[j]? = some thread →
        questions (conversation j out) = [] ∧
          ∃ before, s.threads[j]? = some before ∧ thread.unread = before.unread := by
  cases h with
  | quiet =>
      refine ⟨rfl, rfl, serverTrace_server sent, fun j thread hj => ⟨?_, thread, hj, rfl⟩⟩
      rw [conversation_server]
      rfl
  | acked i old ack hi =>
      refine ⟨rfl, rfl, ?_, fun j thread hj => ⟨?_, ?_⟩⟩
      · rw [serverTrace_append, serverTrace_server]
        exact List.append_nil sent
      · rw [conversation_append, conversation_server, conversation_acked]
        split <;> rfl
      · rw [getElem?_put (s := { s with server := server }) hi] at hj
        split at hj
        · rename_i hji
          subst hji
          exact ⟨old, hi, by rw [← Option.some.inj hj]; rfl⟩
        · exact ⟨thread, hj, rfl⟩

namespace FeedInv

/-- The server makes a step of its own. -/
theorem alone {event : ServerEvent K} {server : Server K} {sent : List ServerOutput}
    (h : FeedInv platformFile s trace events)
    (hstep : serverStep K platformFile s.server event = some (server, sent)) (halone : event.alone = true)
    (hmoved : ServerMoved s server sent t out) :
    FeedInv platformFile t (trace ++ out) (events ++ [event]) := by
  obtain ⟨hclients, hserver, hout, hthreads⟩ := hmoved.unread
  have hnone : ∀ p, readIn s.server p event = [] := by
    intro p
    unfold readIn
    split
    · cases halone
    · rfl
  refine h.server hstep hserver hout (fun p hp => ⟨hclients ▸ hp, hnone p⟩) ?_
  intro p i thread hp hi
  rw [hclients] at hp
  obtain ⟨hquestions, before, hbefore, hunread⟩ := hthreads i thread hi
  refine ⟨before.unread, h.fed p i before hp hbefore, ?_⟩
  rw [hquestions, hnone, List.append_nil, hunread, List.nil_append]

/-- The running actor reads the decision of its thread. -/
theorem read {p : Pid} {i : Nat} {thread : ClientThread} {call : ThreadCall} {decision : Decision}
    {server : Server K} {sent : List ServerOutput} (h : FeedInv platformFile s trace events)
    (hinv : ThreadInv s) (hcurrent : s.server.simulation.current = some p) (hp : s.clients p = some i)
    (hi : s.threads[i]? = some thread) (hpoint : thread.point = .sent call decision)
    (hstep : serverStep K platformFile s.server (.simulation (.decision decision)) = some (server, sent))
    (hmoved : ServerMoved (s.put i { thread with point := .asking call }) server sent t out) :
    FeedInv platformFile t (trace ++ out) (events ++ [.simulation (.decision decision)]) := by
  obtain ⟨hclients, hserver, hout, hthreads⟩ := hmoved.unread
  replace hclients : t.clients = s.clients := hclients
  have hread : ∀ q, q ≠ p → readIn s.server q (.simulation (.decision decision)) = [] := by
    intro q hq
    rw [readIn, hcurrent, if_neg]
    rintro heq
    exact hq (Option.some.inj heq).symm
  refine h.server hstep hserver hout (fun q hq => ?_) ?_
  · rw [hclients] at hq
    refine ⟨hq, hread q ?_⟩
    rintro rfl
    rw [hp] at hq
    cases hq
  · intro q j x hq hj
    rw [hclients] at hq
    obtain ⟨hquestions, before, hbefore, hunread⟩ := hthreads j x hj
    rw [getElem?_put hi] at hbefore
    split at hbefore
    · rename_i hji
      subst hji
      -- a thread is connected as one actor
      have hqp : q = p := by
        obtain ⟨first, hfirst, hid, -⟩ := hinv.client q j hq
        obtain ⟨second, hsecond, hid', -⟩ := hinv.client p j hp
        rw [hfirst, Option.some.injEq] at hsecond
        rw [← hid, ← hid', hsecond]
      subst hqp
      refine ⟨thread.unread, h.fed q j thread hq hi, ?_⟩
      rw [hquestions, hunread, ← Option.some.inj hbefore, readIn, if_pos hcurrent, ClientThread.unread,
        hpoint]
      rfl
    · rename_i hji
      have hqp : q ≠ p := by
        rintro rfl
        rw [hp, Option.some.injEq] at hq
        exact hji hq.symm
      refine ⟨before.unread, h.fed q j before hq hbefore, ?_⟩
      rw [hquestions, hread q hqp, List.append_nil, hunread, List.nil_append]

/-- The command thread handles the `CONNECT` of a thread. -/
theorem connect {i : Nat} {thread : ClientThread} {socket socket' : Socket} {server : Server K}
    {sent : List ServerOutput} {ack : CommandAck} (h : FeedInv platformFile s trace events)
    (hinv : ThreadInv s) (hlog : ThreadLog s trace) (hi : s.threads[i]? = some thread)
    (hpoint : thread.point = .connecting)
    (hstep : serverStep K platformFile s.server
      (.serve (.command socket (.connect { id := thread.actorId }))) = some (server, sent))
    (hanswer : commandAnswer sent = some (socket', ack)) :
    FeedInv platformFile
      { server := server
        threads := s.threads.set i { thread with point := .accepted socket' ack }
        clients := if ack.success then
          Function.update s.clients thread.actorId (some i) else s.clients }
      (trace ++ sent.map .server)
      (events ++ [.serve (.command socket (.connect { id := thread.actorId }))]) := by
  have hunread : thread.unread = [] := unread_of_begins (by rw [ClientThread.begins, hpoint])
  have hquestions : ∀ j, questions (conversation j (sent.map ThreadOutput.server)) = [] := by
    intro j
    rw [conversation_server]
    rfl
  -- a thread that was connected before
  have hkept : ∀ p j x, s.clients p = some j →
      (s.put i { thread with point := .accepted socket' ack }).threads[j]? = some x →
      ∃ unread, questions (conversation j trace) = decisionsRead platformFile p {} events ++ unread ∧
        unread ++ questions (conversation j (sent.map ThreadOutput.server)) =
          readIn s.server p (.serve (.command socket (.connect { id := thread.actorId }))) ++ x.unread := by
    intro p j x hp hj
    rw [hquestions]
    rw [getElem?_put hi] at hj
    split at hj
    · rename_i hji
      subst hji
      refine ⟨thread.unread, h.fed p j thread hp hi, ?_⟩
      rw [hunread, ← Option.some.inj hj]
      rfl
    · exact ⟨x.unread, h.fed p j x hp hj, List.append_nil _⟩
  refine h.server hstep rfl (serverTrace_server sent) ?_ ?_
  · intro p hp
    refine ⟨?_, rfl⟩
    cases hsuccess : ack.success with
    | false => simpa only [hsuccess, Bool.false_eq_true, if_false] using hp
    | true =>
        simp only [hsuccess, if_true] at hp
        by_cases heq : p = thread.actorId
        · rw [heq, Function.update_self] at hp
          cases hp
        · rwa [Function.update_of_ne heq] at hp
  · intro p j x hp hj
    cases hsuccess : ack.success with
    | false =>
        simp only [hsuccess, Bool.false_eq_true, if_false] at hp
        exact hkept p j x hp hj
    | true =>
        simp only [hsuccess, if_true] at hp
        by_cases heq : p = thread.actorId
        · subst heq
          rw [Function.update_self, Option.some.injEq] at hp
          subst hp
          have hfree := (hinv.unclaimed hstep hanswer hsuccess).1
          have hsilent := hlog.connecting hi hpoint
          have hx : some { thread with point := .accepted socket' ack } = some x :=
            (getElem?_put_self hi).symm.trans hj
          refine ⟨[], by rw [hsilent, h.silent _ hfree]; rfl, ?_⟩
          rw [hquestions, ← Option.some.inj hx]
          rfl
        · rw [Function.update_of_ne heq] at hp
          exact hkept p j x hp hj

theorem step {event : ThreadEvent K} (h : FeedInv platformFile s trace events) (hinv : ThreadInv s)
    (hlog : ThreadLog s trace) (hstep : ThreadStep platformFile s event t out) :
    ∃ events', FeedInv platformFile t (trace ++ out) events' := by
  have hclient : ∀ p j, s.clients p = some j → ∃ x, s.threads[j]? = some x := by
    intro p j hp
    obtain ⟨x, hx, -⟩ := hinv.client p j hp
    exact ⟨x, hx⟩
  cases hstep with
  | launched environment opening =>
      rw [List.append_nil]
      exact ⟨events, h.add hclient⟩
  | connecting i thread actorId hi hpoint =>
      exact ⟨events, h.idlePut hi rfl (fun _ => rfl) (by rw [ClientThread.unread, hpoint]) rfl⟩
  | abandoned _ i thread hi hpoint =>
      have hunread : thread.unread = [] := by
        refine unread_of_begins ?_
        rcases hpoint with hpoint | hpoint | ⟨socket, ack, hpoint⟩ <;> rw [ClientThread.begins, hpoint]
      have hput : FeedInv platformFile (s.put i { thread with point := .ended }) (trace ++ []) events :=
        h.idlePut hi rfl (fun _ => rfl) hunread rfl
      exact ⟨events, hput.post⟩
  | connected i thread socket ack connection hi hpoint =>
      exact ⟨events, h.idlePut hi rfl (fun _ => rfl) (by rw [ClientThread.unread, hpoint]) rfl⟩
  | posted i thread hi hpoint =>
      have hput : FeedInv platformFile (s.put i { thread with point := .posted }) (trace ++ []) events :=
        h.idlePut hi rfl (fun _ => rfl) (by rw [ClientThread.unread, hpoint]) rfl
      exact ⟨events, hput.post⟩
  | returned i thread call ack rest hi hpoint => exact ⟨events, h.returns hinv hi hpoint⟩
  | resumed i thread child hi hpoint =>
      exact ⟨events, h.idlePut hi rfl (fun _ => rfl) (by rw [ClientThread.unread, hpoint]) rfl⟩
  | sent i thread call connection elapsed hi hmay =>
      refine ⟨events, h.put hi rfl (fun j hne => ?_) ?_⟩
      · rw [conversation_sent, if_neg (Ne.symm hne)]
      · rw [conversation_sent, if_pos rfl, unread_of_mayCall hmay]
        rfl
  | accepted i thread socket socket' server sent ack hi hpoint hserver hanswer =>
      exact ⟨_, h.connect hinv hlog hi hpoint hserver hanswer⟩
  | read p i thread call decision server sent hcurrent hp hi hpoint hserver =>
      have hmoved := (hinv.read hcurrent hp hi hpoint (serverStep_cases hserver)).2.1
      exact ⟨_, h.read hinv hcurrent hp hi hpoint hserver hmoved⟩
  | server event server sent halone hserver =>
      refine ⟨_, h.alone hserver halone (hinv.serverMoves_cases (serverStep_cases hserver) ?_)⟩
      rintro d p rfl -
      cases halone

end FeedInv

/-- As long as no connection fails, a run of the threads of the clients with the server is a run of the
server, with the same outputs, in which an actor reads exactly the decisions that the thread connected as
this actor has sent, each once and in order, up to one that is on its way. -/
theorem clients_drive_the_server {events : List (ThreadEvent K)}
    (hrun : Run (threadStep K platformFile) {} events s trace)
    (hread : Throughout (threadStep K platformFile) NoReadError {} events) :
    ∃ serverEvents, Run (serverStep K platformFile) {} serverEvents s.server (serverTrace trace) ∧
      (∀ p, s.clients p = none → decisionsRead platformFile p {} serverEvents = []) ∧
      ∀ p i thread, s.clients p = some i → s.threads[i]? = some thread →
        questions (conversation i trace) =
          decisionsRead platformFile p {} serverEvents ++ thread.unread := by
  have hinv : ThreadInv s ∧ ThreadLog s trace ∧
      ∃ serverEvents, FeedInv platformFile s trace serverEvents := by
    refine hrun.guarded_invariant (P := fun _ s trace => ThreadInv s ∧ ThreadLog s trace ∧
      ∃ serverEvents, FeedInv platformFile s trace serverEvents) hread
      ⟨ThreadInv.init, ThreadLog.init, [], FeedInv.init⟩ ?_
    intro _ _ _ _ _ _ _ hinv hevent hstep
    have hcases := threadStep_cases hstep
    obtain ⟨hthreads, hlog, serverEvents, hfeed⟩ := hinv
    exact ⟨hthreads.step hevent hcases, hlog.step hthreads hcases, hfeed.step hthreads hlog hcases⟩
  obtain ⟨-, -, serverEvents, hfeed⟩ := hinv
  exact ⟨serverEvents, hfeed.run, hfeed.silent, hfeed.fed⟩

end

/-- The actor that was created reads the first yield of its thread. -/
theorem clients_drive_the_server_created : ∃ s trace serverEvents thread,
    Run (threadStep permissiveS4u "platform.xml") {} createdThreadEvents s trace ∧
      Run (serverStep permissiveS4u "platform.xml") {} serverEvents s.server (serverTrace trace) ∧
      s.threads[1]? = some thread ∧ (questions (conversation 1 trace)).length = 1 ∧
      questions (conversation 1 trace) =
        decisionsRead "platform.xml" 7 {} serverEvents ++ thread.unread := by
  have hexec : (exec (threadStep permissiveS4u "platform.xml") {} createdThreadEvents).any
      (fun reached => decide (reached.1.clients 7 = some 1) && reached.1.threads[1]?.isSome &&
        (questions (conversation 1 reached.2)).length == 1) = true := by
    decide +kernel
  obtain ⟨s, trace, hrun, hcheck⟩ := Run.of_check hexec
  rw [Bool.and_eq_true, Bool.and_eq_true, decide_eq_true_eq, beq_iff_eq] at hcheck
  obtain ⟨⟨hclient, hsome⟩, hlength⟩ := hcheck
  obtain ⟨thread, hi⟩ := Option.isSome_iff_exists.mp hsome
  have hread : Throughout (threadStep permissiveS4u "platform.xml") NoReadError {} createdThreadEvents :=
    Throughout.of_check (by decide +kernel)
  obtain ⟨serverEvents, hserver, -, hfed⟩ := clients_drive_the_server hrun hread
  exact ⟨s, trace, serverEvents, thread, hrun, hserver, hi, hlength, hfed 7 1 thread hclient hi⟩

end RemoteSimgrid
