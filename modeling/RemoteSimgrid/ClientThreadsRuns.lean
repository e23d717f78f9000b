import RemoteSimgrid.ClientThreadsInvariant

/-! The runs of the threads of the clients: mutual exclusion within a process, and what comes before the
code of a created actor. -/

namespace RemoteSimgrid

open Machine Pb

section

variable {K : S4u} {platformFile : String} {s : ThreadSystem K}

/-! ### What a thread has sent and received -/

/-- The decisions that a thread has sent and the acknowledgments that it has been sent. -/
def conversation (i : Nat) (trace : List ThreadOutput) : List Exchange :=
  trace.filterMap fun
    | .sent j decision => if j = i then some (.asked decision) else none
    | .acked j ack => if j = i then some (.answered ack) else none
    | _ => none

/-- Thread `i` has sent a decision since it created thread `j`. -/
def SentSince (trace : List ThreadOutput) (i j : Nat) : Prop :=
  ∃ before after decision, trace = before ++ .created i j :: after ∧ .sent i decision ∈ after

/-- What a thread has exchanged up to the first yield of `actor_wrapper`. -/
def ClientThread.FirstYield (thread : ClientThread) (exchanges : List Exchange) : Prop :=
  match thread.point with
  | .starting | .connecting | .accepted _ _ | .connected | .posted => exchanges = []
  | .sent .firstYield decision =>
      decision.type = .thisActorYield true ∧ exchanges = [.asked decision]
  | .asking .firstYield =>
      ∃ decision, decision.type = .thisActorYield true ∧
        exchanges = .asked decision :: thread.received.map .answered
  | _ => True

theorem conversation_append (i : Nat) (trace out : List ThreadOutput) :
    conversation i (trace ++ out) = conversation i trace ++ conversation i out :=
  List.filterMap_append

theorem conversation_server (i : Nat) (out : List ServerOutput) : conversation i (out.map .server) = [] := by
  refine List.filterMap_eq_nil_iff.mpr fun o ho => ?_
  obtain ⟨o', -, rfl⟩ := List.mem_map.mp ho
  rfl

theorem conversation_sent (i j : Nat) (decision : Decision) :
    conversation j [.sent i decision] = if i = j then [.asked decision] else [] := by
  by_cases h : i = j <;> simp [conversation, h]

theorem conversation_acked (i j : Nat) (ack : DecisionAck) :
    conversation j [.acked i ack] = if i = j then [.answered ack] else [] := by
  by_cases h : i = j <;> simp [conversation, h]

theorem SentSince.append {trace : List ThreadOutput} {i j : Nat} (h : SentSince trace i j)
    (out : List ThreadOutput) : SentSince (trace ++ out) i j := by
  obtain ⟨before, after, decision, rfl, hsent⟩ := h
  exact ⟨before, after ++ out, decision, by simp, List.mem_append_left _ hsent⟩

theorem sentSince_of_created {trace out : List ThreadOutput} {i j : Nat} {decision : Decision}
    (hcreated : .created i j ∈ trace) (hsent : .sent i decision ∈ out) : SentSince (trace ++ out) i j := by
  obtain ⟨before, after, rfl⟩ := List.append_of_mem hcreated
  exact ⟨before, after ++ out, decision, by simp, List.mem_append_right _ hsent⟩

/-- The past of the threads: a thread that was created has the floor of its parent, or its parent has sent
a decision since. -/
structure ThreadLog (s : ThreadSystem K) (trace : List ThreadOutput) : Prop where
  first : ∀ (i : Nat) thread, s.threads[i]? = some thread → thread.FirstYield (conversation i trace)
  unknown : ∀ i : Nat, s.threads[i]? = none → conversation i trace = []
  created : ∀ (i : Nat) thread p, s.threads[i]? = some thread → thread.parent = some p →
    SentSince trace p i ∨
      .created p i ∈ trace ∧ ∃ creator, s.threads[p]? = some creator ∧ creator.returned = true

namespace ThreadLog

variable {trace out : List ThreadOutput}

theorem init : ThreadLog ({} : ThreadSystem K) [] where
  first _ _ h := by cases h
  unknown _ _ := rfl
  created _ _ _ h := by cases h

/-- A thread that connects has exchanged nothing. -/
theorem connecting {i : Nat} {thread : ClientThread} (h : ThreadLog s trace)
    (hi : s.threads[i]? = some thread) (hpoint : thread.point = .connecting) :
    conversation i trace = [] := by
  have hfirst := h.first i thread hi
  rwa [ClientThread.FirstYield, hpoint] at hfirst

/-- A thread moves, and no other is seen. -/
theorem put {i : Nat} {old new : ClientThread} (h : ThreadLog s trace) (hold : s.threads[i]? = some old)
    (hparent : new.parent = old.parent) (hother : ∀ j, j ≠ i → conversation j out = [])
    (hfirst : old.FirstYield (conversation i trace) →
      new.FirstYield (conversation i trace ++ conversation i out))
    (hreturned : old.returned = true → new.returned = true ∨ ∃ decision, .sent i decision ∈ out) :
    ThreadLog (s.put i new) (trace ++ out) := by
  refine ⟨?_, ?_, ?_⟩
  · intro j thread hj
    rw [getElem?_put hold] at hj
    rw [conversation_append]
    split at hj
    · rename_i heq
      subst heq
      cases hj
      exact hfirst (h.first j old hold)
    · rename_i hne
      rw [hother j hne, List.append_nil]
      exact h.first j thread hj
  · intro j hj
    rw [getElem?_put hold] at hj
    split at hj
    · cases hj
    · rename_i hne
      rw [conversation_append, hother j hne, List.append_nil]
      exact h.unknown j hj
  · intro j thread p hj hp
    obtain ⟨before, hj', hsame⟩ : ∃ before, s.threads[j]? = some before ∧ before.parent = some p := by
      rw [getElem?_put hold] at hj
      split at hj
      · rename_i heq
        subst heq
        cases hj
        exact ⟨old, hold, hparent.symm.trans hp⟩
      · exact ⟨thread, hj, hp⟩
    rcases h.created j before p hj' hsame with hsince | ⟨hcreated, creator, hcreator, hheld⟩
    · exact Or.inl (hsince.append out)
    · by_cases hne : p = i
      · subst hne
        rw [hold, Option.some.injEq] at hcreator
        subst hcreator
        rcases hreturned hheld with hnew | ⟨decision, hsent⟩
        · refine Or.inr ⟨List.mem_append_left _ hcreated, new, ?_, hnew⟩
          rw [getElem?_put hold, if_pos rfl]
        · exact Or.inl (sentSince_of_created hcreated hsent)
      · refine Or.inr ⟨List.mem_append_left _ hcreated, creator, ?_, hheld⟩
        rw [getElem?_put hold, if_neg hne, hcreator]

theorem add {thread : ClientThread} (h : ThreadLog s trace) (hpoint : thread.point = .starting)
    (hparent : ∀ p, thread.parent = some p → .created p s.threads.length ∈ trace ∧
      ∃ creator, s.threads[p]? = some creator ∧ creator.returned = true) :
    ThreadLog (s.add thread) trace := by
  refine ⟨?_, ?_, ?_⟩
  · intro i x hi
    rcases getElem?_add.mp hi with hi | ⟨rfl, rfl⟩
    · exact h.first i x hi
    · rw [ClientThread.FirstYield, hpoint]
      exact h.unknown _ (List.getElem?_eq_none le_rfl)
  · intro i hi
    refine h.unknown i ?_
    cases hbefore : s.threads[i]? with
    | none => rfl
    | some x =>
        rw [getElem?_add.mpr (Or.inl hbefore)] at hi
        cases hi
  · intro i x p hi hp
    rcases getElem?_add.mp hi with hi | ⟨rfl, rfl⟩
    · refine (h.created i x p hi hp).imp_right ?_
      rintro ⟨hcreated, creator, hcreator, hheld⟩
      exact ⟨hcreated, creator, getElem?_add.mpr (Or.inl hcreator), hheld⟩
    · obtain ⟨hcreated, creator, hcreator, hheld⟩ := hparent p hp
      exact Or.inr ⟨hcreated, creator, getElem?_add.mpr (Or.inl hcreator), hheld⟩

/-- A thread moves without sending or receiving. -/
theorem silentPut {i : Nat} {old new : ClientThread} (h : ThreadLog s trace)
    (hold : s.threads[i]? = some old) (hparent : new.parent = old.parent)
    (hsilent : ∀ j, conversation j out = [])
    (hfirst : old.FirstYield (conversation i trace) → new.FirstYield (conversation i trace))
    (hreturned : old.returned = true → new.returned = true) :
    ThreadLog (s.put i new) (trace ++ out) := by
  refine h.put hold hparent (fun j _ => hsilent j) ?_ fun hheld => Or.inl (hreturned hheld)
  rwa [hsilent i, List.append_nil]

theorem post {i : Nat} {parent : Option Nat} (h : ThreadLog s trace) : ThreadLog (s.post i parent) trace := by
  unfold ThreadSystem.post
  cases parent with
  | none => exact h
  | some p =>
      cases hp : s.threads[p]? with
      | none => simpa only [hp] using h
      | some waiter =>
          simp only [hp]
          split
          · have hput : ThreadLog (s.put p { waiter with point := .waiting i true }) (trace ++ []) :=
              h.silentPut hp rfl (fun _ => rfl) (fun _ => trivial) fun _ => rfl
            rwa [List.append_nil] at hput
          · exact h

theorem abandon {i : Nat} {thread : ClientThread} (h : ThreadLog s trace)
    (hi : s.threads[i]? = some thread) (hbegins : thread.begins = true) :
    ThreadLog (s.abandon i thread) trace := by
  have hput : ThreadLog (s.put i { thread with point := .ended }) (trace ++ []) := by
    refine h.silentPut hi rfl (fun _ => rfl) (fun _ => trivial) fun hreturned => ?_
    rw [not_returned_of_begins hbegins] at hreturned
    cases hreturned
  rw [List.append_nil] at hput
  exact hput.post

theorem returns {i : Nat} {thread : ClientThread} {call : ThreadCall} {ack : DecisionAck}
    {rest : List DecisionAck} (h : ThreadLog s trace) (hi : s.threads[i]? = some thread)
    (hpoint : thread.point = .asking call) :
    ThreadLog (s.returns i { thread with received := rest } ack call).1
      (trace ++ (s.returns i { thread with received := rest } ack call).2) := by
  have hput : ∀ (point : ThreadPoint) (out : List ThreadOutput), (∀ j, conversation j out = []) →
      (∀ exchanges, ClientThread.FirstYield { thread with received := rest, point := point } exchanges) →
      ThreadLog (s.put i { thread with received := rest, point := point }) (trace ++ out) := by
    intro point out hsilent hfirst
    refine h.silentPut hi rfl hsilent (fun _ => hfirst _) fun hreturned => ?_
    rw [ClientThread.returned, hpoint] at hreturned
    cases hreturned
  have hrunning : ∀ {out : List ThreadOutput}, (∀ j, conversation j out = []) →
      ThreadLog (s.put i { thread with received := rest, point := .running }) (trace ++ out) :=
    fun hsilent => hput .running _ hsilent fun _ => trivial
  cases call with
  | function type => exact hrunning fun _ => rfl
  | firstYield => exact hrunning fun _ => rfl
  | disconnect => exact hput .ended [] (fun _ => rfl) fun _ => trivial
  | create actor =>
      simp only [ThreadSystem.returns]
      split
      · refine (hput (.waiting s.threads.length false) [.created i s.threads.length] (fun _ => rfl)
          fun _ => trivial).add rfl ?_
        rintro p ⟨⟩
        rw [show (s.put i _).threads.length = s.threads.length from List.length_set]
        refine ⟨List.mem_append_right _ (List.mem_singleton.mpr rfl),
          { thread with received := rest, point := .waiting s.threads.length false }, ?_, rfl⟩
        rw [getElem?_put hi, if_pos rfl]
      · exact hrunning fun _ => rfl
  | fork actor =>
      simp only [ThreadSystem.returns]
      split
      · exact (hrunning fun _ => rfl).add rfl fun p hp => by cases hp
      · exact hrunning fun _ => rfl

theorem server {server : Server K} {sent : List ServerOutput} (h : ThreadLog s trace) :
    ThreadLog { s with server := server } (trace ++ sent.map .server) := by
  refine ⟨?_, ?_, ?_⟩
  · intro i thread hi
    rw [conversation_append, conversation_server, List.append_nil]
    exact h.first i thread hi
  · intro i hi
    rw [conversation_append, conversation_server, List.append_nil]
    exact h.unknown i hi
  · intro i thread p hi hp
    refine (h.created i thread p hi hp).imp (fun hsince => hsince.append _) ?_
    exact fun ⟨hcreated, hcreator⟩ => ⟨List.mem_append_left _ hcreated, hcreator⟩

theorem moved {t : ThreadSystem K} {server : Server K} {sent : List ServerOutput} (h : ThreadLog s trace)
    (hmoved : ServerMoved s server sent t out) : ThreadLog t (trace ++ out) := by
  cases hmoved with
  | quiet => exact h.server
  | acked i thread ack hi hasks =>
      obtain ⟨⟨call, hpoint⟩, hreceived⟩ := hasks
      rw [← List.append_assoc]
      have hserver : ThreadLog { s with server := server } (trace ++ sent.map .server) := h.server
      refine hserver.put hi rfl ?_ ?_ ?_
      · intro j hne
        rw [conversation_acked, if_neg (Ne.symm hne)]
      · intro hfirst
        rw [conversation_acked, if_pos rfl]
        cases call with
        | firstYield =>
            simp only [ClientThread.FirstYield, hpoint, hreceived] at hfirst ⊢
            obtain ⟨decision, htype, heq⟩ := hfirst
            exact ⟨decision, htype, by rw [heq]; rfl⟩
        | _ => simp only [ClientThread.FirstYield, hpoint]
      · intro hreturned
        rw [ClientThread.returned, hpoint] at hreturned
        cases hreturned

theorem step {t : ThreadSystem K} {event : ThreadEvent K} (h : ThreadLog s trace) (hinv : ThreadInv s)
    (hstep : ThreadStep platformFile s event t out) : ThreadLog t (trace ++ out) := by
  -- a thread that goes from one point before its first decision to another
  have hbegins : ∀ {i : Nat} {thread new : ClientThread}, s.threads[i]? = some thread →
      new.parent = thread.parent → thread.begins = true →
      (thread.FirstYield (conversation i trace) → new.FirstYield (conversation i trace)) →
      ThreadLog (s.put i new) trace := by
    intro i thread new hi hparent hbegins hfirst
    have hput : ThreadLog (s.put i new) (trace ++ []) := by
      refine h.silentPut hi hparent (fun _ => rfl) hfirst fun hreturned => ?_
      rw [not_returned_of_begins hbegins] at hreturned
      cases hreturned
    rwa [List.append_nil] at hput
  cases hstep with
  | launched environment opening =>
      rw [List.append_nil]
      exact h.add rfl nofun
  | connecting i thread actorId hi hpoint =>
      rw [List.append_nil]
      refine hbegins hi rfl (by rw [ClientThread.begins, hpoint]) fun hfirst => ?_
      rwa [ClientThread.FirstYield, hpoint] at hfirst
  | abandoned _ i thread hi hpoint =>
      rw [List.append_nil]
      refine h.abandon hi ?_
      rcases hpoint with hpoint | hpoint | ⟨socket, ack, hpoint⟩ <;> rw [ClientThread.begins, hpoint]
  | connected i thread socket ack connection hi hpoint =>
      rw [List.append_nil]
      refine hbegins hi rfl (by rw [ClientThread.begins, hpoint]) fun hfirst => ?_
      rwa [ClientThread.FirstYield, hpoint] at hfirst
  | posted i thread hi hpoint =>
      rw [List.append_nil]
      have hput : ThreadLog (s.put i { thread with point := .posted }) trace := by
        refine hbegins hi rfl (by rw [ClientThread.begins, hpoint]) fun hfirst => ?_
        rwa [ClientThread.FirstYield, hpoint] at hfirst
      exact hput.post
  | returned i thread call ack rest hi hpoint => exact h.returns hi hpoint
  | resumed i thread child hi hpoint =>
      exact h.silentPut hi rfl (fun _ => rfl) (fun _ => trivial) fun _ => rfl
  | sent i thread call connection elapsed hi hmay =>
      refine h.put hi rfl ?_ ?_ fun _ => Or.inr ⟨_, List.mem_singleton.mpr rfl⟩
      · intro j hne
        rw [conversation_sent, if_neg (Ne.symm hne)]
      · intro hfirst
        rw [conversation_sent, if_pos rfl]
        rcases mayCall_cases hmay with ⟨-, hcall⟩ | ⟨-, -, hcall⟩ | ⟨hpoint, rfl⟩
        · cases call with
          | firstYield => exact absurd rfl hcall
          | _ => trivial
        · cases call with
          | firstYield => exact absurd rfl hcall
          | _ => trivial
        · simp only [ClientThread.FirstYield, hpoint] at hfirst ⊢
          exact ⟨rfl, by rw [hfirst]; rfl⟩
  | accepted i thread socket socket' server sent ack hi hpoint =>
      have hserver : ThreadLog { s with server := server } (trace ++ sent.map .server) := h.server
      have hput : ThreadLog (({ s with server := server } : ThreadSystem K).put i
          { thread with point := .accepted socket' ack }) (trace ++ sent.map .server ++ []) := by
        refine hserver.silentPut hi rfl (fun _ => rfl) (fun hfirst => ?_) fun hreturned => ?_
        · rwa [ClientThread.FirstYield, hpoint] at hfirst
        · rw [ClientThread.returned, hpoint] at hreturned
          cases hreturned
      rw [List.append_nil] at hput
      exact ⟨hput.first, hput.unknown, hput.created⟩
  | read p i thread call decision server sent hcurrent hp hi hpoint hserver =>
      have hmoved := (hinv.read hcurrent hp hi hpoint (serverStep_cases hserver)).2.1
      have hput : ThreadLog (s.put i { thread with point := .asking call }) (trace ++ []) := by
        refine h.silentPut hi rfl (fun _ => rfl) ?_ fun hreturned => ?_
        · have hnone : thread.received = [] := by
            refine (hinv.unread i thread hi).resolve_right ?_
            rintro ⟨call', ack, hasking, -⟩
            rw [hpoint] at hasking
            cases hasking
          intro hfirst
          cases call with
          | firstYield =>
              simp only [ClientThread.FirstYield, hpoint, hnone] at hfirst ⊢
              exact ⟨decision, hfirst⟩
          | _ => trivial
        · rw [ClientThread.returned, hpoint] at hreturned
          cases hreturned
      rw [List.append_nil] at hput
      exact hput.moved hmoved
  | server event server sent halone hserver =>
      refine h.moved (hinv.serverMoves_cases (serverStep_cases hserver) ?_)
      rintro d p rfl -
      cases halone

end ThreadLog

/-- The code of a created actor starts once its first yield is acknowledged. -/
theorem ThreadLog.starts {t : ThreadSystem K} {event : ThreadEvent K} {trace out : List ThreadOutput}
    (h : ThreadLog s trace) (hinv : ThreadInv s) (hstep : ThreadStep platformFile s event t out) {i : Nat}
    (hstarts : .starts i ∈ out) : ∃ decision ack, decision.type = .thisActorYield true ∧
      conversation i trace = [.asked decision, .answered ack] := by
  have hserver : ∀ {u : ThreadSystem K} {server : Server K} {sent : List ServerOutput}
      {v : ThreadSystem K} {seen : List ThreadOutput},
      ServerMoved u server sent v seen → ThreadOutput.starts i ∉ seen := by
    rintro u server sent v seen (_ | _) hmem <;> simp at hmem
  cases hstep with
  | returned k thread call ack rest hk hpoint hreceived =>
      cases call with
      | firstYield =>
          have heq : i = k := by simpa [ThreadSystem.returns] using hstarts
          subst heq
          have hfirst := h.first i thread hk
          have hempty : rest = [] := by
            rcases hinv.unread i thread hk with hnone | ⟨_, ack', -, hone⟩
            · rw [hnone] at hreceived
              cases hreceived
            · rw [hone, List.cons.injEq] at hreceived
              exact hreceived.2.symm
          simp only [ClientThread.FirstYield, hpoint, hreceived, hempty] at hfirst
          obtain ⟨decision, htype, hexchanges⟩ := hfirst
          exact ⟨decision, ack, htype, hexchanges⟩
      | create | fork =>
          simp only [ThreadSystem.returns] at hstarts
          split at hstarts <;> simp at hstarts
      | _ => simp [ThreadSystem.returns] at hstarts
  | read p k thread call decision server sent hcurrent hp hk hpoint hserver' =>
      exact absurd hstarts (hserver (hinv.read hcurrent hp hk hpoint (serverStep_cases hserver')).2.1)
  | server event server sent halone hserver' =>
      refine absurd hstarts (hserver (hinv.serverMoves_cases (serverStep_cases hserver') ?_))
      rintro d p rfl -
      cases halone
  | accepted _ _ _ _ _ sent => simp at hstarts
  | _ => simp at hstarts

theorem threadInv_run {events : List (ThreadEvent K)} {trace : List ThreadOutput}
    (hrun : Run (threadStep K platformFile) {} events s trace)
    (hread : Throughout (threadStep K platformFile) NoReadError {} events) :
    ThreadInv s ∧ ThreadLog s trace := by
  refine hrun.guarded_invariant (P := fun _ s trace => ThreadInv s ∧ ThreadLog s trace) hread
    ⟨ThreadInv.init, ThreadLog.init⟩ ?_
  intro _ _ _ _ _ _ _ hinv hevent hstep
  have hcases := threadStep_cases hstep
  exact ⟨hinv.1.step hevent hcases, hinv.2.step hinv.1 hcases⟩

/-- As long as no connection fails, one thread of a process at most runs the code of the user, callbacks
included; the code of a created actor starts after its first yield, the first decision that it sends, is
acknowledged; nothing is acknowledged to its thread before the thread that created it has sent a decision
since. -/
theorem threads_exclusive {events : List (ThreadEvent K)} {trace : List ThreadOutput}
    (hrun : Run (threadStep K platformFile) {} events s trace)
    (hread : Throughout (threadStep K platformFile) NoReadError {} events) :
    (∀ (i j : Nat) first second, s.threads[i]? = some first → s.threads[j]? = some second →
      first.process = second.process → first.executes = true → second.executes = true → i = j) ∧
    ∀ event t out, threadStep K platformFile s event = some (t, out) →
      (∀ i, .starts i ∈ out → ∃ decision ack, decision.type = .thisActorYield true ∧
        conversation i trace = [.asked decision, .answered ack]) ∧
      ∀ (i : Nat) ack thread parent, .acked i ack ∈ out → s.threads[i]? = some thread →
        thread.parent = some parent → SentSince trace parent i := by
  obtain ⟨hinv, hlog⟩ := threadInv_run hrun hread
  refine ⟨fun i j first second hi hj => hinv.exclusive hi hj, ?_⟩
  intro event t out hstep
  have hcases := threadStep_cases hstep
  refine ⟨fun i => hlog.starts hinv hcases, ?_⟩
  intro i ack thread parent hacked hi hparent
  refine (hlog.created i thread parent hi hparent).resolve_right ?_
  rintro ⟨-, creator, hcreator, hreturned⟩
  have hholds := ClientThread.holds_of_returned hreturned
  rw [hinv.acked_unheld hcases hacked hcreator] at hholds
  cases hholds

end

def clientEnvironment : Environment :=
  { serverHostname := some "localhost", serverPort := .valid 35000, initialActorId := .valid 2 }

/-- An actor creates another one, whose first yield is acknowledged. -/
def createdThreadEvents : List (ThreadEvent permissiveS4u) :=
  [.server (.serve (.accept 10)),
    .server (.serve (.command 10 (.addActor { actorName := "a", hostName := "h" }))),
    .launch clientEnvironment (.connect 2), .proceed 0, .server (.serve (.accept 11)), .connect 0 11,
    .proceed 0, .server (.serve (.accept 12)), .server (.serve (.command 12 (.start true))),
    .server (.launch [{ actorName := "a", hostName := "h", actorId := 2, socket := some 11 }]),
    .server (.simulation (.schedule 2)), .call 0 (.create { name := "c", host := { name := "h" } }) 0,
    .read, .server (.simulation (.serve 2 (.pid 7))), .server (.simulation .round),
    .server (.simulation (.schedule 7)), .server (.simulation (.serve 7 .done)),
    .server (.simulation (.schedule 2)), .server (.serve (.interthread (.actorCreate 7 1 2))),
    .server (.simulation (.canConnectAck .actorCreateAck)), .proceed 0, .proceed 1,
    .server (.serve (.accept 13)), .connect 1 13, .proceed 1, .proceed 1, .proceed 0,
    .call 1 .firstYield 0, .call 0 (.function (.thisActorSleepFor 1)) 0, .read,
    .server (.simulation .round), .server (.simulation (.schedule 7)),
    .server (.simulation (.connectAck (.actorConnected 13))), .read,
    .server (.simulation (.serve 7 .done)), .server (.simulation .round),
    .server (.simulation (.schedule 7))]

theorem threads_exclusive_created_thread : ∃ s t trace,
    Run (threadStep permissiveS4u "platform.xml") {} createdThreadEvents s trace ∧
      threadStep permissiveS4u "platform.xml" s (.proceed 1) = some (t, [.starts 1]) ∧
      ∃ decision ack, decision.type = .thisActorYield true ∧
        conversation 1 trace = [.asked decision, .answered ack] := by
  have hexec : (exec (threadStep permissiveS4u "platform.xml") {} createdThreadEvents).any
      (fun reached => (threadStep permissiveS4u "platform.xml" reached.1 (.proceed 1)).map (·.2) =
        some [.starts 1]) = true := by
    decide +kernel
  obtain ⟨s, trace, hrun, hcheck⟩ := Run.of_check hexec
  obtain ⟨⟨t, out⟩, hstep, hout⟩ := Option.map_eq_some_iff.mp (of_decide_eq_true hcheck)
  obtain rfl : out = [.starts 1] := hout
  have hread : Throughout (threadStep permissiveS4u "platform.xml") NoReadError {} createdThreadEvents :=
    Throughout.of_check (by decide +kernel)
  exact ⟨s, t, trace, hrun, hstep,
    ((threads_exclusive hrun hread).2 (.proceed 1) t _ hstep).1 1 (List.mem_singleton.mpr rfl)⟩

end RemoteSimgrid
