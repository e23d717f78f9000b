import RemoteSimgrid.ClientThreads

/-! Where the threads of the clients are, beside the server. A thread runs the code of its actor while the
server reads its next decision, or while the thread that created it waits on its semaphore; the thread
of SimGrid is then in the hands of one actor. -/

namespace RemoteSimgrid

open Machine Pb

/-- No acknowledgment is on its way to the thread, and no `sem_post`. -/
def ThreadPoint.settled : ThreadPoint → Bool
  | .asking _ | .waiting _ false => false
  | _ => true

namespace ClientThread

variable (thread : ClientThread)

/-- The thread has not come to `sem_post` yet. -/
def begins : Bool :=
  match thread.point with
  | .starting | .connecting | .accepted _ _ | .connected => true
  | _ => false

/-- The server has acknowledged the last decision of the thread, and waits for the next one. -/
def holds : Bool :=
  match thread.point with
  | .asking _ => !thread.received.isEmpty
  | .waiting _ _ | .running => true
  | _ => false

/-- The thread has read the acknowledgment of its last decision. -/
def returned : Bool :=
  match thread.point with
  | .waiting _ _ | .running => true
  | _ => false

/-- The thread runs the code of the user: that of its actor, or a callback of `Actor::create`. -/
def executes : Bool :=
  match thread.point with
  | .starting | .connected | .running => true
  | _ => false

/-- The server works on the decision of the thread. -/
def Asks : Prop := (∃ call, thread.point = .asking call) ∧ thread.received = []

/-- The thread has one acknowledgment to read at most, that of its last decision. -/
def Reading : Prop :=
  thread.received = [] ∨ ∃ call ack, thread.point = .asking call ∧ thread.received = [ack]

variable {thread}

theorem Asks.not_holds (h : thread.Asks) : thread.holds = false := by
  obtain ⟨⟨call, hpoint⟩, hreceived⟩ := h
  simp [holds, hpoint, hreceived]

theorem holds_of_returned (h : thread.returned = true) : thread.holds = true := by
  revert h
  cases hpoint : thread.point <;> simp [returned, holds, hpoint]

theorem executes_cases (h : thread.executes = true) : thread.begins = true ∨ thread.point = .running := by
  revert h
  cases hpoint : thread.point <;> simp [executes, begins, hpoint]

end ClientThread

section

variable {K : S4u} {platformFile : String} {s : ThreadSystem K}

/-- Where the threads are, beside the server: the threads that hold the floor are those that the server
waits for, an actor that works does so for a thread that asks, a thread that has not come to `sem_post`
is alone in its process or has a parent that waits for it. -/
structure ThreadInv (s : ThreadSystem K) : Prop where
  client : ∀ p i, s.clients p = some i →
    ∃ thread, s.threads[i]? = some thread ∧ thread.actorId = p ∧ thread.point ≠ .starting
  connected : ∀ p i, s.clients p = some i → s.server.serve.Connected p
  unread : ∀ (i : Nat) thread, s.threads[i]? = some thread → thread.Reading
  holder : ∀ (i : Nat) thread, s.threads[i]? = some thread → thread.holds = true →
    s.clients thread.actorId = some i ∧ s.server.Reads thread.actorId
  working : ∀ p, s.server.simulation.Works p →
    ∃ i thread, s.clients p = some i ∧ s.threads[i]? = some thread ∧ thread.Asks
  process : ∀ (i : Nat) thread, s.threads[i]? = some thread → thread.process < s.threads.length
  alone : ∀ (i j : Nat) first second, s.threads[i]? = some first → s.threads[j]? = some second →
    first.begins = true → first.parent = none → second.process = first.process → j = i
  parent : ∀ (i : Nat) thread (p : Nat), s.threads[i]? = some thread → thread.begins = true → thread.parent = some p →
    ∃ waiter, s.threads[p]? = some waiter ∧ waiter.point = .waiting i false

theorem ThreadInv.init : ThreadInv ({} : ThreadSystem K) where
  client _ _ h := by cases h
  connected _ _ h := by cases h
  unread _ _ h := by cases h
  holder _ _ h := by cases h
  working p h := by
    obtain ⟨point, hpoint, -⟩ := h
    cases hpoint
  process _ _ h := by cases h
  alone _ _ _ _ h := by cases h
  parent _ _ _ h := by cases h

theorem getElem?_put {i j : Nat} {old new : ClientThread} (hold : s.threads[i]? = some old) :
    (s.put i new).threads[j]? = if j = i then some new else s.threads[j]? := by
  obtain ⟨hlt, -⟩ := List.getElem?_eq_some_iff.mp hold
  rw [ThreadSystem.put, List.getElem?_set]
  by_cases hji : j = i
  · rw [if_pos hji, if_pos hji.symm, if_pos hlt]
  · rw [if_neg hji, if_neg (Ne.symm hji)]

theorem getElem?_add {thread x : ClientThread} {j : Nat} :
    (s.add thread).threads[j]? = some x ↔
      s.threads[j]? = some x ∨ j = s.threads.length ∧ x = thread := by
  rw [ThreadSystem.add, List.getElem?_append]
  split
  · rename_i hlt
    refine ⟨Or.inl, fun h => h.resolve_right ?_⟩
    rintro ⟨rfl, -⟩
    exact absurd hlt (lt_irrefl _)
  · rename_i hlt
    rw [List.getElem?_eq_none (not_lt.mp hlt), List.getElem?_singleton]
    constructor
    · intro h
      split at h
      · rename_i hzero
        exact Or.inr ⟨by omega, (Option.some.inj h).symm⟩
      · cases h
    · rintro (h | ⟨rfl, rfl⟩)
      · cases h
      · rw [Nat.sub_self, if_pos rfl]

theorem settled_of_begins {thread : ClientThread} (h : thread.begins = true) :
    thread.point.settled = true := by
  revert h
  cases hpoint : thread.point <;> simp [ClientThread.begins, ThreadPoint.settled, hpoint]

theorem not_returned_of_begins {thread : ClientThread} (h : thread.begins = true) :
    thread.returned = false := by
  revert h
  cases hpoint : thread.point <;> simp [ClientThread.begins, ClientThread.returned, hpoint]

/-- Where a thread calls a function from: the code of its actor, the code of a process before its first
decision, or `actor_wrapper`. -/
theorem mayCall_cases {thread : ClientThread} {call : ThreadCall} (h : thread.mayCall call = true) :
    thread.point = .running ∧ call ≠ .firstYield ∨
      thread.point = .connected ∧ thread.parent = none ∧ call ≠ .firstYield ∨
      thread.point = .posted ∧ call = .firstYield := by
  unfold ClientThread.mayCall at h
  split at h
  · rename_i hpoint
    exact Or.inl ⟨hpoint, of_decide_eq_true h⟩
  · rename_i hpoint
    rw [Bool.and_eq_true, Option.isNone_iff_eq_none, decide_eq_true_eq] at h
    exact Or.inr (Or.inl ⟨hpoint, h⟩)
  · rename_i hpoint
    exact Or.inr (Or.inr ⟨hpoint, of_decide_eq_true h⟩)
  · cases h

/-- What a thread does by itself, to which the others and the server are indifferent. -/
structure ThreadMove (s : ThreadSystem K) (i : Nat) (old new : ClientThread) : Prop where
  process : new.process = old.process
  parent : new.parent = old.parent
  actorId : old.point = .starting ∨ new.actorId = old.actorId
  started : new.point ≠ .starting
  unread : new.Reading
  holder : new.holds = true → old.holds = true ∨ s.clients old.actorId = some i ∧ s.server.Reads old.actorId
  working : old.Asks → new.Asks ∨ ¬s.server.simulation.Works old.actorId
  begins : new.begins = true → old.begins = true
  waiting : ∀ j, old.point = .waiting j false →
    new.point = .waiting j false ∨ ∀ thread, s.threads[j]? = some thread → thread.begins = false

/-- What the threads see of a step of the server: nothing, or the acknowledgment of a thread that asks. -/
inductive ServerMoved (s : ThreadSystem K) (server : Server K) (out : List ServerOutput) :
    ThreadSystem K → List ThreadOutput → Prop
  | quiet : ServerMoved s server out { s with server := server } (out.map .server)
  | acked (i : Nat) (thread : ClientThread) (ack : DecisionAck) : s.threads[i]? = some thread →
      thread.Asks → s.clients thread.actorId = some i → server.Reads thread.actorId →
      ServerMoved s server out
        (({ s with server := server } : ThreadSystem K).put i { thread with received := [ack] })
        (out.map .server ++ [.acked i ack])

namespace ThreadInv

theorem put {i : Nat} {old new : ClientThread} (h : ThreadInv s) (hold : s.threads[i]? = some old)
    (hmove : ThreadMove s i old new) : ThreadInv (s.put i new) := by
  have hthread : ∀ {j : Nat} {thread : ClientThread}, (s.put i new).threads[j]? = some thread →
      j = i ∧ thread = new ∨ j ≠ i ∧ s.threads[j]? = some thread := by
    intro j thread hj
    rw [getElem?_put hold] at hj
    split at hj
    · rename_i heq
      exact Or.inl ⟨heq, (Option.some.inj hj).symm⟩
    · rename_i hne
      exact Or.inr ⟨hne, hj⟩
  have hself : (s.put i new).threads[i]? = some new := by rw [getElem?_put hold, if_pos rfl]
  have hother : ∀ {j : Nat} {thread : ClientThread}, j ≠ i → s.threads[j]? = some thread →
      (s.put i new).threads[j]? = some thread := by
    intro j thread hne hj
    rw [getElem?_put hold, if_neg hne, hj]
  -- the thread as it was, with its process and its parent
  have hbefore : ∀ {j : Nat} {thread : ClientThread}, (s.put i new).threads[j]? = some thread →
      ∃ before, s.threads[j]? = some before ∧ before.process = thread.process ∧
        before.parent = thread.parent ∧ (thread.begins = true → before.begins = true) := by
    intro j thread hj
    rcases hthread hj with ⟨rfl, rfl⟩ | ⟨-, hj⟩
    · exact ⟨old, hold, hmove.process.symm, hmove.parent.symm, hmove.begins⟩
    · exact ⟨thread, hj, rfl, rfl, id⟩
  have hactorId : ∀ p, s.clients p = some i → new.actorId = old.actorId := by
    intro p hp
    obtain ⟨thread, hi, -, hstarted⟩ := h.client p i hp
    rw [hold, Option.some.injEq] at hi
    subst hi
    exact hmove.actorId.resolve_left hstarted
  refine ⟨?_, h.connected, ?_, ?_, ?_, ?_, ?_, ?_⟩
  · intro p j hp
    obtain ⟨thread, hj, hid, hstarted⟩ := h.client p j hp
    by_cases hne : j = i
    · subst hne
      rw [hold, Option.some.injEq] at hj
      subst hj
      exact ⟨new, hself, (hactorId p hp).trans hid, hmove.started⟩
    · exact ⟨thread, hother hne hj, hid, hstarted⟩
  · intro j thread hj
    rcases hthread hj with ⟨-, rfl⟩ | ⟨-, hj⟩
    · exact hmove.unread
    · exact h.unread j thread hj
  · intro j thread hj hholds
    rcases hthread hj with ⟨rfl, rfl⟩ | ⟨-, hj⟩
    · have hheld : s.clients old.actorId = some j ∧ s.server.Reads old.actorId := by
        rcases hmove.holder hholds with hheld | hheld
        · exact h.holder j old hold hheld
        · exact hheld
      rw [hactorId _ hheld.1]
      exact hheld
    · exact h.holder j thread hj hholds
  · intro p hworks
    obtain ⟨j, thread, hp, hj, hasks⟩ := h.working p hworks
    by_cases hne : j = i
    · subst hne
      obtain ⟨thread', hj', hid, -⟩ := h.client p j hp
      rw [hj, Option.some.injEq] at hj'
      subst hj'
      rw [hold, Option.some.injEq] at hj
      subst hj
      refine ⟨j, new, hp, hself, (hmove.working hasks).resolve_right ?_⟩
      rw [hid]
      exact not_not.mpr hworks
    · exact ⟨j, thread, hp, hother hne hj, hasks⟩
  · intro j thread hj
    obtain ⟨before, hj, hprocess, -⟩ := hbefore hj
    rw [← hprocess, ThreadSystem.put, List.length_set]
    exact h.process j before hj
  · intro j k first second hj hk hbegins hparent hprocess
    obtain ⟨before, hj, hfirst, hnone, hbegan⟩ := hbefore hj
    obtain ⟨before', hk, hsecond, -⟩ := hbefore hk
    exact h.alone j k before before' hj hk (hbegan hbegins) (hnone.trans hparent)
      (hsecond.trans (hprocess.trans hfirst.symm))
  · intro j thread p hj hbegins hparent
    obtain ⟨before, hj', -, hsame, hbegan⟩ := hbefore hj
    obtain ⟨waiter, hp, hpoint⟩ := h.parent j before p hj' (hbegan hbegins) (hsame.trans hparent)
    by_cases hne : p = i
    · subst hne
      rw [hold, Option.some.injEq] at hp
      subst hp
      refine ⟨new, hself, (hmove.waiting j hpoint).resolve_right fun hdone => ?_⟩
      have hend := hdone before hj'
      rw [hbegan hbegins] at hend
      cases hend
    · exact ⟨waiter, hother hne hp, hpoint⟩

theorem add {thread : ClientThread} (h : ThreadInv s) (hpoint : thread.point = .starting)
    (hreceived : thread.received = [])
    (hprocess : thread.process = s.threads.length ∧ thread.parent = none ∨
      ∃ i waiter, thread.parent = some i ∧ s.threads[i]? = some waiter ∧
        waiter.point = .waiting s.threads.length false ∧ waiter.process = thread.process) :
    ThreadInv (s.add thread) := by
  have hbegins : thread.begins = true := by rw [ClientThread.begins, hpoint]
  have hlt : ∀ {j : Nat} {before : ClientThread}, s.threads[j]? = some before →
      before.process < s.threads.length := fun hj => h.process _ _ hj
  refine ⟨?_, h.connected, ?_, ?_, ?_, ?_, ?_, ?_⟩
  · intro p i hp
    obtain ⟨before, hi, hafter⟩ := h.client p i hp
    exact ⟨before, getElem?_add.mpr (Or.inl hi), hafter⟩
  · intro i x hi
    rcases getElem?_add.mp hi with hi | ⟨-, rfl⟩
    · exact h.unread i x hi
    · exact Or.inl hreceived
  · intro i x hi hholds
    rcases getElem?_add.mp hi with hi | ⟨-, rfl⟩
    · exact h.holder i x hi hholds
    · rw [ClientThread.holds, hpoint] at hholds
      cases hholds
  · intro p hworks
    obtain ⟨i, before, hp, hi, hasks⟩ := h.working p hworks
    exact ⟨i, before, hp, getElem?_add.mpr (Or.inl hi), hasks⟩
  · intro i x hi
    rw [ThreadSystem.add, List.length_append, List.length_singleton]
    rcases getElem?_add.mp hi with hi | ⟨-, rfl⟩
    · exact (hlt hi).trans (Nat.lt_succ_self _)
    · rcases hprocess with ⟨hnew, -⟩ | ⟨j, waiter, -, hj, -, hsame⟩
      · rw [hnew]
        exact Nat.lt_succ_self _
      · rw [← hsame]
        exact (hlt hj).trans (Nat.lt_succ_self _)
  · intro i j first second hi hj hfirst hnone hsame
    rcases getElem?_add.mp hi with hi' | ⟨rfl, rfl⟩
    · rcases getElem?_add.mp hj with hj' | ⟨-, rfl⟩
      · exact h.alone i j first second hi' hj' hfirst hnone hsame
      · rcases hprocess with ⟨hnew, -⟩ | ⟨k, waiter, -, hk, hwaiting, hsame'⟩
        · have hless := hlt hi'
          rw [← hsame, hnew] at hless
          exact absurd hless (lt_irrefl _)
        · -- the thread that waits is not the first one of its process before it is connected
          have hki := h.alone i k first waiter hi' hk hfirst hnone (hsame'.trans hsame)
          subst hki
          rw [hk, Option.some.injEq] at hi'
          rw [← hi', ClientThread.begins, hwaiting] at hfirst
          cases hfirst
    · rcases getElem?_add.mp hj with hj' | ⟨rfl, -⟩
      · rcases hprocess with ⟨hnew, -⟩ | ⟨k, waiter, hparent, -⟩
        · have hless := hlt hj'
          rw [hsame, hnew] at hless
          exact absurd hless (lt_irrefl _)
        · rw [hnone] at hparent
          cases hparent
      · rfl
  · intro i x p hi hx hparent
    rcases getElem?_add.mp hi with hi | ⟨rfl, rfl⟩
    · obtain ⟨waiter, hp, hwaiting⟩ := h.parent i x p hi hx hparent
      exact ⟨waiter, getElem?_add.mpr (Or.inl hp), hwaiting⟩
    · rcases hprocess with ⟨-, hnone⟩ | ⟨j, waiter, hj, hwaiter, hwaiting, -⟩
      · rw [hnone] at hparent
        cases hparent
      · rw [hparent, Option.some.injEq] at hj
        subst hj
        exact ⟨waiter, getElem?_add.mpr (Or.inl hwaiter), hwaiting⟩

/-- `sem_post`, by a thread that is past it. -/
theorem post {i : Nat} {parent : Option Nat} (h : ThreadInv s)
    (hdone : ∀ thread, s.threads[i]? = some thread → thread.begins = false) :
    ThreadInv (s.post i parent) := by
  unfold ThreadSystem.post
  cases parent with
  | none => exact h
  | some p =>
      cases hp : s.threads[p]? with
      | none => simpa only [hp] using h
      | some waiter =>
          simp only [hp]
          split
          · rename_i hwaiting
            have hunread := h.unread p waiter hp
            have hempty : waiter.received = [] := by
              refine hunread.resolve_right ?_
              rintro ⟨call, ack, hpoint, -⟩
              rw [hwaiting] at hpoint
              cases hpoint
            refine h.put hp ⟨rfl, rfl, Or.inr rfl, nofun, Or.inl hempty, fun _ => Or.inl ?_, ?_, nofun, ?_⟩
            · rw [ClientThread.holds, hwaiting]
            · rintro ⟨⟨call, hpoint⟩, -⟩
              rw [hwaiting] at hpoint
              cases hpoint
            · intro j hj
              rw [hwaiting] at hj
              cases hj
              exact Or.inr hdone
          · exact h

/-- The server makes a step, in which it may read the decision of a thread that asks. -/
theorem server {event : ServerEvent K} {server : Server K} {out : List ServerOutput} (h : ThreadInv s)
    (hstep : ServerStep platformFile s.server event server out)
    (herror : ∀ e, event ≠ .simulation (.readError e))
    (hdecision : ∀ d p, event = .simulation (.decision d) → s.server.simulation.Reads p →
      ∃ i thread, s.clients p = some i ∧ s.threads[i]? = some thread ∧ thread.Asks) :
    ThreadInv { s with server := server } := by
  refine ⟨h.client, fun p i hp => hstep.connected (h.connected p i hp), h.unread, ?_, ?_, h.process,
    h.alone, h.parent⟩
  · intro i thread hi hholds
    obtain ⟨hclient, hreads⟩ := h.holder i thread hi hholds
    refine ⟨hclient, (hstep.of_reads hreads ?_).2 herror⟩
    intro d hd
    obtain ⟨j, asker, hj, hasker, hasks⟩ := hdecision d _ hd hreads.reads
    rw [hclient, Option.some.injEq] at hj
    subst hj
    replace hi : s.threads[i]? = some thread := hi
    rw [hi, Option.some.injEq] at hasker
    subst hasker
    rw [hasks.not_holds] at hholds
    cases hholds
  · intro p hworks
    rcases hstep.works hworks with hbefore | ⟨hreads, d, hd⟩
    · exact h.working p hbefore
    · exact hdecision d p hd hreads

/-- A step of the server acknowledges nothing, or the decision of one thread that asks. -/
theorem moves {event : ServerEvent K} {server : Server K} {out : List ServerOutput}
    (h : ThreadInv s) (hstep : ServerStep platformFile s.server event server out)
    (hdecision : ∀ d p, event = .simulation (.decision d) → s.server.simulation.Reads p →
      ∃ i thread, s.clients p = some i ∧ s.threads[i]? = some thread ∧ thread.Asks) :
    decisionAcks out = [] ∧ s.serverMoves server out = ({ s with server := server }, out.map .server) ∨
      ∃ i thread ack, s.threads[i]? = some thread ∧ thread.Asks ∧ s.clients thread.actorId = some i ∧
        server.Reads thread.actorId ∧ decisionAcks out = [(thread.actorId, ack)] ∧
        s.serverMoves server out =
          (({ s with server := server } : ThreadSystem K).put i { thread with received := [ack] },
            out.map .server ++ [.acked i ack]) := by
  rcases hstep.answers with hnone | ⟨p, ack, hone, hreads, hbefore⟩
  · refine Or.inl ⟨hnone, ?_⟩
    simp only [ThreadSystem.serverMoves, hnone, ThreadSystem.deliver, List.append_nil]
  · obtain ⟨i, thread, hp, hi, hasks⟩ :
        ∃ i thread, s.clients p = some i ∧ s.threads[i]? = some thread ∧ thread.Asks := by
      rcases hbefore with hworks | ⟨hread, d, hd⟩
      · exact h.working p hworks
      · exact hdecision d p hd hread
    obtain ⟨thread', hi', hid, -⟩ := h.client p i hp
    rw [hi, Option.some.injEq] at hi'
    subst hi'
    subst hid
    refine Or.inr ⟨i, thread, ack, hi, hasks, hp, hreads, hone, ?_⟩
    simp only [ThreadSystem.serverMoves, hone, ThreadSystem.deliver, hp, hi, hasks.2, List.nil_append]

theorem serverMoves_cases {event : ServerEvent K} {server : Server K} {out : List ServerOutput}
    (h : ThreadInv s) (hstep : ServerStep platformFile s.server event server out)
    (hdecision : ∀ d p, event = .simulation (.decision d) → s.server.simulation.Reads p →
      ∃ i thread, s.clients p = some i ∧ s.threads[i]? = some thread ∧ thread.Asks) :
    ServerMoved s server out (s.serverMoves server out).1 (s.serverMoves server out).2 := by
  rcases h.moves hstep hdecision with ⟨-, heq⟩ | ⟨i, thread, ack, hi, hasks, hclient, hreads, -, heq⟩
  · rw [heq]
    exact .quiet
  · rw [heq]
    exact .acked i thread ack hi hasks hclient hreads

theorem serverMoves {event : ServerEvent K} {server : Server K} {out : List ServerOutput}
    (h : ThreadInv s) (hstep : ServerStep platformFile s.server event server out)
    (herror : ∀ e, event ≠ .simulation (.readError e))
    (hdecision : ∀ d p, event = .simulation (.decision d) → s.server.simulation.Reads p →
      ∃ i thread, s.clients p = some i ∧ s.threads[i]? = some thread ∧ thread.Asks) :
    ThreadInv (s.serverMoves server out).1 := by
  have hafter := h.server hstep herror hdecision
  have hmoved := h.serverMoves_cases hstep hdecision
  generalize (s.serverMoves server out).1 = t, (s.serverMoves server out).2 = sent at hmoved ⊢
  cases hmoved with
  | quiet => exact hafter
  | acked i thread ack hi hasks hclient hreads =>
      obtain ⟨call, hpoint⟩ := hasks.1
      refine hafter.put hi ⟨rfl, rfl, Or.inr rfl, ?_, Or.inr ⟨call, ack, hpoint, rfl⟩,
        fun _ => Or.inr ⟨hclient, hreads⟩, fun _ => Or.inr hreads.reads.not_works, ?_, ?_⟩
      · rw [hpoint]
        exact nofun
      · intro hbegins
        rw [ClientThread.begins, hpoint] at hbegins
        cases hbegins
      · intro j hj
        rw [hpoint] at hj
        cases hj

theorem quietMove {i : Nat} {old new : ClientThread} (h : ThreadInv s) (hold : s.threads[i]? = some old)
    (hprocess : new.process = old.process) (hparent : new.parent = old.parent)
    (hactorId : old.point = .starting ∨ new.actorId = old.actorId)
    (hreceived : new.received = old.received) (hstarted : new.point ≠ .starting)
    (hsettled : old.point.settled = true) (hholds : new.holds = true → old.holds = true)
    (hbegins : new.begins = true → old.begins = true) : ThreadInv (s.put i new) := by
  have hasking : ∀ call, old.point ≠ .asking call := by
    intro call hpoint
    rw [hpoint] at hsettled
    cases hsettled
  have hwaiting : ∀ j, old.point ≠ .waiting j false := by
    intro j hpoint
    rw [hpoint] at hsettled
    cases hsettled
  refine h.put hold ⟨hprocess, hparent, hactorId, hstarted, Or.inl ?_, fun hnew => Or.inl (hholds hnew),
    ?_, hbegins, fun j hj => absurd hj (hwaiting j)⟩
  · rw [hreceived]
    refine (h.unread i old hold).resolve_right ?_
    rintro ⟨call, ack, hpoint, -⟩
    exact hasking call hpoint
  · rintro ⟨⟨call, hpoint⟩, -⟩
    exact absurd hpoint (hasking call)

theorem abandon {i : Nat} {thread : ClientThread} (h : ThreadInv s) (hi : s.threads[i]? = some thread)
    (hbegins : thread.begins = true) : ThreadInv (s.abandon i thread) := by
  have hput : ThreadInv (s.put i { thread with point := .ended }) :=
    h.quietMove hi rfl rfl (Or.inr rfl) rfl nofun (settled_of_begins hbegins) nofun nofun
  refine hput.post ?_
  intro x hx
  rw [getElem?_put hi, if_pos rfl, Option.some.injEq] at hx
  rw [← hx, ClientThread.begins]

/-- The acknowledgment of a thread that goes on. -/
theorem returns {i : Nat} {thread : ClientThread} {call : ThreadCall} {ack : DecisionAck}
    {rest : List DecisionAck} (h : ThreadInv s) (hi : s.threads[i]? = some thread)
    (hpoint : thread.point = .asking call) (hreceived : thread.received = ack :: rest) :
    ThreadInv (s.returns i { thread with received := rest } ack call).1 := by
  have hempty : rest = [] := by
    rcases h.unread i thread hi with hnone | ⟨_, ack', -, hone⟩
    · rw [hnone] at hreceived
      cases hreceived
    · rw [hone, List.cons.injEq] at hreceived
      exact hreceived.2.symm
  have hholds : thread.holds = true := by simp [ClientThread.holds, hpoint, hreceived]
  have hput : ∀ point : ThreadPoint, (ClientThread.begins { thread with point := point }) = false →
      ThreadInv (s.put i { thread with received := rest, point := point }) := by
    intro point hbegins
    refine h.put hi ⟨rfl, rfl, Or.inr rfl, ?_, Or.inl hempty, fun _ => Or.inl hholds, ?_, ?_, ?_⟩
    · rintro rfl
      cases hbegins
    · rintro ⟨-, hnone⟩
      rw [hnone] at hreceived
      cases hreceived
    · intro hnew
      replace hnew : (ClientThread.begins { thread with point := point }) = true := hnew
      rw [hbegins] at hnew
      cases hnew
    · intro j hj
      rw [hpoint] at hj
      cases hj
  have hlength : ∀ new, (s.put i new).threads.length = s.threads.length := fun new =>
    List.length_set
  cases call with
  | function type => exact hput .running rfl
  | firstYield => exact hput .running rfl
  | disconnect => exact hput .ended rfl
  | create actor =>
      simp only [ThreadSystem.returns]
      split
      · refine (hput (.waiting s.threads.length false) rfl).add rfl rfl (Or.inr ⟨i,
          { thread with received := rest, point := .waiting s.threads.length false }, rfl, ?_, ?_, rfl⟩)
        · rw [getElem?_put hi, if_pos rfl]
        · rw [hlength]
      · exact hput .running rfl
  | fork actor =>
      simp only [ThreadSystem.returns]
      split
      · exact (hput _ rfl).add rfl rfl (Or.inl ⟨(hlength _).symm, rfl⟩)
      · exact hput .running rfl

/-- The `CONNECT` of a thread has been accepted. -/
theorem accept {i : Nat} {thread : ClientThread} (h : ThreadInv s) (hi : s.threads[i]? = some thread)
    (hstarted : thread.point ≠ .starting) (hfirst : s.clients thread.actorId = none)
    (hconnected : s.server.serve.Connected thread.actorId) :
    ThreadInv { s with clients := Function.update s.clients thread.actorId (some i) } := by
  have hother : ∀ {p : Pid} {j : Nat}, s.clients p = some j →
      Function.update s.clients thread.actorId (some i) p = some j := by
    intro p j hp
    rw [Function.update_of_ne, hp]
    rintro rfl
    rw [hfirst] at hp
    cases hp
  have hcases : ∀ {p : Pid} {j : Nat}, Function.update s.clients thread.actorId (some i) p = some j →
      p = thread.actorId ∧ j = i ∨ s.clients p = some j := by
    intro p j hp
    by_cases heq : p = thread.actorId
    · subst heq
      rw [Function.update_self, Option.some.injEq] at hp
      exact Or.inl ⟨rfl, hp.symm⟩
    · rw [Function.update_of_ne heq] at hp
      exact Or.inr hp
  refine ⟨?_, ?_, h.unread, ?_, ?_, h.process, h.alone, h.parent⟩
  · intro p j hp
    rcases hcases hp with ⟨rfl, rfl⟩ | hp
    · exact ⟨thread, hi, rfl, hstarted⟩
    · exact h.client p j hp
  · intro p j hp
    rcases hcases hp with ⟨rfl, rfl⟩ | hp
    · exact hconnected
    · exact h.connected p j hp
  · intro j x hj hholds
    obtain ⟨hclient, hreads⟩ := h.holder j x hj hholds
    exact ⟨hother hclient, hreads⟩
  · intro p hworks
    obtain ⟨j, x, hp, hj, hasks⟩ := h.working p hworks
    exact ⟨j, x, hother hp, hj, hasks⟩

/-- An accepted `CONNECT` is the first one as its actor. -/
theorem unclaimed {p : Pid} {socket socket' : Socket} {server : Server K} {out : List ServerOutput}
    {ack : CommandAck} (h : ThreadInv s)
    (hstep : serverStep K platformFile s.server (.serve (.command socket (.connect { id := p }))) =
      some (server, out))
    (hanswer : commandAnswer out = some (socket', ack)) (hsuccess : ack.success = true) :
    s.clients p = none ∧ server.serve.Connected p := by
  obtain ⟨hfirst, hconnected⟩ := (serverStep_connect hstep hanswer).2.2 hsuccess
  refine ⟨?_, hconnected⟩
  cases hclient : s.clients p with
  | none => rfl
  | some i => exact absurd (h.connected p i hclient) hfirst

theorem connect {i : Nat} {thread : ClientThread} {socket socket' : Socket} {server : Server K}
    {out : List ServerOutput} {ack : CommandAck} (h : ThreadInv s) (hi : s.threads[i]? = some thread)
    (hpoint : thread.point = .connecting)
    (hstep : serverStep K platformFile s.server
      (.serve (.command socket (.connect { id := thread.actorId }))) = some (server, out))
    (hanswer : commandAnswer out = some (socket', ack)) :
    ThreadInv { server := server
                threads := s.threads.set i { thread with point := .accepted socket' ack }
                clients := if ack.success then
                  Function.update s.clients thread.actorId (some i) else s.clients } := by
  have hserver := h.server (serverStep_cases hstep) nofun nofun
  have hput : ThreadInv (({ s with server := server } : ThreadSystem K).put i
      { thread with point := .accepted socket' ack }) := by
    refine hserver.quietMove hi rfl rfl (Or.inr rfl) rfl nofun (settled_of_begins ?_) nofun fun _ => ?_
    all_goals rw [ClientThread.begins, hpoint]
  cases hsuccess : ack.success with
  | false => exact hput
  | true =>
      obtain ⟨hnone, hconnected⟩ := h.unclaimed hstep hanswer hsuccess
      have hi' : (({ s with server := server } : ThreadSystem K).put i
          { thread with point := .accepted socket' ack }).threads[i]? =
          some { thread with point := .accepted socket' ack } :=
        (getElem?_put (s := { s with server := server }) hi).trans (if_pos rfl)
      have haccepted := hput.accept hi' nofun hnone hconnected
      exact haccepted

/-- The running actor reads the decision of its thread. -/
theorem read {p : Pid} {i : Nat} {thread : ClientThread} {call : ThreadCall} {decision : Decision}
    {server : Server K} {out : List ServerOutput} (h : ThreadInv s)
    (hcurrent : s.server.simulation.current = some p) (hp : s.clients p = some i)
    (hi : s.threads[i]? = some thread) (hpoint : thread.point = .sent call decision)
    (hstep : ServerStep platformFile s.server (.simulation (.decision decision)) server out) :
    ThreadInv (s.put i { thread with point := .asking call }) ∧
      ServerMoved (s.put i { thread with point := .asking call }) server out
        ((s.put i { thread with point := .asking call }).serverMoves server out).1
        ((s.put i { thread with point := .asking call }).serverMoves server out).2 ∧
      ThreadInv ((s.put i { thread with point := .asking call }).serverMoves server out).1 := by
  have hnone : thread.received = [] := by
    refine (h.unread i thread hi).resolve_right ?_
    rintro ⟨call', ack, hasking, -⟩
    rw [hpoint] at hasking
    cases hasking
  have hput : ThreadInv (s.put i { thread with point := .asking call }) := by
    refine h.quietMove hi rfl rfl (Or.inr rfl) rfl nofun (by rw [hpoint]; rfl) (fun hholds => ?_) nofun
    simp [ClientThread.holds, hnone] at hholds
  have hdecision : ∀ d q, (ServerEvent.simulation (.decision decision) : ServerEvent K) =
      .simulation (.decision d) →
      (s.put i { thread with point := .asking call }).server.simulation.Reads q →
      ∃ j x, (s.put i { thread with point := .asking call }).clients q = some j ∧
        (s.put i { thread with point := .asking call }).threads[j]? = some x ∧ x.Asks := by
    intro _ q _ hreads
    have hq : q = p := Option.some.inj (hreads.current.symm.trans hcurrent)
    subst hq
    exact ⟨i, _, hp, (getElem?_put hi).trans (if_pos rfl), ⟨call, rfl⟩, hnone⟩
  exact ⟨hput, hput.serverMoves_cases hstep hdecision, hput.serverMoves hstep nofun hdecision⟩

end ThreadInv

/-- No actor fails to read from its client. -/
def NoReadError {K : S4u} (_ : ThreadSystem K) : ThreadEvent K → Prop
  | .server (.simulation (.readError _)) => False
  | _ => True

instance {K : S4u} (s : ThreadSystem K) (event : ThreadEvent K) : Decidable (NoReadError s event) := by
  unfold NoReadError
  split <;> infer_instance

theorem ThreadInv.step {t : ThreadSystem K} {event : ThreadEvent K} {out : List ThreadOutput}
    (h : ThreadInv s) (herror : NoReadError s event) (hstep : ThreadStep platformFile s event t out) :
    ThreadInv t := by
  cases hstep with
  | launched environment opening => exact h.add rfl rfl (Or.inl ⟨rfl, rfl⟩)
  | connecting i thread actorId hi hpoint =>
      refine h.quietMove hi rfl rfl (Or.inl hpoint) rfl nofun (settled_of_begins ?_) nofun fun _ => ?_
      all_goals rw [ClientThread.begins, hpoint]
  | abandoned _ i thread hi hpoint =>
      refine h.abandon hi ?_
      rcases hpoint with hpoint | hpoint | ⟨socket, ack, hpoint⟩ <;> rw [ClientThread.begins, hpoint]
  | connected i thread socket ack connection hi hpoint =>
      refine h.quietMove hi rfl rfl (Or.inr rfl) rfl nofun (settled_of_begins ?_) nofun fun _ => ?_
      all_goals rw [ClientThread.begins, hpoint]
  | posted i thread hi hpoint =>
      have hput : ThreadInv (s.put i { thread with point := .posted }) :=
        h.quietMove hi rfl rfl (Or.inr rfl) rfl nofun (by rw [hpoint]; rfl) nofun nofun
      refine hput.post ?_
      intro x hx
      rw [getElem?_put hi, if_pos rfl, Option.some.injEq] at hx
      rw [← hx, ClientThread.begins]
  | returned i thread call ack rest hi hpoint hreceived => exact h.returns hi hpoint hreceived
  | resumed i thread child hi hpoint =>
      refine h.quietMove hi rfl rfl (Or.inr rfl) rfl nofun (by rw [hpoint]; rfl) (fun _ => ?_) nofun
      rw [ClientThread.holds, hpoint]
  | sent i thread call connection elapsed hi hmay =>
      refine h.quietMove hi rfl rfl (Or.inr rfl) rfl nofun ?_ nofun nofun
      rcases mayCall_cases hmay with ⟨hpoint, -⟩ | ⟨hpoint, -⟩ | ⟨hpoint, -⟩ <;> rw [hpoint] <;> rfl
  | accepted i thread socket socket' server sent ack hi hpoint hserver hanswer =>
      exact h.connect hi hpoint hserver hanswer
  | read p i thread call decision server sent hcurrent hp hi hpoint hserver =>
      exact (h.read hcurrent hp hi hpoint (serverStep_cases hserver)).2.2
  | server event server sent halone hserver =>
      refine h.serverMoves (serverStep_cases hserver) ?_ ?_
      · rintro e rfl
        exact herror
      · rintro d p rfl -
        cases halone

/-! ### Exclusion -/

namespace ThreadInv

/-- The server waits for one thread at a time. -/
theorem holder_unique {i j : Nat} {first second : ClientThread} (h : ThreadInv s)
    (hi : s.threads[i]? = some first) (hj : s.threads[j]? = some second) (hfirst : first.holds = true)
    (hsecond : second.holds = true) : i = j := by
  obtain ⟨hclient, hreads⟩ := h.holder i first hi hfirst
  obtain ⟨hclient', hreads'⟩ := h.holder j second hj hsecond
  have hid : first.actorId = second.actorId :=
    Option.some.inj (hreads.reads.current.symm.trans hreads'.reads.current)
  rw [hid, hclient', Option.some.injEq] at hclient
  exact hclient.symm

/-- While a thread has not come to `sem_post`, the others of its process run no code. -/
theorem begins_exclusive {i j : Nat} {first second : ClientThread} (h : ThreadInv s)
    (hi : s.threads[i]? = some first) (hj : s.threads[j]? = some second)
    (hprocess : second.process = first.process) (hfirst : first.begins = true)
    (hsecond : second.executes = true) : j = i := by
  cases hparent : first.parent with
  | none => exact h.alone i j first second hi hj hfirst hparent hprocess
  | some p =>
      obtain ⟨waiter, hp, hwaiting⟩ := h.parent i first p hi hfirst hparent
      have hholds : waiter.holds = true := by rw [ClientThread.holds, hwaiting]
      rcases ClientThread.executes_cases hsecond with hbegins | hrunning
      · cases hparent' : second.parent with
        | none => exact (h.alone j i second first hj hi hbegins hparent' hprocess.symm).symm
        | some q =>
            obtain ⟨waiter', hq, hwaiting'⟩ := h.parent j second q hj hbegins hparent'
            have hpq := h.holder_unique hp hq hholds (by rw [ClientThread.holds, hwaiting'])
            subst hpq
            rw [hp, Option.some.injEq] at hq
            rw [← hq, hwaiting, ThreadPoint.waiting.injEq] at hwaiting'
            exact hwaiting'.1.symm
      · have hpj := h.holder_unique hp hj hholds (by rw [ClientThread.holds, hrunning])
        subst hpj
        rw [hp, Option.some.injEq] at hj
        rw [← hj, hwaiting] at hrunning
        cases hrunning

theorem exclusive {i j : Nat} {first second : ClientThread} (h : ThreadInv s)
    (hi : s.threads[i]? = some first) (hj : s.threads[j]? = some second)
    (hprocess : first.process = second.process) (hfirst : first.executes = true)
    (hsecond : second.executes = true) : i = j := by
  rcases ClientThread.executes_cases hfirst with hbegins | hrunning
  · exact (h.begins_exclusive hi hj hprocess.symm hbegins hsecond).symm
  · rcases ClientThread.executes_cases hsecond with hbegins | hrunning'
    · exact h.begins_exclusive hj hi hprocess hbegins hfirst
    · refine h.holder_unique hi hj ?_ ?_
      · rw [ClientThread.holds, hrunning]
      · rw [ClientThread.holds, hrunning']

/-- While the server waits for a thread, it acknowledges no other. -/
theorem acked_unheld {t : ThreadSystem K} {event : ThreadEvent K} {out : List ThreadOutput} (h : ThreadInv s)
    (hstep : ThreadStep platformFile s event t out) {j : Nat} {ack : DecisionAck}
    (hacked : .acked j ack ∈ out) {i : Nat} {thread : ClientThread} (hi : s.threads[i]? = some thread) :
    thread.holds = false := by
  have hserver : ∀ {u : ThreadSystem K} {server : Server K} {sent : List ServerOutput},
      decisionAcks sent = [] → ThreadOutput.acked j ack ∉ (u.serverMoves server sent).2 := by
    intro u server sent hnone hmem
    simp only [ThreadSystem.serverMoves, hnone, ThreadSystem.deliver, List.append_nil, List.mem_map,
      reduceCtorEq, and_false, exists_false] at hmem
  by_contra hholds
  rw [Bool.not_eq_false] at hholds
  obtain ⟨hclient, hreads⟩ := h.holder i thread hi hholds
  cases hstep with
  | read p k x call decision server sent hcurrent hp hk hpoint hserver' =>
      have hid : thread.actorId = p := Option.some.inj (hreads.reads.current.symm.trans hcurrent)
      rw [hid, hp, Option.some.injEq] at hclient
      subst hclient
      rw [hk, Option.some.injEq] at hi
      rw [← hi, ClientThread.holds, hpoint] at hholds
      cases hholds
  | server event server sent halone hserver' =>
      refine hserver ?_ hacked
      refine ((serverStep_cases hserver').of_reads hreads ?_).1
      rintro d rfl
      cases halone
  | accepted _ _ _ _ _ sent => simp at hacked
  | returned k x call _ rest =>
      cases call with
      | create | fork =>
          simp only [ThreadSystem.returns] at hacked
          split at hacked <;> simp at hacked
      | _ => simp [ThreadSystem.returns] at hacked
  | _ => simp at hacked

end ThreadInv

end

end RemoteSimgrid
