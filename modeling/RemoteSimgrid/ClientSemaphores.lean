import RemoteSimgrid.ClientThreadsRuns

/-! The semaphore of `Actor::create`: the thread that waits on it is woken exactly when the thread that it
created is past `sem_post`, connected or not, and the two need no one else for that once the `CONNECT` of
the created thread is answered. -/

namespace RemoteSimgrid

open Machine Pb

section

variable {K : S4u} {platformFile : String} {s t : ThreadSystem K} {out : List ThreadOutput}

/-- The thread is in `sem_wait`. -/
def ThreadPoint.waits : ThreadPoint → Bool
  | .waiting _ _ => true
  | _ => false

/-- A thread in `sem_wait` is the parent of the thread that it waits for, which runs `actor_wrapper`; the
semaphore is posted once this one does not begin any more. -/
structure SemaphoreInv (s : ThreadSystem K) : Prop where
  waits : ∀ (p : Nat) waiter (i : Nat) posted, s.threads[p]? = some waiter →
    waiter.point = .waiting i posted → ∃ child, s.threads[i]? = some child ∧ child.parent = some p ∧
      child.process = waiter.process ∧ posted = !child.begins
  wrapper : ∀ (i : Nat) thread p, s.threads[i]? = some thread → thread.parent = some p →
    ∃ actorId, thread.opening = .actorWrapper actorId

theorem getElem?_put_self {i : Nat} {old new : ClientThread} (hold : s.threads[i]? = some old) :
    (s.put i new).threads[i]? = some new := by
  rw [getElem?_put hold, if_pos rfl]

theorem getElem?_put_of_ne {i j : Nat} {new : ClientThread} (hne : j ≠ i) :
    (s.put i new).threads[j]? = s.threads[j]? := by
  rw [ThreadSystem.put, List.getElem?_set_ne (Ne.symm hne)]

/-- A fact about every thread, after one of them has moved. -/
theorem forall_put {P : ClientThread → Prop} {i : Nat} {old new : ClientThread}
    (hold : s.threads[i]? = some old) (h : ∀ (j : Nat) thread, s.threads[j]? = some thread → P thread)
    (hnew : P new) : ∀ (j : Nat) thread, (s.put i new).threads[j]? = some thread → P thread := by
  intro j thread hj
  by_cases hji : j = i
  · subst hji
    rw [getElem?_put_self hold, Option.some.injEq] at hj
    rwa [← hj]
  · rw [getElem?_put_of_ne hji] at hj
    exact h j thread hj

/-- `sem_post`, while the parent waits. -/
theorem post_waiting {i p : Nat} {waiter : ClientThread} (hp : s.threads[p]? = some waiter)
    (hwaiting : waiter.point = .waiting i false) :
    s.post i (some p) = s.put p { waiter with point := .waiting i true } := by
  simp only [ThreadSystem.post, hp, hwaiting, if_true]

theorem put_add {i : Nat} {old new thread : ClientThread} (hold : s.threads[i]? = some old) :
    (s.put i new).add thread = (s.add thread).put i new := by
  obtain ⟨hlt, -⟩ := List.getElem?_eq_some_iff.mp hold
  rw [ThreadSystem.put, ThreadSystem.add, ThreadSystem.add, ThreadSystem.put, List.set_append_left _ _ hlt]

namespace SemaphoreInv

theorem init : SemaphoreInv ({} : ThreadSystem K) where
  waits _ _ _ _ h := by cases h
  wrapper _ _ _ h := by cases h

theorem congr (h : SemaphoreInv s) (hthreads : t.threads = s.threads) : SemaphoreInv t := by
  refine ⟨?_, ?_⟩
  · rw [hthreads]
    exact h.waits
  · rw [hthreads]
    exact h.wrapper

/-- A thread that neither comes to `sem_post` nor is created moves. -/
theorem put {i : Nat} {old new : ClientThread} (h : SemaphoreInv s) (hold : s.threads[i]? = some old)
    (hprocess : new.process = old.process) (hparent : new.parent = old.parent)
    (hopening : new.opening = old.opening) (hbegins : new.begins = old.begins)
    (hwaits : ∀ j posted, new.point = .waiting j posted → ∃ child, s.threads[j]? = some child ∧
      child.parent = some i ∧ child.process = old.process ∧ posted = !child.begins) :
    SemaphoreInv (s.put i new) := by
  refine ⟨?_, ?_⟩
  · intro p waiter j posted hp hpoint
    obtain ⟨child, hj, hchild, hsame, hposted⟩ : ∃ child, s.threads[j]? = some child ∧
        child.parent = some p ∧ child.process = waiter.process ∧ posted = !child.begins := by
      by_cases hpi : p = i
      · subst hpi
        rw [getElem?_put_self hold, Option.some.injEq] at hp
        subst hp
        rw [hprocess]
        exact hwaits j posted hpoint
      · rw [getElem?_put_of_ne hpi] at hp
        exact h.waits p waiter j posted hp hpoint
    by_cases hji : j = i
    · subst hji
      rw [hold, Option.some.injEq] at hj
      subst hj
      refine ⟨new, getElem?_put_self hold, hparent.trans hchild, hprocess.trans hsame, ?_⟩
      rw [hbegins, hposted]
    · exact ⟨child, by rw [getElem?_put_of_ne hji, hj], hchild, hsame, hposted⟩
  · intro j thread p hj
    refine forall_put hold (fun j thread hj => h.wrapper j thread p hj) ?_ j thread hj
    rw [hopening, hparent]
    exact h.wrapper i old p hold

/-- A thread that is not in `sem_wait` after it. -/
theorem quietPut {i : Nat} {old new : ClientThread} (h : SemaphoreInv s)
    (hold : s.threads[i]? = some old) (hprocess : new.process = old.process)
    (hparent : new.parent = old.parent) (hopening : new.opening = old.opening)
    (hbegins : new.begins = old.begins) (hpoint : new.point.waits = false) :
    SemaphoreInv (s.put i new) := by
  refine h.put hold hprocess hparent hopening hbegins fun j posted hnew => ?_
  rw [hnew] at hpoint
  cases hpoint

theorem add {thread : ClientThread} (h : SemaphoreInv s) (hpoint : thread.point = .starting)
    (hopening : ∀ p, thread.parent = some p → ∃ actorId, thread.opening = .actorWrapper actorId) :
    SemaphoreInv (s.add thread) := by
  refine ⟨?_, ?_⟩
  · intro p waiter i posted hp hwaiting
    rcases getElem?_add.mp hp with hp | ⟨-, rfl⟩
    · obtain ⟨child, hi, hafter⟩ := h.waits p waiter i posted hp hwaiting
      exact ⟨child, getElem?_add.mpr (Or.inl hi), hafter⟩
    · rw [hpoint] at hwaiting
      cases hwaiting
  · intro i x p hi hp
    rcases getElem?_add.mp hi with hi | ⟨-, rfl⟩
    · exact h.wrapper i x p hi hp
    · exact hopening p hp

/-- A thread stops beginning, and posts the semaphore of its parent if it has one. -/
theorem finish {i : Nat} {old new : ClientThread} (h : SemaphoreInv s) (hinv : ThreadInv s)
    (hold : s.threads[i]? = some old) (hprocess : new.process = old.process)
    (hparent : new.parent = old.parent) (hopening : new.opening = old.opening)
    (hbegan : old.begins = true) (hbegins : new.begins = false)
    (hpoint : new.point.waits = false) : SemaphoreInv ((s.put i new).post i old.parent) := by
  -- what another thread waits for is not thread `i`, unless it is the parent
  have hother : ∀ {p j : Nat} {waiter : ClientThread} {posted : Bool},
      (s.put i new).threads[p]? = some waiter → waiter.point = .waiting j posted →
      old.parent ≠ some p → ∃ child, (s.put i new).threads[j]? = some child ∧ child.parent = some p ∧
        child.process = waiter.process ∧ posted = !child.begins := by
    intro p j waiter posted hp hwaiting hne
    have hpi : p ≠ i := by
      rintro rfl
      rw [getElem?_put_self hold, Option.some.injEq] at hp
      subst hp
      rw [hwaiting] at hpoint
      cases hpoint
    rw [getElem?_put_of_ne hpi] at hp
    obtain ⟨child, hj, hchild, hafter⟩ := h.waits p waiter j posted hp hwaiting
    have hji : j ≠ i := by
      rintro rfl
      rw [hold, Option.some.injEq] at hj
      exact hne (hj ▸ hchild)
    exact ⟨child, by rw [getElem?_put_of_ne hji, hj], hchild, hafter⟩
  have hwrapper : ∀ (j : Nat) thread p, (s.put i new).threads[j]? = some thread →
      thread.parent = some p → ∃ actorId, thread.opening = .actorWrapper actorId := by
    intro j thread p hj
    refine forall_put hold (fun j thread hj => h.wrapper j thread p hj) ?_ j thread hj
    rw [hopening, hparent]
    exact h.wrapper i old p hold
  cases hparent' : old.parent with
  | none =>
      refine ⟨fun p waiter j posted hp hwaiting => hother hp hwaiting ?_, hwrapper⟩
      rw [hparent']
      exact (Option.some_ne_none p).symm
  | some q =>
      obtain ⟨waiter, hq, hwaiting⟩ := hinv.parent i old q hold hbegan hparent'
      have hqi : q ≠ i := by
        rintro rfl
        rw [hold, Option.some.injEq] at hq
        rw [hq, ClientThread.begins, hwaiting] at hbegan
        cases hbegan
      have hq' : (s.put i new).threads[q]? = some waiter := by rw [getElem?_put_of_ne hqi, hq]
      obtain ⟨child, hi, -, hsame, -⟩ := h.waits q waiter i false hq hwaiting
      rw [hold, Option.some.injEq] at hi
      subst hi
      rw [post_waiting hq' hwaiting]
      refine ⟨?_, ?_⟩
      · intro p x j posted hp hx
        by_cases hpq : p = q
        · subst hpq
          rw [getElem?_put_self hq', Option.some.injEq] at hp
          subst hp
          cases hx
          refine ⟨new, ?_, hparent.trans hparent', hprocess.trans hsame, by rw [hbegins]; rfl⟩
          rw [getElem?_put_of_ne (Ne.symm hqi), getElem?_put_self hold]
        · rw [getElem?_put_of_ne hpq] at hp
          have hne : old.parent ≠ some p := by
            rw [hparent']
            rintro heq
            exact hpq (Option.some.inj heq).symm
          obtain ⟨child, hj, hchild, hsame', hposted⟩ := hother hp hx hne
          by_cases hjq : j = q
          · subst hjq
            rw [hq', Option.some.injEq] at hj
            subst hj
            refine ⟨_, getElem?_put_self hq', hchild, hsame', ?_⟩
            rw [hposted, ClientThread.begins, ClientThread.begins, hwaiting]
          · exact ⟨child, by rw [getElem?_put_of_ne hjq, hj], hchild, hsame', hposted⟩
      · intro j thread p hj
        refine forall_put hq' (fun j thread hj => hwrapper j thread p hj) ?_ j thread hj
        exact hwrapper q waiter p hq'

/-- The acknowledgment of a thread that goes on. -/
theorem returns {i : Nat} {thread : ClientThread} {call : ThreadCall} {ack : DecisionAck}
    {rest : List DecisionAck} (h : SemaphoreInv s) (hi : s.threads[i]? = some thread)
    (hpoint : thread.point = .asking call) :
    SemaphoreInv (s.returns i { thread with received := rest } ack call).1 := by
  have hbegins : thread.begins = false := by rw [ClientThread.begins, hpoint]
  have hrunning : SemaphoreInv (s.put i { thread with received := rest, point := .running }) :=
    h.quietPut hi rfl rfl rfl (by rw [hbegins, ClientThread.begins]) rfl
  cases call with
  | function type => exact hrunning
  | firstYield => exact hrunning
  | disconnect => exact h.quietPut hi rfl rfl rfl (by rw [hbegins, ClientThread.begins]) rfl
  | create actor =>
      simp only [ThreadSystem.returns]
      split
      · rw [put_add hi]
        have hadded : SemaphoreInv (s.add { process := thread.process, environment := thread.environment
                                            opening := .actorWrapper ack.actorCreate.id
                                            parent := some i }) :=
          h.add rfl fun _ _ => ⟨_, rfl⟩
        refine hadded.put (getElem?_add.mpr (Or.inl hi)) rfl rfl rfl ?_ ?_
        · rw [hbegins, ClientThread.begins]
        · intro j posted hwaiting
          cases hwaiting
          exact ⟨_, getElem?_add.mpr (Or.inr ⟨rfl, rfl⟩), rfl, rfl, rfl⟩
      · exact hrunning
  | fork actor =>
      simp only [ThreadSystem.returns]
      split
      · exact hrunning.add rfl fun _ hp => by cases hp
      · exact hrunning

theorem moved {server : Server K} {sent : List ServerOutput} (h : SemaphoreInv s)
    (hmoved : ServerMoved s server sent t out) : SemaphoreInv t := by
  have hserver : SemaphoreInv ({ s with server := server } : ThreadSystem K) := h.congr rfl
  cases hmoved with
  | quiet => exact hserver
  | acked i thread ack hi hasks =>
      obtain ⟨⟨call, hpoint⟩, -⟩ := hasks
      refine hserver.quietPut hi rfl rfl rfl rfl ?_
      show thread.point.waits = false
      rw [hpoint]
      rfl

theorem step {event : ThreadEvent K} (h : SemaphoreInv s) (hinv : ThreadInv s)
    (hstep : ThreadStep platformFile s event t out) : SemaphoreInv t := by
  cases hstep with
  | launched environment opening => exact h.add rfl fun _ hp => by cases hp
  | connecting i thread actorId hi hpoint =>
      refine h.quietPut hi rfl rfl rfl ?_ rfl
      rw [ClientThread.begins, ClientThread.begins, hpoint]
  | abandoned _ i thread hi hpoint =>
      have hbegins : thread.begins = true := by
        rcases hpoint with hpoint | hpoint | ⟨socket, ack, hpoint⟩ <;> rw [ClientThread.begins, hpoint]
      have hfinished : SemaphoreInv ((s.put i { thread with point := .ended }).post i thread.parent) :=
        h.finish hinv hi rfl rfl rfl hbegins rfl rfl
      exact hfinished
  | connected i thread socket ack connection hi hpoint =>
      refine h.quietPut hi rfl rfl rfl ?_ rfl
      rw [ClientThread.begins, ClientThread.begins, hpoint]
  | posted i thread hi hpoint =>
      have hbegins : thread.begins = true := by rw [ClientThread.begins, hpoint]
      exact h.finish hinv hi rfl rfl rfl hbegins rfl rfl
  | returned i thread call ack rest hi hpoint => exact h.returns hi hpoint
  | resumed i thread child hi hpoint =>
      refine h.quietPut hi rfl rfl rfl ?_ rfl
      rw [ClientThread.begins, ClientThread.begins, hpoint]
  | sent i thread call connection elapsed hi hmay =>
      rcases mayCall_cases hmay with ⟨hpoint, -⟩ | ⟨hpoint, hparent, -⟩ | ⟨hpoint, -⟩
      · refine h.quietPut hi rfl rfl rfl ?_ rfl
        rw [ClientThread.begins, ClientThread.begins, hpoint]
      · have hbegins : thread.begins = true := by rw [ClientThread.begins, hpoint]
        have hfinished : SemaphoreInv ((s.put i
            { thread with point := .sent call (call.decision connection elapsed) }).post i thread.parent) :=
          h.finish hinv hi rfl rfl rfl hbegins rfl rfl
        have hnone : ∀ u : ThreadSystem K, u.post i thread.parent = u := by
          intro u
          rw [hparent, ThreadSystem.post]
        rwa [hnone] at hfinished
      · refine h.quietPut hi rfl rfl rfl ?_ rfl
        rw [ClientThread.begins, ClientThread.begins, hpoint]
  | accepted i thread socket socket' server sent ack hi hpoint =>
      have hput : SemaphoreInv (s.put i { thread with point := .accepted socket' ack }) := by
        refine h.quietPut hi rfl rfl rfl ?_ rfl
        rw [ClientThread.begins, ClientThread.begins, hpoint]
      exact hput.congr rfl
  | read p i thread call decision server sent hcurrent hp hi hpoint hserver =>
      have hput : SemaphoreInv (s.put i { thread with point := .asking call }) := by
        refine h.quietPut hi rfl rfl rfl ?_ rfl
        rw [ClientThread.begins, ClientThread.begins, hpoint]
      exact hput.moved (hinv.read hcurrent hp hi hpoint (serverStep_cases hserver)).2.1
  | server event server sent halone hserver =>
      refine h.moved (hinv.serverMoves_cases (serverStep_cases hserver) ?_)
      rintro d p rfl -
      cases halone

end SemaphoreInv

/-! ### Progress -/

/-- Thread `p` gets out of `sem_wait` within `n` steps of its own and of thread `i`. -/
def WakesWithin (platformFile : String) (s : ThreadSystem K) (p i n : Nat) : Prop :=
  ∃ steps t out, steps.length ≤ n ∧ (∀ event ∈ steps, event = .proceed i ∨ event = .proceed p) ∧
    Run (threadStep K platformFile) s steps t out ∧
    ∃ waiter, t.threads[p]? = some waiter ∧ waiter.point = .running

theorem WakesWithin.before {p i n : Nat} (h : WakesWithin platformFile t p i n)
    (hstep : threadStep K platformFile s (.proceed i) = some (t, out)) :
    WakesWithin platformFile s p i (n + 1) := by
  obtain ⟨steps, u, rest, hlength, hsteps, hrun, hrunning⟩ := h
  refine ⟨.proceed i :: steps, u, out ++ rest, Nat.succ_le_succ hlength, ?_, Run.cons hstep hrun, hrunning⟩
  exact List.forall_mem_cons.mpr ⟨Or.inl rfl, hsteps⟩

/-- `sem_wait` returns on a semaphore that is posted. -/
theorem wakes_of_posted {p i : Nat} {waiter : ClientThread} (hp : s.threads[p]? = some waiter)
    (hwaiting : waiter.point = .waiting i true) : WakesWithin platformFile s p i 1 := by
  have hstep : threadStep K platformFile s (.proceed p) =
      some (s.put p { waiter with point := .running }, []) := by
    simp only [threadStep, hp, ThreadSystem.proceed, hwaiting]
  refine ⟨[.proceed p], _, _, le_rfl, ?_, Run.cons hstep Run.nil, _, getElem?_put_self hp, rfl⟩
  exact List.forall_mem_singleton.mpr (Or.inr rfl)

theorem WakesWithin.mono {p i n m : Nat} (h : WakesWithin platformFile s p i n) (hle : n ≤ m) :
    WakesWithin platformFile s p i m := by
  obtain ⟨steps, t, out, hlength, hafter⟩ := h
  exact ⟨steps, t, out, hlength.trans hle, hafter⟩

/-- The created thread posts, and its parent goes on. -/
theorem wakes_of_post {p i : Nat} {new waiter : ClientThread} (hp : s.threads[p]? = some waiter)
    (hwaiting : waiter.point = .waiting i false) (hne : p ≠ i)
    (hstep : threadStep K platformFile s (.proceed i) = some ((s.put i new).post i (some p), out)) :
    WakesWithin platformFile s p i 2 := by
  have hp' : (s.put i new).threads[p]? = some waiter := by rw [getElem?_put_of_ne hne, hp]
  rw [post_waiting hp' hwaiting] at hstep
  exact (wakes_of_posted (getElem?_put_self hp') rfl).before hstep

theorem wakes_of_connected {p i : Nat} {thread waiter : ClientThread} (hi : s.threads[i]? = some thread)
    (hparent : thread.parent = some p) (hpoint : thread.point = .connected)
    (hp : s.threads[p]? = some waiter) (hwaiting : waiter.point = .waiting i false) (hne : p ≠ i) :
    WakesWithin platformFile s p i 2 := by
  have hpost : ∀ u : ThreadSystem K, u.post i thread.parent = u.post i (some p) := fun u => by rw [hparent]
  have hstep : threadStep K platformFile s (.proceed i) =
      some ((s.put i { thread with point := .posted }).post i (some p), []) := by
    simp only [threadStep, hi, ThreadSystem.proceed, hpoint, hpost]
    rw [if_pos (by rw [hparent]; rfl)]
  exact wakes_of_post hp hwaiting hne hstep

/-- The answer to the `CONNECT` of a created thread makes its parent go on, with or without success. -/
theorem wakes_of_accepted {p i : Nat} {thread waiter : ClientThread} {socket : Socket} {ack : CommandAck}
    (hi : s.threads[i]? = some thread) (hparent : thread.parent = some p)
    (hpoint : thread.point = .accepted socket ack) (hp : s.threads[p]? = some waiter)
    (hwaiting : waiter.point = .waiting i false) (hne : p ≠ i) : WakesWithin platformFile s p i 3 := by
  cases hconnection : (Connection.ofServer thread.environment thread.actorId socket ack).2 with
  | ok connection =>
      have hstep : threadStep K platformFile s (.proceed i) =
          some (s.put i { thread with point := .connected, connection := some connection }, []) := by
        simp only [threadStep, hi, ThreadSystem.proceed, hpoint, hconnection]
      have hi' : (s.put i { thread with point := .connected, connection := some connection }).threads[i]? =
          some { thread with point := .connected, connection := some connection } :=
        getElem?_put_self hi
      have hp' : (s.put i { thread with point := .connected, connection := some connection }).threads[p]? =
          some waiter := by
        rw [getElem?_put_of_ne hne, hp]
      exact (wakes_of_connected hi' hparent rfl hp' hwaiting hne).before hstep
  | error e =>
      have hstep : threadStep K platformFile s (.proceed i) =
          some ((s.put i { thread with point := .ended }).post i (some p), []) := by
        rw [← hparent]
        simp only [threadStep, hi, ThreadSystem.proceed, hpoint, hconnection, ThreadSystem.abandon]
      exact (wakes_of_post hp hwaiting hne hstep).mono (by omega)

/-- As long as no connection fails, a thread in the `sem_wait` of `Actor::create` waits for a thread of its
process that it has created, and the semaphore is posted just when that one is past `sem_post`, by its
connection or by an error. Until then that thread can go on, unless the server has not answered its
`CONNECT` yet; once it has, the two threads alone get the parent out of `sem_wait`. -/
theorem sem_wait_returns {events : List (ThreadEvent K)} {trace : List ThreadOutput}
    (hrun : Run (threadStep K platformFile) {} events s trace)
    (hread : Throughout (threadStep K platformFile) NoReadError {} events) {p i : Nat}
    {waiter : ClientThread} {posted : Bool} (hp : s.threads[p]? = some waiter)
    (hwaiting : waiter.point = .waiting i posted) :
    ∃ child, s.threads[i]? = some child ∧ child.parent = some p ∧ child.process = waiter.process ∧
      posted = !child.begins ∧
      (child.point = .starting → (threadStep K platformFile s (.proceed i)).isSome = true) ∧
      (child.point ≠ .starting → child.point ≠ .connecting → WakesWithin platformFile s p i 3) := by
  have hinv : ThreadInv s ∧ SemaphoreInv s := by
    refine hrun.guarded_invariant (P := fun _ s _ => ThreadInv s ∧ SemaphoreInv s) hread
      ⟨ThreadInv.init, SemaphoreInv.init⟩ ?_
    intro _ _ _ _ _ _ _ hinv hevent hstep
    have hcases := threadStep_cases hstep
    exact ⟨hinv.1.step hevent hcases, hinv.2.step hinv.1 hcases⟩
  obtain ⟨child, hi, hparent, hprocess, hposted⟩ := hinv.2.waits p waiter i posted hp hwaiting
  refine ⟨child, hi, hparent, hprocess, hposted, ?_, ?_⟩
  · intro hstarting
    obtain ⟨actorId, hopening⟩ := hinv.2.wrapper i child p hi hparent
    simp only [threadStep, hi, ThreadSystem.proceed, hstarting, hopening, Opening.start]
    split_ifs
    · rfl
    · cases RemoteSimgrid.connect child.environment none actorId <;> rfl
  · intro hstarting hconnecting
    cases hbegins : child.begins with
    | false =>
        rw [hbegins] at hposted
        rw [hposted] at hwaiting
        exact (wakes_of_posted hp hwaiting).mono (by omega)
    | true =>
        rw [hbegins] at hposted
        rw [hposted] at hwaiting
        have hne : p ≠ i := by
          rintro rfl
          rw [hp, Option.some.injEq] at hi
          rw [← hi, ClientThread.begins, hwaiting] at hbegins
          cases hbegins
        cases hpoint : child.point with
        | starting => exact absurd hpoint hstarting
        | connecting => exact absurd hpoint hconnecting
        | accepted socket ack => exact wakes_of_accepted hi hparent hpoint hp hwaiting hne
        | connected => exact (wakes_of_connected hi hparent hpoint hp hwaiting hne).mono (by omega)
        | _ => simp only [ClientThread.begins, hpoint, Bool.false_eq_true] at hbegins

end

/-- The first 24 steps end with the answer to the `CONNECT` of the created thread. -/
theorem sem_wait_returns_created : ∃ s trace waiter,
    Run (threadStep permissiveS4u "platform.xml") {} (createdThreadEvents.take 24) s trace ∧
      s.threads[0]? = some waiter ∧ waiter.point = .waiting 1 false ∧
      WakesWithin "platform.xml" s 0 1 3 := by
  have hexec : (exec (threadStep permissiveS4u "platform.xml") {} (createdThreadEvents.take 24)).any
      (fun reached => reached.1.threads[0]?.map (·.point) == some (.waiting 1 false) &&
        reached.1.threads[1]?.all fun child =>
          decide (child.point ≠ .starting) && decide (child.point ≠ .connecting)) = true := by
    decide +kernel
  obtain ⟨s, trace, hrun, hcheck⟩ := Run.of_check hexec
  rw [Bool.and_eq_true, beq_iff_eq] at hcheck
  obtain ⟨waiter, hp, hwaiting⟩ := Option.map_eq_some_iff.mp hcheck.1
  have hread : Throughout (threadStep permissiveS4u "platform.xml") NoReadError {}
      (createdThreadEvents.take 24) := Throughout.of_check (by decide +kernel)
  obtain ⟨child, hi, -, -, -, -, hwakes⟩ := sem_wait_returns hrun hread hp hwaiting
  have hchild := hcheck.2
  rw [hi, Option.all_some, Bool.and_eq_true, decide_eq_true_eq, decide_eq_true_eq] at hchild
  exact ⟨s, trace, waiter, hrun, hp, hwaiting, hwakes hchild.1 hchild.2⟩

end RemoteSimgrid
