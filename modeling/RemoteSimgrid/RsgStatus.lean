import RemoteSimgrid.RsgAddActor
import RemoteSimgrid.ServeRuns

/-! `rsg start`, and `rsg status`: its attempts to connect, and the number that it prints, which is the
number of actors that a client has connected as. -/

namespace RemoteSimgrid

open Machine Pb Raising

section

variable {calls : RsgCalls} {p : RsgProcess}

/-- The attempts go on to the first that succeeds, or to the first that fails too late. -/
theorem connectWithin_ends (timeout : Int) (attempts : List (Error × Nat)) :
    (∀ attempt ∈ attempts, (attempt.2 : Int) < timeout) ∧
        ending (connectWithin timeout attempts) p = (.ok (), p) ∨
      ∃ before attempt after, attempts = before ++ attempt :: after ∧
        (∀ attempt ∈ before, (attempt.2 : Int) < timeout) ∧ timeout ≤ (attempt.2 : Int) ∧
        ending (connectWithin timeout attempts) p = (.error attempt.1, p) := by
  induction attempts with
  | nil => exact Or.inl ⟨(fun attempt hattempt => by cases hattempt), rfl⟩
  | cons first attempts ih =>
      obtain ⟨e, elapsed⟩ := first
      unfold connectWithin
      by_cases hlt : (elapsed : Int) < timeout
      · rw [if_pos hlt]
        rcases ih with ⟨hall, hends⟩ | ⟨before, attempt, after, rfl, hbefore, hlate, hends⟩
        · exact Or.inl ⟨List.forall_mem_cons.mpr ⟨hlt, hall⟩, hends⟩
        · exact Or.inr ⟨(e, elapsed) :: before, attempt, after, rfl,
            List.forall_mem_cons.mpr ⟨hlt, hbefore⟩, hlate, hends⟩
      · rw [if_neg hlt]
        exact Or.inr ⟨[], (e, elapsed), attempts, rfl, (fun _ h => by cases h), Int.not_lt.mp hlt, rfl⟩

/-- The line that `status` prints. -/
def connectedActorsLine (count : Nat) : String :=
  "\x7b\"nb_connected_actors\":" ++ toString count ++ "\x7d\n"

theorem status_ends {timeout : Int} {attempts : List (Error × Nat)} {ack : CommandAck}
    (hack : calls.conversation (.status true) = .acked ack) (hsuccess : ack.success = true)
    (hattempts : ending (connectWithin timeout attempts) p = (.ok (), p)) :
    ending (status calls timeout attempts) p =
      (.ok 0, (p.send (.status true)).print (connectedActorsLine (ack.status.getD {}).nbConnectedActors)) := by
  have hconverse : ending (converse calls (.status true)) p = (.ok ack, p.send (.status true)) := by
    unfold converse
    rw [hack]
    rfl
  unfold status reporting order
  rw [ending_tryCatch_ok]
  rw [ending_bind_ok hattempts, ending_bind_ok hconverse, if_pos hsuccess]
  rfl

/-- In every state of the server, `status` is answered, leaves the server as it is, and prints how many
actors a client has connected as, unless one of its attempts to connect fails too late: then it prints the
error of the first of these and sends nothing. -/
theorem status_prints_connected {events : List ServeEvent} {s : Serve} {trace : List ServeOutput}
    (hrun : Run serveStep {} events s trace) (hfits : (acceptedIds trace).length + 1 < 2 ^ 31)
    (hstate : s.serverState ≠ .simulationFinished) {socket : Socket}
    (hsocket : socket ∈ s.barelyConnectedSockets) :
    ∃ t ack, serveStep s (.command socket (.status true)) = some (t, [.writeCommandAck socket ack]) ∧
      t = s.afterCommand socket true ∧
      ∀ (calls : RsgCalls) (p : RsgProcess) (timeout : Int) (attempts : List (Error × Nat)),
        calls.conversation (.status true) = .acked ack →
        (∀ attempt ∈ attempts, (attempt.2 : Int) < timeout) ∧
            ending (status calls timeout attempts) p =
              (.ok 0, (p.send (.status true)).print
                (connectedActorsLine (connectedEntries s.actorConnections))) ∨
          ∃ before attempt after, attempts = before ++ attempt :: after ∧
            (∀ attempt ∈ before, (attempt.2 : Int) < timeout) ∧ timeout ≤ (attempt.2 : Int) ∧
            ending (status calls timeout attempts) p = (.ok 1, p.print (attempt.1.what ++ "\n")) := by
  have hinv := launchInv_run hrun hfits
  refine ⟨_, { success := true, status := some { nbConnectedActors := s.nbConnectedActors } }, ?_, rfl, ?_⟩
  · simp only [serveStep, if_neg hstate, if_pos hsocket, Serve.handleCommand]
  intro calls p timeout attempts hack
  rcases connectWithin_ends timeout attempts with
    ⟨hall, hends⟩ | ⟨before, attempt, after, hsplit, hbefore, hlate, hends⟩
  · refine Or.inl ⟨hall, ?_⟩
    rw [status_ends hack rfl hends, ← hinv.counted]
    rfl
  · refine Or.inr ⟨before, attempt, after, hsplit, hbefore, hlate, ?_⟩
    unfold status reporting
    rw [ending_tryCatch_error (ending_bind_error hends)]
    rfl

end

/-- Two actors, one of which has a client, and a third socket. -/
def oneClientEvents : List ServeEvent :=
  [.accept 5, .command 5 launchOptions.registration, .accept 6, .command 6 launchOptions.registration,
    .accept 7, .command 7 (.connect { id := 3 }), .accept 8]

/-- One attempt has failed after three milliseconds. -/
theorem status_prints_connected_one : ∃ s trace t ack, Run serveStep {} oneClientEvents s trace ∧
    serveStep s (.command 8 (.status true)) = some (t, [.writeCommandAck 8 ack]) ∧
    ending (status { launchCalls with conversation := fun _ => .acked ack } 10
        [(⟨"Cannot connect"⟩, 3)]) {} =
      (.ok 0, (RsgProcess.send {} (.status true)).print (connectedActorsLine 1)) := by
  have hexec : (exec serveStep {} oneClientEvents).any (fun result =>
      decide ((acceptedIds result.2).length + 1 < 2 ^ 31) &&
        decide (result.1.serverState ≠ .simulationFinished) &&
        decide (8 ∈ result.1.barelyConnectedSockets) &&
        decide (connectedEntries result.1.actorConnections = 1)) = true := by
    decide +kernel
  obtain ⟨s, trace, hrun, hcheck⟩ := Run.of_check hexec
  simp only [Bool.and_eq_true, decide_eq_true_eq] at hcheck
  obtain ⟨⟨⟨hfits, hstate⟩, hsocket⟩, hcount⟩ := hcheck
  obtain ⟨t, ack, hstep, -, hprints⟩ := status_prints_connected hrun hfits hstate hsocket
  refine ⟨s, trace, t, ack, hrun, hstep, ?_⟩
  rcases hprints { launchCalls with conversation := fun _ => .acked ack } {} 10 [(⟨"Cannot connect"⟩, 3)] rfl with
    ⟨-, hends⟩ | ⟨before, attempt, after, hsplit, -, hlate, -⟩
  · rw [hcount] at hends
    exact hends
  · have hmem : attempt ∈ [((⟨"Cannot connect"⟩ : Error), 3)] := hsplit ▸ by simp
    rw [List.mem_singleton.mp hmem] at hlate
    exact absurd hlate (by decide)

/-! ### The start -/

/-- A server obeys `START` just if it accepts actors, and `start` returns 0 when it is told so. In the other
states the server raises an error. -/
theorem start_obeyed {s : Serve} {socket : Socket} (hsocket : socket ∈ s.barelyConnectedSockets) :
    ((serveStep s (.command socket (.start true))).isSome ↔ s.serverState = .acceptingNewActors) ∧
    ∀ t out, serveStep s (.command socket (.start true)) = some (t, out) →
      (t.serverState = .simulationRunning ∨ t.serverState = .waitingForAllActorsConnection) ∧
      ∃ ack, out = [.writeCommandAck socket ack] ∧
        ∀ (calls : RsgCalls) (p : RsgProcess), calls.conversation (.start true) = .acked ack →
          ∃ q, ending (start calls) p = (.ok 0, q) ∧ q.sent = p.sent ++ [.start true] := by
  have hreturns : ∀ (calls : RsgCalls) (p : RsgProcess),
      calls.conversation (.start true) = .acked { success := true } →
        ∃ q, ending (start calls) p = (.ok 0, q) ∧ q.sent = p.sent ++ [.start true] := by
    intro calls p hack
    have hsilent : ∀ _ : CommandAck, Triple (fun q => q = p.send (.start true)) (pure () : RsgAction Unit)
        (fun _ q => q.sent = (p.send (.start true)).sent) (fun _ _ => False) :=
      fun _ => Triple.returns fun q hq => by rw [hq]
    have hends : Triple (fun q => q = p) (start calls)
        (fun returnCode q => (returnCode = 0 ↔ ∃ ack, calls.conversation (.start true) = .acked ack ∧
          ack.success = true) ∧ q.sent = p.sent ++ calls.reaching (.start true)) (fun _ _ => False) :=
      order_ends "start" (.start true) hsilent
    specialize hends p rfl
    rcases hending : ending (start calls) p with ⟨e | code, q⟩
    · rw [hending] at hends
      exact hends.elim
    · rw [hending] at hends
      obtain ⟨hcode, hsent⟩ := hends
      obtain rfl := hcode.mpr ⟨_, hack, rfl⟩
      rw [RsgCalls.reaching, hack] at hsent
      exact ⟨q, rfl, hsent⟩
  by_cases hstate : s.serverState = .acceptingNewActors
  · have hrunning : s.serverState ≠ .simulationFinished := by
      rw [hstate]
      decide
    simp only [serveStep, if_neg hrunning, if_pos hsocket, Serve.handleCommand, rsgEnforce, if_pos hstate]
    by_cases hall : s.nbConnectedActors = s.actorConnections.size
    · simp only [if_pos hall]
      refine ⟨iff_of_true rfl hstate, ?_⟩
      rintro t out heq
      cases heq
      exact ⟨Or.inl rfl, _, rfl, hreturns⟩
    · simp only [if_neg hall]
      refine ⟨iff_of_true rfl hstate, ?_⟩
      rintro t out heq
      cases heq
      exact ⟨Or.inr rfl, _, rfl, hreturns⟩
  · have hnone : serveStep s (.command socket (.start true)) = none := by
      by_cases hfinished : s.serverState = .simulationFinished
      · simp only [serveStep, if_pos hfinished]
      · simp only [serveStep, if_neg hfinished, if_pos hsocket, Serve.handleCommand, rsgEnforce,
          if_neg hstate]
    rw [hnone]
    refine ⟨iff_of_false Bool.false_ne_true hstate, ?_⟩
    rintro t out heq
    cases heq

end RemoteSimgrid
