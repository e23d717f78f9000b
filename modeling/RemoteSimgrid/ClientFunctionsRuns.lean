import RemoteSimgrid.ClientFunctions

/-! The functions that are not about messages along the runs of the server and its clients: the S4U call
of a function is made once, between the moment at which the server looks at its decision and the
acknowledgment. -/

namespace RemoteSimgrid

open Machine Pb

/-! ### What is served -/

/-- The output is a dispatch or a served call. -/
def SimOutput.counts : SimOutput → Bool
  | .dispatched _ _ | .served _ _ _ => true
  | _ => false

theorem servedSince_append (p : Pid) (log : List (S4uCall × S4uReturn)) (out out' : List SimOutput) :
    servedSince p log (out ++ out') = servedSince p (servedSince p log out) out' := by
  induction out generalizing log with
  | nil => rfl
  | cons o out ih =>
      cases o with
      | dispatched | served => exact ih _
      | _ => exact ih log

theorem servedSince_uncounted (p : Pid) (log : List (S4uCall × S4uReturn)) {out : List SimOutput}
    (h : ∀ o ∈ out, o.counts = false) : servedSince p log out = log := by
  induction out with
  | nil => rfl
  | cons o out ih =>
      have hrest := ih fun o' ho => h o' (List.mem_cons_of_mem _ ho)
      have ho := h o List.mem_cons_self
      cases o with
      | dispatched | served => cases ho
      | _ => exact hrest

/-- The server looks at no decision of an actor. -/
def Unlooked (p : Pid) (out : List SimOutput) : Prop := ∀ d, .dispatched p d ∉ out

theorem unlooked_of_uncounted (p : Pid) {out : List SimOutput} (h : ∀ o ∈ out, o.counts = false) :
    Unlooked p out := by
  intro d hd
  have hcounts := h _ hd
  cases hcounts

/-! ### The invariant -/

/-- The handler of a decision makes a call with a memory in which it was looked at, and waits with a
frame. -/
def Issues (K : S4u) (p : Pid) (looked : Memory → Prop) (d : Decision) (call : S4uCall) (frame : Frame) :
    Prop :=
  ∃ k m, looked m ∧ Owned m ∧ (switchDecision K k p d m).outcome = .call call frame

def Frame.Issued (K : S4u) (p : Pid) (looked : Memory → Prop) (asked : Option Decision) (call : S4uCall)
    (frame : Frame) : Prop :=
  match frame with
  | .firstYield _ => True
  | .thinkTime d => asked = some d
  | frame => ∃ d, asked = some d ∧ Issues K p looked d call frame

/-- A handler that is suspended has made one call, which is served when it returns. -/
def ActorPoint.Issued (K : S4u) (p : Pid) (looked : Memory → Prop) (asked : Option Decision)
    (served : List (S4uCall × S4uReturn)) : ActorPoint → Prop
  | .calling call frame => frame.Issued K p looked asked call ∧ (frame.ofLoop = false → served = [])
  | .returned ret frame => ∃ call, frame.Issued K p looked asked call ∧
      (frame.ofLoop = false → served = [(call, ret)])
  | .waitingCanConnectAck _ child => ∃ d call canConnectAck connectAck, asked = some d ∧
      Issues K p looked d call (.actorCreate canConnectAck connectAck) ∧ served = [(call, .pid child)]
  | _ => True

/-- The decisions of the clients, and what has been served for each of them. -/
def AllIssued {K : S4u} (asked : Pid → Option Decision) (looked : Pid → Memory → Prop)
    (trace : List SimOutput) (s : Simulation K) : Prop :=
  ∀ p point, s.point p = some point → point.Issued K p (looked p) (asked p) (servedSince p [] trace)

section

variable {K : S4u} {s t : Simulation K} {event : SimEvent K} {out trace : List SimOutput} {p : Pid}
  {socket : Socket} {segment : Segment} {asked : Option Decision} {looked looked' : Memory → Prop}

theorem Issues.ofLoop {d : Decision} {call : S4uCall} {frame : Frame}
    (h : Issues K p looked d call frame) : frame.ofLoop = false := by
  obtain ⟨k, m, -, howned, houtcome⟩ := h
  exact Suspends.ofLoop ⟨m, _, howned, switchDecision_switched, houtcome⟩

theorem Issues.mono {d : Decision} {call : S4uCall} {frame : Frame} (h : Issues K p looked d call frame)
    (hlooked : ∀ m, looked m → looked' m) : Issues K p looked' d call frame := by
  obtain ⟨k, m, hm, howned, houtcome⟩ := h
  exact ⟨k, m, hlooked m hm, howned, houtcome⟩

theorem Issues.issued {d : Decision} {call : S4uCall} {frame : Frame}
    (h : Issues K p looked d call frame) (hasked : asked = some d) :
    frame.Issued K p looked asked call := by
  have hloop := h.ofLoop
  cases frame with
  | firstYield => cases hloop
  | thinkTime => cases hloop
  | _ => exact ⟨d, hasked, h⟩

theorem Frame.Issued.issues {call : S4uCall} {frame : Frame} (h : frame.Issued K p looked asked call)
    (hloop : frame.ofLoop = false) : ∃ d, asked = some d ∧ Issues K p looked d call frame := by
  cases frame with
  | firstYield => cases hloop
  | thinkTime => cases hloop
  | _ => exact h

theorem Frame.Issued.mono {call : S4uCall} {frame : Frame} (h : frame.Issued K p looked asked call)
    (hlooked : ∀ m, looked m → looked' m) : frame.Issued K p looked' asked call := by
  cases hloop : frame.ofLoop with
  | false =>
      obtain ⟨d, hasked, hissues⟩ := h.issues hloop
      exact (hissues.mono hlooked).issued hasked
  | true =>
      cases frame with
      | firstYield => trivial
      | thinkTime => exact h
      | _ => cases hloop

theorem ActorPoint.Issued.mono {point : ActorPoint} {served : List (S4uCall × S4uReturn)}
    (h : point.Issued K p looked asked served) (hlooked : ∀ m, looked m → looked' m) :
    point.Issued K p looked' asked served := by
  cases point with
  | calling call frame => exact ⟨h.1.mono hlooked, h.2⟩
  | returned ret frame =>
      obtain ⟨call, hissued, hserved⟩ := h
      exact ⟨call, hissued.mono hlooked, hserved⟩
  | waitingCanConnectAck _ child =>
      obtain ⟨d, call, canConnectAck, connectAck, hasked, hissues, hserved⟩ := h
      exact ⟨d, call, canConnectAck, connectAck, hasked, hissues.mono hlooked, hserved⟩
  | _ => trivial

theorem uncounted_of_outcome (outcome : Outcome) (p : Pid) (socket : Socket) :
    ∀ o ∈ outcome.out p socket, o.counts = false := by
  intro o ho
  cases outcome with
  | finished ack sendAck quitReceived =>
      cases sendAck <;> cases quitReceived <;> simp [Outcome.out] at ho
      · rw [ho]; rfl
      · rw [ho]; rfl
      · rcases ho with rfl | rfl <;> rfl
  | raised e =>
      rw [List.mem_singleton.mp ho]
      rfl
  | _ => cases ho

theorem dispatch_first (k : K.State) (p : Pid) (d : Decision) (m : Memory) (socket : Socket) :
    ∃ rest, (dispatch K k p d m).out ++ (dispatch K k p d m).outcome.out p socket =
      .dispatched p d :: rest ∧ ∀ o ∈ rest, o.counts = false := by
  refine ⟨_, rfl, fun o ho => ?_⟩
  rcases List.mem_append.mp ho with ho | ho
  · have hswitched : Switched d m (switchDecision K k p d m) := switchDecision_switched
    generalize switchDecision K k p d m = segment at ho hswitched
    cases hswitched with
    | mailboxPut | mailboxPutAsync =>
        rw [List.mem_singleton.mp ho]
        rfl
    | _ => cases ho
  · exact uncounted_of_outcome _ p socket o ho

theorem Taken.uncounted {address : Address} {m m' : Memory} {taken : List SimOutput} {data : Bytes}
    (h : Taken address m m' taken data) : ∀ o ∈ taken, o.counts = false := by
  cases h <;> simp [SimOutput.counts]

theorem Resumed.uncounted {k : K.State} {ret : S4uReturn} {frame : Frame} {m : Memory}
    (h : Resumed K k p socket frame ret m segment) (hloop : ∀ d, frame ≠ .thinkTime d) :
    ∀ o ∈ segment.out ++ segment.outcome.out p socket, o.counts = false := by
  intro o ho
  rcases List.mem_append.mp ho with ho | ho
  · cases h with
    | dispatched d hframe => exact absurd hframe (hloop d)
    | actorCreated =>
        rw [List.mem_singleton.mp ho]
        rfl
    | mailboxGet => rcases ho with _ | ⟨_, _ | ⟨_, _ | ⟨_, ⟨⟩⟩⟩⟩ <;> rfl
    | commWaited _ _ _ _ _ _ _ htaken => exact htaken.uncounted o ho
    | commTested _ _ _ _ _ _ _ htaken => exact htaken.uncounted o ho
    | commWaitedAny _ _ _ _ _ _ _ _ _ _ _ htaken => exact htaken.uncounted o ho
    | _ => cases ho
  · exact uncounted_of_outcome _ p socket o ho

theorem Ran.issued {log : List (S4uCall × S4uReturn)} (howned : Owned s.memory)
    (hbefore : ∀ actor, s.actors.find p = some actor → actor.point.Issued K p looked asked log)
    (hdecided : ∀ d, event = .decision d → asked = some d) (h : Ran s event p socket segment)
    (hkept : Unlooked p (segment.out ++ segment.outcome.out p socket) → ∀ m, looked m → looked' m)
    (hnew : ∀ d, .dispatched p d ∈ segment.out ++ segment.outcome.out p socket → looked' s.memory) :
    segment.outcome.point.Issued K p looked' asked
      (servedSince p log (segment.out ++ segment.outcome.out p socket)) := by
  have hdispatch : ∀ {d : Decision}, asked = some d →
      (∀ d', .dispatched p d' ∈ (dispatch K s.kernel p d s.memory).out ++
        (dispatch K s.kernel p d s.memory).outcome.out p socket → looked' s.memory) →
      (dispatch K s.kernel p d s.memory).outcome.point.Issued K p looked' asked
        (servedSince p log ((dispatch K s.kernel p d s.memory).out ++
          (dispatch K s.kernel p d s.memory).outcome.out p socket)) := by
    intro d hasked hlooked
    obtain ⟨rest, hout, hrest⟩ := dispatch_first s.kernel p d s.memory socket
    rw [hout] at hlooked
    rw [hout, servedSince, if_pos rfl, servedSince_uncounted p [] hrest]
    have hcalls : ∀ call frame, (dispatch K s.kernel p d s.memory).outcome = .call call frame →
        Issues K p looked' d call frame := fun call frame houtcome =>
      ⟨s.kernel, s.memory, hlooked d List.mem_cons_self, howned, houtcome⟩
    cases houtcome : (dispatch K s.kernel p d s.memory).outcome with
    | call call frame => exact ⟨(hcalls call frame houtcome).issued hasked, fun _ => rfl⟩
    | finished ack sendAck quitReceived => cases quitReceived <;> trivial
    | waitCanConnectAck =>
        obtain ⟨segment, hswitched, heq⟩ := dispatch_eq K s.kernel p d s.memory
        rw [heq] at houtcome
        cases hswitched <;> cases houtcome
    | _ => trivial
  cases h with
  | firstYield => exact ⟨trivial, fun hloop => by cases hloop⟩
  | thinking _ _ d => exact ⟨hdecided d rfl, fun hloop => by cases hloop⟩
  | decided _ _ d => exact hdispatch (hdecided d rfl) hnew
  | resumed _ actor ret frame _ _ hfind hpoint hresumed =>
      obtain ⟨call, hissued, hserved⟩ : ∃ call, frame.Issued K p looked asked call ∧
          (frame.ofLoop = false → log = [(call, ret)]) := by
        have hactor := hbefore actor hfind
        rw [hpoint] at hactor
        exact hactor
      cases hresumed with
      | dispatched d hframe =>
          subst hframe
          exact hdispatch hissued hnew
      | actorCreated canConnectAck connectAck child hframe hret =>
          subst hframe hret
          obtain ⟨d, hd, hissues⟩ := hissued
          refine ⟨d, call, canConnectAck, connectAck, hd, hissues.mono (hkept ?_), hserved rfl⟩
          intro d' hd'
          cases List.mem_singleton.mp hd'
      | _ => trivial
  | _ => trivial

/-- The server looks at one decision in a turn at most, which is that of the actor whose turn it is. -/
theorem Ran.counted (h : Ran s event p socket segment) :
    (∀ o ∈ segment.out ++ segment.outcome.out p socket, o.counts = false) ∨
      ∃ d rest, segment.out ++ segment.outcome.out p socket = .dispatched p d :: rest ∧
        ∀ o ∈ rest, o.counts = false := by
  have hdispatch : ∀ d, ∃ d' rest, (dispatch K s.kernel p d s.memory).out ++
      (dispatch K s.kernel p d s.memory).outcome.out p socket = .dispatched p d' :: rest ∧
        ∀ o ∈ rest, o.counts = false :=
    fun d => ⟨d, dispatch_first s.kernel p d s.memory socket⟩
  cases h with
  | decided _ _ d => exact Or.inr (hdispatch d)
  | resumed _ actor ret frame _ _ _ _ hresumed =>
      by_cases hthink : ∃ d, frame = .thinkTime d
      · obtain ⟨d, rfl⟩ := hthink
        cases hresumed.looped rfl with
        | escaped => exact Or.inl fun o ho => by cases ho
        | dispatched => exact Or.inr (hdispatch d)
      · exact Or.inl (hresumed.uncounted fun d hd => hthink ⟨d, hd⟩)
  | childAccepted => exact Or.inl fun o ho => by rw [List.mem_singleton.mp ho]; rfl
  | badThinkTime => exact Or.inl fun o ho => by rw [List.mem_singleton.mp ho]; rfl
  | readFailed => exact Or.inl fun o ho => by rw [List.mem_singleton.mp ho]; rfl
  | badCanConnectAck => exact Or.inl fun o ho => by rw [List.mem_singleton.mp ho]; rfl
  | firstYield => exact Or.inl fun o ho => by cases ho
  | thinking => exact Or.inl fun o ho => by cases ho

/-- A turn concerns its own actor only. -/
theorem Ran.other {log : List (S4uCall × S4uReturn)} {q : Pid} (h : Ran s event p socket segment)
    (hq : q ≠ p) : servedSince q log (segment.out ++ segment.outcome.out p socket) = log ∧
      Unlooked q (segment.out ++ segment.outcome.out p socket) := by
  rcases h.counted with hnone | ⟨d, rest, hout, hrest⟩
  · exact ⟨servedSince_uncounted q log hnone, unlooked_of_uncounted q hnone⟩
  · rw [hout, servedSince, if_neg (Ne.symm hq)]
    refine ⟨servedSince_uncounted q log hrest, fun d' hd' => ?_⟩
    rcases List.mem_cons.mp hd' with heq | hd'
    · cases heq
      exact hq rfl
    · exact unlooked_of_uncounted q hrest d' hd'

theorem AllIssued.step {asked : Pid → Option Decision} {looked looked' : Pid → Memory → Prop}
    (h : AllIssued asked looked trace s) (howned : Owned s.memory)
    (hdecided : ∀ p d, s.current = some p → event = .decision d → asked p = some d)
    (hkept : ∀ p, Unlooked p out → ∀ m, looked p m → looked' p m)
    (hnew : ∀ p d, .dispatched p d ∈ out → looked' p s.memory)
    (hstep : SimStep s event t out) : AllIssued asked looked' (trace ++ out) t := by
  intro q point hq
  rw [servedSince_append]
  have hsame : ∀ {point}, Unlooked q out → s.point q = some point →
      point.Issued K q (looked' q) (asked q) (servedSince q [] trace) :=
    fun hunlooked hpoint => (h q _ hpoint).mono (hkept q hunlooked)
  cases hstep with
  | ran _ p socket segment hran =>
      rw [hran.points q] at hq
      show point.Issued K q (looked' q) (asked q) (servedSince q (servedSince q [] trace)
        (segment.out ++ segment.outcome.out p socket))
      by_cases hqp : q = p
      · subst hqp
        rw [if_pos rfl, Option.some.injEq] at hq
        rw [← hq]
        refine hran.issued howned ?_ ?_ (hkept q) (hnew q)
        · exact fun actor hfind => h q _ (point_eq_some.mpr ⟨actor, hfind, rfl⟩)
        · rintro d rfl
          refine hdecided q d ?_ rfl
          cases hran <;> assumption
      · rw [if_neg hqp] at hq
        obtain ⟨hserved, hunlooked⟩ : servedSince q (servedSince q [] trace)
            (segment.out ++ segment.outcome.out p socket) = servedSince q [] trace ∧
              Unlooked q (segment.out ++ segment.outcome.out p socket) := hran.other hqp
        rw [hserved]
        exact hsame hunlooked hq
  | served p before call frame ret kernel _ _ hbefore hat _ hserve =>
      have hunlooked : Unlooked q [.served p call ret] := fun d hd => by cases List.mem_singleton.mp hd
      obtain ⟨actor, hfind, rfl⟩ := point_eq_some.mp hq
      rcases serve_find hserve hbefore hfind with ⟨rfl, hpoint⟩ | ⟨hqp, hstays | ⟨-, connectAck, hpoint⟩⟩
      · rw [hpoint]
        obtain ⟨hissued, hnone⟩ := hsame hunlooked (point_eq_some.mpr ⟨before, hbefore, hat⟩)
        refine ⟨call, hissued, fun hloop => ?_⟩
        simp only [servedSince, if_true, hnone hloop, List.nil_append]
      · simp only [servedSince, if_neg (Ne.symm hqp)]
        exact hsame hunlooked (point_eq_some.mpr ⟨actor, hstays, rfl⟩)
      · rw [hpoint]
        trivial
  | progressed event kernel writes =>
      have huncounted : ∀ o ∈ writes.map fun write => SimOutput.transferred write.1 write.2,
          o.counts = false := by
        intro o ho
        obtain ⟨write, -, rfl⟩ := List.mem_map.mp ho
        rfl
      rw [servedSince_uncounted _ _ huncounted]
      exact hsame (unlooked_of_uncounted q huncounted) hq
  | progressFailed => exact hsame (fun _ hd => by cases hd) hq
  | round => exact hsame (fun _ hd => by cases hd) hq
  | started p actor _ hfind hpoint =>
      replace hq : (s.setPoint p .reading).point q = some point := hq
      rw [point_setPoint] at hq
      split at hq
      · obtain ⟨_, -, rfl⟩ := Option.map_eq_some_iff.mp hq
        trivial
      · exact hsame (fun _ hd => by cases hd) hq
  | connected p socket connectAck socket' =>
      obtain ⟨actor, hfind, rfl⟩ := point_eq_some.mp hq
      simp only [UnorderedMap.find_modify] at hfind
      split at hfind
      · obtain ⟨_, -, rfl⟩ := Option.map_eq_some_iff.mp hfind
        trivial
      · exact hsame (fun _ hd => by cases hd) (point_eq_some.mpr ⟨actor, hfind, rfl⟩)
  | connectFailed p socket connectAck msg =>
      replace hq : (s.setPoint p .terminated).point q = some point := hq
      rw [point_setPoint] at hq
      split at hq
      · obtain ⟨_, -, rfl⟩ := Option.map_eq_some_iff.mp hq
        trivial
      · exact hsame (fun _ hd => by cases hd) hq

theorem AllIssued.spawn (asked : Pid → Option Decision) (looked : Pid → Memory → Prop)
    (connections : List ActorConnection) : AllIssued asked looked [] (Simulation.spawn K connections) := by
  intro p point hp
  obtain ⟨actor, hfind, rfl⟩ := point_eq_some.mp hp
  rw [find_spawn hfind]
  trivial

/-- Only what an actor works on matters. -/
theorem AllIssued.congr {asked asked' : Pid → Option Decision} {looked : Pid → Memory → Prop}
    (h : AllIssued asked looked trace s)
    (hsame : ∀ p, s.point p ≠ some .reading → asked' p = asked p) : AllIssued asked' looked trace s := by
  intro p point hp
  by_cases hreading : point = .reading
  · subst hreading
    trivial
  · rw [hsame p (by rw [hp, ne_eq, Option.some.injEq]; exact hreading)]
    exact h p point hp

/-! ### The acknowledgment -/

/-- What has been served for an actor when its decision is acknowledged: nothing if the server looks at
the decision in this step, else the call of its handler. -/
theorem Acked.servedSince {asked : Pid → Option Decision} {looked : Pid → Memory → Prop}
    {ack : DecisionAck} {d : Decision} (h : Acked s t p ack event)
    (hissued : AllIssued asked looked trace s)
    (hdecided : ∀ q d, s.current = some q → event = .decision d → asked q = some d)
    (hasked : asked p = some d) (hstep : SimStep s event t out) (hout : (p, ack) ∈ acks out) :
    (∃ sendAck, (switchDecision K s.kernel p d s.memory).outcome = .finished ack sendAck false ∧
        RemoteSimgrid.servedSince p [] (trace ++ out) = []) ∨
      ∃ call ret frame, Issues K p (looked p) d call frame ∧
        RemoteSimgrid.servedSince p [] (trace ++ out) = [(call, ret)] ∧
        (frame.ofLibrary = true → frame.Reports ret ack ∨
          ∃ child canConnectAck connectAck, frame = .actorCreate canConnectAck connectAck ∧
            ret = .pid child ∧ ack = { success := true, data := .actorCreate { id := child } }) := by
  have hpoint : ∀ {actor}, s.actors.find p = some actor →
      actor.point.Issued K p (looked p) (some d) (RemoteSimgrid.servedSince p [] trace) := by
    intro actor hfind
    have hactor := hissued p actor.point (point_eq_some.mpr ⟨actor, hfind, rfl⟩)
    rwa [hasked] at hactor
  have hdispatched : ∀ {q : Pid} {d : Decision} {socket : Socket}, q = p →
      RemoteSimgrid.servedSince p [] (trace ++ ((dispatch K s.kernel q d s.memory).out ++
        (dispatch K s.kernel q d s.memory).outcome.out q socket)) = [] := by
    rintro q d socket rfl
    obtain ⟨rest, hout, hrest⟩ := dispatch_first s.kernel q d s.memory socket
    rw [servedSince_append, hout, RemoteSimgrid.servedSince, if_pos rfl,
      servedSince_uncounted q [] hrest]
  cases h with
  | dispatched _ d' sendAck hdispatches houtcome =>
      refine Or.inl ⟨sendAck, ?_⟩
      cases hdispatches with
      | now _ socket _ hcurrent hfind hthink =>
          have hd : d' = d := by
            rw [hdecided p d' hcurrent rfl, Option.some.injEq] at hasked
            exact hasked
          subst hd
          refine ⟨houtcome, ?_⟩
          cases hstep with
          | ran _ q socket' segment hran =>
              cases hran with
              | decided _ _ _ hcurrent' =>
                  exact hdispatched (Option.some.inj (hcurrent'.symm.trans hcurrent))
              | thinking => cases hout
              | badThinkTime => cases hout
      | later _ actor _ hcurrent hfind hat =>
          have hd : d' = d := by
            have hactor := hpoint hfind
            rw [hat] at hactor
            obtain ⟨call, heq, -⟩ := hactor
            exact (Option.some.inj heq).symm
          subst hd
          refine ⟨houtcome, ?_⟩
          cases hstep with
          | ran _ _ _ segment hran =>
              cases hran with
              | firstYield => cases hout
              | resumed _ actor' ret frame _ _ hfind' hat' hresumed =>
                  rw [hfind, Option.some.injEq] at hfind'
                  rw [← hfind', hat, ActorPoint.returned.injEq] at hat'
                  obtain ⟨rfl, rfl⟩ := hat'
                  cases hresumed.looped rfl with
                  | escaped => cases hout
                  | dispatched => exact hdispatched rfl
          | started => cases hout
  | resumed actor ret frame segment sendAck hfind hat hloop hresumed houtcome =>
      have hactor := hpoint hfind
      rw [hat] at hactor
      obtain ⟨call, hcall, hserved⟩ := hactor
      obtain ⟨d', hd', hissues⟩ := hcall.issues hloop
      obtain rfl : d = d' := Option.some.inj hd'
      refine Or.inr ⟨call, ret, frame, hissues, ?_, fun hlibrary => Or.inl (hresumed.reports hlibrary houtcome)⟩
      rw [servedSince_append, hserved hloop]
      cases hstep with
      | ran _ _ _ segment hran =>
          cases hran with
          | firstYield => cases hout
          | resumed _ actor' ret' frame' _ _ hfind' hat' hresumed' =>
              rw [hfind, Option.some.injEq] at hfind'
              rw [← hfind', hat, ActorPoint.returned.injEq] at hat'
              obtain ⟨rfl, rfl⟩ := hat'
              refine servedSince_uncounted p _ (hresumed'.uncounted ?_)
              rintro d rfl
              cases hloop
      | started => cases hout
  | created canConnectAck child hat =>
      obtain ⟨actor, hfind, hat⟩ := point_eq_some.mp hat
      have hactor := hpoint hfind
      rw [hat] at hactor
      obtain ⟨d', call, q, q', hd', hissues, hserved⟩ := hactor
      obtain rfl : d = d' := Option.some.inj hd'
      have hout' : ack = { success := true, data := .actorCreate { id := child } } ∧
          RemoteSimgrid.servedSince p [] (trace ++ out) = [(call, .pid child)] := by
        rw [servedSince_append, hserved]
        cases hstep with
        | ran _ r socket segment hran =>
            cases hran with
            | childAccepted _ _ canConnectAck' child' _ hfind' =>
                have hmem := List.mem_singleton.mp hout
                cases hmem
                rw [hfind, Option.some.injEq] at hfind'
                rw [hfind', ActorPoint.waitingCanConnectAck.injEq] at hat
                exact ⟨by rw [hat.2], rfl⟩
            | badCanConnectAck _ _ _ _ _ _ _ _ hbad => exact absurd rfl hbad
      exact Or.inr ⟨call, .pid child, _, hissues, hout'.2,
        fun _ => Or.inr ⟨child, q, q', rfl, rfl, hout'.1⟩⟩

end

/-! ### Whole runs -/

section

variable {K : S4u} {s t : CommSystem K} {event : CommEvent K} {trace out : List CommOutput} {p : Pid}
  {f : LibraryCall}

/-- Whoever reads a decision sends it: no other client has its decision replaced. -/
theorem AllIssued.prepared {sim : SimEvent K} {ready : CommSystem K} {server : Simulation K}
    {simOut log : List SimOutput} {looked : Pid → Memory → Prop}
    (h : AllIssued s.asked looked log s.handles.server) (hprepares : Prepares s event sim ready)
    (hstep : SimStep s.handles.server sim server simOut) :
    AllIssued ready.asked looked log s.handles.server := by
  cases hprepares with
  | call call thinkTime p hcurrent =>
      obtain ⟨socket, hfind⟩ := hstep.reading hcurrent
      refine h.congr fun q hq => ?_
      by_cases heq : q = p
      · subst heq
        exact absurd (point_eq_some.mpr ⟨_, hfind, rfl⟩) hq
      · simp only [CommSystem.asked, Function.update_of_ne heq]
  | fork => exact h
  | simulation => exact h

theorem AllIssued.commStep {looked looked' : Pid → Memory → Prop}
    (h : AllIssued s.asked looked (serverOutputs trace) s.handles.server)
    (hcomms : CommInv s trace) (hkept : ∀ p, Unlooked p (serverOutputs out) → ∀ m, looked p m → looked' p m)
    (hnew : ∀ p d, .dispatched p d ∈ serverOutputs out → looked' p s.handles.server.memory)
    (hstep : commStep K s event = some (t, out)) :
    AllIssued t.asked looked' (serverOutputs (trace ++ out)) t.handles.server := by
  rw [serverOutputs_append]
  cases commStep_cases hstep with
  | served sim ready handles simOut hprepares _ hserver =>
      have hcases := (simulationStep_cases hserver).2
      have hprepared := h.prepared hprepares hcases
      rcases hcases.acked with hnone | ⟨p, ack, hacks, -, hreading⟩
      · rw [hnone, CommSystem.receiveAll_nil, List.append_nil, serverOutputs_map] at hkept hnew ⊢
        exact hprepared.step hcomms.store.owned hprepares.decided hkept hnew hcases
      · rw [hacks, CommSystem.receiveAll_singleton, serverOutputs_append, serverOutputs_map,
          CommSystem.serverOutputs_receive, List.append_nil] at hkept hnew ⊢
        rw [CommSystem.handles_receive]
        refine (hprepared.step hcomms.store.owned hprepares.decided hkept hnew hcases).congr
          fun q hq => ?_
        rw [CommSystem.asked_receive, if_neg]
        · rfl
        · rintro rfl
          exact hq hreading
  | copied handles _ hserver =>
      show AllIssued s.asked looked' (serverOutputs trace ++ []) handles.server
      rw [hserver, List.append_nil]
      exact fun p point hp => (h p point hp).mono (hkept p fun _ hd => by cases hd)

/-- The memory of the server when it has last looked at a decision of an actor. -/
def LookedAt (K : S4u) (connections : List ActorConnection) (events : List (CommEvent K))
    (trace : List CommOutput) (p : Pid) (m : Memory) : Prop :=
  ∃ before event after s t first out rest, events = before ++ event :: after ∧
    Run (commStep K) (CommSystem.launch K connections) before s first ∧
    commStep K s event = some (t, out) ∧ trace = first ++ out ++ rest ∧ s.handles.server.memory = m ∧
    (∃ d, .dispatched p d ∈ serverOutputs out) ∧ Unlooked p (serverOutputs rest)

theorem LookedAt.later {connections : List ActorConnection} {events : List (CommEvent K)} {m : Memory}
    (h : LookedAt K connections events trace p m) (hout : Unlooked p (serverOutputs out))
    (event : CommEvent K) : LookedAt K connections (events ++ [event]) (trace ++ out) p m := by
  obtain ⟨before, event', after, s, t, first, out', rest, hevents, hrun, hstep, htrace, hm, hd, hrest⟩ := h
  refine ⟨before, event', after ++ [event], s, t, first, out', rest ++ out, ?_, hrun, hstep, ?_, hm, hd,
    fun d hmem => ?_⟩
  · rw [hevents, List.append_assoc, List.cons_append]
  · rw [htrace, List.append_assoc]
  · rw [serverOutputs_append] at hmem
    exact (List.mem_append.mp hmem).elim (hrest d) (hout d)

theorem allIssued_run {connections : List ActorConnection} {events : List (CommEvent K)}
    (hrun : Run (commStep K) (CommSystem.launch K connections) events s trace)
    (hfresh : Throughout (commStep K) FreshComm (CommSystem.launch K connections) events) :
    CommInv s trace ∧
      AllIssued s.asked (LookedAt K connections events trace) (serverOutputs trace) s.handles.server := by
  refine hrun.guarded_invariant (P := fun events s trace => CommInv s trace ∧
      AllIssued s.asked (LookedAt K connections events trace) (serverOutputs trace) s.handles.server)
    hfresh ⟨CommInv.launch connections, AllIssued.spawn _ _ connections⟩ ?_
  intro events s trace event t out hrun hinv hevent hstep
  refine ⟨hinv.1.step hevent hstep, hinv.2.commStep hinv.1 (fun p hout m hm => hm.later hout event)
    (fun p d hd => ?_) hstep⟩
  exact ⟨events, event, [], s, t, trace, out, [], rfl, hrun, hstep, (List.append_nil _).symm, rfl, ⟨d, hd⟩,
    fun _ h => by cases h⟩

/-- A function that returns to an actor's client returns what S4U says. No S4U call is made for the
actor since the server has looked at the decision of the function if it is a query, answered in the
present state of SimGrid, or if the function is refused, as its object is unknown or it is `try_lock`.
Otherwise the one call that is made is that of the function, which returns the value of this call. -/
theorem functions_return {connections : List ActorConnection} {events : List (CommEvent K)}
    (hrun : Run (commStep K) (CommSystem.launch K connections) events s trace)
    (hfresh : Throughout (commStep K) FreshComm (CommSystem.launch K connections) events)
    (hstep : commStep K s event = some (t, out)) {result : Except Error CommResult}
    (hret : .returned p f.call result ∈ out) :
    ∃ ack, (p, ack) ∈ acks (serverOutputs out) ∧
      f.Answered s.handles.server p (LookedAt K connections events trace p)
        (servedSince p [] (serverOutputs (trace ++ out))) (f.finish ack) := by
  obtain ⟨hcomms, hissued⟩ := allIssued_run hrun hfresh
  cases commStep_cases hstep with
  | served sim ready handles simOut hprepares _ hserver =>
      have hcases := (simulationStep_cases hserver).2
      rcases List.mem_append.mp hret with hret | hret
      · obtain ⟨x, -, hx⟩ := List.mem_map.mp hret
        cases hx
      · rcases hcases.acked with hnone | ⟨q, ack, hacks, hacked, -⟩
        · rw [hnone, CommSystem.receiveAll_nil] at hret
          cases hret
        · rw [hacks, CommSystem.receiveAll_singleton] at hret
          obtain ⟨rfl, ⟨thinkTime, hpending⟩, -⟩ := receive_returned hret
          have hasked : ready.asked p = some { thinkTime := thinkTime, type := f.type } := by
            replace hpending : ready.calls p = some ⟨f.call, thinkTime⟩ := hpending
            rw [CommSystem.asked, hpending]
            rfl
          have hmem : (p, ack) ∈ acks simOut := hacks ▸ List.mem_singleton_self _
          have hserved := hacked.servedSince (hissued.prepared hprepares hcases) hprepares.decided hasked
            hcases hmem
          have houtputs : serverOutputs (simOut.map .server ++
              (({ ready with handles := handles } : CommSystem K).receiveAll (acks simOut)).2) = simOut := by
            rw [serverOutputs_append, serverOutputs_map, hacks, CommSystem.receiveAll_singleton,
              CommSystem.serverOutputs_receive, List.append_nil]
          rw [serverOutputs_append trace, houtputs]
          refine ⟨ack, hmem, ?_⟩
          rcases hserved with ⟨sendAck, houtcome, hnothing⟩ | ⟨call, ret, frame, hissues, hone, hreports⟩
          · rcases LibraryCall.answered_at_once hcomms.store.owned houtcome with hquery | ⟨rfl, hrefused⟩
            · exact .queried _ hnothing hquery
            · rcases hrefused with ⟨handle, hhandle, hunknown⟩ | ⟨mutex, rfl⟩
              · exact .unknown handle hnothing hhandle hunknown
              · exact .tryLock mutex hnothing rfl
          · obtain ⟨k, m, hlooked, howned, houtcome⟩ := hissues
            obtain ⟨hmakes, hlibrary, hvalue⟩ := LibraryCall.makes howned houtcome
            rcases hreports hlibrary with hreports | ⟨child, q, q', rfl, rfl, rfl⟩
            · obtain ⟨value, hvalue, hfinish⟩ := hvalue ret ack hreports
              rw [hfinish]
              exact .returned call ret value m hone hlooked hmakes hvalue
            · obtain ⟨name, host, rfl⟩ := LibraryCall.created houtcome
              exact .returned call (.pid child) (.actor child) m hone hlooked hmakes rfl
  | copied => cases hret

end

/-- A client creates a mutex and a condition variable, computes for a second and waits. -/
def waitEvents : List (CommEvent permissiveS4u) :=
  [.handles (.simulation (.schedule 2)), .call LibraryCall.mutexCreate.call 0,
    .handles (.simulation (.serve 2 (.address 100))), .handles (.simulation .round),
    .handles (.simulation (.schedule 2)), .call LibraryCall.conditionVariableCreate.call 0,
    .handles (.simulation (.serve 2 (.address 200))), .handles (.simulation .round),
    .handles (.simulation (.schedule 2)), .call (LibraryCall.conditionVariableWait 200 100).call 1,
    .handles (.simulation (.serve 2 .done)), .handles (.simulation .round),
    .handles (.simulation (.schedule 2)), .handles (.simulation (.serve 2 .done)),
    .handles (.simulation .round)]

theorem functions_return_wait :
    ∃ s trace t out,
      Run (commStep permissiveS4u) (CommSystem.launch permissiveS4u [{ actorId := 2, socket := some 10 }])
        waitEvents s trace ∧
      commStep permissiveS4u s (.handles (.simulation (.schedule 2))) = some (t, out) ∧
      servedSince 2 [] (serverOutputs (trace ++ out)) = [(.conditionVariableWait 200 2, .done)] ∧
      ∃ ack, (2, ack) ∈ acks (serverOutputs out) ∧
        LibraryCall.Answered s.handles.server 2
          (LookedAt permissiveS4u [{ actorId := 2, socket := some 10 }] waitEvents trace 2)
          (.conditionVariableWait 200 100) (servedSince 2 [] (serverOutputs (trace ++ out)))
          ((LibraryCall.conditionVariableWait 200 100).finish ack) := by
  obtain ⟨s, trace, t, out, hexec, hstep, hserved, hret⟩ : ∃ s trace t out,
      exec (commStep permissiveS4u) (CommSystem.launch permissiveS4u [{ actorId := 2, socket := some 10 }])
        waitEvents = some (s, trace) ∧
      commStep permissiveS4u s (.handles (.simulation (.schedule 2))) = some (t, out) ∧
      servedSince 2 [] (serverOutputs (trace ++ out)) = [(.conditionVariableWait 200 2, .done)] ∧
      .returned 2 (LibraryCall.conditionVariableWait 200 100).call (.ok .done) ∈ out := by
    refine ⟨_, _, _, _, rfl, rfl, rfl, ?_⟩
    exact List.mem_cons_of_mem _ (List.mem_singleton_self _)
  exact ⟨s, trace, t, out, Run.of_exec hexec, hstep, hserved,
    functions_return (Run.of_exec hexec) (Throughout.of_check rfl) hstep hret⟩

end RemoteSimgrid
