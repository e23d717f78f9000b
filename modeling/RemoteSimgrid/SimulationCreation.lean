import RemoteSimgrid.SimulationExchange
import RemoteSimgrid.SimulationTurns

/-! The creation of actors, seen from the SimGrid thread. A creation is named by its `can_connect_ack`
queue; its `connect_ack` queue is allocated just after. -/

namespace RemoteSimgrid

open Machine Pb

/-- How far a creation has come: SimGrid is asked for the actor, has created it, the command thread is
told, has stored the expected connection, and the client of the parent is told. -/
inductive CreationPhase where
  | requested
  | created (child : Pid)
  | announced (child : Pid)
  | registered (child : Pid)
  | told (child : Pid)
  deriving DecidableEq

namespace CreationPhase

def child : CreationPhase → Option Pid
  | .requested => none
  | .created child | .announced child | .registered child | .told child => some child

/-- The command thread has stored the expected connection. -/
def stored : CreationPhase → Bool
  | .registered _ | .told _ => true
  | _ => false

end CreationPhase

structure Creation where
  parent : Pid
  phase : CreationPhase
  deriving DecidableEq

abbrev Creations := Queue → Option Creation

/-- The actor is created by a creation whose second queue is this one. -/
def IsChild (creations : Creations) (p : Pid) (connectAck : Queue) : Prop :=
  ∃ canConnectAck creation, creations canConnectAck = some creation ∧
    creation.phase.child = some p ∧ connectAck = canConnectAck + 1

/-- The actor busy-waits. -/
def ActorPoint.waits : ActorPoint → Bool
  | .waitingConnectAck _ | .waitingCanConnectAck _ _ => true
  | _ => false

/-- What the point of an actor says about the creations. -/
def Placed (creations : Creations) (p : Pid) : ActorPoint → Prop
  | .spawned (some connectAck) => IsChild creations p connectAck
  | .calling call (.firstYield connectAck) => call.creates = false ∧ IsChild creations p connectAck
  | .calling call (.actorCreate canConnectAck connectAck) =>
      (∃ name host, call = .actorCreate name host connectAck) ∧ connectAck = canConnectAck + 1 ∧
        creations canConnectAck = some ⟨p, .requested⟩
  | .calling call _ => call.creates = false
  | .returned _ (.firstYield connectAck) => IsChild creations p connectAck
  | .returned (.pid child) (.actorCreate canConnectAck connectAck) =>
      connectAck = canConnectAck + 1 ∧ creations canConnectAck = some ⟨p, .created child⟩
  | .waitingConnectAck connectAck => IsChild creations p connectAck
  | .waitingCanConnectAck canConnectAck child =>
      creations canConnectAck = some ⟨p, .announced child⟩ ∨
        creations canConnectAck = some ⟨p, .registered child⟩
  | _ => True

/-- Where the parent is while the creation goes on. -/
def CreationPhase.parentPoint (canConnectAck : Queue) : CreationPhase → Option ActorPoint
  | .created child => some (.returned (.pid child) (.actorCreate canConnectAck (canConnectAck + 1)))
  | .announced child | .registered child => some (.waitingCanConnectAck canConnectAck child)
  | _ => none

theorem CreationPhase.parentPoint_inj {phase phase' : CreationPhase} {queue queue' : Queue}
    {point : ActorPoint} (h : phase.parentPoint queue = some point)
    (h' : phase'.parentPoint queue' = some point) : queue = queue' := by
  cases phase <;> cases h <;> cases phase' <;> cases h' <;> rfl

theorem placed_calling {creations : Creations} {p : Pid} {call : S4uCall} {frame : Frame}
    (hcall : call.creates = false) (hframe : frame.creation = false) :
    Placed creations p (.calling call frame) := by
  cases frame <;> first | exact hcall | cases hframe

section

variable {creations creations' : Creations} {p q : Pid} {canConnectAck : Queue}

theorem isChild_update {creation : Creation} {connectAck : Queue}
    (hold : ∀ old child, creations canConnectAck = some old → old.phase.child = some child →
      creation.phase.child = some child) (h : IsChild creations p connectAck) :
    IsChild (Function.update creations canConnectAck (some creation)) p connectAck := by
  obtain ⟨queue, old, hcreation, hchild, rfl⟩ := h
  by_cases hqueue : queue = canConnectAck
  · subst hqueue
    exact ⟨queue, creation, Function.update_self .., hold old p hcreation hchild, rfl⟩
  · exact ⟨queue, old, by rw [Function.update_of_ne hqueue, hcreation], hchild, rfl⟩

/-- The other actors stay placed when a creation of `p` goes on. -/
theorem placed_update {phase : CreationPhase} {point : ActorPoint}
    (hold : ∀ old, creations canConnectAck = some old → old.parent = p ∧
      ∀ child, old.phase.child = some child → phase.child = some child) (hq : q ≠ p)
    (h : Placed creations q point) :
    Placed (Function.update creations canConnectAck (some ⟨p, phase⟩)) q point := by
  have hchild : ∀ {connectAck : Queue}, IsChild creations q connectAck →
      IsChild (Function.update creations canConnectAck (some ⟨p, phase⟩)) q connectAck :=
    isChild_update fun old child hcreation => (hold old hcreation).2 child
  have hown : ∀ {queue : Queue} {phase' : CreationPhase}, creations queue = some ⟨q, phase'⟩ →
      Function.update creations canConnectAck (some ⟨p, phase⟩) queue = some ⟨q, phase'⟩ := by
    intro queue phase' hcreation
    rw [Function.update_of_ne, hcreation]
    rintro rfl
    exact hq (hold _ hcreation).1
  cases point with
  | spawned connectAck =>
      cases connectAck with
      | none => trivial
      | some connectAck => exact hchild h
  | calling call frame =>
      cases frame with
      | firstYield => exact ⟨h.1, hchild h.2⟩
      | actorCreate => exact ⟨h.1, h.2.1, hown h.2.2⟩
      | _ => exact h
  | returned ret frame =>
      cases frame with
      | firstYield => exact hchild h
      | actorCreate =>
          cases ret with
          | pid child => exact ⟨h.1, hown h.2⟩
          | _ => trivial
      | _ => trivial
  | waitingConnectAck connectAck => exact hchild h
  | waitingCanConnectAck queue child => exact h.imp hown hown
  | _ => trivial

end

/-- The creations and the actors agree. -/
structure CreationInv {K : S4u} (s : Simulation K) (creations : Creations) : Prop where
  next : 1 ≤ s.memory.next
  allocated : ∀ queue creation, creations queue = some creation →
    1 ≤ queue ∧ queue + 1 < s.memory.next
  paired : ∀ queue creation, creations queue = some creation → creations (queue + 1) = none
  known : ∀ queue creation child, creations queue = some creation →
    creation.phase.child = some child → s.point child ≠ none
  single : ∀ queue queue' creation creation' child, creations queue = some creation →
    creations queue' = some creation' → creation.phase.child = some child →
    creation'.phase.child = some child → queue = queue'
  placed : ∀ p point, s.point p = some point → Placed creations p point
  running : ∀ p point, s.point p = some point → point.waits = true → s.current = some p
  parents : ∀ queue creation point, creations queue = some creation →
    creation.phase.parentPoint queue = some point → s.point creation.parent = some point

namespace CreationInv

variable {K : S4u} {s t : Simulation K} {creations : Creations} {p : Pid} {point point' : ActorPoint}

theorem none_of_le (h : CreationInv s creations) {queue : Queue} (hqueue : s.memory.next ≤ queue) :
    creations queue = none := by
  cases hcreation : creations queue with
  | none => rfl
  | some creation =>
      have hallocated := (h.allocated queue creation hcreation).2
      simp only [Queue] at *
      omega

/-- The rule for an actor that moves without a creation of its own going on. -/
theorem move (h : CreationInv s creations) (hs : s.point p = some point)
    (hpoint : ∀ queue phase, creations queue = some ⟨p, phase⟩ →
      phase.parentPoint queue ≠ some point)
    (hpoints : ∀ q, t.point q = if q = p then some point' else s.point q)
    (hcurrent : s.current = none ∨ s.current = some p) (hwaits : point'.waits = true → t.current = some p)
    (hplaced : Placed creations p point') (hnext : s.memory.next ≤ t.memory.next) :
    CreationInv t creations where
  next := le_trans h.next hnext
  allocated queue creation hcreation := by
    obtain ⟨hone, hlt⟩ := h.allocated queue creation hcreation
    exact ⟨hone, lt_of_lt_of_le hlt hnext⟩
  paired := h.paired
  known queue creation child hcreation hchild := by
    rw [hpoints]
    split
    · exact nofun
    · exact h.known queue creation child hcreation hchild
  single := h.single
  placed q point hq := by
    rw [hpoints] at hq
    split at hq
    · rename_i heq
      cases hq
      rwa [heq]
    · exact h.placed q point hq
  running q point hq hwait := by
    rw [hpoints] at hq
    split at hq
    · rename_i heq
      cases hq
      rw [heq]
      exact hwaits hwait
    · rename_i hne
      have hrunning := h.running q point hq hwait
      rcases hcurrent with hcurrent | hcurrent
      · rw [hcurrent] at hrunning
        cases hrunning
      · rw [hcurrent, Option.some.injEq] at hrunning
        exact absurd hrunning.symm hne
  parents queue creation point'' hcreation hparent := by
    have hold := h.parents queue creation point'' hcreation hparent
    rw [hpoints]
    split
    · rename_i heq
      obtain ⟨parent, phase⟩ := creation
      cases heq
      rw [hs, Option.some.injEq] at hold
      rw [← hold] at hparent
      exact absurd hparent (hpoint queue phase hcreation)
    · exact hold

/-- The rule for a step of a creation. -/
theorem advance (h : CreationInv s creations) {queue : Queue} {phase : CreationPhase}
    (hs : s.point p = some point) (hp : t.point p = some point')
    (hold : ∀ old, creations queue = some old → old.parent = p ∧
      ∀ child, old.phase.child = some child → phase.child = some child)
    (hpoint : ∀ queue' phase', queue' ≠ queue → creations queue' = some ⟨p, phase'⟩ →
      phase'.parentPoint queue' ≠ some point)
    (hothers : ∀ q, q ≠ p → t.point q = s.point q ∨ s.point q = none ∧ ∀ point, t.point q = some point →
      Placed (Function.update creations queue (some ⟨p, phase⟩)) q point ∧ point.waits = false)
    (hcurrent : s.current = none ∨ s.current = some p) (hwaits : point'.waits = true → t.current = some p)
    (hplaced : Placed (Function.update creations queue (some ⟨p, phase⟩)) p point')
    (hnext : s.memory.next ≤ t.memory.next) (hbounds : 1 ≤ queue ∧ queue + 1 < t.memory.next)
    (hpaired : creations (queue + 1) = none ∧ ∀ queue', queue' + 1 = queue → creations queue' = none)
    (hchild : ∀ child, phase.child = some child → t.point child ≠ none ∧
      ∀ queue' creation, queue' ≠ queue → creations queue' = some creation →
        creation.phase.child ≠ some child)
    (hparent : ∀ point, phase.parentPoint queue = some point → point = point') :
    CreationInv t (Function.update creations queue (some ⟨p, phase⟩)) := by
  have hcases : ∀ {queue' creation},
      Function.update creations queue (some ⟨p, phase⟩) queue' = some creation →
      queue' = queue ∧ creation = ⟨p, phase⟩ ∨ queue' ≠ queue ∧ creations queue' = some creation := by
    intro queue' creation hcreation
    by_cases hqueue : queue' = queue
    · subst hqueue
      rw [Function.update_self, Option.some.injEq] at hcreation
      exact Or.inl ⟨rfl, hcreation.symm⟩
    · rw [Function.update_of_ne hqueue] at hcreation
      exact Or.inr ⟨hqueue, hcreation⟩
  have hkept : ∀ q, s.point q ≠ none → t.point q ≠ none := by
    intro q hq
    by_cases heq : q = p
    · rw [heq, hp]
      exact nofun
    · rcases hothers q heq with hsame | ⟨hnone, -⟩
      · rwa [hsame]
      · exact absurd hnone hq
  exact
    { next := le_trans h.next hnext
      allocated := fun queue' creation hcreation => by
        rcases hcases hcreation with ⟨rfl, -⟩ | ⟨-, hcreation⟩
        · exact hbounds
        · obtain ⟨hone, hlt⟩ := h.allocated queue' creation hcreation
          exact ⟨hone, lt_of_lt_of_le hlt hnext⟩
      paired := fun queue' creation hcreation => by
        rcases hcases hcreation with ⟨rfl, -⟩ | ⟨-, hcreation⟩
        · rw [Function.update_of_ne (Nat.succ_ne_self queue')]
          exact hpaired.1
        · rw [Function.update_of_ne]
          · exact h.paired queue' creation hcreation
          · intro heq
            rw [hpaired.2 queue' heq] at hcreation
            cases hcreation
      known := fun queue' creation child hcreation hphase => by
        rcases hcases hcreation with ⟨rfl, rfl⟩ | ⟨-, hcreation⟩
        · exact (hchild child hphase).1
        · exact hkept child (h.known queue' creation child hcreation hphase)
      single := fun first second creation creation' child hfirst hsecond hphase hphase' => by
        rcases hcases hfirst with ⟨rfl, rfl⟩ | ⟨hne, hold'⟩
        · rcases hcases hsecond with ⟨rfl, -⟩ | ⟨hne, hlast⟩
          · rfl
          · exact absurd hphase' ((hchild child hphase).2 second creation' hne hlast)
        · rcases hcases hsecond with ⟨rfl, rfl⟩ | ⟨-, hlast⟩
          · exact absurd hphase ((hchild child hphase').2 first creation hne hold')
          · exact h.single first second creation creation' child hold' hlast hphase hphase'
      placed := fun q point hq => by
        by_cases heq : q = p
        · subst heq
          rw [hp, Option.some.injEq] at hq
          rwa [← hq]
        · rcases hothers q heq with hsame | ⟨-, hnew⟩
          · rw [hsame] at hq
            exact placed_update hold heq (h.placed q point hq)
          · exact (hnew point hq).1
      running := fun q point hq hwait => by
        by_cases heq : q = p
        · subst heq
          rw [hp, Option.some.injEq] at hq
          rw [← hq] at hwait
          exact hwaits hwait
        · rcases hothers q heq with hsame | ⟨-, hnew⟩
          · rw [hsame] at hq
            have hrunning := h.running q point hq hwait
            rcases hcurrent with hcurrent | hcurrent
            · rw [hcurrent] at hrunning
              cases hrunning
            · rw [hcurrent, Option.some.injEq] at hrunning
              exact absurd hrunning.symm heq
          · rw [(hnew point hq).2] at hwait
            cases hwait
      parents := fun queue' creation point'' hcreation hphase => by
        rcases hcases hcreation with ⟨rfl, rfl⟩ | ⟨hne, hold'⟩
        · rw [hparent point'' hphase]
          exact hp
        · have hbefore := h.parents queue' creation point'' hold' hphase
          by_cases heq : creation.parent = p
          · obtain ⟨parent, phase'⟩ := creation
            cases heq
            rw [hs, Option.some.injEq] at hbefore
            rw [← hbefore] at hphase
            exact absurd hphase (hpoint queue' phase' hne hold')
          · rcases hothers _ heq with hsame | ⟨hnone, -⟩
            · rwa [hsame]
            · rw [hnone] at hbefore
              cases hbefore }

theorem pair (h : CreationInv s creations) {queue : Queue} {creation : Creation}
    (hcreation : creations queue = some creation) :
    creations (queue + 1) = none ∧ ∀ queue', queue' + 1 = queue → creations queue' = none := by
  refine ⟨h.paired queue creation hcreation, fun queue' heq => ?_⟩
  cases hprevious : creations queue' with
  | none => rfl
  | some previous =>
      have hnone := h.paired queue' previous hprevious
      rw [heq, hcreation] at hnone
      cases hnone

/-- The rule for a creation that has its actor. -/
theorem proceed (h : CreationInv s creations) {queue : Queue} {old phase : CreationPhase}
    (hcreation : creations queue = some ⟨p, old⟩) (hchild : old.child = phase.child)
    (hpoint : old.parentPoint queue = some point)
    (hpoints : ∀ q, t.point q = if q = p then some point' else s.point q)
    (hcurrent : s.current = none ∨ s.current = some p) (hwaits : point'.waits = true → t.current = some p)
    (hplaced : Placed (Function.update creations queue (some ⟨p, phase⟩)) p point')
    (hnext : s.memory.next ≤ t.memory.next)
    (hparent : ∀ point, phase.parentPoint queue = some point → point = point') :
    CreationInv t (Function.update creations queue (some ⟨p, phase⟩)) := by
  have hs : s.point p = some point := h.parents queue ⟨p, old⟩ point hcreation hpoint
  refine h.advance hs ((hpoints p).trans (if_pos rfl)) ?_ ?_
    (fun q hq => Or.inl ((hpoints q).trans (if_neg hq))) hcurrent hwaits hplaced hnext ?_
    (h.pair hcreation) ?_ hparent
  · intro creation hold
    rw [hcreation, Option.some.injEq] at hold
    subst hold
    exact ⟨rfl, fun _ hold => hchild ▸ hold⟩
  · intro queue' phase' hne _ hpoint'
    exact hne (CreationPhase.parentPoint_inj hpoint' hpoint)
  · obtain ⟨hone, hlt⟩ := h.allocated queue _ hcreation
    exact ⟨hone, lt_of_lt_of_le hlt hnext⟩
  · intro child hphase
    rw [← hchild] at hphase
    refine ⟨?_, fun queue' creation hne hcreation' hphase' =>
      hne (h.single queue' queue creation _ child hcreation' hcreation hphase' hphase)⟩
    rw [hpoints]
    split
    · exact nofun
    · exact h.known queue _ child hcreation hphase

/-- The command thread has stored the expected connection. -/
theorem register (h : CreationInv s creations) {queue : Queue} {child : Pid}
    (hcreation : creations queue = some ⟨p, .announced child⟩) :
    CreationInv s (Function.update creations queue (some ⟨p, .registered child⟩)) := by
  have hp : s.point p = some (.waitingCanConnectAck queue child) :=
    h.parents queue _ _ hcreation rfl
  have hrunning := h.running p _ hp rfl
  have hplaced : Placed (Function.update creations queue (some ⟨p, .registered child⟩)) p
      (.waitingCanConnectAck queue child) := Or.inr (Function.update_self ..)
  refine h.proceed (t := s) hcreation rfl rfl ?_ (Or.inr hrunning) (fun _ => hrunning) hplaced
    le_rfl ?_
  · intro q
    split
    · rename_i heq
      rw [heq, hp]
    · rfl
  · intro point hphase
    cases hphase
    rfl

end CreationInv

/-- The output tells the command thread or the client of the parent of a created actor. -/
def SimOutput.creation : SimOutput → Bool
  | .push _ (.actorCreate _ _ _) => true
  | .writeAck _ _ ack => ack.data.dataCase = .kActorCreate
  | _ => false

/-- What a step of the SimGrid thread does to the creations. -/
inductive CreationStep {K : S4u} (s : Simulation K) (event : SimEvent K) (creations : Creations) :
    List SimOutput → Creations → Prop
  | same (out : List SimOutput) : (∀ msg, event ≠ .canConnectAck msg) →
      (∀ o ∈ out, o.creation = false) → CreationStep s event creations out creations
  | requested (p : Pid) (out : List SimOutput) : (∀ msg, event ≠ .canConnectAck msg) →
      (∀ o ∈ out, o.internal = true) →
      CreationStep s event creations out
        (Function.update creations s.memory.next (some ⟨p, .requested⟩))
  | created (p : Pid) (queue : Queue) (child : Pid) (call : S4uCall) : s.current = none →
      event = .serve p (.pid child) → creations queue = some ⟨p, .requested⟩ →
      s.point child = none →
      CreationStep s event creations [.served p call (.pid child)]
        (Function.update creations queue (some ⟨p, .created child⟩))
  | announced (p : Pid) (queue : Queue) (child : Pid) : event = .schedule p → s.current = none →
      creations queue = some ⟨p, .created child⟩ →
      CreationStep s event creations [.push toCommand (.actorCreate child queue (queue + 1))]
        (Function.update creations queue (some ⟨p, .announced child⟩))
  | told (p : Pid) (socket : Socket) (queue : Queue) (child : Pid) :
      event = .canConnectAck .actorCreateAck → s.current = some p →
      s.point p = some (.waitingCanConnectAck queue child) →
      CreationStep s event creations
        [.writeAck p socket { success := true, data := .actorCreate { id := child } }]
        (Function.update creations queue (some ⟨p, .told child⟩))

/-- The actor is outside of any creation. -/
def ActorPoint.plain : ActorPoint → Bool
  | .reading => true
  | .returned _ frame => !frame.creation
  | _ => false

section

variable {K : S4u} {s t : Simulation K} {event : SimEvent K} {creations : Creations} {p : Pid}
  {socket : Socket} {segment : Segment} {point : ActorPoint}

theorem creation_of_internal {out : List SimOutput} (h : ∀ o ∈ out, o.internal = true) :
    ∀ o ∈ out, o.creation = false := by
  intro o ho
  have hinternal := h o ho
  cases o <;> first | rfl | cases hinternal

/-- The actor that runs is the current one, or SimGrid has just chosen it. -/
theorem Ran.current (h : Ran s event p socket segment) :
    event = .schedule p ∧ s.current = none ∨ s.current = some p := by
  cases h with
  | firstYield _ _ _ hcurrent => exact Or.inl ⟨rfl, hcurrent⟩
  | resumed _ _ _ _ _ hcurrent => exact Or.inl ⟨rfl, hcurrent⟩
  | decided _ _ _ hcurrent => exact Or.inr hcurrent
  | thinking _ _ _ hcurrent => exact Or.inr hcurrent
  | badThinkTime _ _ _ _ hcurrent => exact Or.inr hcurrent
  | readFailed _ _ _ hcurrent => exact Or.inr hcurrent
  | childAccepted _ _ _ _ hcurrent => exact Or.inr hcurrent
  | badCanConnectAck _ _ _ _ _ _ hcurrent => exact Or.inr hcurrent

/-- The turn of an actor that is outside of any creation: it asks for one, or starts none. -/
theorem Turn.creation (h : Turn s event p socket segment) (hinv : CreationInv s creations)
    (hs : s.point p = some point) (hplain : point.plain = true)
    (hevent : ∀ msg, event ≠ .canConnectAck msg) (hcurrent : s.current = none ∨ s.current = some p)
    (hpoints : ∀ q, t.point q = if q = p then some segment.outcome.point else s.point q)
    (hrunning : t.current = if segment.outcome.keepsThread then some p else none)
    (hmemory : t.memory = segment.memory) :
    ∃ creations', CreationStep s event creations (segment.out ++ segment.outcome.out p socket) creations' ∧
      CreationInv t creations' := by
  have hparent : ∀ queue phase, creations queue = some ⟨p, phase⟩ →
      phase.parentPoint queue ≠ some point := by
    intro queue phase _ hphase
    cases phase <;> cases hphase <;> cases hplain
  have hnone : ∀ {actor : ServerActor} {point' : ActorPoint}, s.actors.find p = some actor →
      actor.point = point' → point'.plain = false → False := by
    intro actor point' hfind hpoint hnot
    rw [Simulation.point, hfind, Option.map_some, hpoint, Option.some.injEq] at hs
    rw [hs, hplain] at hnot
    cases hnot
  have hmove : (∀ o ∈ segment.out ++ segment.outcome.out p socket, o.creation = false) →
      s.memory.next ≤ segment.memory.next → Placed creations p segment.outcome.point →
      segment.outcome.point.waits = false →
      ∃ creations', CreationStep s event creations (segment.out ++ segment.outcome.out p socket)
        creations' ∧ CreationInv t creations' := by
    intro hout hnext hplaced hwaits
    refine ⟨creations, .same _ hevent hout, hinv.move hs hparent hpoints hcurrent ?_ hplaced ?_⟩
    · rw [hwaits]
      exact fun h => by cases h
    · rw [hmemory]
      exact hnext
  cases h with
  | ends m out outcome hnext hout hends =>
      cases outcome with
      | finished ack sendAck quitReceived =>
          obtain ⟨rfl, rfl⟩ : sendAck = false ∧ quitReceived = true := by
            simpa [Outcome.ends] using hends
          exact hmove (List.forall_mem_append.mpr ⟨creation_of_internal hout,
            List.forall_mem_singleton.mpr rfl⟩) hnext trivial rfl
      | raised e =>
          exact hmove (List.forall_mem_append.mpr ⟨creation_of_internal hout,
            List.forall_mem_singleton.mpr rfl⟩) hnext trivial rfl
      | escaped =>
          exact hmove (List.forall_mem_append.mpr ⟨creation_of_internal hout,
            List.forall_mem_nil _⟩) hnext trivial rfl
      | undefinedBehaviour =>
          exact hmove (List.forall_mem_append.mpr ⟨creation_of_internal hout,
            List.forall_mem_nil _⟩) hnext trivial rfl
      | _ => cases hends
  | replies m out ack hnext hout hack =>
      refine hmove (List.forall_mem_append.mpr ⟨creation_of_internal hout,
        List.forall_mem_singleton.mpr ?_⟩) hnext trivial rfl
      have hcase : ack.data.dataCase ≠ .kActorCreate := by
        intro hdata
        generalize ack.data = data at hack hdata
        cases data with
        | actorCreate child => exact hack child rfl
        | _ => cases hdata
      simpa [SimOutput.creation] using hcase
  | suspends m out call frame hnext hout hcall hframe =>
      exact hmove (List.forall_mem_append.mpr ⟨creation_of_internal hout, List.forall_mem_nil _⟩)
        hnext (placed_calling hcall hframe) rfl
  | yields actor connectAck _ hfind hpoint => exact (hnone hfind hpoint rfl).elim
  | waits actor connectAck _ hfind hpoint => exact (hnone hfind hpoint rfl).elim
  | asks actor canConnectAck connectAck child _ hfind hpoint => exact (hnone hfind hpoint rfl).elim
  | tells canConnectAck child _ hfind => exact (hnone hfind rfl rfl).elim
  | delivers actor payload data _ _ _ =>
      exact hmove (List.forall_mem_cons.mpr ⟨rfl, List.forall_mem_cons.mpr ⟨rfl,
        List.forall_mem_singleton.mpr rfl⟩⟩) le_rfl trivial rfl
  | requests out name host hout =>
      have hfresh : ∀ queue, s.memory.next ≤ queue → creations queue = none :=
        fun queue hqueue => hinv.none_of_le hqueue
      refine ⟨_, .requested p _ hevent (List.forall_mem_append.mpr ⟨hout, List.forall_mem_nil _⟩), ?_⟩
      refine hinv.advance hs ((hpoints p).trans (if_pos rfl)) ?_ (fun queue phase _ => hparent queue phase)
        (fun q hq => Or.inl ((hpoints q).trans (if_neg hq))) hcurrent (fun hwaits => by cases hwaits)
        ⟨⟨name, host, rfl⟩, rfl, Function.update_self ..⟩ ?_ ?_ ?_ ?_ ?_
      · intro old hold
        rw [hfresh _ le_rfl] at hold
        cases hold
      · rw [hmemory]
        exact Nat.le_add_right _ _
      · rw [hmemory]
        exact ⟨hinv.next, Nat.lt_succ_self _⟩
      · refine ⟨hfresh _ (Nat.le_succ _), fun queue heq => ?_⟩
        cases hcreation : creations queue with
        | none => rfl
        | some creation =>
            have hlt := (hinv.allocated queue creation hcreation).2
            rw [heq] at hlt
            exact absurd hlt (lt_irrefl _)
      · intro child hchild
        cases hchild
      · intro point'' hphase
        cases hphase

/-- The return of the call that creates an actor. -/
theorem Resumed.created {k : K.State} {m : Memory} {ret : S4uReturn} {queue connectAck : Queue}
    (h : Resumed K k p socket (.actorCreate queue connectAck) ret m segment) :
    ret.isException = true ∧ segment = { memory := m, outcome := .escaped } ∨
    ∃ child, ret = .pid child ∧
      segment = { memory := m
                  out := [.push toCommand (.actorCreate child queue connectAck)]
                  outcome := .waitCanConnectAck queue child } := by
  cases h with
  | escaped hexception => exact Or.inl ⟨hexception, rfl⟩
  | actorCreated _ _ child heq hret =>
      cases heq
      exact Or.inr ⟨child, hret, rfl⟩
  | existingComm _ _ heq => rcases heq with heq | ⟨_, heq⟩ <;> cases heq
  | conditionVariableStatus _ _ _ _ _ heq => rcases heq with ⟨heq, -⟩ | ⟨heq, -⟩ <;> cases heq
  | _ => contradiction

theorem Ran.creation (h : Ran s event p socket segment) (hinv : CreationInv s creations)
    (hmsg : ∀ msg, event = .canConnectAck msg → msg = .actorCreateAck) :
    ∃ creations', CreationStep s event creations (segment.out ++ segment.outcome.out p socket) creations' ∧
      CreationInv (({ s with ready := event.remaining s.ready }).conclude p socket segment).1
        creations' := by
  have hcurrent : s.current = none ∨ s.current = some p := h.current.imp_left And.right
  have hpoints := h.points
  have hpoint : ∀ {actor : ServerActor}, s.actors.find p = some actor →
      s.point p = some actor.point := fun hfind => point_eq_some.mpr ⟨_, hfind, rfl⟩
  have hplain : ∀ {actor : ServerActor}, s.actors.find p = some actor → actor.point.plain = true →
      (∀ msg, event ≠ .canConnectAck msg) → ∃ creations', CreationStep s event creations
        (segment.out ++ segment.outcome.out p socket) creations' ∧
        CreationInv (({ s with ready := event.remaining s.ready }).conclude p socket segment).1
          creations' :=
    fun hfind hplain hevent =>
      h.turn.creation hinv (hpoint hfind) hplain hevent hcurrent hpoints rfl rfl
  have hturn := h.turn
  cases h with
  | firstYield _ actor connectAck _ hfind hspawned =>
      have hs := hpoint hfind
      have hchild := hinv.placed p _ hs
      rw [hspawned] at hs hchild
      refine ⟨creations, .same _ nofun (List.forall_mem_nil _), hinv.move hs ?_ hpoints hcurrent
        (fun hwaits => by cases hwaits) ⟨rfl, hchild⟩ le_rfl⟩
      intro queue phase _ hphase
      cases phase <;> cases hphase
  | resumed _ actor ret frame _ hnone hfind hreturned hresumed =>
      have hs := hpoint hfind
      have hplaced := hinv.placed p _ hs
      rw [hreturned] at hs hplaced
      cases frame with
      | firstYield connectAck =>
          have hparent : ∀ queue phase, creations queue = some ⟨p, phase⟩ →
              phase.parentPoint queue ≠ some (.returned ret (.firstYield connectAck)) := by
            intro queue phase _ hphase
            cases phase <;> cases hphase
          cases hresumed.looped rfl with
          | escaped =>
              exact ⟨creations, .same _ nofun (List.forall_mem_nil _), hinv.move hs hparent hpoints hcurrent
                (fun hwaits => by cases hwaits) trivial le_rfl⟩
          | connected =>
              exact ⟨creations, .same _ nofun (List.forall_mem_nil _), hinv.move hs hparent hpoints hcurrent
                (fun _ => rfl) hplaced le_rfl⟩
      | actorCreate queue connectAck =>
          rcases hresumed.created with ⟨hexception, rfl⟩ | ⟨child, rfl, rfl⟩
          · refine ⟨creations, .same _ nofun (List.forall_mem_nil _), hinv.move hs ?_ hpoints hcurrent
              (fun hwaits => by cases hwaits) trivial le_rfl⟩
            intro queue' phase _ hphase
            cases phase <;> cases hphase
            cases hexception
          · obtain ⟨rfl, hcreation⟩ := hplaced
            refine ⟨_, .announced p queue child rfl hnone hcreation, ?_⟩
            refine hinv.proceed hcreation rfl rfl hpoints hcurrent (fun _ => rfl)
              (Or.inl (Function.update_self ..)) le_rfl ?_
            intro point hphase
            cases hphase
            rfl
      | _ => exact hplain hfind (by rw [hreturned]; rfl) nofun
  | decided _ _ d _ hfind _ => exact hplain hfind rfl nofun
  | thinking _ _ d _ hfind _ => exact hplain hfind rfl nofun
  | badThinkTime _ _ d what _ hfind _ => exact hplain hfind rfl nofun
  | readFailed _ _ e _ hfind => exact hplain hfind rfl nofun
  | childAccepted _ _ queue child hrunning hfind =>
      have hs := hpoint hfind
      refine ⟨_, .told p socket queue child rfl hrunning hs, ?_⟩
      have htold : ∀ old : CreationPhase, creations queue = some ⟨p, old⟩ → old.child = some child →
          old.parentPoint queue = some (.waitingCanConnectAck queue child) →
          CreationInv (({ s with ready := s.ready }).conclude p socket
            { memory := s.memory
              out := [.writeAck p socket { success := true, data := .actorCreate { id := child } }]
              outcome := .finished { success := true, data := .actorCreate { id := child } }
                false false }).1 (Function.update creations queue (some ⟨p, .told child⟩)) :=
        fun old hcreation hchild hparent => hinv.proceed hcreation hchild hparent hpoints hcurrent
          (fun hwaits => by cases hwaits) trivial le_rfl (fun _ hphase => by cases hphase)
      rcases hinv.placed p _ hs with hcreation | hcreation
      · exact htold _ hcreation rfl rfl
      · exact htold _ hcreation rfl rfl
  | badCanConnectAck _ _ _ _ msg _ _ _ hbad => exact absurd (hmsg msg rfl) hbad

theorem point_insert {child q : Pid} {actor : ServerActor} (hnone : s.actors.find child = none) :
    ({ s with actors := s.actors.insert child actor } : Simulation K).point q =
      if q = child then some actor.point else s.point q := by
  simp only [Simulation.point, UnorderedMap.find_insert, hnone, and_true]
  split
  · rfl
  · rfl

theorem CreationInv.same (h : CreationInv s creations) (hpoints : ∀ q, t.point q = s.point q)
    (hcurrent : t.current = s.current) (hnext : t.memory.next = s.memory.next) :
    CreationInv t creations where
  next := hnext ▸ h.next
  allocated queue creation hcreation := by
    rw [hnext]
    exact h.allocated queue creation hcreation
  paired := h.paired
  known queue creation child hcreation hchild := by
    rw [hpoints]
    exact h.known queue creation child hcreation hchild
  single := h.single
  placed q point hq := by
    rw [hpoints] at hq
    exact h.placed q point hq
  running q point hq hwaits := by
    rw [hpoints] at hq
    rw [hcurrent]
    exact h.running q point hq hwaits
  parents queue creation point hcreation hphase := by
    rw [hpoints]
    exact h.parents queue creation point hcreation hphase

/-- SimGrid has executed a call. -/
theorem serve_creation {actor : ServerActor} {call : S4uCall} {frame : Frame} {ret : S4uReturn}
    {kernel : K.State} (hinv : CreationInv s creations) (hnone : s.current = none)
    (hfind : s.actors.find p = some actor) (hpoint : actor.point = .calling call frame)
    (hserve : s.serve p call frame ret kernel = some t) :
    ∃ creations', CreationStep s (.serve p ret) creations [.served p call ret] creations' ∧
      CreationInv t creations' := by
  have hs : s.point p = some (.calling call frame) := point_eq_some.mpr ⟨actor, hfind, hpoint⟩
  have hplaced := hinv.placed p _ hs
  have hparent : ∀ queue phase, creations queue = some ⟨p, phase⟩ →
      phase.parentPoint queue ≠ some (.calling call frame) := by
    intro queue phase _ hphase
    cases phase <;> cases hphase
  have hpoints : ∀ q, (s.answered p frame ret kernel).point q =
      if q = p then some (.returned ret frame) else s.point q := by
    intro q
    change (s.setPoint p (.returned ret frame)).point q = _
    rw [point_setPoint, hs]
    rfl
  have hanswered : t = s.answered p frame ret kernel → Placed creations p (.returned ret frame) →
      ∃ creations', CreationStep s (.serve p ret) creations [.served p call ret] creations' ∧
        CreationInv t creations' := by
    rintro rfl hplaced'
    exact ⟨creations, .same _ (fun _ h => by cases h) (List.forall_mem_singleton.mpr rfl),
      hinv.move hs hparent hpoints (Or.inl hnone) (fun hwaits => by cases hwaits) hplaced' le_rfl⟩
  cases frame with
  | actorCreate queue connectAck =>
      obtain ⟨⟨name, host, rfl⟩, rfl, hcreation⟩ := hplaced
      cases ret with
      | pid child =>
          simp only [Simulation.serve] at hserve
          split at hserve
          · rename_i hfresh
            cases hserve
            have hchild : (s.answered p (.actorCreate queue (queue + 1)) (.pid child) kernel).point child =
                none := point_eq_none.mpr hfresh
            have hne : child ≠ p := by
              rintro rfl
              rw [hpoints, if_pos rfl] at hchild
              cases hchild
            have hunknown : s.point child = none := by rwa [hpoints, if_neg hne] at hchild
            have hafter : ∀ q, Simulation.point
                { s.answered p (.actorCreate queue (queue + 1)) (.pid child) kernel with
                  actors :=
                    (s.answered p (.actorCreate queue (queue + 1)) (.pid child) kernel).actors.insert child
                      { point := .spawned (some (queue + 1)) }
                  due := (s.answered p (.actorCreate queue (queue + 1)) (.pid child) kernel).due ++
                    [child] } q =
                if q = child then some (.spawned (some (queue + 1)))
                else if q = p then some (.returned (.pid child) (.actorCreate queue (queue + 1)))
                else s.point q := by
              intro q
              rw [← hpoints q]
              exact point_insert hfresh
            have hp := hafter p
            rw [if_neg hne.symm, if_pos rfl] at hp
            refine ⟨_, .created p queue child _ hnone rfl hcreation hunknown, ?_⟩
            refine hinv.advance hs hp ?_ (fun queue' phase _ => hparent queue' phase) ?_
              (Or.inl hnone) (fun hwaits => by cases hwaits) ⟨rfl, Function.update_self ..⟩ le_rfl
              (hinv.allocated queue _ hcreation) (hinv.pair hcreation) ?_ ?_
            · intro old hold
              rw [hcreation, Option.some.injEq] at hold
              subst hold
              exact ⟨rfl, fun child' hchild' => by cases hchild'⟩
            · intro q hq
              rw [hafter, if_neg hq]
              split
              · rename_i heq
                subst heq
                refine Or.inr ⟨hunknown, fun point hpoint' => ?_⟩
                cases hpoint'
                exact ⟨⟨queue, _, Function.update_self .., rfl, rfl⟩, rfl⟩
              · exact Or.inl rfl
            · intro child' hchild'
              cases hchild'
              refine ⟨?_, fun queue' creation _ hcreation' hphase =>
                hinv.known queue' creation child hcreation' hphase hunknown⟩
              rw [hafter, if_pos rfl]
              exact fun h => by cases h
            · intro point hphase
              cases hphase
              rfl
          · cases hserve
      | _ => exact hanswered (by simpa [Simulation.serve] using hserve.symm) trivial
  | firstYield connectAck =>
      refine hanswered ?_ hplaced.2
      rcases serve_cases hserve with heq | ⟨name, host, connectAck', child, rfl, -⟩
      · exact heq
      · cases hplaced.1
  | _ =>
      refine hanswered ?_ trivial
      rcases serve_cases hserve with heq | ⟨name, host, connectAck', child, rfl, -⟩
      · exact heq
      · cases hplaced

/-- A step of the SimGrid thread, as long as the command thread acknowledges the creations. -/
theorem CreationInv.step {out : List SimOutput} (h : CreationInv s creations)
    (hstep : SimStep s event t out) (hmsg : ∀ msg, event = .canConnectAck msg → msg = .actorCreateAck) :
    ∃ creations', CreationStep s event creations out creations' ∧ CreationInv t creations' := by
  have hsame : (∀ msg, event ≠ .canConnectAck msg) → (∀ o ∈ out, o.creation = false) →
      (∀ q, t.point q = s.point q) → t.current = s.current → t.memory.next = s.memory.next →
      ∃ creations', CreationStep s event creations out creations' ∧ CreationInv t creations' :=
    fun hevent hout hpoints hcurrent hnext =>
      ⟨creations, .same out hevent hout, h.same hpoints hcurrent hnext⟩
  cases hstep with
  | ran _ p socket segment hran => exact hran.creation h hmsg
  | started p actor hnone hfind hpoint =>
      have hs : s.point p = some (.spawned none) := point_eq_some.mpr ⟨actor, hfind, hpoint⟩
      have hpoints : ∀ q, (s.setPoint p .reading).point q =
          if q = p then some .reading else s.point q := by
        intro q
        rw [point_setPoint, hs]
        rfl
      refine ⟨creations, .same _ (fun _ h => by cases h) (List.forall_mem_nil _),
        h.move hs ?_ hpoints (Or.inl hnone) (fun _ => rfl) trivial le_rfl⟩
      intro queue phase _ hphase
      cases phase <;> cases hphase
  | served p actor call frame ret kernel _ hnone hfind hpoint _ hserve =>
      exact serve_creation h hnone hfind hpoint hserve
  | progressed e kernel writes _ _ _ =>
      refine hsame (fun _ h => by cases h) (creation_of_internal ?_) (fun _ => rfl) rfl rfl
      intro o ho
      obtain ⟨write, -, rfl⟩ := List.mem_map.mp ho
      rfl
  | progressFailed => exact hsame (fun _ h => by cases h) (List.forall_mem_nil _) (fun _ => rfl) rfl rfl
  | round => exact hsame (fun _ h => by cases h) (List.forall_mem_nil _) (fun _ => rfl) rfl rfl
  | connected p socket connectAck socket' hrunning hfind =>
      have hs : s.point p = some (.waitingConnectAck connectAck) := point_eq_some.mpr ⟨_, hfind, rfl⟩
      have hpoints : ∀ q, ({ s with
          actors := s.actors.modify p fun _ => { socket := socket', point := .reading } } :
            Simulation K).point q = if q = p then some .reading else s.point q := by
        intro q
        simp only [Simulation.point, UnorderedMap.find_modify]
        split
        · rw [hfind]
          rfl
        · rfl
      refine ⟨creations, .same _ (fun _ h => by cases h) (List.forall_mem_nil _),
        h.move hs ?_ hpoints (Or.inr hrunning) (fun _ => hrunning) trivial le_rfl⟩
      intro queue phase _ hphase
      cases phase <;> cases hphase
  | connectFailed p socket connectAck msg hrunning hfind _ =>
      have hs : s.point p = some (.waitingConnectAck connectAck) := point_eq_some.mpr ⟨_, hfind, rfl⟩
      have hpoints : ∀ q, (s.setPoint p .terminated).point q =
          if q = p then some .terminated else s.point q := by
        intro q
        rw [point_setPoint, hs]
        rfl
      refine ⟨creations, .same _ (fun _ h => by cases h) (List.forall_mem_nil _),
        h.move hs ?_ hpoints (Or.inr hrunning) (fun hwaits => by cases hwaits) trivial le_rfl⟩
      intro queue phase _ hphase
      cases phase <;> cases hphase

/-- `maestro` spawns an actor for each connection. -/
theorem point_spawn {connections : List ActorConnection} {p : Pid}
    (h : ∃ connection ∈ connections, connection.actorId = p) :
    (Simulation.spawn K connections).point p ≠ none := by
  have hfold : ∀ (connections : List ActorConnection) (actors : UnorderedMap Pid ServerActor),
      actors.find p ≠ none ∨ (∃ connection ∈ connections, connection.actorId = p) →
      (connections.foldl (fun actors connection => actors.insert connection.actorId
        { socket := connection.socket.getD 0, point := .spawned none }) actors).find p ≠ none := by
    intro connections
    induction connections with
    | nil => exact fun actors hor => hor.resolve_right (by simp)
    | cons connection connections ih =>
        intro actors hor
        refine ih _ ?_
        rw [UnorderedMap.find_insert]
        rcases hor with hfind | ⟨other, hmem, hid⟩
        · refine Or.inl ?_
          split
          · exact fun h => by cases h
          · exact hfind
        · rcases List.mem_cons.mp hmem with rfl | hmem
          · refine Or.inl ?_
            split
            · exact fun h => by cases h
            · rename_i hnot
              exact fun hnone => hnot ⟨hid.symm, hid ▸ hnone⟩
          · exact Or.inr ⟨other, hmem, hid⟩
  exact fun hnone => hfold connections ∅ (Or.inr h) (point_eq_none.mp hnone)

theorem CreationInv.spawn (connections : List ActorConnection) :
    CreationInv (Simulation.spawn K connections) fun _ => none where
  next := le_rfl
  allocated queue creation hcreation := by cases hcreation
  paired queue creation hcreation := rfl
  known queue creation child hcreation := by cases hcreation
  single queue queue' creation creation' child hcreation := by cases hcreation
  placed p point hp := by
    obtain ⟨actor, hfind, rfl⟩ := point_eq_some.mp hp
    rw [find_spawn hfind]
    trivial
  running p point hp hwaits := by
    obtain ⟨actor, hfind, rfl⟩ := point_eq_some.mp hp
    rw [find_spawn hfind] at hwaits
    cases hwaits
  parents queue creation point hcreation := by cases hcreation

end

end RemoteSimgrid
