import RemoteSimgrid.ServerCreation

/-! The scheduling rounds of SimGrid. A created actor yields before it waits for its socket, so the
actor that created it has run in the meantime, and waited for the command thread. -/

namespace RemoteSimgrid

open Machine Pb

/-- An actor that SimGrid can run. -/
def ActorPoint.able : ActorPoint → Bool
  | .spawned _ | .returned _ _ => true
  | _ => false

/-- SimGrid runs the actors that are ready, in any order, and begins a round once it has run all. -/
def InRounds {K : S4u} (s : Server K) : ServerEvent K → Prop
  | .simulation (.schedule p) => p ∈ s.simulation.ready
  | .simulation .round => s.simulation.ready = []
  | _ => True

instance {K : S4u} (s : Server K) (event : ServerEvent K) : Decidable (InRounds s event) := by
  unfold InRounds
  split <;> infer_instance

section

variable {K : S4u} {s t : Simulation K} {event : SimEvent K} {out : List SimOutput}
  {creations creations' : Creations} {p : Pid} {socket : Socket} {segment : Segment}

/-- Where a created actor can be while the actor that created it has not run. -/
inductive Early (s : Simulation K) (child : Pid) (connectAck : Queue) : Prop
  | spawned : s.point child = some (.spawned (some connectAck)) → Early s child connectAck
  | yielding (call : S4uCall) : s.point child = some (.calling call (.firstYield connectAck)) →
      Early s child connectAck
  | yielded (ret : S4uReturn) : s.point child = some (.returned ret (.firstYield connectAck)) →
      child ∈ s.due → Early s child connectAck

/-- The rounds: an actor is in one at most once; a created actor and the actor that created it become
ready together. -/
structure RoundInv (s : Simulation K) (creations : Creations) : Prop where
  nodup : (s.ready ++ s.due).Nodup
  able : ∀ p ∈ s.ready ++ s.due, ∃ point, s.point p = some point ∧ point.able = true
  together : ∀ queue p child, creations queue = some ⟨p, .created child⟩ →
    (p ∈ s.due ∧ child ∈ s.due ∧ s.point child = some (.spawned (some (queue + 1)))) ∨
      (p ∈ s.ready ∧ Early s child (queue + 1))

/-- Where an actor is before its turn. -/
theorem Ran.before (h : Ran s event p socket segment) :
    (event = .schedule p ∧ ((∃ connectAck, s.point p = some (.spawned (some connectAck)) ∧
        segment.outcome = .call .yield (.firstYield connectAck)) ∨
      ∃ ret frame, s.point p = some (.returned ret frame))) ∨
    ((∀ q, event ≠ .schedule q) ∧ (s.point p = some .reading ∨
      ∃ queue child, s.point p = some (.waitingCanConnectAck queue child))) := by
  cases h with
  | firstYield _ actor connectAck _ hfind hpoint =>
      exact Or.inl ⟨rfl, Or.inl ⟨connectAck, point_eq_some.mpr ⟨actor, hfind, hpoint⟩, rfl⟩⟩
  | resumed _ actor ret frame _ _ hfind hpoint _ =>
      exact Or.inl ⟨rfl, Or.inr ⟨ret, frame, point_eq_some.mpr ⟨actor, hfind, hpoint⟩⟩⟩
  | decided _ _ _ _ hfind _ => exact Or.inr ⟨nofun, Or.inl (point_eq_some.mpr ⟨_, hfind, rfl⟩)⟩
  | thinking _ _ _ _ hfind _ => exact Or.inr ⟨nofun, Or.inl (point_eq_some.mpr ⟨_, hfind, rfl⟩)⟩
  | badThinkTime _ _ _ _ _ hfind _ =>
      exact Or.inr ⟨nofun, Or.inl (point_eq_some.mpr ⟨_, hfind, rfl⟩)⟩
  | readFailed _ _ _ _ hfind => exact Or.inr ⟨nofun, Or.inl (point_eq_some.mpr ⟨_, hfind, rfl⟩)⟩
  | childAccepted _ _ queue child _ hfind =>
      exact Or.inr ⟨nofun, Or.inr ⟨queue, child, point_eq_some.mpr ⟨_, hfind, rfl⟩⟩⟩
  | badCanConnectAck _ _ queue child _ _ _ hfind _ =>
      exact Or.inr ⟨nofun, Or.inr ⟨queue, child, point_eq_some.mpr ⟨_, hfind, rfl⟩⟩⟩

/-- A creation whose actor has just been created, after a step. -/
theorem CreationStep.created_inv (h : CreationStep s event creations out creations') {queue : Queue}
    {child : Pid} (hcreation : creations' queue = some ⟨p, .created child⟩) :
    creations queue = some ⟨p, .created child⟩ ∨
      event = .serve p (.pid child) ∧ s.point child = none := by
  have hupdate : ∀ {queue' : Queue} {creation : Creation},
      Function.update creations queue' (some creation) queue = some ⟨p, .created child⟩ →
      creations queue = some ⟨p, .created child⟩ ∨ creation = ⟨p, .created child⟩ := by
    intro queue' creation hupdated
    by_cases hqueue : queue = queue'
    · rw [hqueue, Function.update_self, Option.some.injEq] at hupdated
      exact Or.inr hupdated
    · rw [Function.update_of_ne hqueue] at hupdated
      exact Or.inl hupdated
  cases h with
  | same => exact Or.inl hcreation
  | requested => exact (hupdate hcreation).imp_right nofun
  | created q queue' child' call _ hevent _ hunknown =>
      refine (hupdate hcreation).imp_right ?_
      intro heq
      cases heq
      exact ⟨hevent, hunknown⟩
  | announced => exact (hupdate hcreation).imp_right nofun
  | told => exact (hupdate hcreation).imp_right nofun

/-- The rule for an actor that moves and is in no round afterwards. -/
theorem RoundInv.leave {point point' : ActorPoint} (h : RoundInv s creations)
    (hinv' : CreationInv t creations') (hs : s.point p = some point)
    (hready : p ∈ s.ready ∧ t.ready = s.ready.erase p ∨ point.able = false ∧ t.ready = s.ready)
    (hdue : t.due = s.due) (hpoints : ∀ q, t.point q = if q = p then some point' else s.point q)
    (hnot : ∀ ret frame, point' ≠ .returned ret frame) (hidle : ∀ call frame, point ≠ .calling call frame)
    (hyield : ∀ connectAck, point = .spawned (some connectAck) →
      point' = .calling .yield (.firstYield connectAck))
    (hcreated : ∀ queue parent child, creations' queue = some ⟨parent, .created child⟩ →
      creations queue = some ⟨parent, .created child⟩) : RoundInv t creations' := by
  have hout : p ∉ t.ready ++ t.due := by
    rcases hready with ⟨hmem, hready⟩ | ⟨hable, hready⟩
    · obtain ⟨hnodup, -, hdisjoint⟩ := List.nodup_append.mp h.nodup
      rw [hready, hdue, List.mem_append]
      rintro (hmem' | hmem')
      · exact (hnodup.mem_erase_iff.mp hmem').1 rfl
      · exact hdisjoint p hmem p hmem' rfl
    · rw [hready, hdue]
      intro hmem
      obtain ⟨point'', hpoint, hable'⟩ := h.able p hmem
      rw [hs, Option.some.injEq] at hpoint
      rw [← hpoint, hable] at hable'
      cases hable'
  have hsub : (t.ready ++ t.due).Sublist (s.ready ++ s.due) := by
    rw [hdue]
    refine List.Sublist.append ?_ (List.Sublist.refl _)
    rcases hready with ⟨-, hready⟩ | ⟨-, hready⟩
    · rw [hready]
      exact List.erase_sublist
    · rw [hready]
  have hstays : ∀ q, q ≠ p → q ∈ s.ready → q ∈ t.ready := by
    intro q hq hmem
    rcases hready with ⟨-, hready⟩ | ⟨-, hready⟩
    · rw [hready]
      exact (List.mem_erase_of_ne hq).mpr hmem
    · rwa [hready]
  refine ⟨h.nodup.sublist hsub, ?_, ?_⟩
  · intro q hmem
    have hne : q ≠ p := by
      rintro rfl
      exact hout hmem
    obtain ⟨point'', hpoint, hable⟩ := h.able q (hsub.subset hmem)
    exact ⟨point'', by rw [hpoints, if_neg hne, hpoint], hable⟩
  · intro queue parent child hcreation
    have hparent := hinv'.parents queue _ _ hcreation rfl
    have hne : parent ≠ p := by
      rintro rfl
      rw [hpoints, if_pos rfl, Option.some.injEq] at hparent
      exact hnot _ _ hparent
    rcases h.together queue parent child (hcreated queue parent child hcreation) with
      ⟨hfirst, hsecond, hspawned⟩ | ⟨hmem, hearly⟩
    · have hchild : child ≠ p := by
        rintro rfl
        exact hout (List.mem_append_right _ (by rw [hdue]; exact hsecond))
      rw [hdue, hpoints, if_neg hchild]
      exact Or.inl ⟨hfirst, hsecond, hspawned⟩
    · refine Or.inr ⟨hstays parent hne hmem, ?_⟩
      by_cases hchild : child = p
      · subst hchild
        have hnow : t.point child = some point' := by rw [hpoints, if_pos rfl]
        cases hearly with
        | spawned hspawned =>
            rw [hs, Option.some.injEq] at hspawned
            exact .yielding .yield (by rw [hnow, hyield _ hspawned])
        | yielding call hyielding =>
            rw [hs, Option.some.injEq] at hyielding
            exact absurd hyielding (hidle _ _)
        | yielded ret _ hmem' => exact absurd (List.mem_append_right _ (by rw [hdue]; exact hmem')) hout
      · have hsame : t.point child = s.point child := by rw [hpoints, if_neg hchild]
        cases hearly with
        | spawned hspawned => exact .spawned (hsame.trans hspawned)
        | yielding call hyielding => exact .yielding call (hsame.trans hyielding)
        | yielded ret hyielded hmem' =>
            exact .yielded ret (hsame.trans hyielded) (by rw [hdue]; exact hmem')

theorem RoundInv.ran (h : RoundInv s creations) (hinv' : CreationInv t creations')
    (hran : Ran s event p socket segment)
    (ht : t = (({ s with ready := event.remaining s.ready }).conclude p socket segment).1)
    (hround : ∀ q, event = .schedule q → q ∈ s.ready)
    (hcreated : ∀ queue parent child, creations' queue = some ⟨parent, .created child⟩ →
      creations queue = some ⟨parent, .created child⟩) : RoundInv t creations' := by
  have hpoints : ∀ q, t.point q = if q = p then some segment.outcome.point else s.point q := by
    rw [ht]
    exact hran.points
  have hready : t.ready = event.remaining s.ready := by rw [ht]; rfl
  have hdue : t.due = s.due := by rw [ht]; rfl
  have hnot : ∀ ret frame, segment.outcome.point ≠ .returned ret frame := point_ne_returned _
  rcases hran.before with ⟨rfl, hbefore⟩ | ⟨hevent, hbefore⟩
  · have hready' : p ∈ s.ready ∧ t.ready = s.ready.erase p := ⟨hround p rfl, hready⟩
    rcases hbefore with ⟨connectAck, hs, houtcome⟩ | ⟨ret, frame, hs⟩
    · refine h.leave hinv' hs (Or.inl hready') hdue hpoints hnot
        (fun _ _ hcalling => by cases hcalling) ?_ hcreated
      rintro _ ⟨⟩
      rw [houtcome]
      rfl
    · exact h.leave hinv' hs (Or.inl hready') hdue hpoints hnot
        (fun _ _ hcalling => by cases hcalling) (fun _ hspawned => by cases hspawned) hcreated
  · have hready' : t.ready = s.ready := by
      rw [hready]
      cases event with
      | schedule q => exact absurd rfl (hevent q)
      | _ => rfl
    rcases hbefore with hs | ⟨queue, child, hs⟩
    · exact h.leave hinv' hs (Or.inr ⟨rfl, hready'⟩) hdue hpoints hnot
        (fun _ _ hcalling => by cases hcalling) (fun _ hspawned => by cases hspawned) hcreated
    · exact h.leave hinv' hs (Or.inr ⟨rfl, hready'⟩) hdue hpoints hnot
        (fun _ _ hcalling => by cases hcalling) (fun _ hspawned => by cases hspawned) hcreated

/-- SimGrid has executed a call: its caller is ready for the next round, with the actor it created. -/
theorem RoundInv.served {actor : ServerActor} {call : S4uCall} {frame : Frame} {ret : S4uReturn}
    {kernel : K.State} (h : RoundInv s creations) (hinv : CreationInv s creations)
    (hinv' : CreationInv t creations') (hfind : s.actors.find p = some actor)
    (hpoint : actor.point = .calling call frame) (hserve : s.serve p call frame ret kernel = some t)
    (hcreated : ∀ queue parent child, creations' queue = some ⟨parent, .created child⟩ →
      creations queue = some ⟨parent, .created child⟩ ∨
        parent = p ∧ ret = .pid child ∧ s.point child = none) : RoundInv t creations' := by
  have hs : s.point p = some (.calling call frame) := point_eq_some.mpr ⟨actor, hfind, hpoint⟩
  have hidle : ∀ point, s.point p = some point → point.able = false := by
    intro point hp
    rw [hs, Option.some.injEq] at hp
    rw [← hp]
    rfl
  have hout : p ∉ s.ready ++ s.due := by
    intro hmem
    obtain ⟨point, hp, hable⟩ := h.able p hmem
    rw [hidle point hp] at hable
    cases hable
  have hanswered : ∀ q, (s.answered p frame ret kernel).point q =
      if q = p then some (.returned ret frame) else s.point q := by
    intro q
    change (s.setPoint p (.returned ret frame)).point q = _
    rw [point_setPoint, hs]
    rfl
  -- the actors that become ready, with the points of all of them
  obtain ⟨others, hready, hdue, hpoints, hothers⟩ : ∃ others, t.ready = s.ready ∧
      t.due = s.due ++ p :: others ∧
      (∀ q, q ∉ others → t.point q = if q = p then some (.returned ret frame) else s.point q) ∧
      (others = [] ∧ (∀ q, s.point q = none → t.point q = none) ∨
        ∃ child connectAck, others = [child] ∧ ret = .pid child ∧ s.point child = none ∧
          t.point child = some (.spawned (some connectAck)) ∧
          ∃ name host, call = .actorCreate name host connectAck) := by
    rcases serve_cases hserve with rfl | ⟨name, host, connectAck, child, rfl, rfl, hfresh, rfl⟩
    · refine ⟨[], rfl, rfl, fun q _ => hanswered q, Or.inl ⟨rfl, fun q hq => ?_⟩⟩
      rw [hanswered, if_neg, hq]
      rintro rfl
      rw [hs] at hq
      cases hq
    · have hchild : s.point child = none := by
        have hnone := point_eq_none.mpr hfresh
        rw [hanswered] at hnone
        split at hnone
        · cases hnone
        · exact hnone
      refine ⟨[child], rfl, List.append_assoc .., fun q hq => ?_,
        Or.inr ⟨child, connectAck, rfl, rfl, hchild, ?_, name, host, rfl⟩⟩
      · rw [← hanswered q]
        exact (point_insert hfresh).trans (if_neg fun heq => hq (List.mem_singleton.mpr heq))
      · exact (point_insert hfresh).trans (if_pos rfl)
  have hfresh : ∀ q ∈ others, s.point q = none ∧ ∃ connectAck,
      t.point q = some (.spawned (some connectAck)) := by
    intro q hq
    rcases hothers with ⟨rfl, -⟩ | ⟨child, connectAck, rfl, -, hchild, hspawned, -⟩
    · cases hq
    · rw [List.mem_singleton.mp hq]
      exact ⟨hchild, connectAck, hspawned⟩
  have hsame : ∀ q, q ≠ p → s.point q ≠ none → t.point q = s.point q := by
    intro q hne hq
    rw [hpoints q fun hmem => hq (hfresh q hmem).1, if_neg hne]
  have hp : t.point p = some (.returned ret frame) := by
    rw [hpoints p, if_pos rfl]
    intro hmem
    have hnone := (hfresh p hmem).1
    rw [hs] at hnone
    cases hnone
  have hold : ∀ q ∈ s.ready ++ s.due, q ≠ p ∧ s.point q ≠ none := by
    intro q hmem
    obtain ⟨point, hq, -⟩ := h.able q hmem
    refine ⟨?_, by rw [hq]; exact nofun⟩
    rintro rfl
    exact hout hmem
  have hall : t.ready ++ t.due = (s.ready ++ s.due) ++ p :: others := by
    rw [hready, hdue, List.append_assoc]
  refine ⟨?_, ?_, ?_⟩
  · rw [hall]
    refine List.nodup_append.mpr ⟨h.nodup, ?_, ?_⟩
    · rcases hothers with ⟨rfl, -⟩ | ⟨child, _, rfl, -, hchild, -⟩
      · exact List.nodup_singleton p
      · refine List.nodup_cons.mpr ⟨?_, List.nodup_singleton child⟩
        rw [List.mem_singleton]
        rintro rfl
        rw [hs] at hchild
        cases hchild
    · rintro q hq q' hq' rfl
      rcases List.mem_cons.mp hq' with rfl | hmem
      · exact (hold q hq).1 rfl
      · exact (hold q hq).2 (hfresh q hmem).1
  · intro q hmem
    rw [hall] at hmem
    rcases List.mem_append.mp hmem with hmem | hmem
    · obtain ⟨point, hq, hable⟩ := h.able q hmem
      exact ⟨point, (hsame q (hold q hmem).1 (hold q hmem).2).trans hq, hable⟩
    · rcases List.mem_cons.mp hmem with rfl | hmem
      · exact ⟨_, hp, rfl⟩
      · obtain ⟨-, connectAck, hspawned⟩ := hfresh q hmem
        exact ⟨_, hspawned, rfl⟩
  · intro queue parent child hcreation
    rcases hcreated queue parent child hcreation with hbefore | ⟨rfl, rfl, hunknown⟩
    · have hchild := hinv.known queue _ child hbefore rfl
      rcases h.together queue parent child hbefore with ⟨hfirst, hsecond, hspawned⟩ | ⟨hmem, hearly⟩
      · refine Or.inl ⟨?_, ?_, ?_⟩
        · rw [hdue]
          exact List.mem_append_left _ hfirst
        · rw [hdue]
          exact List.mem_append_left _ hsecond
        · rw [hsame child (hold child (List.mem_append_right _ hsecond)).1 hchild, hspawned]
      · refine Or.inr ⟨by rw [hready]; exact hmem, ?_⟩
        by_cases heq : child = p
        · subst heq
          cases hearly with
          | spawned hspawned =>
              rw [hs] at hspawned
              cases hspawned
          | yielding _ hyielding =>
              rw [hs] at hyielding
              cases hyielding
              exact .yielded ret hp (by rw [hdue]; exact List.mem_append_right _ (List.mem_cons_self ..))
          | yielded _ hyielded =>
              rw [hs] at hyielded
              cases hyielded
        · have hkept := hsame child heq hchild
          cases hearly with
          | spawned hspawned => exact .spawned (hkept.trans hspawned)
          | yielding _ hyielding => exact .yielding _ (hkept.trans hyielding)
          | yielded _ hyielded hmem' =>
              exact .yielded _ (hkept.trans hyielded)
                (by rw [hdue]; exact List.mem_append_left _ hmem')
    · -- the actor that was just created
      have hparent := hinv'.parents queue _ _ hcreation rfl
      rw [hp, Option.some.injEq, ActorPoint.returned.injEq] at hparent
      obtain ⟨-, rfl⟩ := hparent
      obtain ⟨⟨name, host, rfl⟩, -⟩ := hinv.placed parent _ hs
      rcases hothers with ⟨-, hnone⟩ | ⟨child', connectAck, rfl, heq, -, hspawned, _, _, hcall⟩
      · exact absurd (hnone child hunknown) (hinv'.known queue _ child hcreation rfl)
      · cases heq
        cases hcall
        refine Or.inl ⟨?_, ?_, hspawned⟩
        · rw [hdue]
          exact List.mem_append_right _ (List.mem_cons_self ..)
        · rw [hdue]
          exact List.mem_append_right _ (List.mem_cons_of_mem _ (List.mem_singleton_self _))

/-- A step of the SimGrid thread keeps the rounds. -/
theorem RoundInv.step (h : RoundInv s creations) (hinv : CreationInv s creations)
    (hinv' : CreationInv t creations') (hstep : SimStep s event t out)
    (hcreation : CreationStep s event creations out creations')
    (hschedule : ∀ q, event = .schedule q → q ∈ s.ready) (hround : event = .round → s.ready = []) :
    RoundInv t creations' := by
  have hold : (∀ q ret, event ≠ .serve q ret) → ∀ queue parent child,
      creations' queue = some ⟨parent, .created child⟩ →
      creations queue = some ⟨parent, .created child⟩ := by
    intro hevent queue parent child hnew
    rcases hcreation.created_inv hnew with hbefore | ⟨heq, -⟩
    · exact hbefore
    · exact absurd heq (hevent _ _)
  have hsame : (∀ q ret, event ≠ .serve q ret) → t.ready = s.ready → t.due = s.due →
      (∀ q, t.point q = s.point q) → RoundInv t creations' := by
    intro hevent hready hdue hpoints
    refine ⟨by rw [hready, hdue]; exact h.nodup, ?_, ?_⟩
    · rw [hready, hdue]
      intro q hmem
      rw [hpoints]
      exact h.able q hmem
    · intro queue parent child hnew
      rw [hready, hdue, hpoints]
      refine (h.together queue parent child (hold hevent queue parent child hnew)).imp_right ?_
      rintro ⟨hmem, hearly⟩
      refine ⟨hmem, ?_⟩
      cases hearly with
      | spawned hspawned => exact .spawned ((hpoints child).trans hspawned)
      | yielding _ hyielding => exact .yielding _ ((hpoints child).trans hyielding)
      | yielded _ hyielded hdue' =>
          exact .yielded _ ((hpoints child).trans hyielded) (by rw [hdue]; exact hdue')
  cases hstep with
  | ran _ q socket segment hran =>
      refine h.ran hinv' hran rfl hschedule (hold ?_)
      rintro q' ret rfl
      cases hran
  | started q actor _ hfind hpoint =>
      have hs : s.point q = some (.spawned none) := point_eq_some.mpr ⟨actor, hfind, hpoint⟩
      have hpoints : ∀ q', (s.setPoint q .reading).point q' =
          if q' = q then some .reading else s.point q' := by
        intro q'
        rw [point_setPoint, hs]
        rfl
      exact h.leave hinv' hs (Or.inl ⟨hschedule q rfl, rfl⟩) rfl hpoints
        (fun _ _ hreturned => by cases hreturned) (fun _ _ hcalling => by cases hcalling)
        (fun _ hspawned => by cases hspawned) (hold (fun _ _ h => by cases h))
  | served q actor call frame ret kernel _ _ hfind hpoint _ hserve =>
      refine h.served hinv hinv' hfind hpoint hserve ?_
      intro queue parent child hnew
      refine (hcreation.created_inv hnew).imp_right ?_
      rintro ⟨heq, hunknown⟩
      cases heq
      exact ⟨rfl, rfl, hunknown⟩
  | progressed e kernel writes _ _ _ => exact hsame (fun _ _ h => by cases h) rfl rfl fun _ => rfl
  | progressFailed e kernel writes _ _ _ => exact hsame (fun _ _ h => by cases h) rfl rfl fun _ => rfl
  | round _ =>
      have hempty := hround rfl
      refine ⟨?_, ?_, ?_⟩
      · rw [List.append_nil]
        exact h.nodup
      · rw [List.append_nil]
        exact h.able
      · intro queue parent child hnew
        rcases h.together queue parent child (hold (fun _ _ h => by cases h) queue parent child hnew) with
          ⟨hfirst, -, hspawned⟩ | ⟨hmem, -⟩
        · exact Or.inr ⟨List.mem_append_right _ hfirst, .spawned hspawned⟩
        · rw [hempty] at hmem
          cases hmem
  | connected q socket connectAck socket' _ hfind =>
      have hs : s.point q = some (.waitingConnectAck connectAck) := point_eq_some.mpr ⟨_, hfind, rfl⟩
      have hpoints : ∀ q', ({ s with
          actors := s.actors.modify q fun _ => { socket := socket', point := .reading } } :
            Simulation K).point q' = if q' = q then some .reading else s.point q' := by
        intro q'
        simp only [Simulation.point, UnorderedMap.find_modify]
        split
        · rw [hfind]
          rfl
        · rfl
      exact h.leave hinv' hs (Or.inr ⟨rfl, rfl⟩) rfl hpoints
        (fun _ _ hreturned => by cases hreturned) (fun _ _ hcalling => by cases hcalling)
        (fun _ hspawned => by cases hspawned) (hold (fun _ _ h => by cases h))
  | connectFailed q socket connectAck msg _ hfind _ =>
      have hs : s.point q = some (.waitingConnectAck connectAck) := point_eq_some.mpr ⟨_, hfind, rfl⟩
      have hpoints : ∀ q', (s.setPoint q .terminated).point q' =
          if q' = q then some .terminated else s.point q' := by
        intro q'
        rw [point_setPoint, hs]
        rfl
      exact h.leave hinv' hs (Or.inr ⟨rfl, rfl⟩) rfl hpoints
        (fun _ _ hreturned => by cases hreturned) (fun _ _ hcalling => by cases hcalling)
        (fun _ hspawned => by cases hspawned) (hold (fun _ _ h => by cases h))

/-- The actors of the first round. -/
theorem RoundInv.spawn {connections : List ActorConnection}
    (hids : (connections.map (·.actorId)).Nodup) :
    RoundInv (Simulation.spawn K connections) fun _ => none where
  nodup := by
    change (connections.map ActorConnection.actorId ++ []).Nodup
    rwa [List.append_nil]
  able p hmem := by
    have hready : p ∈ connections.map ActorConnection.actorId := by
      rcases List.mem_append.mp hmem with hmem | hmem
      · exact hmem
      · cases hmem
    obtain ⟨point, hpoint⟩ :=
      Option.ne_none_iff_exists'.mp (point_spawn (K := K) (List.mem_map.mp hready))
    obtain ⟨actor, hfind, rfl⟩ := point_eq_some.mp hpoint
    exact ⟨_, hpoint, by rw [find_spawn hfind]; rfl⟩
  together queue p child hcreation := by cases hcreation

end

section

variable {K : S4u} {platformFile : String} {s t : Server K} {event : ServerEvent K}
  {creations creations' : Creations} {trace : List ServerOutput} {events : List (ServerEvent K)}

/-- A step of the server keeps the rounds. -/
theorem RoundInv.server_step (h : RoundInv s.simulation creations) (hinv : HandshakeInv s creations trace)
    (hinv' : CreationInv t.simulation creations') (hguard : InRounds s event)
    (hstep : HandshakeStep s event creations t.simulation creations') :
    RoundInv t.simulation creations' := by
  cases hstep with
  | still _ _ hsimulation =>
      rw [hsimulation]
      exact h
  | spawned connections vector _ hnot hsimulation hids =>
      rw [hsimulation, funext (hinv.asleep hnot).1]
      exact RoundInv.spawn hids
  | registered queue p child _ hsimulation hcreation =>
      rw [hsimulation]
      refine ⟨h.nodup, h.able, ?_⟩
      intro queue' p' child' hnew
      refine h.together queue' p' child' ?_
      by_cases hqueue : queue' = queue
      · rw [hqueue, Function.update_self] at hnew
        cases hnew
      · rwa [Function.update_of_ne hqueue] at hnew
  | simulated e sent _ heq hstep hcreation =>
      subst heq
      refine h.step hinv.simulation hinv' (simulationStep_cases hstep).2 hcreation ?_ ?_
      · rintro q rfl
        exact hguard
      · rintro rfl
        exact hguard

theorem roundInv_run (hrun : Run (serverStep K platformFile) {} events s trace)
    (hguard : Throughout (serverStep K platformFile) InRounds {} events) :
    ∃ creations, HandshakeInv s creations trace ∧ RoundInv s.simulation creations := by
  refine hrun.guarded_invariant (P := fun _ s trace => ∃ creations, HandshakeInv s creations trace ∧
    RoundInv s.simulation creations) hguard ⟨fun _ => none, HandshakeInv.init, ?_⟩ ?_
  · exact
      { nodup := List.nodup_nil
        able := fun p hmem => by cases hmem
        together := fun queue p child hcreation => by cases hcreation }
  · rintro labels t trace label u out - ⟨creations, hinv, hround⟩ hlabel hstep
    obtain ⟨creations', hcreation, hinv'⟩ := hinv.step (serverStep_cases hstep)
    exact ⟨creations', hinv', hround.server_step hinv hinv'.simulation hlabel hcreation⟩

end

/-- An actor creates another one, and sleeps; the created actor waits for its socket. -/
def createdActorEvents : List (ServerEvent permissiveS4u) :=
  launchEvents.map .serve ++
    [.launch
        [{ actorName := "b", hostName := "h", actorId := 3, socket := some 12 },
          { actorName := "a", hostName := "h", actorId := 2, socket := some 14 }],
      .simulation (.schedule 3),
      .simulation (.decision { type := .actorCreate { name := "c", host := { name := "h" } } }),
      .simulation (.serve 3 (.pid 7)), .simulation (.schedule 2),
      .simulation (.decision { type := .thisActorSleepFor 1 }), .simulation .round,
      .simulation (.schedule 7), .simulation (.serve 7 .done), .simulation (.schedule 3),
      .serve (.interthread (.actorCreate 7 1 2)), .simulation (.canConnectAck .actorCreateAck),
      .simulation (.decision { type := .thisActorSleepFor 1 }), .simulation .round,
      .simulation (.schedule 7)]

end RemoteSimgrid
