import RemoteSimgrid.ClientHandlesInvariant

/-! The handle protocol over whole runs of the server with its client processes. The two sides meet
in the acknowledgments: a step of the server writes at most one, to the client that waits for it. -/

namespace RemoteSimgrid

open Machine Pb

/-- The decision that the client of an actor waits for. -/
def Clients.pendingOf (c : Clients) (p : Pid) : Option Decision :=
  (c.actors.find p).bind (·.pending)

/-- The handler of a frame works for a client that waits. -/
def Frame.Awaits (frame : Frame) (pending : Option Decision) : Prop :=
  match frame with
  | .firstYield _ => True
  | .thinkTime d => pending = some d
  | frame => ∃ d call, pending = some d ∧ Suspends d call frame

def ActorPoint.Awaits : ActorPoint → Option Decision → Prop
  | .calling _ frame, pending => frame.Awaits pending
  | .returned _ frame, pending => frame.Awaits pending
  | .waitingCanConnectAck _ _, pending => ∃ d, pending = some d ∧ d.type.released = none
  | _, _ => True

/-! ### What a segment tells the client -/

/-- The acknowledgments of a segment, with the entries and the point of its actor after it. -/
inductive Reply (m : Memory) (pending : Option Decision) (p : Pid) (m' : Memory)
    (point : ActorPoint) : List (Pid × DecisionAck) → Prop
  | silent : m'.entry = m.entry → point.Awaits pending → Reply m pending p m' point []
  | answered (d : Decision) (ack : DecisionAck) : pending = some d → d.type.released = none →
      ack.data.created = none → (∀ child, ack.data ≠ .actorCreate child) → m'.entry = m.entry →
      point.Awaits none → Reply m pending p m' point [(p, ack)]
  | refused (d : Decision) (h : Handle) (acks : List (Pid × DecisionAck)) : pending = some d →
      h ∈ d.type.handles → m.entry h = none → Reply m pending p m' point acks
  | freed (d : Decision) (h : Handle) : pending = some d → d.type.released = some h →
      m'.entry = (fun h' => if h' = h then none else m.entry h') → point.Awaits none →
      Reply m pending p m' point [(p, { success := true })]
  | created (d : Decision) (h : Handle) (e : Entry) (ack : DecisionAck) : pending = some d →
      d.type.released = none → m.entry h = none →
      m'.entry = (fun h' => if h' = h then some e else m.entry h') → ack.data.created = some h →
      point.Awaits none → Reply m pending p m' point [(p, ack)]
  | childCreated (d : Decision) (child : Pid) : pending = some d → d.type.released = none →
      m'.entry = m.entry → point.Awaits none →
      Reply m pending p m' point [(p, { success := true, data := .actorCreate { id := child } })]

theorem AckData.plain_created {data : AckData} (h : data.plain) :
    data.created = none ∧ ∀ child, data ≠ .actorCreate child := by
  cases data with
  | actorCreate => cases h
  | _ => first | exact ⟨rfl, nofun⟩ | cases h

section

variable {K : S4u} {s t : Simulation K} {event : SimEvent K} {out : List SimOutput}
  {pending : Option Decision} {p : Pid} {socket : Socket}

theorem Switched.reply (p : Pid) (socket : Socket) {d : Decision} {m : Memory} {segment : Segment}
    (howned : Owned m) (hpending : pending = some d) (h : Switched d m segment) :
    Reply m pending p segment.memory segment.outcome.point
      (acks (segment.out ++ segment.outcome.out p socket)) := by
  have hsuspends : ∀ call frame, segment.outcome = .call call frame →
      ∃ d' call', pending = some d' ∧ Suspends d' call' frame :=
    fun call frame houtcome => ⟨d, call, hpending, m, segment, howned, h, houtcome⟩
  cases h with
  | quit => exact .silent rfl trivial
  | plainAnswered ack hplain hdata =>
      obtain ⟨hcreated, hchild⟩ := AckData.plain_created hdata
      exact .answered d ack hpending (released_of_plain hplain) hcreated hchild rfl trivial
  | plainCalled call frame _ _ hframe =>
      rcases hframe with rfl | rfl
      · exact .silent rfl (hsuspends _ _ rfl)
      · exact .silent rfl (hsuspends _ _ rfl)
  | unset => exact .silent rfl trivial
  | unknownHost => exact .silent rfl trivial
  | failed handle hmem hnone => exact .refused d handle _ hpending hmem hnone
  | freed handle e hd _ _ =>
      exact .freed d handle hpending hd (funext fun h' => m.entry_free handle h') trivial
  | decreased handle e _ he hne => exact absurd (howned.entry handle e he).2.2.2.1 hne
  | unknownComm => exact .silent rfl trivial
  | mutexTryLockFailed x hd _ =>
      exact .answered d _ hpending (by rw [hd]; rfl) rfl nofun rfl trivial
  | actorCreate => exact .silent rfl (hsuspends _ _ rfl)
  | commWaitFor => exact .silent rfl (hsuspends _ _ rfl)
  | commCancel => exact .silent rfl (hsuspends _ _ rfl)
  | commTest => exact .silent rfl (hsuspends _ _ rfl)
  | commWaitAnyFor => exact .silent rfl (hsuspends _ _ rfl)
  | mailboxPut => exact .silent rfl (hsuspends _ _ rfl)
  | mailboxPutAsync => exact .silent rfl (hsuspends _ _ rfl)
  | mailboxGet => exact .silent rfl (hsuspends _ _ rfl)
  | mailboxGetAsync => exact .silent rfl (hsuspends _ _ rfl)
  | mutexCreate => exact .silent rfl (hsuspends _ _ rfl)
  | mutexLock => exact .silent rfl (hsuspends _ _ rfl)
  | mutexUnlock => exact .silent rfl (hsuspends _ _ rfl)
  | mutexTryLock => exact .silent rfl (hsuspends _ _ rfl)
  | conditionVariableCreate => exact .silent rfl (hsuspends _ _ rfl)
  | lockWaited c x cv mutex call frame _ _ _ hframe =>
      rcases hframe with ⟨rfl, -⟩ | ⟨rfl, -⟩ | ⟨rfl, -⟩ <;>
        exact .silent rfl (hsuspends _ _ rfl)
  | notified => exact .silent rfl (hsuspends _ _ rfl)

theorem dispatch_reply {d : Decision} (howned : Owned s.memory) (hpending : pending = some d) :
    Reply s.memory pending p (dispatch K s.kernel p d s.memory).memory
      (dispatch K s.kernel p d s.memory).outcome.point
      (acks ((dispatch K s.kernel p d s.memory).out ++
        (dispatch K s.kernel p d s.memory).outcome.out p socket)) := by
  obtain ⟨segment, hswitched, heq⟩ := dispatch_eq K s.kernel p d s.memory
  have hreply := hswitched.reply p socket howned hpending
  rw [heq]
  exact hreply

theorem Taken.entry {address : Address} {m m' : Memory} {out : List SimOutput} {data : Bytes}
    (h : Taken address m m' out data) : m'.entry = m.entry ∧ acks out = [] := by
  cases h with
  | nothing => exact ⟨rfl, rfl⟩
  | payload _ buffer payload => exact ⟨funext (m.entry_takePayload address buffer payload), rfl⟩

theorem acks_append (out out' : List SimOutput) : acks (out ++ out') = acks out ++ acks out' :=
  List.filterMap_append

theorem Resumed.reply {frame : Frame} {ret : S4uReturn} {actor : ServerActor} {segment : Segment}
    (hinv : StoreInv s) (hfind : s.actors.find p = some actor)
    (hpoint : actor.point = .returned ret frame) (hawaits : frame.Awaits pending)
    (h : Resumed K s.kernel p socket frame ret s.memory segment) :
    Reply s.memory pending p segment.memory segment.outcome.point
      (acks (segment.out ++ segment.outcome.out p socket)) := by
  obtain ⟨howned, hunstored⟩ := hinv
  have hreleased : frame.ofLoop = false → ∃ d, pending = some d ∧ d.type.released = none := by
    intro hframe
    cases frame with
    | firstYield => cases hframe
    | thinkTime => cases hframe
    | _ =>
        obtain ⟨d, call, hd, hsuspends⟩ := hawaits
        exact ⟨d, hd, hsuspends.released⟩
  have htaken : ∀ {address m' out data ack} {d : Decision}, Taken address s.memory m' out data →
      pending = some d → d.type.released = none → ack.data.created = none →
      (∀ child, ack.data ≠ .actorCreate child) →
      Reply s.memory pending p m' .reading
        (acks (out ++ (Outcome.finished ack true false).out p socket)) := by
    intro address m' out data ack d htaken hd hreleased hcreated hchild
    rw [acks_append, htaken.entry.2]
    exact .answered d ack hd hreleased hcreated hchild htaken.entry.1 trivial
  have hnone : ∀ handle : Handle, ret = .address handle.address →
      s.memory.entry handle = none := by
    rintro handle rfl
    exact howned.entry_eq_none handle (hunstored.fresh p actor frame _ hfind hpoint).2
  cases h with
  | escaped => exact .silent rfl trivial
  | waitConnectAck connectAck hframe _ => exact .silent rfl trivial
  | dispatched d hframe _ =>
      subst hframe
      exact dispatch_reply howned hawaits
  | acknowledged hplain _ =>
      have hframe : frame.ofLoop = false := by
        cases frame <;> first | rfl | cases hplain
      obtain ⟨d, hd, hreleased⟩ := hreleased hframe
      exact .answered d _ hd hreleased rfl nofun rfl trivial
  | hostFailure hframe _ =>
      subst hframe
      obtain ⟨d, hd, hreleased⟩ := hreleased rfl
      exact .answered d _ hd hreleased rfl nofun rfl trivial
  | actorCreated _ _ _ hframe _ =>
      subst hframe
      exact .silent rfl (hreleased rfl)
  | commWaited comm m' out data hframe _ _ htake =>
      subst hframe
      obtain ⟨d, hd, hreleased⟩ := hreleased rfl
      exact htaken htake hd hreleased rfl nofun
  | commTested comm m' out data hframe _ _ htake =>
      subst hframe
      obtain ⟨d, hd, hreleased⟩ := hreleased rfl
      exact htaken htake hd hreleased rfl nofun
  | commWaitedAny comms pointers index comm m' out data hframe _ _ _ htake =>
      subst hframe
      obtain ⟨d, hd, hreleased⟩ := hreleased rfl
      exact htaken htake hd hreleased rfl nofun
  | commWaitUndefined => exact .silent rfl trivial
  | commTestUndefined => exact .silent rfl trivial
  | commWaitAnyUndefined => exact .silent rfl trivial
  | commInconsistent => exact .silent rfl trivial
  | existingComm => exact .silent rfl trivial
  | mailboxGetUndefined => exact .silent rfl trivial
  | commTimedOut comm hframe _ =>
      subst hframe
      obtain ⟨d, hd, hreleased⟩ := hreleased rfl
      exact .answered d _ hd hreleased rfl nofun rfl trivial
  | commCanceled comm hframe _ =>
      subst hframe
      obtain ⟨d, hd, hreleased⟩ := hreleased rfl
      exact .answered d _ hd hreleased rfl nofun rfl trivial
  | commPending comm hframe _ =>
      subst hframe
      obtain ⟨d, hd, hreleased⟩ := hreleased rfl
      exact .answered d _ hd hreleased rfl nofun rfl trivial
  | commNoneFinished _ _ _ hframe _ _ =>
      subst hframe
      obtain ⟨d, hd, hreleased⟩ := hreleased rfl
      exact .answered d _ hd hreleased rfl nofun rfl trivial
  | mailboxGet payload data hframe _ _ =>
      subst hframe
      obtain ⟨d, hd, hreleased⟩ := hreleased rfl
      exact .answered d _ hd hreleased rfl nofun (funext (entry_eq_of_store rfl)) trivial
  | mutexTryLock locked hframe _ =>
      subst hframe
      obtain ⟨d, hd, hreleased⟩ := hreleased rfl
      exact .answered d _ hd hreleased rfl nofun rfl trivial
  | conditionVariableStatus cv mutex lock status data hframe _ =>
      rcases hframe with ⟨rfl, rfl⟩ | ⟨rfl, rfl⟩
      · obtain ⟨d, hd, hreleased⟩ := hreleased rfl
        exact .answered d _ hd hreleased rfl nofun rfl trivial
      · obtain ⟨d, hd, hreleased⟩ := hreleased rfl
        exact .answered d _ hd hreleased rfl nofun rfl trivial
  | mailboxPutAsync address hframe hret hfree =>
      subst hframe
      obtain ⟨d, hd, hreleased⟩ := hreleased rfl
      exact .created d (.comm address) _ _ hd hreleased (hnone (.comm address) hret)
        (funext (Memory.entry_insertComm _ _ hfree)) rfl trivial
  | mailboxGetAsync receptionBuffer address hframe hret hfree =>
      subst hframe
      obtain ⟨d, hd, hreleased⟩ := hreleased rfl
      exact .created d (.comm address) _ _ hd hreleased (hnone (.comm address) hret)
        (funext (Memory.entry_insertComm _ _ hfree)) rfl trivial
  | mutexCreate address hframe hret =>
      subst hframe
      obtain ⟨d, hd, hreleased⟩ := hreleased rfl
      have hfree := hnone (.mutex address) hret
      exact .created d (.mutex address) _ _ hd hreleased hfree
        (funext (Memory.entry_insertMutex _ _ (Option.map_eq_none_iff.mp hfree))) rfl trivial
  | conditionVariableCreate address hframe hret =>
      subst hframe
      obtain ⟨d, hd, hreleased⟩ := hreleased rfl
      have hfree := hnone (.conditionVariable address) hret
      exact .created d (.conditionVariable address) _ _ hd hreleased hfree
        (funext (Memory.entry_insertConditionVariable _ _ (Option.map_eq_none_iff.mp hfree))) rfl
        trivial

theorem Ran.reply {segment : Segment} (hinv : StoreInv s)
    (hbusy : ∀ actor, s.actors.find p = some actor → actor.point.Awaits pending)
    (hdecided : ∀ d, event = .decision d → pending = some d) (h : Ran s event p socket segment) :
    Reply s.memory pending p segment.memory segment.outcome.point
      (acks (segment.out ++ segment.outcome.out p socket)) := by
  cases h with
  | firstYield => exact .silent rfl trivial
  | resumed _ actor ret frame _ _ hfind hpoint hresumed =>
      have hawaits := hbusy actor hfind
      rw [hpoint] at hawaits
      exact hresumed.reply hinv hfind hpoint hawaits
  | decided _ _ d _ _ _ => exact dispatch_reply hinv.owned (hdecided d rfl)
  | thinking _ _ d _ _ _ => exact .silent rfl (hdecided d rfl)
  | badThinkTime => exact .silent rfl trivial
  | readFailed => exact .silent rfl trivial
  | childAccepted _ _ canConnectAck child _ hfind =>
      obtain ⟨d, hd, hreleased⟩ := hbusy _ hfind
      exact .childCreated d child hd hreleased rfl trivial
  | badCanConnectAck => exact .silent rfl trivial

end

/-! ### What the client does with it -/

namespace Clients

variable (c : Clients)

theorem pendingOf_eq_some {p : Pid} {d : Decision} (h : c.pendingOf p = some d) :
    ∃ client, c.actors.find p = some client ∧ client.pending = some d :=
  Option.bind_eq_some_iff.mp h

theorem pendingOf_send (p : Pid) (client : Client) (d : Decision) (q : Pid) :
    (c.send p client d).pendingOf q = if q = p then some d else c.pendingOf q := by
  rw [pendingOf, actors_send, UnorderedMap.find_set]
  split <;> rfl

theorem pendingOf_settle (p : Pid) (client : Client) (q : Pid) :
    (c.settle p client).pendingOf q = if q = p then none else c.pendingOf q := by
  rw [pendingOf, actors_settle, UnorderedMap.find_set]
  split <;> rfl

theorem pendingOf_createThread (process : Nat) (child q : Pid) :
    (c.createThread process child).pendingOf q = c.pendingOf q := by
  simp only [pendingOf, createThread, UnorderedMap.find_insert]
  split
  · rename_i hnew
    rw [hnew.1, hnew.2]
    rfl
  · rfl

theorem pendingOf_fork (parent : Nat) (child q : Pid) :
    (c.fork parent child).pendingOf q = c.pendingOf q := by
  simp only [pendingOf, fork, UnorderedMap.find_insert]
  split
  · rename_i hnew
    rw [hnew.1, hnew.2]
    rfl
  · rfl

/-- Only the client that receives an acknowledgment is done with its decision. -/
theorem pendingOf_receive (m : Memory) (forks : Bool) {p : Pid} {client : Client}
    (hclient : c.actors.find p = some client) (ack : DecisionAck) (q : Pid) :
    (c.receive m forks p ack).pendingOf q = if q = p then none else c.pendingOf q := by
  simp only [receive, hclient]
  split
  · split
    · rw [pendingOf_fork, pendingOf_settle]
    · rw [pendingOf_createThread, pendingOf_settle]
  · split
    · exact c.pendingOf_settle p client q
    · exact c.pendingOf_settle p client q

/-- The receipt of an acknowledgment that creates neither an object nor an actor. -/
theorem receive_eq_settle {m : Memory} {forks : Bool} {p : Pid} {client : Client}
    {ack : DecisionAck} (hclient : c.actors.find p = some client) (hcreated : ack.data.created = none)
    (hchild : ∀ child, ack.data ≠ .actorCreate child) :
    c.receive m forks p ack = c.settle p client := by
  simp only [receive, hclient, hcreated]

/-- The receipt of an acknowledgment that creates an object. -/
theorem receive_eq_hold {m : Memory} {forks : Bool} {p : Pid} {client : Client} {ack : DecisionAck}
    {h : Handle} {e : Entry} (hclient : c.actors.find p = some client)
    (hcreated : ack.data.created = some h) (hentry : m.entry h = some e) :
    c.receive m forks p ack =
      (c.settle p client).hold client.process h (some { copies := 1, node := e.node }) := by
  simp only [receive, hclient]
  split
  · rename_i child hdata
    rw [hdata] at hcreated
    cases hcreated
  · rw [hcreated]
    simp only [hentry, Option.map_some]

end Clients

/-- The invariant of the clients is kept by the acknowledgment of a segment. -/
theorem Reply.receive {m m' : Memory} {c : Clients} {p : Pid} {point : ActorPoint} {forks : Bool}
    {acks : List (Pid × DecisionAck)} (hinv : ClientsInv m.entry c)
    (hforks : forks → ∀ client handle, c.actors.find p = some client →
      c.copies client.process handle = 0)
    (h : Reply m (c.pendingOf p) p m' point acks) :
    ClientsInv m'.entry (c.receiveAll m' forks acks) ∧
      point.Awaits ((c.receiveAll m' forks acks).pendingOf p) ∧
      ∀ q, q ≠ p → (c.receiveAll m' forks acks).pendingOf q = c.pendingOf q := by
  have hdone : ∀ {client : Client} (ack : DecisionAck), c.actors.find p = some client →
      point.Awaits none → point.Awaits ((c.receiveAll m' forks [(p, ack)]).pendingOf p) ∧
        ∀ q, q ≠ p → (c.receiveAll m' forks [(p, ack)]).pendingOf q = c.pendingOf q := by
    intro client ack hclient hawaits
    refine ⟨?_, fun q hne => (c.pendingOf_receive m' forks hclient ack q).trans (if_neg hne)⟩
    have hpending := (c.pendingOf_receive m' forks hclient ack p).trans (if_pos rfl)
    show point.Awaits ((c.receive m' forks p ack).pendingOf p)
    rw [hpending]
    exact hawaits
  have hreleases : ∀ {client : Client} {d : Decision}, client.pending = some d →
      client.releases = d.type.released := by
    intro client d hd
    rw [Client.releases, hd, Option.bind_some]
  cases h with
  | silent hentry hawaits =>
      rw [hentry]
      exact ⟨hinv, hawaits, fun q _ => rfl⟩
  | answered d ack hpending hreleased hcreated hchild hentry hawaits =>
      obtain ⟨client, hclient, hd⟩ := c.pendingOf_eq_some hpending
      refine ⟨?_, hdone _ hclient hawaits⟩
      show ClientsInv m'.entry (c.receive m' forks p ack)
      rw [c.receive_eq_settle hclient hcreated hchild, hentry]
      exact hinv.settle hclient ((hreleases hd).trans hreleased)
  | refused d handle acks hpending hmem hnone =>
      obtain ⟨client, hclient, hd⟩ := c.pendingOf_eq_some hpending
      have hheld := hinv.pending p client hclient handle (by
        rw [Client.pendingHandles, hd]
        exact hmem)
      obtain ⟨held, hheld⟩ := Option.ne_none_iff_exists'.mp hheld
      obtain ⟨-, e, he, -⟩ := hinv.held _ _ _ hheld
      rw [hnone] at he
      cases he
  | freed d handle hpending hreleased hentry hawaits =>
      obtain ⟨client, hclient, hd⟩ := c.pendingOf_eq_some hpending
      refine ⟨?_, hdone _ hclient hawaits⟩
      show ClientsInv m'.entry (c.receive m' forks p { success := true })
      have hchild : ∀ child, ({ success := true } : DecisionAck).data ≠ .actorCreate child :=
        fun _ h => by cases h
      rw [c.receive_eq_settle hclient rfl hchild, hentry]
      exact hinv.settle_release hclient ((hreleases hd).trans hreleased)
  | created d handle e ack hpending hreleased hnone hentry hcreated hawaits =>
      obtain ⟨client, hclient, hd⟩ := c.pendingOf_eq_some hpending
      refine ⟨?_, hdone _ hclient hawaits⟩
      show ClientsInv m'.entry (c.receive m' forks p ack)
      have he : m'.entry handle = some e := (congrFun hentry handle).trans (if_pos rfl)
      rw [c.receive_eq_hold hclient hcreated he, hentry]
      refine (hinv.settle hclient ((hreleases hd).trans hreleased)).create ?_ hnone
      rw [Clients.next_settle]
      exact hinv.processes p client hclient
  | childCreated d child hpending hreleased hentry hawaits =>
      obtain ⟨client, hclient, hd⟩ := c.pendingOf_eq_some hpending
      refine ⟨?_, hdone _ hclient hawaits⟩
      have hsettled := hinv.settle hclient ((hreleases hd).trans hreleased)
      rw [hentry]
      simp only [Clients.receiveAll, List.foldl_cons, List.foldl_nil, Clients.receive, hclient]
      cases forks with
      | false =>
          refine hsettled.createThread child ?_
          rw [Clients.next_settle]
          exact hinv.processes p client hclient
      | true =>
          refine hsettled.fork child fun handle => ?_
          have hnone : client.releases = none := (hreleases hd).trans hreleased
          rw [Clients.copies, Clients.holds_settle, hnone, if_neg (fun heq => by cases heq.1)]
          exact hforks rfl client handle hclient

/-! ### Runs -/

/-- The invariant of the server's store, that of its clients, and how the points of the server-side
actors fit to what their clients wait for. -/
structure HandleInv {K : S4u} (s : HandleSystem K) : Prop where
  store : StoreInv s.server
  clients : ClientsInv s.server.memory.entry s.clients
  busy : ∀ p actor, s.server.actors.find p = some actor →
    actor.point.Awaits (s.clients.pendingOf p)

section

variable {K : S4u} {s t : HandleSystem K} {out : List SimOutput}

/-- A step that runs no actor changes neither the entries nor what the clients wait for. -/
theorem SimStep.quiet {s t : Simulation K} {event : SimEvent K} (hstep : SimStep s event t out)
    (pendingOf : Pid → Option Decision)
    (hbusy : ∀ p actor, s.actors.find p = some actor → actor.point.Awaits (pendingOf p)) :
    (∃ p socket segment, Ran s event p socket segment ∧ t.memory = segment.memory ∧
      acks out = acks (segment.out ++ segment.outcome.out p socket) ∧
      ∀ q actor, t.actors.find q = some actor →
        q = p ∧ actor.point = segment.outcome.point ∨ q ≠ p ∧ s.actors.find q = some actor) ∨
    acks out = [] ∧ t.memory.entry = s.memory.entry ∧
      ∀ q actor, t.actors.find q = some actor → actor.point.Awaits (pendingOf q) := by
  have hmoved : (∀ p socket segment, ¬Ran s event p socket segment) →
      ∀ q actor, t.actors.find q = some actor → actor.point.Awaits (pendingOf q) := by
    intro hnot q actor hq
    cases hstep.moved hq with
    | stayed hs => exact hbusy q actor hs
    | ran before socket segment _ hran => exact absurd hran (hnot q socket segment)
    | started before _ _ _ heq => subst heq; trivial
    | served before call frame ret _ hfind hpoint heq =>
        subst heq
        have hawaits := hbusy q before hfind
        rw [hpoint] at hawaits
        exact hawaits
    | spawned p before name host connectAck frame _ _ _ _ heq => subst heq; trivial
    | connected before connectAck socket _ _ _ heq => subst heq; trivial
    | connectFailed before _ heq => subst heq; trivial
  cases hstep with
  | ran _ p socket segment hran =>
      refine Or.inl ⟨p, socket, segment, hran, rfl, rfl, ?_⟩
      intro q actor hq
      simp only [Simulation.conclude, find_setPoint] at hq
      split at hq
      · rename_i heq
        obtain ⟨before, -, rfl⟩ := Option.map_eq_some_iff.mp hq
        exact Or.inl ⟨heq, rfl⟩
      · rename_i hne
        exact Or.inr ⟨hne, hq⟩
  | started p actor _ hfind hpoint =>
      refine Or.inr ⟨rfl, rfl, hmoved ?_⟩
      intro q socket segment hran
      cases hran with
      | firstYield _ before connectAck _ hfind' hpoint' =>
          rw [hfind, Option.some.injEq] at hfind'
          subst hfind'
          rw [hpoint] at hpoint'
          cases hpoint'
      | resumed _ before ret frame _ _ hfind' hpoint' _ =>
          rw [hfind, Option.some.injEq] at hfind'
          subst hfind'
          rw [hpoint] at hpoint'
          cases hpoint'
  | served p actor call frame ret kernel _ _ _ _ _ hserve =>
      refine Or.inr ⟨rfl, ?_, hmoved fun _ _ _ hran => by cases hran⟩
      rcases serve_cases hserve with rfl | ⟨name, host, connectAck, child, rfl, rfl, _, rfl⟩
      · rfl
      · rfl
  | progressed event kernel writes =>
      refine Or.inr ⟨?_, funext fun handle => by cases handle <;> rfl,
        hmoved fun _ _ _ hran => by cases hran⟩
      refine List.filterMap_eq_nil_iff.mpr fun output houtput => ?_
      obtain ⟨write, -, rfl⟩ := List.mem_map.mp houtput
      rfl
  | progressFailed => exact Or.inr ⟨rfl, rfl, hmoved fun _ _ _ hran => by cases hran⟩
  | round => exact Or.inr ⟨rfl, rfl, hmoved fun _ _ _ hran => by cases hran⟩
  | connected => exact Or.inr ⟨rfl, rfl, hmoved fun _ _ _ hran => by cases hran⟩
  | connectFailed => exact Or.inr ⟨rfl, rfl, hmoved fun _ _ _ hran => by cases hran⟩

theorem HandleInv.serverStep (h : HandleInv s) (event : SimEvent K) (forks : Bool)
    (hfresh : FreshAddress s.server event)
    (hdecided : ∀ p d, event = .decision d → s.server.current = some p →
      s.clients.pendingOf p = some d)
    (hforks : forks → ∀ p client handle, s.server.current = some p →
      s.clients.actors.find p = some client → s.clients.copies client.process handle = 0)
    (hcan : forks → ∃ msg, event = .canConnectAck msg)
    (hstep : s.serverStep forks event = some (t, out)) : HandleInv t := by
  unfold HandleSystem.serverStep at hstep
  split at hstep
  · cases hstep
  · rename_i server out' hserver
    cases hstep
    have hcases := (simulationStep_cases hserver).2
    have hstore := h.store.step hfresh hcases
    rcases hcases.quiet s.clients.pendingOf h.busy with
      ⟨p, socket, segment, hran, hmemory, hacks, hfind⟩ | ⟨hacks, hentry, hbusy⟩
    · have hcurrent : ∀ d, event = .decision d → s.clients.pendingOf p = some d := by
        rintro d rfl
        apply hdecided p d rfl
        cases hran <;> assumption
      have hforks' : forks → ∀ client handle, s.clients.actors.find p = some client →
          s.clients.copies client.process handle = 0 := by
        intro hfork client handle hclient
        obtain ⟨msg, rfl⟩ := hcan hfork
        refine hforks hfork p client handle ?_ hclient
        cases hran <;> assumption
      have hreply := hran.reply h.store (h.busy p) hcurrent
      rw [← hmemory, ← hacks] at hreply
      obtain ⟨hclients, hawaits, hothers⟩ := hreply.receive h.clients hforks'
      refine ⟨hstore, hclients, ?_⟩
      intro q actor hq
      rcases hfind q actor hq with ⟨rfl, hpoint⟩ | ⟨hne, hs⟩
      · rw [hpoint]
        exact hawaits
      · have hbusy := h.busy q actor hs
        rw [← hothers q hne] at hbusy
        exact hbusy
    · refine ⟨hstore, ?_, ?_⟩
      · show ClientsInv server.memory.entry (s.clients.receiveAll server.memory forks (acks out))
        rw [hacks, hentry]
        exact h.clients
      · intro q actor hq
        show actor.point.Awaits ((s.clients.receiveAll server.memory forks (acks out)).pendingOf q)
        rw [hacks]
        exact hbusy q actor hq

theorem handleStep_simulation {event : SimEvent K} (h : ∀ d, event ≠ .decision d) :
    handleStep K s (.simulation event) = s.serverStep false event := by
  cases event with
  | decision d => exact absurd rfl (h d)
  | _ => rfl

/-- A decision is sent by the client of the running actor, which may send it. -/
theorem handleStep_decision {d : Decision}
    (h : handleStep K s (.simulation (.decision d)) = some (t, out)) :
    ∃ p client, s.server.current = some p ∧ s.clients.actors.find p = some client ∧
      s.clients.Permits client d ∧ (∃ socket, s.server.actors.find p = some ⟨socket, .reading⟩) ∧
      ({ s with clients := s.clients.send p client d }).serverStep false (.decision d) =
        some (t, out) := by
  simp only [handleStep] at h
  split at h
  · cases h
  · rename_i p hcurrent
    split at h
    · cases h
    · rename_i client hclient
      split at h
      · rename_i hpermits
        refine ⟨p, client, hcurrent, hclient, hpermits, ?_, h⟩
        simp only [HandleSystem.serverStep] at h
        split at h
        · cases h
        · rename_i server out' hserver
          exact (simulationStep_cases hserver).2.reading hcurrent
      · cases h

theorem HandleInv.step (h : HandleInv s) {event : HandleEvent K} (hfresh : FreshObject s event)
    (hfork : NoForkWithHandles s event) (hstep : handleStep K s event = some (t, out)) :
    HandleInv t := by
  have hrecount : ∀ {process handle held}, s.clients.holds process handle = some held →
      0 < held.copies → ∀ copies, HandleInv
        { s with clients := s.clients.hold process handle (some { held with copies := copies }) } :=
    fun hheld hpos copies => ⟨h.store, h.clients.recount hheld hpos copies, h.busy⟩
  have hnofork : ∀ {P : Prop}, (false : Bool) = true → P := fun hfalse => by cases hfalse
  cases event with
  | copy process handle =>
      simp only [handleStep] at hstep
      split at hstep
      · rename_i held hheld
        split at hstep
        · rename_i hpos
          cases hstep
          exact hrecount hheld hpos _
        · cases hstep
      · cases hstep
  | drop process handle =>
      simp only [handleStep] at hstep
      split at hstep
      · rename_i held hheld
        split at hstep
        · rename_i hmany
          cases hstep
          exact hrecount hheld (Nat.zero_lt_of_lt hmany) _
        · cases hstep
      · cases hstep
  | fork =>
      refine h.serverStep (.canConnectAck .actorCreateAck) true trivial ?_ ?_ ?_ hstep
      · exact fun p d heq => by cases heq
      · exact fun _ p client handle hcurrent hclient => hfork p client handle hcurrent hclient
      · exact fun _ => ⟨_, rfl⟩
  | simulation event =>
      by_cases hdecision : ∃ d, event = .decision d
      · obtain ⟨d, rfl⟩ := hdecision
        obtain ⟨p, client, hcurrent, hclient, hpermits, ⟨socket, hreading⟩, hstep⟩ :=
          handleStep_decision hstep
        have hsent : HandleInv { s with clients := s.clients.send p client d } := by
          refine ⟨h.store, h.clients.send hclient hpermits, ?_⟩
          intro q actor hq
          rw [Clients.pendingOf_send]
          split
          · rename_i heq
            rw [heq] at hq
            have hactor := hreading.symm.trans hq
            cases hactor
            trivial
          · exact h.busy q actor hq
        refine hsent.serverStep (.decision d) false hfresh ?_ hnofork hnofork hstep
        rintro q d' heq hq
        cases heq
        have hsame := hcurrent.symm.trans hq
        cases hsame
        rw [Clients.pendingOf_send, if_pos rfl]
      · have hother : ∀ d, event ≠ .decision d := fun d heq => hdecision ⟨d, heq⟩
        rw [handleStep_simulation hother] at hstep
        exact h.serverStep event false hfresh (fun p d heq => absurd heq (hother d)) hnofork hnofork
          hstep

theorem HandleInv.launch (connections : List ActorConnection) :
    HandleInv (HandleSystem.launch K connections) where
  store := StoreInv.spawn connections
  clients := by
    have hidle : ∀ (pids : List (Pid × Nat)) (actors : UnorderedMap Pid Client) (next : Nat),
        (∀ pid ∈ pids, pid.2 < next) →
        (∀ p client, actors.find p = some client → client.process < next ∧ client.pending = none) →
        ∀ p client, (pids.foldl (fun actors actor => actors.insert actor.1 { process := actor.2 })
          actors).find p = some client → client.process < next ∧ client.pending = none := by
      intro pids
      induction pids with
      | nil => exact fun actors next _ hactors => hactors
      | cons pid pids ih =>
          intro actors next hpids hactors
          refine ih _ next (fun pid' hmem => hpids pid' (List.mem_cons_of_mem _ hmem)) ?_
          intro q client hq
          rw [UnorderedMap.find_insert] at hq
          split at hq
          · cases hq
            exact ⟨hpids pid List.mem_cons_self, rfl⟩
          · exact hactors q client hq
    have hclients : ∀ p client,
        (HandleSystem.launch K connections).clients.actors.find p = some client →
        client.process < (connections.map (·.actorId)).length ∧ client.pending = none := by
      refine hidle _ ∅ _ ?_ (fun p client hp => by cases hp)
      intro pid hpid
      obtain ⟨-, hlt, -⟩ := List.mem_zipIdx hpid
      simpa using hlt
    have hunasked : ∀ p client,
        (HandleSystem.launch K connections).clients.actors.find p = some client →
        ∀ handle, handle ∉ client.pendingHandles := by
      intro p client hp handle hmem
      rw [Client.pendingHandles, (hclients p client hp).2] at hmem
      cases hmem
    refine ⟨?_, ?_, ?_, fun p client hp => (hclients p client hp).1, ?_, ?_⟩
    · exact fun process handle held hheld => by cases hheld
    · exact fun process process' handle hheld => absurd rfl hheld
    · intro handle hentry
      cases handle <;> exact absurd rfl hentry
    · exact fun p client hp handle hmem => absurd hmem (hunasked p client hp handle)
    · intro p client handle hp hreleases
      exact absurd (client.mem_pendingHandles hreleases) (hunasked p client hp handle)
  busy p actor hp := by
    rw [find_spawn hp]
    trivial

/-- One process holds the object of every entry. -/
theorem HandleInv.holders (h : HandleInv s) {handle : Handle} {e : Entry}
    (he : s.server.memory.entry handle = some e) : s.clients.holders handle = 1 := by
  obtain ⟨process, hheld⟩ := h.clients.stored handle (by rw [he]; nofun)
  have hlt : process < s.clients.next := by
    obtain ⟨held, hsome⟩ := Option.ne_none_iff_exists'.mp hheld
    exact (h.clients.held process handle held hsome).1
  rw [Clients.holders, Finset.card_eq_one]
  refine ⟨process, ?_⟩
  ext process'
  rw [Finset.mem_filter, Finset.mem_range, Finset.mem_singleton, Option.isSome_iff_ne_none]
  constructor
  · exact fun hheld' => h.clients.alone process' process handle hheld'.2 hheld
  · rintro rfl
    exact ⟨hlt, hheld⟩

theorem HandleInv.consistent (h : HandleInv s) : HandlesConsistent s where
  counted handle := by
    cases he : s.server.memory.entry handle with
    | none =>
        rw [Clients.holders, Finset.card_eq_zero, Finset.filter_eq_empty_iff]
        intro process _ hheld
        obtain ⟨held, hheld⟩ := Option.isSome_iff_exists.mp hheld
        obtain ⟨-, e, he', -⟩ := h.clients.held process handle held hheld
        rw [he] at he'
        cases he'
    | some e =>
        show e.remoteRefCount = s.clients.holders handle ∧ 0 < s.clients.holders handle
        rw [h.holders he]
        exact ⟨(h.store.owned.entry handle e he).2.2.2.1, Nat.one_pos⟩
  same process handle held hheld := (h.clients.held process handle held hheld).2
  known p client hp handle hmem := by
    have hheld := h.clients.pending p client hp handle hmem
    obtain ⟨held, hheld⟩ := Option.ne_none_iff_exists'.mp hheld
    obtain ⟨-, e, he, -⟩ := h.clients.held _ _ _ hheld
    rw [he]
    nofun

theorem handleInv_run {connections : List ActorConnection} {events : List (HandleEvent K)}
    (hrun : Run (handleStep K) (HandleSystem.launch K connections) events s out)
    (hfresh : Throughout (handleStep K) FreshObject (HandleSystem.launch K connections) events)
    (hfork : Throughout (handleStep K) NoForkWithHandles (HandleSystem.launch K connections) events) :
    HandleInv s := by
  have hboth : Throughout (handleStep K)
      (fun s event => FreshObject s event ∧ NoForkWithHandles s event)
      (HandleSystem.launch K connections) events :=
    fun before event after t trace heq hbefore =>
      ⟨hfresh before event after t trace heq hbefore, hfork before event after t trace heq hbefore⟩
  exact hrun.guarded_invariant (P := fun _ s _ => HandleInv s) hboth (HandleInv.launch connections)
    (fun _ hinv hevent hstep => hinv.step hevent.1 hevent.2 hstep)

/-- After a fork in a process that holds an object two processes hold it. -/
theorem Clients.one_lt_holders_fork {c : Clients} {parent : Nat} {child : Pid} {handle : Handle}
    {held : Held} (hheld : c.holds parent handle = some held) (hpos : 0 < held.copies)
    (hlt : parent < c.next) : 1 < (c.fork parent child).holders handle := by
  have hparent : (c.fork parent child).holds parent handle = some held := by
    simp only [Clients.fork]
    rw [if_neg (ne_of_lt hlt), hheld]
  have hchild : (c.fork parent child).holds c.next handle = some held := by
    simp only [Clients.fork]
    rw [if_pos trivial, hheld, Option.filter_some, if_pos (decide_eq_true hpos)]
  rw [Clients.holders, Finset.one_lt_card]
  refine ⟨parent, ?_, c.next, ?_, ne_of_lt hlt⟩
  · rw [Finset.mem_filter, Finset.mem_range, hparent]
    exact ⟨Nat.lt_succ_of_lt hlt, rfl⟩
  · rw [Finset.mem_filter, Finset.mem_range, hchild]
    exact ⟨Nat.lt_succ_self c.next, rfl⟩

/-- A fork is acknowledged by the actor that created the child. -/
theorem handleStep_fork (h : handleStep K s .fork = some (t, out)) :
    ∃ p child actor canConnectAck, s.server.current = some p ∧
      s.server.actors.find p = some actor ∧ actor.point = .waitingCanConnectAck canConnectAck child ∧
      t.server.memory = s.server.memory ∧
      t.clients = s.clients.receive s.server.memory true p
        { success := true, data := .actorCreate { id := child } } := by
  simp only [handleStep, HandleSystem.serverStep] at h
  split at h
  · cases h
  · rename_i server out' hserver
    cases h
    cases (simulationStep_cases hserver).2 with
    | ran _ q socket segment hran =>
        cases hran with
        | badCanConnectAck _ _ _ _ _ _ _ _ hmsg => exact absurd rfl hmsg
        | childAccepted _ _ canConnectAck child hcurrent hfind =>
            exact ⟨q, child, _, canConnectAck, hcurrent, hfind, rfl, rfl, rfl⟩

/-- The entry of an object that is held across a fork still counts one process. -/
theorem not_handlesConsistent (h : HandleInv s) {event : HandleEvent K}
    (hfork : ¬NoForkWithHandles s event) (hstep : handleStep K s event = some (t, out)) :
    ¬HandlesConsistent t := by
  cases event with
  | simulation event => exact absurd trivial hfork
  | copy process handle => exact absurd trivial hfork
  | drop process handle => exact absurd trivial hfork
  | fork =>
      simp only [NoForkWithHandles, not_forall] at hfork
      obtain ⟨p, client, handle, hcurrent, hclient, hcopies⟩ := hfork
      obtain ⟨held, hheld, hpos⟩ := s.clients.copies_pos.mp (Nat.pos_of_ne_zero hcopies)
      obtain ⟨hlt, e, he, -⟩ := h.clients.held _ _ _ hheld
      obtain ⟨q, child, actor, canConnectAck, hcurrent', hfind, hpoint, hmemory, hclients⟩ :=
        handleStep_fork hstep
      cases hcurrent.symm.trans hcurrent'
      have hawaits := h.busy p actor hfind
      rw [hpoint] at hawaits
      obtain ⟨d, hd, hreleased⟩ := hawaits
      obtain ⟨client', hclient', hd⟩ := s.clients.pendingOf_eq_some hd
      cases hclient.symm.trans hclient'
      have hsettled : (s.clients.settle p client).holds client.process handle = some held := by
        rw [Clients.holds_settle, Client.releases, hd, Option.bind_some, hreleased,
          if_neg (fun heq => by cases heq.1), hheld]
      have hforked : t.clients = (s.clients.settle p client).fork client.process child := by
        rw [hclients]
        simp only [Clients.receive, hclient, if_true]
      have htwo : 1 < t.clients.holders handle := by
        rw [hforked]
        refine Clients.one_lt_holders_fork hsettled hpos ?_
        rw [Clients.next_settle]
        exact hlt
      intro hconsistent
      have hcounted := hconsistent.counted handle
      rw [hmemory, he] at hcounted
      have hone := (h.store.owned.entry handle e he).2.2.2.1
      have hcount : e.remoteRefCount = t.clients.holders handle := hcounted.1
      omega

/-! ### Operations on a held object -/

/-- A decision whose objects are all in the store is not refused, unless it is a `MutexTryLock`. -/
theorem Switched.not_refused {d : Decision} {m : Memory} {segment : Segment}
    (hknown : ∀ handle ∈ d.type.handles, m.entry handle ≠ none) (hhandles : d.type.handles ≠ [])
    (htry : ∀ x, d.type ≠ .mutexTryLock x) (h : Switched d m segment) :
    segment.outcome ≠ .finished { success := false } true false ∧
      ∀ e, segment.outcome ≠ .raised e := by
  have hplain : ∀ {type : DecisionType}, type.plain → type.handles = [] := by
    intro type hplain
    cases type <;> first | rfl | cases hplain
  cases h with
  | plainAnswered ack hd _ => exact absurd (hplain hd) hhandles
  | failed handle hmem hnone => exact absurd hnone (hknown handle hmem)
  | unset hd => exact absurd (by rw [hd]; rfl) hhandles
  | unknownComm wait e hd herror =>
      obtain ⟨comm, hmem, hnone⟩ := lookupComms_error herror
      refine absurd hnone (hknown _ ?_)
      rw [hd]
      exact List.mem_map_of_mem hmem
  | mutexTryLockFailed x hd _ => exact absurd hd (htry x)
  | _ => exact ⟨nofun, nofun⟩

/-- No mutex is stored at the address that is read for a `MutexTryLock`. -/
theorem tryLock_refused {m : Memory} (howned : Owned m) {d : Decision} {x : Mutex}
    (hd : d.type = .mutexTryLock x) (k : K.State) (p : Pid) :
    (dispatch K k p d m).outcome = .finished { success := false } true false := by
  have hnone : m.store.mutexes.find 0 = none := by
    by_contra hsome
    obtain ⟨mutex, hfind⟩ := Option.ne_none_iff_exists'.mp hsome
    have he : m.entry (.mutex 0) = some mutex.entry := by rw [Memory.entry, hfind, Option.map_some]
    exact absurd rfl (howned.entry (.mutex 0) _ he).2.1
  simp only [dispatch, switchDecision, Decision.typeCase, hd, onMutex, Decision.mutexUnlock, hnone]
  rfl

/-- A step refuses nothing exactly when it dispatches no `MutexTryLock`. -/
theorem HandleInv.nothingUnknown (h : HandleInv s) (event : HandleEvent K)
    (hstep : handleStep K s event = some (t, out)) :
    NothingUnknown s event ↔ NoTryLock s event := by
  cases event with
  | fork => exact Iff.rfl
  | copy process handle => exact Iff.rfl
  | drop process handle => exact Iff.rfl
  | simulation event =>
      constructor
      · intro hunknown p d hd x hx
        refine (hunknown p d hd ?_).1 (tryLock_refused h.store.owned hx _ p)
        rw [hx]
        nofun
      · intro htry p d hd hhandles
        have hheld : ∀ handle ∈ d.type.handles, s.server.memory.entry handle ≠ none := by
          intro handle hmem
          cases hd with
          | now _ _ _ hcurrent _ _ =>
              obtain ⟨p', client, hcurrent', hclient, hpermits, -, -⟩ := handleStep_decision hstep
              exact h.clients.permitted hpermits hmem
          | later _ actor _ _ hfind hpoint =>
              have hawaits := h.busy p actor hfind
              rw [hpoint] at hawaits
              obtain ⟨client, hclient, hpending⟩ := s.clients.pendingOf_eq_some hawaits
              refine h.consistent.known p client hclient handle ?_
              rw [Client.pendingHandles, hpending]
              exact hmem
        obtain ⟨segment, hswitched, heq⟩ := dispatch_eq K s.server.kernel p d s.server.memory
        have hnot := hswitched.not_refused hheld hhandles (htry p d hd)
        rw [heq]
        exact hnot

/-- Along a run the reference counts are right and no operation on a held object is refused, if and
only if no process forks while it holds an object and no `MutexTryLock` is dispatched. -/
theorem handlesConsistent_iff {connections : List ActorConnection} {events : List (HandleEvent K)}
    (hrun : Run (handleStep K) (HandleSystem.launch K connections) events s out)
    (hfresh : Throughout (handleStep K) FreshObject (HandleSystem.launch K connections) events) :
    Always (handleStep K) (fun t _ => HandlesConsistent t) (HandleSystem.launch K connections) events ∧
        Throughout (handleStep K) NothingUnknown (HandleSystem.launch K connections) events ↔
      Throughout (handleStep K) NoForkWithHandles (HandleSystem.launch K connections) events ∧
        Throughout (handleStep K) NoTryLock (HandleSystem.launch K connections) events := by
  have hcounts : Always (handleStep K) (fun t _ => HandlesConsistent t)
        (HandleSystem.launch K connections) events ↔
      Throughout (handleStep K) NoForkWithHandles (HandleSystem.launch K connections) events :=
    always_iff_throughout (I := fun t _ => HandleInv t) hrun hfresh (HandleInv.launch connections)
      (fun t _ h => h.consistent) (fun _ _ _ _ _ h hevent hfork hstep => h.step hevent hfork hstep)
      (fun _ _ _ _ _ h _ hfork hstep => not_handlesConsistent h hfork hstep)
  rw [hcounts]
  refine and_congr_right fun hfork => ?_
  -- without such a fork the invariant holds in every state of the run
  have hunknown : ∀ before event after t trace, events = before ++ event :: after →
      Run (handleStep K) (HandleSystem.launch K connections) before t trace →
      (NothingUnknown t event ↔ NoTryLock t event) := by
    rintro before event after t trace rfl hbefore
    obtain ⟨t', out', v, out'', hbefore', hstep, -⟩ := hrun.split_step
    obtain ⟨rfl, -⟩ := hbefore.unique hbefore'
    exact (handleInv_run hbefore hfresh.before hfork.before).nothingUnknown event hstep
  constructor
  · exact fun h before event after t trace heq hbefore =>
      (hunknown before event after t trace heq hbefore).mp (h before event after t trace heq hbefore)
  · exact fun h before event after t trace heq hbefore =>
      (hunknown before event after t trace heq hbefore).mpr (h before event after t trace heq hbefore)

end

/-- A process creates a mutex and forks; it releases its copy of the handle, while its child goes on
with the one it got by the fork. -/
def forkHandleEvents : List (HandleEvent permissiveS4u) :=
  [.simulation (.schedule 2), .simulation (.decision { type := .mutexCreate true }),
    .simulation (.serve 2 (.address 100)), .simulation (.schedule 2),
    .simulation (.decision { type := .actorCreate { name := "child" } }),
    .simulation (.serve 2 (.pid 3)), .simulation (.schedule 2), .fork,
    .simulation (.decision { type := .mutexRefcountDecrease { address := 100 } }),
    .simulation (.decision { type := .thisActorYield true }), .simulation (.schedule 3),
    .simulation (.serve 3 .done), .simulation (.schedule 3),
    .simulation (.connectAck (.actorConnected 11))]

def forkHandleSystem : HandleSystem permissiveS4u :=
  HandleSystem.launch permissiveS4u [{ actorId := 2, socket := some 10 }]

theorem handlesConsistent_iff_fork :
    Always (handleStep permissiveS4u) (fun t _ => HandlesConsistent t) forkHandleSystem
          forkHandleEvents ∧
        Throughout (handleStep permissiveS4u) NothingUnknown forkHandleSystem forkHandleEvents ↔
      Throughout (handleStep permissiveS4u) NoForkWithHandles forkHandleSystem forkHandleEvents ∧
        Throughout (handleStep permissiveS4u) NoTryLock forkHandleSystem forkHandleEvents := by
  obtain ⟨⟨s, out⟩, hexec⟩ : ∃ result,
      exec (handleStep permissiveS4u) forkHandleSystem forkHandleEvents = some result := ⟨_, rfl⟩
  exact handlesConsistent_iff (Run.of_exec hexec) (Throughout.of_check rfl)

/-- The child holds the mutex, but its entry is gone, and its lock is refused. -/
theorem fork_loses_mutex :
    ∃ s out t out', Run (handleStep permissiveS4u) forkHandleSystem forkHandleEvents s out ∧
      Throughout (handleStep permissiveS4u) FreshObject forkHandleSystem forkHandleEvents ∧
      ¬HandlesConsistent s ∧ s.clients.copies 1 (.mutex 100) = 1 ∧
      handleStep permissiveS4u s
        (.simulation (.decision { type := .mutexLock { address := 100 } })) = some (t, out') ∧
      .writeAck 3 11 { success := false } ∈ out' := by
  obtain ⟨s, out, t, out', hexec, hstep, hheld, hentry, hack⟩ : ∃ s out t out',
      exec (handleStep permissiveS4u) forkHandleSystem forkHandleEvents = some (s, out) ∧
      handleStep permissiveS4u s
        (.simulation (.decision { type := .mutexLock { address := 100 } })) = some (t, out') ∧
      s.clients.holds 1 (.mutex 100) = some { copies := 1, node := 1 } ∧
      s.server.memory.entry (.mutex 100) = none ∧
      out' = [.dispatched 3 { type := .mutexLock { address := 100 } },
        .writeAck 3 11 { success := false }] := by
    refine ⟨_, _, _, _, rfl, rfl, ?_⟩
    refine ⟨rfl, rfl, rfl⟩
  refine ⟨s, out, t, out', Run.of_exec hexec, Throughout.of_check rfl, ?_, ?_, hstep, ?_⟩
  · intro hconsistent
    obtain ⟨e, he, -⟩ := hconsistent.same 1 (.mutex 100) _ hheld
    rw [hentry] at he
    cases he
  · rw [Clients.copies, hheld]
  · rw [hack]
    exact List.mem_cons_of_mem _ (List.mem_singleton_self _)

end RemoteSimgrid
