import RemoteSimgrid.ClientHandles

/-! As long as no process forks while it holds an object, every entry of the store is held by exactly
one process. The invariant of the client processes speaks of the server only through the entries. -/

namespace RemoteSimgrid

open Machine Pb

def Client.releases (client : Client) : Option Handle := client.pending.bind (·.type.released)

theorem Client.mem_pendingHandles (client : Client) {h : Handle}
    (hreleases : client.releases = some h) : h ∈ client.pendingHandles := by
  obtain ⟨d, hd, hreleased⟩ := Option.bind_eq_some_iff.mp hreleases
  rw [Client.pendingHandles, hd]
  show h ∈ d.type.handles
  rw [handles_of_released hreleased]
  exact List.mem_singleton_self _

/-- Every entry is held by one process, whose object was made for it; a thread asks only for objects
that its process holds, and an object in its destructor is used by no other thread. -/
structure ClientsInv (entry : Handle → Option Entry) (c : Clients) : Prop where
  held : ∀ process h held, c.holds process h = some held →
    process < c.next ∧ ∃ e, entry h = some e ∧ e.node = held.node
  alone : ∀ process process' h, c.holds process h ≠ none → c.holds process' h ≠ none →
    process = process'
  stored : ∀ h, entry h ≠ none → ∃ process, c.holds process h ≠ none
  processes : ∀ p client, c.actors.find p = some client → client.process < c.next
  pending : ∀ p client, c.actors.find p = some client → ∀ h ∈ client.pendingHandles,
    c.holds client.process h ≠ none
  releasing : ∀ p client h, c.actors.find p = some client → client.releases = some h →
    c.copies client.process h = 0 ∧ ∀ q other, c.actors.find q = some other →
      other.process = client.process → h ∈ other.pendingHandles → q = p

namespace Clients

variable (c : Clients)

theorem copies_pos {process : Nat} {h : Handle} :
    0 < c.copies process h ↔ ∃ held, c.holds process h = some held ∧ 0 < held.copies := by
  simp only [copies]
  cases c.holds process h with
  | none => simp
  | some held => simp

theorem holds_hold (process process' : Nat) (h h' : Handle) (held : Option Held) :
    (c.hold process h held).holds process' h' =
      if process' = process ∧ h' = h then held else c.holds process' h' := rfl

theorem copies_hold (process process' : Nat) (h h' : Handle) (held : Option Held) :
    (c.hold process h held).copies process' h' =
      if process' = process ∧ h' = h then (match held with | some x => x.copies | none => 0)
      else c.copies process' h' := by
  simp only [copies, holds_hold]
  by_cases hsame : process' = process ∧ h' = h
  · cases held with
    | none => simp only [if_pos hsame]
    | some held => simp only [if_pos hsame]
  · rw [if_neg hsame, if_neg hsame]

theorem actors_settle (p : Pid) (client : Client) :
    (c.settle p client).actors = c.actors.set p { client with pending := none } := by
  simp only [settle]
  split <;> rfl

theorem holds_settle (p : Pid) (client : Client) (process : Nat) (h : Handle) :
    (c.settle p client).holds process h =
      if client.releases = some h ∧ process = client.process then none else c.holds process h := by
  simp only [settle]
  cases hreleases : client.pending.bind (·.type.released) with
  | none => simp [Client.releases, hreleases]
  | some h' =>
      simp only [hold, Client.releases, hreleases, Option.some.injEq]
      by_cases hsame : process = client.process ∧ h = h'
      · rw [if_pos hsame, if_pos ⟨hsame.2.symm, hsame.1⟩]
      · rw [if_neg hsame, if_neg (fun heq => hsame ⟨heq.2, heq.1.symm⟩)]

theorem next_settle (p : Pid) (client : Client) : (c.settle p client).next = c.next := by
  simp only [settle]
  split <;> rfl

theorem actors_send (p : Pid) (client : Client) (d : Decision) :
    (c.send p client d).actors = c.actors.set p { client with pending := some d } := by
  simp only [send]
  split <;> rfl

theorem holds_send (p : Pid) (client : Client) (d : Decision) (process : Nat) (h : Handle) :
    (c.send p client d).holds process h =
      if d.type.released = some h ∧ process = client.process then
        (c.holds process h).map fun held => { held with copies := 0 }
      else c.holds process h := by
  simp only [send]
  cases hreleased : d.type.released with
  | none => simp
  | some h' =>
      simp only [hold, Option.some.injEq]
      by_cases hsame : process = client.process ∧ h = h'
      · rw [if_pos hsame, if_pos ⟨hsame.2.symm, hsame.1⟩, hsame.1, hsame.2]
      · rw [if_neg hsame, if_neg (fun heq => hsame ⟨heq.2, heq.1.symm⟩)]

theorem next_send (p : Pid) (client : Client) (d : Decision) :
    (c.send p client d).next = c.next := by
  simp only [send]
  split <;> rfl

theorem Permits.copies_pos {c : Clients} {client : Client} {d : Decision} {h : Handle}
    (hpermits : c.Permits client d) (hmem : h ∈ d.type.handles) :
    0 < c.copies client.process h := by
  have hpermitted := hpermits.2 h hmem
  split at hpermitted
  · omega
  · exact hpermitted

end Clients

namespace ClientsInv

variable {entry : Handle → Option Entry} {c : Clients}

/-- What a decision that may be sent refers to is in the store. -/
theorem permitted (h : ClientsInv entry c) {client : Client} {d : Decision} {handle : Handle}
    (hpermits : c.Permits client d) (hmem : handle ∈ d.type.handles) : entry handle ≠ none := by
  obtain ⟨held, hheld, -⟩ := c.copies_pos.mp (hpermits.copies_pos hmem)
  obtain ⟨-, e, he, -⟩ := h.held _ _ _ hheld
  rw [he]
  nofun

/-- A client sends a decision that it may send. -/
theorem send (h : ClientsInv entry c) {p : Pid} {client : Client} {d : Decision}
    (hclient : c.actors.find p = some client) (hpermits : c.Permits client d) :
    ClientsInv entry (c.send p client d) := by
  have hnone : ∀ process handle, (c.send p client d).holds process handle = none ↔
      c.holds process handle = none := by
    intro process handle
    rw [Clients.holds_send]
    split <;> simp
  have hcopies : ∀ process handle, c.copies process handle = 0 →
      (c.send p client d).copies process handle = 0 := by
    intro process handle hzero
    rw [← Nat.le_zero, ← not_lt, Clients.copies_pos] at hzero ⊢
    rintro ⟨held, hheld, hpos⟩
    rw [Clients.holds_send] at hheld
    split at hheld
    · obtain ⟨held', -, rfl⟩ := Option.map_eq_some_iff.mp hheld
      exact absurd hpos (lt_irrefl 0)
    · exact hzero ⟨held, hheld, hpos⟩
  refine ⟨?_, ?_, ?_, ?_, ?_, ?_⟩
  · intro process handle held hheld
    rw [Clients.next_send]
    rw [Clients.holds_send] at hheld
    split at hheld
    · obtain ⟨held', hheld', rfl⟩ := Option.map_eq_some_iff.mp hheld
      exact h.held process handle held' hheld'
    · exact h.held process handle held hheld
  · intro process process' handle hheld hheld'
    rw [Ne, hnone] at hheld hheld'
    exact h.alone process process' handle hheld hheld'
  · intro handle hentry
    obtain ⟨process, hheld⟩ := h.stored handle hentry
    exact ⟨process, by rwa [Ne, hnone]⟩
  · intro q other hq
    rw [Clients.actors_send, UnorderedMap.find_set] at hq
    rw [Clients.next_send]
    split at hq
    · cases hq
      exact h.processes p client hclient
    · exact h.processes q other hq
  · intro q other hq handle hmem
    rw [Clients.actors_send, UnorderedMap.find_set] at hq
    rw [Ne, hnone]
    split at hq
    · cases hq
      obtain ⟨held, hheld, -⟩ := c.copies_pos.mp (hpermits.copies_pos hmem)
      show c.holds client.process handle ≠ none
      rw [hheld]
      exact fun h => by cases h
    · exact h.pending q other hq handle hmem
  · -- an object in its destructor is not used by a decision that is sent
    intro q other handle hq hreleases
    rw [Clients.actors_send, UnorderedMap.find_set] at hq
    split at hq
    · rename_i heq
      subst heq
      cases hq
      have hreleased : d.type.released = some handle := hreleases
      have hpermitted := hpermits.2 handle (by
        rw [handles_of_released hreleased]; exact List.mem_singleton_self _)
      rw [if_pos hreleased] at hpermitted
      refine ⟨?_, ?_⟩
      · show (c.send q client d).copies client.process handle = 0
        rw [Clients.copies, Clients.holds_send, if_pos ⟨hreleased, rfl⟩]
        cases c.holds client.process handle <;> rfl
      · intro r another hr hprocess hmem
        rw [Clients.actors_send, UnorderedMap.find_set] at hr
        split at hr
        · assumption
        · exact absurd hmem
            (hpermitted.2 another (UnorderedMap.mem_values.mpr ⟨r, hr⟩) hprocess)
    · obtain ⟨hzero, honly⟩ := h.releasing q other handle hq hreleases
      refine ⟨hcopies _ _ hzero, ?_⟩
      intro r another hr hprocess hmem
      rw [Clients.actors_send, UnorderedMap.find_set] at hr
      split at hr
      · cases hr
        have hpos := hpermits.copies_pos hmem
        have hprocess' : client.process = other.process := hprocess
        rw [hprocess', hzero] at hpos
        exact absurd hpos (lt_irrefl 0)
      · exact honly r another hr hprocess hmem

/-- The threads that are not as they were have sent no decision. -/
theorem idle (h : ClientsInv entry c) {c' : Clients} (hholds : c'.holds = c.holds)
    (hnext : c'.next = c.next)
    (hactors : ∀ q other, c'.actors.find q = some other → other.process < c.next ∧
      (other.pending = none ∨ c.actors.find q = some other)) : ClientsInv entry c' := by
  have hpending : ∀ q other handle, c'.actors.find q = some other → handle ∈ other.pendingHandles →
      c.actors.find q = some other := by
    intro q other handle hq hmem
    rcases (hactors q other hq).2 with hnone | hq
    · rw [Client.pendingHandles, hnone] at hmem
      cases hmem
    · exact hq
  have hcopies : c'.copies = c.copies := by
    funext process handle
    rw [Clients.copies, Clients.copies, hholds]
  refine ⟨?_, ?_, ?_, ?_, ?_, ?_⟩
  · rw [hholds, hnext]
    exact h.held
  · rw [hholds]
    exact h.alone
  · rw [hholds]
    exact h.stored
  · intro q other hq
    rw [hnext]
    exact (hactors q other hq).1
  · intro q other hq handle hmem
    rw [hholds]
    exact h.pending q other (hpending q other handle hq hmem) handle hmem
  · intro q other handle hq hreleasing
    rw [hcopies]
    obtain ⟨hzero, honly⟩ :=
      h.releasing q other handle (hpending q other handle hq (other.mem_pendingHandles hreleasing))
        hreleasing
    exact ⟨hzero, fun r another hr hprocess hmem =>
      honly r another (hpending r another handle hr hmem) hprocess hmem⟩

/-- A client is done with a decision that releases nothing. -/
theorem settle (h : ClientsInv entry c) {p : Pid} {client : Client}
    (hclient : c.actors.find p = some client) (hreleases : client.releases = none) :
    ClientsInv entry (c.settle p client) := by
  refine h.idle ?_ (c.next_settle p client) ?_
  · funext process handle
    rw [Clients.holds_settle, hreleases, if_neg (fun heq => by cases heq.1)]
  · intro q other hq
    rw [Clients.actors_settle, UnorderedMap.find_set] at hq
    split at hq
    · cases hq
      exact ⟨h.processes p client hclient, Or.inl rfl⟩
    · exact ⟨h.processes q other hq, Or.inr hq⟩

/-- A client is done with the release of an entry, which is gone. -/
theorem settle_release (h : ClientsInv entry c) {p : Pid} {client : Client} {handle : Handle}
    (hclient : c.actors.find p = some client) (hreleases : client.releases = some handle) :
    ClientsInv (fun h' => if h' = handle then none else entry h') (c.settle p client) := by
  have hholds : ∀ process h', (c.settle p client).holds process h' ≠ none →
      h' ≠ handle ∧ (c.settle p client).holds process h' = c.holds process h' := by
    intro process h' hheld
    rw [Clients.holds_settle] at hheld ⊢
    split at hheld
    · exact absurd rfl hheld
    · rename_i hother
      rw [if_neg hother]
      refine ⟨?_, rfl⟩
      rintro rfl
      -- the process that releases is the only one that holds it
      have hmine := h.pending p client hclient h' (client.mem_pendingHandles hreleases)
      exact hother ⟨hreleases, h.alone _ _ _ hheld hmine⟩
  have hkept : ∀ process h', h' ≠ handle →
      (c.settle p client).holds process h' = c.holds process h' := by
    intro process h' hne
    rw [Clients.holds_settle, if_neg]
    rintro ⟨heq, -⟩
    rw [hreleases, Option.some.injEq] at heq
    exact hne heq.symm
  have hcopies : ∀ process h', c.copies process h' = 0 →
      (c.settle p client).copies process h' = 0 := by
    intro process h' hzero
    by_cases hgone : client.releases = some h' ∧ process = client.process
    · rw [Clients.copies, Clients.holds_settle, if_pos hgone]
    · rwa [Clients.copies, Clients.holds_settle, if_neg hgone]
  have hothers : ∀ q other, (c.settle p client).actors.find q = some other →
      other.process < c.next ∧ (other.pendingHandles = [] ∧ other.releases = none ∨
        q ≠ p ∧ c.actors.find q = some other) := by
    intro q other hq
    rw [Clients.actors_settle, UnorderedMap.find_set] at hq
    split at hq
    · cases hq
      exact ⟨h.processes p client hclient, Or.inl ⟨rfl, rfl⟩⟩
    · rename_i hne
      exact ⟨h.processes q other hq, Or.inr ⟨hne, hq⟩⟩
  refine ⟨?_, ?_, ?_, ?_, ?_, ?_⟩
  · intro process h' held hheld
    obtain ⟨hne, heq⟩ := hholds process h' (by rw [hheld]; exact fun h => by cases h)
    rw [heq] at hheld
    rw [Clients.next_settle, if_neg hne]
    exact h.held process h' held hheld
  · intro process process' h' hheld hheld'
    rw [(hholds _ _ hheld).2] at hheld
    rw [(hholds _ _ hheld').2] at hheld'
    exact h.alone process process' h' hheld hheld'
  · intro h' hentry
    by_cases heq : h' = handle
    · rw [if_pos heq] at hentry
      exact absurd rfl hentry
    · rw [if_neg heq] at hentry
      obtain ⟨process, hheld⟩ := h.stored h' hentry
      exact ⟨process, by rwa [hkept process h' heq]⟩
  · intro q other hq
    rw [Clients.next_settle]
    exact (hothers q other hq).1
  · intro q other hq h' hmem
    rcases (hothers q other hq).2 with ⟨hnil, -⟩ | ⟨hne, hq⟩
    · rw [hnil] at hmem
      cases hmem
    · have hheld := h.pending q other hq h' hmem
      rw [Clients.holds_settle, if_neg]
      · exact hheld
      · rintro ⟨heq, hprocess⟩
        exact hne ((h.releasing p client h' hclient heq).2 q other hq hprocess hmem)
  · intro q other h' hq hreleasing
    rcases (hothers q other hq).2 with ⟨-, hnone⟩ | ⟨-, hq⟩
    · rw [hnone] at hreleasing
      cases hreleasing
    · obtain ⟨hzero, honly⟩ := h.releasing q other h' hq hreleasing
      refine ⟨hcopies _ _ hzero, ?_⟩
      intro r another hr hprocess hmem
      rcases (hothers r another hr).2 with ⟨hnil, -⟩ | ⟨-, hr⟩
      · rw [hnil] at hmem
        cases hmem
      · exact honly r another hr hprocess hmem

/-- A process gets the object that was created for it. -/
theorem create (h : ClientsInv entry c) {process : Nat} {handle : Handle} {e : Entry}
    (hprocess : process < c.next) (hnone : entry handle = none) :
    ClientsInv (fun h' => if h' = handle then some e else entry h')
      (c.hold process handle (some { copies := 1, node := e.node })) := by
  have hunheld : ∀ process', c.holds process' handle = none := by
    intro process'
    by_contra hheld
    obtain ⟨held, hheld⟩ := Option.ne_none_iff_exists'.mp hheld
    obtain ⟨-, e', he', -⟩ := h.held process' handle held hheld
    rw [hnone] at he'
    cases he'
  have hunasked : ∀ q other, c.actors.find q = some other → handle ∉ other.pendingHandles :=
    fun q other hq hmem => h.pending q other hq handle hmem (hunheld other.process)
  refine ⟨?_, ?_, ?_, h.processes, ?_, ?_⟩
  · intro process' h' held hheld
    rw [Clients.holds_hold] at hheld
    split at hheld
    · rename_i heq
      cases hheld
      exact ⟨heq.1 ▸ hprocess, e, if_pos heq.2, rfl⟩
    · rename_i hne
      obtain ⟨hlt, e', he', hnode⟩ := h.held process' h' held hheld
      refine ⟨hlt, e', ?_, hnode⟩
      rw [if_neg]
      · exact he'
      · rintro rfl
        rw [hunheld process'] at hheld
        cases hheld
  · intro process' process'' h' hheld hheld'
    simp only [Clients.holds_hold] at hheld hheld'
    split at hheld <;> split at hheld'
    · rename_i heq heq'
      rw [heq.1, heq'.1]
    · rename_i heq _
      rw [heq.2] at hheld'
      exact absurd (hunheld process'') hheld'
    · rename_i heq'
      rw [heq'.2] at hheld
      exact absurd (hunheld process') hheld
    · exact h.alone process' process'' h' hheld hheld'
  · intro h' hentry
    by_cases heq : h' = handle
    · refine ⟨process, ?_⟩
      rw [Clients.holds_hold, if_pos ⟨rfl, heq⟩]
      nofun
    · rw [if_neg heq] at hentry
      obtain ⟨process', hheld⟩ := h.stored h' hentry
      refine ⟨process', ?_⟩
      rwa [Clients.holds_hold, if_neg (fun hsame => heq hsame.2)]
  · intro q other hq h' hmem
    rw [Clients.holds_hold, if_neg]
    · exact h.pending q other hq h' hmem
    · rintro ⟨-, rfl⟩
      exact hunasked q other hq hmem
  · intro q other h' hq hreleasing
    obtain ⟨hzero, honly⟩ := h.releasing q other h' hq hreleasing
    refine ⟨?_, honly⟩
    rw [Clients.copies_hold, if_neg]
    · exact hzero
    · rintro ⟨-, rfl⟩
      exact hunasked q other hq (other.mem_pendingHandles hreleasing)

/-- A thread starts, with no decision sent yet. -/
theorem createThread (h : ClientsInv entry c) {process : Nat} (child : Pid)
    (hprocess : process < c.next) : ClientsInv entry (c.createThread process child) := by
  refine h.idle rfl rfl ?_
  intro q other hq
  simp only [Clients.createThread, UnorderedMap.find_insert] at hq
  split at hq
  · cases hq
    exact ⟨hprocess, Or.inl rfl⟩
  · exact ⟨h.processes q other hq, Or.inr hq⟩

/-- A process that holds no object forks. -/
theorem fork (h : ClientsInv entry c) {parent : Nat} (child : Pid)
    (hparent : ∀ handle, c.copies parent handle = 0) : ClientsInv entry (c.fork parent child) := by
  have hholds : (c.fork parent child).holds = c.holds := by
    funext process handle
    simp only [Clients.fork]
    split
    · rename_i heq
      have hnew : c.holds process handle = none := by
        by_contra hheld
        obtain ⟨held, hheld⟩ := Option.ne_none_iff_exists'.mp hheld
        have hlt := (h.held process handle held hheld).1
        omega
      rw [hnew]
      have hzero := hparent handle
      rw [Clients.copies] at hzero
      cases hheld : c.holds parent handle with
      | none => rfl
      | some held =>
          rw [hheld] at hzero
          have hcopies : held.copies = 0 := hzero
          rw [Option.filter_some, hcopies]
          rfl
    · rfl
  have hbefore : ClientsInv entry { c with next := c.next + 1 } := by
    refine ⟨?_, h.alone, h.stored, ?_, h.pending, h.releasing⟩
    · intro process handle held hheld
      obtain ⟨hlt, he⟩ := h.held process handle held hheld
      exact ⟨Nat.lt_succ_of_lt hlt, he⟩
    · exact fun q other hq => Nat.lt_succ_of_lt (h.processes q other hq)
  have hthread := hbefore.createThread child (Nat.lt_succ_self c.next)
  have heq : c.fork parent child =
      ({ c with next := c.next + 1 } : Clients).createThread c.next child := by
    have hactors : (c.fork parent child).actors = c.actors.insert child { process := c.next } := rfl
    cases hfork : c.fork parent child with
    | mk actors holds next =>
        rw [hfork] at hholds hactors
        have hnext : next = c.next + 1 := by
          have hsucc : (c.fork parent child).next = c.next + 1 := rfl
          rwa [hfork] at hsucc
        simp only at hholds hactors
        rw [hholds, hactors, hnext]
        rfl
  rw [heq]
  exact hthread

/-- A process copies a pointer, or drops one that is not the last. -/
theorem recount (h : ClientsInv entry c) {process : Nat} {handle : Handle} {held : Held}
    (hheld : c.holds process handle = some held) (hpos : 0 < held.copies) (copies : Nat) :
    ClientsInv entry (c.hold process handle (some { held with copies := copies })) := by
  have hnone : ∀ process' h', (c.hold process handle (some { held with copies := copies })).holds
      process' h' = none ↔ c.holds process' h' = none := by
    intro process' h'
    rw [Clients.holds_hold]
    split
    · rename_i heq
      rw [heq.1, heq.2, hheld]
      simp
    · rfl
  refine ⟨?_, ?_, ?_, h.processes, ?_, ?_⟩
  · intro process' h' held' hheld'
    rw [Clients.holds_hold] at hheld'
    split at hheld'
    · rename_i heq
      cases hheld'
      rw [heq.1, heq.2]
      exact h.held process handle held hheld
    · exact h.held process' h' held' hheld'
  · intro process' process'' h' hheld' hheld''
    rw [Ne, hnone] at hheld' hheld''
    exact h.alone process' process'' h' hheld' hheld''
  · intro h' hentry
    obtain ⟨process', hheld'⟩ := h.stored h' hentry
    exact ⟨process', by rwa [Ne, hnone]⟩
  · intro q other hq h' hmem
    rw [Ne, hnone]
    exact h.pending q other hq h' hmem
  · intro q other h' hq hreleasing
    obtain ⟨hzero, honly⟩ := h.releasing q other h' hq hreleasing
    refine ⟨?_, honly⟩
    rw [Clients.copies_hold, if_neg]
    · exact hzero
    · rintro ⟨hprocess, rfl⟩
      rw [hprocess, Clients.copies, hheld] at hzero
      exact absurd hzero (ne_of_gt hpos)

end ClientsInv

end RemoteSimgrid
