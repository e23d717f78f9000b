import RemoteSimgrid.ServeLoop

/-! The steps of the main loop of `serve`, one case for each thing that can happen. -/

namespace RemoteSimgrid

open Machine Pb

/-- What a `recv` on a barely connected socket makes of its command. -/
inductive ReadResult where
  | incomplete
  | complete (command : Command)
  | invalid
  deriving DecidableEq

/-- A bound on the bytes of the command that are still to come. -/
def BarelyConnectedSocketInformation.missing (endianness : Endianness)
    (info : BarelyConnectedSocketInformation) : Nat :=
  if info.header.length < 4 then 4 - info.header.length + maxContentSize
  else info.contentSize endianness - info.content.length

namespace Loop

variable (s : Loop)

/-- What a `recv` brings in front of which the command thread is. -/
def brings (format : CommandFormat) : RecvOutcome → ReadResult
  | .data bytes =>
      match s.point with
      | .header socket _ =>
          let header := (s.infos socket).header ++ bytes
          if header.length < 4 then .incomplete
          else if format.endianness.value header < maxContentSize then
            if format.endianness.value header = 0 then .complete .typeNotSet else .incomplete
          else .invalid
      | .content socket _ =>
          let content := (s.infos socket).content ++ bytes
          if content.length = (s.infos socket).contentSize format.endianness then
            match format.parseFromArray content with
            | some command => .complete command
            | none => .invalid
          else .incomplete
      | _ => .incomplete
  | .closed | .failed _ => .invalid

/-- The command thread is in front of a `recv` on a barely connected socket. -/
def Reading (socket : Socket) (rest : List Socket) : Prop :=
  s.point = .header socket rest ∨ s.point = .content socket rest

/-- The state in which the bytes read have been noted. -/
def noted (socket : Socket) (info : BarelyConnectedSocketInformation) : Loop :=
  { s with
    unread := s.unread.erase (s.fd socket)
    infos := Function.update s.infos socket info }

/-- The points at which the traversal of the dropped sockets may stop. -/
inductive DroppedPoint (rest : List Socket) : LoopPoint → Prop
  | none : DroppedPoint rest .message
  | some (socket : Socket) (after : List Socket) : socket :: after <:+ rest →
      s.fd socket ∈ s.readable → DroppedPoint rest (.dropped socket after)

/-- The points at which the traversal of the barely connected sockets may stop. -/
inductive PassPoint (rest : List Socket) : LoopPoint → Prop
  | reads (socket : Socket) (after : List Socket) (point : LoopPoint) :
      point = .header socket after ∨ point = .content socket after → socket :: after <:+ rest →
      s.fd socket ∈ s.readable →
      (point = .content socket after → 4 ≤ (s.infos socket).header.length) → PassPoint rest point
  | skipped : s.clientDropped = true → PassPoint rest .message
  | dropped (point : LoopPoint) : s.clientDropped = false →
      s.DroppedPoint s.serve.droppedSockets point → PassPoint rest point

variable {s}

theorem droppedPass_eq (rest : List Socket) :
    ∃ point, s.DroppedPoint rest point ∧ s.droppedPass rest = { s with point := point } := by
  induction rest with
  | nil => exact ⟨.message, .none, rfl⟩
  | cons socket rest ih =>
      unfold droppedPass
      by_cases hreadable : s.fd socket ∈ s.readable
      · rw [if_pos hreadable]
        exact ⟨_, .some socket rest List.suffix_rfl hreadable, rfl⟩
      · rw [if_neg hreadable]
        obtain ⟨point, hpoint, heq⟩ := ih
        refine ⟨point, ?_, heq⟩
        cases hpoint with
        | none => exact .none
        | some socket' after hsuffix hreadable' =>
            exact .some socket' after (hsuffix.trans (List.suffix_cons _ _)) hreadable'

theorem barelyConnectedPass_eq (rest : List Socket) :
    ∃ point, s.PassPoint rest point ∧ s.barelyConnectedPass rest = { s with point := point } := by
  induction rest with
  | nil =>
      unfold barelyConnectedPass afterBarelyConnected
      by_cases hdropped : s.clientDropped = true
      · rw [if_pos hdropped]
        exact ⟨.message, .skipped hdropped, rfl⟩
      · rw [if_neg hdropped]
        obtain ⟨point, hpoint, heq⟩ := s.droppedPass_eq s.serve.droppedSockets
        exact ⟨point, .dropped point (Bool.eq_false_iff.mpr hdropped) hpoint, heq⟩
  | cons socket rest ih =>
      unfold barelyConnectedPass
      by_cases hreadable : s.fd socket ∈ s.readable
      · rw [if_pos hreadable]
        unfold enterRead
        split
        · exact ⟨_, .reads socket rest _ (Or.inl rfl) List.suffix_rfl hreadable nofun, rfl⟩
        · rename_i hheader
          refine ⟨_, .reads socket rest _ (Or.inr rfl) List.suffix_rfl hreadable fun _ => ?_, rfl⟩
          omega
      · rw [if_neg hreadable]
        obtain ⟨point, hpoint, heq⟩ := ih
        refine ⟨point, ?_, heq⟩
        cases hpoint with
        | reads socket' after point hread hsuffix hreadable' hheader =>
            exact .reads socket' after point hread (hsuffix.trans (List.suffix_cons _ _)) hreadable'
              hheader
        | skipped hdropped => exact .skipped hdropped
        | dropped point hdropped hpoint => exact .dropped point hdropped hpoint

end Loop

/-- The cases of a step. -/
inductive LoopStep (format : CommandFormat) (s : Loop) :
    LoopEvent → Loop → List LoopOutput → Prop
  | selectFailed (readable : Finset Int) (order : List Socket) (e : Error) : s.point = .select →
      ¬s.registered ⊆ s.openFds → LoopStep format s (.select readable order) (s.raise e) []
  | selected (readable : Finset Int) (order : List Socket) (t : Loop) (point : LoopPoint) :
      s.point = .select → s.registered ⊆ s.openFds → readable ⊆ s.registered → order.Nodup →
      order.toFinset = s.serve.barelyConnectedSockets →
      t = { s with readable := readable, unread := readable, clientDropped := false } →
      point = .message ∨ point = .closing true 1 ∨ point = .accept ∨ t.PassPoint order point →
      LoopStep format s (.select readable order) { t with point := point } []
  | accepted (socket : Socket) (fd : Int) : s.point = .accept → socket ∉ s.serve.sockets →
      fd ∉ s.openFds → 0 ≤ fd →
      LoopStep format s (.accept socket fd)
        { s with
          point := .message
          serve := { s.serve with
            barelyConnectedSockets := insert socket s.serve.barelyConnectedSockets
            sockets := insert socket s.serve.sockets }
          infos := Function.update s.infos socket {}
          objects := Function.update s.objects socket (.accepted fd)
          openFds := insert fd s.openFds
          registered := insert fd s.registered } []
  | readMore (socket : Socket) (rest : List Socket) (outcome : RecvOutcome)
      (info : BarelyConnectedSocketInformation) (point : LoopPoint) : s.Reading socket rest →
      s.brings format outcome = .incomplete →
      point = .header socket rest ∨ point = .content socket rest →
      (point = .content socket rest → 4 ≤ info.header.length) →
      ((s.point = .content socket rest → 4 ≤ (s.infos socket).header.length) →
        info.missing format.endianness < (s.infos socket).missing format.endianness) →
      LoopStep format s (.recv outcome) { s.noted socket info with point := point } []
  | readFailed (socket : Socket) (rest : List Socket) (outcome : RecvOutcome)
      (infos : Socket → BarelyConnectedSocketInformation) (t u : Loop) (e : Error) :
      s.Reading socket rest → s.brings format outcome = .invalid →
      u = { s with unread := s.unread.erase (s.fd socket), infos := infos } →
      t = u ∨ t = u.closeObject socket → LoopStep format s (.recv outcome) (t.raise e) []
  | refused (socket : Socket) (rest : List Socket) (outcome : RecvOutcome)
      (info : BarelyConnectedSocketInformation) (command : Command) (e : Error) :
      s.Reading socket rest → s.brings format outcome = .complete command →
      s.serve.handleCommand command socket = .error e →
      LoopStep format s (.recv outcome) ((s.noted socket info).raise e) [.handled socket command]
  | droppedClient (socket : Socket) (rest : List Socket) (outcome : RecvOutcome)
      (info : BarelyConnectedSocketInformation) (command : Command) (serve : Serve)
      (out : List ServeOutput) (t : Loop) (point : LoopPoint) : s.Reading socket rest →
      s.brings format outcome = .complete command →
      s.serve.handleCommand command socket = .ok (serve, out, true) →
      t = { s.noted socket info with
        serve := serve.afterCommand socket true, clientDropped := true } → t.PassPoint rest point →
      LoopStep format s (.recv outcome) { t with point := point }
        (.handled socket command :: out.map .wrote)
  | connected (socket : Socket) (rest : List Socket) (outcome : RecvOutcome)
      (info : BarelyConnectedSocketInformation) (command : Command) (serve : Serve)
      (out : List ServeOutput) : s.Reading socket rest →
      s.brings format outcome = .complete command →
      s.serve.handleCommand command socket = .ok (serve, out, false) →
      LoopStep format s (.recv outcome)
        { s.noted socket info with
          serve := serve.afterCommand socket false
          actors := insert socket s.actors
          point := .unregister socket rest }
        (.handled socket command :: out.map .wrote)
  | unanswered (socket : Socket) (rest : List Socket) (bytes : Bytes) (errno : String)
      (info : BarelyConnectedSocketInformation) (command : Command) (serve : Serve)
      (out : List ServeOutput) (dropClient : Bool) (e : Error) : s.point = .content socket rest →
      s.brings format (.data bytes) = .complete command →
      s.serve.handleCommand command socket = .ok (serve, out, dropClient) →
      LoopStep format s (.unanswered bytes errno)
        (({ s.noted socket info with serve := serve } : Loop).raise e)
        (.handled socket command :: (out.filter ServeOutput.isPush).map .wrote)
  | unregistered (socket : Socket) (rest : List Socket) (t : Loop) (point : LoopPoint) :
      s.point = .unregister socket rest →
      t = { s with registered := s.registered.erase (s.fd socket) } → t.PassPoint rest point →
      LoopStep format s .unregister { t with point := point } []
  | droppedData (socket : Socket) (rest : List Socket) (bytes : Bytes) (t : Loop)
      (point : LoopPoint) : s.point = .dropped socket rest →
      t = { s with unread := s.unread.erase (s.fd socket) } → t.DroppedPoint rest point →
      LoopStep format s (.recv (.data bytes)) { t with point := point } []
  | droppedClosed (socket : Socket) (rest : List Socket) (t : Loop) (point : LoopPoint) :
      s.point = .dropped socket rest →
      t = (({ s with unread := s.unread.erase (s.fd socket) } : Loop).closeObject socket).forget
        socket → t.DroppedPoint rest point →
      LoopStep format s (.recv .closed) { t with point := point } [.deleted socket]
  | droppedFailed (socket : Socket) (rest : List Socket) (errno : String) (t : Loop)
      (point : LoopPoint) : s.point = .dropped socket rest →
      t = ({ s with unread := s.unread.erase (s.fd socket) } : Loop).forget socket →
      t.DroppedPoint rest point →
      LoopStep format s (.recv (.failed errno)) { t with point := point } [.deleted socket]
  | noMessage : s.point = .message → LoopStep format s (.message none) s.nextIteration []
  | messageFailed (msg : InterthreadMessage) (e : Error) : s.point = .message →
      s.serve.simulationThreads ≠ [] → s.Sends msg →
      s.serve.handleInterthreadMessage msg = .error e →
      LoopStep format s (.message (some msg)) (s.raise e) []
  | message (msg : InterthreadMessage) (serve : Serve) (out : List ServeOutput) :
      s.point = .message → s.serve.simulationThreads ≠ [] → s.Sends msg →
      s.serve.handleInterthreadMessage msg = .ok (serve, out) →
      LoopStep format s (.message (some msg))
        (({ s with serve := serve } : Loop).afterMessage msg).nextIteration (out.map .wrote)
  | closed (abortive : Bool) (code : Nat) (order : List Socket) (failing : Finset Socket) :
      s.point = .closing abortive code → order.Nodup →
      order.toFinset = s.serve.barelyConnectedSockets →
      LoopStep format s (.close order failing)
        (Loop.closeSockets abortive code failing
          (order ++ s.serve.droppedSockets ++ s.actorSockets) s).1
        (Loop.closeSockets abortive code failing
          (order ++ s.serve.droppedSockets ++ s.actorSockets) s).2
  | actorClosed (socket : Socket) : socket ∈ s.actors → s.fd socket ≠ -1 →
      LoopStep format s (.actorCloses socket) (s.closeObject socket) []

section

variable {format : CommandFormat} {s t : Loop} {event : LoopEvent} {out : List LoopOutput}

/-- A command that has been read completely. -/
theorem handle_cases {socket : Socket} {rest : List Socket} {outcome : RecvOutcome}
    {info : BarelyConnectedSocketInformation} {command : Command} (hreading : s.Reading socket rest)
    (hbrings : s.brings format outcome = .complete command) :
    LoopStep format s (.recv outcome) ((s.noted socket info).handle command socket rest).1
      ((s.noted socket info).handle command socket rest).2 := by
  unfold Loop.handle
  split
  · rename_i e he
    exact .refused socket rest outcome info command e hreading hbrings he
  · rename_i serve out dropClient hok
    cases dropClient with
    | true =>
        obtain ⟨point, hpoint, heq⟩ := Loop.barelyConnectedPass_eq (s := { s.noted socket info with
          serve := serve.afterCommand socket true, clientDropped := true }) rest
        simp only [if_true, heq]
        exact .droppedClient socket rest outcome info command serve out _ point hreading hbrings hok
          rfl hpoint
    | false => exact .connected socket rest outcome info command serve out hreading hbrings hok

theorem readHeader_cases {socket : Socket} {rest : List Socket} {bytes : Bytes}
    (hpoint : s.point = .header socket rest) (hbytes : bytes ≠ [])
    (hremaining : bytes.length ≤ s.remaining format) :
    LoopStep format s (.recv (.data bytes))
      (({ s with unread := s.unread.erase (s.fd socket) } : Loop).readHeader format socket rest
        bytes).1
      (({ s with unread := s.unread.erase (s.fd socket) } : Loop).readHeader format socket rest
        bytes).2 := by
  have hbrings : s.brings format (.data bytes) =
      if ((s.infos socket).header ++ bytes).length < 4 then .incomplete
      else if format.endianness.value ((s.infos socket).header ++ bytes) < maxContentSize then
        if format.endianness.value ((s.infos socket).header ++ bytes) = 0 then .complete .typeNotSet
        else .incomplete
      else .invalid := by
    unfold Loop.brings
    rw [hpoint]
  have hpositive : 0 < bytes.length := List.length_pos_iff.mpr hbytes
  have hstarted : (s.infos socket).header.length + bytes.length ≤ 4 := by
    unfold Loop.remaining at hremaining
    rw [hpoint] at hremaining
    simp only at hremaining
    omega
  have hmissing : (s.infos socket).missing format.endianness =
      4 - (s.infos socket).header.length + maxContentSize := by
    unfold BarelyConnectedSocketInformation.missing
    rw [if_pos (by omega)]
  have happend : ((s.infos socket).header ++ bytes).length =
      (s.infos socket).header.length + bytes.length := List.length_append
  unfold Loop.readHeader BarelyConnectedSocketInformation.contentSize
  generalize hheader : (s.infos socket).header ++ bytes = header at hbrings happend
  by_cases hlength : header.length < 4
  · rw [if_pos hlength] at hbrings
    simp only [if_pos hlength, Loop.enterRead, Function.update_self]
    refine .readMore socket rest _ _ _ (Or.inl hpoint) hbrings (Or.inl rfl) nofun fun _ => ?_
    rw [hmissing, BarelyConnectedSocketInformation.missing, if_pos hlength]
    simp only
    omega
  · rw [if_neg hlength] at hbrings
    simp only [if_neg hlength]
    by_cases hmax : format.endianness.value header < maxContentSize
    · rw [if_pos hmax] at hbrings
      simp only [if_pos hmax]
      by_cases hzero : format.endianness.value header = 0
      · rw [if_pos hzero] at hbrings
        simp only [if_pos hzero]
        exact handle_cases (Or.inl hpoint) hbrings
      · rw [if_neg hzero] at hbrings
        simp only [if_neg hzero]
        refine .readMore socket rest _ _ _ (Or.inl hpoint) hbrings (Or.inr rfl)
          (fun _ => by simp only; omega) fun _ => ?_
        rw [hmissing, BarelyConnectedSocketInformation.missing, if_neg hlength]
        simp only [BarelyConnectedSocketInformation.contentSize]
        omega
    · rw [if_neg hmax] at hbrings
      simp only [if_neg hmax]
      exact .readFailed socket rest _ _ _ _ _ (Or.inl hpoint) hbrings rfl (Or.inl rfl)

theorem readContent_cases {socket : Socket} {rest : List Socket} {bytes : Bytes}
    (hpoint : s.point = .content socket rest) (hbytes : bytes ≠ [])
    (hremaining : bytes.length ≤ s.remaining format) :
    LoopStep format s (.recv (.data bytes))
      (({ s with unread := s.unread.erase (s.fd socket) } : Loop).readContent format socket rest
        bytes).1
      (({ s with unread := s.unread.erase (s.fd socket) } : Loop).readContent format socket rest
        bytes).2 := by
  have hbrings : s.brings format (.data bytes) =
      if ((s.infos socket).content ++ bytes).length = (s.infos socket).contentSize format.endianness
      then
        match format.parseFromArray ((s.infos socket).content ++ bytes) with
        | some command => .complete command
        | none => .invalid
      else .incomplete := by
    unfold Loop.brings
    rw [hpoint]
  have hpositive : 0 < bytes.length := List.length_pos_iff.mpr hbytes
  have hleft : bytes.length ≤
      format.endianness.value (s.infos socket).header - (s.infos socket).content.length := by
    unfold Loop.remaining at hremaining
    rwa [hpoint] at hremaining
  have happend : ((s.infos socket).content ++ bytes).length =
      (s.infos socket).content.length + bytes.length := List.length_append
  unfold Loop.readContent
  unfold BarelyConnectedSocketInformation.contentSize at hbrings ⊢
  generalize hcontent : (s.infos socket).content ++ bytes = content at hbrings happend
  by_cases hlength : content.length = format.endianness.value (s.infos socket).header
  · rw [if_pos hlength] at hbrings
    simp only [if_pos hlength]
    cases hparse : format.parseFromArray content with
    | some command =>
        rw [hparse] at hbrings
        exact handle_cases (Or.inr hpoint) hbrings
    | none =>
        rw [hparse] at hbrings
        exact .readFailed socket rest _ _ _ _ _ (Or.inr hpoint) hbrings rfl (Or.inl rfl)
  · rw [if_neg hlength] at hbrings
    have hless : 4 ≤ (s.infos socket).header.length →
        BarelyConnectedSocketInformation.missing format.endianness
            { s.infos socket with content := content } <
          (s.infos socket).missing format.endianness := by
      intro hheader
      simp only [BarelyConnectedSocketInformation.missing,
        BarelyConnectedSocketInformation.contentSize, if_neg (Nat.not_lt.mpr hheader)]
      omega
    simp only [if_neg hlength, Loop.enterRead, Function.update_self]
    split
    · exact .readMore socket rest _ _ _ (Or.inr hpoint) hbrings (Or.inl rfl) nofun
        fun hheader => hless (hheader hpoint)
    · rename_i hheader
      exact .readMore socket rest _ _ _ (Or.inr hpoint) hbrings (Or.inr rfl)
        (fun _ => Nat.not_lt.mp hheader) fun hheader => hless (hheader hpoint)

theorem eq_of_some_eq {α β : Type} {x : α × β} {a : α} {b : β} (h : some x = some (a, b)) :
    a = x.1 ∧ b = x.2 := by
  cases h
  exact ⟨rfl, rfl⟩

theorem readUnanswered_cases {socket : Socket} {rest : List Socket} {bytes : Bytes} {errno : String}
    (hpoint : s.point = .content socket rest)
    (h : ({ s with unread := s.unread.erase (s.fd socket) } : Loop).readUnanswered format socket bytes
      errno = some (t, out)) : LoopStep format s (.unanswered bytes errno) t out := by
  unfold Loop.readUnanswered at h
  simp only at h
  split at h
  · rename_i hlength
    split at h
    · rename_i command hparse
      unfold Loop.handleUnanswered at h
      split at h
      · cases h
      · rename_i serve out' dropClient hok
        have hbrings : s.brings format (.data bytes) = .complete command := by
          unfold BarelyConnectedSocketInformation.contentSize at hlength
          unfold Loop.brings BarelyConnectedSocketInformation.contentSize
          rw [hpoint]
          simp only [if_pos hlength, hparse]
        cases h
        exact .unanswered socket rest bytes errno _ command serve out' dropClient _ hpoint hbrings hok
    · cases h
  · cases h

/-- Every step is one of the cases of `LoopStep`. -/
theorem loopStep_cases (h : loopStep format s event = some (t, out)) : LoopStep format s event t out := by
  cases event with
  | select readable order =>
      rw [loopStep] at h
      split at h
      · rename_i hpoint
        split at h
        · rename_i hregistered
          cases h
          exact .selectFailed readable order _ hpoint hregistered
        · rename_i hregistered
          split at h
          · rename_i hlabel
            obtain ⟨hreadable, hnodup, horder⟩ := hlabel
            have hstep : ∀ point, _ → LoopStep format s (.select readable order) _ [] := fun point =>
              .selected readable order _ point hpoint (not_not.mp hregistered) hreadable hnodup horder
                rfl
            simp only at h
            split at h
            · cases h
              exact hstep _ (Or.inl rfl)
            · split at h
              · cases h
                exact hstep _ (Or.inr (Or.inl rfl))
              · split at h
                · cases h
                  exact hstep _ (Or.inr (Or.inr (Or.inl rfl)))
                · obtain ⟨point, hpass, heq⟩ := Loop.barelyConnectedPass_eq (s := { s with
                    readable := readable, unread := readable, clientDropped := false }) order
                  rw [heq] at h
                  cases h
                  exact hstep point (Or.inr (Or.inr (Or.inr hpass)))
          · cases h
      · cases h
  | accept socket fd =>
      rw [loopStep] at h
      split at h
      · rename_i hpoint
        split at h
        · rename_i hlabel
          cases h
          exact .accepted socket fd hpoint hlabel.1 hlabel.2.1 hlabel.2.2
        · cases h
      · cases h
  | recv outcome =>
      rw [loopStep] at h
      split at h
      · rename_i socket rest hpoint
        split at h
        · rename_i bytes
          split at h
          · rename_i hlabel
            obtain ⟨rfl, rfl⟩ := eq_of_some_eq h
            exact readHeader_cases hpoint hlabel.1 hlabel.2
          · cases h
        · cases h
          exact .readFailed socket rest .closed _ _ _ _ (Or.inl hpoint) rfl rfl (Or.inr rfl)
        · rename_i errno
          cases h
          exact .readFailed socket rest (.failed errno) _ _ _ _ (Or.inl hpoint) rfl rfl (Or.inl rfl)
      · rename_i socket rest hpoint
        split at h
        · rename_i bytes
          split at h
          · rename_i hlabel
            obtain ⟨rfl, rfl⟩ := eq_of_some_eq h
            exact readContent_cases hpoint hlabel.1 hlabel.2
          · cases h
        · cases h
          exact .readFailed socket rest .closed _ _ _ _ (Or.inr hpoint) rfl rfl (Or.inr rfl)
        · rename_i errno
          cases h
          exact .readFailed socket rest (.failed errno) _ _ _ _ (Or.inr hpoint) rfl rfl (Or.inl rfl)
      · rename_i socket rest hpoint
        simp only at h
        split at h
        · rename_i bytes
          split at h
          · obtain ⟨point, hpass, heq⟩ := Loop.droppedPass_eq (s := { s with
              unread := s.unread.erase (s.fd socket) }) rest
            rw [heq] at h
            cases h
            exact .droppedData socket rest bytes _ point hpoint rfl hpass
          · cases h
        · obtain ⟨point, hpass, heq⟩ := Loop.droppedPass_eq (s := (({ s with
            unread := s.unread.erase (s.fd socket) } : Loop).closeObject socket).forget socket) rest
          rw [heq] at h
          cases h
          exact .droppedClosed socket rest _ point hpoint rfl hpass
        · rename_i errno
          obtain ⟨point, hpass, heq⟩ := Loop.droppedPass_eq (s := ({ s with
            unread := s.unread.erase (s.fd socket) } : Loop).forget socket) rest
          rw [heq] at h
          cases h
          exact .droppedFailed socket rest errno _ point hpoint rfl hpass
      · cases h
  | unanswered bytes errno =>
      rw [loopStep] at h
      split at h
      · rename_i socket rest hpoint
        simp only at h
        split at h
        · exact readUnanswered_cases hpoint h
        · cases h
      · cases h
  | unregister =>
      rw [loopStep] at h
      split at h
      · rename_i socket rest hpoint
        obtain ⟨point, hpass, heq⟩ := Loop.barelyConnectedPass_eq (s := { s with
          registered := s.registered.erase (s.fd socket) }) rest
        rw [heq] at h
        cases h
        exact .unregistered socket rest _ point hpoint rfl hpass
      · cases h
  | message msg =>
      cases msg with
      | none =>
          rw [loopStep] at h
          split at h
          · rename_i hpoint
            cases h
            exact .noMessage hpoint
          · cases h
      | some msg =>
          rw [loopStep] at h
          split at h
          · rename_i hpoint
            split at h
            · rename_i hlabel
              split at h
              · rename_i e he
                cases h
                exact .messageFailed msg e hpoint hlabel.1 hlabel.2 he
              · rename_i serve out' hok
                cases h
                exact .message msg serve out' hpoint hlabel.1 hlabel.2 hok
            · cases h
          · cases h
  | close order failing =>
      rw [loopStep] at h
      split at h
      · rename_i abortive code hpoint
        split at h
        · rename_i hlabel
          obtain ⟨rfl, rfl⟩ := eq_of_some_eq h
          exact .closed abortive code order failing hpoint hlabel.1 hlabel.2
        · cases h
      · cases h
  | actorCloses socket =>
      rw [loopStep] at h
      split at h
      · rename_i hlabel
        cases h
        exact .actorClosed socket hlabel.1 hlabel.2.1
      · cases h

end

end RemoteSimgrid
