import Mathlib.Algebra.Order.BigOperators.Group.List
import RemoteSimgrid.ServeBarelyConnected
import RemoteSimgrid.ServeLoopReads

/-! One pass over `barely_connected_sockets`. A read that leaves a command incomplete does not advance
the traversal, so the pass ends because every `recv` brings a frame nearer to its end. -/

namespace RemoteSimgrid

open Machine Pb

namespace BarelyConnectedSocketInformation

variable (endianness : Endianness) (info : BarelyConnectedSocketInformation)

/-- The size of the frame, as far as its header tells. A header with an invalid size ends the frame. -/
def frameSize : Nat :=
  if info.header.length < 4 ∨ maxContentSize ≤ info.contentSize endianness then 4
  else 4 + info.contentSize endianness

/-- A command that has not been read completely. -/
inductive Unfinished : Prop
  | header : info.header.length < 4 → info.content = [] → Unfinished
  | content : info.header.length = 4 → info.contentSize endianness < maxContentSize →
      info.content.length < info.contentSize endianness → Unfinished

variable {endianness info}

theorem frameSize_lt : info.frameSize endianness < 4 + 2 ^ 24 := by
  unfold frameSize
  split
  · omega
  · rename_i hvalid
    have hmax : info.contentSize endianness < maxContentSize := by omega
    exact Nat.add_lt_add_left hmax 4

theorem Unfinished.lt_frameSize (h : info.Unfinished endianness) :
    info.bytesRead < info.frameSize endianness := by
  unfold bytesRead frameSize
  cases h with
  | header hheader hcontent =>
      rw [if_pos (Or.inl hheader), hcontent]
      simpa using hheader
  | content hheader hvalid hcontent =>
      rw [if_neg (by omega)]
      omega

end BarelyConnectedSocketInformation

/-! ### One call of the reader -/

section

variable {endianness : Endianness} {recvs : Nat → RecvResult} {protobuf : Protobuf}
  {info info' : BarelyConnectedMemory} {socket socket' : TcpSocket} {stream stream' : Bytes}
  {calls calls' : Nat}

/-- What a `recv` into a buffer has to give for the reader to return `false`. -/
theorem recvInto_unfinished {buffer : Bytes} {offset size : Nat}
    {next : Bytes → TcpSocket → Bytes → Nat → BarelyConnectedRead protobuf.Message}
    (h : recvInto recvs protobuf socket buffer offset size stream calls next =
      .unfinished info' socket' stream' calls') :
    ∃ part socket₁ stream₁ calls₁,
      next part socket₁ stream₁ calls₁ = .unfinished info' socket' stream' calls' := by
  unfold recvInto at h
  split at h
  · cases h
  · cases hrecv : socket.recv recvs size stream calls with
    | got part socket₁ stream₁ calls₁ =>
        rw [hrecv] at h
        exact ⟨part, socket₁, stream₁, calls₁, h⟩
    | blocked => rw [hrecv] at h; cases h
    | raised _ _ => rw [hrecv] at h; cases h

theorem readBarelyConnectedContent_reads {headerNewlyRead : Bool}
    (h : readBarelyConnectedContent endianness recvs protobuf headerNewlyRead info socket stream calls =
      .unfinished info' socket' stream' calls') :
    info.bytesRead ≤ info'.bytesRead ∧
      (headerNewlyRead = false → info.bytesRead < info'.bytesRead) := by
  unfold readBarelyConnectedContent at h
  dsimp only at h
  split at h
  · cases h
  · obtain ⟨part, socket₁, stream₁, calls₁, hnext⟩ := recvInto_unfinished h
    split at hnext
    · rename_i hread
      split at hnext
      · split at hnext <;> cases hnext
      · cases hnext
        refine ⟨Nat.le_add_right _ _, fun hnew => ?_⟩
        rw [hnew] at hread
        exact Nat.lt_add_of_pos_right (hread.resolve_right Bool.false_ne_true)
    · cases hnext

/-- When the reader returns `false`, it has read one byte at least. -/
theorem handleBarelyConnectedSocketRead_reads
    (h : handleBarelyConnectedSocketRead endianness recvs protobuf info socket stream calls =
      .unfinished info' socket' stream' calls') : info.bytesRead < info'.bytesRead := by
  unfold handleBarelyConnectedSocketRead at h
  split at h
  · exact (readBarelyConnectedContent_reads h).2 rfl
  · obtain ⟨part, socket₁, stream₁, calls₁, hnext⟩ := recvInto_unfinished h
    dsimp only at hnext
    split at hnext
    · rename_i hread
      split at hnext
      · split at hnext
        · -- the header is complete, and the content is read in the same call
          exact lt_of_lt_of_le (Nat.lt_add_of_pos_right hread)
            (readBarelyConnectedContent_reads hnext).1
        · cases hnext
      · cases hnext
        exact Nat.lt_add_of_pos_right hread
    · cases hnext

end

/-! ### The traversal of the main loop -/

/-- A call of `recv`. -/
def LoopEvent.isRecv : LoopEvent → Bool
  | .recv _ | .unanswered _ _ => true
  | _ => false

namespace LoopOutput

def handledSocket : LoopOutput → Option Socket
  | .handled socket _ => some socket
  | _ => none

end LoopOutput

/-- The sockets whose commands have been handled. -/
def handledSockets (trace : List LoopOutput) : List Socket := trace.filterMap LoopOutput.handledSocket

namespace Loop

variable (s : Loop)

/-- The traversal of the barely connected sockets is under way. -/
def inPass : Bool :=
  match s.point with
  | .header _ _ | .content _ _ | .unregister _ _ => true
  | _ => false

/-- The readable sockets whose commands the traversal still reads. -/
def toVisit : List Socket :=
  match s.point with
  | .header socket rest | .content socket rest =>
      socket :: rest.filter fun x => decide (s.fd x ∈ s.readable)
  | .unregister _ rest => rest.filter fun x => decide (s.fd x ∈ s.readable)
  | _ => []

/-- What is known of the commands that are being read. -/
structure ReadInv (format : CommandFormat) : Prop where
  barely : ∀ x ∈ s.serve.barelyConnectedSockets, (s.infos x).Unfinished format.endianness
  header : ∀ socket rest, s.point = .header socket rest → (s.infos socket).header.length < 4
  content : ∀ socket rest, s.point = .content socket rest → 4 ≤ (s.infos socket).header.length

/-- The point in front of the next `recv` on a barely connected socket. -/
def readPoint (info : BarelyConnectedSocketInformation) (socket : Socket) (rest : List Socket) :
    LoopPoint :=
  if info.header.length < 4 then .header socket rest else .content socket rest

/-- The command thread has not left `serve`. -/
def serving : Bool :=
  match s.point with
  | .left _ | .raised _ => false
  | _ => true

/-- The outcomes of a `recv` on a barely connected socket: more bytes of its command, all of them, or an
error, also one of the acknowledgment of the command. -/
inductive ReadStep (format : CommandFormat) (socket : Socket) (rest : List Socket) :
    Loop → List LoopOutput → Prop
  | more (info : BarelyConnectedSocketInformation) : info.Unfinished format.endianness →
      (s.infos socket).bytesRead < info.bytesRead →
      ReadStep format socket rest
        { s.noted socket info with point := readPoint info socket rest } []
  | complete (info : BarelyConnectedSocketInformation) (command : Command) :
      (s.infos socket).bytesRead < info.bytesRead →
      info.bytesRead = info.frameSize format.endianness →
      ReadStep format socket rest ((s.noted socket info).handle command socket rest).1
        ((s.noted socket info).handle command socket rest).2
  | unanswered (info : BarelyConnectedSocketInformation) (command : Command) (serve : Serve)
      (outputs : List ServeOutput) (e : Error) : (s.infos socket).bytesRead < info.bytesRead →
      info.bytesRead = info.frameSize format.endianness →
      ReadStep format socket rest (({ s.noted socket info with serve := serve } : Loop).raise e)
        (.handled socket command :: outputs.map .wrote)
  | raised (t : Loop) (e : Error) : (∀ x ≠ socket, t.infos x = s.infos x) →
      (s.infos socket).bytesRead < (t.infos socket).frameSize format.endianness →
      ReadStep format socket rest (t.raise e) []

variable {s} {format : CommandFormat} {socket : Socket} {rest : List Socket}

theorem enterRead_eq : s.enterRead socket rest =
    { s with point := readPoint (s.infos socket) socket rest } := by
  unfold enterRead readPoint
  split <;> rfl

/-! ### One `recv` -/

theorem readHeader_step {bytes : Bytes} (hbytes : bytes ≠ [])
    (hlength : (s.infos socket).header.length + bytes.length ≤ 4)
    (hcontent : (s.infos socket).content = []) :
    s.ReadStep format socket rest
      (({ s with unread := s.unread.erase (s.fd socket) } : Loop).readHeader format socket rest bytes).1
      (({ s with unread := s.unread.erase (s.fd socket) } : Loop).readHeader format socket rest
        bytes).2 := by
  have hpositive : 0 < bytes.length := List.length_pos_iff.mpr hbytes
  have happend : ((s.infos socket).header ++ bytes).length =
      (s.infos socket).header.length + bytes.length := List.length_append
  have hread : (s.infos socket).bytesRead = (s.infos socket).header.length := by
    rw [BarelyConnectedSocketInformation.bytesRead, hcontent, List.length_nil, Nat.add_zero]
  unfold Loop.readHeader
  simp only [hcontent]
  generalize (s.infos socket).header ++ bytes = header at happend
  have hmore : (s.infos socket).bytesRead <
      BarelyConnectedSocketInformation.bytesRead ⟨header, []⟩ := by
    rw [hread]
    show (s.infos socket).header.length < header.length + 0
    omega
  by_cases hpartly : header.length < 4
  · simp only [if_pos hpartly, enterRead_eq, Function.update_self]
    exact .more ⟨header, []⟩ (.header hpartly rfl) hmore
  · have hfour : header.length = 4 := by omega
    simp only [if_neg hpartly]
    generalize hsize : BarelyConnectedSocketInformation.contentSize format.endianness ⟨header, []⟩ =
      size
    by_cases hvalid : size < maxContentSize
    · simp only [if_pos hvalid]
      by_cases hzero : size = 0
      · simp only [if_pos hzero]
        refine .complete ⟨header, []⟩ .typeNotSet hmore ?_
        rw [BarelyConnectedSocketInformation.frameSize, hsize, hzero, ite_self]
        simp only [BarelyConnectedSocketInformation.bytesRead, List.length_nil]
        omega
      · have hpoint : LoopPoint.content socket rest = readPoint ⟨header, []⟩ socket rest := by
          rw [readPoint, if_neg hpartly]
        simp only [if_neg hzero, hpoint]
        refine .more ⟨header, []⟩ (.content hfour ?_ ?_) hmore
        · rwa [hsize]
        · rw [hsize, List.length_nil]
          omega
    · simp only [if_neg hvalid]
      refine .raised _ _ (fun x hx => Function.update_of_ne hx _ _) ?_
      simp only [Function.update_self]
      rw [BarelyConnectedSocketInformation.frameSize, hsize, if_pos (Or.inr (Nat.not_lt.mp hvalid))]
      omega

theorem readContent_step {bytes : Bytes} (hbytes : bytes ≠ [])
    (hheader : (s.infos socket).header.length = 4)
    (hvalid : (s.infos socket).contentSize format.endianness < maxContentSize)
    (hlength : (s.infos socket).content.length + bytes.length ≤
      (s.infos socket).contentSize format.endianness) :
    s.ReadStep format socket rest
      (({ s with unread := s.unread.erase (s.fd socket) } : Loop).readContent format socket rest bytes).1
      (({ s with unread := s.unread.erase (s.fd socket) } : Loop).readContent format socket rest
        bytes).2 := by
  have hpositive : 0 < bytes.length := List.length_pos_iff.mpr hbytes
  have happend : ((s.infos socket).content ++ bytes).length =
      (s.infos socket).content.length + bytes.length := List.length_append
  unfold Loop.readContent
  generalize (s.infos socket).content ++ bytes = content at happend
  generalize hinfo : ({ s.infos socket with content := content } : BarelyConnectedSocketInformation) =
    info
  have hsize : info.contentSize format.endianness =
      (s.infos socket).contentSize format.endianness := by
    rw [← hinfo]
    rfl
  have hread : info.bytesRead = 4 + content.length := by
    rw [← hinfo, BarelyConnectedSocketInformation.bytesRead, hheader]
  have hfour : info.header.length = 4 := by
    rw [← hinfo]
    exact hheader
  have hcontent : info.content = content := by rw [← hinfo]
  have hmore : (s.infos socket).bytesRead < info.bytesRead := by
    rw [hread, BarelyConnectedSocketInformation.bytesRead, hheader]
    omega
  have hframe : info.frameSize format.endianness =
      4 + (s.infos socket).contentSize format.endianness := by
    rw [BarelyConnectedSocketInformation.frameSize, hsize, if_neg (by omega)]
  simp only [hcontent]
  by_cases hall : content.length = info.contentSize format.endianness
  · simp only [if_pos hall]
    cases hparse : format.parseFromArray content with
    | some command =>
        refine .complete info command hmore ?_
        rw [hread, hframe, hall, hsize]
    | none =>
        refine .raised _ _ (fun x hx => Function.update_of_ne hx _ _) ?_
        simp only [Function.update_self]
        rw [hframe, BarelyConnectedSocketInformation.bytesRead, hheader]
        omega
  · simp only [if_neg hall, enterRead_eq, Function.update_self]
    refine .more info (.content hfour (hsize ▸ hvalid) ?_) hmore
    rw [hcontent]
    omega

theorem Reading.barely (h : s.Reading socket rest) (hpoint : PointInv s) :
    socket ∈ s.serve.barelyConnectedSockets := by
  unfold PointInv at hpoint
  rcases h with heq | heq <;> rw [heq] at hpoint <;> exact hpoint.2 socket List.mem_cons_self

/-- A `recv` in the pass. -/
theorem recv_step {t : Loop} {out : List LoopOutput} {outcome : RecvOutcome}
    (hread : s.Reading socket rest) (hinv : s.ReadInv format)
    (hbarely : socket ∈ s.serve.barelyConnectedSockets)
    (hstep : loopStep format s (.recv outcome) = some (t, out)) :
    s.ReadStep format socket rest t out := by
  have hunfinished := hinv.barely socket hbarely
  have hraised : ∀ {u : Loop} {e : Error}, u.infos = s.infos →
      s.ReadStep format socket rest (u.raise e) [] := by
    intro u e hu
    refine .raised u e (fun x _ => by rw [hu]) ?_
    rw [hu]
    exact hunfinished.lt_frameSize
  rcases hread with hpoint | hpoint
  · have hheader := hinv.header socket rest hpoint
    have hcontent : (s.infos socket).content = [] := by
      cases hunfinished with
      | header _ hcontent => exact hcontent
      | content hfour => omega
    simp only [loopStep, hpoint] at hstep
    cases outcome with
    | data bytes =>
        simp only [remaining, hpoint] at hstep
        split at hstep
        · rename_i hbytes
          obtain ⟨rfl, rfl⟩ := eq_of_some_eq hstep
          exact readHeader_step hbytes.1 (by omega) hcontent
        · cases hstep
    | closed =>
        obtain ⟨rfl, rfl⟩ := eq_of_some_eq hstep
        exact hraised rfl
    | failed errno =>
        obtain ⟨rfl, rfl⟩ := eq_of_some_eq hstep
        exact hraised rfl
  · have hheader := hinv.content socket rest hpoint
    have hcontent : (s.infos socket).header.length = 4 ∧
        (s.infos socket).contentSize format.endianness < maxContentSize ∧
        (s.infos socket).content.length < (s.infos socket).contentSize format.endianness := by
      cases hunfinished with
      | header hpartly => omega
      | content hfour hvalid hpartly => exact ⟨hfour, hvalid, hpartly⟩
    obtain ⟨hfour, hvalid, hpartly⟩ := hcontent
    simp only [loopStep, hpoint] at hstep
    cases outcome with
    | data bytes =>
        simp only [remaining, hpoint] at hstep
        split at hstep
        · rename_i hbytes
          obtain ⟨rfl, rfl⟩ := eq_of_some_eq hstep
          rw [← hpoint]
          exact readContent_step hbytes.1 hfour hvalid (by omega)
        · cases hstep
    | closed =>
        obtain ⟨rfl, rfl⟩ := eq_of_some_eq hstep
        exact hraised rfl
    | failed errno =>
        obtain ⟨rfl, rfl⟩ := eq_of_some_eq hstep
        exact hraised rfl

/-- The `recv` that completes a command which is not acknowledged. -/
theorem unanswered_step {t : Loop} {out : List LoopOutput} {bytes : Bytes} {errno : String}
    (hread : s.Reading socket rest) (hinv : s.ReadInv format)
    (hbarely : socket ∈ s.serve.barelyConnectedSockets)
    (hstep : loopStep format s (.unanswered bytes errno) = some (t, out)) :
    s.ReadStep format socket rest t out := by
  rcases hread with hpoint | hpoint
  · simp only [loopStep, hpoint] at hstep
    cases hstep
  have hheader := hinv.content socket rest hpoint
  have hcontent : (s.infos socket).header.length = 4 ∧
      (s.infos socket).contentSize format.endianness < maxContentSize := by
    cases hinv.barely socket hbarely with
    | header hpartly => omega
    | content hfour hvalid => exact ⟨hfour, hvalid⟩
  obtain ⟨hfour, hvalid⟩ := hcontent
  simp only [loopStep, hpoint] at hstep
  split at hstep
  · rename_i hbytes
    have hpositive : 0 < bytes.length := List.length_pos_iff.mpr hbytes.1
    unfold readUnanswered at hstep
    generalize hinfo : ({ s.infos socket with content := (s.infos socket).content ++ bytes } :
      BarelyConnectedSocketInformation) = info at hstep
    have hsize : info.contentSize format.endianness =
        (s.infos socket).contentSize format.endianness := by
      rw [← hinfo]
      rfl
    have hread : info.bytesRead = 4 + info.content.length := by
      rw [← hinfo, BarelyConnectedSocketInformation.bytesRead, hfour]
    have hmore : (s.infos socket).bytesRead < info.bytesRead := by
      rw [← hinfo]
      show (s.infos socket).header.length + (s.infos socket).content.length <
        (s.infos socket).header.length + ((s.infos socket).content ++ bytes).length
      rw [List.length_append]
      omega
    simp only at hstep
    split at hstep
    · rename_i hall
      have hcomplete : info.bytesRead = info.frameSize format.endianness := by
        rw [hread, hall, BarelyConnectedSocketInformation.frameSize, hsize, if_neg]
        have hheader' : info.header.length = 4 := by
          rw [← hinfo]
          exact hfour
        omega
      split at hstep
      · unfold handleUnanswered at hstep
        split at hstep
        · cases hstep
        · cases hstep
          exact .unanswered info _ _ _ _ hmore hcomplete
      · cases hstep
    · cases hstep
  · cases hstep

theorem read_step {t : Loop} {out : List LoopOutput} {event : LoopEvent}
    (hread : s.Reading socket rest) (hinv : s.ReadInv format)
    (hbarely : socket ∈ s.serve.barelyConnectedSockets) (hevent : event.isRecv = true)
    (hstep : loopStep format s event = some (t, out)) : s.ReadStep format socket rest t out := by
  cases event with
  | recv outcome => exact recv_step hread hinv hbarely hstep
  | unanswered bytes errno => exact unanswered_step hread hinv hbarely hstep
  | _ => cases hevent

/-- A `recv` in front of a barely connected socket asks for one byte at least. -/
theorem ReadInv.remaining_pos (h : s.ReadInv format) (hread : s.Reading socket rest)
    (hbarely : socket ∈ s.serve.barelyConnectedSockets) : 0 < s.remaining format := by
  unfold remaining
  rcases hread with hpoint | hpoint
  · have hheader := h.header socket rest hpoint
    simp only [hpoint]
    omega
  · have hheader := h.content socket rest hpoint
    simp only [hpoint]
    cases h.barely socket hbarely with
    | header hpartly => omega
    | content _ _ hpartly => omega

/-! ### The traversal -/

/-- The traversal goes to the next readable socket. -/
theorem toVisit_barelyConnectedPass :
    (s.barelyConnectedPass rest).toVisit = rest.filter fun x => decide (s.fd x ∈ s.readable) := by
  induction rest with
  | nil =>
      unfold barelyConnectedPass afterBarelyConnected
      split
      · rfl
      · obtain ⟨point, hpoint, heq⟩ := s.droppedPass_eq s.serve.droppedSockets
        rw [heq]
        cases hpoint <;> rfl
  | cons socket rest ih =>
      unfold barelyConnectedPass
      by_cases hreadable : s.fd socket ∈ s.readable
      · rw [if_pos hreadable, List.filter_cons_of_pos (by simpa using hreadable), enterRead_eq]
        unfold toVisit readPoint
        by_cases hheader : (s.infos socket).header.length < 4
        · simp only [if_pos hheader]
          rfl
        · simp only [if_neg hheader]
          rfl
      · rw [if_neg hreadable, List.filter_cons_of_neg (by simpa using hreadable)]
        exact ih

/-- The traversal stops in front of a `recv` on the header or the content, as the frame demands. -/
theorem barelyConnectedPass_point (rest : List Socket) :
    (∀ x after, (s.barelyConnectedPass rest).point = .header x after →
        (s.infos x).header.length < 4) ∧
      (∀ x after, (s.barelyConnectedPass rest).point = .content x after →
        4 ≤ (s.infos x).header.length) ∧
      ∀ x after, (s.barelyConnectedPass rest).point ≠ .unregister x after := by
  induction rest with
  | nil =>
      unfold barelyConnectedPass afterBarelyConnected
      split
      · refine ⟨?_, ?_, ?_⟩ <;> (intro x after heq; cases heq)
      · obtain ⟨point, hpoint, heq⟩ := s.droppedPass_eq s.serve.droppedSockets
        rw [heq]
        cases hpoint <;> refine ⟨?_, ?_, ?_⟩ <;> (intro x after heq; cases heq)
  | cons socket rest ih =>
      unfold barelyConnectedPass
      by_cases hreadable : s.fd socket ∈ s.readable
      · rw [if_pos hreadable, enterRead_eq, readPoint]
        by_cases hheader : (s.infos socket).header.length < 4
        · rw [if_pos hheader]
          refine ⟨?_, ?_, ?_⟩ <;> (intro x after heq; cases heq)
          exact hheader
        · rw [if_neg hheader]
          refine ⟨?_, ?_, ?_⟩ <;> (intro x after heq; cases heq)
          exact Nat.not_lt.mp hheader
      · rw [if_neg hreadable]
        exact ih

theorem barelyConnectedPass_fields (rest : List Socket) :
    (s.barelyConnectedPass rest).serve = s.serve ∧ (s.barelyConnectedPass rest).infos = s.infos ∧
      (s.barelyConnectedPass rest).objects = s.objects ∧
      (s.barelyConnectedPass rest).readable = s.readable := by
  obtain ⟨point, -, heq⟩ := s.barelyConnectedPass_eq rest
  rw [heq]
  exact ⟨rfl, rfl, rfl, rfl⟩

/-- What is known of the commands when a traversal starts. -/
theorem ReadInv.barelyConnectedPass
    (h : ∀ x ∈ s.serve.barelyConnectedSockets, (s.infos x).Unfinished format.endianness) :
    (s.barelyConnectedPass rest).ReadInv format := by
  obtain ⟨hserve, hinfos, -, -⟩ := s.barelyConnectedPass_fields rest
  obtain ⟨hheader, hcontent, -⟩ := s.barelyConnectedPass_point rest
  exact
    { barely := by rw [hserve, hinfos]; exact h
      header := by rw [hinfos]; exact hheader
      content := by rw [hinfos]; exact hcontent }

/-! ### The steps of a pass -/

/-- The outcomes of the handling of a command. -/
inductive HandleStep (s : Loop) (command : Command) (socket : Socket) (rest : List Socket) :
    Loop → List LoopOutput → Prop
  | refused (e : Error) : HandleStep s command socket rest (s.raise e) [.handled socket command]
  | dropped (serve : Serve) (out : List ServeOutput) :
      serve.barelyConnectedSockets = s.serve.barelyConnectedSockets →
      HandleStep s command socket rest
        (({ s with serve := serve.afterCommand socket true, clientDropped := true } :
          Loop).barelyConnectedPass rest)
        (.handled socket command :: out.map .wrote)
  | connected (serve : Serve) (out : List ServeOutput) :
      serve.barelyConnectedSockets = s.serve.barelyConnectedSockets →
      HandleStep s command socket rest
        { s with
          serve := serve.afterCommand socket false
          actors := insert socket s.actors
          point := .unregister socket rest }
        (.handled socket command :: out.map .wrote)

theorem handle_step (command : Command) :
    s.HandleStep command socket rest (s.handle command socket rest).1
      (s.handle command socket rest).2 := by
  unfold Loop.handle
  cases hresult : s.serve.handleCommand command socket with
  | error e => exact .refused e
  | ok result =>
      obtain ⟨serve, out, dropClient⟩ := result
      have hbarely := (Serve.handleCommand_sockets hresult).1
      cases dropClient with
      | true => exact .dropped serve out hbarely
      | false => exact .connected serve out hbarely

/-- The outcomes of `select`. -/
inductive SelectStep (s : Loop) (readable : Finset Int) (order : List Socket) : Loop → Prop
  | failed (e : Error) : SelectStep s readable order (s.raise e)
  | other (point : LoopPoint) : point = .message ∨ point = .closing true 1 ∨ point = .accept →
      readable = ∅ ∨ s.signalFd ∈ readable ∨ s.listenerFd ∈ readable →
      SelectStep s readable order
        { s with readable := readable, unread := readable, clientDropped := false, point := point }
  | pass : order.Nodup → order.toFinset = s.serve.barelyConnectedSockets →
      SelectStep s readable order
        (({ s with readable := readable, unread := readable, clientDropped := false } :
          Loop).barelyConnectedPass order)

theorem select_step {t : Loop} {out : List LoopOutput} {readable : Finset Int} {order : List Socket}
    (hstep : loopStep format s (.select readable order) = some (t, out)) :
    s.SelectStep readable order t := by
  unfold loopStep at hstep
  dsimp only at hstep
  split at hstep
  · split at hstep
    · cases hstep
      exact .failed _
    · split at hstep
      · rename_i hlabel
        obtain ⟨-, hnodup, horder⟩ := hlabel
        by_cases hempty : readable = ∅
        · rw [if_pos hempty] at hstep
          cases hstep
          exact .other _ (Or.inl rfl) (Or.inl hempty)
        · rw [if_neg hempty] at hstep
          by_cases hsignal : s.signalFd ∈ readable
          · rw [if_pos hsignal] at hstep
            cases hstep
            exact .other _ (Or.inr (Or.inl rfl)) (Or.inr (Or.inl hsignal))
          · rw [if_neg hsignal] at hstep
            by_cases hlistener : s.listenerFd ∈ readable
            · rw [if_pos hlistener] at hstep
              cases hstep
              exact .other _ (Or.inr (Or.inr rfl)) (Or.inr (Or.inr hlistener))
            · rw [if_neg hlistener] at hstep
              obtain ⟨rfl, -⟩ := eq_of_some_eq hstep
              exact .pass hnodup horder
      · cases hstep
  · cases hstep

theorem unregister_step {t : Loop} {out : List LoopOutput}
    (hstep : loopStep format s .unregister = some (t, out)) :
    ∃ socket rest, s.point = .unregister socket rest ∧ out = [] ∧
      t = ({ s with registered := s.registered.erase (s.fd socket) } :
        Loop).barelyConnectedPass rest := by
  unfold loopStep at hstep
  dsimp only at hstep
  split at hstep
  · rename_i socket rest hpoint
    obtain ⟨rfl, rfl⟩ := eq_of_some_eq hstep
    exact ⟨socket, rest, hpoint, rfl, rfl⟩
  · cases hstep

/-! ### The commands that are being read -/

/-- Away from the reads, only the bytes of the barely connected sockets count. -/
theorem ReadInv.away
    (h : ∀ x ∈ s.serve.barelyConnectedSockets, (s.infos x).Unfinished format.endianness)
    (hheader : ∀ x after, s.point ≠ .header x after)
    (hcontent : ∀ x after, s.point ≠ .content x after) : s.ReadInv format where
  barely := h
  header x after heq := absurd heq (hheader x after)
  content x after heq := absurd heq (hcontent x after)

theorem ReadInv.droppedPoint {point : LoopPoint} (hpoint : s.DroppedPoint rest point)
    (h : ∀ x ∈ s.serve.barelyConnectedSockets, (s.infos x).Unfinished format.endianness) :
    ({ s with point := point } : Loop).ReadInv format := by
  cases hpoint with
  | none => exact ReadInv.away h nofun nofun
  | some => exact ReadInv.away h nofun nofun

theorem ReadInv.nextIteration
    (h : ∀ x ∈ s.serve.barelyConnectedSockets, (s.infos x).Unfinished format.endianness) :
    s.nextIteration.ReadInv format := by
  unfold Loop.nextIteration
  split
  · exact ReadInv.away h nofun nofun
  · exact ReadInv.away h nofun nofun

/-- A `recv` keeps what is known of the commands. -/
theorem ReadInv.read {t : Loop} {out : List LoopOutput} (h : s.ReadInv format)
    (hstep : s.ReadStep format socket rest t out) (hserving : t.serving = true) :
    t.ReadInv format := by
  have hothers : ∀ info, ∀ x ∈ s.serve.barelyConnectedSockets, x ≠ socket →
      ((s.noted socket info).infos x).Unfinished format.endianness := by
    intro info x hx hne
    show (Function.update s.infos socket info x).Unfinished format.endianness
    rw [Function.update_of_ne hne]
    exact h.barely x hx
  cases hstep with
  | more info hinfo =>
      have hsocket : (s.noted socket info).infos socket = info := Function.update_self _ _ _
      refine ⟨fun x hx => ?_, fun x after heq => ?_, fun x after heq => ?_⟩
      · by_cases hx' : x = socket
        · subst hx'
          show ((s.noted x info).infos x).Unfinished format.endianness
          rwa [hsocket]
        · exact hothers info x hx hx'
      · have heq : readPoint info socket rest = .header x after := heq
        show ((s.noted socket info).infos x).header.length < 4
        unfold readPoint at heq
        split at heq
        · rename_i hheader
          cases heq
          rwa [hsocket]
        · cases heq
      · have heq : readPoint info socket rest = .content x after := heq
        show 4 ≤ ((s.noted socket info).infos x).header.length
        unfold readPoint at heq
        split at heq
        · cases heq
        · rename_i hheader
          cases heq
          rw [hsocket]
          exact Nat.not_lt.mp hheader
  | complete info command =>
      have hleft : ∀ {serve : Serve} {drop : Bool},
          serve.barelyConnectedSockets = s.serve.barelyConnectedSockets →
          ∀ x ∈ (serve.afterCommand socket drop).barelyConnectedSockets,
            ((s.noted socket info).infos x).Unfinished format.endianness := by
        intro serve drop hserve x hx
        obtain ⟨hne, hx⟩ := Finset.mem_erase.mp hx
        exact hothers info x (hserve ▸ hx) hne
      have hhandle : (s.noted socket info).HandleStep command socket rest _ _ := handle_step command
      generalize ((s.noted socket info).handle command socket rest).1 = t at hhandle hserving ⊢
      generalize ((s.noted socket info).handle command socket rest).2 = out at hhandle
      cases hhandle with
      | refused e => cases hserving
      | dropped serve out hserve => exact ReadInv.barelyConnectedPass (hleft hserve)
      | connected serve out hserve => exact ReadInv.away (hleft hserve) nofun nofun
  | unanswered => cases hserving
  | raised => cases hserving

/-- A step keeps what is known of the commands. -/
theorem ReadInv.step {t : Loop} {event : LoopEvent} {out : List LoopOutput} (h : s.ReadInv format)
    (hpoint : PointInv s) (hstep : loopStep format s event = some (t, out))
    (hserving : t.serving = true) : t.ReadInv format := by
  have hreading : ∀ {socket rest outcome}, event = .recv outcome → s.Reading socket rest →
      t.ReadInv format := by
    rintro socket rest outcome rfl hread
    exact h.read (recv_step hread h (hread.barely hpoint) hstep) hserving
  have hselect : ∀ {readable order}, event = .select readable order → t.ReadInv format := by
    rintro readable order rfl
    cases select_step hstep with
    | failed => cases hserving
    | other point hother =>
        rcases hother with rfl | rfl | rfl
        · exact ReadInv.away h.barely nofun nofun
        · exact ReadInv.away h.barely nofun nofun
        · exact ReadInv.away h.barely nofun nofun
    | pass => exact ReadInv.barelyConnectedPass h.barely
  have hunregister : event = .unregister → t.ReadInv format := by
    rintro rfl
    obtain ⟨socket, rest, -, -, rfl⟩ := unregister_step hstep
    exact ReadInv.barelyConnectedPass h.barely
  cases loopStep_cases hstep with
  | selectFailed => cases hserving
  | selected => exact hselect rfl
  | readMore _ _ _ _ _ hread => exact hreading rfl hread
  | readFailed _ _ _ _ _ _ _ hread => exact hreading rfl hread
  | refused _ _ _ _ _ _ hread => exact hreading rfl hread
  | droppedClient _ _ _ _ _ _ _ _ _ hread => exact hreading rfl hread
  | connected _ _ _ _ _ _ _ hread => exact hreading rfl hread
  | unanswered => cases hserving
  | unregistered => exact hunregister rfl
  | accepted socket fd =>
      refine ReadInv.away (fun x hx => ?_) nofun nofun
      by_cases hx' : x = socket
      · subst hx'
        simp only [Function.update_self]
        exact .header (by decide) rfl
      · simp only [Function.update_of_ne hx']
        exact h.barely x ((Finset.mem_insert.mp hx).resolve_left hx')
  | droppedData _ _ _ _ _ _ hu hpass =>
      subst hu
      exact ReadInv.droppedPoint hpass h.barely
  | droppedClosed _ _ _ _ _ hu hpass =>
      subst hu
      exact ReadInv.droppedPoint hpass fun x hx => h.barely x (Finset.mem_of_mem_erase hx)
  | droppedFailed _ _ _ _ _ _ hu hpass =>
      subst hu
      exact ReadInv.droppedPoint hpass fun x hx => h.barely x (Finset.mem_of_mem_erase hx)
  | noMessage => exact ReadInv.nextIteration h.barely
  | messageFailed => cases hserving
  | message msg serve out _ _ _ hok =>
      have hbarely := (Serve.handleInterthreadMessage_sockets hok).1
      refine ReadInv.nextIteration ?_
      cases msg <;> exact fun x hx => h.barely x (hbarely ▸ hx)
  | closed abortive code order failing =>
      obtain ⟨result, hleft⟩ := closeSockets_left abortive code failing
        (order ++ s.serve.droppedSockets ++ s.actorSockets) s
      rw [serving, hleft] at hserving
      cases hserving
  | actorClosed => exact ⟨h.barely, h.header, h.content⟩

/-! ### The account of a pass -/

/-- The bytes of a frame that were missing in `first`. -/
def missingSince (format : CommandFormat) (first s : Loop) (x : Socket) : Nat :=
  (s.infos x).frameSize format.endianness - (first.infos x).bytesRead

/-- The pass under way: what it has handled, what it still visits and what it has read. -/
structure PassInv (format : CommandFormat) (first : Loop) (events : List LoopEvent) (s : Loop)
    (trace : List LoopOutput) : Prop where
  visits : handledSockets trace ++ s.toVisit = first.toVisit
  bytes : ∀ x ∈ first.toVisit, (s.infos x).bytesRead ≤ (s.infos x).frameSize format.endianness
  recvs : events.countP LoopEvent.isRecv ≤
    (first.toVisit.map fun x => (s.infos x).bytesRead - (first.infos x).bytesRead).sum
  grown : ∀ x, (first.infos x).bytesRead ≤ (s.infos x).bytesRead

/-- The account when the pass goes on or has ended, also by an error. -/
structure PassBound (format : CommandFormat) (first : Loop) (events : List LoopEvent) (s : Loop)
    (trace : List LoopOutput) : Prop where
  handled : handledSockets trace <+: first.toVisit
  recvs : events.countP LoopEvent.isRecv ≤ (first.toVisit.map (missingSince format first s)).sum

section

variable {first t : Loop} {events : List LoopEvent} {trace out : List LoopOutput}

theorem PassInv.bound (h : PassInv format first events s trace) :
    PassBound format first events s trace where
  handled := ⟨s.toVisit, h.visits⟩
  recvs := h.recvs.trans (List.sum_le_sum fun x hx => Nat.sub_le_sub_right (h.bytes x hx) _)

theorem Reading.toVisit (h : s.Reading socket rest) :
    s.toVisit = socket :: rest.filter fun x => decide (s.fd x ∈ s.readable) := by
  unfold Loop.toVisit
  rcases h with heq | heq <;> rw [heq]

theorem handledSockets_append :
    handledSockets (trace ++ out) = handledSockets trace ++ handledSockets out :=
  List.filterMap_append

theorem handledSockets_wrote (command : Command) (outputs : List ServeOutput) :
    handledSockets (.handled socket command :: outputs.map .wrote) = [socket] := by
  have hnone : (outputs.map LoopOutput.wrote).filterMap LoopOutput.handledSocket = [] := by
    rw [List.filterMap_map, List.filterMap_eq_nil_iff]
    exact fun _ _ => rfl
  exact congrArg (socket :: ·) hnone

theorem PassInv.mem_visits (h : PassInv format first events s trace) (hread : s.Reading socket rest) :
    socket ∈ first.toVisit := by
  rw [← h.visits, hread.toVisit]
  exact List.mem_append_right _ List.mem_cons_self

/-- One more `recv`, with more bytes of a frame. -/
theorem PassInv.counted (h : PassInv format first events s trace) (hread : s.Reading socket rest)
    {event : LoopEvent} (hevent : event.isRecv = true) {info : BarelyConnectedSocketInformation}
    (hmore : (s.infos socket).bytesRead < info.bytesRead)
    (hframe : info.bytesRead ≤ info.frameSize format.endianness)
    (hinfos : t.infos = Function.update s.infos socket info)
    (hvisits : handledSockets (trace ++ out) ++ t.toVisit = first.toVisit) :
    PassInv format first (events ++ [event]) t (trace ++ out) where
  visits := hvisits
  bytes x hx := by
    rw [hinfos]
    by_cases hx' : x = socket
    · rw [hx', Function.update_self]
      exact hframe
    · rw [Function.update_of_ne hx']
      exact h.bytes x hx
  recvs := by
    have hless : (first.toVisit.map fun x =>
        (s.infos x).bytesRead - (first.infos x).bytesRead).sum <
        (first.toVisit.map fun x => (t.infos x).bytesRead - (first.infos x).bytesRead).sum := by
      refine List.sum_lt_sum _ _ (fun x _ => ?_) ⟨socket, h.mem_visits hread, ?_⟩
      · rw [hinfos]
        by_cases hx' : x = socket
        · rw [hx', Function.update_self]
          omega
        · rw [Function.update_of_ne hx']
      · rw [hinfos, Function.update_self]
        have hgrown := h.grown socket
        omega
    have hrecvs := h.recvs
    rw [List.countP_append, List.countP_singleton, if_pos hevent]
    omega
  grown x := by
    rw [hinfos]
    by_cases hx' : x = socket
    · rw [hx', Function.update_self]
      exact (h.grown socket).trans (Nat.le_of_lt hmore)
    · rw [Function.update_of_ne hx']
      exact h.grown x

/-- One more `recv`, which raises an error. -/
theorem PassInv.failed (h : PassInv format first events s trace) (hread : s.Reading socket rest)
    {event : LoopEvent} (hevent : event.isRecv = true) (hothers : ∀ x ≠ socket, t.infos x = s.infos x)
    (hmore : (s.infos socket).bytesRead < (t.infos socket).frameSize format.endianness) :
    PassBound format first (events ++ [event]) t trace where
  handled := ⟨s.toVisit, h.visits⟩
  recvs := by
    have hless : (first.toVisit.map fun x =>
        (s.infos x).bytesRead - (first.infos x).bytesRead).sum <
        (first.toVisit.map (missingSince format first t)).sum := by
      refine List.sum_lt_sum _ _ (fun x hx => ?_) ⟨socket, h.mem_visits hread, ?_⟩
      · unfold missingSince
        by_cases hx' : x = socket
        · rw [hx']
          omega
        · rw [hothers x hx']
          exact Nat.sub_le_sub_right (h.bytes x hx) _
      · unfold missingSince
        have hgrown := h.grown socket
        omega
    have hrecvs := h.recvs
    rw [List.countP_append, List.countP_singleton, if_pos hevent]
    omega

/-- The traversal after a command has been handled. -/
theorem PassInv.handled (h : PassInv format first events s trace) (hread : s.Reading socket rest)
    (command : Command) (outputs : List ServeOutput)
    (hnext : t.toVisit = rest.filter fun x => decide (s.fd x ∈ s.readable)) :
    handledSockets (trace ++ .handled socket command :: outputs.map .wrote) ++ t.toVisit =
      first.toVisit := by
  rw [handledSockets_append, handledSockets_wrote, hnext, ← h.visits, hread.toVisit,
    List.append_assoc]
  rfl

/-- What a `recv` of the pass makes of its account. -/
theorem PassInv.read (h : PassInv format first events s trace) (hread : s.Reading socket rest)
    (hstep : s.ReadStep format socket rest t out) {event : LoopEvent} (hevent : event.isRecv = true) :
    (t.serving = true → PassInv format first (events ++ [event]) t (trace ++ out)) ∧
      PassBound format first (events ++ [event]) t (trace ++ out) := by
  cases hstep with
  | more info hinfo hmore =>
      have hnext : ({ s.noted socket info with point := readPoint info socket rest } :
          Loop).toVisit = s.toVisit := by
        have hread' : ({ s.noted socket info with point := readPoint info socket rest } :
            Loop).Reading socket rest := by
          show readPoint info socket rest = .header socket rest ∨
            readPoint info socket rest = .content socket rest
          unfold readPoint
          split
          · exact Or.inl rfl
          · exact Or.inr rfl
        rw [hread'.toVisit, hread.toVisit]
        rfl
      have hinv : PassInv format first (events ++ [event])
          { s.noted socket info with point := readPoint info socket rest } (trace ++ []) :=
        h.counted hread hevent hmore (Nat.le_of_lt hinfo.lt_frameSize) rfl
          (by rw [List.append_nil, hnext]; exact h.visits)
      exact ⟨fun _ => hinv, hinv.bound⟩
  | unanswered info command serve outputs e hmore hcomplete =>
      have hinv : PassInv format first (events ++ [event])
          { s.noted socket info with point := .unregister socket rest }
          (trace ++ .handled socket command :: outputs.map .wrote) :=
        h.counted hread hevent hmore (Nat.le_of_eq hcomplete) rfl
          (h.handled hread command outputs rfl)
      exact ⟨nofun, hinv.bound.handled, hinv.bound.recvs⟩
  | complete info command hmore hcomplete =>
      have hhandle : (s.noted socket info).HandleStep command socket rest _ _ := handle_step command
      generalize ((s.noted socket info).handle command socket rest).1 = t at hhandle ⊢
      generalize ((s.noted socket info).handle command socket rest).2 = out at hhandle ⊢
      have hcounted : ∀ (u : Loop) (outputs : List ServeOutput),
          u.infos = Function.update s.infos socket info →
          u.toVisit = (rest.filter fun x => decide (s.fd x ∈ s.readable)) →
          PassInv format first (events ++ [event]) u
            (trace ++ .handled socket command :: outputs.map .wrote) := by
        intro u outputs hinfos hnext
        exact h.counted hread hevent hmore (Nat.le_of_eq hcomplete) hinfos
          (h.handled hread command outputs hnext)
      cases hhandle with
      | refused e =>
          have hinv := hcounted { s.noted socket info with point := .unregister socket rest } [] rfl rfl
          exact ⟨nofun, hinv.bound.handled, hinv.bound.recvs⟩
      | dropped serve outputs =>
          have hinfos : (({ s.noted socket info with
              serve := serve.afterCommand socket true, clientDropped := true } :
                Loop).barelyConnectedPass rest).infos = Function.update s.infos socket info :=
            (barelyConnectedPass_fields rest).2.1
          have hinv := hcounted _ outputs hinfos toVisit_barelyConnectedPass
          exact ⟨fun _ => hinv, hinv.bound⟩
      | connected serve outputs =>
          have hinv := hcounted { s.noted socket info with
            serve := serve.afterCommand socket false
            actors := insert socket s.actors
            point := .unregister socket rest } outputs rfl rfl
          exact ⟨fun _ => hinv, hinv.bound⟩
  | raised u e hothers hmore =>
      rw [List.append_nil]
      exact ⟨nofun, h.failed hread hevent hothers hmore⟩

/-- In the pass, the command thread is in front of a `recv` or of the removal of a connected socket. -/
theorem inPass_cases (h : s.inPass = true) :
    (∃ socket rest, s.Reading socket rest) ∨ ∃ socket rest, s.point = .unregister socket rest := by
  unfold inPass at h
  split at h
  · rename_i socket rest hpoint
    exact Or.inl ⟨socket, rest, Or.inl hpoint⟩
  · rename_i socket rest hpoint
    exact Or.inl ⟨socket, rest, Or.inr hpoint⟩
  · rename_i socket rest hpoint
    exact Or.inr ⟨socket, rest, hpoint⟩
  · cases h

/-- The steps that are taken during a pass. -/
theorem inPass_event {event : LoopEvent} (h : s.inPass = true)
    (hstep : loopStep format s event = some (t, out)) :
    (∃ socket rest, s.Reading socket rest ∧ event.isRecv = true) ∨ event = .unregister ∨
      ∃ socket, event = .actorCloses socket := by
  have hpoint : s.point ≠ .select ∧ s.point ≠ .accept ∧ s.point ≠ .message ∧
      (∀ socket rest, s.point ≠ .dropped socket rest) ∧
      ∀ abortive code, s.point ≠ .closing abortive code := by
    rcases inPass_cases h with ⟨socket, rest, heq | heq⟩ | ⟨socket, rest, heq⟩ <;> rw [heq] <;>
      exact ⟨nofun, nofun, nofun, nofun, nofun⟩
  obtain ⟨hselect, haccept, hmessage, hdropped, hclosing⟩ := hpoint
  cases loopStep_cases hstep with
  | selectFailed _ _ _ heq => exact absurd heq hselect
  | selected _ _ _ _ heq => exact absurd heq hselect
  | accepted _ _ heq => exact absurd heq haccept
  | readMore socket rest _ _ _ hread => exact Or.inl ⟨socket, rest, hread, rfl⟩
  | readFailed socket rest _ _ _ _ _ hread => exact Or.inl ⟨socket, rest, hread, rfl⟩
  | refused socket rest _ _ _ _ hread => exact Or.inl ⟨socket, rest, hread, rfl⟩
  | droppedClient socket rest _ _ _ _ _ _ _ hread => exact Or.inl ⟨socket, rest, hread, rfl⟩
  | connected socket rest _ _ _ _ _ hread => exact Or.inl ⟨socket, rest, hread, rfl⟩
  | unanswered socket rest _ _ _ _ _ _ _ _ heq => exact Or.inl ⟨socket, rest, Or.inr heq, rfl⟩
  | unregistered => exact Or.inr (Or.inl rfl)
  | droppedData _ _ _ _ _ heq => exact absurd heq (hdropped _ _)
  | droppedClosed _ _ _ _ heq => exact absurd heq (hdropped _ _)
  | droppedFailed _ _ _ _ _ heq => exact absurd heq (hdropped _ _)
  | noMessage heq => exact absurd heq hmessage
  | messageFailed _ _ heq => exact absurd heq hmessage
  | message _ _ _ heq => exact absurd heq hmessage
  | closed _ _ _ _ heq => exact absurd heq (hclosing _ _)
  | actorClosed socket => exact Or.inr (Or.inr ⟨socket, rfl⟩)

/-- A socket that an actor closes is none of those that the pass visits. -/
theorem toVisit_closeObject (hs : SocketInv s) (hpoint : PointInv s) (hsocket : socket ∈ s.actors) :
    (s.closeObject socket).toVisit = s.toVisit := by
  obtain ⟨-, hnot, -⟩ := hs.actors socket hsocket
  have hfilter : ∀ {rest : List Socket}, (∀ x ∈ rest, x ∈ s.serve.barelyConnectedSockets) →
      (rest.filter fun x => decide ((s.closeObject socket).fd x ∈ (s.closeObject socket).readable)) =
        rest.filter fun x => decide (s.fd x ∈ s.readable) := by
    intro rest hrest
    refine List.filter_congr fun x hx => ?_
    rw [Loop.fd_closeObject, if_neg]
    · rfl
    · rintro rfl
      exact hnot (hrest x hx)
  have hsame : (s.closeObject socket).point = s.point := rfl
  unfold PointInv at hpoint
  unfold Loop.toVisit
  rw [hsame]
  split <;> rename_i heq
  · rw [heq] at hpoint
    rw [hfilter fun x hx => hpoint.2 x (List.mem_cons_of_mem _ hx)]
  · rw [heq] at hpoint
    rw [hfilter fun x hx => hpoint.2 x (List.mem_cons_of_mem _ hx)]
  · rw [heq] at hpoint
    rw [hfilter hpoint.2.2]
  · rfl

/-- A step of the pass that is no `recv` leaves its account as it is. -/
theorem PassInv.same (h : PassInv format first events s trace) (event : LoopEvent)
    (hevent : event.isRecv = false) (hinfos : t.infos = s.infos) (hvisits : t.toVisit = s.toVisit) :
    PassInv format first (events ++ [event]) t (trace ++ []) where
  visits := by rw [List.append_nil, hvisits]; exact h.visits
  bytes := by rw [hinfos]; exact h.bytes
  recvs := by
    rw [List.countP_append, List.countP_singleton, hevent, hinfos]
    exact h.recvs
  grown := by rw [hinfos]; exact h.grown

/-- A step of the pass keeps its account. -/
theorem PassInv.step {event : LoopEvent} (h : PassInv format first events s trace)
    (hinv : s.ReadInv format) (hs : SocketInv s) (hpoint : PointInv s) (hpass : s.inPass = true)
    (hstep : loopStep format s event = some (t, out)) :
    (t.serving = true → PassInv format first (events ++ [event]) t (trace ++ out)) ∧
      PassBound format first (events ++ [event]) t (trace ++ out) := by
  rcases inPass_event hpass hstep with ⟨socket, rest, hread, hevent⟩ | rfl | ⟨socket, rfl⟩
  · exact h.read hread (read_step hread hinv (hread.barely hpoint) hevent hstep) hevent
  · obtain ⟨socket, rest, heq, rfl, rfl⟩ := unregister_step hstep
    have hvisits : (({ s with registered := s.registered.erase (s.fd socket) } :
        Loop).barelyConnectedPass rest).toVisit = s.toVisit := by
      rw [toVisit_barelyConnectedPass]
      unfold Loop.toVisit
      rw [heq]
      rfl
    have hinfos : (({ s with registered := s.registered.erase (s.fd socket) } :
        Loop).barelyConnectedPass rest).infos = s.infos := (barelyConnectedPass_fields rest).2.1
    have hkept := h.same .unregister rfl hinfos hvisits
    exact ⟨fun _ => hkept, hkept.bound⟩
  · generalize hevent : LoopEvent.actorCloses socket = event at hstep
    cases loopStep_cases hstep with
    | actorClosed socket' hactor =>
        have hkept := h.same (.actorCloses socket') rfl (t := s.closeObject socket') rfl
          (toVisit_closeObject hs hpoint hactor)
        exact ⟨fun _ => hkept, hkept.bound⟩
    | _ => cases hevent

end

end Loop

/-! ### A whole pass -/

/-- What a step of the pass does: a `recv` brings more bytes of the command of its socket, which stays
the one that is read, or all of them, or an error; a removal is followed by a `recv` or the end. -/
def ReadsOn (s : Loop) (event : LoopEvent) (t : Loop) (out : List LoopOutput) : Prop :=
  (event.isRecv = true → ∃ socket rest, s.Reading socket rest ∧
    (t.Reading socket rest ∧ handledSockets out = [] ∧
        (s.infos socket).bytesRead < (t.infos socket).bytesRead ∨
      handledSockets out = [socket] ∨ ∃ e, t.point = .raised e)) ∧
  (event = .unregister → ∀ socket rest, t.point ≠ .unregister socket rest)

/-- A pass over the barely connected sockets: `s` is the state in front of `select`, `t` the state after
it, and `u` the state after some of the steps of the pass, or all of them. -/
structure PassSpec (format : CommandFormat) (readable : Finset Int) (order : List Socket) (s t : Loop)
    (events : List LoopEvent) (u : Loop) (trace : List LoopOutput) : Prop where
  selected : t.serving = true → readable ≠ ∅ → s.signalFd ∉ readable → s.listenerFd ∉ readable →
    order.toFinset = s.serve.barelyConnectedSockets ∧
      t.toVisit = order.filter fun x => decide (s.fd x ∈ readable)
  nodup : t.toVisit.Nodup
  missing : ∀ x ∈ t.toVisit, t.missingSince format u x < 4 + 2 ^ 24
  recvs : events.countP LoopEvent.isRecv ≤ (t.toVisit.map (t.missingSince format u)).sum
  reads : EveryStep (loopStep format) ReadsOn t events
  asks : ∀ socket rest, u.Reading socket rest → 0 < u.remaining format
  handled : handledSockets trace <+: t.toVisit
  visits : u.serving = true → handledSockets trace ++ u.toVisit = t.toVisit
  ends : u.serving = true → u.inPass = false → handledSockets trace = t.toVisit

section

variable {format : CommandFormat} {s t : Loop} {event : LoopEvent} {out : List LoopOutput}

theorem serving_of_step (hstep : loopStep format s event = some (t, out)) (h : t.serving = true) :
    s.serving = true := by
  by_contra hnot
  have hpoint : (∃ result, s.point = .left result) ∨ ∃ e, s.point = .raised e := by
    unfold Loop.serving at hnot
    split at hnot
    · exact Or.inl ⟨_, ‹_›⟩
    · exact Or.inr ⟨_, ‹_›⟩
    · exact absurd rfl hnot
  cases event with
  | actorCloses socket =>
      generalize hevent : LoopEvent.actorCloses socket = event at hstep
      cases loopStep_cases hstep with
      | actorClosed => exact hnot h
      | _ => cases hevent
  | message msg =>
      rcases hpoint with ⟨_, heq⟩ | ⟨_, heq⟩ <;> cases msg <;> simp [loopStep, heq] at hstep
  | _ => rcases hpoint with ⟨_, heq⟩ | ⟨_, heq⟩ <;> simp [loopStep, heq] at hstep

/-- What is known of the commands that are being read, in every reachable state. -/
theorem readInv_run {signalFd listenerFd : Nat} {events : List LoopEvent} {trace : List LoopOutput}
    (hrun : Run (loopStep format) (Loop.start signalFd listenerFd) events s trace)
    (hserving : s.serving = true) : s.ReadInv format := by
  refine hrun.invariant (P := fun _ s _ => s.serving = true → s.ReadInv format) (fun _ => ?_) ?_
    hserving
  · exact Loop.ReadInv.away (fun x hx => by simp [Loop.start] at hx) nofun nofun
  · intro labels t trace label u out hbefore ht hstep hu
    exact (ht (serving_of_step hstep hu)).step (socketInv_run hbefore).2 hstep hu

theorem Loop.serving_of_inPass (h : s.inPass = true) : s.serving = true := by
  rcases Loop.inPass_cases h with ⟨socket, rest, heq | heq⟩ | ⟨socket, rest, heq⟩ <;>
    rw [Loop.serving, heq]

theorem Loop.Reading.serving {socket : Socket} {rest : List Socket} (h : s.Reading socket rest) :
    s.serving = true := by
  rcases h with heq | heq <;> rw [Loop.serving, heq]

theorem toVisit_eq_nil (h : s.inPass = false) : s.toVisit = [] := by
  unfold Loop.inPass at h
  unfold Loop.toVisit
  split at h
  · cases h
  · cases h
  · cases h
  · rfl

theorem mem_barely_of_mem_toVisit (hpoint : PointInv s) {x : Socket} (hx : x ∈ s.toVisit) :
    x ∈ s.serve.barelyConnectedSockets := by
  unfold Loop.toVisit at hx
  unfold PointInv at hpoint
  split at hx <;> rename_i heq
  · rw [heq] at hpoint
    refine hpoint.2 x ?_
    rcases List.mem_cons.mp hx with rfl | hx
    · exact List.mem_cons_self
    · exact List.mem_cons_of_mem _ (List.mem_of_mem_filter hx)
  · rw [heq] at hpoint
    refine hpoint.2 x ?_
    rcases List.mem_cons.mp hx with rfl | hx
    · exact List.mem_cons_self
    · exact List.mem_cons_of_mem _ (List.mem_of_mem_filter hx)
  · rw [heq] at hpoint
    exact hpoint.2.2 x (List.mem_of_mem_filter hx)
  · cases hx

/-- No socket is visited twice. -/
theorem nodup_toVisit (hpoint : PointInv s) : s.toVisit.Nodup := by
  unfold Loop.toVisit
  unfold PointInv at hpoint
  split <;> rename_i heq
  · rw [heq] at hpoint
    exact hpoint.1.sublist (List.filter_sublist.cons_cons _)
  · rw [heq] at hpoint
    exact hpoint.1.sublist (List.filter_sublist.cons_cons _)
  · rw [heq] at hpoint
    exact hpoint.2.1.filter _
  · exact List.nodup_nil

theorem readsOn_of_step (hinv : s.ReadInv format) (hpoint : PointInv s)
    (hpass : s.inPass = true) (hstep : loopStep format s event = some (t, out)) :
    ReadsOn s event t out := by
  rcases Loop.inPass_event hpass hstep with ⟨socket, rest, hread, hevent⟩ | rfl | ⟨socket, rfl⟩
  · refine ⟨fun _ => ⟨socket, rest, hread, ?_⟩, ?_⟩
    swap
    · rintro rfl
      cases hevent
    cases Loop.read_step hread hinv (hread.barely hpoint) hevent hstep with
    | more info _ hmore =>
        refine Or.inl ⟨?_, rfl, ?_⟩
        · show Loop.readPoint info socket rest = .header socket rest ∨
            Loop.readPoint info socket rest = .content socket rest
          unfold Loop.readPoint
          split
          · exact Or.inl rfl
          · exact Or.inr rfl
        · show _ < (Function.update s.infos socket info socket).bytesRead
          rwa [Function.update_self]
    | complete info command =>
        refine Or.inr (Or.inl ?_)
        have hhandle : (s.noted socket info).HandleStep command socket rest _ _ :=
          Loop.handle_step command
        generalize ((s.noted socket info).handle command socket rest).1 = t at hhandle
        generalize ((s.noted socket info).handle command socket rest).2 = out at hhandle ⊢
        cases hhandle with
        | refused e => rfl
        | dropped serve outputs => exact Loop.handledSockets_wrote command outputs
        | connected serve outputs => exact Loop.handledSockets_wrote command outputs
    | unanswered info command serve outputs => exact Or.inr (Or.inl (Loop.handledSockets_wrote _ _))
    | raised u e => exact Or.inr (Or.inr ⟨e, rfl⟩)
  · obtain ⟨socket, rest, -, -, rfl⟩ := Loop.unregister_step hstep
    exact ⟨nofun, fun _ => (Loop.barelyConnectedPass_point rest).2.2⟩
  · exact ⟨nofun, nofun⟩

/-- A pass that has not begun. -/
theorem passInv_start (hserving : s.serving = true → s.ReadInv format) (hpoint : PointInv s) :
    s.PassInv format [] s [] where
  visits := rfl
  bytes x hx := by
    have hpass : s.inPass = true := by
      unfold Loop.toVisit at hx
      unfold Loop.inPass
      split at hx
      · rfl
      · rfl
      · rfl
      · cases hx
    have hbarely : x ∈ s.serve.barelyConnectedSockets := mem_barely_of_mem_toVisit hpoint hx
    exact Nat.le_of_lt ((hserving (Loop.serving_of_inPass hpass)).barely x hbarely).lt_frameSize
  recvs := Nat.zero_le _
  grown _ := le_refl _

/-- The account of a pass, in each state that its steps reach. -/
theorem pass_run {first : Loop} {events : List LoopEvent} {trace : List LoopOutput}
    (hs : SocketInv first) (hpoint : PointInv first)
    (hread : first.serving = true → first.ReadInv format)
    (hrun : Run (loopStep format) first events s trace)
    (hpass : Throughout (loopStep format) (fun v _ => v.inPass = true) first events) :
    SocketInv s ∧ PointInv s ∧ (s.serving = true → s.ReadInv format) ∧
      (s.serving = true → first.PassInv format events s trace) ∧
      first.PassBound format events s trace := by
  have hstart := passInv_start hread hpoint
  refine hrun.guarded_invariant (P := fun events s trace => SocketInv s ∧ PointInv s ∧
    (s.serving = true → s.ReadInv format) ∧ (s.serving = true → first.PassInv format events s trace) ∧
      first.PassBound format events s trace) hpass
    ⟨hs, hpoint, hread, fun _ => hstart, hstart.bound⟩ ?_
  intro labels v trace label u out _ hv hinPass hstep
  obtain ⟨hs, hpoint, hread, hkept, -⟩ := hv
  have hserving := Loop.serving_of_inPass hinPass
  obtain ⟨hs', hpoint'⟩ := hs.step hpoint (loopStep_cases hstep)
  exact ⟨hs', hpoint', (hread hserving).step hpoint hstep,
    (hkept hserving).step (hread hserving) hs hpoint hinPass hstep⟩

end

/-- One pass: a call of the reader that returns `false` has read one more byte at least, and a pass over
any barely connected sockets, with any bytes in their streams and any of them readable, ends with its
sockets visited one after the other, each of them until its command is complete or it raises. -/
theorem pass_reads (format : CommandFormat) (signalFd listenerFd : Nat) :
    (∀ (endianness : Endianness) (recvs : Nat → RecvResult) (protobuf : Protobuf)
        (info info' : BarelyConnectedMemory) (socket socket' : TcpSocket) (stream stream' : Bytes)
        (calls calls' : Nat),
      handleBarelyConnectedSocketRead endianness recvs protobuf info socket stream calls =
        .unfinished info' socket' stream' calls' → info.bytesRead < info'.bytesRead) ∧
    ∀ (events : List LoopEvent) (s : Loop) (trace : List LoopOutput) (readable : Finset Int)
        (order : List Socket) (t : Loop) (out : List LoopOutput) (passEvents : List LoopEvent) (u : Loop)
        (passTrace : List LoopOutput),
      Run (loopStep format) (Loop.start signalFd listenerFd) events s trace →
      loopStep format s (.select readable order) = some (t, out) →
      Run (loopStep format) t passEvents u passTrace →
      Throughout (loopStep format) (fun v _ => v.inPass = true) t passEvents →
      PassSpec format readable order s t passEvents u passTrace := by
  refine ⟨fun endianness recvs protobuf info info' socket socket' stream stream' calls calls' =>
    handleBarelyConnectedSocketRead_reads, ?_⟩
  intro events s trace readable order t out passEvents u passTrace hrun hselect hpassRun hpass
  have hrun' := hrun.snoc hselect
  obtain ⟨hs, hpoint⟩ := socketInv_run hrun'
  have hread := fun hserving => readInv_run hrun' hserving
  obtain ⟨hsu, hpointu, hreadu, hkept, hbound⟩ := pass_run hs hpoint hread hpassRun hpass
  refine
    { selected := ?_
      nodup := nodup_toVisit hpoint
      missing := fun x _ => lt_of_le_of_lt (Nat.sub_le _ _)
        BarelyConnectedSocketInformation.frameSize_lt
      recvs := hbound.recvs
      reads := ?_
      asks := fun socket rest hreading =>
        (hreadu hreading.serving).remaining_pos hreading (hreading.barely hpointu)
      handled := hbound.handled
      visits := fun hserving => (hkept hserving).visits
      ends := fun hserving hends => ?_ }
  · intro hserving hnonempty hsignal hlistener
    cases Loop.select_step hselect with
    | failed => cases hserving
    | other point _ hwhy =>
        rcases hwhy with hwhy | hwhy | hwhy
        · exact absurd hwhy hnonempty
        · exact absurd hwhy hsignal
        · exact absurd hwhy hlistener
    | pass _ horder => exact ⟨horder, Loop.toVisit_barelyConnectedPass⟩
  · intro before event after v first w out' heq hbefore hstep
    subst heq
    obtain ⟨-, hpointv, hreadv, -⟩ := pass_run hs hpoint hread hbefore hpass.before
    have hinPass := hpass before event after v first rfl hbefore
    exact readsOn_of_step (hreadv (Loop.serving_of_inPass hinPass)) hpointv hinPass hstep
  · have hvisits := (hkept hserving).visits
    rwa [toVisit_eq_nil hends, List.append_nil] at hvisits

/-- Two clients ask for the status, the first one in three parts and the second one in two. -/
theorem pass_reads_two_clients :
    ∃ s t u out trace passTrace,
      Run (loopStep sizeFormat) (Loop.start 3 4)
        [.select {4} [], .accept 1 5, .message none, .select {4} [1], .accept 2 6, .message none] s
        trace ∧
      loopStep sizeFormat s (.select {5, 6} [1, 2]) = some (t, out) ∧
      PassSpec sizeFormat {5, 6} [1, 2] s t
        [.recv (.data [2, 0]), .recv (.data [0, 0]), .recv (.data [32, 1]),
          .recv (.data [2, 0, 0, 0]), .recv (.data [32, 1])] u passTrace ∧
      t.toVisit = [1, 2] ∧ u.inPass = false := by
  obtain ⟨s, trace, hexec⟩ : ∃ s trace, exec (loopStep sizeFormat) (Loop.start 3 4)
      [.select {4} [], .accept 1 5, .message none, .select {4} [1], .accept 2 6, .message none] =
        some (s, trace) := ⟨_, _, rfl⟩
  have hrun := Run.of_exec hexec
  have hcheck : ((loopStep sizeFormat s (.select {5, 6} [1, 2])).any fun first =>
      decide (first.1.toVisit = [1, 2]) &&
        checkThroughout (loopStep sizeFormat) (fun v _ => v.inPass = true) first.1
          [.recv (.data [2, 0]), .recv (.data [0, 0]), .recv (.data [32, 1]),
            .recv (.data [2, 0, 0, 0]), .recv (.data [32, 1])] &&
        (exec (loopStep sizeFormat) first.1
          [.recv (.data [2, 0]), .recv (.data [0, 0]), .recv (.data [32, 1]),
            .recv (.data [2, 0, 0, 0]), .recv (.data [32, 1])]).any
          fun last => !last.1.inPass) = true := by
    cases hexec
    decide +kernel
  obtain ⟨⟨t, out⟩, hselect, hcheck⟩ := (Option.any_eq_true _ _).mp hcheck
  simp only [Bool.and_eq_true, decide_eq_true_eq] at hcheck
  obtain ⟨⟨hvisits, hpass⟩, hends⟩ := hcheck
  obtain ⟨u, passTrace, hpassRun, hends⟩ := Run.of_check hends
  obtain ⟨-, hspec⟩ := pass_reads sizeFormat 3 4
  exact ⟨s, t, u, out, trace, passTrace, hrun, hselect,
    hspec _ _ _ _ _ _ _ _ _ _ hrun hselect hpassRun (Throughout.of_check hpass), hvisits,
    by simpa using hends⟩

end RemoteSimgrid
