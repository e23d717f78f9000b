import RemoteSimgrid.ServeLoopPass

/-! `handle_barely_connected_socket_read` in the main loop of `serve`: what a call of the reader does with
its memory and the stream of a client is what the loop does with one `recv` or two. -/

namespace RemoteSimgrid

open Machine Pb

/-- The memory of the reader has what the loop has noted of a command. -/
inductive NotedIn (endianness : Endianness) (memory : BarelyConnectedMemory)
    (info : BarelyConnectedSocketInformation) : Prop
  | header : HeaderRead memory info.header → info.content = [] → NotedIn endianness memory info
  | content : memory.contentSize = info.header → info.header.length = 4 →
      ContentRead endianness memory (info.contentSize endianness) info.content →
      NotedIn endianness memory info

theorem notedIn_fresh (endianness : Endianness) : NotedIn endianness {} {} :=
  .header ⟨by decide, rfl, rfl⟩ rfl

namespace Loop

/-- The next `recv` on a stream can have this outcome. -/
def Comes (recvs : Nat → RecvResult) (calls : Nat) (stream : Bytes) : RecvOutcome → Prop
  | .data part => ∃ tail, stream = part ++ tail
  | .closed => recvs calls = .closed
  | .failed errno => recvs calls = .failed errno

/-- What a call of the reader gives is what the next `recv` of the loop brings. -/
def EndsAs (format : CommandFormat) {protobuf : Protobuf} (decode : protobuf.Message → Command)
    (recvs : Nat → RecvResult) (s : Loop) (socket : Socket) (stream : Bytes) (calls : Nat) :
    BarelyConnectedRead protobuf.Message → Prop
  | .finished command _ stream' _ => ∃ part, stream = part ++ stream' ∧
      s.brings format (.data part) = .complete (decode command)
  | .unfinished memory _ stream' _ => stream = stream' ∧
      NotedIn format.endianness memory (s.infos socket)
  | .blocked => stream = []
  | .raised _ _ => ∃ outcome, Comes recvs calls stream outcome ∧ s.brings format outcome = .invalid
  | .outOfBounds => False

/-- The loop notes some of the stream of a socket, one `recv` after the other, and comes to the result of
the call. -/
def ReadsAs (format : CommandFormat) {protobuf : Protobuf} (decode : protobuf.Message → Command)
    (recvs : Nat → RecvResult) (s : Loop) (socket : Socket) (rest : List Socket) (stream : Bytes)
    (calls : Nat) (result : BarelyConnectedRead protobuf.Message) : Prop :=
  ∃ (parts : List Bytes) (t : Loop) (tail : Bytes), stream = parts.flatten ++ tail ∧
    Run (loopStep format) s (parts.map fun part => .recv (.data part)) t [] ∧
    t.point = readPoint (t.infos socket) socket rest ∧
    t.EndsAs format decode recvs socket tail (calls + parts.length) result

variable {s t : Loop} {format : CommandFormat} {protobuf : Protobuf}
  {decode : protobuf.Message → Command} {recvs : Nat → RecvResult} {socket : Socket}
  {rest : List Socket} {memory : BarelyConnectedMemory} {tcp : TcpSocket}

theorem ReadsAs.cons {part stream : Bytes} {calls : Nat}
    {result : BarelyConnectedRead protobuf.Message}
    (hstep : loopStep format s (.recv (.data part)) = some (t, []))
    (h : ReadsAs format decode recvs t socket rest stream (calls + 1) result) :
    ReadsAs format decode recvs s socket rest (part ++ stream) calls result := by
  obtain ⟨parts, u, tail, rfl, hrun, hpoint, hends⟩ := h
  refine ⟨part :: parts, u, tail, ?_, Run.cons hstep hrun, hpoint, ?_⟩
  · rw [List.flatten_cons, List.append_assoc]
  · rw [List.length_cons, Nat.add_comm parts.length 1, ← Nat.add_assoc]
    exact hends

theorem ReadsAs.now {stream : Bytes} {calls : Nat} {result : BarelyConnectedRead protobuf.Message}
    (hpoint : s.point = readPoint (s.infos socket) socket rest)
    (hends : s.EndsAs format decode recvs socket stream calls result) :
    ReadsAs format decode recvs s socket rest stream calls result :=
  ⟨[], s, stream, rfl, Run.nil, hpoint, hends⟩

/-- A part of a header, or the end of one that announces a content. -/
theorem header_noted {part : Bytes} (hpoint : s.point = .header socket rest) (hpart : part ≠ [])
    (hle : part.length ≤ 4 - (s.infos socket).header.length)
    (hmore : 4 ≤ ((s.infos socket).header ++ part).length →
      format.endianness.value ((s.infos socket).header ++ part) < maxContentSize ∧
        format.endianness.value ((s.infos socket).header ++ part) ≠ 0) :
    ∃ t, loopStep format s (.recv (.data part)) = some (t, []) ∧
      t.infos socket = { s.infos socket with header := (s.infos socket).header ++ part } ∧
      t.point = readPoint (t.infos socket) socket rest := by
  have hlabel : part ≠ [] ∧ part.length ≤ s.remaining format := by
    refine ⟨hpart, ?_⟩
    unfold remaining
    rw [hpoint]
    exact hle
  simp only [loopStep, hpoint, if_pos hlabel, readHeader]
  generalize (s.infos socket).header ++ part = header at hmore
  by_cases hpartly : header.length < 4
  · simp only [if_pos hpartly, enterRead_eq]
    exact ⟨_, rfl, Function.update_self _ _ _, rfl⟩
  · obtain ⟨hvalid, hne⟩ := hmore (Nat.not_lt.mp hpartly)
    have hvalid' : BarelyConnectedSocketInformation.contentSize format.endianness
        { s.infos socket with header := header } < maxContentSize := hvalid
    have hne' : ¬BarelyConnectedSocketInformation.contentSize format.endianness
        { s.infos socket with header := header } = 0 := hne
    simp only [if_neg hpartly, if_pos hvalid', if_neg hne']
    refine ⟨_, rfl, Function.update_self _ _ _, ?_⟩
    simp only [Function.update_self, readPoint, if_neg hpartly]

/-- A part of a content. -/
theorem content_noted {part : Bytes} (hpoint : s.point = .content socket rest) (hpart : part ≠ [])
    (hle : part.length ≤ (s.infos socket).contentSize format.endianness -
      (s.infos socket).content.length)
    (hmore : ((s.infos socket).content ++ part).length ≠
      (s.infos socket).contentSize format.endianness) :
    ∃ t, loopStep format s (.recv (.data part)) = some (t, []) ∧
      t.infos socket = { s.infos socket with content := (s.infos socket).content ++ part } ∧
      t.point = readPoint (t.infos socket) socket rest := by
  have hlabel : part ≠ [] ∧ part.length ≤ s.remaining format := by
    refine ⟨hpart, ?_⟩
    unfold remaining
    rw [hpoint]
    exact hle
  have hmore' : ((s.infos socket).content ++ part).length ≠
      BarelyConnectedSocketInformation.contentSize format.endianness
        { s.infos socket with content := (s.infos socket).content ++ part } := hmore
  simp only [loopStep, hpoint, if_pos hlabel, readContent, if_neg hmore', enterRead_eq]
  exact ⟨_, rfl, Function.update_self _ _ _, rfl⟩

theorem recv_blocked (htcp : tcp.Usable) {size : Nat} (hsize : 0 < size) {stream : Bytes} {calls : Nat}
    (h : tcp.recv recvs size stream calls = .blocked) : stream = [] := by
  rw [TcpSocket.recv, if_neg htcp.fd, if_neg (by rw [htcp.connected]; decide)] at h
  split at h
  · cases h
  · cases h
  · rw [if_neg (Nat.ne_of_gt hsize)] at h
    split at h
    · exact List.length_eq_zero_iff.mp ‹_›
    · cases h

/-- A `recv` that raises has found the connection closed or broken. -/
theorem recv_raised (htcp : tcp.Usable) {size : Nat} (hsize : 0 < size) {stream : Bytes} {calls : Nat}
    {tcp' : TcpSocket} {e : Error} (h : tcp.recv recvs size stream calls = .raised tcp' e) (s : Loop) :
    ∃ outcome, Comes recvs calls stream outcome ∧ s.brings format outcome = .invalid := by
  rw [TcpSocket.recv, if_neg htcp.fd, if_neg (by rw [htcp.connected]; decide)] at h
  split at h
  · rename_i errno hfailed
    exact ⟨.failed errno, hfailed, rfl⟩
  · rename_i hclosed
    exact ⟨.closed, hclosed, rfl⟩
  · rw [if_neg (Nat.ne_of_gt hsize)] at h
    split at h <;> cases h

/-- The part of the reader that comes after the header is one `recv` of the loop. -/
theorem content_readsAs (headerNewlyRead : Bool)
    (hformat : ∀ bytes, format.parseFromArray bytes = (protobuf.parseFromArray bytes).map decode)
    (htcp : tcp.Usable) (hpoint : s.point = .content socket rest)
    (hheader : memory.contentSize = (s.infos socket).header)
    (hfour : (s.infos socket).header.length = 4)
    (hread : ContentRead format.endianness memory ((s.infos socket).contentSize format.endianness)
      (s.infos socket).content) (stream : Bytes) (calls : Nat) :
    ReadsAs format decode recvs s socket rest stream calls
      (readBarelyConnectedContent format.endianness recvs protobuf headerNewlyRead memory tcp stream
        calls) := by
  have hreadPoint : s.point = readPoint (s.infos socket) socket rest := by
    rw [hpoint, readPoint, if_neg (by omega)]
  have hpartly := hread.partly
  have hvalid : (s.infos socket).contentSize format.endianness < 2 ^ 24 := hread.valid
  generalize hinfo : s.infos socket = info at hheader hfour hread hpartly hvalid
  generalize hsize : info.contentSize format.endianness = size at hread hpartly hvalid
  have hremaining : uint32 (size - memory.bytesRead + 4) = size - info.content.length := by
    rw [hread.bytesRead, ← uint32_eq (show size - info.content.length < 2 ^ 32 by omega)]
    congr 1
    omega
  have hoffset : memory.bytesRead - 4 = info.content.length := by
    rw [hread.bytesRead]
    omega
  have hbuffer : ¬memory.contentBuffer.length < info.content.length + (size - info.content.length) := by
    rw [hread.contentBuffer, List.length_append, List.length_replicate]
    exact lt_irrefl _
  have hne : ¬size = 0 := by omega
  have hbrings : ∀ part : Bytes, s.brings format (.data part) =
      if (info.content ++ part).length = size then
        (format.parseFromArray (info.content ++ part)).elim .invalid .complete
      else .incomplete := by
    intro part
    unfold brings
    rw [hpoint]
    simp only [hinfo, hsize]
    cases format.parseFromArray (info.content ++ part) <;> rfl
  unfold readBarelyConnectedContent
  simp only [hread.header, if_neg hne, hremaining, hoffset, recvInto, if_neg hbuffer]
  rcases TcpSocket.recv_cases htcp (show 0 < size - info.content.length by omega) stream
    calls with ⟨s', e, e', hrecv, -⟩ | ⟨hrecv, -⟩ | ⟨part, tail, rfl, hpos, hle, hrecv, -⟩
  · rw [hrecv]
    exact ReadsAs.now hreadPoint (recv_raised htcp (by omega) hrecv s)
  · rw [hrecv]
    exact ReadsAs.now hreadPoint (recv_blocked htcp (by omega) hrecv)
  · rw [hrecv]
    have hover : overwrite memory.contentBuffer info.content.length part =
        (info.content ++ part) ++ List.replicate (size - info.content.length - part.length) 0 := by
      rw [hread.contentBuffer, overwrite_append info.content part hle]
    simp only [if_pos (Or.inl hpos : 0 < part.length ∨ headerNewlyRead = true), hover]
    by_cases hall : part.length = size - info.content.length
    · rw [if_pos hall]
      have hlength : (info.content ++ part).length = size := by
        rw [List.length_append]
        omega
      have hzero : size - info.content.length - part.length = 0 := by omega
      have htake : ((info.content ++ part) ++
          List.replicate (size - info.content.length - part.length) 0).take size =
          info.content ++ part := by
        rw [hzero, List.replicate_zero, List.append_nil, List.take_of_length_le (Nat.le_of_eq hlength)]
      have hlast := hbrings part
      rw [if_pos hlength, hformat] at hlast
      rw [htake]
      cases hparse : protobuf.parseFromArray (info.content ++ part) with
      | some command =>
          rw [hparse] at hlast
          exact ReadsAs.now hreadPoint ⟨part, rfl, hlast⟩
      | none =>
          rw [hparse] at hlast
          exact ReadsAs.now hreadPoint ⟨.data part, ⟨tail, rfl⟩, hlast⟩
    · rw [if_neg hall]
      have hmore : (info.content ++ part).length ≠ size := by
        rw [List.length_append]
        omega
      have hnote : ∃ t, loopStep format s (.recv (.data part)) = some (t, []) ∧
          t.infos socket = { s.infos socket with content := (s.infos socket).content ++ part } ∧
          t.point = readPoint (t.infos socket) socket rest :=
        content_noted hpoint (List.ne_nil_of_length_pos hpos) (by rw [hinfo, hsize]; exact hle)
          (by rw [hinfo, hsize]; exact hmore)
      obtain ⟨t, hstep, hinfo', hpoint'⟩ := hnote
      rw [hinfo] at hinfo'
      refine ReadsAs.cons hstep (ReadsAs.now hpoint' ⟨rfl, ?_⟩)
      rw [hinfo']
      refine .content hheader hfour ?_
      have hsize' : BarelyConnectedSocketInformation.contentSize format.endianness
          { info with content := info.content ++ part } = size := hsize
      rw [hsize']
      exact
        { header := hread.header
          valid := hread.valid
          partly := by rw [List.length_append]; omega
          bytesRead := by simp only [hread.bytesRead, List.length_append]; omega
          contentBuffer := by rw [List.length_append, ← Nat.sub_sub] }

/-- A call of the reader on a client of the loop is one `recv` of the loop, or two. -/
theorem reader_readsAs
    (hformat : ∀ bytes, format.parseFromArray bytes = (protobuf.parseFromArray bytes).map decode)
    (hdefault : decode protobuf.default = .typeNotSet) (htcp : tcp.Usable)
    (hinv : s.ReadInv format) (hread : s.Reading socket rest)
    (hnoted : NotedIn format.endianness memory (s.infos socket)) (stream : Bytes) (calls : Nat) :
    ReadsAs format decode recvs s socket rest stream calls
      (handleBarelyConnectedSocketRead format.endianness recvs protobuf memory tcp stream calls) := by
  have hpoint : s.point = readPoint (s.infos socket) socket rest := by
    unfold readPoint
    rcases hread with heq | heq
    · rw [if_pos (hinv.header socket rest heq), heq]
    · rw [if_neg (Nat.not_lt.mpr (hinv.content socket rest heq)), heq]
  cases hnoted with
  | content hheader hfour hcontent =>
      rw [readPoint, if_neg (by omega)] at hpoint
      have hfirst : 4 ≤ memory.bytesRead := by
        rw [hcontent.bytesRead]
        exact Nat.le_add_right 4 _
      rw [handleBarelyConnectedSocketRead, if_pos hfirst]
      exact content_readsAs false hformat htcp hpoint hheader hfour hcontent stream calls
  | header hheader hempty =>
      have hreadPoint := hpoint
      have hpartly := hheader.partly
      rw [readPoint, if_pos hpartly] at hpoint
      have hremaining : uint32 (4 - (s.infos socket).header.length) =
          4 - (s.infos socket).header.length := by
        rw [← uint32_eq (show 4 - (s.infos socket).header.length < 2 ^ 32 by omega)]
        congr 1
        omega
      have hbuffer : ¬memory.contentSize.length < (s.infos socket).header.length +
          (4 - (s.infos socket).header.length) := by
        rw [hheader.contentSize, List.length_append, List.length_replicate]
        exact lt_irrefl _
      have hfirst : ¬4 ≤ memory.bytesRead := by
        rw [hheader.bytesRead]
        omega
      have hbrings : ∀ part : Bytes, s.brings format (.data part) =
          if ((s.infos socket).header ++ part).length < 4 then .incomplete
          else if format.endianness.value ((s.infos socket).header ++ part) < maxContentSize then
            if format.endianness.value ((s.infos socket).header ++ part) = 0 then
              .complete .typeNotSet
            else .incomplete
          else .invalid := by
        intro part
        unfold brings
        rw [hpoint]
      unfold handleBarelyConnectedSocketRead
      rw [if_neg hfirst]
      simp only [hremaining, hheader.bytesRead, recvInto, if_neg hbuffer]
      rcases TcpSocket.recv_cases htcp (show 0 < 4 - (s.infos socket).header.length by omega) stream
        calls with ⟨s', e, e', hrecv, -⟩ | ⟨hrecv, -⟩ | ⟨part, tail, rfl, hpos, hle, hrecv, -⟩
      · rw [hrecv]
        exact ReadsAs.now hreadPoint (recv_raised htcp (by omega) hrecv s)
      · rw [hrecv]
        exact ReadsAs.now hreadPoint (recv_blocked htcp (by omega) hrecv)
      · rw [hrecv]
        have hover : overwrite memory.contentSize (s.infos socket).header.length part =
            ((s.infos socket).header ++ part) ++
              List.replicate (4 - (s.infos socket).header.length - part.length) 0 := by
          rw [hheader.contentSize, overwrite_append (s.infos socket).header part hle]
        have hlast := hbrings part
        have hnote : (4 ≤ ((s.infos socket).header ++ part).length →
              format.endianness.value ((s.infos socket).header ++ part) < maxContentSize ∧
                format.endianness.value ((s.infos socket).header ++ part) ≠ 0) →
            ∃ t, loopStep format s (.recv (.data part)) = some (t, []) ∧
              t.infos socket = { s.infos socket with header := (s.infos socket).header ++ part } ∧
              t.point = readPoint (t.infos socket) socket rest :=
          header_noted hpoint (List.ne_nil_of_length_pos hpos) hle
        have happend : ((s.infos socket).header ++ part).length =
            (s.infos socket).header.length + part.length := List.length_append
        generalize hnew : (s.infos socket).header ++ part = header at hover hlast hnote happend
        simp only [if_pos hpos, hover]
        by_cases hall : 4 ≤ (s.infos socket).header.length + part.length
        · have hzero : 4 - (s.infos socket).header.length - part.length = 0 := by omega
          rw [if_neg (by omega)] at hlast
          simp only [if_pos hall, hzero, List.replicate_zero, List.append_nil]
          by_cases hvalid : format.endianness.value header < maxContentSize
          · rw [if_pos hvalid] at hlast ⊢
            by_cases hpositive : 0 < format.endianness.value header
            · -- the content is read in the same call
              obtain ⟨t, hstep, hinfo, hpoint'⟩ := hnote fun _ => ⟨hvalid, by omega⟩
              rw [if_pos hpositive]
              refine ReadsAs.cons hstep ?_
              rw [hinfo, readPoint, if_neg (show ¬header.length < 4 by omega)] at hpoint'
              refine content_readsAs true hformat htcp hpoint' ?_ ?_ ?_ tail (calls + 1)
              · rw [hinfo]
              · rw [hinfo]
                show header.length = 4
                omega
              · rw [hinfo]
                show ContentRead format.endianness _ (format.endianness.value header)
                  (s.infos socket).content
                rw [hempty]
                exact
                  { header := rfl
                    valid := hvalid
                    partly := hpositive
                    bytesRead := by
                      show (s.infos socket).header.length + part.length = 4 + 0
                      omega
                    contentBuffer := rfl }
            · have hzero' : format.endianness.value header = 0 := Nat.eq_zero_of_not_pos hpositive
              rw [if_pos hzero', ← hdefault] at hlast
              simp only [readBarelyConnectedContent, hzero', if_true]
              exact ReadsAs.now hreadPoint ⟨part, rfl, hlast⟩
          · rw [if_neg hvalid] at hlast ⊢
            exact ReadsAs.now hreadPoint ⟨.data part, ⟨tail, rfl⟩, hlast⟩
        · rw [if_neg hall]
          obtain ⟨t, hstep, hinfo, hpoint'⟩ := hnote fun h => absurd h (by omega)
          refine ReadsAs.cons hstep (ReadsAs.now hpoint' ⟨rfl, ?_⟩)
          rw [hinfo]
          refine .header ?_ hempty
          exact
            { partly := by show header.length < 4; omega
              bytesRead := happend.symm
              contentSize := by
                show header ++ List.replicate _ 0 = header ++ List.replicate (4 - header.length) 0
                rw [happend, Nat.sub_sub] }

end Loop

end RemoteSimgrid
