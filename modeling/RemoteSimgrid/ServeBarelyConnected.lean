import RemoteSimgrid.MessageFraming

/-! `handle_barely_connected_socket_read`, the resumable reader of commands: it keeps the bytes of an
unfinished command in the memory of a `BarelyConnectedSocketInformation` from one call to the next. Its
calls, one after the other, read what `read_message` reads. -/

namespace RemoteSimgrid

/-- The memory of a `BarelyConnectedSocketInformation`: the counter, the four bytes of `content_size`
and those that `content_buffer` points to. -/
structure BarelyConnectedMemory where
  bytesRead : Nat := 0
  contentSize : Bytes := [0, 0, 0, 0]
  contentBuffer : Bytes := []
  deriving DecidableEq, Repr

/-- What a call of the reader does: it returns `true` with a command, it returns `false`, it blocks, it
throws, or it lets the system write outside of a buffer. -/
inductive BarelyConnectedRead (α : Type) where
  | finished (command : α) (socket : TcpSocket) (stream : Bytes) (calls : Nat)
  | unfinished (info : BarelyConnectedMemory) (socket : TcpSocket) (stream : Bytes) (calls : Nat)
  | blocked
  | raised (socket : TcpSocket) (error : Error)
  | outOfBounds

/-- A conversion to `uint32_t`. -/
def uint32 (n : Int) : Nat := (n % 2 ^ 32).toNat

/-- The bytes `data` are written into a buffer, from an offset on. -/
def overwrite (buffer : Bytes) (offset : Nat) (data : Bytes) : Bytes :=
  buffer.take offset ++ data ++ buffer.drop (offset + data.length)

section

variable (endianness : Endianness) (recvs : Nat → RecvResult) (protobuf : Protobuf)

/-- A `recv` into a window of a buffer. All of the window has to be inside of the buffer, as the system
may fill it. -/
def recvInto (socket : TcpSocket) (buffer : Bytes) (offset size : Nat) (stream : Bytes) (calls : Nat)
    (next : Bytes → TcpSocket → Bytes → Nat → BarelyConnectedRead protobuf.Message) :
    BarelyConnectedRead protobuf.Message :=
  if buffer.length < offset + size then .outOfBounds
  else
    match socket.recv recvs size stream calls with
    | .got part socket stream calls => next part socket stream calls
    | .blocked => .blocked
    | .raised socket error => .raised socket error

/-- The part of the reader that comes after the header. -/
def readBarelyConnectedContent (headerNewlyRead : Bool) (info : BarelyConnectedMemory)
    (socket : TcpSocket) (stream : Bytes) (calls : Nat) : BarelyConnectedRead protobuf.Message :=
  let contentSize := endianness.value info.contentSize
  if contentSize = 0 then .finished protobuf.default socket stream calls
  else
    let remainingContentSize := uint32 (contentSize - info.bytesRead + 4)
    let offset := info.bytesRead - 4
    recvInto recvs protobuf socket info.contentBuffer offset remainingContentSize stream calls
      fun part socket stream calls =>
        let info := { info with
          bytesRead := info.bytesRead + part.length
          contentBuffer := overwrite info.contentBuffer offset part }
        if 0 < part.length ∨ headerNewlyRead = true then
          if part.length = remainingContentSize then
            match protobuf.parseFromArray (info.contentBuffer.take contentSize) with
            | some command => .finished command socket stream calls
            | none => .raised socket ⟨"Could not deserialize Protobuf Command message"⟩
          else .unfinished info socket stream calls
        else
          .raised socket
            ⟨"Did not read anything from socket (while reading content). Close socket?"⟩

/-- `handle_barely_connected_socket_read`. -/
def handleBarelyConnectedSocketRead (info : BarelyConnectedMemory) (socket : TcpSocket)
    (stream : Bytes) (calls : Nat) : BarelyConnectedRead protobuf.Message :=
  if 4 ≤ info.bytesRead then
    readBarelyConnectedContent endianness recvs protobuf false info socket stream calls
  else
    let remainingHeaderSize := uint32 (4 - info.bytesRead)
    recvInto recvs protobuf socket info.contentSize info.bytesRead remainingHeaderSize stream calls
      fun part socket stream calls =>
        let info := { info with
          bytesRead := info.bytesRead + part.length
          contentSize := overwrite info.contentSize info.bytesRead part }
        if 0 < part.length then
          if 4 ≤ info.bytesRead then
            let contentSize := endianness.value info.contentSize
            if contentSize < maxContentSize then
              let info := { info with
                contentBuffer :=
                  if 0 < contentSize then List.replicate contentSize 0 else info.contentBuffer }
              readBarelyConnectedContent endianness recvs protobuf true info socket stream calls
            else
              .raised socket ⟨s!"Read invalid message content size ({contentSize}). " ++
                s!"Expected it to be in [0,{maxContentSize}]"⟩
          else .unfinished info socket stream calls
        else
          .raised socket ⟨"Did not read anything from socket (while reading header). Close socket?"⟩

/-- The reader is called until it does not return `false`, `fuel` times at most. -/
def readBarelyConnected : Nat → BarelyConnectedMemory → TcpSocket → Bytes → Nat →
    BarelyConnectedRead protobuf.Message
  | 0, info, socket, stream, calls => .unfinished info socket stream calls
  | fuel + 1, info, socket, stream, calls =>
      match handleBarelyConnectedSocketRead endianness recvs protobuf info socket stream calls with
      | .unfinished info socket stream calls => readBarelyConnected fuel info socket stream calls
      | result => result

/-! ### What is left to read -/

/-- The part of `read_message` that comes after the header. -/
def readContents (header : Bytes) (socket : TcpSocket) (stream : Bytes) (calls : Nat) :
    Received Packet :=
  let contentSize := endianness.value header
  if contentSize < maxContentSize then
    if 0 < contentSize then
      (socket.recvAll recvs contentSize stream calls).bind fun content socket stream calls =>
      match protobuf.parseFromArray content with
      | some message => .got ⟨protobuf, message⟩ socket stream calls
      | none =>
          .raised socket
            ⟨s!"Could not deserialize Protobuf message of content_size={contentSize}"⟩
    else .got ⟨protobuf, protobuf.default⟩ socket stream calls
  else
    .raised socket ⟨s!"Read invalid message content size ({contentSize}). " ++
      s!"Expected it to be in [0,{maxContentSize}]"⟩

/-- What `read_message` still does when it has a part of the header. -/
def headerRest (read : Bytes) (socket : TcpSocket) (stream : Bytes) (calls : Nat) : Received Packet :=
  (socket.recvLoop recvs (4 - read.length) stream calls).bind fun tail socket stream calls =>
    readContents endianness recvs protobuf (read ++ tail) socket stream calls

/-- What `read_message` still does when it has a part of the content. -/
def contentRest (size : Nat) (read : Bytes) (socket : TcpSocket) (stream : Bytes) (calls : Nat) :
    Received Packet :=
  (socket.recvLoop recvs (size - read.length) stream calls).bind fun tail socket stream calls =>
    match protobuf.parseFromArray (read ++ tail) with
    | some message => .got ⟨protobuf, message⟩ socket stream calls
    | none =>
        .raised socket ⟨s!"Could not deserialize Protobuf message of content_size={size}"⟩

/-- The reader has a part of the header. -/
structure HeaderRead (info : BarelyConnectedMemory) (read : Bytes) : Prop where
  partly : read.length < 4
  bytesRead : info.bytesRead = read.length
  contentSize : info.contentSize = read ++ List.replicate (4 - read.length) 0

/-- The reader has the header and a part of the content. -/
structure ContentRead (info : BarelyConnectedMemory) (size : Nat) (read : Bytes) : Prop where
  header : endianness.value info.contentSize = size
  valid : size < maxContentSize
  partly : read.length < size
  bytesRead : info.bytesRead = 4 + read.length
  contentBuffer : info.contentBuffer = read ++ List.replicate (size - read.length) 0

/-- A call of the reader does the beginning of what is left to read: both end in the same way, or the
reader goes on with a shorter stream. -/
def Continues (result : BarelyConnectedRead protobuf.Message) (rest : Received Packet)
    (stream : Bytes) : Prop :=
  match result with
  | .finished command socket stream' calls => rest = .got ⟨protobuf, command⟩ socket stream' calls
  | .unfinished info socket stream' calls =>
      socket.Usable ∧ stream'.length < stream.length ∧
        ((∃ read, HeaderRead info read ∧
          rest = headerRest endianness recvs protobuf read socket stream' calls) ∨
        ∃ size read, ContentRead endianness info size read ∧
          rest = contentRest recvs protobuf size read socket stream' calls)
  | .blocked => rest = .blocked
  | .raised socket _ => ∃ error, rest = .raised socket error
  | .outOfBounds => False

end

theorem Received.bind_assoc {α β γ : Type*} (r : Received α)
    (f : α → TcpSocket → Bytes → Nat → Received β) (g : β → TcpSocket → Bytes → Nat → Received γ) :
    (r.bind f).bind g = r.bind fun value socket stream calls => (f value socket stream calls).bind g := by
  cases r <;> rfl

theorem uint32_eq {n : Nat} (hn : n < 2 ^ 32) : uint32 n = n := by
  unfold uint32
  omega

/-- What a `recv` writes after the bytes that a buffer has already. -/
theorem overwrite_append (read part : Bytes) {k : Nat} (hpart : part.length ≤ k) :
    overwrite (read ++ List.replicate k 0) read.length part =
      (read ++ part) ++ List.replicate (k - part.length) 0 := by
  rw [overwrite, List.take_left, List.drop_append, List.drop_replicate,
    List.drop_eq_nil_of_le (Nat.le_add_right _ _), List.nil_append]
  congr 2
  omega

/-! ### One call -/

section

variable {endianness : Endianness} {recvs : Nat → RecvResult} {protobuf : Protobuf}
  {info : BarelyConnectedMemory} {socket : TcpSocket} {size : Nat} {read : Bytes}

theorem content_continues (hsocket : socket.Usable) (h : ContentRead endianness info size read)
    (headerNewlyRead : Bool) (stream : Bytes) (calls : Nat) :
    Continues endianness recvs protobuf
      (readBarelyConnectedContent endianness recvs protobuf headerNewlyRead info socket stream calls)
      (contentRest recvs protobuf size read socket stream calls) stream := by
  have hpartly := h.partly
  have hvalid : size < 2 ^ 24 := h.valid
  have hremaining : uint32 (size - info.bytesRead + 4) = size - read.length := by
    rw [h.bytesRead, ← uint32_eq (show size - read.length < 2 ^ 32 by omega)]
    congr 1
    omega
  have hoffset : info.bytesRead - 4 = read.length := by
    rw [h.bytesRead]
    omega
  have hbuffer : ¬info.contentBuffer.length < read.length + (size - read.length) := by
    rw [h.contentBuffer, List.length_append, List.length_replicate]
    exact lt_irrefl _
  have hne : ¬size = 0 := by omega
  unfold readBarelyConnectedContent
  simp only [h.header, if_neg hne, hremaining, hoffset, recvInto, if_neg hbuffer]
  rcases TcpSocket.recv_cases hsocket (show 0 < size - read.length by omega) stream
    calls with ⟨s', e, e', hrecv, hloop⟩ | ⟨hrecv, hloop⟩ | ⟨part, rest, rfl, hpos, hle, hrecv, hloop⟩
  · rw [hrecv]
    exact ⟨e', by rw [contentRest, hloop]; rfl⟩
  · rw [hrecv]
    exact (by rw [contentRest, hloop]; rfl)
  · rw [hrecv]
    have hover : overwrite info.contentBuffer read.length part =
        (read ++ part) ++ List.replicate (size - read.length - part.length) 0 := by
      rw [h.contentBuffer, overwrite_append read part hle]
    have hrest : contentRest recvs protobuf size read socket (part ++ rest) calls =
        contentRest recvs protobuf size (read ++ part) socket rest (calls + 1) := by
      rw [contentRest, hloop, Received.bind_assoc, contentRest, List.length_append, Nat.sub_sub]
      simp only [Received.got_bind, List.append_assoc]
    simp only [if_pos (Or.inl hpos : 0 < part.length ∨ headerNewlyRead = true), hover, hrest]
    by_cases hall : part.length = size - read.length
    · rw [if_pos hall]
      have hzero : size - read.length - part.length = 0 := by omega
      have htake : ((read ++ part) ++ List.replicate (size - read.length - part.length) 0).take size =
          read ++ part := by
        rw [hzero, List.replicate_zero, List.append_nil, List.take_of_length_le]
        rw [List.length_append]
        omega
      have hdone : contentRest recvs protobuf size (read ++ part) socket rest (calls + 1) =
          match protobuf.parseFromArray (read ++ part) with
          | some message => .got ⟨protobuf, message⟩ socket rest (calls + 1)
          | none =>
              .raised socket
                ⟨s!"Could not deserialize Protobuf message of content_size={size}"⟩ := by
        rw [contentRest, List.length_append, ← Nat.sub_sub, hzero, TcpSocket.recvLoop, if_pos rfl,
          Received.got_bind, List.append_nil]
      rw [htake, hdone]
      cases protobuf.parseFromArray (read ++ part) with
      | some command => rfl
      | none => exact ⟨_, rfl⟩
    · rw [if_neg hall]
      refine ⟨hsocket, ?_, Or.inr ⟨size, read ++ part, ?_, rfl⟩⟩
      · rw [List.length_append]
        omega
      · exact
          { header := h.header
            valid := h.valid
            partly := by rw [List.length_append]; omega
            bytesRead := by simp only [h.bytesRead, List.length_append]; omega
            contentBuffer := by rw [List.length_append, ← Nat.sub_sub] }

theorem recvAll_usable (hsocket : socket.Usable) (size : Nat) (stream : Bytes) (calls : Nat) :
    socket.recvAll recvs size stream calls = socket.recvLoop recvs size stream calls := by
  rw [TcpSocket.recvAll, if_neg hsocket.fd, if_neg (by rw [hsocket.connected]; decide)]

/-- The content of a message is all that is left to read after its header. -/
theorem readContents_eq (hsocket : socket.Usable) {header : Bytes}
    (hvalid : endianness.value header < maxContentSize) (hpos : 0 < endianness.value header)
    (stream : Bytes) (calls : Nat) :
    readContents endianness recvs protobuf header socket stream calls =
      contentRest recvs protobuf (endianness.value header) [] socket stream calls := by
  simp only [readContents, if_pos hvalid, if_pos hpos, recvAll_usable hsocket]
  rfl

theorem Continues.shorter {result : BarelyConnectedRead protobuf.Message} {rest : Received Packet}
    {stream stream' : Bytes} (h : Continues endianness recvs protobuf result rest stream)
    (hlength : stream.length ≤ stream'.length) :
    Continues endianness recvs protobuf result rest stream' := by
  cases result with
  | unfinished info socket stream'' calls =>
      obtain ⟨hsocket, hshorter, hrest⟩ := h
      exact ⟨hsocket, lt_of_lt_of_le hshorter hlength, hrest⟩
  | _ => exact h

theorem header_continues (hsocket : socket.Usable) (h : HeaderRead info read) (stream : Bytes)
    (calls : Nat) :
    Continues endianness recvs protobuf
      (handleBarelyConnectedSocketRead endianness recvs protobuf info socket stream calls)
      (headerRest endianness recvs protobuf read socket stream calls) stream := by
  have hpartly := h.partly
  have hremaining : uint32 (4 - read.length) = 4 - read.length := by
    rw [← uint32_eq (show 4 - read.length < 2 ^ 32 by omega)]
    congr 1
    omega
  have hbuffer : ¬info.contentSize.length < read.length + (4 - read.length) := by
    rw [h.contentSize, List.length_append, List.length_replicate]
    exact lt_irrefl _
  have hheader : ¬4 ≤ info.bytesRead := by
    rw [h.bytesRead]
    omega
  unfold handleBarelyConnectedSocketRead
  rw [if_neg hheader]
  simp only [hremaining, h.bytesRead, recvInto, if_neg hbuffer]
  rcases TcpSocket.recv_cases hsocket (show 0 < 4 - read.length by omega) stream
    calls with ⟨s', e, e', hrecv, hloop⟩ | ⟨hrecv, hloop⟩ | ⟨part, rest, rfl, hpos, hle, hrecv, hloop⟩
  · rw [hrecv]
    exact ⟨e', by rw [headerRest, hloop]; rfl⟩
  · rw [hrecv]
    exact (by rw [headerRest, hloop]; rfl)
  · rw [hrecv]
    have hover : overwrite info.contentSize read.length part =
        (read ++ part) ++ List.replicate (4 - read.length - part.length) 0 := by
      rw [h.contentSize, overwrite_append read part hle]
    have hrest : headerRest endianness recvs protobuf read socket (part ++ rest) calls =
        headerRest endianness recvs protobuf (read ++ part) socket rest (calls + 1) := by
      rw [headerRest, hloop, Received.bind_assoc, headerRest, List.length_append, Nat.sub_sub]
      simp only [Received.got_bind, List.append_assoc]
    simp only [if_pos hpos, hover, hrest]
    by_cases hall : 4 ≤ read.length + part.length
    · rw [if_pos hall]
      have hzero : 4 - read.length - part.length = 0 := by omega
      have hfour : (read ++ part).length = 4 := by
        rw [List.length_append]
        omega
      have hdone : headerRest endianness recvs protobuf (read ++ part) socket rest (calls + 1) =
          readContents endianness recvs protobuf (read ++ part) socket rest (calls + 1) := by
        rw [headerRest, hfour, TcpSocket.recvLoop, if_pos rfl, Received.got_bind, List.append_nil]
      simp only [hzero, List.replicate_zero, List.append_nil, hdone]
      by_cases hvalid : endianness.value (read ++ part) < maxContentSize
      · rw [if_pos hvalid]
        by_cases hpositive : 0 < endianness.value (read ++ part)
        · -- the content is read in the same call
          rw [if_pos hpositive, readContents_eq hsocket hvalid hpositive]
          refine (content_continues hsocket ?_ true rest (calls + 1)).shorter ?_
          · exact
              { header := rfl
                valid := hvalid
                partly := hpositive
                bytesRead := by rw [← List.length_append, hfour]; rfl
                contentBuffer := rfl }
          · rw [List.length_append]
            omega
        · have hempty : endianness.value (read ++ part) = 0 := Nat.eq_zero_of_not_pos hpositive
          simp only [readBarelyConnectedContent, hempty, if_true, readContents, lt_irrefl, if_false]
          exact if_pos (by decide)
      · rw [if_neg hvalid]
        exact ⟨_, if_neg hvalid⟩
    · rw [if_neg hall]
      refine ⟨hsocket, ?_, Or.inl ⟨read ++ part, ?_, rfl⟩⟩
      · rw [List.length_append]
        omega
      · exact
          { partly := by rw [List.length_append]; omega
            bytesRead := by rw [List.length_append]
            contentSize := by rw [List.length_append, ← Nat.sub_sub] }

/-! ### All calls -/

/-- Two readers end in the same way: with the same command, socket, rest of the stream and number of
calls of `::recv`, both blocked, or both with an error. -/
def Agree (result : BarelyConnectedRead protobuf.Message) (rest : Received Packet) : Prop :=
  match result with
  | .finished command socket stream calls => rest = .got ⟨protobuf, command⟩ socket stream calls
  | .blocked => rest = .blocked
  | .raised socket _ => ∃ error, rest = .raised socket error
  | .unfinished _ _ _ _ | .outOfBounds => False

theorem readBarelyConnected_agree {rest : Received Packet} {stream : Bytes} {calls fuel : Nat}
    (hsocket : socket.Usable) (hfuel : stream.length < fuel)
    (h : (∃ read, HeaderRead info read ∧
        rest = headerRest endianness recvs protobuf read socket stream calls) ∨
      ∃ size read, ContentRead endianness info size read ∧
        rest = contentRest recvs protobuf size read socket stream calls) :
    Agree (readBarelyConnected endianness recvs protobuf fuel info socket stream calls) rest := by
  induction fuel generalizing info socket stream calls with
  | zero => exact absurd hfuel (Nat.not_lt_zero _)
  | succ fuel ih =>
      have hcall : Continues endianness recvs protobuf
          (handleBarelyConnectedSocketRead endianness recvs protobuf info socket stream calls) rest
          stream := by
        rcases h with ⟨read, hread, rfl⟩ | ⟨size, read, hread, rfl⟩
        · exact header_continues hsocket hread stream calls
        · have hheader : 4 ≤ info.bytesRead := by
            rw [hread.bytesRead]
            exact Nat.le_add_right 4 _
          rw [handleBarelyConnectedSocketRead, if_pos hheader]
          exact content_continues hsocket hread false stream calls
      rw [readBarelyConnected]
      cases hresult : handleBarelyConnectedSocketRead endianness recvs protobuf info socket stream
        calls with
      | unfinished info' socket' stream' calls' =>
          rw [hresult] at hcall
          obtain ⟨hsocket', hshorter, hrest⟩ := hcall
          exact ih hsocket' (by omega) hrest
      | finished command socket' stream' calls' => rw [hresult] at hcall; exact hcall
      | blocked => rw [hresult] at hcall; exact hcall
      | raised socket' error => rw [hresult] at hcall; exact hcall
      | outOfBounds => rw [hresult] at hcall; exact hcall

/-- Two calls on an invalid socket both throw. -/
theorem handleBarelyConnectedSocketRead_unusable (hsocket : ¬socket.Usable) (stream : Bytes)
    (calls : Nat) :
    ∃ error, handleBarelyConnectedSocketRead endianness recvs protobuf {} socket stream calls =
      .raised socket error := by
  have hrecv : ∃ error, socket.recv recvs 4 stream calls = .raised socket error := by
    unfold TcpSocket.recv
    by_cases hfd : socket.fd = -1
    · exact ⟨_, if_pos hfd⟩
    · rw [if_neg hfd, if_pos]
      · exact ⟨_, rfl⟩
      · rw [← Bool.not_eq_true]
        exact fun hconnected => hsocket ⟨hfd, hconnected⟩
  obtain ⟨error, hrecv⟩ := hrecv
  refine ⟨error, ?_⟩
  have hfour : uint32 (4 - ((0 : Nat) : Int)) = 4 := rfl
  rw [handleBarelyConnectedSocketRead, if_neg (by decide)]
  simp only [hfour, recvInto, hrecv]
  exact if_neg (by decide)

theorem recvAll_unusable (hsocket : ¬socket.Usable) (size : Nat) (stream : Bytes) (calls : Nat) :
    ∃ error, socket.recvAll recvs size stream calls = .raised socket error := by
  unfold TcpSocket.recvAll
  by_cases hfd : socket.fd = -1
  · exact ⟨_, if_pos hfd⟩
  · rw [if_neg hfd, if_pos]
    · exact ⟨_, rfl⟩
    · rw [← Bool.not_eq_true]
      exact fun hconnected => hsocket ⟨hfd, hconnected⟩

theorem readMessage_eq (stream : Bytes) (calls : Nat) :
    readMessage endianness recvs socket protobuf stream calls =
      (socket.recvAll recvs 4 stream calls).bind fun header socket stream calls =>
        readContents endianness recvs protobuf header socket stream calls := rfl

/-- The reader, called again and again on a fresh object, reads what `read_message` reads. -/
theorem readBarelyConnected_agree_readMessage (stream : Bytes) (calls : Nat) {fuel : Nat}
    (hfuel : stream.length < fuel) :
    Agree (readBarelyConnected endianness recvs protobuf fuel {} socket stream calls)
      (readMessage endianness recvs socket protobuf stream calls) := by
  by_cases hsocket : socket.Usable
  · refine readBarelyConnected_agree hsocket hfuel (Or.inl ⟨[], ⟨by decide, rfl, rfl⟩, ?_⟩)
    rw [readMessage_eq, recvAll_usable hsocket]
    rfl
  · obtain ⟨fuel, rfl⟩ : ∃ n, fuel = n + 1 := ⟨fuel - 1, by omega⟩
    obtain ⟨error, hcall⟩ : ∃ error, handleBarelyConnectedSocketRead endianness recvs protobuf {} socket
        stream calls = .raised socket error :=
      handleBarelyConnectedSocketRead_unusable hsocket stream calls
    obtain ⟨error', hrecv⟩ : ∃ error, socket.recvAll recvs 4 stream calls = .raised socket error :=
      recvAll_unusable hsocket 4 stream calls
    rw [readBarelyConnected, hcall]
    exact ⟨error', by rw [readMessage_eq, hrecv]; rfl⟩

/-! ### The first frame -/

end

/-- What the beginning of a stream is. -/
inductive FirstFrame (α : Type) where
  | incomplete
  | malformed
  | complete (command : α) (size : Nat)

/-- The first frame of a stream: four bytes for the size of the content, and the content. -/
def firstFrame (endianness : Endianness) (protobuf : Protobuf) (stream : Bytes) :
    FirstFrame protobuf.Message :=
  let size := endianness.value (stream.take 4)
  if stream.length < 4 then .incomplete
  else if maxContentSize ≤ size then .malformed
  else if stream.length < 4 + size then .incomplete
  else if size = 0 then .complete protobuf.default 0
  else
    match protobuf.parseFromArray ((stream.drop 4).take size) with
    | some command => .complete command size
    | none => .malformed

/-- What a read of a first frame gives when the client stays. -/
def FirstFrame.ReadBy {protobuf : Protobuf} (frame : FirstFrame protobuf.Message) (socket : TcpSocket)
    (stream : Bytes) (result : Received Packet) : Prop :=
  match frame with
  | .incomplete => result = .blocked
  | .malformed => ∃ error, result = .raised socket error
  | .complete command size =>
      ∃ calls, result = .got ⟨protobuf, command⟩ socket (stream.drop (4 + size)) calls

section

variable {endianness : Endianness} {recvs : Nat → RecvResult} {protobuf : Protobuf}
  {socket : TcpSocket}

/-- A stream that is too short is waited for. -/
theorem recvLoop_blocked (hrecvs : ∀ call, ∃ size, recvs call = .delivered size) {size : Nat}
    {stream : Bytes} (hshort : stream.length < size) (calls : Nat) :
    socket.recvLoop recvs size stream calls = .blocked := by
  induction hlength : stream.length using Nat.strong_induction_on generalizing size stream calls with
  | _ length ih =>
      obtain ⟨wanted, hwanted⟩ := hrecvs calls
      rw [TcpSocket.recvLoop, if_neg (by omega), hwanted]
      by_cases hempty : stream.length = 0
      · exact if_pos hempty
      · have hpos := piece_pos wanted (min size stream.length)
        have hlimit : 0 < min size stream.length := by omega
        have hle : piece wanted (min size stream.length) ≤ _ := piece_le hlimit
        simp only [if_neg hempty]
        rw [ih (stream.length - piece wanted (min size stream.length)) (by omega) _ _
          (by rw [List.length_drop])]
        · rfl
        · rw [List.length_drop]
          omega

theorem readMessage_firstFrame (hrecvs : ∀ call, ∃ size, recvs call = .delivered size)
    (hsocket : socket.Usable) (stream : Bytes) (calls : Nat) :
    (firstFrame endianness protobuf stream).ReadBy socket stream
      (readMessage endianness recvs socket protobuf stream calls) := by
  rw [readMessage_eq, recvAll_usable hsocket]
  by_cases hheader : stream.length < 4
  · rw [recvLoop_blocked hrecvs hheader]
    simp only [firstFrame, if_pos hheader]
    rfl
  · have htake : (stream.take 4).length = 4 := by
      rw [List.length_take]
      omega
    obtain ⟨calls₁, hread⟩ := TcpSocket.recvLoop_reliable hrecvs socket (stream.take 4) (stream.drop 4)
      calls
    rw [htake, List.take_append_drop] at hread
    rw [hread, Received.got_bind]
    simp only [firstFrame, if_neg hheader]
    generalize hsize : endianness.value (stream.take 4) = size
    by_cases hlarge : maxContentSize ≤ size
    · simp only [if_pos hlarge]
      exact ⟨_, if_neg (by rw [hsize]; exact Nat.not_lt.mpr hlarge)⟩
    · have hvalid : endianness.value (stream.take 4) < maxContentSize := by
        rw [hsize]
        exact Nat.lt_of_not_le hlarge
      simp only [if_neg hlarge]
      by_cases hempty : size = 0
      · subst hempty
        rw [if_neg (by omega), if_pos rfl]
        refine ⟨calls₁, ?_⟩
        simp only [readContents, hsize, lt_irrefl, if_false, Nat.add_zero]
        exact if_pos (by decide)
      · rw [readContents_eq hsocket hvalid (by omega), hsize]
        by_cases hshort : stream.length < 4 + size
        · rw [if_pos hshort]
          have hcontent : (stream.drop 4).length < size := by
            rw [List.length_drop]
            omega
          simp only [contentRest, List.length_nil, Nat.sub_zero, recvLoop_blocked hrecvs hcontent]
          rfl
        · have htake' : ((stream.drop 4).take size).length = size := by
            rw [List.length_take, List.length_drop]
            omega
          obtain ⟨calls₂, hread'⟩ := TcpSocket.recvLoop_reliable hrecvs socket
            ((stream.drop 4).take size) ((stream.drop 4).drop size) calls₁
          rw [htake', List.take_append_drop, List.drop_drop] at hread'
          simp only [if_neg hshort, if_neg hempty, contentRest, List.length_nil, Nat.sub_zero, hread',
            Received.got_bind, List.nil_append]
          cases protobuf.parseFromArray ((stream.drop 4).take size) with
          | some command => exact ⟨calls₂, rfl⟩
          | none => exact ⟨_, rfl⟩

theorem recvLoop_got {size : Nat} {stream buffer rest : Bytes} {calls calls' : Nat} {socket' : TcpSocket}
    (h : socket.recvLoop recvs size stream calls = .got buffer socket' rest calls') :
    buffer.length = size ∧ stream = buffer ++ rest ∧ socket' = socket := by
  induction hsize : size using Nat.strong_induction_on generalizing size stream buffer calls with
  | _ _ ih =>
      rw [TcpSocket.recvLoop] at h
      split at h
      · rename_i hzero
        cases h
        exact ⟨by rw [List.length_nil, ← hsize, hzero], rfl, rfl⟩
      · rename_i hpositive
        split at h
        · cases h
        · cases h
        · rename_i wanted _
          split at h
          · cases h
          · rename_i hstream
            have hpos := piece_pos wanted (min size stream.length)
            have hlimit : 0 < min size stream.length := by omega
            have hle : piece wanted (min size stream.length) ≤ _ := piece_le hlimit
            simp only at h
            cases hloop : socket.recvLoop recvs (size - piece wanted (min size stream.length))
              (stream.drop (piece wanted (min size stream.length))) (calls + 1) with
            | blocked => rw [hloop] at h; cases h
            | raised socket'' error => rw [hloop] at h; cases h
            | got tail socket'' stream'' calls'' =>
                rw [hloop] at h
                cases h
                obtain ⟨hlength, hsplit, rfl⟩ := ih _ (by omega) hloop rfl
                refine ⟨?_, ?_, rfl⟩
                · rw [List.length_append, hlength, List.length_take]
                  omega
                · rw [List.append_assoc, ← hsplit, List.take_append_drop]

/-- What `read_message` returns is the first frame, and it leaves what comes after it. -/
theorem readMessage_got {stream rest : Bytes} {calls calls' : Nat} {socket' : TcpSocket}
    {command : protobuf.Message}
    (h : readMessage endianness recvs socket protobuf stream calls =
      .got ⟨protobuf, command⟩ socket' rest calls') :
    ∃ size, firstFrame endianness protobuf stream = .complete command size ∧
      4 + size ≤ stream.length ∧ rest = stream.drop (4 + size) ∧ socket' = socket := by
  have husable : socket.Usable := by
    by_contra hsocket
    obtain ⟨error, hrecv⟩ : ∃ error, socket.recvAll recvs 4 stream calls = .raised socket error :=
      recvAll_unusable hsocket 4 stream calls
    rw [readMessage_eq, hrecv] at h
    cases h
  rw [readMessage_eq, recvAll_usable husable] at h
  cases hloop : socket.recvLoop recvs 4 stream calls with
  | blocked => rw [hloop] at h; cases h
  | raised socket'' error => rw [hloop] at h; cases h
  | got header socket'' stream'' calls'' =>
      obtain ⟨hlength, rfl, rfl⟩ := recvLoop_got hloop
      rw [hloop, Received.got_bind] at h
      simp only [readContents] at h
      have hheader : ¬4 + stream''.length < 4 := by omega
      have htake : (header ++ stream'').take 4 = header := by rw [← hlength, List.take_left]
      have hdrop : (header ++ stream'').drop 4 = stream'' := by rw [← hlength, List.drop_left]
      have hdrops : ∀ size, (header ++ stream'').drop (4 + size) = stream''.drop size := by
        intro size
        rw [← List.drop_drop, hdrop]
      have htotal : (header ++ stream'').length = 4 + stream''.length := by
        rw [List.length_append, hlength]
      simp only [firstFrame, htake, hdrop, hdrops, htotal, if_neg hheader]
      split at h
      · rename_i hvalid
        rw [if_neg (Nat.not_le.mpr hvalid)]
        split at h
        · rename_i hpos
          rw [recvAll_usable husable] at h
          cases hcontent : socket''.recvLoop recvs (endianness.value header) stream'' calls'' with
          | blocked => rw [hcontent] at h; cases h
          | raised socket₂ error => rw [hcontent] at h; cases h
          | got content socket₂ stream₂ calls₂ =>
              obtain ⟨hsize, rfl, rfl⟩ := recvLoop_got hcontent
              rw [hcontent, Received.got_bind] at h
              have hlong : ¬4 + (content ++ stream₂).length < 4 + endianness.value header := by
                rw [List.length_append]
                omega
              rw [if_neg hlong, if_neg (Nat.ne_of_gt hpos), ← hsize, List.take_left]
              split at h
              · rename_i message hparse
                cases h
                refine ⟨content.length, rfl, ?_, by rw [List.drop_left], rfl⟩
                rw [List.length_append]
                omega
              · cases h
        · rename_i hempty
          cases h
          have hzero : endianness.value header = 0 := Nat.eq_zero_of_not_pos hempty
          rw [hzero, if_neg (by omega), if_pos rfl]
          exact ⟨0, rfl, Nat.le_add_right _ _, rfl, rfl⟩
      · cases h

/-- Called again and again on a fresh object, the reader of commands agrees with `read_message`. What
it returns is the first frame of the stream, of which it takes just the bytes. As long as the client
stays, this depends on the stream alone, and not on how it is cut. -/
theorem barelyConnected_reads_first_frame (endianness : Endianness) (recvs : Nat → RecvResult)
    (protobuf : Protobuf) (socket : TcpSocket) (stream : Bytes) (calls : Nat) {fuel : Nat}
    (hfuel : stream.length < fuel) :
    let result := readBarelyConnected endianness recvs protobuf fuel {} socket stream calls
    Agree result (readMessage endianness recvs socket protobuf stream calls) ∧
      (∀ command socket' rest calls', result = .finished command socket' rest calls' →
        ∃ size, firstFrame endianness protobuf stream = .complete command size ∧
          4 + size ≤ stream.length ∧ rest = stream.drop (4 + size) ∧ socket' = socket) ∧
      (socket.Usable → (∀ call, ∃ size, recvs call = .delivered size) →
        match firstFrame endianness protobuf stream with
        | .incomplete => result = .blocked
        | .malformed => ∃ error, result = .raised socket error
        | .complete command size =>
            ∃ calls', result = .finished command socket (stream.drop (4 + size)) calls') := by
  intro result
  have hagree : Agree result (readMessage endianness recvs socket protobuf stream calls) :=
    readBarelyConnected_agree_readMessage stream calls hfuel
  refine ⟨hagree, ?_, ?_⟩
  · intro command socket' rest calls' hresult
    rw [hresult] at hagree
    exact readMessage_got hagree
  · intro hsocket hrecvs
    have hread : (firstFrame endianness protobuf stream).ReadBy socket stream
        (readMessage endianness recvs socket protobuf stream calls) :=
      readMessage_firstFrame hrecvs hsocket stream calls
    cases hframe : firstFrame endianness protobuf stream with
    | incomplete =>
        rw [hframe] at hread
        cases hresult : result with
        | blocked => rfl
        | finished => rw [hresult] at hagree; cases hread.symm.trans hagree
        | raised =>
            rw [hresult] at hagree
            obtain ⟨error, hraised⟩ := hagree
            cases hread.symm.trans hraised
        | unfinished => rw [hresult] at hagree; exact hagree.elim
        | outOfBounds => rw [hresult] at hagree; exact hagree.elim
    | malformed =>
        rw [hframe] at hread
        obtain ⟨error, hread⟩ := hread
        cases hresult : result with
        | blocked => rw [hresult] at hagree; cases hread.symm.trans hagree
        | finished => rw [hresult] at hagree; cases hread.symm.trans hagree
        | raised socket' error' =>
            rw [hresult] at hagree
            obtain ⟨error'', hraised⟩ := hagree
            cases hread.symm.trans hraised
            exact ⟨error', rfl⟩
        | unfinished => rw [hresult] at hagree; exact hagree.elim
        | outOfBounds => rw [hresult] at hagree; exact hagree.elim
    | complete command size =>
        rw [hframe] at hread
        obtain ⟨calls', hread⟩ := hread
        cases hresult : result with
        | blocked => rw [hresult] at hagree; cases hread.symm.trans hagree
        | finished command' socket' rest calls'' =>
            rw [hresult] at hagree
            cases hread.symm.trans hagree
            exact ⟨calls', rfl⟩
        | raised socket' error' =>
            rw [hresult] at hagree
            obtain ⟨error'', hraised⟩ := hagree
            cases hread.symm.trans hraised
        | unfinished => rw [hresult] at hagree; exact hagree.elim
        | outOfBounds => rw [hresult] at hagree; exact hagree.elim

end

/-- A frame of six bytes that arrives two bytes at a time, with the beginning of the next one. -/
theorem barelyConnected_reads_first_frame_flag :
    ∃ calls, readBarelyConnected .big (fun _ => .delivered 2) flagProtobuf 9 {} (.accepted 7)
      [0, 0, 0, 2, 8, 1, 0, 0] 0 = .finished true (.accepted 7) [0, 0] calls :=
  (barelyConnected_reads_first_frame .big (fun _ => .delivered 2) flagProtobuf (.accepted 7)
    [0, 0, 0, 2, 8, 1, 0, 0] 0 (by decide)).2.2 ⟨by decide, rfl⟩ (fun _ => ⟨2, rfl⟩)

end RemoteSimgrid
