import RemoteSimgrid.ServeBarelyConnected

/-! The limits on the size of a message. The readers refuse contents of 2^24 bytes or more; the writer
refuses those that protobuf does not serialize, and computes the sizes of its buffer on 32 bits. -/

namespace RemoteSimgrid

/-- What `write_message` does: the frame is sent, an error is thrown before anything is sent, an error
is thrown by `send_all`, or the header is written outside of the buffer. -/
inductive Written where
  | sent (stream : Bytes) (calls : Nat)
  | refused (error : Error)
  | interrupted (error : Error)
  | undefinedBehaviour
  deriving DecidableEq

/-- `write_message` with its buffer. -/
def writeFrame (endianness : Endianness) (sends : Nat → SendResult) (socket : TcpSocket) (p : Packet)
    (stream : Bytes) (calls : Nat) : Written :=
  let contentSize := uint32 p.size
  let messageSize := uint32 (contentSize + 4)
  if messageSize < 4 then .undefinedBehaviour
  else
    let messageContent :=
      overwrite (List.replicate messageSize 0) 0 (endianness.bytes contentSize)
    if p.size ≤ contentSize ∧ p.size < maxSerializedSize then
      match socket.sendAll sends (overwrite messageContent 4 p.content) stream calls with
      | .ok (stream, calls) => .sent stream calls
      | .error e => .interrupted e
    else .refused ⟨"Could not serialize Protobuf message"⟩

/-- The byte of a header in memory that is the most significant one. -/
def Endianness.mostSignificantByte (endianness : Endianness) (header : Bytes) : Option UInt8 :=
  match endianness with
  | .little => header.getLast?
  | .big => header.head?

/-- Both readers accept a frame: whatever comes after it on the stream, they return its message. -/
def Accepted (endianness : Endianness) (p : Packet) (frame : Bytes) : Prop :=
  ∀ (reader : TcpSocket) (recvs : Nat → RecvResult) (rest : Bytes) (calls fuel : Nat),
    reader.Usable → (∀ call, ∃ size, recvs call = .delivered size) →
    (frame ++ rest).length < fuel →
    (∃ calls', readMessage endianness recvs reader p.protobuf (frame ++ rest) calls =
      .got p reader rest calls') ∧
    ∃ calls', readBarelyConnected endianness recvs p.protobuf fuel {} reader (frame ++ rest) calls =
      .finished p.message reader rest calls'

/-- What is written is nothing at all, with an error, or a frame that the other side accepts, with the
size of the content in its header and a null byte as the most significant one. -/
def WritesAcceptably (endianness : Endianness) (p : Packet) (stream : Bytes) : Written → Prop
  | .sent stream' _ => ∃ header frame, frame = header ++ p.content ∧ stream' = stream ++ frame ∧
      header.length = 4 ∧ endianness.value header = p.size ∧
      endianness.mostSignificantByte header = some 0 ∧ Accepted endianness p frame
  | .refused _ => True
  | .interrupted _ => False
  | .undefinedBehaviour => False

/-! ### The buffer -/

theorem uint32_natCast (n : Nat) : uint32 n = n % 2 ^ 32 := by
  unfold uint32
  omega

theorem uint32_add_four (n : Nat) : uint32 ((uint32 n : Int) + 4) = (n % 2 ^ 32 + 4) % 2 ^ 32 := by
  rw [uint32_natCast]
  exact uint32_natCast (n % 2 ^ 32 + 4)

/-- The buffer that is sent is the frame. -/
theorem overwrite_frame (endianness : Endianness) (p : Packet) :
    overwrite (overwrite (List.replicate (p.size + 4) 0) 0 (endianness.bytes p.size)) 4 p.content =
      p.frame endianness := by
  have hheader : overwrite (List.replicate (p.size + 4) 0) 0 (endianness.bytes p.size) =
      endianness.bytes p.size ++ List.replicate p.size 0 := by
    rw [overwrite, List.take_zero, List.nil_append, endianness.length_bytes, List.drop_replicate]
    congr 2
  have hfour := endianness.length_bytes p.size
  rw [hheader, Packet.frame]
  have hcontent := overwrite_append (endianness.bytes p.size) p.content (k := p.size) le_rfl
  rw [hfour] at hcontent
  rw [hcontent, show p.size - p.content.length = 0 from Nat.sub_self _, List.replicate_zero,
    List.append_nil]

section

variable (endianness : Endianness) {sends : Nat → SendResult} {socket : TcpSocket}

/-- The writer with its buffer is the writer of frames, unless it writes outside of the buffer. -/
theorem writeFrame_eq (p : Packet) (stream : Bytes) (calls : Nat) :
    match writeFrame endianness sends socket p stream calls with
    | .sent stream' calls' =>
        writeMessage endianness sends socket p stream calls = .ok (stream', calls')
    | .refused e | .interrupted e => writeMessage endianness sends socket p stream calls = .error e
    | .undefinedBehaviour => 2 ^ 32 - 4 ≤ p.size % 2 ^ 32 := by
  simp only [writeFrame, uint32_add_four]
  by_cases hbuffer : (p.size % 2 ^ 32 + 4) % 2 ^ 32 < 4
  · rw [if_pos hbuffer]
    show 2 ^ 32 - 4 ≤ p.size % 2 ^ 32
    omega
  · rw [if_neg hbuffer, uint32_natCast]
    by_cases hserialized : p.size ≤ p.size % 2 ^ 32 ∧ p.size < maxSerializedSize
    · have hlimit : p.size < 2 ^ 31 := hserialized.2
      have hsize : p.size % 2 ^ 32 = p.size := by omega
      have hmessage : (p.size + 4) % 2 ^ 32 = p.size + 4 := by omega
      rw [if_pos hserialized, hsize, hmessage, overwrite_frame]
      have hwrite : writeMessage endianness sends socket p stream calls =
          socket.sendAll sends (p.frame endianness) stream calls := by
        simp only [writeMessage, hsize, rsgEnforce, le_refl, true_and]
        exact if_pos hserialized.2
      rw [hwrite]
      cases socket.sendAll sends (p.frame endianness) stream calls with
      | ok result => rfl
      | error e => rfl
    · rw [if_neg hserialized]
      simp only [writeMessage, rsgEnforce]
      exact if_neg hserialized

/-! ### What is accepted -/

theorem mostSignificantByte_bytes (n : Nat) :
    endianness.mostSignificantByte (endianness.bytes n) = some (UInt8.ofNat (n / 2 ^ 24)) := by
  cases endianness <;> rfl

theorem mostSignificantByte_eq_zero {n : Nat} (hn : n < 2 ^ 31) :
    endianness.mostSignificantByte (endianness.bytes n) = some 0 ↔ n < maxContentSize := by
  have hbyte : (UInt8.ofNat (n / 2 ^ 24)).toNat = n / 2 ^ 24 := by
    rw [UInt8.toNat_ofNat']
    omega
  rw [mostSignificantByte_bytes, Option.some.injEq, ← UInt8.toNat_inj, hbyte]
  show n / 2 ^ 24 = 0 ↔ n < 16777216
  omega

theorem message_eq {p : Packet} {message : p.protobuf.Message} (h : p = ⟨p.protobuf, message⟩) :
    message = p.message := by
  obtain ⟨protobuf, message'⟩ := p
  cases h
  rfl

theorem frame_accepted {p : Packet} (hp : p.size < maxContentSize) :
    Accepted endianness p (p.frame endianness) := by
  intro reader recvs rest calls fuel hreader hrecvs hfuel
  have hread := readMessage_reliable endianness hrecvs hreader hp rest calls
  refine ⟨hread, ?_⟩
  obtain ⟨calls', hread⟩ := hread
  have hagree : Agree (readBarelyConnected endianness recvs p.protobuf fuel {} reader
      (p.frame endianness ++ rest) calls) (readMessage endianness recvs reader p.protobuf
      (p.frame endianness ++ rest) calls) :=
    readBarelyConnected_agree_readMessage _ calls hfuel
  rw [hread] at hagree
  cases hresult : readBarelyConnected endianness recvs p.protobuf fuel {} reader
    (p.frame endianness ++ rest) calls with
  | finished command socket stream calls'' =>
      rw [hresult] at hagree
      simp only [Agree, Received.got.injEq] at hagree
      obtain ⟨hpacket, rfl, rfl, rfl⟩ := hagree
      rw [message_eq hpacket]
      exact ⟨calls', rfl⟩
  | blocked => rw [hresult] at hagree; cases hagree
  | raised socket error =>
      rw [hresult] at hagree
      obtain ⟨error', hraised⟩ := hagree
      cases hraised
  | unfinished => rw [hresult] at hagree; exact hagree.elim
  | outOfBounds => rw [hresult] at hagree; exact hagree.elim

/-- Where protobuf serializes a message and the buffer is large enough, the frame is sent. -/
theorem writeFrame_sent (hsends : ∀ call, ∃ size, sends call = .accepted size)
    (hsocket : socket.Usable) {p : Packet} (hp : p.size < maxSerializedSize) (stream : Bytes)
    (calls : Nat) :
    ∃ calls', writeFrame endianness sends socket p stream calls =
      .sent (stream ++ p.frame endianness) calls' := by
  have hlimit : p.size < 2 ^ 31 := hp
  have hsize : p.size % 2 ^ 32 = p.size := by omega
  have hmessage : (p.size + 4) % 2 ^ 32 = p.size + 4 := by omega
  obtain ⟨calls', hsend⟩ :=
    TcpSocket.sendAll_reliable hsends hsocket (p.frame endianness) stream calls
  refine ⟨calls', ?_⟩
  simp only [writeFrame, uint32_add_four]
  rw [uint32_natCast, hsize, hmessage, if_neg (by omega), if_pos ⟨le_rfl, hp⟩, overwrite_frame, hsend]

theorem sent_acceptably {p : Packet} (hp : p.size < maxSerializedSize) (stream : Bytes) (calls : Nat) :
    WritesAcceptably endianness p stream (.sent (stream ++ p.frame endianness) calls) ↔
      p.size < maxContentSize := by
  have hlimit : p.size < 2 ^ 31 := hp
  constructor
  · rintro ⟨header, frame, rfl, hstream, hlength, -, hbyte, -⟩
    have hframe : p.frame endianness = header ++ p.content := List.append_cancel_left hstream
    have hheader : header = endianness.bytes p.size :=
      (List.append_inj hframe ((endianness.length_bytes _).trans hlength.symm)).1.symm
    rw [hheader] at hbyte
    exact (mostSignificantByte_eq_zero endianness hlimit).mp hbyte
  · intro hsmall
    exact ⟨endianness.bytes p.size, p.frame endianness, rfl, rfl, endianness.length_bytes _,
      endianness.value_bytes (by omega), (mostSignificantByte_eq_zero endianness hlimit).mpr hsmall,
      frame_accepted endianness hsmall⟩

/-- A frame whose content is too large is rejected by the reader. -/
theorem readMessage_too_large {recvs : Nat → RecvResult}
    (hrecvs : ∀ call, ∃ size, recvs call = .delivered size) (hsocket : socket.Usable) {p : Packet}
    (hlarge : maxContentSize ≤ p.size) (hp : p.size < maxSerializedSize) (rest : Bytes) (calls : Nat) :
    ∃ error, readMessage endianness recvs socket p.protobuf (p.frame endianness ++ rest) calls =
      .raised socket error := by
  have hlimit : p.size < 2 ^ 31 := hp
  have htake : (p.frame endianness ++ rest).take 4 = endianness.bytes p.size := by
    rw [Packet.frame, List.append_assoc, ← endianness.length_bytes p.size, List.take_left]
  have hlength : ¬(p.frame endianness ++ rest).length < 4 := by
    rw [List.length_append, p.length_frame]
    omega
  have hframe : firstFrame endianness p.protobuf (p.frame endianness ++ rest) = .malformed := by
    simp only [firstFrame, htake, endianness.value_bytes (show p.size < 2 ^ 32 by omega),
      if_neg hlength, if_pos hlarge]
  have hread : (firstFrame endianness p.protobuf (p.frame endianness ++ rest)).ReadBy socket
      (p.frame endianness ++ rest)
      (readMessage endianness recvs socket p.protobuf (p.frame endianness ++ rest) calls) :=
    readMessage_firstFrame hrecvs hsocket _ calls
  rw [hframe] at hread
  exact hread

/-- On a connection that works, the writer writes acceptably the messages below the limit of the
readers. It refuses those that protobuf does not serialize, but for four sizes modulo 2^32; the others
it sends, or it destroys memory. -/
theorem writes_acceptably_iff (endianness : Endianness) {sends : Nat → SendResult}
    {socket : TcpSocket} (hsends : ∀ call, ∃ size, sends call = .accepted size)
    (hsocket : socket.Usable) (p : Packet) (stream : Bytes) (calls : Nat) :
    WritesAcceptably endianness p stream (writeFrame endianness sends socket p stream calls) ↔
      p.size < maxContentSize ∨ maxSerializedSize ≤ p.size ∧ p.size % 2 ^ 32 < 2 ^ 32 - 4 := by
  rcases Nat.lt_or_ge p.size maxSerializedSize with hserialized | hlarge
  · have hlimit : p.size < 2 ^ 31 := hserialized
    obtain ⟨calls', hsent⟩ := writeFrame_sent endianness hsends hsocket hserialized stream calls
    rw [hsent, sent_acceptably endianness hserialized]
    constructor
    · exact Or.inl
    · rintro (hp | ⟨hp, -⟩)
      · exact hp
      · exact absurd hserialized (Nat.not_lt.mpr hp)
  · have hlimit : 2 ^ 31 ≤ p.size := hlarge
    have hcontent : ¬p.size < maxContentSize := by
      show ¬p.size < 16777216
      omega
    have hrefused : ¬(p.size ≤ p.size % 2 ^ 32 ∧ p.size < maxSerializedSize) :=
      fun hand => absurd hand.2 (Nat.not_lt.mpr hlarge)
    simp only [writeFrame, uint32_add_four]
    rw [uint32_natCast, if_neg hrefused]
    by_cases hbuffer : (p.size % 2 ^ 32 + 4) % 2 ^ 32 < 4
    · rw [if_pos hbuffer]
      refine iff_of_false id ?_
      rintro (hp | ⟨-, hp⟩)
      · exact hcontent hp
      · omega
    · rw [if_neg hbuffer]
      exact iff_of_true trivial (Or.inr ⟨hlarge, by omega⟩)

end

/-- A message that consists of `n` bytes. -/
def bytesProtobuf : Protobuf where
  Message := Bytes
  default := []
  serializeToArray := id
  parseFromArray := some
  parse_serialize _ := rfl
  default_of_empty _ h := h

def zeros (n : Nat) : Packet := ⟨bytesProtobuf, List.replicate n 0⟩

theorem size_zeros (n : Nat) : (zeros n).size = n := List.length_replicate

theorem writes_acceptably_iff_zeros :
    WritesAcceptably .little (zeros 5) []
        (writeFrame .little (fun _ => .accepted 1) (.accepted 7) (zeros 5) [] 0) ↔
      (zeros 5).size < maxContentSize ∨
        maxSerializedSize ≤ (zeros 5).size ∧ (zeros 5).size % 2 ^ 32 < 2 ^ 32 - 4 :=
  writes_acceptably_iff .little (fun _ => ⟨1, rfl⟩) ⟨by decide, rfl⟩ (zeros 5) [] 0

/-- A content that is too large is sent, and the reader throws. -/
theorem large_content_is_sent {n : Nat} (hlarge : maxContentSize ≤ n) (hn : n < maxSerializedSize) :
    ∃ calls, writeFrame .little (fun _ => .accepted 1) (.accepted 7) (zeros n) [] 0 =
        .sent ((zeros n).frame .little) calls ∧
      (∃ error, readMessage .little (fun _ => .delivered 1) (.accepted 9) bytesProtobuf
        ((zeros n).frame .little) 0 = .raised (.accepted 9) error) ∧
      ¬WritesAcceptably .little (zeros n) []
        (writeFrame .little (fun _ => .accepted 1) (.accepted 7) (zeros n) [] 0) := by
  have hserialized : (zeros n).size < maxSerializedSize := (size_zeros n).symm ▸ hn
  have hwriter : (TcpSocket.accepted 7).Usable := ⟨by decide, rfl⟩
  have hreader : (TcpSocket.accepted 9).Usable := ⟨by decide, rfl⟩
  obtain ⟨calls, hsent⟩ :=
    writeFrame_sent .little (fun _ => ⟨1, rfl⟩) hwriter hserialized [] 0
  obtain ⟨error, hraised⟩ := readMessage_too_large .little (fun _ => ⟨1, rfl⟩) hreader
    (hlarge.trans (size_zeros n).ge) hserialized [] 0
  rw [List.append_nil] at hraised
  refine ⟨calls, hsent, ⟨error, hraised⟩, ?_⟩
  rw [hsent, sent_acceptably .little hserialized, size_zeros]
  exact Nat.not_lt.mpr hlarge

theorem content_of_max_size_is_sent :
    ∃ calls, writeFrame .little (fun _ => .accepted 1) (.accepted 7) (zeros maxContentSize) [] 0 =
        .sent ((zeros maxContentSize).frame .little) calls ∧
      (∃ error, readMessage .little (fun _ => .delivered 1) (.accepted 9) bytesProtobuf
        ((zeros maxContentSize).frame .little) 0 = .raised (.accepted 9) error) ∧
      ¬WritesAcceptably .little (zeros maxContentSize) []
        (writeFrame .little (fun _ => .accepted 1) (.accepted 7) (zeros maxContentSize) [] 0) :=
  large_content_is_sent le_rfl (by decide)

end RemoteSimgrid
