import RemoteSimgrid.TcpSocket

/-! The wire format of `message.hpp`: a header of four bytes, the size of the content, then the content
as protobuf serializes it. -/

namespace RemoteSimgrid

/-- The byte order of a machine. -/
inductive Endianness where
  | little
  | big
  deriving DecidableEq, Repr

namespace Endianness

/-- The four bytes of a `uint32_t` in memory. -/
def bytes (endianness : Endianness) (n : Nat) : Bytes :=
  let low := [UInt8.ofNat n, UInt8.ofNat (n / 2 ^ 8), UInt8.ofNat (n / 2 ^ 16),
    UInt8.ofNat (n / 2 ^ 24)]
  match endianness with
  | little => low
  | big => low.reverse

/-- The `uint32_t` that four bytes of memory hold. -/
def value (endianness : Endianness) (bytes : Bytes) : Nat :=
  let low := match endianness with
    | little => bytes
    | big => bytes.reverse
  low.foldr (fun byte n => byte.toNat + 2 ^ 8 * n) 0

theorem length_bytes (endianness : Endianness) (n : Nat) : (endianness.bytes n).length = 4 := by
  cases endianness <;> rfl

theorem value_bytes (endianness : Endianness) {n : Nat} (hn : n < 2 ^ 32) :
    endianness.value (endianness.bytes n) = n := by
  have hlow : [UInt8.ofNat n, UInt8.ofNat (n / 2 ^ 8), UInt8.ofNat (n / 2 ^ 16),
      UInt8.ofNat (n / 2 ^ 24)].foldr (fun byte n => byte.toNat + 2 ^ 8 * n) 0 = n := by
    simp only [List.foldr_cons, List.foldr_nil, UInt8.toNat_ofNat']
    omega
  cases endianness with
  | little => exact hlow
  | big =>
      simp only [value, bytes, List.reverse_reverse]
      exact hlow

end Endianness

/-- A type of protobuf messages. Parsing undoes serializing, and only the default message may be
serialized to nothing. -/
structure Protobuf where
  Message : Type
  default : Message
  serializeToArray : Message → Bytes
  parseFromArray : Bytes → Option Message
  parse_serialize : ∀ message, parseFromArray (serializeToArray message) = some message
  default_of_empty : ∀ message, serializeToArray message = [] → message = default

/-- A message together with its type. -/
structure Packet where
  protobuf : Protobuf
  message : protobuf.Message

namespace Packet

def content (p : Packet) : Bytes := p.protobuf.serializeToArray p.message

def size (p : Packet) : Nat := p.content.length

end Packet

/-- `SerializeToArray` refuses contents that protobuf cannot handle. -/
def maxSerializedSize : Nat := 2 ^ 31

def maxContentSize : Nat := 16777216

def writeMessage (endianness : Endianness) (sends : Nat → SendResult) (socket : TcpSocket) (p : Packet)
    (stream : Bytes) (calls : Nat) : Except Error (Bytes × Nat) :=
  let contentSize := p.size % 2 ^ 32
  rsgEnforce (p.size ≤ contentSize ∧ p.size < maxSerializedSize)
    "Could not serialize Protobuf message" <|
  socket.sendAll sends (endianness.bytes contentSize ++ p.content) stream calls

/-- `read_message` into a fresh message. -/
def readMessage (endianness : Endianness) (recvs : Nat → RecvResult) (socket : TcpSocket)
    (protobuf : Protobuf) (stream : Bytes) (calls : Nat) : Received Packet :=
  (socket.recvAll recvs 4 stream calls).bind fun header socket stream calls =>
  let contentSize := endianness.value header
  if contentSize < maxContentSize then
    if 0 < contentSize then
      (socket.recvAll recvs contentSize stream calls).bind fun content socket stream calls =>
      match protobuf.parseFromArray content with
      | some message => .got ⟨protobuf, message⟩ socket stream calls
      | none =>
          .raised socket
            ⟨s!"Could not deserialize Protobuf message of content_size={contentSize}"⟩
    else .got ⟨protobuf, protobuf.default⟩ socket stream calls
  else
    .raised socket ⟨s!"Read invalid message content size ({contentSize}). " ++
      s!"Expected it to be in [0,{maxContentSize}]"⟩

/-- The messages of one end, written one after the other. -/
def writeMessages (endianness : Endianness) (sends : Nat → SendResult) (socket : TcpSocket) :
    List Packet → Bytes → Nat → Except Error (Bytes × Nat)
  | [], stream, calls => .ok (stream, calls)
  | p :: packets, stream, calls =>
      match writeMessage endianness sends socket p stream calls with
      | .error e => .error e
      | .ok (stream, calls) => writeMessages endianness sends socket packets stream calls

/-- As many reads as there are types given, each with the number of bytes that it consumes. -/
def readMessages (endianness : Endianness) (recvs : Nat → RecvResult) :
    TcpSocket → List Protobuf → Bytes → Nat → Received (List (Packet × Nat))
  | socket, [], stream, calls => .got [] socket stream calls
  | socket, protobuf :: protobufs, stream, calls =>
      (readMessage endianness recvs socket protobuf stream calls).bind fun p socket stream' calls =>
      (readMessages endianness recvs socket protobufs stream' calls).bind
        fun packets socket stream'' calls =>
          .got ((p, stream.length - stream'.length) :: packets) socket stream'' calls

/-! ### Round trip -/

namespace Packet

/-- The header and the content of a message. -/
def frame (endianness : Endianness) (p : Packet) : Bytes := endianness.bytes p.size ++ p.content

theorem length_frame (endianness : Endianness) (p : Packet) :
    (p.frame endianness).length = 4 + p.size := by
  rw [frame, List.length_append, endianness.length_bytes, size]

end Packet

section

variable (endianness : Endianness) {sends : Nat → SendResult} {recvs : Nat → RecvResult}
  {socket : TcpSocket}

theorem writeMessage_reliable (hsends : ∀ call, ∃ size, sends call = .accepted size)
    (hsocket : socket.Usable) {p : Packet} (hp : p.size < maxContentSize) (stream : Bytes)
    (calls : Nat) :
    ∃ calls', writeMessage endianness sends socket p stream calls =
      .ok (stream ++ p.frame endianness, calls') := by
  have hsize : p.size % 2 ^ 32 = p.size := by
    unfold maxContentSize at hp
    omega
  have hserialized : p.size < maxSerializedSize := by
    unfold maxContentSize at hp
    unfold maxSerializedSize
    omega
  obtain ⟨calls', hsend⟩ := TcpSocket.sendAll_reliable hsends hsocket (p.frame endianness) stream calls
  refine ⟨calls', ?_⟩
  simp only [writeMessage, hsize]
  rw [rsgEnforce_eq_ok]
  exact ⟨⟨le_rfl, hserialized⟩, hsend⟩

theorem writeMessages_reliable (hsends : ∀ call, ∃ size, sends call = .accepted size)
    (hsocket : socket.Usable) {packets : List Packet} (hsizes : ∀ p ∈ packets, p.size < maxContentSize)
    (stream : Bytes) (calls : Nat) :
    ∃ calls', writeMessages endianness sends socket packets stream calls =
      .ok (stream ++ packets.flatMap (·.frame endianness), calls') := by
  induction packets generalizing stream calls with
  | nil =>
      rw [List.flatMap_nil, List.append_nil]
      exact ⟨calls, rfl⟩
  | cons p packets ih =>
      obtain ⟨calls₁, hfirst⟩ := writeMessage_reliable endianness hsends hsocket
        (hsizes p List.mem_cons_self) stream calls
      obtain ⟨calls₂, hrest⟩ := ih (fun q hq => hsizes q (List.mem_cons_of_mem p hq))
        (stream ++ p.frame endianness) calls₁
      refine ⟨calls₂, ?_⟩
      rw [List.flatMap_cons, ← List.append_assoc]
      simp only [writeMessages, hfirst, hrest]

/-- A message is read off the front of the stream, and nothing more. -/
theorem readMessage_reliable (hrecvs : ∀ call, ∃ size, recvs call = .delivered size)
    (hsocket : socket.Usable) {p : Packet} (hp : p.size < maxContentSize) (rest : Bytes)
    (calls : Nat) :
    ∃ calls', readMessage endianness recvs socket p.protobuf (p.frame endianness ++ rest) calls =
      .got p socket rest calls' := by
  have hvalue : endianness.value (endianness.bytes p.size) = p.size := by
    unfold maxContentSize at hp
    exact endianness.value_bytes (by omega)
  obtain ⟨calls₁, hheader⟩ := TcpSocket.recvAll_reliable hrecvs hsocket (endianness.bytes p.size)
    (p.content ++ rest) calls
  rw [endianness.length_bytes, ← List.append_assoc] at hheader
  by_cases hempty : p.size = 0
  · have hcontent : p.content = [] := List.length_eq_zero_iff.mp hempty
    have hdefault : p.message = p.protobuf.default := p.protobuf.default_of_empty p.message hcontent
    refine ⟨calls₁, ?_⟩
    rw [readMessage, Packet.frame, hheader, Received.got_bind]
    simp only [hvalue, if_pos hp, if_neg (Nat.not_lt.mpr (Nat.le_of_eq hempty))]
    rw [hcontent, List.nil_append, ← hdefault]
  · obtain ⟨calls₂, hcontent⟩ := TcpSocket.recvAll_reliable hrecvs hsocket p.content rest calls₁
    refine ⟨calls₂, ?_⟩
    have hparse : p.protobuf.parseFromArray p.content = some p.message :=
      p.protobuf.parse_serialize p.message
    rw [readMessage, Packet.frame, hheader, Received.got_bind]
    simp only [hvalue, if_pos hp, if_pos (Nat.pos_of_ne_zero hempty)]
    rw [show p.size = p.content.length from rfl, hcontent, Received.got_bind, hparse]

/-- What one end writes with `write_message`, the other end reads with as many `read_message`, in
order, however the system cuts the stream; each read consumes just the frame of its message. -/
theorem messages_round_trip (endianness : Endianness) {sends : Nat → SendResult}
    {recvs : Nat → RecvResult} (hsends : ∀ call, ∃ size, sends call = .accepted size)
    (hrecvs : ∀ call, ∃ size, recvs call = .delivered size) {writer reader : TcpSocket}
    (hwriter : writer.Usable) (hreader : reader.Usable) {packets : List Packet}
    (hsizes : ∀ p ∈ packets, p.size < maxContentSize) (rest : Bytes) :
    ∃ stream sent received,
      writeMessages endianness sends writer packets [] 0 = .ok (stream, sent) ∧
      readMessages endianness recvs reader (packets.map (·.protobuf)) (stream ++ rest) 0 =
        .got (packets.map fun p => (p, 4 + p.size)) reader rest received := by
  have hread : ∀ {packets : List Packet}, (∀ p ∈ packets, p.size < maxContentSize) → ∀ calls,
      ∃ calls', readMessages endianness recvs reader (packets.map (·.protobuf))
        (packets.flatMap (·.frame endianness) ++ rest) calls =
          .got (packets.map fun p => (p, 4 + p.size)) reader rest calls' := by
    intro packets
    induction packets with
    | nil => exact fun _ calls => ⟨calls, rfl⟩
    | cons p packets ih =>
        intro hsizes calls
        obtain ⟨calls₁, hfirst⟩ := readMessage_reliable endianness hrecvs hreader
          (hsizes p List.mem_cons_self) (packets.flatMap (·.frame endianness) ++ rest) calls
        obtain ⟨calls₂, hrest⟩ := ih (fun q hq => hsizes q (List.mem_cons_of_mem p hq)) calls₁
        refine ⟨calls₂, ?_⟩
        rw [List.flatMap_cons, List.append_assoc, List.map_cons, readMessages, hfirst,
          Received.got_bind, hrest, Received.got_bind, List.map_cons, List.length_append,
          p.length_frame]
        simp only [Nat.add_sub_cancel]
  obtain ⟨sent, hwrite⟩ := writeMessages_reliable endianness hsends hwriter hsizes [] 0
  obtain ⟨received, hreceived⟩ := hread hsizes 0
  exact ⟨_, sent, received, hwrite, hreceived⟩

/-- A message with one field, `bool value = 1`. -/
def flagProtobuf : Protobuf where
  Message := Bool
  default := false
  serializeToArray value := if value then [8, 1] else []
  parseFromArray bytes := if bytes = [8, 1] then some true else if bytes = [] then some false else none
  parse_serialize value := by cases value <;> rfl
  default_of_empty value h := by
    cases value
    · rfl
    · cases h

/-- Three messages, one of them empty, sent byte by byte and received in threes. -/
theorem messages_round_trip_flags :
    ∃ stream sent received,
      writeMessages .big (fun _ => .accepted 1) (.accepted 7)
        [⟨flagProtobuf, true⟩, ⟨flagProtobuf, false⟩, ⟨flagProtobuf, true⟩] [] 0 =
          .ok (stream, sent) ∧
      readMessages .big (fun _ => .delivered 3) (.accepted 9)
        [flagProtobuf, flagProtobuf, flagProtobuf] (stream ++ [42]) 0 =
          .got [(⟨flagProtobuf, true⟩, 6), (⟨flagProtobuf, false⟩, 4), (⟨flagProtobuf, true⟩, 6)]
            (.accepted 9) [42] received :=
  messages_round_trip .big (fun _ => ⟨1, rfl⟩) (fun _ => ⟨3, rfl⟩) ⟨by decide, rfl⟩ ⟨by decide, rfl⟩
    (by decide) [42]

end

end RemoteSimgrid
