import RemoteSimgrid.Interthread
import RemoteSimgrid.Messages

/-! `rsg::TcpSocket`, with the loops of `send_all` and `recv_all`. The system calls are parameters: what
the calls return, one after the other, and the bytes of the stream. -/

namespace RemoteSimgrid

structure TcpSocket where
  fd : Int := -1
  fdBeforeClose : Int := -1
  connected : Bool := false
  deriving DecidableEq, Repr

/-- What `::send` returns: how much of the buffer the system takes, or -1. -/
inductive SendResult where
  | accepted (size : Nat)
  | failed (errno : String)
  deriving DecidableEq, Repr

/-- What `::recv` returns: how much of the stream the system delivers, 0 or -1. -/
inductive RecvResult where
  | delivered (size : Nat)
  | closed
  | failed (errno : String)
  deriving DecidableEq, Repr

/-- The outcome of a read: a value, with the stream that remains and the number of calls of `::recv`
made so far, a call that blocks for ever, or an error. -/
inductive Received (α : Type*) where
  | got (value : α) (socket : TcpSocket) (stream : Bytes) (calls : Nat)
  | blocked
  | raised (socket : TcpSocket) (error : Error)

namespace Received

variable {α β : Type*}

def bind (r : Received α) (next : α → TcpSocket → Bytes → Nat → Received β) : Received β :=
  match r with
  | got value socket stream calls => next value socket stream calls
  | blocked => blocked
  | raised socket error => raised socket error

@[simp] theorem got_bind (value : α) (socket : TcpSocket) (stream : Bytes) (calls : Nat)
    (next : α → TcpSocket → Bytes → Nat → Received β) :
    (got value socket stream calls).bind next = next value socket stream calls := rfl

end Received

/-- A non-empty part of something that is not empty. -/
def piece (size limit : Nat) : Nat := max 1 (min size limit)

theorem piece_pos (size limit : Nat) : 0 < piece size limit := by
  unfold piece
  omega

theorem piece_le {size limit : Nat} (h : 0 < limit) : piece size limit ≤ limit := by
  unfold piece
  omega

namespace TcpSocket

/-- A socket made of an accepted descriptor. -/
def accepted (fd : Int) : TcpSocket := { fd := fd, connected := true }

/-- `close`, where `::close` succeeds. -/
def close (s : TcpSocket) : TcpSocket :=
  if s.fd = -1 then { s with connected := false }
  else { fd := -1, fdBeforeClose := s.fd, connected := false }

/-- What `send_all` and `recv_all` assert. -/
structure Usable (s : TcpSocket) : Prop where
  fd : s.fd ≠ -1
  connected : s.connected = true

/-- The loop of `send_all`: the bytes it puts on the stream. -/
def sendLoop (sends : Nat → SendResult) (buffer stream : Bytes) (calls : Nat) :
    Except Error (Bytes × Nat) :=
  if buffer.length = 0 then .ok (stream, calls)
  else
    match sends calls with
    | .failed errno => .error ⟨s!"Could not send: {errno}"⟩
    | .accepted size =>
        let sent := piece size buffer.length
        sendLoop sends (buffer.drop sent) (stream ++ buffer.take sent) (calls + 1)
termination_by buffer.length
decreasing_by
  rw [List.length_drop]
  have hpos := piece_pos size buffer.length
  omega

def sendAll (sends : Nat → SendResult) (s : TcpSocket) (buffer stream : Bytes) (calls : Nat) :
    Except Error (Bytes × Nat) :=
  rsgEnforce (s.fd ≠ -1) "Wrong TcpSocket::send_all call: Invalid socket" <|
  rsgEnforce (s.connected = true) "Wrong TcpSocket::send_all call: Not connected" <|
  sendLoop sends buffer stream calls

/-- The loop of `recv_all`. The end of the stream closes the socket. -/
def recvLoop (recvs : Nat → RecvResult) (s : TcpSocket) (size : Nat) (stream : Bytes) (calls : Nat) :
    Received Bytes :=
  if size = 0 then .got [] s stream calls
  else
    match recvs calls with
    | .failed errno => .raised s ⟨s!"could not recv: {errno}"⟩
    | .closed => .raised s.close ⟨"Connection lost"⟩
    | .delivered wanted =>
        if stream.length = 0 then .blocked
        else
          let received := piece wanted (min size stream.length)
          (recvLoop recvs s (size - received) (stream.drop received) (calls + 1)).bind
            fun buffer s stream' calls => .got (stream.take received ++ buffer) s stream' calls
termination_by size
decreasing_by
  have hpos := piece_pos wanted (min size stream.length)
  omega

def recvAll (recvs : Nat → RecvResult) (s : TcpSocket) (size : Nat) (stream : Bytes) (calls : Nat) :
    Received Bytes :=
  if s.fd = -1 then .raised s ⟨"Wrong TcpSocket::recv_all call: Invalid socket"⟩
  else if s.connected = false then .raised s ⟨"Wrong TcpSocket::recv_all call: Not connected"⟩
  else recvLoop recvs s size stream calls

/-- A single `::recv`, which delivers at most as much as is asked for. -/
def recv (recvs : Nat → RecvResult) (s : TcpSocket) (size : Nat) (stream : Bytes) (calls : Nat) :
    Received Bytes :=
  if s.fd = -1 then .raised s ⟨"Wrong TcpSocket::recv call: Invalid socket"⟩
  else if s.connected = false then .raised s ⟨"Wrong TcpSocket::recv call: Not connected"⟩
  else
    match recvs calls with
    | .failed errno => .raised s ⟨s!"Could not recv: {errno}"⟩
    | .closed => .raised s.close ⟨"Connection lost"⟩
    | .delivered wanted =>
        -- asked for nothing, the system returns 0
        if size = 0 then .raised s.close ⟨"Connection lost"⟩
        else if stream.length = 0 then .blocked
        else
          let received := piece wanted (min size stream.length)
          .got (stream.take received) s (stream.drop received) (calls + 1)

/-- The loop of `recv_all` makes the calls of `recv`, one after the other. -/
theorem recv_cases {recvs : Nat → RecvResult} {s : TcpSocket} (hs : s.Usable) {size : Nat}
    (hsize : 0 < size) (stream : Bytes) (calls : Nat) :
    (∃ s' e e', s.recv recvs size stream calls = .raised s' e ∧
      s.recvLoop recvs size stream calls = .raised s' e') ∨
    (s.recv recvs size stream calls = .blocked ∧ s.recvLoop recvs size stream calls = .blocked) ∨
    ∃ part rest, stream = part ++ rest ∧ 0 < part.length ∧ part.length ≤ size ∧
      s.recv recvs size stream calls = .got part s rest (calls + 1) ∧
      s.recvLoop recvs size stream calls =
        (s.recvLoop recvs (size - part.length) rest (calls + 1)).bind
          fun tail s stream calls => .got (part ++ tail) s stream calls := by
  unfold recv
  rw [recvLoop, if_neg hs.fd, if_neg (by rw [hs.connected]; decide), if_neg (Nat.ne_of_gt hsize)]
  cases recvs calls with
  | failed errno => exact Or.inl ⟨s, _, _, rfl, rfl⟩
  | closed => exact Or.inl ⟨s.close, _, _, rfl, rfl⟩
  | delivered wanted =>
      refine Or.inr ?_
      simp only [if_neg (Nat.ne_of_gt hsize)]
      by_cases hstream : stream.length = 0
      · exact Or.inl ⟨if_pos hstream, if_pos hstream⟩
      · have hlimit : 0 < min size stream.length := by omega
        have hpos := piece_pos wanted (min size stream.length)
        have hle : piece wanted (min size stream.length) ≤ _ := piece_le hlimit
        have hlength : (stream.take (piece wanted (min size stream.length))).length =
            piece wanted (min size stream.length) := by
          rw [List.length_take]
          omega
        refine Or.inr ⟨_, _, (List.take_append_drop _ _).symm, ?_, ?_, if_neg hstream, ?_⟩
        · rw [hlength]
          exact hpos
        · rw [hlength]
          omega
        · rw [if_neg hstream, hlength]

/-! ### Reliable streams -/

section

variable {sends : Nat → SendResult} {recvs : Nat → RecvResult}

/-- However the system takes the bytes, the whole buffer gets on the stream. -/
theorem sendLoop_reliable (hsends : ∀ call, ∃ size, sends call = .accepted size)
    (buffer stream : Bytes) (calls : Nat) :
    ∃ calls', sendLoop sends buffer stream calls = .ok (stream ++ buffer, calls') := by
  induction hlength : buffer.length using Nat.strong_induction_on generalizing buffer stream calls with
  | _ length ih =>
      unfold sendLoop
      by_cases hempty : buffer.length = 0
      · rw [if_pos hempty, List.length_eq_zero_iff.mp hempty, List.append_nil]
        exact ⟨calls, rfl⟩
      · obtain ⟨size, hsize⟩ := hsends calls
        rw [if_neg hempty, hsize]
        have hpos := piece_pos size buffer.length
        have hshorter : (buffer.drop (piece size buffer.length)).length < length := by
          rw [List.length_drop]
          omega
        obtain ⟨calls', hrest⟩ := ih _ hshorter (buffer.drop (piece size buffer.length))
          (stream ++ buffer.take (piece size buffer.length)) (calls + 1) rfl
        refine ⟨calls', ?_⟩
        simp only [hrest, List.append_assoc, List.take_append_drop]

theorem sendAll_reliable (hsends : ∀ call, ∃ size, sends call = .accepted size) {s : TcpSocket}
    (hs : s.Usable) (buffer stream : Bytes) (calls : Nat) :
    ∃ calls', s.sendAll sends buffer stream calls = .ok (stream ++ buffer, calls') := by
  obtain ⟨calls', hloop⟩ := sendLoop_reliable hsends buffer stream calls
  refine ⟨calls', ?_⟩
  unfold sendAll
  rw [rsgEnforce_eq_ok, rsgEnforce_eq_ok]
  exact ⟨hs.fd, hs.connected, hloop⟩

/-- However the system delivers the bytes, exactly those asked for are read, and the rest stays. -/
theorem recvLoop_reliable (hrecvs : ∀ call, ∃ size, recvs call = .delivered size) (s : TcpSocket)
    (buffer rest : Bytes) (calls : Nat) :
    ∃ calls', s.recvLoop recvs buffer.length (buffer ++ rest) calls = .got buffer s rest calls' := by
  induction hlength : buffer.length using Nat.strong_induction_on generalizing buffer calls with
  | _ length ih =>
      unfold recvLoop
      by_cases hempty : length = 0
      · rw [if_pos hempty]
        rw [hempty] at hlength
        rw [List.length_eq_zero_iff.mp hlength]
        exact ⟨calls, rfl⟩
      · obtain ⟨size, hsize⟩ := hrecvs calls
        have hstream : ¬(buffer ++ rest).length = 0 := by
          rw [List.length_append]
          omega
        rw [if_neg hempty, hsize]
        simp only [if_neg hstream]
        generalize hreceived : piece size (min length (buffer ++ rest).length) = received
        have hpos : 0 < received := hreceived ▸ piece_pos _ _
        have hle : received ≤ buffer.length := by
          have hlimit : 0 < min length (buffer ++ rest).length := by omega
          have hpiece : piece size (min length (buffer ++ rest).length) ≤ _ := piece_le hlimit
          omega
        have hshorter : (buffer.drop received).length = length - received := by
          rw [List.length_drop, hlength]
        obtain ⟨calls', hrest⟩ := ih (length - received) (by omega) (buffer.drop received) (calls + 1)
          hshorter
        refine ⟨calls', ?_⟩
        rw [List.drop_append_of_le_length hle, List.take_append_of_le_length hle, hrest,
          Received.got_bind, List.take_append_drop]

theorem recvAll_reliable (hrecvs : ∀ call, ∃ size, recvs call = .delivered size) {s : TcpSocket}
    (hs : s.Usable) (buffer rest : Bytes) (calls : Nat) :
    ∃ calls', s.recvAll recvs buffer.length (buffer ++ rest) calls = .got buffer s rest calls' := by
  unfold recvAll
  rw [if_neg hs.fd, if_neg (by rw [hs.connected]; decide)]
  exact recvLoop_reliable hrecvs s buffer rest calls

end

end TcpSocket

end RemoteSimgrid
