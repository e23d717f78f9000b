import Mathlib.Algebra.GroupWithZero.Nat
import RemoteSimgrid.LibraryMachine
import RemoteSimgrid.ServeBarelyConnected

/-! The loops of `send_all` and `recv_all`, system call by system call: the windows of the buffer that the
system is given, what it answers, and the `close` at the end of a stream. -/

namespace RemoteSimgrid

open Machine

/-- The value of a `size_t`. -/
def sizeT (n : Int) : Nat := (n % 2 ^ 64).toNat

/-- The system calls of a socket, with the window of the buffer that they are given. -/
inductive SystemCall where
  | send (fd : Int) (offset length : Nat)
  | recv (fd : Int) (offset length : Nat)
  | close (fd : Int)
  deriving DecidableEq

/-- The window is not empty and inside of a buffer. -/
def SystemCall.Inside (size : Nat) : SystemCall → Prop
  | send _ offset length => 0 < length ∧ offset + length ≤ size
  | recv _ offset length => 0 < length ∧ offset + length ≤ size
  | close _ => True

/-- Where a loop is: in front of a call, with what `sent` or `recv` counts, or past its end. -/
inductive TransferPoint where
  | calling (count : Nat)
  | returned
  | raised (error : Error)
  deriving DecidableEq

/-- The condition of a loop over `size` bytes. -/
def TransferPoint.next (size count : Nat) : TransferPoint :=
  if count < size then .calling count else .returned

/-! ### The loop of `send_all` -/

/-- What `::send` returns. -/
def SendResult.bytesSent : SendResult → Int
  | accepted size => size
  | failed _ => -1

/-- `::send` takes at least one byte of those it is given, or fails. -/
def SendResult.Allowed (length : Nat) : SendResult → Prop
  | accepted size => 1 ≤ size ∧ size ≤ length
  | failed _ => True

instance (length : Nat) (result : SendResult) : Decidable (result.Allowed length) :=
  match result with
  | .accepted size => inferInstanceAs (Decidable (1 ≤ size ∧ size ≤ length))
  | .failed _ => .isTrue trivial

/-- `send_all` and the bytes that the system has taken. -/
structure SendAll where
  point : TransferPoint
  stream : Bytes := []
  deriving DecidableEq

namespace TcpSocket

def sendAllStart (s : TcpSocket) (buffer : Bytes) : SendAll :=
  if s.fd = -1 then
    { point := .raised ⟨"Wrong TcpSocket::send_all call: Invalid socket"⟩ }
  else if s.connected = false then
    { point := .raised ⟨"Wrong TcpSocket::send_all call: Not connected"⟩ }
  else { point := .next buffer.length 0 }

/-- One iteration of the loop. The counter is advanced before the error check. -/
def sendAllStep (s : TcpSocket) (buffer : Bytes) (t : SendAll) (result : SendResult) :
    Option (SendAll × List SystemCall) :=
  match t.point with
  | .calling sent =>
      let remainingSize := sizeT (buffer.length - sent)
      if result.Allowed remainingSize then
        let bytesSent := result.bytesSent
        let sentAfter := sizeT (sent + bytesSent)
        let point :=
          match result with
          | .failed errno => .raised ⟨s!"Could not send: {errno}"⟩
          | .accepted _ => .next buffer.length sentAfter
        some ({ point := point
                stream := t.stream ++ (buffer.drop sent).take bytesSent.toNat },
          [.send s.fd sent remainingSize])
      else none
  | _ => none

end TcpSocket

/-- How many bytes the system has taken. -/
def sentBytes (results : List SendResult) : Nat := (results.map fun r => r.bytesSent.toNat).sum

/-- No `::send` has failed. -/
def AllAccepted (results : List SendResult) : Prop := ∀ r ∈ results, r.bytesSent ≠ -1

theorem sentBytes_snoc (results : List SendResult) (result : SendResult) :
    sentBytes (results ++ [result]) = sentBytes results + result.bytesSent.toNat := by
  simp [sentBytes]

/-- What `send_all` has done after some calls. -/
inductive SendAllRan (s : TcpSocket) (buffer : Bytes) : List SendResult → SendAll → Prop
  | refused {t e} : ¬s.Usable → t.point = .raised e → t.stream = [] → SendAllRan s buffer [] t
  | sent {results t} : s.Usable → AllAccepted results → results.length ≤ sentBytes results →
      sentBytes results ≤ buffer.length → t.point = .next buffer.length (sentBytes results) →
      t.stream = buffer.take (sentBytes results) → SendAllRan s buffer results t
  | failed {results t errno} : s.Usable → AllAccepted results →
      results.length ≤ sentBytes results → sentBytes results < buffer.length →
      t.point = .raised ⟨s!"Could not send: {errno}"⟩ →
      t.stream = buffer.take (sentBytes results) →
      SendAllRan s buffer (results ++ [.failed errno]) t

section

variable {s : TcpSocket} {buffer : Bytes} {results : List SendResult} {t u : SendAll}
  {result : SendResult} {calls : List SystemCall}

theorem sendAllStart_ran : SendAllRan s buffer [] (s.sendAllStart buffer) := by
  unfold TcpSocket.sendAllStart
  by_cases hfd : s.fd = -1
  · rw [if_pos hfd]
    exact .refused (fun h => h.fd hfd) rfl rfl
  · by_cases hconnected : s.connected = false
    · rw [if_neg hfd, if_pos hconnected]
      exact .refused (fun h => by rw [h.connected] at hconnected; cases hconnected) rfl rfl
    · rw [if_neg hfd, if_neg hconnected]
      rw [Bool.not_eq_false] at hconnected
      exact .sent ⟨hfd, hconnected⟩ (List.forall_mem_nil _) le_rfl (Nat.zero_le _) rfl rfl

/-- The state in front of a call. -/
theorem SendAllRan.calling (h : SendAllRan s buffer results t) {sent : Nat}
    (hpoint : t.point = .calling sent) :
    s.Usable ∧ AllAccepted results ∧ results.length ≤ sent ∧ sent < buffer.length ∧
      sent = sentBytes results ∧ t.stream = buffer.take sent := by
  cases h with
  | refused _ hraised _ => rw [hraised] at hpoint; cases hpoint
  | failed _ _ _ _ hraised _ => rw [hraised] at hpoint; cases hpoint
  | sent hs hall hlength hle hnext hstream =>
      rw [hnext, TransferPoint.next] at hpoint
      split at hpoint
      · rename_i hlt
        cases hpoint
        exact ⟨hs, hall, hlength, hlt, rfl, hstream⟩
      · cases hpoint

theorem take_append_window {buffer : Bytes} (count size : Nat) :
    buffer.take count ++ (buffer.drop count).take size = buffer.take (count + size) := by
  rw [List.take_add]

/-- One call: its window is the rest of the buffer, and what it takes is the next part of it. -/
theorem SendAllRan.step (h : SendAllRan s buffer results t) (hsize : buffer.length < 2 ^ 64)
    (hstep : s.sendAllStep buffer t result = some (u, calls)) :
    SendAllRan s buffer (results ++ [result]) u ∧ ∀ call ∈ calls, call.Inside buffer.length := by
  unfold TcpSocket.sendAllStep at hstep
  split at hstep
  · rename_i sent hpoint
    obtain ⟨hs, hall, hlength, hlt, hsent, hstream⟩ := h.calling hpoint
    have hremaining : sizeT (buffer.length - sent) = buffer.length - sent := by
      unfold sizeT
      omega
    dsimp only at hstep
    rw [hremaining] at hstep
    split at hstep
    · rename_i hallowed
      cases hstep
      refine ⟨?_, List.forall_mem_singleton.mpr ⟨by omega, by omega⟩⟩
      cases result with
      | failed errno =>
          rw [hsent] at hlength hlt
          refine .failed hs hall hlength hlt rfl ?_
          rw [hstream, hsent]
          simp [SendResult.bytesSent]
      | accepted size =>
          obtain ⟨hpos, hle⟩ := hallowed
          have htotal : sentBytes (results ++ [.accepted size]) = sent + size := by
            rw [sentBytes_snoc, hsent]
            rfl
          have hcount : sizeT (sent + (SendResult.accepted size).bytesSent) = sent + size := by
            simp only [SendResult.bytesSent, sizeT]
            omega
          refine .sent hs ?_ ?_ ?_ ?_ ?_
          · intro r hr
            rcases List.mem_append.mp hr with hr | hr
            · exact hall r hr
            · rw [List.mem_singleton.mp hr, SendResult.bytesSent]
              omega
          · rw [htotal, List.length_append, List.length_singleton]
            omega
          · rw [htotal]
            omega
          · rw [htotal, ← hcount]
          · rw [htotal, hstream]
            exact take_append_window sent size
    · cases hstep
  · cases hstep

/-- The calls of `send_all` up to now. -/
structure SendAllSpec (s : TcpSocket) (buffer : Bytes) (results : List SendResult) (t : SendAll)
    (calls : List SystemCall) : Prop where
  inside : ∀ call ∈ calls, call.Inside buffer.length
  ends : results.length ≤ buffer.length
  continues : ∀ sent, t.point = .calling sent → ∀ result : SendResult,
    result.Allowed (buffer.length - sent) → ∃ next, s.sendAllStep buffer t result = some next
  returned : t.point = .returned ↔
    s.Usable ∧ AllAccepted results ∧ sentBytes results = buffer.length
  raised : (∃ e, t.point = .raised e) ↔ ¬s.Usable ∨ ¬AllAccepted results
  stream : t.stream = buffer.take (sentBytes results)

theorem not_allAccepted_snoc {errno : String} : ¬AllAccepted (results ++ [.failed errno]) :=
  fun h => h (.failed errno) (List.mem_append_right _ (List.mem_singleton_self _)) rfl

theorem SendAllRan.spec (h : SendAllRan s buffer results t) (hsize : buffer.length < 2 ^ 64)
    (hcalls : ∀ call ∈ calls, call.Inside buffer.length) :
    SendAllSpec s buffer results t calls := by
  have hcontinues : ∀ sent, t.point = .calling sent → ∀ result : SendResult,
      result.Allowed (buffer.length - sent) →
      ∃ next, s.sendAllStep buffer t result = some next := by
    intro sent hpoint result hallowed
    obtain ⟨-, -, -, hlt, -, -⟩ := h.calling hpoint
    have hremaining : sizeT (buffer.length - sent) = buffer.length - sent := by
      unfold sizeT
      omega
    simp only [TcpSocket.sendAllStep, hpoint, hremaining, if_pos hallowed]
    exact ⟨_, rfl⟩
  cases h with
  | refused hs hraised hstream =>
      exact
        { inside := hcalls
          ends := Nat.zero_le _
          continues := hcontinues
          returned := ⟨(fun hp => by rw [hraised] at hp; cases hp), fun hp => absurd hp.1 hs⟩
          raised := ⟨fun _ => Or.inl hs, fun _ => ⟨_, hraised⟩⟩
          stream := hstream }
  | sent hs hall hlength hle hpoint hstream =>
      refine
        { inside := hcalls
          ends := hlength.trans hle
          continues := hcontinues
          returned := ⟨fun hp => ⟨hs, hall, ?_⟩, fun hp => ?_⟩
          raised := ⟨fun hp => ?_, fun hp => absurd hall (hp.resolve_left fun hnot => hnot hs)⟩
          stream := hstream }
      · rw [hpoint, TransferPoint.next] at hp
        split at hp
        · cases hp
        · omega
      · rw [hpoint, TransferPoint.next, if_neg (by rw [hp.2.2]; exact lt_irrefl _)]
      · obtain ⟨e, hp⟩ := hp
        rw [hpoint, TransferPoint.next] at hp
        split at hp <;> cases hp
  | @failed results' _ errno hs hall hlength hlt hraised hstream =>
      have htotal : sentBytes (results' ++ [.failed errno]) = sentBytes results' := by
        rw [sentBytes_snoc, SendResult.bytesSent]
        rfl
      exact
        { inside := hcalls
          ends := by
            rw [List.length_append, List.length_singleton]
            omega
          continues := hcontinues
          returned := ⟨(fun hp => by rw [hraised] at hp; cases hp),
            fun hp => absurd hp.2.1 not_allAccepted_snoc⟩
          raised := ⟨fun _ => Or.inr not_allAccepted_snoc, fun _ => ⟨_, hraised⟩⟩
          stream := by rw [hstream, htotal] }

theorem sendAll_ran (hsize : buffer.length < 2 ^ 64)
    (hrun : Run (s.sendAllStep buffer) (s.sendAllStart buffer) results t calls) :
    SendAllRan s buffer results t ∧ ∀ call ∈ calls, call.Inside buffer.length := by
  induction hrun with
  | nil => exact ⟨sendAllStart_ran, List.forall_mem_nil _⟩
  | snoc _ hstep ih =>
      obtain ⟨hran, hcalls⟩ := ih
      obtain ⟨hran', hout⟩ := hran.step hsize hstep
      exact ⟨hran', List.forall_mem_append.mpr ⟨hcalls, hout⟩⟩

end

/-! ### The loop of `recv_all` -/

/-- What `::recv` returns and, at the end of the stream, what `::close` returns: 0, or -1 with `errno`. -/
inductive RecvAnswer where
  | data (bytes : Bytes)
  | closed (close : Option String)
  | failed (errno : String)
  deriving DecidableEq

def RecvAnswer.bytesRecv : RecvAnswer → Int
  | data bytes => bytes.length
  | closed _ => 0
  | failed _ => -1

/-- `::recv` delivers no more than is asked for, or reports the end of the stream, or fails. -/
def RecvAnswer.Allowed (length : Nat) : RecvAnswer → Prop
  | data bytes => 1 ≤ bytes.length ∧ bytes.length ≤ length
  | closed _ => True
  | failed _ => True

instance (length : Nat) (answer : RecvAnswer) : Decidable (answer.Allowed length) :=
  match answer with
  | .data bytes => inferInstanceAs (Decidable (1 ≤ bytes.length ∧ bytes.length ≤ length))
  | .closed _ => .isTrue trivial
  | .failed _ => .isTrue trivial

/-- `recv_all`, with the buffer that it fills. -/
structure RecvAll where
  point : TransferPoint
  socket : TcpSocket
  buffer : Bytes
  deriving DecidableEq

namespace TcpSocket

/-- `close`, with the call that it makes and what `::close` returns. -/
def closeWith (s : TcpSocket) (result : Option String) :
    TcpSocket × Except Error Unit × List SystemCall :=
  let s := { s with connected := false }
  if s.fd = -1 then (s, .ok (), [])
  else
    match result with
    | some errno => (s, .error ⟨s!"Cannot close: {errno}\n"⟩, [.close s.fd])
    | none => ({ s with fd := -1, fdBeforeClose := s.fd }, .ok (), [.close s.fd])

/-- The block that closes the socket and throws. Its handler catches what it throws, whether that comes
from `close` or from behind it, and throws again. -/
def connectionLost (s : TcpSocket) (result : Option String) :
    TcpSocket × Error × List SystemCall :=
  let (socket, closed, calls) := s.closeWith result
  let thrown : Error :=
    match closed with
    | .error e => e
    | .ok () => ⟨"Connection lost"⟩
  let handler := fun _ : Error => (⟨"Connection lost"⟩ : Error)
  (socket, handler thrown, calls)

def recvAllStart (s : TcpSocket) (buffer : Bytes) : RecvAll :=
  let point :=
    if s.fd = -1 then .raised ⟨"Wrong TcpSocket::recv_all call: Invalid socket"⟩
    else if s.connected = false then .raised ⟨"Wrong TcpSocket::recv_all call: Not connected"⟩
    else .next buffer.length 0
  { point := point, socket := s, buffer := buffer }

/-- One iteration of the loop. The counter is advanced before the error check. -/
def recvAllStep (t : RecvAll) (answer : RecvAnswer) : Option (RecvAll × List SystemCall) :=
  match t.point with
  | .calling received =>
      let remainingSize := sizeT (t.buffer.length - received)
      if answer.Allowed remainingSize then
        let call := .recv t.socket.fd received remainingSize
        let receivedAfter := sizeT (received + answer.bytesRecv)
        match answer with
        | .failed errno =>
            some ({ t with point := .raised ⟨s!"could not recv: {errno}"⟩ }, [call])
        | .closed close =>
            let (socket, error, calls) := t.socket.connectionLost close
            some ({ t with point := .raised error, socket := socket }, call :: calls)
        | .data bytes =>
            some ({ t with
              point := .next t.buffer.length receivedAfter
              buffer := overwrite t.buffer received bytes }, [call])
      else none
  | _ => none

end TcpSocket

/-- The bytes that the system has delivered. -/
def RecvAnswer.bytes : RecvAnswer → Bytes
  | data bytes => bytes
  | closed _ => []
  | failed _ => []

def receivedBytes (answers : List RecvAnswer) : Bytes := answers.flatMap RecvAnswer.bytes

/-- No `::recv` has failed or reported the end of the stream. -/
def AllDelivered (answers : List RecvAnswer) : Prop := ∀ a ∈ answers, 0 < a.bytesRecv

theorem receivedBytes_snoc (answers : List RecvAnswer) (answer : RecvAnswer) :
    receivedBytes (answers ++ [answer]) = receivedBytes answers ++ answer.bytes := by
  simp [receivedBytes]

/-- What `recv_all` has done after some calls. -/
inductive RecvAllRan (s : TcpSocket) (buffer : Bytes) :
    List RecvAnswer → RecvAll → List SystemCall → Prop
  | refused {t e} : ¬s.Usable → t.point = .raised e → t.socket = s → t.buffer = buffer →
      RecvAllRan s buffer [] t []
  | received {answers t calls} : s.Usable → AllDelivered answers →
      answers.length ≤ (receivedBytes answers).length →
      (receivedBytes answers).length ≤ buffer.length →
      t.point = .next buffer.length (receivedBytes answers).length → t.socket = s →
      t.buffer = overwrite buffer 0 (receivedBytes answers) → .close s.fd ∉ calls →
      RecvAllRan s buffer answers t calls
  | failed {answers t calls errno} : s.Usable → answers.length < buffer.length →
      t.point = .raised ⟨s!"could not recv: {errno}"⟩ → t.socket = s →
      t.buffer = overwrite buffer 0 (receivedBytes answers) → .close s.fd ∉ calls →
      RecvAllRan s buffer (answers ++ [.failed errno]) t calls
  | lost {answers t calls close} : s.Usable → answers.length < buffer.length →
      t.point = .raised ⟨"Connection lost"⟩ → t.socket = (s.closeWith close).1 →
      t.buffer = overwrite buffer 0 (receivedBytes answers) → .close s.fd ∉ calls →
      RecvAllRan s buffer (answers ++ [.closed close]) t (calls ++ [.close s.fd])

section

variable {s : TcpSocket} {buffer : Bytes} {answers : List RecvAnswer} {t u : RecvAll}
  {answer : RecvAnswer} {calls out : List SystemCall}

theorem recvAllStart_ran : RecvAllRan s buffer [] (s.recvAllStart buffer) [] := by
  unfold TcpSocket.recvAllStart
  by_cases hfd : s.fd = -1
  · rw [if_pos hfd]
    exact .refused (fun h => h.fd hfd) rfl rfl rfl
  · by_cases hconnected : s.connected = false
    · rw [if_neg hfd, if_pos hconnected]
      exact .refused (fun h => by rw [h.connected] at hconnected; cases hconnected) rfl rfl rfl
    · rw [if_neg hfd, if_neg hconnected]
      rw [Bool.not_eq_false] at hconnected
      exact .received ⟨hfd, hconnected⟩ (List.forall_mem_nil _) le_rfl (Nat.zero_le _) rfl rfl rfl
        List.not_mem_nil

theorem length_overwrite {data : Bytes} {offset : Nat} (h : offset + data.length ≤ buffer.length) :
    (overwrite buffer offset data).length = buffer.length := by
  simp only [overwrite, List.length_append, List.length_take, List.length_drop]
  omega

/-- Bytes that are written behind each other. -/
theorem overwrite_overwrite {first second : Bytes} {offset : Nat} (h : offset ≤ buffer.length) :
    overwrite (overwrite buffer offset first) (offset + first.length) second =
      overwrite buffer offset (first ++ second) := by
  have hfront : (buffer.take offset ++ first).length = offset + first.length := by
    rw [List.length_append, List.length_take]
    omega
  have htake : (overwrite buffer offset first).take (offset + first.length) =
      buffer.take offset ++ first := by
    rw [overwrite, ← hfront, List.take_left]
  have hdrop : (overwrite buffer offset first).drop (offset + first.length + second.length) =
      buffer.drop (offset + (first.length + second.length)) := by
    rw [overwrite, ← hfront, ← List.drop_drop, List.drop_left, List.drop_drop, hfront]
    congr 1
    omega
  rw [overwrite, htake, hdrop, overwrite, List.length_append]
  simp only [List.append_assoc]

/-- The state in front of a call. -/
theorem RecvAllRan.calling (h : RecvAllRan s buffer answers t calls) {received : Nat}
    (hpoint : t.point = .calling received) :
    s.Usable ∧ AllDelivered answers ∧ answers.length ≤ received ∧ received < buffer.length ∧
      received = (receivedBytes answers).length ∧ t.socket = s ∧
      t.buffer = overwrite buffer 0 (receivedBytes answers) ∧ .close s.fd ∉ calls := by
  cases h with
  | refused _ hraised _ _ => rw [hraised] at hpoint; cases hpoint
  | failed _ _ hraised _ _ _ => rw [hraised] at hpoint; cases hpoint
  | lost _ _ hraised _ _ _ => rw [hraised] at hpoint; cases hpoint
  | received hs hall hlength hle hnext hsocket hbuffer hcalls =>
      rw [hnext, TransferPoint.next] at hpoint
      split at hpoint
      · rename_i hlt
        cases hpoint
        exact ⟨hs, hall, hlength, hlt, rfl, hsocket, hbuffer, hcalls⟩
      · cases hpoint

/-- `close` on a socket with a descriptor makes one call. -/
theorem closeWith_calls (hfd : s.fd ≠ -1) (result : Option String) :
    (s.closeWith result).2.2 = [.close s.fd] := by
  simp only [TcpSocket.closeWith, if_neg hfd]
  cases result <;> rfl

/-- One call: its window is the rest of the buffer, and what it delivers is written there. -/
theorem RecvAllRan.step (h : RecvAllRan s buffer answers t calls) (hsize : buffer.length < 2 ^ 64)
    (hstep : TcpSocket.recvAllStep t answer = some (u, out)) :
    RecvAllRan s buffer (answers ++ [answer]) u (calls ++ out) ∧
      ∀ call ∈ out, call.Inside buffer.length := by
  unfold TcpSocket.recvAllStep at hstep
  split at hstep
  · rename_i received hpoint
    obtain ⟨hs, hall, hlength, hlt, hreceived, hsocket, hbuffer, hcalls⟩ := h.calling hpoint
    have htotal : t.buffer.length = buffer.length := by
      rw [hbuffer]
      exact length_overwrite (by omega)
    have hremaining : sizeT (t.buffer.length - received) = buffer.length - received := by
      rw [htotal]
      unfold sizeT
      omega
    have hinside : SystemCall.Inside buffer.length
        (.recv t.socket.fd received (buffer.length - received)) := ⟨by omega, by omega⟩
    have hkept : ∀ {length}, SystemCall.close s.fd ∉ calls ++ [.recv t.socket.fd received length] := by
      intro length hmem
      rcases List.mem_append.mp hmem with hmem | hmem
      · exact hcalls hmem
      · cases List.mem_singleton.mp hmem
    dsimp only at hstep
    rw [hremaining] at hstep
    split at hstep
    · rename_i hallowed
      cases answer with
      | failed errno =>
          cases hstep
          exact ⟨.failed hs (by omega) rfl hsocket hbuffer hkept,
            List.forall_mem_singleton.mpr hinside⟩
      | closed close =>
          cases hstep
          have hclose : (t.socket.connectionLost close).2.2 = [.close s.fd] := by
            rw [hsocket]
            exact closeWith_calls hs.fd close
          have hsplit : calls ++ [.recv t.socket.fd received (buffer.length - received), .close s.fd] =
              calls ++ [.recv t.socket.fd received (buffer.length - received)] ++ [.close s.fd] := by
            rw [List.append_assoc, List.singleton_append]
          rw [hclose, hsplit]
          refine ⟨.lost hs (by omega) rfl ?_ hbuffer hkept, ?_⟩
          · rw [hsocket]
            rfl
          · intro call hcall
            rcases List.mem_pair.mp hcall with rfl | rfl
            · exact hinside
            · trivial
      | data bytes =>
          cases hstep
          obtain ⟨hpos, hle⟩ := hallowed
          have hbytes : receivedBytes (answers ++ [.data bytes]) = receivedBytes answers ++ bytes := by
            rw [receivedBytes_snoc]
            rfl
          have hcount : sizeT (received + (RecvAnswer.data bytes).bytesRecv) =
              (receivedBytes answers ++ bytes).length := by
            rw [List.length_append]
            simp only [RecvAnswer.bytesRecv, sizeT]
            omega
          refine ⟨.received hs ?_ ?_ ?_ ?_ hsocket ?_ hkept, List.forall_mem_singleton.mpr hinside⟩
          · intro a ha
            rcases List.mem_append.mp ha with ha | ha
            · exact hall a ha
            · rw [List.mem_singleton.mp ha, RecvAnswer.bytesRecv]
              omega
          · rw [hbytes]
            simp only [List.length_append, List.length_singleton]
            omega
          · rw [hbytes, List.length_append]
            omega
          · rw [hbytes, hcount, htotal]
          · rw [hbytes, hbuffer, hreceived]
            have hjoin : overwrite (overwrite buffer 0 (receivedBytes answers))
                (0 + (receivedBytes answers).length) bytes =
                  overwrite buffer 0 (receivedBytes answers ++ bytes) :=
              overwrite_overwrite (Nat.zero_le _)
            rwa [Nat.zero_add] at hjoin
    · cases hstep
  · cases hstep

theorem recvAll_ran (hsize : buffer.length < 2 ^ 64)
    (hrun : Run TcpSocket.recvAllStep (s.recvAllStart buffer) answers t calls) :
    RecvAllRan s buffer answers t calls ∧ ∀ call ∈ calls, call.Inside buffer.length := by
  induction hrun with
  | nil => exact ⟨recvAllStart_ran, List.forall_mem_nil _⟩
  | snoc _ hstep ih =>
      obtain ⟨hran, hcalls⟩ := ih
      obtain ⟨hran', hout⟩ := hran.step hsize hstep
      exact ⟨hran', List.forall_mem_append.mpr ⟨hcalls, hout⟩⟩

/-- The calls of `recv_all` up to now. At the end of the stream, `::close` is called once, as the last
call; the object is not connected any more and, when `::close` succeeds, has no descriptor. -/
structure RecvAllSpec (s : TcpSocket) (buffer : Bytes) (answers : List RecvAnswer) (t : RecvAll)
    (calls : List SystemCall) : Prop where
  inside : ∀ call ∈ calls, call.Inside buffer.length
  ends : answers.length ≤ buffer.length
  continues : ∀ received, t.point = .calling received → ∀ answer : RecvAnswer,
    answer.Allowed (buffer.length - received) → ∃ next, TcpSocket.recvAllStep t answer = some next
  returned : t.point = .returned ↔
    s.Usable ∧ AllDelivered answers ∧ (receivedBytes answers).length = buffer.length
  raised : (∃ e, t.point = .raised e) ↔ ¬s.Usable ∨ ¬AllDelivered answers
  buffer : t.buffer = overwrite buffer 0 (receivedBytes answers)
  closed : ∀ before close, answers = before ++ [.closed close] →
    t.point = .raised ⟨"Connection lost"⟩ ∧ t.socket.connected = false ∧
      (∃ first, calls = first ++ [.close s.fd] ∧ .close s.fd ∉ first) ∧
      (close = none → t.socket.fd = -1 ∧ t.socket.fdBeforeClose = s.fd)

theorem not_allDelivered_snoc (h : answer.bytesRecv ≤ 0) : ¬AllDelivered (answers ++ [answer]) :=
  fun hall =>
    absurd (hall answer (List.mem_append_right _ (List.mem_singleton_self _))) (Int.not_lt.mpr h)

theorem RecvAllRan.continues (h : RecvAllRan s buffer answers t calls)
    (hsize : buffer.length < 2 ^ 64) {received : Nat} (hpoint : t.point = .calling received)
    (hallowed : answer.Allowed (buffer.length - received)) :
    ∃ next, TcpSocket.recvAllStep t answer = some next := by
  obtain ⟨-, -, -, hlt, hreceived, -, hbuffer, -⟩ := h.calling hpoint
  have htotal : t.buffer.length = buffer.length := by
    rw [hbuffer]
    exact length_overwrite (by omega)
  have hremaining : sizeT (t.buffer.length - received) = buffer.length - received := by
    rw [htotal]
    unfold sizeT
    omega
  simp only [TcpSocket.recvAllStep, hpoint, hremaining, if_pos hallowed]
  cases answer with
  | data bytes => exact ⟨_, rfl⟩
  | closed close => exact ⟨_, rfl⟩
  | failed errno => exact ⟨_, rfl⟩

/-- A call that ends the loop with an error. -/
theorem recvAllSpec_of_raised {e : Error} (hlength : answers.length < buffer.length)
    (hraised : t.point = .raised e) (hanswer : answer.bytesRecv ≤ 0)
    (hbuffer : t.buffer = overwrite buffer 0 (receivedBytes answers))
    (hcalls : ∀ call ∈ calls, call.Inside buffer.length)
    (hclosed : ∀ close, answer = .closed close →
      e = ⟨"Connection lost"⟩ ∧ t.socket.connected = false ∧
        (∃ first, calls = first ++ [.close s.fd] ∧ .close s.fd ∉ first) ∧
        (close = none → t.socket.fd = -1 ∧ t.socket.fdBeforeClose = s.fd)) :
    RecvAllSpec s buffer (answers ++ [answer]) t calls where
  inside := hcalls
  ends := by
    rw [List.length_append, List.length_singleton]
    omega
  continues received hpoint := by
    rw [hraised] at hpoint
    cases hpoint
  returned := ⟨(fun hp => by rw [hraised] at hp; cases hp),
    fun hp => absurd hp.2.1 (not_allDelivered_snoc hanswer)⟩
  raised := ⟨fun _ => Or.inr (not_allDelivered_snoc hanswer), fun _ => ⟨e, hraised⟩⟩
  buffer := by
    have hbytes : answer.bytes = [] := by
      cases answer with
      | data bytes =>
          simp only [RecvAnswer.bytesRecv] at hanswer
          have hzero : bytes.length = 0 := by omega
          exact List.length_eq_zero_iff.mp hzero
      | closed close => rfl
      | failed errno => rfl
    rw [receivedBytes_snoc, hbytes, List.append_nil]
    exact hbuffer
  closed before close heq := by
    obtain ⟨-, hlast⟩ := List.append_inj' heq rfl
    obtain ⟨rfl, hrest⟩ := hclosed close (List.singleton_inj.mp hlast)
    exact ⟨hraised, hrest⟩

theorem RecvAllRan.spec (h : RecvAllRan s buffer answers t calls) (hsize : buffer.length < 2 ^ 64)
    (hcalls : ∀ call ∈ calls, call.Inside buffer.length) :
    RecvAllSpec s buffer answers t calls := by
  have hcontinues : ∀ received, t.point = .calling received → ∀ answer : RecvAnswer,
      answer.Allowed (buffer.length - received) →
        ∃ next, TcpSocket.recvAllStep t answer = some next :=
    fun _ hpoint _ hallowed => h.continues hsize hpoint hallowed
  cases h with
  | refused hs hraised hsocket hbuffer =>
      exact
        { inside := hcalls
          ends := Nat.zero_le _
          continues := hcontinues
          returned := ⟨(fun hp => by rw [hraised] at hp; cases hp), fun hp => absurd hp.1 hs⟩
          raised := ⟨fun _ => Or.inl hs, fun _ => ⟨_, hraised⟩⟩
          buffer := hbuffer
          closed := fun before close heq => by simp at heq }
  | received hs hall hlength hle hpoint hsocket hbuffer hclose =>
      refine
        { inside := hcalls
          ends := hlength.trans hle
          continues := hcontinues
          returned := ⟨fun hp => ⟨hs, hall, ?_⟩, fun hp => ?_⟩
          raised := ⟨fun hp => ?_, fun hp => absurd hall (hp.resolve_left fun hnot => hnot hs)⟩
          buffer := hbuffer
          closed := fun before close heq => ?_ }
      · rw [hpoint, TransferPoint.next] at hp
        split at hp
        · cases hp
        · omega
      · rw [hpoint, TransferPoint.next, if_neg (by rw [hp.2.2]; exact lt_irrefl _)]
      · obtain ⟨e, hp⟩ := hp
        rw [hpoint, TransferPoint.next] at hp
        split at hp <;> cases hp
      · rw [heq] at hall
        exact absurd hall (not_allDelivered_snoc (Int.le_refl 0))
  | failed hs hlength hraised hsocket hbuffer hclose =>
      exact recvAllSpec_of_raised hlength hraised (Int.neg_nonpos_of_nonneg (by decide)) hbuffer hcalls
        (fun _ heq => by cases heq)
  | @lost _ _ _ close hs hlength hraised hsocket hbuffer hclose =>
      refine recvAllSpec_of_raised hlength hraised (Int.le_refl 0) hbuffer hcalls ?_
      intro close' heq
      cases heq
      rw [hsocket]
      refine ⟨rfl, ?_, ⟨_, rfl, hclose⟩, ?_⟩
      · simp only [TcpSocket.closeWith, if_neg hs.fd]
        cases close <;> rfl
      · rintro rfl
        simp [TcpSocket.closeWith, hs.fd]

end

/-! ### The loops on a stream -/

section

variable {s : TcpSocket} {buffer : Bytes}

/-- `sendLoop` makes these calls. -/
theorem sendLoop_steps (hsize : buffer.length < 2 ^ 64) (sends : Nat → SendResult) (stream : Bytes)
    {sent : Nat} (hsent : sent ≤ buffer.length) (taken : Bytes) (calls : Nat) :
    ∃ results t out, Run (s.sendAllStep buffer) { point := .next buffer.length sent, stream := taken }
        results t out ∧
      (t.point = .returned ∧ TcpSocket.sendLoop sends (buffer.drop sent) stream calls =
          .ok (stream ++ buffer.drop sent, calls + results.length) ∨
        ∃ e, t.point = .raised e ∧
          TcpSocket.sendLoop sends (buffer.drop sent) stream calls = .error e) := by
  induction hrest : buffer.length - sent using Nat.strong_induction_on
    generalizing sent stream taken calls with
  | _ rest ih =>
      have hlength : (buffer.drop sent).length = buffer.length - sent := List.length_drop
      rw [TcpSocket.sendLoop, hlength]
      by_cases hdone : buffer.length - sent = 0
      · rw [if_pos hdone]
        refine ⟨[], _, [], .nil, Or.inl ⟨?_, ?_⟩⟩
        · rw [TransferPoint.next, if_neg (by omega)]
        · rw [List.drop_of_length_le (by omega), List.append_nil]
          rfl
      · have hlt : sent < buffer.length := by omega
        have hpoint : TransferPoint.next buffer.length sent = .calling sent := if_pos hlt
        have hremaining : sizeT (buffer.length - sent) = buffer.length - sent := by
          unfold sizeT
          omega
        rw [if_neg hdone]
        cases hresult : sends calls with
        | failed errno =>
            have hstep : s.sendAllStep buffer ⟨.next buffer.length sent, taken⟩ (.failed errno) =
                some (⟨.raised ⟨s!"Could not send: {errno}"⟩,
                  taken ++ (buffer.drop sent).take 0⟩,
                  [.send s.fd sent (buffer.length - sent)]) := by
              simp only [TcpSocket.sendAllStep, hpoint, hremaining]
              exact if_pos trivial
            exact ⟨_, _, _, Run.nil.snoc hstep, Or.inr ⟨_, rfl, rfl⟩⟩
        | accepted size =>
            have hpos := piece_pos size (buffer.length - sent)
            have hle : piece size (buffer.length - sent) ≤ buffer.length - sent := piece_le (by omega)
            dsimp only
            generalize piece size (buffer.length - sent) = part at hpos hle
            have hcount : sizeT (sent + (part : Int)) = sent + part := by
              unfold sizeT
              omega
            have hstep : s.sendAllStep buffer ⟨.next buffer.length sent, taken⟩ (.accepted part) =
                some (⟨.next buffer.length (sent + part), taken ++ (buffer.drop sent).take part⟩,
                  [.send s.fd sent (buffer.length - sent)]) := by
              simp only [TcpSocket.sendAllStep, hpoint, hremaining, SendResult.bytesSent, hcount]
              exact if_pos ⟨hpos, hle⟩
            obtain ⟨results, t, out, hrun, hend⟩ := ih (buffer.length - (sent + part)) (by omega)
              (stream ++ (buffer.drop sent).take part) (by omega)
              (taken ++ (buffer.drop sent).take part) (calls + 1) rfl
            rw [← List.drop_drop] at hend
            refine ⟨_, t, _, Run.cons hstep hrun, hend.imp (fun h => ⟨h.1, ?_⟩) id⟩
            rw [h.2, List.append_assoc, List.take_append_drop, List.length_cons]
            congr 2
            omega

/-- `recvLoop` makes these calls; where it blocks, they have not ended. -/
theorem recvLoop_steps (recvs : Nat → RecvResult) (stream : Bytes) {received : Nat}
    (hsize : buffer.length < 2 ^ 64) (hreceived : received ≤ buffer.length) (hs : s.fd ≠ -1)
    (calls : Nat) :
    ∃ answers t out,
      Run TcpSocket.recvAllStep ⟨.next buffer.length received, s, buffer⟩ answers t out ∧
      ((∃ data rest, t.point = .returned ∧ t.buffer = overwrite buffer received data ∧
          stream = data ++ rest ∧
          s.recvLoop recvs (buffer.length - received) stream calls =
            .got data s rest (calls + answers.length)) ∨
        (∃ count, t.point = .calling count) ∧
          s.recvLoop recvs (buffer.length - received) stream calls = .blocked ∨
        ∃ e, t.point = .raised e ∧
          s.recvLoop recvs (buffer.length - received) stream calls = .raised t.socket e) := by
  induction hrest : buffer.length - received using Nat.strong_induction_on
    generalizing buffer received stream calls with
  | _ rest ih =>
      rw [← hrest, TcpSocket.recvLoop]
      by_cases hdone : buffer.length - received = 0
      · rw [if_pos hdone]
        refine ⟨[], _, [], .nil, Or.inl ⟨[], stream, ?_, ?_, rfl, rfl⟩⟩
        · rw [TransferPoint.next, if_neg (by omega)]
        · simp [overwrite]
      · have hlt : received < buffer.length := by omega
        have hpoint : TransferPoint.next buffer.length received = .calling received := if_pos hlt
        have hremaining : sizeT (buffer.length - received) = buffer.length - received := by
          unfold sizeT
          omega
        rw [if_neg hdone]
        cases hresult : recvs calls with
        | failed errno =>
            have hstep : TcpSocket.recvAllStep ⟨.next buffer.length received, s, buffer⟩
                (.failed errno) =
                some (⟨.raised ⟨s!"could not recv: {errno}"⟩, s, buffer⟩,
                  [.recv s.fd received (buffer.length - received)]) := by
              simp only [TcpSocket.recvAllStep, hpoint, hremaining]
              exact if_pos trivial
            exact ⟨_, _, _, Run.nil.snoc hstep, Or.inr (Or.inr ⟨_, rfl, rfl⟩)⟩
        | closed =>
            have hstep : TcpSocket.recvAllStep ⟨.next buffer.length received, s, buffer⟩
                (.closed none) =
                some (⟨.raised ⟨"Connection lost"⟩, s.close, buffer⟩,
                  [.recv s.fd received (buffer.length - received), .close s.fd]) := by
              simp only [TcpSocket.recvAllStep, hpoint, hremaining, TcpSocket.connectionLost,
                TcpSocket.closeWith, TcpSocket.close, if_neg hs]
              exact if_pos trivial
            exact ⟨_, _, _, Run.nil.snoc hstep, Or.inr (Or.inr ⟨_, rfl, rfl⟩)⟩
        | delivered wanted =>
            dsimp only
            by_cases hstream : stream.length = 0
            · rw [if_pos hstream]
              exact ⟨[], _, [], .nil, Or.inr (Or.inl ⟨⟨received, hpoint⟩, rfl⟩)⟩
            · rw [if_neg hstream]
              have hpos := piece_pos wanted (min (buffer.length - received) stream.length)
              have hle : piece wanted (min (buffer.length - received) stream.length) ≤ _ :=
                piece_le (by omega)
              generalize piece wanted (min (buffer.length - received) stream.length) = size
                at hpos hle
              have hbytes : (stream.take size).length = size := by
                rw [List.length_take]
                omega
              have hcount : sizeT (received + (size : Int)) = received + size := by
                unfold sizeT
                omega
              have hstep : TcpSocket.recvAllStep ⟨.next buffer.length received, s, buffer⟩
                  (.data (stream.take size)) =
                  some (⟨.next buffer.length (received + size), s,
                      overwrite buffer received (stream.take size)⟩,
                    [.recv s.fd received (buffer.length - received)]) := by
                simp only [TcpSocket.recvAllStep, hpoint, hremaining, RecvAnswer.bytesRecv, hbytes,
                  hcount]
                exact if_pos ⟨by omega, by omega⟩
              have hlength : (overwrite buffer received (stream.take size)).length = buffer.length :=
                length_overwrite (by omega)
              have hwithin : received + size ≤
                  (overwrite buffer received (stream.take size)).length := by
                rw [hlength]
                omega
              obtain ⟨answers, t, out, hrun, hend⟩ := ih (buffer.length - (received + size))
                (by omega) (stream.drop size) (hlength.symm ▸ hsize) hwithin (calls + 1)
                (by rw [hlength])
              rw [hlength] at hrun
              have hsub : buffer.length - received - size = buffer.length - (received + size) := by
                omega
              rw [hsub]
              refine ⟨_, t, _, Run.cons hstep hrun, ?_⟩
              rcases hend with ⟨data, rest', hreturned, hbuffer, hdata, hgot⟩ | ⟨hcalling, hgot⟩ |
                ⟨e, hraised, hgot⟩
              · refine Or.inl ⟨stream.take size ++ data, rest', hreturned, ?_, ?_, ?_⟩
                · have hjoin : overwrite (overwrite buffer received (stream.take size))
                      (received + (stream.take size).length) data =
                        overwrite buffer received (stream.take size ++ data) :=
                    overwrite_overwrite hreceived
                  rw [hbytes] at hjoin
                  rw [hbuffer, hjoin]
                · rw [List.append_assoc, ← hdata, List.take_append_drop]
                · rw [hgot, Received.got_bind, List.length_cons]
                  congr 1
                  omega
              · rw [hgot]
                exact Or.inr (Or.inl ⟨hcalling, rfl⟩)
              · rw [hgot]
                exact Or.inr (Or.inr ⟨e, hraised, rfl⟩)

end

/-- The loops of `send_all` and `recv_all`, for every size and every sequence of answers of the system: they
end, stay inside of the buffer, transfer it in order, and return just when the counts add up. -/
theorem transfer_loops (s : TcpSocket) (buffer : Bytes) (hsize : buffer.length < 2 ^ 64) :
    (∀ results t calls, Run (s.sendAllStep buffer) (s.sendAllStart buffer) results t calls →
      SendAllSpec s buffer results t calls) ∧
    ∀ answers t calls, Run TcpSocket.recvAllStep (s.recvAllStart buffer) answers t calls →
      RecvAllSpec s buffer answers t calls := by
  constructor
  · intro results t calls hrun
    obtain ⟨hran, hcalls⟩ := sendAll_ran hsize hrun
    exact hran.spec hsize hcalls
  · intro answers t calls hrun
    obtain ⟨hran, hcalls⟩ := recvAll_ran hsize hrun
    exact hran.spec hsize hcalls

/-- Three bytes are read in two parts of a stream that then ends; `::close` fails. -/
theorem transfer_loops_connection_lost : ∃ t calls,
    Run TcpSocket.recvAllStep ((TcpSocket.accepted 7).recvAllStart [0, 0, 0])
      [.data [1, 2], .closed (some "Input/output error")] t calls ∧
      t.point = .raised ⟨"Connection lost"⟩ ∧ t.buffer = [1, 2, 0] ∧
      calls = [.recv 7 0 3, .recv 7 2 1, .close 7] := by
  have hexec : exec TcpSocket.recvAllStep ((TcpSocket.accepted 7).recvAllStart [0, 0, 0])
      [.data [1, 2], .closed (some "Input/output error")] =
        some (⟨.raised ⟨"Connection lost"⟩, { fd := 7 }, [1, 2, 0]⟩,
          [.recv 7 0 3, .recv 7 2 1, .close 7]) := by
    decide +kernel
  have hrun := Run.of_exec hexec
  have hspec := (transfer_loops (.accepted 7) [0, 0, 0] (by decide)).2 _ _ _ hrun
  exact ⟨_, _, hrun, (hspec.closed [.data [1, 2]] _ rfl).1, hspec.buffer, rfl⟩

end RemoteSimgrid
