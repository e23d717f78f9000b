import RemoteSimgrid.LibraryWireSize
import RemoteSimgrid.SimulationAsked
import RemoteSimgrid.MessageFraming

/-! The serialized sizes of decisions and of their acknowledgments. A payload travels in a decision to
put it and comes back in the acknowledgment of a decision that observes the reception; the envelopes
differ, so that a payload may fit in the former and not in the latter. -/

namespace RemoteSimgrid

open Pb Wire

/-! ### `ByteSizeLong` -/

namespace Pb

def Actor.byteSize (actor : Actor) : Nat := optionalIntSize 1 actor.id

def Host.byteSize (host : Host) : Nat := optionalDelimitedSize 1 host.name.utf8ByteSize

def Mailbox.byteSize (mailbox : Mailbox) : Nat := optionalDelimitedSize 1 mailbox.name.utf8ByteSize

def Comm.byteSize (comm : Comm) : Nat := optionalVarintSize 1 comm.address

def Mutex.byteSize (mutex : Mutex) : Nat := optionalVarintSize 1 mutex.address

def ConditionVariable.byteSize (cv : ConditionVariable) : Nat := optionalVarintSize 1 cv.address

def ConditionVariableStatus.value : ConditionVariableStatus → Nat
  | .noTimeout => 0
  | .timeout => 1

/-- A decision that carries a payload: the client sets the mailbox, even when its name is empty, but the
server does not see whether it is set. -/
structure PutDecision where
  thinkTime : ℚ := 0
  put : MailboxPut := {}
  hasMailbox : Bool := true
  async : Bool := false
  deriving DecidableEq, Repr

def MailboxPut.byteSize (put : MailboxPut) (hasMailbox : Bool) : Nat :=
  (if hasMailbox then delimitedSize 1 put.mailbox.byteSize else 0) +
    optionalDelimitedSize 2 put.data.length + optionalVarintSize 3 put.simulatedSize

namespace PutDecision

def decision (d : PutDecision) : Decision where
  thinkTime := d.thinkTime
  type := if d.async then .mailboxPutAsync d.put else .mailboxPut d.put

def byteSize (d : PutDecision) : Nat :=
  optionalDoubleSize 40 d.thinkTime +
    delimitedSize (if d.async then 22 else 21) (d.put.byteSize d.hasMailbox)

end PutDecision

def CommWaitForAck.byteSize (ack : CommWaitForAck) : Nat :=
  optionalVarintSize 1 ack.timeoutReached.toNat + optionalDelimitedSize 2 ack.data.length

def CommTestAck.byteSize (ack : CommTestAck) : Nat :=
  optionalVarintSize 1 ack.isTerminated.toNat + optionalDelimitedSize 2 ack.data.length

def CommWaitAnyForAck.byteSize (ack : CommWaitAnyForAck) : Nat :=
  optionalIntSize 1 ack.finishedCommIndex + optionalDelimitedSize 2 ack.data.length

/-- The member of the `oneof` that is set is serialized whatever its value. -/
def AckData.byteSize : AckData → Nat
  | .actorGetName name => delimitedSize 2 name.utf8ByteSize
  | .actorGetHost host => delimitedSize 3 host.byteSize
  | .actorCreate actor => delimitedSize 4 actor.byteSize
  | .commWaitFor ack => delimitedSize 5 ack.byteSize
  | .commTest ack => delimitedSize 6 ack.byteSize
  | .commWaitAnyFor ack => delimitedSize 7 ack.byteSize
  | .engineGetClock _ => doubleFieldSize 8
  | .hostCurrent host => delimitedSize 14 host.byteSize
  | .mailboxPutAsync comm => delimitedSize 9 comm.byteSize
  | .mailboxGet data => delimitedSize 10 data.length
  | .mailboxGetAsync comm => delimitedSize 11 comm.byteSize
  | .mutexCreate mutex => delimitedSize 12 mutex.byteSize
  | .mutexTryLock locked => varintFieldSize 13 locked.toNat
  | .conditionVariableCreate cv => delimitedSize 15 cv.byteSize
  | .conditionVariableWaitFor status => varintFieldSize 16 status.value
  | .conditionVariableWaitUntil status => varintFieldSize 17 status.value
  | .dataNotSet => 0

def DecisionAck.byteSize (ack : DecisionAck) : Nat :=
  optionalVarintSize 1 ack.success.toNat + ack.data.byteSize

end Pb

/-- The ways to observe that a payload was received. -/
inductive Observation where
  | mailboxGet
  | commWaitFor
  | commTest
  | commWaitAnyFor (index : Nat)
  deriving DecidableEq, Repr

namespace Observation

/-- The acknowledgment that hands the payload over. -/
def ack (data : Bytes) : Observation → DecisionAck
  | mailboxGet => { success := true, data := .mailboxGet data }
  | commWaitFor => { success := true, data := .commWaitFor { data := data } }
  | commTest => { success := true, data := .commTest { isTerminated := true, data := data } }
  | commWaitAnyFor index =>
      { success := true, data := .commWaitAnyFor { finishedCommIndex := index, data := data } }

/-- An index is an `int32`. -/
def InRange : Observation → Prop
  | commWaitAnyFor index => index < 2 ^ 31
  | _ => True

/-- The sizes of the payloads whose acknowledgment fits, when the decision that puts them does. -/
def Delivers (hasMailbox : Bool) (size : Nat) : Observation → Prop
  | mailboxGet => True
  | commWaitFor => hasMailbox = true ∨ size + 12 < maxContentSize
  | commTest => size + 14 < maxContentSize
  | commWaitAnyFor index =>
      if index = 0 then hasMailbox = true ∨ size + 12 < maxContentSize
      else size + 13 + varintSize index < maxContentSize

/-- The bytes that the acknowledgment of a large payload adds to it. -/
def envelope : Observation → Nat
  | mailboxGet => 7
  | commWaitFor => 12
  | commTest => 14
  | commWaitAnyFor index => 12 + optionalVarintSize 1 index

end Observation

/-! ### Which acknowledgments carry a payload -/

section

variable {K : S4u} {s t : Simulation K} {event : SimEvent K} {out : List SimOutput} {p self : Pid}
  {k : K.State} {socket : Socket} {frame : Frame} {ret : S4uReturn} {m : Memory} {segment : Segment}
  {ack : DecisionAck} {sendAck quitReceived : Bool}

/-- The decisions that are answered at once hand nothing over. -/
theorem Switched.received {d : Decision} (h : Switched d m segment)
    (hfinished : segment.outcome = .finished ack sendAck quitReceived) : ack.data.received = [] := by
  cases h with
  | plainAnswered ack' _ hplain _ =>
      cases hfinished
      exact AckData.plain_received hplain
  | _ => cases hfinished <;> rfl

/-- The handlers that hand a payload over are those of the observations of its reception. -/
theorem Resumed.received (h : Resumed K k self socket frame ret m segment)
    (hfinished : segment.outcome = .finished ack sendAck quitReceived) (hdata : ack.data.received ≠ []) :
    ∃ o : Observation, ack = o.ack ack.data.received := by
  cases h with
  | dispatched d _ _ =>
      have hswitch : Switched d m (switchDecision K k self d m) := switchDecision_switched
      exact absurd (hswitch.received hfinished) hdata
  | commWaited comm m' out data =>
      cases hfinished
      exact ⟨.commWaitFor, rfl⟩
  | commTested comm m' out data =>
      cases hfinished
      exact ⟨.commTest, rfl⟩
  | commWaitedAny comms pointers index comm m' out data hframe hret hindex =>
      cases hfinished
      obtain ⟨i, rfl⟩ := Int.eq_ofNat_of_zero_le hindex
      exact ⟨.commWaitAnyFor i, rfl⟩
  | mailboxGet payload data =>
      cases hfinished
      exact ⟨.mailboxGet, rfl⟩
  | conditionVariableStatus _ _ _ status data hframe =>
      cases hfinished
      refine absurd ?_ hdata
      rcases hframe with ⟨-, rfl⟩ | ⟨-, rfl⟩ <;> rfl
  | _ => cases hfinished <;> exact absurd rfl hdata

/-- Whenever the server hands a payload over, it does so by the acknowledgment of an observation. -/
theorem acks_observed (hstep : simulationStep K s event = some (t, out)) (hack : (p, ack) ∈ acks out)
    (hdata : ack.data.received ≠ []) : ∃ o : Observation, ack = o.ack ack.data.received := by
  cases (simulationStep_cases hstep).2 with
  | ran _ q socket segment hran =>
      have hwritten : (p, ack) ∈ acks (segment.out ++ segment.outcome.out q socket) := hack
      rcases hran.turn.acks with hnone | ⟨ack', sendAck, hacks, houtcome⟩
      · rw [hnone] at hwritten
        cases hwritten
      · rw [hacks, List.mem_singleton, Prod.mk.injEq] at hwritten
        obtain ⟨rfl, rfl⟩ := hwritten
        cases hran with
        | resumed _ actor ret frame _ _ _ _ hresumed => exact hresumed.received houtcome hdata
        | decided _ _ d =>
            have hswitch : Switched d s.memory (switchDecision K s.kernel p d s.memory) :=
              switchDecision_switched
            exact absurd (hswitch.received houtcome) hdata
        | childAccepted =>
            cases houtcome
            exact absurd rfl hdata
        | _ => cases houtcome
  | progressed event kernel writes =>
      obtain ⟨o, ho, hsome⟩ := List.mem_filterMap.mp hack
      obtain ⟨write, -, rfl⟩ := List.mem_map.mp ho
      cases hsome
  | _ => cases hack

end

/-! ### Sizes -/

section

variable {data : Bytes}

/-- The envelope of a large payload in a decision to put it. -/
theorem le_byteSize_putDecision {d : PutDecision} (hlow : 2 ^ 21 ≤ d.put.data.length)
    (hhigh : d.put.data.length < 2 ^ 24) :
    d.put.data.length + 11 + 2 * d.hasMailbox.toNat ≤ d.byteSize := by
  have hcontent : d.put.data.length + 5 + 2 * d.hasMailbox.toNat ≤ d.put.byteSize d.hasMailbox := by
    have hlarge : optionalDelimitedSize 2 d.put.data.length = 1 + 4 + d.put.data.length :=
      optionalDelimitedSize_large hlow (hhigh.trans (by decide))
    have hmailbox : 1 + 1 ≤ delimitedSize 1 d.put.mailbox.byteSize :=
      (Nat.add_le_add (varintSize_pos _) (varintSize_pos _)).trans (Nat.le_add_right _ _)
    unfold MailboxPut.byteSize
    rw [hlarge]
    cases d.hasMailbox with
    | false => simp only [Bool.toNat_false, Bool.false_eq_true, if_false]; omega
    | true => simp only [Bool.toNat_true, if_true]; omega
  have htag : tagSize (if d.async then 22 else 21) .lengthDelimited = 2 := by
    cases d.async <;> rfl
  have hsize : 4 ≤ varintSize (d.put.byteSize d.hasMailbox) := le_varintSize (k := 3) (by omega)
  unfold PutDecision.byteSize delimitedSize
  rw [htag]
  omega

theorem Pb.PutDecision.length_le (d : PutDecision) : d.put.data.length ≤ d.byteSize := by
  have hdata : d.put.data.length ≤ d.put.byteSize d.hasMailbox :=
    (le_optionalDelimitedSize 2 _).trans (by unfold MailboxPut.byteSize; omega)
  unfold byteSize delimitedSize
  omega

theorem intSize_natCast {index : Nat} (hindex : index < 2 ^ 31) :
    optionalIntSize 1 index = optionalVarintSize 1 index := by
  have hbits : ((index : Int) % 2 ^ 64).toNat = index := by omega
  unfold optionalIntSize optionalVarintSize varintFieldSize intSize
  rw [hbits]
  exact if_congr Int.natCast_eq_zero rfl rfl

theorem optionalVarintSize_index_le {index : Nat} (hindex : index < 2 ^ 31) :
    optionalVarintSize 1 index ≤ 6 := by
  have hsize : varintSize index ≤ 5 := varintSize_le_five (hindex.trans (by decide))
  have htag : tagSize 1 .varint = 1 := rfl
  unfold optionalVarintSize varintFieldSize
  split <;> omega

/-- The acknowledgments whose data are a message with a small field and the payload. -/
theorem byteSize_embedded_large {number : Nat} (field : Nat)
    (hnumber : tagSize number .lengthDelimited = 1) (hlow : 2 ^ 21 ≤ data.length)
    (hhigh : data.length < 2 ^ 24) (hfield : field ≤ 6) :
    optionalVarintSize 1 1 + delimitedSize number (field + optionalDelimitedSize 2 data.length) =
      data.length + (12 + field) := by
  have hdata : optionalDelimitedSize 2 data.length = 1 + 4 + data.length :=
    optionalDelimitedSize_large hlow (hhigh.trans (by decide))
  have hsuccess : optionalVarintSize 1 1 = 2 := rfl
  rw [hdata, hsuccess, delimitedSize_large (by omega) (by omega), hnumber]
  omega

theorem byteSize_embedded_le {number : Nat} (field : Nat)
    (hnumber : tagSize number .lengthDelimited = 1) (hhigh : data.length < 2 ^ 24)
    (hfield : field ≤ 6) :
    optionalVarintSize 1 1 + delimitedSize number (field + optionalDelimitedSize 2 data.length) ≤
      data.length + (12 + field) := by
  have hdata : optionalDelimitedSize 2 data.length ≤ 1 + 4 + data.length :=
    optionalDelimitedSize_le (hhigh.trans (by decide))
  have hsuccess : optionalVarintSize 1 1 = 2 := rfl
  have hcontent : delimitedSize number (field + optionalDelimitedSize 2 data.length) ≤
      1 + 4 + (field + optionalDelimitedSize 2 data.length) := by
    rw [← hnumber]
    exact delimitedSize_le (by omega)
  omega

namespace Observation

theorem byteSize_ack_large {o : Observation} (ho : o.InRange) (hlow : 2 ^ 21 ≤ data.length)
    (hhigh : data.length < 2 ^ 24) : (o.ack data).byteSize = data.length + o.envelope := by
  cases o with
  | mailboxGet =>
      have hdata : delimitedSize 10 data.length = 1 + 4 + data.length :=
        delimitedSize_large hlow (hhigh.trans (by decide))
      have hsuccess : optionalVarintSize 1 1 = 2 := rfl
      show optionalVarintSize 1 1 + delimitedSize 10 data.length = data.length + 7
      omega
  | commWaitFor => exact byteSize_embedded_large 0 rfl hlow hhigh (by decide)
  | commTest => exact byteSize_embedded_large 2 rfl hlow hhigh (by decide)
  | commWaitAnyFor index =>
      have hlarge : optionalVarintSize 1 1 + delimitedSize 7 (optionalVarintSize 1 index +
          optionalDelimitedSize 2 data.length) = data.length + (12 + optionalVarintSize 1 index) :=
        byteSize_embedded_large _ rfl hlow hhigh (optionalVarintSize_index_le ho)
      rw [← intSize_natCast ho] at hlarge
      exact hlarge.trans (by rw [intSize_natCast ho]; rfl)

theorem envelope_le {o : Observation} (ho : o.InRange) : o.envelope ≤ 18 := by
  cases o with
  | commWaitAnyFor index => exact Nat.add_le_add_left (optionalVarintSize_index_le ho) 12
  | _ => decide

theorem byteSize_ack_le {o : Observation} (ho : o.InRange) (hhigh : data.length < 2 ^ 24) :
    (o.ack data).byteSize ≤ data.length + o.envelope := by
  cases o with
  | mailboxGet =>
      have hdata : delimitedSize 10 data.length ≤ 1 + 4 + data.length :=
        delimitedSize_le (hhigh.trans (by decide))
      have hsuccess : optionalVarintSize 1 1 = 2 := rfl
      show optionalVarintSize 1 1 + delimitedSize 10 data.length ≤ data.length + 7
      omega
  | commWaitFor => exact byteSize_embedded_le 0 rfl hhigh (by decide)
  | commTest => exact byteSize_embedded_le 2 rfl hhigh (by decide)
  | commWaitAnyFor index =>
      have hle : optionalVarintSize 1 1 + delimitedSize 7 (optionalVarintSize 1 index +
          optionalDelimitedSize 2 data.length) ≤ data.length + (12 + optionalVarintSize 1 index) :=
        byteSize_embedded_le _ rfl hhigh (optionalVarintSize_index_le ho)
      rw [← intSize_natCast ho] at hle
      exact hle.trans (by rw [intSize_natCast ho]; exact le_rfl)

/-- What is compared with the limit, knowing that the decision to put the payload is below it. -/
theorem delivers_iff {o : Observation} {hasMailbox : Bool} {size : Nat}
    (hsize : size + 11 + 2 * hasMailbox.toNat < maxContentSize) :
    o.Delivers hasMailbox size ↔ size + o.envelope < maxContentSize := by
  have htwelve : hasMailbox = true ∨ size + 12 < maxContentSize ↔ size + 12 < maxContentSize := by
    cases hasMailbox with
    | false => simp only [Bool.false_eq_true, false_or]
    | true =>
        have hmailbox : size + 12 < maxContentSize := by
          rw [Bool.toNat_true] at hsize
          omega
        exact iff_of_true (Or.inl rfl) hmailbox
  cases o with
  | mailboxGet =>
      refine iff_of_true trivial ?_
      show size + 7 < maxContentSize
      omega
  | commWaitFor => exact htwelve
  | commTest => exact Iff.rfl
  | commWaitAnyFor index =>
      have htag : tagSize 1 .varint = 1 := rfl
      simp only [Delivers, envelope, optionalVarintSize, varintFieldSize]
      by_cases hindex : index = 0
      · rw [if_pos hindex, if_pos hindex]
        exact htwelve
      · rw [if_neg hindex, if_neg hindex, htag]
        exact iff_of_eq (congrArg (· < maxContentSize) (by omega))

end Observation

end

/-- A payload whose decision was accepted comes back in an acknowledgment that is too large only when it
fills a decision to the last bytes, and is observed by a test, by the wait for another comm than the
first one of a list, or, where the mailbox was not set, by any wait. -/
theorem ack_fits_iff (d : PutDecision) (haccepted : d.byteSize < maxContentSize) (o : Observation)
    (ho : o.InRange) :
    (o.ack d.put.data).byteSize < maxContentSize ↔ o.Delivers d.hasMailbox d.put.data.length := by
  have hlimit : maxContentSize = 2 ^ 24 := rfl
  have hmailbox : d.hasMailbox.toNat ≤ 1 := Bool.toNat_le d.hasMailbox
  have henvelope := Observation.envelope_le ho
  rcases Nat.lt_or_ge d.put.data.length (2 ^ 21) with hsmall | hlarge
  · have hle := Observation.byteSize_ack_le ho (hsmall.trans (by decide))
    rw [Observation.delivers_iff (by omega)]
    omega
  · have hhigh : d.put.data.length < 2 ^ 24 := d.length_le.trans_lt haccepted
    have hsize := le_byteSize_putDecision hlarge hhigh
    rw [Observation.delivers_iff (by omega), Observation.byteSize_ack_large ho hlarge hhigh]

/-- The largest payload that fits in a decision with an empty mailbox name. -/
def largestPayload : Nat := maxContentSize - 14

/-- A payload of zeros that is put with nothing else. -/
def putZeros (n : Nat) : PutDecision where
  put := { data := List.replicate n 0 }

theorem ack_fits_iff_zeros :
    ((Observation.commTest.ack (List.replicate 3 0)).byteSize < maxContentSize ↔
      Observation.commTest.Delivers true 3) :=
  ack_fits_iff (putZeros 3) (by decide) .commTest trivial

theorem byteSize_putZeros {n : Nat} (hlow : 2 ^ 21 ≤ n) (hhigh : n < 2 ^ 24) :
    (putZeros n).byteSize = n + 13 := by
  have hlarge : optionalDelimitedSize 2 n = 1 + 4 + n :=
    optionalDelimitedSize_large hlow (hhigh.trans (by decide))
  have hput : (putZeros n).put.byteSize true = n + 7 := by
    show 2 + optionalDelimitedSize 2 (List.replicate n (0 : UInt8)).length + 0 = n + 7
    rw [List.length_replicate, hlarge]
    omega
  show 0 + delimitedSize 21 ((putZeros n).put.byteSize true) = n + 13
  rw [hput, delimitedSize_large (by omega) (by omega)]
  show 0 + (2 + 4 + (n + 7)) = n + 13
  omega

/-- The server accepts such a payload, and a test that observes its reception is answered by a message
that the client refuses to read. -/
theorem tested_payload_does_not_fit :
    (putZeros largestPayload).byteSize < maxContentSize ∧
      ¬(Observation.commTest.ack (putZeros largestPayload).put.data).byteSize < maxContentSize := by
  have hlow : 2 ^ 21 ≤ largestPayload := by decide
  have hhigh : largestPayload < 2 ^ 24 := by decide
  have hdata : (putZeros largestPayload).put.data.length = largestPayload := List.length_replicate
  constructor
  · rw [byteSize_putZeros hlow hhigh]
    decide
  · have hack := Observation.byteSize_ack_large (o := .commTest) trivial (hdata.ge.trans' hlow)
      (hdata.le.trans_lt hhigh)
    rw [hack, hdata]
    decide

end RemoteSimgrid
