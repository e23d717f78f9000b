import RemoteSimgrid.SimgridCalls

/-! What the handlers of messages rely on in SimGrid: each payload that is sent is handed over once, to
a receive or into the buffer of a receive comm, and the buffer of a comm is written before the comm is
reported as completed. -/

namespace RemoteSimgrid

/-- The payload that a call sends. -/
def S4uCall.payload : S4uCall → Option Ptr
  | .mailboxPut _ payload _ => some payload
  | .mailboxPutAsync _ payload _ => some payload
  | _ => none

/-- The buffer that a call gives to SimGrid. -/
def S4uCall.buffer : S4uCall → Option Ptr
  | .mailboxGetAsync _ data => some data
  | _ => none

/-- The comm that the result of a call reports as completed. -/
def S4uCall.completed : S4uCall → S4uReturn → Option Address
  | .commWaitFor comm _, .done => some comm
  | .commTest comm, .bool true => some comm
  | .commWaitAnyFor comms _, .index index => if 0 ≤ index then comms[index.toNat]? else none
  | _, _ => none

/-- `sent` are the payloads that are on their way, `awaiting` the buffers that SimGrid has been given
and has not written yet, and `receiving` is the buffer of a receive comm. -/
structure Rendezvous (K : S4u) where
  sent : K.State → Ptr → Prop
  awaiting : K.State → Ptr → Prop
  receiving : K.State → Address → Option Ptr
  init_sent : ∀ x, ¬sent K.init x
  init_awaiting : ∀ b, ¬awaiting K.init b
  issue_sent : ∀ k p call x, sent (K.issue k p call) x → sent k x ∨ call.payload = some x
  issue_awaiting : ∀ k p call b, awaiting (K.issue k p call) b ↔ awaiting k b ∨ call.buffer = some b
  issue_receiving : ∀ k p call, receiving (K.issue k p call) = receiving k
  progress_writes : ∀ k event k' writes, K.progress k event = some (k', writes) →
    (writes.map Prod.fst).Nodup ∧ (writes.map Prod.snd).Nodup ∧
      ∀ write ∈ writes, awaiting k write.1 ∧ sent k write.2 ∧ ¬sent k' write.2
  progress_sent : ∀ k event k' writes x, K.progress k event = some (k', writes) → sent k' x →
    sent k x
  progress_awaiting : ∀ k event k' writes b, K.progress k event = some (k', writes) →
    (awaiting k' b ↔ awaiting k b ∧ b ∉ writes.map Prod.fst)
  progress_receiving : ∀ k event k' writes, K.progress k event = some (k', writes) →
    receiving k' = receiving k
  serve_sent : ∀ k p call ret k' x, K.serve k p call ret = some k' → sent k' x → sent k x
  serve_awaiting : ∀ k p call ret k' b, K.serve k p call ret = some k' →
    (awaiting k' b ↔ awaiting k b)
  serve_receiving : ∀ k p call ret k' comm, K.serve k p call ret = some k' → ret ≠ .address comm →
    receiving k' comm = receiving k comm
  serve_get : ∀ k p mbox x k', K.serve k p (.mailboxGet mbox) (.payload x) = some k' →
    sent k x ∧ ¬sent k' x
  serve_getAsync : ∀ k p mbox b comm k',
    K.serve k p (.mailboxGetAsync mbox b) (.address comm) = some k' → receiving k' comm = some b
  serve_completed : ∀ k p call ret k' comm b, K.serve k p call ret = some k' →
    call.completed ret = some comm → receiving k' comm = some b → ¬awaiting k' b
  serve_index : ∀ k p comms timeout index k',
    K.serve k p (.commWaitAnyFor comms timeout) (.index index) = some k' → 0 ≤ index →
    comms[index.toNat]? ≠ none

end RemoteSimgrid
