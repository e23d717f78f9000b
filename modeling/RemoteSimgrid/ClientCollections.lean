import RemoteSimgrid.ClientDelivery

/-! The first collection of a payload: what a client has when `Mailbox::get` returns it, or when `wait`,
`wait_for`, `test`, `wait_any` or `wait_any_for` return that the comm of its receive is completed. -/

namespace RemoteSimgrid

open Machine Pb

/-- What `Mailbox::get` returns for the bytes of a payload: a null pointer if there are none. -/
def userData (data : Bytes) : Option Bytes := if data.length = 0 then none else some data

/-- What a function returns to the user for a result of S4U that completes its comm. -/
def S4uReturn.reported : S4uReturn → CommResult
  | .bool value => .bool value
  | .index finished => .index finished
  | _ => .done

variable {K : S4u} {R : Rendezvous K} {s t : CommSystem K} {trace out : List CommOutput} {p : Pid}
  {call : CommCall} {ret : S4uReturn} {comm : CommObject}

/-- SimGrid has returned to a receive: the payload of a blocking one, or the completion of a comm whose
payload has not been collected. -/
inductive Collects (s : CommSystem K) (p : Pid) : CommCall → S4uReturn → Prop
  | get (mailbox : Mailbox) (thinkTime : ℚ) (x : Ptr) :
      s.calls p = some ⟨.get mailbox, thinkTime⟩ →
      s.handles.server.point p = some (.returned (.payload x) .mailboxGet) →
      Collects s p (.get mailbox) (.payload x)
  | comm (call : CommCall) (ret : S4uReturn) (comm : CommObject) (stored : StoredComm) (b : Ptr) :
      ReturnedTo s p call ret → call.completed ret = some comm →
      s.handles.server.memory.store.comms.find comm.remoteAddress = some stored →
      stored.receptionBuffer = some b → Collects s p call ret

/-- The payload that SimGrid has handed over: the result of a get, or what it has written into the buffer
of the receive that the comm belongs to. -/
inductive HandedOver (trace : List SimOutput) : CommCall → S4uReturn → Ptr → Prop
  | get (mailbox : Mailbox) (x : Ptr) : HandedOver trace (.get mailbox) (.payload x) x
  | comm (call : CommCall) (ret : S4uReturn) (comm : CommObject) (b x : Ptr) :
      call.completed ret = some comm → WasOpened trace b comm.remoteAddress → .transferred b x ∈ trace →
      HandedOver trace call ret x

/-- The receiver has the payload: a blocking get returns it; the other functions return the completion of
the comm, whose destination points to it. -/
def Delivers (t : CommSystem K) (p : Pid) (call : CommCall) (ret : S4uReturn)
    (result : Except Error CommResult) (data : Bytes) : Prop :=
  match call.completed ret with
  | none => result = .ok (.data (userData data))
  | some comm => result = .ok ret.reported ∧
      ∃ d, comm.destinationBuffer = some d ∧ t.memory (t.process p) d = userData data

/-- There is a destination, and a payload to be written into it; `test` does with a destination that is
null already if there is none. -/
def DestinationReady (s : CommSystem K) (p : Pid) (call : CommCall) (ret : S4uReturn) (data : Bytes) :
    Prop :=
  ∀ comm, call.completed ret = some comm → ∃ d, comm.destinationBuffer = some d ∧
    (data ≠ [] ∨ call = .test comm ∧ s.memory (s.process p) d = none)

/-! ### What the functions do with the acknowledgment -/

section

variable (data : Bytes) (memory : UserMemory)

/-- The end of `wait_for` and `wait_any_for`: the data of the acknowledgment for a destination. -/
theorem finish_destination (text : String) (result : CommResult) (destination : Option Ptr) {finished : Finished}
    (hfinished : finished = match destination with
      | none => .ok (result, memory)
      | some d => rsgEnforce (0 < data.length) text (.ok (result, memory.write d data))) :
    (destination = none → finished = .ok (result, memory)) ∧
      ∀ d, destination = some d → (data = [] → finished = .error ⟨text⟩) ∧
        (data ≠ [] → finished = .ok (result, memory.write d data)) := by
  subst hfinished
  refine ⟨?_, ?_⟩
  · rintro rfl
    rfl
  · rintro d rfl
    refine ⟨?_, fun hdata => if_pos (List.length_pos_iff.mpr hdata)⟩
    rintro rfl
    exact if_neg (Nat.lt_irrefl 0)

/-- `wait`, `wait_for`, `wait_any` and `wait_any_for`, whose comm is completed. -/
theorem finish_wait (hcompleted : call.completed ret = some comm) (hwait : call ≠ .test comm) :
    (comm.destinationBuffer = none →
      call.finish (collectionAck ret data) memory = .ok (ret.reported, memory)) ∧
      ∀ d, comm.destinationBuffer = some d →
        (data = [] → ∃ e, call.finish (collectionAck ret data) memory = .error e) ∧
          (data ≠ [] → call.finish (collectionAck ret data) memory =
            .ok (ret.reported, memory.write d data)) := by
  have herror : ∀ {finished : Finished} {text : String}, (comm.destinationBuffer = none →
        finished = .ok (ret.reported, memory)) ∧ (∀ d, comm.destinationBuffer = some d →
          (data = [] → finished = .error ⟨text⟩) ∧
            (data ≠ [] → finished = .ok (ret.reported, memory.write d data))) →
      (comm.destinationBuffer = none → finished = .ok (ret.reported, memory)) ∧
        ∀ d, comm.destinationBuffer = some d → (data = [] → ∃ e, finished = .error e) ∧
          (data ≠ [] → finished = .ok (ret.reported, memory.write d data)) :=
    fun h => ⟨h.1, fun d hd => ⟨fun hdata => ⟨_, (h.2 d hd).1 hdata⟩, (h.2 d hd).2⟩⟩
  unfold CommCall.completed at hcompleted
  split at hcompleted
  · cases hcompleted
    exact herror (finish_destination data memory _ .done comm.destinationBuffer rfl)
  · cases hcompleted
    exact absurd rfl hwait
  · rename_i comms timeout index
    split at hcompleted
    · rename_i hindex
      refine herror (finish_destination data memory
        "Received CommWaitAnyFor ack does not contain data while _destination_buffer is not null"
        (.index index) comm.destinationBuffer ?_)
      simp only [CommCall.finish, CommObject.finishWaitAnyFor, collectionAck, rsgEnforce, if_true,
        DecisionAck.commWaitAnyFor, hindex, hcompleted]
      cases comm.destinationBuffer <;> rfl
    · cases hcompleted
  · cases hcompleted

/-- `test`, whose comm is completed. -/
theorem finish_test (comm : CommObject) :
    (data = [] → (CommCall.test comm).finish (collectionAck (.bool true) data) memory =
        .ok (.bool true, memory)) ∧
      (data ≠ [] → (comm.destinationBuffer = none →
          ∃ e, (CommCall.test comm).finish (collectionAck (.bool true) data) memory = .error e) ∧
        ∀ d, comm.destinationBuffer = some d →
          (CommCall.test comm).finish (collectionAck (.bool true) data) memory =
            .ok (.bool true, memory.write d data)) := by
  constructor
  · rintro rfl
    rfl
  · intro hdata
    have hpos : 0 < data.length := List.length_pos_iff.mpr hdata
    have hfinish : (CommCall.test comm).finish (collectionAck (.bool true) data) memory =
        match comm.destinationBuffer with
        | none => .error ⟨"Received CommTest ack contains data the while _destination_buffer is null"⟩
        | some d => .ok (.bool true, memory.write d data) :=
      (if_pos hpos : (if 0 < data.length then _ else _) = _)
    constructor
    · intro hnone
      rw [hfinish, hnone]
      exact ⟨_, rfl⟩
    · intro d hd
      rw [hfinish, hd]

end

/-! ### The collection -/

/-- A blocking receive whose payload has been handed over returns as soon as its actor is scheduled. -/
theorem MailInv.gets (h : MailInv R s trace) {mailbox : Mailbox} {thinkTime : ℚ} {x : Ptr}
    (hpending : s.calls p = some ⟨.get mailbox, thinkTime⟩)
    (hpoint : s.handles.server.point p = some (.returned (.payload x) .mailboxGet))
    (hidle : s.handles.server.current = none) :
    ∃ t out data, commStep K s (.handles (.simulation (.schedule p))) = some (t, out) ∧
      s.handles.server.memory.strings.find x = some data ∧
      .returned p (.get mailbox) (.ok (.data (userData data))) ∈ out := by
  have hlive := h.delivery.delivery.payload_live (.actor p) x hpoint
  obtain ⟨data, hdata⟩ := Option.ne_none_iff_exists'.mp hlive
  obtain ⟨actor, hfind, hactor⟩ := point_eq_some.mp hpoint
  have hresume : resume K s.handles.server.kernel p actor.socket .mailboxGet (.payload x)
      s.handles.server.memory = some
        { memory :=
            { s.handles.server.memory with strings := s.handles.server.memory.strings.erase x }
          out := [.copied x, .writeAck p actor.socket (collectionAck (.payload x) data), .deletedString x]
          outcome := .finished (collectionAck (.payload x) data) false false } := by
    simp only [resume, resumeMailboxGet, hdata, collectionAck]
  obtain ⟨t, out, hstep, -, -, hresult, -⟩ :=
    commStep_resume h.delivery.running hidle hfind hactor hresume hpending rfl rfl
      (fun _ heq => by cases heq)
  exact ⟨t, out, data, hstep, hdata, hresult⟩

theorem userData_of_ne_nil {data : Bytes} (h : data ≠ []) : userData data = some data :=
  if_neg fun hlength => h (List.eq_nil_of_length_eq_zero hlength)

theorem completed_test {comm' : CommObject} (h : (CommCall.test comm).completed ret = some comm') :
    ret = .bool true := by
  cases ret with
  | bool value =>
      cases value with
      | true => rfl
      | false => cases h
  | _ => cases h

/-- What a function leaves behind when it returns from the collection of a payload. -/
theorem delivers_iff_ready {finished : Finished} {result : Except Error CommResult} {data : Bytes}
    (hcompleted : call.completed ret = some comm) (hprocess : t.process p = s.process p)
    (hfinished : finished = call.finish (collectionAck ret data) (s.memory (s.process p)))
    (hresult : result = finished.map Prod.fst)
    (hmemory : t.memory = finished.writes (s.process p) s.memory) :
    Delivers t p call ret result data ↔ DestinationReady s p call ret data := by
  have hfailed : ∀ {e : Error}, finished = .error e →
      ¬(result = .ok ret.reported ∧
        ∃ d, comm.destinationBuffer = some d ∧ t.memory (t.process p) d = userData data) := by
    rintro e he ⟨hok, -⟩
    rw [hresult, he] at hok
    cases hok
  have hok : ∀ {memory : UserMemory}, finished = .ok (ret.reported, memory) →
      result = .ok ret.reported ∧ t.memory (t.process p) = memory := by
    intro memory hfinish
    rw [hresult, hmemory, hprocess, hfinish]
    exact ⟨rfl, Function.update_self _ _ _⟩
  have hdelivers : Delivers t p call ret result data ↔ result = .ok ret.reported ∧
      ∃ d, comm.destinationBuffer = some d ∧ t.memory (t.process p) d = userData data := by
    rw [Delivers, hcompleted]
  have hready : DestinationReady s p call ret data ↔ ∃ d, comm.destinationBuffer = some d ∧
      (data ≠ [] ∨ call = .test comm ∧ s.memory (s.process p) d = none) := by
    refine ⟨fun h => h comm hcompleted, fun h comm' hcomm' => ?_⟩
    rw [hcompleted, Option.some.injEq] at hcomm'
    exact hcomm' ▸ h
  rw [hdelivers, hready]
  by_cases htest : call = .test comm
  · subst htest
    have hret := completed_test hcompleted
    subst hret
    obtain ⟨hempty, hfull⟩ := finish_test data (s.memory (s.process p)) comm
    rw [← hfinished] at hempty hfull
    by_cases hdata : data = []
    · obtain ⟨hreported, hsame⟩ := hok (hempty hdata)
      have huser : userData data = none := by rw [hdata]; rfl
      rw [hsame, huser]
      constructor
      · rintro ⟨-, d, hd, hnull⟩
        exact ⟨d, hd, Or.inr ⟨rfl, hnull⟩⟩
      · rintro ⟨d, hd, hnonempty | ⟨-, hnull⟩⟩
        · exact absurd hdata hnonempty
        · exact ⟨hreported, d, hd, hnull⟩
    · obtain ⟨hnone, hsome⟩ := hfull hdata
      cases hdestination : comm.destinationBuffer with
      | none =>
          constructor
          · rintro ⟨-, d, hd, -⟩
            cases hd
          · rintro ⟨d, hd, -⟩
            cases hd
      | some d =>
          obtain ⟨hreported, hwritten⟩ := hok (hsome d hdestination)
          refine iff_of_true ⟨hreported, d, rfl, ?_⟩ ⟨d, rfl, Or.inl hdata⟩
          rw [hwritten, UserMemory.write, Function.update_self, userData_of_ne_nil hdata]
  · obtain ⟨hnone, hsome⟩ := finish_wait data (s.memory (s.process p)) hcompleted htest
    rw [← hfinished] at hnone hsome
    cases hdestination : comm.destinationBuffer with
    | none =>
        constructor
        · rintro ⟨-, d, hd, -⟩
          cases hd
        · rintro ⟨d, hd, -⟩
          cases hd
    | some d =>
        obtain ⟨hempty, hfull⟩ := hsome d hdestination
        by_cases hdata : data = []
        · obtain ⟨e, he⟩ := hempty hdata
          rw [hdestination] at hfailed
          refine iff_of_false (hfailed he) ?_
          rintro ⟨-, -, hnonempty | ⟨hcall, -⟩⟩
          · exact hnonempty hdata
          · exact htest hcall
        · obtain ⟨hreported, hwritten⟩ := hok (hfull hdata)
          refine iff_of_true ⟨hreported, d, rfl, ?_⟩ ⟨d, rfl, Or.inl hdata⟩
          rw [hwritten, UserMemory.write, Function.update_self, userData_of_ne_nil hdata]

/-- Every payload that SimGrid has handed over to a receive is collected as soon as the actor is scheduled,
and the receiver has it just if its function has a destination for it and a payload to write there. -/
theorem collection_delivers_iff (R : Rendezvous K) {connections : List ActorConnection}
    {events : List (CommEvent K)}
    (hrun : Run (commStep K) (CommSystem.launch K connections) events s trace)
    (hfresh : Throughout (commStep K) FreshComm (CommSystem.launch K connections) events)
    (hfork : Throughout (commStep K) NoCommFork (CommSystem.launch K connections) events)
    (hcollects : Collects s p call ret) (hidle : s.handles.server.current = none) :
    ∃ t out result x data, commStep K s (.handles (.simulation (.schedule p))) = some (t, out) ∧
      .returned p call result ∈ out ∧ HandedOver (serverOutputs trace) call ret x ∧
      WasSent (serverOutputs trace) x data ∧
      (Delivers t p call ret result data ↔ DestinationReady s p call ret data) := by
  have hinv := mailInv_run (R := R) hrun hfresh hfork
  have hreceived := hinv.comms.received
  cases hcollects with
  | get mailbox thinkTime x hpending hpoint =>
      obtain ⟨t, out, data, hstep, hdata, hresult⟩ := hinv.gets hpending hpoint hidle
      have hnew := hreceived.string x data hdata
      refine ⟨t, out, _, x, data, hstep, hresult, .get mailbox x, ⟨hnew, hreceived.sent x data hnew⟩, ?_⟩
      exact iff_of_true rfl fun comm hcomm => by cases hcomm
  | comm _ _ comm stored b hreturned hcompleted hstored hbuffer =>
      obtain ⟨t, out, taken, data, hstep, htaken, hprocess, hresult, hmemory⟩ :=
        hinv.completes hreturned hcompleted hidle
      obtain ⟨stored', hstored', ⟨hnone, -⟩ | ⟨b', x, -, hopened, hwritten, hsent, -⟩⟩ :=
        hreceived.taken htaken
      · rw [hstored, Option.some.injEq] at hstored'
        rw [← hstored', hbuffer] at hnone
        cases hnone
      · exact ⟨t, out, _, x, data, hstep, hresult, .comm call ret comm b' x hcompleted hopened hwritten,
          hsent, delivers_iff_ready hcompleted hprocess rfl rfl hmemory⟩

def mailroomSystem : CommSystem mailroomS4u :=
  CommSystem.launch mailroomS4u [{ actorId := 2, socket := some 10 }, { actorId := 3, socket := some 11 }]

/-- A receiver opens a comm, and a sender sends it a payload; the receiver waits until it has arrived. -/
def collectionEvents (data : Bytes) : List (CommEvent mailroomS4u) :=
  [.handles (.simulation (.schedule 2)), .call (.getAsync { name := "mailbox" } (some 7)) 0,
    .handles (.simulation (.schedule 3)),
    .call (.putAsync { mailbox := { name := "mailbox" }, data := data }) 0,
    .handles (.simulation (.serve 2 (.address 100))), .handles (.simulation (.schedule 2)),
    .call (.wait ⟨100, some 7⟩) 0, .handles (.simulation (.serve 3 (.address 200))),
    .handles (.simulation (.progress (1, 2))), .handles (.simulation (.serve 2 .done))]

theorem collection_delivers_iff_wait :
    ∃ s trace t out result x data,
      Run (commStep mailroomS4u) mailroomSystem (collectionEvents [5]) s trace ∧
      commStep mailroomS4u s (.handles (.simulation (.schedule 2))) = some (t, out) ∧
      .returned 2 (.wait ⟨100, some 7⟩) result ∈ out ∧
      HandedOver (serverOutputs trace) (.wait ⟨100, some 7⟩) .done x ∧
      WasSent (serverOutputs trace) x data ∧
      (Delivers t 2 (.wait ⟨100, some 7⟩) .done result data ↔
        DestinationReady s 2 (.wait ⟨100, some 7⟩) .done data) := by
  obtain ⟨s, trace, hexec, hcollects, hidle⟩ : ∃ s trace,
      exec (commStep mailroomS4u) mailroomSystem (collectionEvents [5]) = some (s, trace) ∧
      Collects s 2 (.wait ⟨100, some 7⟩) .done ∧ s.handles.server.current = none := by
    refine ⟨_, _, rfl, ?_, rfl⟩
    exact .comm _ _ ⟨100, some 7⟩ _ 1 ⟨⟨0, rfl⟩, _, rfl, rfl⟩ rfl rfl rfl
  have hforks : Throughout (commStep mailroomS4u) (fun _ event => event.forks = false) mailroomSystem
      (collectionEvents [5]) := Throughout.of_check rfl
  obtain ⟨t, out, result, x, data, hall⟩ := collection_delivers_iff mailroomRendezvous (Run.of_exec hexec)
    (Throughout.of_check rfl) (fun before event after t trace heq hbefore =>
      noCommFork_of_forks (hforks before event after t trace heq hbefore)) hcollects hidle
  exact ⟨s, trace, t, out, result, x, data, Run.of_exec hexec, hall⟩

/-- A payload without bytes arrives, and `wait` throws. -/
theorem empty_payload_is_not_delivered :
    ∃ s trace t out,
      Run (commStep mailroomS4u) mailroomSystem (collectionEvents []) s trace ∧
      Throughout (commStep mailroomS4u) FreshComm mailroomSystem (collectionEvents []) ∧
      Throughout (commStep mailroomS4u) NoCommFork mailroomSystem (collectionEvents []) ∧
      HandedOver (serverOutputs trace) (.wait ⟨100, some 7⟩) .done 2 ∧
      WasSent (serverOutputs trace) 2 [] ∧
      commStep mailroomS4u s (.handles (.simulation (.schedule 2))) = some (t, out) ∧
      .returned 2 (.wait ⟨100, some 7⟩)
        (.error ⟨"Received CommWaitFor ack does not contain data while _destination_buffer is not null"⟩) ∈
          out ∧
      ∀ result, .returned 2 (.wait ⟨100, some 7⟩) result ∈ out →
        ¬Delivers t 2 (.wait ⟨100, some 7⟩) .done result [] := by
  obtain ⟨s, trace, t, out, hexec, hstep, hopened, hdispatched, hwritten, hnew, simOut, rfl⟩ :
      ∃ s trace t out,
        exec (commStep mailroomS4u) mailroomSystem (collectionEvents []) = some (s, trace) ∧
        commStep mailroomS4u s (.handles (.simulation (.schedule 2))) = some (t, out) ∧
        .served 2 (.mailboxGetAsync "mailbox" 1) (.address 100) ∈ serverOutputs trace ∧
        .dispatched 3 { type := .mailboxPutAsync { mailbox := { name := "mailbox" } } } ∈
          serverOutputs trace ∧
        .transferred 1 2 ∈ serverOutputs trace ∧ .newString 2 [] ∈ serverOutputs trace ∧
        ∃ simOut : List SimOutput, out = simOut.map .server ++ [.returned 2 (.wait ⟨100, some 7⟩)
          (.error ⟨"Received CommWaitFor ack does not contain data while _destination_buffer is not null"⟩)] := by
    exact ⟨_, _, _, _, rfl, rfl, by decide +kernel, by decide +kernel, by decide +kernel,
      by decide +kernel, _, rfl⟩
  have hforks : Throughout (commStep mailroomS4u) (fun _ event => event.forks = false) mailroomSystem
      (collectionEvents []) := Throughout.of_check rfl
  refine ⟨s, trace, t, _, Run.of_exec hexec, Throughout.of_check rfl,
    fun before event after t trace heq hbefore =>
      noCommFork_of_forks (hforks before event after t trace heq hbefore),
    .comm _ _ ⟨100, some 7⟩ 1 2 rfl ⟨2, "mailbox", hopened⟩ hwritten,
    ⟨hnew, 3, _, hdispatched, rfl⟩, hstep, List.mem_append_right _ (List.mem_singleton_self _), ?_⟩
  intro result hresult hdelivers
  rcases List.mem_append.mp hresult with hserver | hreturned
  · obtain ⟨o, -, heq⟩ := List.mem_map.mp hserver
    cases heq
  · cases List.mem_singleton.mp hreturned
    have hok : Except.error _ = Except.ok (S4uReturn.done).reported := hdelivers.1
    cases hok

end RemoteSimgrid
