import RemoteSimgrid.RsgCommands

/-! How `add-actor` ends, and what the program that it turns into reads back from its environment. -/

namespace RemoteSimgrid

open Pb Raising

/-! ### Decimal texts -/

/-- The text of an `int` is a numeral. -/
theorem isNumeral_toString (n : Int) : IsNumeral (toString n) n := by
  have hdigits : ∀ k : Nat, (∀ c ∈ Nat.toDigits 10 k, c.isDigit = true) :=
    fun k c hc => Nat.isDigit_of_mem_toDigits (by decide) (by decide) hc
  rw [Int.toString_eq_repr, Int.repr_eq_if]
  by_cases hn : 0 ≤ n
  · refine ⟨Nat.toDigits 10 n.toNat, Nat.toDigits_ne_nil, hdigits _, Or.inl ⟨?_, Or.inl ?_⟩⟩
    · rw [digitsValue, Nat.ofDigitChars_ten_toDigits, Int.toNat_of_nonneg hn]
    · rw [if_pos hn, Nat.toList_repr]
  · refine ⟨Nat.toDigits 10 (-n).toNat, Nat.toDigits_ne_nil, hdigits _, Or.inr ⟨?_, ?_⟩⟩
    · rw [digitsValue, Nat.ofDigitChars_ten_toDigits, Int.toNat_of_nonneg (by omega), Int.neg_neg]
    · rw [if_neg hn, String.toList_append, Nat.toList_repr]
      rfl

theorem stoi_toString {n : Int} (h : InInt n) : stoi (toString n) = .ok n := by
  rw [stoi_of_isNumeral (isNumeral_toString n), if_pos h]

/-- No numeral has a null character. -/
theorem cStr_toString (n : Int) : cStr (toString n) = toString n := by
  unfold cStr
  rw [List.takeWhile_eq_self_iff.mpr, String.ofList_toList]
  intro c hc
  rcases (isNumeral_toString n).chars c hc with hdigit | rfl | rfl
  · have hrange : 48 ≤ c.toNat ∧ c.toNat ≤ 57 := Char.isDigit_iff_toNat.mp hdigit
    rw [bne_iff_ne]
    rintro rfl
    exact absurd hrange.1 (by decide)
  · decide
  · decide

/-! ### How the command ends -/

namespace RsgCalls

variable (calls : RsgCalls)

/-- The command, if it gets to the server. -/
def reaching (command : Command) : List Command :=
  match calls.conversation command with
  | .notSent _ => []
  | _ => [command]

end RsgCalls

namespace AddActorOptions

variable (options : AddActorOptions)

/-- A think time that is measured, or a number that is not negative. -/
def ThinkTimeValid (strtod : String → Option Double) : Prop :=
  options.thinkTime = "AS_MEASURED_BY_CLIENT" ∨
    ∃ thinkTime, strtod (cStr options.thinkTime) = some thinkTime ∧ thinkTime.nonneg = true

/-- The process with the variables of the server. -/
def addressed (p : RsgProcess) : RsgProcess :=
  (p.set "RSG_SERVER_HOSTNAME" (some (cStr options.serverHostname))).set
    "RSG_SERVER_PORT" (some (toString options.serverPort))

/-- The process with the variables of the actor. -/
def prepared (actorId : Int) (p : RsgProcess) : RsgProcess :=
  ((p.set "RSG_THINK_TIME" (some (cStr options.thinkTime))).set
    "RSG_AUTOCONNECT" (if options.autoconnect then some "1" else none)).set
    "RSG_INITIAL_ACTOR_ID" (some (toString actorId))

/-- There is no child, or it fails before the part that tells the server about its errors. -/
def ChildFails (calls : RsgCalls) : Prop :=
  (options.fork = true ∧ ∃ reason, calls.fork = .error reason) ∨
    calls.setenv "RSG_SERVER_HOSTNAME" ≠ none ∨ calls.setenv "RSG_SERVER_PORT" ≠ none ∨
    ¬(toString options.serverPort).length < 16

/-- The ways for `add-actor` to end after the server has registered the actor: as its program; with the
server told to stop, since there will be no program; as the process that has created the child; without a
word to the server, since its socket cannot be closed or its child fails; and by a destructor that throws. -/
inductive Registered (calls : RsgCalls) (p : RsgProcess) (actorId : Int) : RsgEnding → RsgProcess → Prop
  | executes (hchild : options.fork = true → calls.fork = .ok 0) (hexecvp : calls.execvp = none)
      (hthinkTime : options.ThinkTimeValid calls.strtod) :
      Registered calls p actorId (.executes (cStr options.commandToRun) options.argv)
        (options.prepared actorId (options.addressed (p.send options.registration)))
  | kills (e : Error) {q : RsgProcess}
      (hsent : q.sent = p.sent ++ [options.registration] ++
        calls.reaching (.kill (killReason actorId e))) :
      Registered calls p actorId (.exits 1) q
  | parent (pid : Nat) (hfork : options.fork = true) (hpid : calls.fork = .ok pid) (hparent : pid ≠ 0) :
      Registered calls p actorId (.exits 0) (p.send options.registration)
  | abandons {q : RsgProcess} (hfails : calls.close ≠ none ∨ options.ChildFails calls)
      (hsent : q.sent = p.sent ++ [options.registration]) :
      Registered calls p actorId (.exits 1) q
  | terminates {q : RsgProcess} (hclose : calls.close ≠ none) (hagain : calls.closeAgain ≠ none)
      (hsent : q.sent = p.sent ++ [options.registration]) :
      Registered calls p actorId .terminates q

/-- The server has registered no actor, as far as `add-actor` knows. -/
def Unregistered (calls : RsgCalls) : Prop :=
  ∀ ack, calls.conversation options.registration = .acked ack → ack.success = false

/-- How `add-actor` ends. -/
def Ended (calls : RsgCalls) (p : RsgProcess) (e : RsgEnding) (q : RsgProcess) : Prop :=
  (∃ ack, calls.conversation options.registration = .acked ack ∧ ack.success = true ∧
    options.Registered calls p (ack.actor.getD {}).id e q) ∨
  options.Unregistered calls ∧ (e = .exits 1 ∨ e = .terminates ∧ calls.close ≠ none) ∧
    q.sent = p.sent ++ calls.reaching options.registration

/-- Where `add-actor` handles an error. -/
def Caught (calls : RsgCalls) (p q : RsgProcess) : Prop :=
  (∃ ack, calls.conversation options.registration = .acked ack ∧ ack.success = true ∧
    (calls.close ≠ none ∨ options.ChildFails calls) ∧ q.sent = p.sent ++ [options.registration]) ∨
  options.Unregistered calls ∧ q.sent = p.sent ++ calls.reaching options.registration

end AddActorOptions

section

variable {calls : RsgCalls} {options : AddActorOptions} {p : RsgProcess} {actorId : Int}

theorem converse_ends (command : Command) :
    Triple (fun q => q = p) (converse calls command)
      (fun ack q => calls.conversation command = .acked ack ∧ q = p.send command)
      (fun _ q => (∀ ack, calls.conversation command ≠ .acked ack) ∧
        q.sent = p.sent ++ calls.reaching command) := by
  rintro _ rfl
  unfold converse RsgCalls.reaching
  cases calls.conversation command with
  | notSent e => exact ⟨(fun ack heq => by cases heq), (List.append_nil _).symm⟩
  | unanswered e => exact ⟨(fun ack heq => by cases heq), rfl⟩
  | acked ack => exact ⟨rfl, rfl⟩

theorem setenv_ends (name value : String) :
    Triple (fun q => q = p) (setenv calls name value)
      (fun _ q => q = p.set name (some (cStr value)))
      (fun _ q => q = p ∧ calls.setenv name ≠ none) := by
  rintro _ rfl
  unfold setenv
  cases calls.setenv name with
  | none => exact rfl
  | some reason => exact ⟨rfl, (fun heq => by cases heq)⟩

theorem unsetenv_ends (name : String) :
    Triple (fun q => q = p) (unsetenv calls name) (fun _ q => q = p.set name none)
      (fun _ q => q = p) := by
  rintro _ rfl
  unfold unsetenv
  cases calls.unsetenv name with
  | none => exact rfl
  | some reason => exact rfl

theorem intString_ends (what : String) (value : Int) :
    Triple (fun q => q = p) (intString what value) (fun text q => text = toString value ∧ q = p)
      (fun _ q => q = p ∧ ¬(toString value).length < 16) := by
  rintro _ rfl
  unfold intString
  split
  · exact ⟨rfl, rfl⟩
  · exact ⟨rfl, ‹_›⟩

/-- A command that gives an order to the server raises nothing, sends the order only, and exits with 0 just
if the server has accepted it. -/
theorem order_ends (name : String) (command : Command) {answered : CommandAck → RsgAction Unit}
    (hanswered : ∀ ack, Triple (fun q => q = p.send command) (answered ack)
      (fun _ q => q.sent = (p.send command).sent) (fun _ _ => False)) :
    Triple (fun q => q = p) (reporting (order calls name command answered))
      (fun returnCode q => (returnCode = 0 ↔ ∃ ack, calls.conversation command = .acked ack ∧
        ack.success = true) ∧ q.sent = p.sent ++ calls.reaching command) (fun _ _ => False) := by
  unfold reporting order
  refine Triple.handles (c := fun _ q => (∀ ack, calls.conversation command ≠ .acked ack) ∧
    q.sent = p.sent ++ calls.reaching command) ?_ ?_
  · refine Triple.seq (converse_ends _) fun ack => Triple.forward ?_
    rintro _ ⟨hconversation, rfl⟩
    have hreaching : (p.send command).sent = p.sent ++ calls.reaching command := by
      rw [RsgCalls.reaching, hconversation]
      rfl
    split
    · rename_i hsuccess
      refine Triple.seq ((hanswered ack).weakenErrors fun _ _ h => h.elim)
        fun _ => Triple.returns fun q hq => ?_
      exact ⟨iff_of_true rfl ⟨ack, hconversation, hsuccess⟩, hq.trans hreaching⟩
    · rename_i hrefused
      refine Triple.seq (m := fun _ q => q.sent = (p.send command).sent) (Triple.modifies ?_) fun _ =>
        Triple.returns fun q hq => ⟨iff_of_false (by decide) ?_, hq.trans hreaching⟩
      · rintro _ rfl
        rfl
      · rintro ⟨ack', hack', hsuccess⟩
        rw [hconversation] at hack'
        cases hack'
        exact hrefused hsuccess
  · intro e
    refine Triple.seq (m := fun _ q => (∀ ack, calls.conversation command ≠ .acked ack) ∧
      q.sent = p.sent ++ calls.reaching command) (Triple.modifies fun q hq => hq) fun _ =>
        Triple.returns fun q hq => ⟨iff_of_false (by decide) ?_, hq.2⟩
    rintro ⟨ack, hack, -⟩
    exact hq.1 ack hack

/-- `kill` raises nothing. -/
theorem kill_ends (reason : String) :
    Triple (fun q => q = p) (kill calls reason)
      (fun _ q => q.sent = p.sent ++ calls.reaching (.kill reason)) (fun _ _ => False) := by
  have hsilent : ∀ _ : CommandAck, Triple (fun q => q = p.send (.kill reason)) (pure () : RsgAction Unit)
      (fun _ q => q.sent = (p.send (.kill reason)).sent) (fun _ _ => False) :=
    fun _ => Triple.returns fun q hq => by rw [hq]
  exact (order_ends "kill" (.kill reason) hsilent).weaken (fun _ h => h) (fun _ _ h => h.2)
    fun _ _ h => h

theorem checkThinkTime_ends :
    Triple (fun q => q = p) (options.checkThinkTime calls)
      (fun _ q => options.ThinkTimeValid calls.strtod ∧ q = p) (fun _ q => q = p) := by
  rintro _ rfl
  unfold AddActorOptions.checkThinkTime AddActorOptions.ThinkTimeValid
  split
  · exact ⟨Or.inl ‹_›, rfl⟩
  · cases hstrtod : calls.strtod (cStr options.thinkTime) with
    | none => exact rfl
    | some thinkTime =>
        dsimp only
        split
        · exact ⟨Or.inr ⟨thinkTime, rfl, ‹_›⟩, rfl⟩
        · exact rfl

theorem setAutoconnect_ends :
    Triple (fun q => q = p) (options.setAutoconnect calls)
      (fun _ q => q = p.set "RSG_AUTOCONNECT" (if options.autoconnect then some "1" else none))
      (fun _ q => q = p) := by
  unfold AddActorOptions.setAutoconnect
  cases options.autoconnect with
  | true => exact (setenv_ends _ _).weakenErrors fun _ _ h => h.1
  | false => exact unsetenv_ends _

/-- An error leaves the server without a word so far. -/
theorem execute_ends :
    Triple (fun q => q = p) (options.execute calls actorId)
      (fun ending q => ending = .executes (cStr options.commandToRun) options.argv ∧
        q = options.prepared actorId p ∧ calls.execvp = none ∧ options.ThinkTimeValid calls.strtod)
      (fun _ q => q.sent = p.sent) := by
  have hunsent : ∀ {r : RsgProcess} {A : Type} {x : RsgAction A} {post : A → RsgProcess → Prop}
      {raised : Error → RsgProcess → Prop}, r.sent = p.sent →
      Triple (fun q => q = r) x post raised → (∀ e q, raised e q → q = r) →
      Triple (fun q => q = r) x post (fun _ q => q.sent = p.sent) := by
    intro r A x post raised hr hx hraised
    exact hx.weakenErrors fun e q h => by rw [hraised e q h, hr]
  unfold AddActorOptions.execute
  refine Triple.seq (hunsent rfl checkThinkTime_ends fun _ _ h => h) fun _ => Triple.forward ?_
  rintro _ ⟨hthinkTime, hq⟩
  rw [hq]
  refine Triple.seq (hunsent rfl (setenv_ends _ _) fun _ _ h => h.1) fun _ => Triple.forward ?_
  rintro _ rfl
  refine Triple.seq (hunsent rfl setAutoconnect_ends fun _ _ h => h) fun _ => Triple.forward ?_
  rintro _ rfl
  refine Triple.seq (hunsent rfl (intString_ends _ _) fun _ _ h => h.1) fun _ => Triple.forward ?_
  rintro _ ⟨rfl, rfl⟩
  refine Triple.seq (hunsent rfl (setenv_ends _ _) fun _ _ h => h.1) fun _ => Triple.forward ?_
  rintro _ rfl
  cases hexecvp : calls.execvp with
  | none =>
      refine Triple.returns ?_
      rintro _ rfl
      exact ⟨rfl, by rw [cStr_toString, AddActorOptions.prepared], rfl, hthinkTime⟩
  | some reason =>
      refine Triple.seq (m := fun _ q => q.sent = p.sent) (Triple.modifies ?_) fun _ => Triple.throws fun _ h => h
      rintro _ rfl
      rfl

/-- The child runs the program or tells the server, unless the variables of the server fail. -/
theorem child_ends :
    Triple (fun q => q = p) (options.child calls actorId)
      (fun ending q =>
        (ending = .executes (cStr options.commandToRun) options.argv ∧
          q = options.prepared actorId (options.addressed p) ∧ calls.execvp = none ∧
          options.ThinkTimeValid calls.strtod) ∨
        ending = .exits 1 ∧
          ∃ e, q.sent = p.sent ++ calls.reaching (.kill (AddActorOptions.killReason actorId e)))
      (fun _ q => q.sent = p.sent ∧ options.ChildFails calls) := by
  unfold AddActorOptions.child
  refine Triple.seq ((setenv_ends _ _).weakenErrors ?_) fun _ =>
    Triple.forward ?_
  · rintro e q ⟨rfl, hsetenv⟩
    exact ⟨rfl, Or.inr (Or.inl hsetenv)⟩
  rintro _ rfl
  refine Triple.seq ((intString_ends _ _).weakenErrors ?_) fun _ =>
    Triple.forward ?_
  · rintro e _ ⟨rfl, hlength⟩
    exact ⟨rfl, Or.inr (Or.inr (Or.inr hlength))⟩
  rintro _ ⟨rfl, rfl⟩
  refine Triple.seq ((setenv_ends _ _).weakenErrors ?_) fun _ =>
    Triple.forward ?_
  · rintro e _ ⟨rfl, hsetenv⟩
    exact ⟨rfl, Or.inr (Or.inr (Or.inl hsetenv))⟩
  rintro _ rfl
  rw [cStr_toString]
  refine Triple.handles (execute_ends.weaken (fun _ h => h) (fun _ _ h => Or.inl h) fun _ _ h => h) ?_
  -- the handler of the errors of the child
  intro e
  refine Triple.seq (m := fun _ q => q.sent = p.sent) (Triple.modifies fun q hq => hq) fun _ =>
    Triple.forward fun r hr => ?_
  refine Triple.seq ((kill_ends _).weakenErrors fun _ _ h => h.elim) ?_
  intro _
  refine Triple.returns fun q hq => Or.inr ⟨rfl, e, ?_⟩
  rw [hq, hr]

theorem answered_ends {ack : CommandAck} (hack : calls.conversation options.registration = .acked ack) :
    Triple (fun q => q = p.send options.registration) (options.answered calls ack)
      (fun e q => options.Ended calls p e q) (fun _ q => options.Caught calls p q) := by
  have hchild : (options.fork = true → calls.fork = .ok 0) → ack.success = true →
      Triple (fun q => q = p.send options.registration) (options.child calls (ack.actor.getD {}).id)
        (fun e q => options.Ended calls p e q) (fun _ q => options.Caught calls p q) := by
    intro hfork hsuccess
    refine child_ends.weaken (fun _ h => h) ?_ ?_
    · rintro e q (⟨rfl, rfl, hexecvp, hthinkTime⟩ | ⟨rfl, e, hsent⟩)
      · exact Or.inl ⟨ack, hack, hsuccess, .executes hfork hexecvp hthinkTime⟩
      · exact Or.inl ⟨ack, hack, hsuccess, .kills e hsent⟩
    · rintro e q ⟨hsent, hfails⟩
      exact Or.inl ⟨ack, hack, hsuccess, Or.inr hfails, hsent⟩
  unfold AddActorOptions.answered
  by_cases hsuccess : ack.success = false
  · simp only [if_pos hsuccess]
    refine Triple.seq (m := fun _ q => q.sent = p.sent ++ [options.registration])
      (Triple.modifies ?_) fun _ => Triple.returns fun q hq => Or.inr ⟨?_, Or.inl rfl, ?_⟩
    · rintro _ rfl
      rfl
    · intro ack' hack'
      rw [hack] at hack'
      cases hack'
      exact hsuccess
    · rw [hq, RsgCalls.reaching, hack]
  rw [Bool.not_eq_false] at hsuccess
  simp only [hsuccess, Bool.true_eq_false, if_false]
  split
  · rename_i hnofork
    exact hchild (fun hfork => by rw [hnofork] at hfork; cases hfork) hsuccess
  · rename_i hnot
    have hfork : options.fork = true := by simpa using hnot
    cases hpid : calls.fork with
    | error reason =>
        refine Triple.throws ?_
        rintro _ rfl
        exact Or.inl ⟨ack, hack, hsuccess, Or.inr (Or.inl ⟨hfork, reason, hpid⟩), rfl⟩
    | ok pid =>
        dsimp only
        split
        · rename_i hzero
          exact hchild (fun _ => by rw [hpid, hzero]) hsuccess
        · rename_i hparent
          refine Triple.returns ?_
          rintro _ rfl
          exact Or.inl ⟨ack, hack, hsuccess, .parent pid hfork hpid hparent⟩

/-- A socket that cannot be closed leaves the registration, if there is one, without anything behind it. -/
theorem registration_left {ack : CommandAck} {q : RsgProcess}
    (hack : calls.conversation options.registration = .acked ack)
    (hsent : q.sent = p.sent ++ [options.registration]) :
    ack.success = true ∨ options.Unregistered calls ∧
      q.sent = p.sent ++ calls.reaching options.registration := by
  cases hsuccess : ack.success with
  | true => exact Or.inl rfl
  | false =>
      refine Or.inr ⟨fun ack' hack' => ?_, by rw [hsent, RsgCalls.reaching, hack]⟩
      rw [hack] at hack'
      cases hack'
      exact hsuccess

/-- `add-actor` raises nothing. -/
theorem addActor_ends (calls : RsgCalls) (options : AddActorOptions) (p : RsgProcess) :
    Triple (fun q => q = p) (options.addActor calls) (fun e q => options.Ended calls p e q)
      (fun _ _ => False) := by
  refine Triple.handles (c := fun _ q => options.Caught calls p q) ?_ ?_
  · refine Triple.seq ((converse_ends _).weakenErrors ?_) ?_
    · rintro e q ⟨hnone, hsent⟩
      exact Or.inr ⟨fun ack hack => absurd hack (hnone ack), hsent⟩
    intro ack
    refine Triple.forward ?_
    rintro _ ⟨hack, rfl⟩
    have hleft := registration_left (q := p.send options.registration) hack rfl
    cases hclose : calls.close with
    | none => exact answered_ends hack
    | some reason =>
        have hfailed : calls.close ≠ none := by
          rw [hclose]
          exact Option.some_ne_none reason
        cases hagain : calls.closeAgain with
        | none =>
            refine Triple.throws ?_
            rintro _ rfl
            exact hleft.imp (fun hsuccess => ⟨ack, hack, hsuccess, Or.inl hfailed, rfl⟩) id
        | some reason' =>
            have hfailedAgain : calls.closeAgain ≠ none := by
              rw [hagain]
              exact Option.some_ne_none reason'
            refine Triple.returns ?_
            rintro _ rfl
            exact hleft.imp (fun hsuccess => ⟨ack, hack, hsuccess, .terminates hfailed hfailedAgain rfl⟩)
              fun hunregistered => ⟨hunregistered.1, Or.inr ⟨rfl, hfailed⟩, hunregistered.2⟩
  · -- the handler prints the error
    intro e
    refine Triple.seq (m := fun _ q => options.Caught calls p q) (Triple.modifies fun q hq => hq) fun _ =>
      Triple.returns ?_
    rintro q (⟨ack, hack, hsuccess, hfails, hsent⟩ | ⟨hunregistered, hsent⟩)
    · exact Or.inl ⟨ack, hack, hsuccess, .abandons hfails hsent⟩
    · exact Or.inr ⟨hunregistered, Or.inl rfl, hsent⟩

end

/-! ### What the program reads -/

namespace Variables

variable (environ : Variables)

/-- The texts from which the library connects. -/
def strings : EnvironmentStrings where
  serverHostname := environ "RSG_SERVER_HOSTNAME"
  serverPort := environ "RSG_SERVER_PORT"
  initialActorId := environ "RSG_INITIAL_ACTOR_ID"

/-- What `librsg` reads in a process with these variables, beside the think time. -/
def environmentWith (thinkTime : EnvVariable ThinkTimeMode) : Environment :=
  { environ.strings.converted with
    thinkTime := thinkTime, autoconnect := (environ "RSG_AUTOCONNECT").isSome }

/-- `retrieve_rsg_think_time_from_env`, with a think time that need not be finite. -/
def retrieveRsgThinkTimeFromEnv (strtod : String → Option Double) : Except Error (Bool × Double) :=
  match environ "RSG_THINK_TIME" with
  | none => .ok (false, .finite 0)
  | some text =>
      if text = "AS_MEASURED_BY_CLIENT" then .ok (true, .finite 0)
      else
        match strtod text with
        | none => .error ⟨s!"RSG_THINK_TIME ('{text}') is not a valid double"⟩
        | some thinkTime =>
            rsgEnforce thinkTime.nonneg s!"RSG_THINK_TIME ({thinkTime.formatG}) should not be negative" <|
            .ok (false, thinkTime)

/-- The think time, unless it is not finite. -/
def convertThinkTime (strtod : String → Option Double) : Option String → Option (EnvVariable ThinkTimeMode)
  | none => some .unset
  | some text =>
      if text = "AS_MEASURED_BY_CLIENT" then some (.valid .asMeasuredByClient)
      else
        match strtod text with
        | none => some (.invalid text)
        | some (.finite thinkTime) => some (.valid (.constant thinkTime))
        | some _ => none

/-- What `librsg` reads in a process with these variables, unless the think time is not finite. -/
def environment (strtod : String → Option Double) : Option Environment :=
  (convertThinkTime strtod (environ "RSG_THINK_TIME")).map environ.environmentWith

theorem retrieve_environment {environ : Variables} {strtod : String → Option Double} {environment : Environment}
    (h : environ.environment strtod = some environment) {measured : Bool} {thinkTime : Double}
    (hread : environ.retrieveRsgThinkTimeFromEnv strtod = .ok (measured, thinkTime)) :
    ∃ value, thinkTime = .finite value ∧
      environment.retrieveRsgThinkTimeFromEnv = .ok (measured, value) := by
  obtain ⟨converted, hconverted, rfl⟩ := Option.map_eq_some_iff.mp h
  unfold retrieveRsgThinkTimeFromEnv at hread
  cases hvariable : environ "RSG_THINK_TIME" with
  | none =>
      rw [hvariable] at hread hconverted
      cases hread
      cases hconverted
      exact ⟨0, rfl, rfl⟩
  | some text =>
      rw [hvariable] at hread hconverted
      simp only [convertThinkTime] at hread hconverted
      by_cases hmeasured : text = "AS_MEASURED_BY_CLIENT"
      · rw [if_pos hmeasured] at hread hconverted
        cases hread
        cases hconverted
        exact ⟨0, rfl, rfl⟩
      · rw [if_neg hmeasured] at hread hconverted
        cases hstrtod : strtod text with
        | none =>
            rw [hstrtod] at hread
            cases hread
        | some double =>
            rw [hstrtod] at hread hconverted
            cases double with
            | finite value =>
                cases hconverted
                simp only [rsgEnforce_eq_ok, Double.nonneg_finite, decide_eq_true_eq, Except.ok.injEq,
                  Prod.mk.injEq] at hread
                obtain ⟨hnonneg, rfl, rfl⟩ := hread
                refine ⟨value, rfl, ?_⟩
                simp only [environmentWith, Environment.retrieveRsgThinkTimeFromEnv, rsgEnforce,
                  if_pos hnonneg]
            | infinite => cases hconverted
            | nan => cases hconverted

end Variables

def rsgVariables : List String :=
  ["RSG_SERVER_HOSTNAME", "RSG_SERVER_PORT", "RSG_INITIAL_ACTOR_ID", "RSG_THINK_TIME", "RSG_AUTOCONNECT"]

/-- A program that runs as an actor: `librsg` connects to the server of the options as that actor, by
itself just if the options say so, with the think time of the options. It has the other variables of its
process. -/
structure RunsAs (options : AddActorOptions) (strtod : String → Option Double) (actorId : Int)
    (environ environ' : Variables) : Prop where
  connects : ∀ system, environ'.strings.connect system false (-1) = { outcome := .ok {
    serverHostname := cStr options.serverHostname, port := (options.serverPort % 2 ^ 16).toNat
    actorId := actorId } }
  opens : ∀ thinkTime, ∀ way : Opening,
    way = .autoconnect ∧ options.autoconnect = true ∨ way = .connect (-1) →
      way.start (environ'.environmentWith thinkTime) none = some (.sends actorId)
  waits : options.autoconnect = false → ∀ thinkTime,
    Opening.autoconnect.start (environ'.environmentWith thinkTime) none = none
  thinks : ∃ measured thinkTime,
    environ'.retrieveRsgThinkTimeFromEnv strtod = .ok (measured, thinkTime) ∧
      (measured = true ↔ cStr options.thinkTime = "AS_MEASURED_BY_CLIENT") ∧
      (measured = false → strtod (cStr options.thinkTime) = some thinkTime)
  others : ∀ name ∉ rsgVariables, environ' name = environ name

section

variable {calls : RsgCalls} {options : AddActorOptions} {p q : RsgProcess} {actorId : Int}
  {strtod : String → Option Double}

theorem prepared_environ (options : AddActorOptions) (actorId : Int) (p : RsgProcess) :
    let environ := (options.prepared actorId (options.addressed p)).environ
    environ "RSG_SERVER_HOSTNAME" = some (cStr options.serverHostname) ∧
      environ "RSG_SERVER_PORT" = some (toString options.serverPort) ∧
      environ "RSG_INITIAL_ACTOR_ID" = some (toString actorId) ∧
      environ "RSG_THINK_TIME" = some (cStr options.thinkTime) ∧
      environ "RSG_AUTOCONNECT" = (if options.autoconnect then some "1" else none) ∧
      ∀ name ∉ rsgVariables, environ name = p.environ name := by
  refine ⟨rfl, rfl, rfl, rfl, rfl, ?_⟩
  intro name hname
  simp only [rsgVariables, List.mem_cons, List.not_mem_nil, or_false, not_or] at hname
  obtain ⟨h1, h2, h3, h4, h5⟩ := hname
  unfold AddActorOptions.prepared AddActorOptions.addressed RsgProcess.set
  simp only [Function.update_of_ne, h1, h2, h3, h4, h5, ne_eq, not_false_eq_true]

theorem runsAs_prepared (hid : InInt actorId)
    (hthinkTime : options.ThinkTimeValid strtod) :
    RunsAs options strtod actorId p.environ (options.prepared actorId (options.addressed p)).environ := by
  have hport := options.serverPort_inInt
  obtain ⟨hhostname, hportVariable, hactorId, hthinkTimeVariable, hautoconnect, hothers⟩ :=
    prepared_environ options actorId p
  generalize (options.prepared actorId (options.addressed p)).environ = environ at *
  have hstrings : environ.strings =
      ⟨some (cStr options.serverHostname), some (toString options.serverPort), some (toString actorId)⟩ := by
    rw [Variables.strings, hhostname, hportVariable, hactorId]
  have hread : ∀ thinkTime, (environ.environmentWith thinkTime).retrieveRsgConnectionParamsFromEnv =
      .ok (cStr options.serverHostname, (options.serverPort % 2 ^ 16).toNat, actorId) := by
    intro thinkTime
    simp only [Variables.environmentWith, hstrings, EnvironmentStrings.converted,
      EnvironmentStrings.convertInt, stoi_toString hport, stoi_toString hid,
      Environment.retrieveRsgConnectionParamsFromEnv, Environment.retrieveInitialActorIdFromEnv]
  have hconnect : ∀ thinkTime, connect (environ.environmentWith thinkTime) none (-1) = .sends actorId := by
    intro thinkTime
    simp only [connect, hread, Option.isSome_none, Bool.false_eq_true, if_false, if_true]
  have hautoconnectRead : ∀ thinkTime,
      (environ.environmentWith thinkTime).autoconnect = options.autoconnect := by
    intro thinkTime
    show (environ "RSG_AUTOCONNECT").isSome = options.autoconnect
    rw [hautoconnect]
    cases options.autoconnect <;> rfl
  refine ⟨?_, ?_, ?_, ?_, hothers⟩
  · intro system
    simp only [EnvironmentStrings.connect, EnvironmentStrings.retrieveRsgConnectionParamsFromEnv,
      EnvironmentStrings.retrieveInitialActorIdFromEnv, hstrings, stoi_toString hport, stoi_toString hid,
      Bool.false_eq_true, if_false, if_true]
  · rintro thinkTime way (⟨rfl, hoption⟩ | rfl)
    · rw [Opening.start, hautoconnectRead, hoption, if_pos rfl, hconnect]
    · rw [Opening.start, hconnect]
  · intro hoption thinkTime
    rw [Opening.start, hautoconnectRead, hoption, if_neg Bool.false_ne_true]
  · simp only [Variables.retrieveRsgThinkTimeFromEnv, hthinkTimeVariable]
    by_cases hmeasured : cStr options.thinkTime = "AS_MEASURED_BY_CLIENT"
    · rw [if_pos hmeasured]
      exact ⟨true, .finite 0, rfl, iff_of_true rfl hmeasured, fun h => by cases h⟩
    · rw [if_neg hmeasured]
      rcases hthinkTime with heq | ⟨thinkTime, hstrtod, hnonneg⟩
      · rw [heq] at hmeasured
        exact absurd (by decide) hmeasured
      · rw [hstrtod]
        exact ⟨false, thinkTime, by simp only [rsgEnforce, if_pos hnonneg],
          iff_of_false Bool.false_ne_true hmeasured, fun _ => rfl⟩

theorem executes_cases {file : String} {argv : List String}
    (hending : ending (options.addActor calls) p = (.ok (.executes file argv), q)) :
    ∃ ack, calls.conversation options.registration = .acked ack ∧ ack.success = true ∧
      options.ThinkTimeValid calls.strtod ∧
      q = options.prepared (ack.actor.getD {}).id (options.addressed (p.send options.registration)) := by
  have hends := addActor_ends calls options p p rfl
  rw [hending] at hends
  rcases hends with ⟨ack, hack, hsuccess, hregistered⟩ | ⟨-, hexits, -⟩
  · cases hregistered with
    | executes _ _ hthinkTime => exact ⟨ack, hack, hsuccess, hthinkTime, rfl⟩
  · rcases hexits with hexits | ⟨hexits, -⟩
    · cases hexits
    · cases hexits

/-- An `add-actor` that has been told that its actor is registered turns into the program, is the parent of
the process that goes on, or sends the server a `KILL` with the reason, unless its socket cannot be closed
or its child fails before that. -/
theorem addActor_exits (calls : RsgCalls) (options : AddActorOptions) (p : RsgProcess) {ack : CommandAck}
    (hack : calls.conversation options.registration = .acked ack) (hsuccess : ack.success = true) :
    ∃ e q, ending (options.addActor calls) p = (.ok e, q) ∧
      ((∃ file argv, e = .executes file argv) ∨
        (e = .exits 0 ∧ options.fork = true ∧ (∃ pid, calls.fork = .ok pid ∧ pid ≠ 0) ∧
          q.sent = p.sent ++ [options.registration]) ∨
        (e = .exits 1 ∧ ∃ err, q.sent = p.sent ++ [options.registration] ++
          calls.reaching (.kill (AddActorOptions.killReason (ack.actor.getD {}).id err))) ∨
        (e = .exits 1 ∧ (calls.close ≠ none ∨ options.ChildFails calls) ∧
          q.sent = p.sent ++ [options.registration]) ∨
        (e = .terminates ∧ calls.close ≠ none ∧ calls.closeAgain ≠ none ∧
          q.sent = p.sent ++ [options.registration])) := by
  have hends := addActor_ends calls options p p rfl
  rcases hending : ending (options.addActor calls) p with ⟨err | e, q⟩
  · rw [hending] at hends
    exact hends.elim
  rw [hending] at hends
  refine ⟨e, q, rfl, ?_⟩
  rcases hends with ⟨ack', hack', -, hregistered⟩ | ⟨hunregistered, -⟩
  · rw [hack] at hack'
    cases hack'
    cases hregistered with
    | executes => exact Or.inl ⟨_, _, rfl⟩
    | parent pid hfork hpid hparent => exact Or.inr (Or.inl ⟨rfl, hfork, ⟨pid, hpid, hparent⟩, rfl⟩)
    | kills err hsent => exact Or.inr (Or.inr (Or.inl ⟨rfl, err, hsent⟩))
    | abandons hfails hsent => exact Or.inr (Or.inr (Or.inr (Or.inl ⟨rfl, hfails, hsent⟩)))
    | terminates hclose hagain hsent =>
        exact Or.inr (Or.inr (Or.inr (Or.inr ⟨rfl, hclose, hagain, hsent⟩)))
  · rw [hunregistered ack hack] at hsuccess
    cases hsuccess

/-- The program that `add-actor` turns into runs as the actor that the server has registered. Nothing else
was sent. -/
theorem addActor_runs_as {file : String} {argv : List String}
    (hending : ending (options.addActor calls) p = (.ok (.executes file argv), q))
    (hid : ∀ ack, calls.conversation options.registration = .acked ack → InInt (ack.actor.getD {}).id) :
    ∃ ack, calls.conversation options.registration = .acked ack ∧ ack.success = true ∧
      q.sent = p.sent ++ [options.registration] ∧
      RunsAs options calls.strtod (ack.actor.getD {}).id p.environ q.environ := by
  obtain ⟨ack, hack, hsuccess, hthinkTime, rfl⟩ := executes_cases hending
  exact ⟨ack, hack, hsuccess, rfl, runsAs_prepared (hid ack hack) hthinkTime⟩

end

/-- The server answers with the id 2, and no call fails. -/
def launchCalls : RsgCalls where
  conversation _ := .acked { success := true, actor := some { id := 2 } }
  close := none
  closeAgain := none
  fork := .ok 0
  setenv _ := none
  unsetenv _ := none
  execvp := none
  strtod _ := some (.finite 0)

def launchOptions : AddActorOptions where
  serverHostname := "localhost"
  serverPort := 35000
  serverPort_inInt := by decide
  actorName := "alice"
  vhostName := "host0"
  thinkTime := "0"
  autoconnect := true
  fork := true
  commandToRun := "client"
  commandArgs := []

theorem addActor_runs_as_client : ∃ q,
    ending (launchOptions.addActor launchCalls) {} = (.ok (.executes "client" ["client"]), q) ∧
      ∃ actorId, RunsAs launchOptions launchCalls.strtod actorId (fun _ => none) q.environ := by
  obtain ⟨q, hending⟩ : ∃ q,
      ending (launchOptions.addActor launchCalls) {} = (.ok (.executes "client" ["client"]), q) := ⟨_, rfl⟩
  have hid : ∀ ack, launchCalls.conversation launchOptions.registration = .acked ack →
      InInt (ack.actor.getD {}).id := by
    rintro ack ⟨⟩
    decide
  obtain ⟨ack, -, -, -, hruns⟩ := addActor_runs_as hending hid
  exact ⟨q, hending, _, hruns⟩

/-- The program is not found. -/
def failingCalls : RsgCalls := { launchCalls with execvp := some "No such file or directory" }

theorem addActor_exits_not_found : ∃ q,
    ending (launchOptions.addActor failingCalls) {} = (.ok (.exits 1), q) ∧
      ∃ e, q.sent = [launchOptions.registration, .kill (AddActorOptions.killReason 2 e)] := by
  obtain ⟨q₀, hending₀⟩ : ∃ q, ending (launchOptions.addActor failingCalls) {} = (.ok (.exits 1), q) :=
    ⟨_, rfl⟩
  obtain ⟨e, q, hending, hcases⟩ := addActor_exits failingCalls launchOptions {} rfl rfl
  rw [hending₀] at hending
  cases hending
  rcases hcases with ⟨file, argv, hcode⟩ | ⟨hcode, -⟩ | ⟨-, err, hsent⟩ | ⟨-, hfails, -⟩ | ⟨hcode, -⟩
  · cases hcode
  · cases hcode
  · exact ⟨_, hending₀, err, hsent⟩
  · rcases hfails with hclose | ⟨-, reason, hfork⟩ | hsetenv | hsetenv | hlength
    · exact absurd rfl hclose
    · cases hfork
    · exact absurd rfl hsetenv
    · exact absurd rfl hsetenv
    · exact absurd (by decide) hlength
  · cases hcode

end RemoteSimgrid
