import Mathlib.Algebra.Group.Int.Defs
import Mathlib.Algebra.Group.Nat.Defs
import Mathlib.Data.List.TakeWhile
import RemoteSimgrid.ClientConnection

/-! The texts of the environment variables that `rsg::connect` reads, and what it does with them: the
conversions by `std::stoi`, the port narrowed to 16 bits, and the command that kills the server when the
actor id is refused. A character stands for a byte. -/

namespace RemoteSimgrid

/-- `isspace` in the locale of C. -/
def isSpace (c : Char) : Bool := c = ' ' || (0x09 ≤ c.toNat && c.toNat ≤ 0x0d)

/-- What `std::stoi` throws. -/
inductive StoiError where
  | invalidArgument
  | outOfRange
  deriving DecidableEq

/-- The value of a sequence of digits. -/
def digitsValue (digits : List Char) : Nat := Nat.ofDigitChars 10 digits 0

/-- The digits at the front of a text, of which there has to be one. What follows them is ignored. -/
def stoiDigits (negative : Bool) (text : List Char) : Except StoiError Int :=
  let digits := text.takeWhile Char.isDigit
  let value : Int := if negative then -digitsValue digits else digitsValue digits
  if digits = [] then .error .invalidArgument
  else if InInt value then .ok value
  else .error .outOfRange

/-- The sign and the digits. -/
def stoiSigned : List Char → Except StoiError Int
  | '-' :: text => stoiDigits true text
  | '+' :: text => stoiDigits false text
  | text => stoiDigits false text

/-- `std::stoi` in base 10. -/
def stoi (text : String) : Except StoiError Int := stoiSigned (text.toList.dropWhile isSpace)

/-- `rsg::Error`: the text is cut to the buffer of the exception. -/
def rsgError (text : String) : Error := ⟨String.ofList (text.toList.take 1023)⟩

/-- The variables as `std::getenv` returns them. -/
structure EnvironmentStrings where
  serverHostname : Option String := none
  serverPort : Option String := none
  initialActorId : Option String := none

/-- The variables that `retrieve_rsg_connection_params_from_env` fills in. -/
structure ConnectionParams where
  serverHostname : String := ""
  port : Nat := 0
  actorId : Int := 0
  deriving DecidableEq

/-- What `rsg::connect` does: the commands that it gives to `system`, and the connection that it opens or
what it throws. -/
structure ConnectResult where
  commands : List String := []
  outcome : Except Error ConnectionParams

def actorIdNotSet : Error :=
  rsgError "Invalid RSG connection initialization: RSG_INITIAL_ACTOR_ID is not set."

def notAnActorId (text : String) : Error :=
  rsgError ("Invalid RSG connection initialization: RSG_INITIAL_ACTOR_ID ('" ++ text ++
    "') is not a valid actor id")

def hostnameNotSet : Error :=
  rsgError "Invalid RSG connection initialization: RSG_SERVER_HOSTNAME is not set."

def portNotSet : Error :=
  rsgError "Invalid RSG connection initialization: RSG_SERVER_PORT is not set."

def notAPort (text : String) : Error :=
  rsgError ("Invalid RSG connection initialization: RSG_SERVER_PORT ('" ++ text ++
    "') is not a valid port")

/-- The text of the command that kills the server, before it is cut to its buffer. The C library prints
an unset variable as "(null)". -/
def killText (initialActorId : Option String) (serverHostname : String) (port : Nat) : List Char :=
  "rsg kill --reason=\"could not connect: invalid actor_id '".toList ++
    (initialActorId.getD "(null)").toList ++ "'\" -h ".toList ++ serverHostname.toList ++
    " -p ".toList ++ Nat.toDigits 10 port

/-- `kill_command`, of 128 bytes. -/
def killCommand (initialActorId : Option String) (serverHostname : String) (port : Nat) : String :=
  String.ofList ((killText initialActorId serverHostname port).take 127)

namespace EnvironmentStrings

variable (env : EnvironmentStrings)

def retrieveInitialActorIdFromEnv : Except Error Int :=
  match env.initialActorId with
  | none => .error actorIdNotSet
  | some text =>
      match stoi text with
      | .ok actorId => .ok actorId
      | .error _ => .error (notAnActorId text)

/-- The variables are filled in one after the other, up to the one that is refused. -/
def retrieveRsgConnectionParamsFromEnv : ConnectionParams × Option Error :=
  match env.serverHostname with
  | none => ({}, some hostnameNotSet)
  | some serverHostname =>
      match env.serverPort with
      | none => ({ serverHostname := serverHostname }, some portNotSet)
      | some text =>
          match stoi text with
          | .error _ => ({ serverHostname := serverHostname }, some (notAPort text))
          | .ok value =>
              let port := (value % 2 ^ 16).toNat
              match env.retrieveInitialActorIdFromEnv with
              | .error e => ({ serverHostname := serverHostname, port := port }, some e)
              | .ok actorId =>
                  ({ serverHostname := serverHostname, port := port, actorId := actorId }, none)

/-- The handler of `rsg::connect`: the server is killed if the actor id is the reason. -/
def afterError (system : String → Int) (params : ConnectionParams) (e : Error) : ConnectResult :=
  if "RSG_INITIAL_ACTOR_ID".toList <:+: e.what.toList then
    let command := killCommand env.initialActorId params.serverHostname params.port
    let ret := system command
    { commands := [command]
      outcome :=
        if ret = -1 then .error (rsgError "Could not kill server: Could not execute a `rsg` process.")
        else if ret = 0 ∨ ret = 1 then .error e
        else .error (rsgError s!"Could not kill server: `rsg kill` returned {ret}") }
  else { outcome := .error e }

/-- `rsg::connect`, up to the construction of the connection. `system` is what `system` returns. -/
def connect (system : String → Int) (connected : Bool) (actorId : Int) : ConnectResult :=
  if connected then { outcome := .error (rsgError "Invalid rsg::connect() call: Already connected!") }
  else
    match env.retrieveRsgConnectionParamsFromEnv with
    | (params, some e) => env.afterError system params e
    | (params, none) =>
        { outcome := .ok { params with
            actorId := if actorId = -1 then params.actorId else actorId } }

/-- A variable that is converted to an `int`. -/
def convertInt : Option String → EnvVariable Int
  | none => .unset
  | some text =>
      match stoi text with
      | .ok value => .valid value
      | .error _ => .invalid text

/-- The environment with its variables converted. -/
def converted : Environment where
  serverHostname := env.serverHostname
  serverPort := convertInt env.serverPort
  initialActorId := convertInt env.initialActorId

end EnvironmentStrings

/-- What `retrieve_rsg_connection_params_from_env` comes to. -/
def ConnectionParams.result : ConnectionParams × Option Error → Except Error (String × Nat × Int)
  | (_, some e) => .error e
  | (params, none) => .ok (params.serverHostname, params.port, params.actorId)

theorem retrieveInitialActorIdFromEnv_converted (env : EnvironmentStrings) :
    env.retrieveInitialActorIdFromEnv =
      env.converted.retrieveInitialActorIdFromEnv.mapError fun e => rsgError e.what := by
  unfold EnvironmentStrings.retrieveInitialActorIdFromEnv Environment.retrieveInitialActorIdFromEnv
    EnvironmentStrings.converted EnvironmentStrings.convertInt
  cases env.initialActorId with
  | none => rfl
  | some text =>
      cases hstoi : stoi text with
      | ok actorId => simp only [hstoi, Except.mapError]
      | error e =>
          simp only [hstoi, Except.mapError]
          rfl

/-- The texts are read as the converted variables are, and the errors are cut. -/
theorem retrieveRsgConnectionParamsFromEnv_converted (env : EnvironmentStrings) :
    ConnectionParams.result env.retrieveRsgConnectionParamsFromEnv =
      env.converted.retrieveRsgConnectionParamsFromEnv.mapError fun e => rsgError e.what := by
  have hactorId := retrieveInitialActorIdFromEnv_converted env
  unfold EnvironmentStrings.retrieveRsgConnectionParamsFromEnv
    Environment.retrieveRsgConnectionParamsFromEnv
  generalize env.retrieveInitialActorIdFromEnv = read at hactorId ⊢
  generalize env.converted.retrieveInitialActorIdFromEnv = convertedRead at hactorId ⊢
  unfold EnvironmentStrings.converted EnvironmentStrings.convertInt
  cases env.serverHostname with
  | none => rfl
  | some serverHostname =>
      cases env.serverPort with
      | none => rfl
      | some text =>
          cases hstoi : stoi text with
          | error e =>
              simp only [hstoi, ConnectionParams.result, Except.mapError]
              rfl
          | ok value =>
              simp only [hstoi, hactorId]
              cases convertedRead <;> rfl

/-! ### Numerals -/

/-- A text that is all of it a decimal numeral: digits, with a sign or without. -/
def IsNumeral (text : String) (value : Int) : Prop :=
  ∃ digits : List Char, digits ≠ [] ∧ (∀ c ∈ digits, c.isDigit = true) ∧
    (value = digitsValue digits ∧ (text.toList = digits ∨ text.toList = '+' :: digits) ∨
      value = -digitsValue digits ∧ text.toList = '-' :: digits)

/-- The numerals that are ports. -/
def ValidPort (text : String) (port : Nat) : Prop := IsNumeral text port ∧ port ≤ 65535

/-- The numerals that are actor ids. -/
def ValidActorId (text : String) (actorId : Int) : Prop := IsNumeral text actorId ∧ InInt actorId

theorem stoiDigits_of_digits {negative : Bool} {digits : List Char} (hne : digits ≠ [])
    (hdigits : ∀ c ∈ digits, c.isDigit = true) {value : Int}
    (hvalue : value = if negative then -(digitsValue digits : Int) else digitsValue digits) :
    stoiDigits negative digits = if InInt value then .ok value else .error .outOfRange := by
  have htake : digits.takeWhile Char.isDigit = digits := List.takeWhile_eq_self_iff.mpr hdigits
  unfold stoiDigits
  simp only [htake, if_neg hne, ← hvalue]

theorem not_isSpace_of_isDigit {c : Char} (h : c.isDigit = true) :
    isSpace c = false ∧ c ≠ '-' ∧ c ≠ '+' := by
  have hrange : 48 ≤ c.toNat ∧ c.toNat ≤ 57 := Char.isDigit_iff_toNat.mp h
  refine ⟨?_, ?_, ?_⟩
  · unfold isSpace
    have hspace : c ≠ ' ' := by
      rintro rfl
      exact absurd hrange.1 (by decide)
    simp only [hspace, decide_false, Bool.false_or, Bool.and_eq_false_iff, decide_eq_false_iff_not]
    omega
  · rintro rfl
    exact absurd hrange.1 (by decide)
  · rintro rfl
    exact absurd hrange.1 (by decide)

/-- A numeral is converted to its value, if an `int` can hold it. -/
theorem stoi_of_isNumeral {text : String} {value : Int} (h : IsNumeral text value) :
    stoi text = if InInt value then .ok value else .error .outOfRange := by
  obtain ⟨digits, hne, hdigits, hsign⟩ := h
  unfold stoi
  rcases hsign with ⟨hvalue, htext | htext⟩ | ⟨hvalue, htext⟩
  · obtain ⟨first, rest, rfl⟩ := List.exists_cons_of_ne_nil hne
    obtain ⟨hspace, hminus, hplus⟩ := not_isSpace_of_isDigit (hdigits first List.mem_cons_self)
    rw [htext, List.dropWhile_cons_of_neg (by simp [hspace]), stoiSigned]
    · exact stoiDigits_of_digits hne hdigits hvalue
    · exact fun _ heq => hminus (List.cons.inj heq).1
    · exact fun _ heq => hplus (List.cons.inj heq).1
  · rw [htext, List.dropWhile_cons_of_neg (by decide), stoiSigned]
    exact stoiDigits_of_digits hne hdigits hvalue
  · rw [htext, List.dropWhile_cons_of_neg (by decide), stoiSigned]
    exact stoiDigits_of_digits hne hdigits hvalue

theorem stoi_of_validPort {text : String} {port : Nat} (h : ValidPort text port) :
    stoi text = .ok port := by
  have hint : InInt port := by
    have hport := h.2
    unfold InInt
    omega
  rw [stoi_of_isNumeral h.1, if_pos hint]

theorem stoi_of_validActorId {text : String} {actorId : Int} (h : ValidActorId text actorId) :
    stoi text = .ok actorId := by
  rw [stoi_of_isNumeral h.1, if_pos h.2]

/-- The characters of a numeral. -/
theorem IsNumeral.chars {text : String} {value : Int} (h : IsNumeral text value) :
    ∀ c ∈ text.toList, c.isDigit = true ∨ c = '+' ∨ c = '-' := by
  obtain ⟨digits, -, hdigits, ⟨-, htext | htext⟩ | ⟨-, htext⟩⟩ := h
  · rw [htext]
    exact fun c hc => Or.inl (hdigits c hc)
  · intro c hc
    rw [htext] at hc
    rcases List.mem_cons.mp hc with rfl | hc
    · exact Or.inr (Or.inl rfl)
    · exact Or.inl (hdigits c hc)
  · intro c hc
    rw [htext] at hc
    rcases List.mem_cons.mp hc with rfl | hc
    · exact Or.inr (Or.inr rfl)
    · exact Or.inl (hdigits c hc)

/-! ### The errors -/

/-- An error begins as its format does. -/
theorem take_rsgError (front rest : String) {n : Nat} (hn : n ≤ front.toList.length)
    (hbuffer : n ≤ 1023) : (rsgError (front ++ rest)).what.toList.take n = front.toList.take n := by
  unfold rsgError
  rw [String.toList_ofList, String.toList_append, List.take_take, Nat.min_eq_left hbuffer,
    List.take_append_of_le_length hn]

/-- Errors whose formats differ at the beginning are different. -/
theorem rsgError_ne {front front' rest rest' : String} (n : Nat)
    (hn : n ≤ front.toList.length ∧ n ≤ front'.toList.length ∧ n ≤ 1023)
    (hne : front.toList.take n ≠ front'.toList.take n) :
    rsgError (front ++ rest) ≠ rsgError (front' ++ rest') := by
  intro heq
  have htake := congrArg (fun e => e.what.toList.take n) heq
  simp only [take_rsgError front rest hn.1 hn.2.2, take_rsgError front' rest' hn.2.1 hn.2.2] at htake
  exact hne htake

theorem notAnActorId_ne_notAPort (text text' : String) : notAnActorId text ≠ notAPort text' := by
  unfold notAnActorId notAPort
  rw [String.append_assoc, String.append_assoc]
  exact rsgError_ne 50 (by decide) (by decide)

/-- The text of a refused actor id names its variable. -/
theorem mentions_notAnActorId (text : String) :
    "RSG_INITIAL_ACTOR_ID".toList <:+: (notAnActorId text).what.toList := by
  have hfront := take_rsgError "Invalid RSG connection initialization: RSG_INITIAL_ACTOR_ID ('"
    (text ++ "') is not a valid actor id") (by decide : 62 ≤ _) (by decide)
  have hinfix : "RSG_INITIAL_ACTOR_ID".toList <:+:
      "Invalid RSG connection initialization: RSG_INITIAL_ACTOR_ID ('".toList.take 62 := by
    decide
  unfold notAnActorId
  rw [String.append_assoc]
  rw [← hfront] at hinfix
  exact hinfix.trans (List.take_prefix _ _).isInfix

/-! ### The settings -/

/-- What has to come of a port and an actor id: the connection of a valid pair, or the error about what is
not valid. -/
structure FollowsSettings (serverHostname serverPort initialActorId : String)
    (outcome : Except Error ConnectionParams) : Prop where
  connects : ∀ port actorId, ValidPort serverPort port → ValidActorId initialActorId actorId →
    outcome = .ok { serverHostname := serverHostname, port := port, actorId := actorId }
  refusesActorId : ∀ port, ValidPort serverPort port →
    (∀ actorId, ¬ValidActorId initialActorId actorId) → outcome = .error (notAnActorId initialActorId)
  refusesPort : (∀ port, ¬ValidPort serverPort port) → outcome = .error (notAPort serverPort)

/-- `rsg kill` has killed the server. -/
def KillSucceeds (system : String → Int) (initialActorId serverHostname : String) (port : Nat) : Prop :=
  system (killCommand (some initialActorId) serverHostname port) = 0 ∨
    system (killCommand (some initialActorId) serverHostname port) = 1

/-- The conversions take only what is valid, and a server that has to be killed can be. -/
def SettingsTaken (system : String → Int) (serverHostname serverPort initialActorId : String) : Prop :=
  ((∃ e, stoi serverPort = .error e) ∧
      ("RSG_INITIAL_ACTOR_ID".toList <:+: (notAPort serverPort).what.toList →
        KillSucceeds system initialActorId serverHostname 0)) ∨
    ∃ port, ValidPort serverPort port ∧
      ((∃ actorId, ValidActorId initialActorId actorId) ∨
        (∃ e, stoi initialActorId = .error e) ∧
          KillSucceeds system initialActorId serverHostname port)

section

variable {system : String → Int} {serverHostname serverPort initialActorId : String} {params : ConnectionParams}
  {e : Error} {env : EnvironmentStrings}

theorem killReturned_eq (ret : Int) : s!"Could not kill server: `rsg kill` returned {ret}" =
    "Could not kill server: " ++ ("`rsg kill` returned " ++ toString ret) := by
  rw [← String.append_assoc]
  rfl

/-- The handler throws what it has caught or that the server could not be killed. -/
theorem afterError_outcome :
    (env.afterError system params e).outcome = .error e ∨
      ∃ rest, (env.afterError system params e).outcome =
        .error (rsgError ("Could not kill server: " ++ rest)) := by
  unfold EnvironmentStrings.afterError
  by_cases hmentions : "RSG_INITIAL_ACTOR_ID".toList <:+: e.what.toList
  · rw [if_pos hmentions]
    dsimp only
    split
    · exact Or.inr ⟨"Could not execute a `rsg` process.", rfl⟩
    · split
      · exact Or.inl rfl
      · exact Or.inr ⟨_, congrArg (fun text => Except.error (rsgError text)) (killReturned_eq _)⟩
  · rw [if_neg hmentions]
    exact Or.inl rfl

/-- The handler throws what it has caught just if the server needs not be killed or can be. -/
theorem afterError_eq_iff
    (hother : ∀ rest, rsgError ("Could not kill server: " ++ rest) ≠ e)
    (hactorId : env.initialActorId = some initialActorId) :
    (env.afterError system params e).outcome = .error e ↔
      ("RSG_INITIAL_ACTOR_ID".toList <:+: e.what.toList →
        KillSucceeds system initialActorId params.serverHostname params.port) := by
  unfold EnvironmentStrings.afterError KillSucceeds
  rw [hactorId]
  by_cases hmentions : "RSG_INITIAL_ACTOR_ID".toList <:+: e.what.toList
  · rw [if_pos hmentions]
    dsimp only
    generalize system (killCommand (some initialActorId) params.serverHostname params.port) = ret
    by_cases hret : ret = 0 ∨ ret = 1
    · have hexecuted : ¬ret = -1 := by omega
      rw [if_neg hexecuted, if_pos hret]
      exact ⟨fun _ _ => hret, fun _ => rfl⟩
    · have hkilled : ¬(("RSG_INITIAL_ACTOR_ID".toList <:+: e.what.toList) → ret = 0 ∨ ret = 1) :=
        fun h => hret (h hmentions)
      rw [iff_false_right hkilled, if_neg hret]
      split
      · exact fun heq => hother "Could not execute a `rsg` process." (Except.error.inj heq)
      · intro heq
        rw [killReturned_eq] at heq
        exact hother _ (Except.error.inj heq)
  · rw [if_neg hmentions]
    exact ⟨fun _ h => absurd h hmentions, fun _ => rfl⟩

theorem couldNotKill_ne_notAPort (rest text : String) :
    rsgError ("Could not kill server: " ++ rest) ≠ notAPort text := by
  unfold notAPort
  rw [String.append_assoc]
  exact rsgError_ne 1 (by decide) (by decide)

theorem couldNotKill_ne_notAnActorId (rest text : String) :
    rsgError ("Could not kill server: " ++ rest) ≠ notAnActorId text := by
  unfold notAnActorId
  rw [String.append_assoc]
  exact rsgError_ne 1 (by decide) (by decide)

/-- `rsg::connect()` in a process where all three variables are set. -/
def connectOutcome (system : String → Int) (serverHostname serverPort initialActorId : String) :
    Except Error ConnectionParams :=
  (EnvironmentStrings.connect ⟨some serverHostname, some serverPort, some initialActorId⟩ system false
    (-1)).outcome

/-- A port that cannot be converted. -/
theorem follows_of_port_error {stoiError : StoiError} (hport : stoi serverPort = .error stoiError) :
    FollowsSettings serverHostname serverPort initialActorId
        (connectOutcome system serverHostname serverPort initialActorId) ↔
      SettingsTaken system serverHostname serverPort initialActorId := by
  have hinvalid : ∀ port, ¬ValidPort serverPort port := by
    intro port h
    rw [stoi_of_validPort h] at hport
    cases hport
  have houtcome : connectOutcome system serverHostname serverPort initialActorId =
      (EnvironmentStrings.afterError ⟨some serverHostname, some serverPort, some initialActorId⟩ system
        { serverHostname := serverHostname } (notAPort serverPort)).outcome := by
    simp only [connectOutcome, EnvironmentStrings.connect, Bool.false_eq_true, if_false,
      EnvironmentStrings.retrieveRsgConnectionParamsFromEnv, hport]
  have hthrows : connectOutcome system serverHostname serverPort initialActorId =
      .error (notAPort serverPort) ↔ _ := houtcome ▸
    afterError_eq_iff (couldNotKill_ne_notAPort · serverPort) (rfl : _ = some initialActorId)
  constructor
  · intro h
    exact Or.inl ⟨⟨_, hport⟩, hthrows.mp (h.refusesPort hinvalid)⟩
  · rintro (⟨-, hkill⟩ | ⟨port, hvalid, -⟩)
    · exact
        { connects := fun port _ hvalid => absurd hvalid (hinvalid port)
          refusesActorId := fun port hvalid => absurd hvalid (hinvalid port)
          refusesPort := fun _ => hthrows.mpr hkill }
    · exact absurd hvalid (hinvalid port)

/-- A port that is converted. -/
theorem connectOutcome_of_port {value : Int} (hport : stoi serverPort = .ok value)
    (system : String → Int) (serverHostname initialActorId : String) :
    (∀ actorId, stoi initialActorId = .ok actorId →
      connectOutcome system serverHostname serverPort initialActorId =
        .ok ⟨serverHostname, (value % 2 ^ 16).toNat, actorId⟩) ∧
    ∀ stoiError, stoi initialActorId = .error stoiError →
      connectOutcome system serverHostname serverPort initialActorId =
        (EnvironmentStrings.afterError ⟨some serverHostname, some serverPort, some initialActorId⟩ system
          { serverHostname := serverHostname, port := (value % 2 ^ 16).toNat }
          (notAnActorId initialActorId)).outcome := by
  constructor
  · intro actorId hactorId
    simp only [connectOutcome, EnvironmentStrings.connect, Bool.false_eq_true, if_false,
      EnvironmentStrings.retrieveRsgConnectionParamsFromEnv, hport,
      EnvironmentStrings.retrieveInitialActorIdFromEnv, hactorId, if_true]
  · intro stoiError hactorId
    simp only [connectOutcome, EnvironmentStrings.connect, Bool.false_eq_true, if_false,
      EnvironmentStrings.retrieveRsgConnectionParamsFromEnv, hport,
      EnvironmentStrings.retrieveInitialActorIdFromEnv, hactorId]

/-- A valid port. -/
theorem follows_of_validPort {port : Nat} (hvalid : ValidPort serverPort port) :
    FollowsSettings serverHostname serverPort initialActorId
        (connectOutcome system serverHostname serverPort initialActorId) ↔
      SettingsTaken system serverHostname serverPort initialActorId := by
  have hport := stoi_of_validPort hvalid
  have hunique : ∀ other, ValidPort serverPort other → other = port := by
    intro other hother
    have hsame := stoi_of_validPort hother
    rw [hport] at hsame
    exact Int.ofNat_inj.mp (Except.ok.inj hsame).symm
  have hnarrowed : ((port : Int) % 2 ^ 16).toNat = port := by
    have hle := hvalid.2
    omega
  obtain ⟨hok, herror⟩ := connectOutcome_of_port hport system serverHostname initialActorId
  rw [hnarrowed] at hok herror
  have hnotError : ¬∃ e, stoi serverPort = .error e := by
    rintro ⟨e, he⟩
    rw [hport] at he
    cases he
  cases hactorId : stoi initialActorId with
  | error stoiError =>
      have hinvalid : ∀ actorId, ¬ValidActorId initialActorId actorId := by
        intro actorId h
        rw [stoi_of_validActorId h] at hactorId
        cases hactorId
      have hthrows : connectOutcome system serverHostname serverPort initialActorId =
          .error (notAnActorId initialActorId) ↔ _ := herror stoiError hactorId ▸
        afterError_eq_iff (couldNotKill_ne_notAnActorId · initialActorId)
          (rfl : _ = some initialActorId)
      have hkill : connectOutcome system serverHostname serverPort initialActorId =
          .error (notAnActorId initialActorId) ↔
            KillSucceeds system initialActorId serverHostname port :=
        hthrows.trans ⟨fun h => h (mentions_notAnActorId initialActorId), fun h _ => h⟩
      constructor
      · intro h
        exact Or.inr ⟨port, hvalid, Or.inr ⟨⟨_, hactorId⟩,
          hkill.mp (h.refusesActorId port hvalid hinvalid)⟩⟩
      · rintro (⟨herror', -⟩ | ⟨other, hother, ⟨actorId, hvalid'⟩ | ⟨-, hkilled⟩⟩)
        · exact absurd herror' hnotError
        · exact absurd hvalid' (hinvalid actorId)
        · obtain rfl := hunique other hother
          exact
            { connects := fun _ actorId _ hvalid' => absurd hvalid' (hinvalid actorId)
              refusesActorId := fun _ _ _ => hkill.mpr hkilled
              refusesPort := fun hnone => absurd hvalid (hnone other) }
  | ok actorId =>
      have houtcome := hok actorId hactorId
      constructor
      · intro h
        by_cases hactor : ∃ actorId, ValidActorId initialActorId actorId
        · exact Or.inr ⟨port, hvalid, Or.inl hactor⟩
        · have hthrows := h.refusesActorId port hvalid (not_exists.mp hactor)
          rw [houtcome] at hthrows
          cases hthrows
      · rintro (⟨herror', -⟩ | ⟨other, hother, ⟨actorId', hvalid'⟩ | ⟨⟨e, he⟩, -⟩⟩)
        · exact absurd herror' hnotError
        · exact
            { connects := fun other other' hother hother' => by
                rw [hunique other hother, houtcome]
                rw [stoi_of_validActorId hother'] at hactorId
                cases hactorId
                rfl
              refusesActorId := fun _ _ hnone => absurd hvalid' (hnone actorId')
              refusesPort := fun hnone => absurd hvalid (hnone port) }
        · rw [hactorId] at he
          cases he

/-- A port that is converted but not valid. -/
theorem follows_of_invalidPort {value : Int} (hport : stoi serverPort = .ok value)
    (hinvalid : ∀ port, ¬ValidPort serverPort port) :
    FollowsSettings serverHostname serverPort initialActorId
        (connectOutcome system serverHostname serverPort initialActorId) ↔
      SettingsTaken system serverHostname serverPort initialActorId := by
  obtain ⟨hok, herror⟩ := connectOutcome_of_port hport system serverHostname initialActorId
  constructor
  · intro h
    have hthrows := h.refusesPort hinvalid
    cases hactorId : stoi initialActorId with
    | ok actorId =>
        rw [hok actorId hactorId] at hthrows
        cases hthrows
    | error stoiError =>
        rw [herror stoiError hactorId] at hthrows
        rcases afterError_outcome with houtcome | ⟨rest, houtcome⟩
        · rw [houtcome] at hthrows
          exact absurd (Except.error.inj hthrows) (notAnActorId_ne_notAPort _ _)
        · rw [houtcome] at hthrows
          exact absurd (Except.error.inj hthrows) (couldNotKill_ne_notAPort _ _)
  · rintro (⟨⟨e, he⟩, -⟩ | ⟨port, hvalid, -⟩)
    · rw [hport] at he
      cases he
    · exact absurd hvalid (hinvalid port)

/-- A client follows its settings just if the conversions take what is valid and nothing else, and the
server can be killed when it has to be. -/
theorem connect_follows_iff (system : String → Int)
    (serverHostname serverPort initialActorId : String) :
    FollowsSettings serverHostname serverPort initialActorId
        (connectOutcome system serverHostname serverPort initialActorId) ↔
      SettingsTaken system serverHostname serverPort initialActorId := by
  cases hport : stoi serverPort with
  | error stoiError => exact follows_of_port_error hport
  | ok value =>
      by_cases hvalid : ∃ port, ValidPort serverPort port
      · obtain ⟨port, hvalid⟩ := hvalid
        exact follows_of_validPort hvalid
      · exact follows_of_invalidPort hport (not_exists.mp hvalid)

end

/-- The port "80x" is taken for 80 and the port "65616" for 80 as well; the actor id "1 2" is taken
for 1. -/
theorem connect_does_not_follow :
    connectOutcome (fun _ => 0) "localhost" "80x" "1" = .ok ⟨"localhost", 80, 1⟩ ∧
      ¬FollowsSettings "localhost" "80x" "1" (connectOutcome (fun _ => 0) "localhost" "80x" "1") ∧
      connectOutcome (fun _ => 0) "localhost" "65616" "1" = .ok ⟨"localhost", 80, 1⟩ ∧
      ¬FollowsSettings "localhost" "65616" "1"
        (connectOutcome (fun _ => 0) "localhost" "65616" "1") ∧
      connectOutcome (fun _ => 0) "localhost" "80" "1 2" = .ok ⟨"localhost", 80, 1⟩ ∧
      ¬FollowsSettings "localhost" "80" "1 2" (connectOutcome (fun _ => 0) "localhost" "80" "1 2") := by
  have hport : ∀ text, connectOutcome (fun _ => 0) "localhost" text "1" = .ok ⟨"localhost", 80, 1⟩ →
      (∀ port, ¬ValidPort text port) → ¬FollowsSettings "localhost" text "1"
        (connectOutcome (fun _ => 0) "localhost" text "1") := by
    intro text houtcome hinvalid h
    have hthrows := h.refusesPort hinvalid
    rw [houtcome] at hthrows
    cases hthrows
  have htrailing : connectOutcome (fun _ => 0) "localhost" "80x" "1" = .ok ⟨"localhost", 80, 1⟩ := by
    decide
  have hlarge : connectOutcome (fun _ => 0) "localhost" "65616" "1" = .ok ⟨"localhost", 80, 1⟩ := by
    decide
  have hactorId : connectOutcome (fun _ => 0) "localhost" "80" "1 2" = .ok ⟨"localhost", 80, 1⟩ := by
    decide
  refine ⟨htrailing, hport "80x" htrailing ?_, hlarge, hport "65616" hlarge ?_, hactorId, ?_⟩
  · intro port hvalid
    have hx := hvalid.1.chars 'x' (by decide)
    revert hx
    decide
  · intro port hvalid
    have hvalue : stoi "65616" = .ok 65616 := by decide
    have hsame := Except.ok.inj ((stoi_of_validPort hvalid).symm.trans hvalue)
    have hle := hvalid.2
    omega
  · intro h
    have heighty : ValidPort "80" 80 :=
      ⟨⟨['8', '0'], by decide, List.all_eq_true.mp (by decide), Or.inl ⟨by decide, Or.inl (by decide)⟩⟩,
        by decide⟩
    have hthrows := h.refusesActorId 80 heighty fun actorId hvalid => by
      have hspace := hvalid.1.chars ' ' (by decide)
      revert hspace
      decide
    rw [hactorId] at hthrows
    cases hthrows

end RemoteSimgrid
