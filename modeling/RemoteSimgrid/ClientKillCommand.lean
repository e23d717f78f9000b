import RemoteSimgrid.ClientEnvironment
import RemoteSimgrid.LibraryShellWords

/-! The command by which a client kills the server when its actor id is refused, as the shell reads it. -/

namespace RemoteSimgrid

open Shell

/-- The words of `rsg kill`, with a reason and the host and the port of a server. -/
def killWords (reason serverHostname : List Char) (port : Nat) : List (List Char) :=
  ["rsg".toList, "kill".toList, "--reason=".toList ++ reason, "-h".toList, serverHostname, "-p".toList,
    Nat.toDigits 10 port]

/-- A command is read by the shell as one invocation of `rsg kill`, whatever files there are, which tells the
server the actor id that has been refused. -/
def KillsServer (initialActorId : Option String) (serverHostname : String) (port : Nat)
    (command : String) : Prop :=
  ∃ reason, shellWords command.toList = some (killWords reason serverHostname.toList port) ∧
    ∀ text ∈ initialActorId, text.toList <:+: reason

section

variable {initialActorId : Option String} {serverHostname : String} {port : Nat}

/-- The text of the actor id in the command. -/
def refusedText (initialActorId : Option String) : List Char := (initialActorId.getD "(null)").toList

/-- The actor id stands for itself inside of the quotes, the host is a word that stands for itself, and the
buffer of the command holds them and the port. -/
def KillReadable (initialActorId : Option String) (serverHostname : String) (port : Nat) : Prop :=
  plainQuoted (refusedText initialActorId) = true ∧ PlainWord serverHostname.toList ∧
    (refusedText initialActorId).length + serverHostname.toList.length + (Nat.toDigits 10 port).length ≤ 61

instance : Decidable (KillReadable initialActorId serverHostname port) :=
  inferInstanceAs (Decidable (_ ∧ _ ∧ _))

/-- A dollar sign and a bracket that begin nothing are read as they stand. -/
example : KillReadable (some "a$") "localhost" 35000 ∧ KillReadable (some "1 $") "[$" 35000 ∧
    ¬KillReadable (some "$a") "localhost" 35000 ∧ ¬KillReadable (some "a") "[$]" 35000 := by
  decide

/-- What the reason of the command begins with. -/
def reasonFront : List Char := "could not connect: invalid actor_id '".toList

/-- The words that follow the reason. -/
def serverArguments (serverHostname : List Char) (port : Nat) : List Char :=
  ' ' :: ("-h".toList ++ ' ' :: (serverHostname ++ ' ' :: ("-p".toList ++ ' ' :: Nat.toDigits 10 port)))

theorem killText_eq (initialActorId : Option String) (serverHostname : String) (port : Nat) :
    killText initialActorId serverHostname port =
      ("rsg".toList ++ ' ' :: ("kill".toList ++ ' ' :: ("--reason=".toList ++ doubleQuote :: reasonFront))) ++
        (refusedText initialActorId ++ [singleQuote, doubleQuote] ++
          serverArguments serverHostname.toList port) := by
  have hfront : "rsg kill --reason=\"could not connect: invalid actor_id '".toList =
      "rsg".toList ++ ' ' :: ("kill".toList ++ ' ' :: ("--reason=".toList ++ doubleQuote :: reasonFront)) := by
    decide
  have hclose : "'\" -h ".toList = [singleQuote, doubleQuote, ' '] ++ "-h".toList ++ [' '] := by
    decide
  have hport : " -p ".toList = [' '] ++ "-p".toList ++ [' '] := by decide
  unfold killText refusedText serverArguments
  rw [hfront, hclose, hport]
  simp only [List.append_assoc, List.cons_append, List.nil_append]

theorem isPlain_of_isDigit {c : Char} (h : c.isDigit = true) : isPlain c = true := by
  have hne : ∀ d : Char, d.isDigit = false → c ≠ d := by
    rintro d hd rfl
    rw [h] at hd
    cases hd
  have hoperator : "|&;<>()*?[".toList.contains c = false := by
    rw [← Bool.not_eq_true, List.contains_iff_mem]
    intro hmem
    have hnone : "|&;<>()*?[".toList.any Char.isDigit = false := by decide
    exact List.any_eq_false.mp hnone c hmem h
  simp only [isPlain, isBlank, isEscapable, hoperator, hne ' ' (by decide), hne '\t' (by decide),
    hne '$' (by decide), hne backquote (by decide), hne doubleQuote (by decide), hne backslash (by decide),
    hne '\n' (by decide), decide_false, Bool.or_self, Bool.not_false, Bool.true_and, Bool.and_true,
    bne_iff_ne, ne_eq, hne singleQuote (by decide), not_false_eq_true]

theorem plainWord_toDigits (port : Nat) : PlainWord (Nat.toDigits 10 port) := by
  have hdigits : ∀ c ∈ Nat.toDigits 10 port, c.isDigit = true :=
    fun c hc => Nat.isDigit_of_mem_toDigits (by decide) (by decide) hc
  refine .of_all Nat.toDigits_ne_nil ?_ ?_
    (List.all_eq_true.mpr fun c hc => isPlain_of_isDigit (hdigits c hc)) _
  · intro hhead
    exact absurd (hdigits '#' (List.mem_of_head? hhead)) (by decide)
  · intro hhead
    exact absurd (hdigits '~' (List.mem_of_head? hhead)) (by decide)

/-- The words of the command: what it has before the actor id is the same for all of them. -/
theorem killCommand_words (initialActorId : Option String) (serverHostname : String) (port : Nat) :
    ∃ fuel, 5 ≤ fuel ∧
      shellWords (killCommand initialActorId serverHostname port).toList =
        (word .double ((refusedText initialActorId ++ [singleQuote, doubleQuote] ++
          serverArguments serverHostname.toList port).take 71)).bind fun read =>
            (words fuel read.2).map fun all => "rsg".toList :: "kill".toList ::
              ("--reason=".toList ++ (reasonFront ++ read.1)) :: all := by
  generalize hpasted : refusedText initialActorId ++ [singleQuote, doubleQuote] ++
    serverArguments serverHostname.toList port = pasted
  have hcommand : (killCommand initialActorId serverHostname port).toList =
      "rsg".toList ++ ' ' :: ("kill".toList ++ ' ' ::
        ("--reason=".toList ++ doubleQuote :: (reasonFront ++ pasted.take 71))) := by
    have hlength : ("rsg".toList ++ ' ' :: ("kill".toList ++ ' ' ::
        ("--reason=".toList ++ doubleQuote :: reasonFront))).length = 56 := by decide
    unfold killCommand
    rw [String.toList_ofList, killText_eq, hpasted, List.take_append, hlength,
      List.take_of_length_le (by rw [hlength]; decide)]
    simp only [List.append_assoc, List.cons_append]
  have hfuel : (killCommand initialActorId serverHostname port).toList.length + 1 =
      (pasted.take 71).length + 54 + 3 := by
    have hfront : reasonFront.length = 37 := by decide
    have hwords : "rsg".toList.length = 3 ∧ "kill".toList.length = 4 ∧ "--reason=".toList.length = 9 := by
      decide
    rw [hcommand]
    simp only [List.length_append, List.length_cons, hfront, hwords]
    omega
  have hreason : word .unquoted (doubleQuote :: (reasonFront ++ pasted.take 71)) =
      (word .double (pasted.take 71)).map fun read => (reasonFront ++ read.1, read.2) := by
    have hquoted : reasonFront.any isEscapable = false := by decide
    rw [← word_quoted hquoted, word_openDouble]
  have hrsg : ∀ after, PlainFront "rsg".toList after :=
    PlainFront.of_all (by decide) (by decide) (by decide) (by decide)
  have hkill : ∀ after, PlainFront "kill".toList after :=
    PlainFront.of_all (by decide) (by decide) (by decide) (by decide)
  have hflag : ∀ after, PlainFront "--reason=".toList after :=
    PlainFront.of_all (by decide) (by decide) (by decide) (by decide)
  generalize pasted.take 71 = cut at hcommand hfuel hreason ⊢
  refine ⟨cut.length + 54, Nat.le_add_left_of_le (by decide), ?_⟩
  unfold shellWords
  rw [hfuel, hcommand]
  generalize cut.length + 54 = fuel
  rw [words_blank (hrsg _), words_blank (hkill _), words_append (hflag _), hreason]
  cases word .double cut with
  | none => rfl
  | some read =>
      simp only [Option.bind_some, Option.map_some, Option.map_map]
      rfl

/-- The words after the reason. -/
theorem words_serverArguments {serverHostname : List Char} (hhost : PlainWord serverHostname) (port fuel : Nat) :
    words (fuel + 5) (serverArguments serverHostname port) =
      some ["-h".toList, serverHostname, "-p".toList, Nat.toDigits 10 port] := by
  have hskip : ∀ text, words (fuel + 5) (' ' :: text) = words (fuel + 5) text := by
    intro text
    unfold words
    rw [List.dropWhile_cons_of_pos (by decide)]
  have hh : ∀ after, PlainFront "-h".toList after :=
    PlainFront.of_all (by decide) (by decide) (by decide) (by decide)
  have hp : ∀ after, PlainFront "-p".toList after :=
    PlainFront.of_all (by decide) (by decide) (by decide) (by decide)
  have hclosing : ']' ∉ ' ' :: ("-p".toList ++ ' ' :: Nat.toDigits 10 port) := by
    intro hmem
    have hin : ']' ∈ " -p ".toList ++ Nat.toDigits 10 port := hmem
    rcases List.mem_append.mp hin with hmem | hmem
    · exact absurd hmem (by decide)
    · exact absurd (Nat.isDigit_of_mem_toDigits (by decide) (by decide) hmem) (by decide)
  have hserver := hhost.front (fun c hc => by cases hc; rfl) hclosing
  unfold serverArguments
  rw [hskip, words_blank (hh _), words_blank hserver, words_blank (hp _),
    words_last (plainWord_toDigits port)]
  rfl

theorem length_serverArguments (serverHostname : List Char) (port : Nat) :
    (serverArguments serverHostname port).length =
        serverHostname.length + (Nat.toDigits 10 port).length + 8 ∧
      wordsLength ["-h".toList, serverHostname, "-p".toList, Nat.toDigits 10 port] =
        serverHostname.length + (Nat.toDigits 10 port).length + 8 := by
  have hh : "-h".toList.length = 2 := by decide
  have hp : "-p".toList.length = 2 := by decide
  constructor
  · simp only [serverArguments, List.length_cons, List.length_append, hh, hp]
    omega
  · simp only [wordsLength, List.map_cons, List.map_nil, List.sum_cons, List.sum_nil, hh, hp]
    omega

/-- A command whose parts can be read back is read as it is meant. -/
theorem killsServer_of_readable (h : KillReadable initialActorId serverHostname port) :
    KillsServer initialActorId serverHostname port (killCommand initialActorId serverHostname port) := by
  obtain ⟨hquoted, hhost, hlength⟩ := h
  obtain ⟨fuel, hfuel, hwords⟩ := killCommand_words initialActorId serverHostname port
  obtain ⟨more, rfl⟩ := Nat.exists_eq_add_of_le hfuel
  refine ⟨reasonFront ++ (refusedText initialActorId ++ [singleQuote]), ?_, ?_⟩
  · have hall : (refusedText initialActorId ++ [singleQuote, doubleQuote] ++
        serverArguments serverHostname.toList port).length ≤ 71 := by
      simp only [List.length_append, List.length_cons, List.length_nil,
        (length_serverArguments serverHostname.toList port).1]
      omega
    have hclose : word .double ([singleQuote, doubleQuote] ++ serverArguments serverHostname.toList port) =
        some ([singleQuote], serverArguments serverHostname.toList port) := by
      have hquoted : [singleQuote].any isEscapable = false := by decide
      have hstep := word_quoted hquoted (doubleQuote :: serverArguments serverHostname.toList port)
      have hend : word .unquoted (serverArguments serverHostname.toList port) =
          some ([], serverArguments serverHostname.toList port) := by
        unfold serverArguments
        rw [word.eq_def]
        exact if_pos (by decide)
      rw [word_closeDouble, hend] at hstep
      exact hstep
    rw [hwords, List.take_of_length_le hall, List.append_assoc]
    have hword := word_plainQuoted hquoted (c := singleQuote) (by decide) (by decide)
      (doubleQuote :: serverArguments serverHostname.toList port)
    rw [List.cons_append, List.cons_append, List.nil_append] at hclose ⊢
    rw [hword, hclose, Option.map_some, Option.bind_some, Nat.add_comm,
      words_serverArguments hhost port more]
    rfl
  · rintro text htext
    cases htext
    exact ⟨reasonFront, [singleQuote], by simp [refusedText]⟩

/-- A command that is read as it is meant has parts that can be read back. -/
theorem readable_of_killsServer
    (h : KillsServer initialActorId serverHostname port (killCommand initialActorId serverHostname port)) :
    KillReadable initialActorId serverHostname port := by
  obtain ⟨reason, hwords, hmentions⟩ := h
  obtain ⟨fuel, -, hread⟩ := killCommand_words initialActorId serverHostname port
  rw [hread] at hwords
  obtain ⟨⟨w, rest⟩, hword, hrest⟩ := Option.bind_eq_some_iff.mp hwords
  obtain ⟨all, hall, heq⟩ := Option.map_eq_some_iff.mp hrest
  simp only [killWords, List.cons.injEq, true_and, List.append_cancel_left_eq] at heq
  obtain ⟨rfl, rfl⟩ := heq
  dsimp only at hall
  obtain ⟨used, hused, hlexed, hstarts⟩ := word_lexed hword
  obtain ⟨harguments, hneeded⟩ := length_serverArguments serverHostname.toList port
  have hafter := wordsLength_le hall hstarts
  have hcut := congrArg List.length hused
  rw [List.length_append, List.length_take, List.length_append, List.length_append, harguments] at hcut
  simp only [List.length_cons, List.length_nil] at hcut
  have hprefix : used <+: refusedText initialActorId ++ [singleQuote, doubleQuote] := by
    refine List.prefix_of_prefix_length_le ((hused ▸ List.prefix_append used rest).trans
      (List.take_prefix 71 _)) (List.prefix_append _ _) ?_
    simp only [List.length_append, List.length_cons, List.length_nil]
    omega
  have hfound : plainQuoted (refusedText initialActorId) = false →
      refusedText initialActorId <:+: reasonFront ++ w := by
    intro hquoted
    cases hid : initialActorId with
    | none =>
        rw [hid] at hquoted
        exact absurd hquoted (by decide)
    | some text =>
        rw [hid] at hmentions
        exact hmentions text rfl
  obtain ⟨hquoted, rfl⟩ := hlexed.eq_of_pasted hprefix hfound (by decide) (by decide)
  simp only [List.length_append, List.length_cons, List.length_nil] at hcut
  have hplain := plainWord_of_length hall hstarts (by omega)
  refine ⟨hquoted, hplain _ (by simp), by omega⟩

/-- An actor id that is refused. -/
def Refused (initialActorId : Option String) : Prop :=
  ∀ text ∈ initialActorId, ∃ e, stoi text = .error e

theorem mentions_actorIdNotSet : "RSG_INITIAL_ACTOR_ID".toList <:+: actorIdNotSet.what.toList := by
  decide

/-- A client whose actor id is refused gives one command to the shell. -/
theorem connect_commands {env : EnvironmentStrings} {text : String} {value : Int}
    (hhost : env.serverHostname = some serverHostname) (hport : env.serverPort = some text)
    (hvalue : stoi text = .ok value) (hrefused : Refused env.initialActorId) (system : String → Int)
    (actorId : Int) :
    (env.connect system false actorId).commands =
      [killCommand env.initialActorId serverHostname (value % 2 ^ 16).toNat] := by
  have hread : ∃ e, env.retrieveInitialActorIdFromEnv = .error e ∧
      "RSG_INITIAL_ACTOR_ID".toList <:+: e.what.toList := by
    cases hid : env.initialActorId with
    | none =>
        refine ⟨actorIdNotSet, ?_, mentions_actorIdNotSet⟩
        simp only [EnvironmentStrings.retrieveInitialActorIdFromEnv, hid]
    | some id =>
        obtain ⟨e, he⟩ := hrefused id hid
        refine ⟨notAnActorId id, ?_, mentions_notAnActorId id⟩
        simp only [EnvironmentStrings.retrieveInitialActorIdFromEnv, hid, he]
  obtain ⟨e, herror, hmentions⟩ := hread
  have hparams : env.retrieveRsgConnectionParamsFromEnv =
      ({ serverHostname := serverHostname, port := (value % 2 ^ 16).toNat }, some e) := by
    simp only [EnvironmentStrings.retrieveRsgConnectionParamsFromEnv, hhost, hport, hvalue, herror]
  unfold EnvironmentStrings.connect
  rw [if_neg Bool.false_ne_true, hparams]
  dsimp only
  unfold EnvironmentStrings.afterError
  rw [if_pos hmentions]

end

end RemoteSimgrid
