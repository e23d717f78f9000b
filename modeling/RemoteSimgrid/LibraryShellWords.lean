import Mathlib.Algebra.GroupWithZero.Nat
import Mathlib.Data.List.Basic
import Mathlib.Data.List.TakeWhile

/-! The words of a shell command: quoting by backslash, single quotes and double quotes, blanks between
words and comments. A text with an operator, an expansion, a pattern or a line break outside of quotes is not
its words only, and neither is one that is not finished. What a pattern stands for depends on the files that
there are. A dollar sign in front of a character that begins no expansion stands for itself, and so does a
bracket that is not closed. -/

namespace RemoteSimgrid.Shell

def singleQuote : Char := Char.ofNat 39

def doubleQuote : Char := Char.ofNat 34

def backslash : Char := Char.ofNat 92

def backquote : Char := Char.ofNat 96

def isBlank (c : Char) : Bool := c = ' ' || c = '\t'

/-- A character that a backslash quotes inside of double quotes. -/
def isEscapable (c : Char) : Bool :=
  c = '$' || c = backquote || c = doubleQuote || c = backslash || c = '\n'

/-- A character that begins an expansion behind a dollar sign. -/
def isExpandable (c : Char) : Bool := c.isAlphanum || "_@*#?-$!\x7b(".toList.contains c

/-- In front of the text, a dollar sign begins an expansion, or may begin one behind a continued line. -/
def expands (text : List Char) : Bool :=
  text.head?.any isExpandable || [backslash, '\n'].isPrefixOf text

def closesBracket : List Char → Bool
  | [] => false
  | c :: text => c = ']' || c != '/' && closesBracket text

/-- Behind one character at least, there is a bracket that closes a set of characters. -/
def closesSet : List Char → Bool
  | [] => false
  | c :: text => c != '/' && closesBracket text

/-- In front of the text, an opening bracket begins a pattern. -/
def beginsPattern (text : List Char) : Bool :=
  closesSet (if text.head? = some '!' then text.tail else text)

/-- A character that stands for itself outside of quotes, inside of a word. -/
def isPlain (c : Char) : Bool :=
  !isBlank c && c != singleQuote && !isEscapable c &&
    !"|&;<>()*?[".toList.contains c

/-- A character stands for itself outside of quotes, in front of the text. -/
def stands (c : Char) (text : List Char) : Bool :=
  isPlain c ||
    c = '$' && !expands text && text.head? != some singleQuote && text.head? != some doubleQuote ||
    c = '[' && !beginsPattern text

inductive Quoting where
  | unquoted
  | single
  | double
  deriving DecidableEq

/-- One more character of the word. -/
def prepend (c : Char) (read : List Char × List Char) : List Char × List Char := (c :: read.1, read.2)

/-- The rest of a word and the text after it. -/
def word : Quoting → List Char → Option (List Char × List Char)
  | .unquoted, [] => some ([], [])
  | .single, [] => none
  | .double, [] => none
  | .unquoted, c :: text =>
      if isBlank c then some ([], c :: text)
      else if c = singleQuote then word .single text
      else if c = doubleQuote then word .double text
      else if c = backslash then
        match text with
        | [] => none
        | d :: rest => if d = '\n' then word .unquoted rest else (word .unquoted rest).map (prepend d)
      else if stands c text then (word .unquoted text).map (prepend c)
      else none
  | .single, c :: text =>
      if c = singleQuote then word .unquoted text else (word .single text).map (prepend c)
  | .double, c :: text =>
      if c = doubleQuote then word .unquoted text
      else if c = backquote ∨ c = '$' ∧ expands text = true then none
      else if c = backslash then
        match text with
        | [] => none
        | d :: rest =>
            if d = '\n' then word .double rest
            else if isEscapable d then (word .double rest).map (prepend d)
            else (word .double (d :: rest)).map (prepend c)
      else (word .double text).map (prepend c)

/-- The words of a text, of which there are `fuel` at most. A tilde at the beginning of a word is an
expansion. -/
def words : Nat → List Char → Option (List (List Char))
  | 0, _ => none
  | fuel + 1, text =>
      match text.dropWhile isBlank with
      | [] => some []
      | c :: rest =>
          if c = '#' then if '\n' ∈ rest then none else some []
          else if c = '~' then none
          else
            match word .unquoted (c :: rest) with
            | none => none
            | some (first, rest) => (words fuel rest).map (first :: ·)

/-- The words of a command. -/
def shellWords (text : List Char) : Option (List (List Char)) := words (text.length + 1) text

/-- A text stands for itself outside of quotes, in front of another one. -/
def plainUnquoted (after : List Char) : List Char → Bool
  | [] => true
  | c :: text => stands c (text ++ after) && plainUnquoted after text

/-- The beginning of a word that stands for itself, in front of the text. -/
structure PlainFront (front after : List Char) : Prop where
  nonempty : front ≠ []
  comment : front.head? ≠ some '#'
  tilde : front.head? ≠ some '~'
  plain : plainUnquoted after front = true

instance (front after : List Char) : Decidable (PlainFront front after) :=
  decidable_of_iff (front ≠ [] ∧ front.head? ≠ some '#' ∧ front.head? ≠ some '~' ∧
      plainUnquoted after front = true)
    ⟨fun h => ⟨h.1, h.2.1, h.2.2.1, h.2.2.2⟩, fun h => ⟨h.nonempty, h.comment, h.tilde, h.plain⟩⟩

/-- A word that stands for itself. -/
def PlainWord (text : List Char) : Prop := PlainFront text []

instance (text : List Char) : Decidable (PlainWord text) := inferInstanceAs (Decidable (PlainFront _ _))

/-- A text that stands for itself inside of double quotes, in front of a character that a backslash does
not quote there, and that begins no expansion. -/
def plainQuoted : List Char → Bool
  | [] => true
  | c :: text =>
      c != doubleQuote && c != backquote && !(c = '$' && text.head?.any isExpandable) &&
        !(c = backslash && text.head?.any isEscapable) && plainQuoted text

/-- How a text is read as the rest of a word: the text, and the characters that it gives. -/
inductive Lexed : Quoting → List Char → List Char → Prop
  | done : Lexed .unquoted [] []
  | plain {c used w} : stands c used = true → Lexed .unquoted used w → Lexed .unquoted (c :: used) (c :: w)
  | escaped {c used w} : Lexed .unquoted used w → Lexed .unquoted (backslash :: c :: used) (c :: w)
  | continued {used w} : Lexed .unquoted used w → Lexed .unquoted (backslash :: '\n' :: used) w
  | openSingle {used w} : Lexed .single used w → Lexed .unquoted (singleQuote :: used) w
  | closeSingle {used w} : Lexed .unquoted used w → Lexed .single (singleQuote :: used) w
  | single {c used w} : c ≠ singleQuote → Lexed .single used w → Lexed .single (c :: used) (c :: w)
  | openDouble {used w} : Lexed .double used w → Lexed .unquoted (doubleQuote :: used) w
  | closeDouble {used w} : Lexed .unquoted used w → Lexed .double (doubleQuote :: used) w
  | double {c used w} : c ≠ doubleQuote → c ≠ backquote →
      (c = '$' → used.head?.any isExpandable = false) →
      (c = backslash → used.head?.any isEscapable = false) → Lexed .double used w →
      Lexed .double (c :: used) (c :: w)
  | doubleEscaped {c used w} : isEscapable c = true → c ≠ '\n' → Lexed .double used w →
      Lexed .double (backslash :: c :: used) (c :: w)
  | doubleContinued {used w} : Lexed .double used w → Lexed .double (backslash :: '\n' :: used) w

section

variable {q : Quoting} {c : Char} {text used rest w : List Char}

theorem map_prepend_eq_some {read : Option (List Char × List Char)}
    (h : read.map (prepend c) = some (w, rest)) : ∃ tail, read = some (tail, rest) ∧ w = c :: tail := by
  obtain ⟨⟨tail, rest'⟩, hread, heq⟩ := Option.map_eq_some_iff.mp h
  cases heq
  exact ⟨tail, hread, rfl⟩

/-- A blank comes after a word, if anything does. -/
def StartsBlank (text : List Char) : Prop := ∀ c ∈ text.head?, isBlank c = true

/-! ### What a character stands for in front of a longer text -/

theorem expands_append (h : expands used = true) (rest : List Char) : expands (used ++ rest) = true := by
  rw [expands, Bool.or_eq_true, List.isPrefixOf_iff_prefix] at h ⊢
  refine h.imp (fun hhead => ?_) fun hline => hline.trans (List.prefix_append _ _)
  cases used with
  | nil => cases hhead
  | cons d used => exact hhead

theorem closesBracket_append (h : closesBracket used = true) (rest : List Char) :
    closesBracket (used ++ rest) = true := by
  induction used with
  | nil => cases h
  | cons d used ih =>
      simp only [List.cons_append, closesBracket, Bool.or_eq_true, Bool.and_eq_true] at h ⊢
      exact h.imp_right fun htail => ⟨htail.1, ih htail.2⟩

theorem closesBracket_of_append (h : closesBracket (used ++ rest) = true) (hrest : ']' ∉ rest) :
    closesBracket used = true := by
  induction used with
  | nil =>
      exfalso
      rw [List.nil_append] at h
      induction rest with
      | nil => cases h
      | cons d rest ih =>
          simp only [closesBracket, Bool.or_eq_true, Bool.and_eq_true, decide_eq_true_eq] at h
          rcases h with rfl | ⟨-, h⟩
          · exact hrest List.mem_cons_self
          · exact ih (List.not_mem_of_not_mem_cons hrest) h
  | cons d used ih =>
      simp only [List.cons_append, closesBracket, Bool.or_eq_true, Bool.and_eq_true] at h ⊢
      exact h.imp_right fun htail => ⟨htail.1, ih htail.2⟩

theorem mem_of_closesBracket (h : closesBracket text = true) : ']' ∈ text := by
  by_contra hnot
  rw [← List.nil_append text] at h
  exact Bool.false_ne_true (closesBracket_of_append h hnot)

theorem closesSet_append (h : closesSet used = true) (rest : List Char) :
    closesSet (used ++ rest) = true := by
  cases used with
  | nil => cases h
  | cons d used =>
      simp only [List.cons_append, closesSet, Bool.and_eq_true] at h ⊢
      exact ⟨h.1, closesBracket_append h.2 rest⟩

theorem closesSet_of_append (h : closesSet (used ++ rest) = true) (hrest : ']' ∉ rest) :
    closesSet used = true := by
  cases used with
  | nil =>
      cases rest with
      | nil => cases h
      | cons d rest =>
          simp only [List.nil_append, closesSet, Bool.and_eq_true] at h
          exact absurd (List.mem_cons_of_mem _ (mem_of_closesBracket h.2)) hrest
  | cons d used =>
      simp only [List.cons_append, closesSet, Bool.and_eq_true] at h ⊢
      exact ⟨h.1, closesBracket_of_append h.2 hrest⟩

theorem mem_of_closesSet (h : closesSet text = true) : ']' ∈ text := by
  by_contra hnot
  rw [← List.nil_append text] at h
  exact Bool.false_ne_true (closesSet_of_append h hnot)

theorem beginsPattern_append (h : beginsPattern used = true) (rest : List Char) :
    beginsPattern (used ++ rest) = true := by
  cases used with
  | nil => cases h
  | cons d used =>
      simp only [beginsPattern, List.cons_append, List.head?_cons, List.tail_cons, Option.some.injEq]
        at h ⊢
      by_cases hnot : d = '!'
      · rw [if_pos hnot] at h ⊢
        exact closesSet_append h rest
      · rw [if_neg hnot] at h ⊢
        exact closesSet_append h rest

theorem beginsPattern_of_append (h : beginsPattern (used ++ rest) = true) (hrest : ']' ∉ rest) :
    beginsPattern used = true := by
  cases used with
  | nil =>
      rw [List.nil_append, beginsPattern] at h
      split at h
      · exact absurd (List.mem_of_mem_tail (mem_of_closesSet h)) hrest
      · exact absurd (mem_of_closesSet h) hrest
  | cons d used =>
      simp only [beginsPattern, List.cons_append, List.head?_cons, List.tail_cons, Option.some.injEq]
        at h ⊢
      by_cases hnot : d = '!'
      · rw [if_pos hnot] at h ⊢
        exact closesSet_of_append h hrest
      · rw [if_neg hnot] at h ⊢
        exact closesSet_of_append h hrest

theorem stands_of_append (h : stands c (used ++ rest) = true) : stands c used = true := by
  simp only [stands, Bool.or_eq_true, Bool.and_eq_true, Bool.not_eq_true', decide_eq_true_eq,
    bne_iff_ne, ne_eq] at h ⊢
  refine h.imp (Or.imp_right ?_) ?_
  · rintro ⟨⟨⟨hc, hexpands⟩, hsingle⟩, hdouble⟩
    refine ⟨⟨⟨hc, Bool.eq_false_iff.mpr fun hused => ?_⟩, fun hused => hsingle ?_⟩, fun hused => hdouble ?_⟩
    · rw [expands_append hused rest] at hexpands
      cases hexpands
    · rw [List.head?_append, hused, Option.some_or]
    · rw [List.head?_append, hused, Option.some_or]
  · rintro ⟨hc, hpattern⟩
    refine ⟨hc, Bool.eq_false_iff.mpr fun hused => ?_⟩
    rw [beginsPattern_append hused rest] at hpattern
    cases hpattern

theorem isExpandable_of_isBlank (h : isBlank c = true) : isExpandable c = false := by
  simp only [isBlank, Bool.or_eq_true, decide_eq_true_eq] at h
  rcases h with rfl | rfl
  · decide
  · decide

theorem expands_of_append (h : expands (used ++ rest) = true) (hrest : StartsBlank rest) :
    expands used = true := by
  cases used with
  | nil =>
      cases rest with
      | nil => cases h
      | cons d rest =>
          have hblank : isBlank d = true := hrest d rfl
          have hd : ¬backslash = d := by
            rintro rfl
            exact absurd hblank (by decide)
          simp [expands, isExpandable_of_isBlank hblank, hd] at h
  | cons d used =>
      cases used with
      | nil =>
          cases rest with
          | nil => exact h
          | cons e rest =>
              have hblank : isBlank e = true := hrest e rfl
              have he : ¬ '\n' = e := by
                rintro rfl
                exact absurd hblank (by decide)
              simpa [expands, he] using h
      | cons e used => exact h

/-- Behind a blank that ends a word, nothing changes what is in it, unless it has a bracket that closes. -/
theorem stands_append (h : stands c used = true) (hrest : StartsBlank rest) (hclosing : ']' ∉ rest) :
    stands c (used ++ rest) = true := by
  have hquote : ∀ d, isBlank d = false → used.head? ≠ some d → (used ++ rest).head? ≠ some d := by
    intro d hd hused hhead
    cases used with
    | nil =>
        rw [hrest d hhead] at hd
        cases hd
    | cons e used => exact hused hhead
  simp only [stands, Bool.or_eq_true, Bool.and_eq_true, Bool.not_eq_true', decide_eq_true_eq,
    bne_iff_ne] at h ⊢
  refine h.imp (Or.imp_right ?_) ?_
  · rintro ⟨⟨⟨hc, hexpands⟩, hsingle⟩, hdouble⟩
    refine ⟨⟨⟨hc, Bool.eq_false_iff.mpr fun hused => ?_⟩, hquote _ (by decide) hsingle⟩,
      hquote _ (by decide) hdouble⟩
    rw [expands_of_append hused hrest] at hexpands
    cases hexpands
  · rintro ⟨hc, hpattern⟩
    refine ⟨hc, Bool.eq_false_iff.mpr fun hused => ?_⟩
    rw [beginsPattern_of_append hused hclosing] at hpattern
    cases hpattern

theorem stands_of_isPlain (h : isPlain c = true) (text : List Char) : stands c text = true := by
  rw [stands, h, Bool.true_or, Bool.true_or]

/-- Blanks, quotes and backslashes do not stand for themselves. -/
theorem ne_of_stands (h : stands c text = true) :
    isBlank c = false ∧ c ≠ singleQuote ∧ c ≠ doubleQuote ∧ c ≠ backslash := by
  simp only [stands, Bool.or_eq_true, Bool.and_eq_true, decide_eq_true_eq] at h
  rcases h with (hplain | ⟨⟨⟨rfl, -⟩, -⟩, -⟩) | ⟨rfl, -⟩
  · simp only [isPlain, isEscapable, Bool.and_eq_true, Bool.not_eq_true', bne_iff_ne,
      Bool.or_eq_false_iff, decide_eq_false_iff_not] at hplain
    obtain ⟨⟨⟨hblank, hsingle⟩, ⟨⟨-, hdouble⟩, hbackslash⟩, -⟩, -⟩ := hplain
    exact ⟨hblank, hsingle, hdouble, hbackslash⟩
  · decide
  · decide

/-! ### How a word is read -/

theorem Lexed.extend {q' : Quoting} {w' : List Char} (front : List Char)
    (h : ∃ used, text = used ++ rest ∧ Lexed q used w ∧ StartsBlank rest)
    (hlexed : ∀ used, text = used ++ rest → Lexed q used w → Lexed q' (front ++ used) w') :
    ∃ used, front ++ text = used ++ rest ∧ Lexed q' used w' ∧ StartsBlank rest := by
  obtain ⟨used, htext, hused, hrest⟩ := h
  exact ⟨front ++ used, by rw [htext, List.append_assoc], hlexed used htext hused, hrest⟩

/-- Quotes are closed. -/
theorem Lexed.ne_nil (h : Lexed q used w) (hq : q ≠ .unquoted) : used ≠ [] := by
  cases h with
  | done | plain | escaped | continued | openSingle | openDouble => exact absurd rfl hq
  | _ => exact List.cons_ne_nil _ _

/-- What is read as a word, and where it ends. -/
theorem word_lexed (h : word q text = some (w, rest)) :
    ∃ used, text = used ++ rest ∧ Lexed q used w ∧ StartsBlank rest := by
  fun_induction word q text generalizing w with
  | case1 =>
      cases h
      exact ⟨[], rfl, .done, fun c hc => by cases hc⟩
  | case4 c text hblank =>
      cases h
      refine ⟨[], rfl, .done, fun d hd => ?_⟩
      cases hd
      exact hblank
  | case5 text _ ih => exact Lexed.extend [singleQuote] (ih h) fun _ _ => .openSingle
  | case6 text _ _ ih => exact Lexed.extend [doubleQuote] (ih h) fun _ _ => .openDouble
  | case8 tail _ _ _ ih => exact Lexed.extend [backslash, '\n'] (ih h) fun _ _ => .continued
  | case9 d tail _ _ _ _ ih =>
      obtain ⟨w', hword, rfl⟩ := map_prepend_eq_some h
      exact Lexed.extend [backslash, d] (ih hword) fun _ _ => .escaped
  | case10 c text _ _ _ _ hplain ih =>
      obtain ⟨w', hword, rfl⟩ := map_prepend_eq_some h
      exact Lexed.extend [c] (ih hword) fun used htext => .plain (stands_of_append (htext ▸ hplain))
  | case12 text ih => exact Lexed.extend [singleQuote] (ih h) fun _ _ => .closeSingle
  | case13 c text hquote ih =>
      obtain ⟨w', hword, rfl⟩ := map_prepend_eq_some h
      exact Lexed.extend [c] (ih hword) fun _ _ => .single hquote
  | case14 text ih => exact Lexed.extend [doubleQuote] (ih h) fun _ _ => .closeDouble
  | case17 tail _ _ ih => exact Lexed.extend [backslash, '\n'] (ih h) fun _ _ => .doubleContinued
  | case18 d tail hline hescapable _ _ ih =>
      obtain ⟨w', hword, rfl⟩ := map_prepend_eq_some h
      exact Lexed.extend [backslash, d] (ih hword) fun _ _ => .doubleEscaped hescapable hline
  | case19 d tail _ hescapable hquote hactive ih =>
      obtain ⟨w', hword, rfl⟩ := map_prepend_eq_some h
      refine Lexed.extend [backslash] (ih hword) fun used htext hused => ?_
      refine .double hquote (fun h => hactive (Or.inl h)) (fun h => absurd h (by decide)) (fun _ => ?_)
        hused
      obtain ⟨first, more, rfl⟩ := List.exists_cons_of_ne_nil (hused.ne_nil (by decide))
      obtain ⟨rfl, -⟩ := List.cons.inj htext
      simpa using hescapable
  | case20 c text hquote hactive hbackslash ih =>
      obtain ⟨w', hword, rfl⟩ := map_prepend_eq_some h
      refine Lexed.extend [c] (ih hword) fun used htext => .double hquote (fun h => hactive (Or.inl h))
        (fun h => Bool.eq_false_iff.mpr fun hused => hactive (Or.inr ⟨h, ?_⟩)) fun h => absurd h hbackslash
      rw [htext]
      exact expands_append (Bool.or_eq_true_iff.mpr (Or.inl hused)) rest
  | _ => cases h

/-! ### What quoting costs -/

/-- The quotes that are still to be closed. -/
def Quoting.toClose : Quoting → Nat
  | .unquoted => 0
  | .single | .double => 1

/-- A word is not longer than its text. -/
theorem Lexed.length_le (h : Lexed q used w) : w.length + q.toClose ≤ used.length := by
  induction h <;> simp only [List.length_cons, List.length_nil, Quoting.toClose] at * <;> omega

/-- A word as long as its text is its text. -/
theorem Lexed.eq_of_length (h : Lexed .unquoted used w) (hlength : used.length ≤ w.length) :
    used = w ∧ plainUnquoted [] w = true := by
  generalize hq : Quoting.unquoted = q at h
  induction h with
  | done => exact ⟨rfl, rfl⟩
  | plain hplain _ ih =>
      obtain ⟨rfl, hall⟩ := ih (Nat.le_of_succ_le_succ hlength) hq
      refine ⟨rfl, ?_⟩
      rw [plainUnquoted, List.append_nil, hplain, hall, Bool.and_self]
  | escaped hlexed =>
      have hle := hlexed.length_le
      simp only [List.length_cons, Quoting.toClose] at hlength hle
      omega
  | continued hlexed =>
      have hle := hlexed.length_le
      simp only [List.length_cons, Quoting.toClose] at hlength hle
      omega
  | openSingle hlexed =>
      have hle := hlexed.length_le
      simp only [List.length_cons, Quoting.toClose] at hlength hle
      omega
  | openDouble hlexed =>
      have hle := hlexed.length_le
      simp only [List.length_cons, Quoting.toClose] at hlength hle
      omega
  | _ => cases hq

theorem stands_of_plainUnquoted {after : List Char} (h : plainUnquoted after w = true) (hc : c ∈ w) :
    ∃ text, stands c text = true := by
  induction w with
  | nil => cases hc
  | cons d w ih =>
      rw [plainUnquoted, Bool.and_eq_true] at h
      rcases List.mem_cons.mp hc with rfl | hc
      · exact ⟨_, h.1⟩
      · exact ih h.2 hc

/-- A double quote costs a character to be quoted. -/
theorem Lexed.length_lt_of_mem (h : Lexed .unquoted used w) (hc : doubleQuote ∈ w) :
    w.length < used.length := by
  by_contra hlength
  obtain ⟨text, hstands⟩ := stands_of_plainUnquoted (h.eq_of_length (Nat.not_lt.mp hlength)).2 hc
  exact (ne_of_stands hstands).2.2.1 rfl

/-- The last of a text is a double quote, which no backslash precedes. -/
def EndsQuoted (text : List Char) : Prop :=
  text = [doubleQuote] ∨ ∃ front, text = front ++ [singleQuote, doubleQuote]

theorem EndsQuoted.tail (h : EndsQuoted (c :: text)) (hne : text ≠ []) : EndsQuoted text := by
  rcases h with h | ⟨front, h⟩
  · cases h
    exact absurd rfl hne
  · cases front with
    | nil =>
        cases h
        exact Or.inl rfl
    | cons d front =>
        cases h
        exact Or.inr ⟨front, rfl⟩

theorem EndsQuoted.of_singleton (h : EndsQuoted [c]) : c = doubleQuote := by
  rcases h with h | ⟨front, h⟩
  · cases h
    rfl
  · have hlength := congrArg List.length h
    simp at hlength

theorem EndsQuoted.ne_pair (h : EndsQuoted [backslash, c]) : False := by
  rcases h with h | ⟨front, h⟩
  · cases h
  · cases front with
    | nil =>
        have hfirst := (List.cons.inj h).1
        exact absurd hfirst (by decide)
    | cons d front =>
        have hlength := congrArg List.length h
        simp at hlength

/-- Such a quote at the end closes one that has been opened. -/
theorem Lexed.length_of_endsQuoted (h : Lexed q used w) (hq : q ≠ .double) (hends : EndsQuoted used) :
    w.length + 2 ≤ used.length := by
  induction h with
  | done =>
      rcases hends with hends | ⟨front, hends⟩
      · cases hends
      · simp at hends
  | @plain c used w hplain _ ih =>
      by_cases hnil : used = []
      · subst hnil
        rw [hends.of_singleton] at hplain
        exact absurd hplain (by decide)
      · have hle := ih hq (hends.tail hnil)
        simp only [List.length_cons]
        omega
  | @escaped c used w _ ih =>
      by_cases hnil : used = []
      · subst hnil
        exact hends.ne_pair.elim
      · have hle := ih hq ((hends.tail (List.cons_ne_nil _ _)).tail hnil)
        simp only [List.length_cons]
        omega
  | @continued used w _ ih =>
      by_cases hnil : used = []
      · subst hnil
        exact hends.ne_pair.elim
      · have hle := ih hq ((hends.tail (List.cons_ne_nil _ _)).tail hnil)
        simp only [List.length_cons]
        omega
  | openSingle hlexed ih =>
      have hle := ih (by decide) (hends.tail (hlexed.ne_nil (by decide)))
      simp only [List.length_cons]
      omega
  | @closeSingle used w _ ih =>
      by_cases hnil : used = []
      · subst hnil
        exact absurd hends.of_singleton (by decide)
      · have hle := ih (by decide) (hends.tail hnil)
        simp only [List.length_cons]
        omega
  | single _ hlexed ih =>
      have hle := ih hq (hends.tail (hlexed.ne_nil (by decide)))
      simp only [List.length_cons]
      omega
  | openDouble hlexed =>
      have hle := hlexed.length_le
      simp only [Quoting.toClose, List.length_cons] at hle ⊢
      omega
  | closeDouble | double | doubleEscaped | doubleContinued => exact absurd rfl hq

/-- Inside of double quotes, a word that costs nothing but the quote at its end is its text. -/
theorem Lexed.eq_of_double (h : Lexed .double used w) (hends : EndsQuoted used)
    (hlength : used.length ≤ w.length + 1) : used = w ++ [doubleQuote] := by
  generalize hq : Quoting.double = q at h
  induction h with
  | @closeDouble used w hlexed =>
      by_cases hnil : used = []
      · subst hnil
        have hle := hlexed.length_le
        simp only [List.length_nil, Quoting.toClose, Nat.add_zero, Nat.le_zero_eq,
          List.length_eq_zero_iff] at hle
        rw [hle, List.nil_append]
      · have hle := hlexed.length_of_endsQuoted (by decide) (hends.tail hnil)
        simp only [List.length_cons] at hlength
        omega
  | @double c used w _ _ _ _ hlexed ih =>
      have htail := ih (hends.tail (hlexed.ne_nil (by decide))) (by simpa using hlength) hq
      rw [htail, List.cons_append]
  | doubleEscaped _ _ hlexed =>
      have hle := hlexed.length_le
      simp only [List.length_cons, Quoting.toClose] at hlength hle
      omega
  | doubleContinued hlexed =>
      have hle := hlexed.length_le
      simp only [List.length_cons, Quoting.toClose] at hlength hle
      omega
  | _ => cases hq

/-- Double quotes are closed by a double quote. -/
theorem Lexed.mem_of_double (h : Lexed .double used w) : doubleQuote ∈ used := by
  generalize hq : Quoting.double = q at h
  induction h with
  | closeDouble => exact List.mem_cons_self
  | double _ _ _ _ _ ih => exact List.mem_cons_of_mem _ (ih hq)
  | doubleEscaped _ _ _ ih => exact List.mem_cons_of_mem _ (List.mem_cons_of_mem _ (ih hq))
  | doubleContinued _ ih => exact List.mem_cons_of_mem _ (List.mem_cons_of_mem _ (ih hq))
  | _ => cases hq

/-! ### The words of a text -/

theorem dropWhile_isBlank (text : List Char) :
    ∃ blanks, text = blanks ++ text.dropWhile isBlank ∧ (StartsBlank text →
      text.dropWhile isBlank ≠ [] → blanks ≠ []) := by
  refine ⟨text.takeWhile isBlank, List.takeWhile_append_dropWhile.symm, fun hstarts hne => ?_⟩
  cases text with
  | nil => exact absurd rfl hne
  | cons c text =>
      have hblank : isBlank c = true := hstarts c rfl
      rw [List.takeWhile_cons_of_pos hblank]
      exact List.cons_ne_nil _ _

/-- The step of `words`. -/
theorem words_succ {fuel : Nat} {all : List (List Char)} (h : words (fuel + 1) text = some all) :
    all = [] ∨ ∃ first tail after, word .unquoted (text.dropWhile isBlank) = some (first, after) ∧
      words fuel after = some tail ∧ all = first :: tail ∧
      (text.dropWhile isBlank).head? ≠ some '#' ∧ (text.dropWhile isBlank).head? ≠ some '~' ∧
      text.dropWhile isBlank ≠ [] := by
  unfold words at h
  split at h
  · cases h
    exact Or.inl rfl
  · rename_i c rest heq
    rw [heq]
    split at h
    · split at h
      · cases h
      · cases h
        exact Or.inl rfl
    · rename_i hcomment
      split at h
      · cases h
      · rename_i htilde
        cases hword : word .unquoted (c :: rest) with
        | none =>
            rw [hword] at h
            cases h
        | some read =>
            rw [hword] at h
            obtain ⟨tail, htail, rfl⟩ := Option.map_eq_some_iff.mp h
            refine Or.inr ⟨read.1, tail, read.2, rfl, htail, rfl, ?_, ?_, List.cons_ne_nil _ _⟩
            · exact fun hhead => hcomment (Option.some.inj hhead)
            · exact fun hhead => htilde (Option.some.inj hhead)

/-- The characters of some words, with one more in front of each of them. -/
def wordsLength (all : List (List Char)) : Nat := (all.map fun w => w.length + 1).sum

/-- Words that come after another word need a blank each. -/
theorem wordsLength_le {fuel : Nat} {all : List (List Char)} (h : words fuel text = some all)
    (hstarts : StartsBlank text) : wordsLength all ≤ text.length := by
  induction fuel generalizing text all with
  | zero => cases h
  | succ fuel ih =>
      rcases words_succ h with rfl | ⟨first, tail, after, hword, htail, rfl, -, -, hne⟩
      · exact Nat.zero_le _
      · obtain ⟨blanks, htext, hblanks⟩ := dropWhile_isBlank text
        obtain ⟨used, hused, hlexed, hafter⟩ := word_lexed hword
        have hpos := List.length_pos_iff.mpr (hblanks hstarts hne)
        have hlexedLe := hlexed.length_le
        have htailLe := ih htail hafter
        have hlength := congrArg List.length htext
        rw [hused, List.length_append, List.length_append] at hlength
        simp only [wordsLength, List.map_cons, List.sum_cons, Quoting.toClose] at htailLe hlexedLe ⊢
        omega

/-- Words that need no more are plain. -/
theorem plainWord_of_length {fuel : Nat} {all : List (List Char)} (h : words fuel text = some all)
    (hstarts : StartsBlank text) (hlength : text.length ≤ wordsLength all) :
    ∀ w ∈ all, PlainWord w := by
  induction fuel generalizing text all with
  | zero => cases h
  | succ fuel ih =>
      rcases words_succ h with rfl | ⟨first, tail, after, hword, htail, rfl, hcomment, htilde, hne⟩
      · exact fun w hw => by cases hw
      · obtain ⟨blanks, htext, hblanks⟩ := dropWhile_isBlank text
        obtain ⟨used, hused, hlexed, hafter⟩ := word_lexed hword
        have hpos := List.length_pos_iff.mpr (hblanks hstarts hne)
        have hlexedLe := hlexed.length_le
        have htailLe := wordsLength_le htail hafter
        have htotal := congrArg List.length htext
        rw [hused, List.length_append, List.length_append] at htotal
        simp only [wordsLength, List.map_cons, List.sum_cons, Quoting.toClose] at hlength htailLe hlexedLe
        obtain ⟨rfl, hplain⟩ := hlexed.eq_of_length (by omega)
        have hfirst : used ≠ [] := by
          rintro rfl
          obtain ⟨c, more, hcons⟩ := List.exists_cons_of_ne_nil hne
          rw [List.nil_append] at hused
          have hblank : isBlank c = true := hafter c (by rw [← hused, hcons]; rfl)
          have hnot : isBlank c = false := by
            have hhead := List.head?_dropWhile_not isBlank text
            rw [hcons] at hhead
            exact hhead
          rw [hblank] at hnot
          cases hnot
        intro w hw
        rcases List.mem_cons.mp hw with rfl | hw
        · rw [hused, List.head?_append_of_ne_nil _ hfirst] at hcomment htilde
          exact ⟨hfirst, hcomment, htilde, hplain⟩
        · exact ih htail hafter (by unfold wordsLength; omega) w hw

/-! ### Words that are read -/

theorem plainUnquoted_of_all {front : List Char} (h : front.all isPlain = true) (after : List Char) :
    plainUnquoted after front = true := by
  induction front with
  | nil => rfl
  | cons c front ih =>
      rw [List.all_cons, Bool.and_eq_true] at h
      rw [plainUnquoted, stands_of_isPlain h.1, ih h.2, Bool.and_self]

/-- A text of plain characters begins a word in front of every text. -/
theorem PlainFront.of_all {front : List Char} (hne : front ≠ []) (hcomment : front.head? ≠ some '#')
    (htilde : front.head? ≠ some '~') (hall : front.all isPlain = true) (after : List Char) :
    PlainFront front after :=
  ⟨hne, hcomment, htilde, plainUnquoted_of_all hall after⟩

/-- A word that stands for itself does so in front of others, behind a blank. -/
theorem PlainWord.front {front after : List Char} (h : PlainWord front) (hafter : StartsBlank after)
    (hclosing : ']' ∉ after) : PlainFront front after := by
  refine ⟨h.nonempty, h.comment, h.tilde, ?_⟩
  have hplain := h.plain
  clear h
  induction front with
  | nil => rfl
  | cons c front ih =>
      rw [plainUnquoted, List.append_nil, Bool.and_eq_true] at hplain
      rw [plainUnquoted, stands_append hplain.1 hafter hclosing, ih hplain.2, Bool.and_self]

theorem word_plain {text after : List Char} (hplain : plainUnquoted after text = true) :
    word .unquoted (text ++ after) = (word .unquoted after).map fun read => (text ++ read.1, read.2) := by
  induction text with
  | nil =>
      rw [List.nil_append]
      cases word .unquoted after <;> rfl
  | cons c text ih =>
      rw [plainUnquoted, Bool.and_eq_true] at hplain
      obtain ⟨hc, htext⟩ := hplain
      obtain ⟨hblank, hsingle, hdouble, hbackslash⟩ := ne_of_stands hc
      rw [List.cons_append, word.eq_def]
      simp only [hblank, Bool.false_eq_true, hsingle, hdouble, hbackslash, hc, if_false, if_true,
        ih htext, Option.map_map]
      rfl

theorem word_openDouble (text : List Char) : word .unquoted (doubleQuote :: text) = word .double text := by
  have hblank : isBlank doubleQuote = false := by decide
  have hsingle : doubleQuote ≠ singleQuote := by decide
  rw [word.eq_def]
  simp only [hblank, Bool.false_eq_true, hsingle, if_false, if_true]

theorem word_closeDouble (text : List Char) : word .double (doubleQuote :: text) = word .unquoted text := by
  rw [word.eq_def]
  simp only [if_true]

/-- A text without a character that a backslash quotes, inside of double quotes. -/
theorem word_quoted {text : List Char} (hquoted : text.any isEscapable = false) (after : List Char) :
    word .double (text ++ after) = (word .double after).map fun read => (text ++ read.1, read.2) := by
  induction text with
  | nil =>
      rw [List.nil_append]
      cases word .double after <;> rfl
  | cons c text ih =>
      rw [List.any_cons, Bool.or_eq_false_iff] at hquoted
      obtain ⟨hc, htext⟩ := hquoted
      simp only [isEscapable, Bool.or_eq_false_iff, decide_eq_false_iff_not] at hc
      obtain ⟨⟨⟨⟨hdollar, hbackquote⟩, hdouble⟩, hbackslash⟩, -⟩ := hc
      rw [List.cons_append, word.eq_def]
      simp only [hdollar, hbackquote, hdouble, hbackslash, false_and, or_self, if_false, ih htext,
        Option.map_map]
      rfl

/-- A dollar sign in a plain text begins no expansion. -/
theorem expands_plainQuoted {text : List Char} (hplain : plainQuoted text = true)
    (hhead : text.head?.any isExpandable = false) {c : Char} (hescapable : isEscapable c = false)
    (hexpandable : isExpandable c = false) (after : List Char) :
    expands (text ++ c :: after) = false := by
  have hline : ¬ '\n' = c := by
    rintro rfl
    exact absurd hescapable (by decide)
  have hbackslash : ¬backslash = c := by
    rintro rfl
    exact absurd hescapable (by decide)
  cases text with
  | nil => simp [expands, List.isPrefixOf, hexpandable, hbackslash]
  | cons d text =>
      rw [List.head?_cons, Option.any_some] at hhead
      cases text with
      | nil => simp [expands, List.isPrefixOf, hhead, hline]
      | cons e text =>
          simp only [plainQuoted, List.head?_cons, Option.any_some, Bool.and_eq_true,
            Bool.not_eq_true', Bool.and_eq_false_iff, decide_eq_false_iff_not] at hplain
          have hescaped : ¬(backslash = d ∧ '\n' = e) := by
            rintro ⟨rfl, rfl⟩
            exact absurd (hplain.1.2.resolve_left (not_not_intro rfl)) (by decide)
          simpa [expands, List.isPrefixOf, hhead] using hescaped

/-- A plain text inside of double quotes. -/
theorem word_plainQuoted {text : List Char} (hplain : plainQuoted text = true) {c : Char}
    (hc : isEscapable c = false) (hexpandable : isExpandable c = false) (after : List Char) :
    word .double (text ++ c :: after) =
      (word .double (c :: after)).map fun read => (text ++ read.1, read.2) := by
  induction text with
  | nil =>
      rw [List.nil_append]
      cases word .double (c :: after) <;> rfl
  | cons d text ih =>
      simp only [plainQuoted, Bool.and_eq_true, bne_iff_ne, ne_eq, Bool.not_eq_true',
        Bool.and_eq_false_iff, decide_eq_false_iff_not] at hplain
      obtain ⟨⟨⟨⟨hdouble, hbackquote⟩, hdollar⟩, hescaped⟩, htext⟩ := hplain
      have hactive : ¬(d = backquote ∨ d = '$' ∧ expands (text ++ c :: after) = true) := by
        rintro (h | ⟨h, hexpands⟩)
        · exact hbackquote h
        · have hhead := hdollar.resolve_left (not_not_intro h)
          rw [expands_plainQuoted htext hhead hc hexpandable] at hexpands
          cases hexpands
      obtain ⟨next, more, hmore⟩ : ∃ next more, text ++ c :: after = next :: more := by
        cases text with
        | nil => exact ⟨c, after, rfl⟩
        | cons next text => exact ⟨next, text ++ c :: after, rfl⟩
      rw [List.cons_append, word.eq_def]
      simp only [hdouble, hactive, if_false]
      by_cases hbackslash : d = backslash
      · have hnext : isEscapable next = false := by
          have hquoted := hescaped.resolve_left (not_not_intro hbackslash)
          cases text with
          | nil =>
              cases hmore
              exact hc
          | cons first text =>
              cases hmore
              simpa using hquoted
        have hline : next ≠ '\n' := by
          rintro rfl
          exact absurd hnext (by decide)
        rw [if_pos hbackslash, hmore]
        simp only [hline, if_false, hnext, Bool.false_eq_true]
        rw [← hmore, ih htext, Option.map_map]
        rfl
      · rw [if_neg hbackslash, ih htext, Option.map_map]
        rfl

/-- A plain text at the beginning of a word. -/
theorem words_append {front after : List Char} (hfront : PlainFront front after) (fuel : Nat) :
    words (fuel + 1) (front ++ after) = (word .unquoted after).bind fun read =>
      (words fuel read.2).map ((front ++ read.1) :: ·) := by
  obtain ⟨hne, hcomment, htilde, hplain⟩ := hfront
  have hword := word_plain hplain
  obtain ⟨c, front, rfl⟩ := List.exists_cons_of_ne_nil hne
  rw [plainUnquoted, Bool.and_eq_true] at hplain
  have hblank : isBlank c = false := (ne_of_stands hplain.1).1
  rw [List.head?_cons, ne_eq, Option.some.injEq] at hcomment htilde
  rw [List.cons_append] at hword ⊢
  rw [words, List.dropWhile_cons_of_neg (by simp [hblank])]
  simp only [hcomment, htilde, if_false, hword]
  cases word .unquoted after <;> rfl

/-- A plain word, with a blank after it. -/
theorem words_blank {first after : List Char} (hfirst : PlainFront first (' ' :: after)) (fuel : Nat) :
    words (fuel + 2) (first ++ ' ' :: after) = (words (fuel + 1) after).map (first :: ·) := by
  rw [words_append hfirst]
  have hword : word .unquoted (' ' :: after) = some ([], ' ' :: after) := by
    rw [word.eq_def]
    exact if_pos (by decide)
  have hskip : words (fuel + 1) (' ' :: after) = words (fuel + 1) after := by
    unfold words
    rw [List.dropWhile_cons_of_pos (by decide)]
  rw [hword, Option.bind_some, hskip, List.append_nil]

/-- A plain word at the end. -/
theorem words_last {last : List Char} (hlast : PlainWord last) (fuel : Nat) :
    words (fuel + 2) last = some [last] := by
  have hwords := words_append hlast (fuel + 1)
  rw [List.append_nil] at hwords
  rw [hwords]
  simp only [word, Option.bind_some, words, List.dropWhile_nil, Option.map_some, List.append_nil]

/-! ### A text that is pasted inside of quotes -/

/-- What is found in two texts that begin in the same way, where the second one has something in front. -/
theorem mem_of_overlap {front before v₀ v₁ after more : List Char}
    (h : before ++ (v₀ ++ c :: v₁) ++ after = front ++ (v₀ ++ more))
    (hlength : before.length < front.length) : c ∈ front := by
  induction hn : v₀.length using Nat.strongRecOn generalizing v₀ v₁ more with
  | ind n ih =>
      have hat : (front ++ (v₀ ++ more))[before.length + v₀.length]? = some c := by
        rw [← h, List.append_assoc, List.getElem?_append_right (Nat.le_add_right _ _),
          Nat.add_sub_cancel_left, List.append_assoc, List.getElem?_append_right (Nat.le_refl _),
          Nat.sub_self, List.cons_append, List.getElem?_cons_zero]
      by_cases hin : before.length + v₀.length < front.length
      · rw [List.getElem?_append_left hin] at hat
        exact List.mem_of_getElem? hat
      · rw [List.getElem?_append_right (Nat.not_lt.mp hin),
          List.getElem?_append_left (by omega)] at hat
        have hmem := List.mem_of_getElem? hat
        obtain ⟨u₀, u₁, hsplit⟩ := List.append_of_mem hmem
        have hshort : u₀.length < n := by
          have hsum := congrArg List.length hsplit
          rw [List.length_append, List.length_cons] at hsum
          omega
        rw [hsplit] at h
        have hinner : before ++ (u₀ ++ c :: (u₁ ++ c :: v₁)) ++ after = front ++ (u₀ ++ (c :: u₁ ++ more)) := by
          simpa using h
        exact ih u₀.length hshort hinner rfl

/-- What becomes of a text that does not stand for itself inside of quotes: they end inside of it, or a
backslash is lost. -/
theorem Lexed.split_of_not_plainQuoted {v : List Char} (h : Lexed .double used w)
    (hused : used <+: v ++ [singleQuote, doubleQuote]) (hv : plainQuoted v = false) :
    ∃ v₀ v₁ used' w', Lexed .unquoted used' w' ∧ v = v₀ ++ doubleQuote :: v₁ ∧
        used = v₀ ++ doubleQuote :: used' ∧ w = v₀ ++ w' ∨
      ∃ e, Lexed .double used' w' ∧ v = v₀ ++ backslash :: e :: v₁ ∧
        used = v₀ ++ backslash :: e :: used' ∧ (w = v₀ ++ e :: w' ∨ w = v₀ ++ w') := by
  induction v generalizing used w with
  | nil => cases hv
  | cons c v ih =>
      obtain ⟨first, used₁, rfl⟩ := List.exists_cons_of_ne_nil (h.ne_nil (by decide))
      rw [List.cons_append, List.cons_prefix_cons] at hused
      obtain ⟨rfl, hused⟩ := hused
      cases h with
      | closeDouble hlexed => exact ⟨[], v, used₁, w, Or.inl ⟨hlexed, rfl, rfl, rfl⟩⟩
      | @double _ _ w hquote hbackquote hdollar hescaped hlexed =>
          have hsame : ∀ active, v.head?.any active = true → used₁.head?.any active = true := by
            intro active hactive
            cases v with
            | nil => cases hactive
            | cons d v =>
                obtain ⟨next, more, rfl⟩ := List.exists_cons_of_ne_nil (hlexed.ne_nil (by decide))
                rw [List.cons_append, List.cons_prefix_cons] at hused
                rw [hused.1]
                exact hactive
          have htail : plainQuoted v = false := by
            cases htail : plainQuoted v with
            | false => rfl
            | true =>
                simp only [plainQuoted, htail, Bool.and_true, Bool.and_eq_false_iff, bne_eq_false_iff_eq,
                  hquote, hbackquote, false_or, Bool.not_eq_eq_eq_not, Bool.not_false,
                  Bool.and_eq_true, decide_eq_true_eq] at hv
                rcases hv with ⟨hfirst, hnext⟩ | ⟨hfirst, hnext⟩
                · rw [hsame _ hnext] at hdollar
                  cases hdollar hfirst
                · rw [hsame _ hnext] at hescaped
                  cases hescaped hfirst
          obtain ⟨v₀, v₁, used', w', hcases⟩ := ih hlexed hused htail
          refine ⟨first :: v₀, v₁, used', w', ?_⟩
          rcases hcases with ⟨hrest, rfl, rfl, rfl⟩ | ⟨e, hrest, rfl, rfl, hw⟩
          · exact Or.inl ⟨hrest, rfl, rfl, rfl⟩
          · exact Or.inr ⟨e, hrest, rfl, rfl, hw.imp (congrArg _) (congrArg _)⟩
      | @doubleEscaped e used' w hescapable hline hlexed =>
          cases v with
          | nil =>
              rw [List.nil_append, List.cons_prefix_cons] at hused
              rw [hused.1] at hescapable
              exact absurd hescapable (by decide)
          | cons d v =>
              rw [List.cons_append, List.cons_prefix_cons] at hused
              obtain ⟨rfl, -⟩ := hused
              exact ⟨[], v, used', w, Or.inr ⟨e, hlexed, rfl, rfl, Or.inl rfl⟩⟩
      | @doubleContinued used' w hlexed =>
          cases v with
          | nil =>
              rw [List.nil_append, List.cons_prefix_cons] at hused
              exact absurd hused.1 (by decide)
          | cons d v =>
              rw [List.cons_append, List.cons_prefix_cons] at hused
              obtain ⟨rfl, -⟩ := hused
              exact ⟨[], v, used', w, Or.inr ⟨'\n', hlexed, rfl, rfl, Or.inr rfl⟩⟩

theorem EndsQuoted.append (front : List Char) : EndsQuoted (front ++ [singleQuote, doubleQuote]) :=
  Or.inr ⟨front, rfl⟩

section

variable {v front v₀ v₁ used' w' : List Char}

/-- A text whose quotes are closed by a quote of its own is not found in the word. -/
theorem not_infix_of_closed (hlexed : Lexed .unquoted used' w')
    (hused : v₀ ++ doubleQuote :: used' <+: (v₀ ++ doubleQuote :: v₁) ++ [singleQuote, doubleQuote])
    (hfront : doubleQuote ∉ front) : ¬v₀ ++ doubleQuote :: v₁ <:+: front ++ (v₀ ++ w') := by
  rintro ⟨before, after, heq⟩
  have hbefore : front.length ≤ before.length :=
    Nat.not_lt.mp fun hlt => hfront (mem_of_overlap heq hlt)
  have hlength := congrArg List.length heq
  have hcount := congrArg (List.count doubleQuote) heq
  simp only [List.length_append, List.length_cons] at hlength
  simp only [List.count_append, List.count_cons_self, List.count_eq_zero_of_not_mem hfront] at hcount
  have hmem : doubleQuote ∈ w' := List.count_pos_iff.mp (by omega)
  have hshort := hlexed.length_lt_of_mem hmem
  have husedLe := hused.length_le
  simp only [List.length_append, List.length_cons, List.length_nil] at husedLe
  have hall := hused.eq_of_length
    (by simp only [List.length_append, List.length_cons, List.length_nil]; omega)
  rw [List.append_assoc, List.append_cancel_left_eq, List.cons_append, List.cons.injEq] at hall
  have hcost := hlexed.length_of_endsQuoted (by decide) (hall.2 ▸ EndsQuoted.append v₁)
  omega

/-- A text that loses a backslash is not found in the word. -/
theorem not_infix_of_escaped {e : Char} (hlexed : Lexed .double used' w')
    (hused : v₀ ++ backslash :: e :: used' <+:
      (v₀ ++ backslash :: e :: v₁) ++ [singleQuote, doubleQuote])
    (hw : w = v₀ ++ e :: w' ∨ w = v₀ ++ w') (hfront : backslash ∉ front) :
    ¬v₀ ++ backslash :: e :: v₁ <:+: front ++ w := by
  rintro ⟨before, after, heq⟩
  have hbefore : front.length ≤ before.length := by
    refine Nat.not_lt.mp fun hlt => hfront ?_
    rcases hw with rfl | rfl
    · exact mem_of_overlap heq hlt
    · exact mem_of_overlap heq hlt
  have hlength := congrArg List.length heq
  have hlexedLe := hlexed.length_le
  have husedLe := hused.length_le
  simp only [Quoting.toClose, List.length_append, List.length_cons, List.length_nil]
    at hlength hlexedLe husedLe
  rcases hw with rfl | rfl
  · simp only [List.length_append, List.length_cons] at hlength
    have hall := hused.eq_of_length
      (by simp only [List.length_append, List.length_cons, List.length_nil]; omega)
    rw [List.append_assoc, List.append_cancel_left_eq, List.cons_append, List.cons_append,
      List.cons.injEq, List.cons.injEq] at hall
    have hends := hall.2.2
    have hword := hlexed.eq_of_double (hends ▸ EndsQuoted.append v₁) (by omega)
    have hw' : w' = v₁ ++ [singleQuote] := by
      rw [hword] at hends
      exact List.append_cancel_right (by simpa using hends : w' ++ [doubleQuote] = _)
    subst hw'
    rw [List.length_append, List.length_singleton] at hlength
    have hafter : after = [] := List.eq_nil_of_length_eq_zero (by omega)
    rw [hafter, List.append_nil] at heq
    have hsame := (List.append_inj heq (by omega)).2
    rw [List.append_cancel_left_eq, List.cons.injEq] at hsame
    -- the backslash is in the text once more than in the word
    have hcount := congrArg (List.count backslash) hsame.2
    have hsingle : List.count backslash [singleQuote] = 0 := by decide
    rw [← hsame.1, List.count_cons_self, List.count_append, hsingle] at hcount
    omega
  · simp only [List.length_append] at hlength
    omega

end

theorem doubleQuote_not_mem_of_plainQuoted {v : List Char} (h : plainQuoted v = true) : doubleQuote ∉ v := by
  induction v with
  | nil => exact List.not_mem_nil
  | cons c v ih =>
      simp only [plainQuoted, Bool.and_eq_true, bne_iff_ne, ne_eq] at h
      exact List.not_mem_cons_of_ne_of_not_mem (Ne.symm h.1.1.1.1) (ih h.2)

/-- A text between a single quote and a double quote that ends the word is found in the word just if it
stands for itself. -/
theorem Lexed.eq_of_pasted {v front : List Char} (h : Lexed .double used w)
    (hused : used <+: v ++ [singleQuote, doubleQuote])
    (hmentions : plainQuoted v = false → v <:+: front ++ w) (hquote : doubleQuote ∉ front)
    (hbackslash : backslash ∉ front) :
    plainQuoted v = true ∧ used = v ++ [singleQuote, doubleQuote] := by
  cases hv : plainQuoted v with
  | false =>
      obtain ⟨v₀, v₁, used', w', ⟨hlexed, rfl, rfl, rfl⟩ | ⟨e, hlexed, rfl, rfl, hw⟩⟩ :=
        h.split_of_not_plainQuoted hused hv
      · exact absurd (hmentions hv) (not_infix_of_closed hlexed hused hquote)
      · exact absurd (hmentions hv) (not_infix_of_escaped hlexed hused hw hbackslash)
  | true =>
      refine ⟨rfl, hused.eq_of_length (Nat.le_antisymm hused.length_le ?_)⟩
      by_contra hshort
      have hin : used <+: v ++ [singleQuote] := by
        refine List.prefix_of_prefix_length_le hused ⟨[doubleQuote], by simp⟩ ?_
        simp only [List.length_append, List.length_cons, List.length_nil] at hshort ⊢
        omega
      rcases List.mem_append.mp (hin.subset h.mem_of_double) with hmem | hmem
      · exact doubleQuote_not_mem_of_plainQuoted hv hmem
      · exact absurd (List.mem_singleton.mp hmem) (by decide)

end

end RemoteSimgrid.Shell
