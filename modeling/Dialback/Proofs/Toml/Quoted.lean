import Dialback.Toml.Quoted
import Dialback.Toml.Writer
import Dialback.Proofs.Text.Numeral

/-!
Texts come back from their quoted forms. The writer chooses a form that can show the text; in each
of the four the reader finds the closing quotes where the writer has put them, and takes nothing of
what follows.
-/
namespace Dialback.Toml

variable {c : Char} {cs rest : List Char}

/-! Single characters. -/

theorem ofCode_toNat (c : Char) : ofCode? c.toNat = some c := by
  have valid : c.toNat.isValidChar := c.valid
  rw [ofCode?, dif_pos valid, Option.some.injEq]
  exact Char.ext rfl

/-- A character that stands in a text as it is, if the text may hold newlines. -/
theorem plain_of_not_control (control : isControl c = false) (line : c ≠ '\n') :
    isPlain c = true := by
  simp only [isControl, Bool.or_eq_false_iff, Bool.and_eq_false_iff, bne_eq_false_iff_eq,
    decide_eq_false_iff_not, beq_eq_false_iff_ne] at control
  simp only [isPlain, Bool.or_eq_true, beq_iff_eq, Bool.and_eq_true, decide_eq_true_eq, bne_iff_ne]
  obtain ⟨(high | tab) | newline, notDelete⟩ := control
  · exact Or.inr ⟨by omega, notDelete⟩
  · exact Or.inl tab
  · exact absurd newline line

theorem not_lineEnd_of_plain (plain : isPlain c = true) : c ≠ '\n' ∧ c ≠ '\r' := by
  constructor
  · rintro rfl
    cases plain
  · rintro rfl
    cases plain

theorem toNat_of_control (control : isControl c = true) : c.toNat < 65536 := by
  simp only [isControl, Bool.or_eq_true, Bool.and_eq_true, decide_eq_true_eq, beq_iff_eq] at control
  omega

theorem escape_unicode (control : isControl c = true) (rest : List Char) :
    escape? ('u' :: ((Text.hexPadded 4 c.toNat).map Char.toUpper ++ rest)) = some (c, rest) := by
  have digits : ((Text.hexPadded 4 c.toNat).map Char.toUpper).length = 4 := by simp
  have enough : ¬ ((Text.hexPadded 4 c.toNat).map Char.toUpper ++ rest).length < 4 := by
    simp
  simp only [escape?, enough, if_false, List.take_left' digits, List.drop_left' digits,
    Text.hexValue_hexPadded (toNat_of_control control), Option.bind_some, ofCode_toNat,
    Option.map_some]

/-- What is written for a character is an escape of it, or the character where that is plain. -/
theorem escapeControl_cases (line : c ≠ '\n') :
    (∃ e, escapeControl c = '\\' :: e ∧ ∀ rest, escape? (e ++ rest) = some (c, rest)) ∨
      (escapeControl c = [c] ∧ isPlain c = true ∧ c ≠ '\\') := by
  unfold escapeControl
  split
  case h_1 | h_2 | h_3 | h_4 | h_5 => exact Or.inl ⟨_, rfl, fun rest => rfl⟩
  case h_6 notBackspace notTab notFeed notReturn notBackslash =>
    split
    case isTrue control =>
      exact Or.inl ⟨_, rfl, escape_unicode control⟩
    case isFalse control =>
      refine Or.inr ⟨rfl, plain_of_not_control (by simpa using control) line, notBackslash⟩

theorem basicInside_cons (quote : c ≠ '"') (line : c ≠ '\n') (lines : Bool) (run : Nat)
    (cs : List Char) :
    basicInside lines run (c :: cs) = escapeControl c ++ basicInside lines 0 cs := by
  simp [basicInside]

/-- The inside of a basic text begins with a backslash or with the character it begins with. -/
theorem basicInside_first (lines : Bool) (run : Nat) (c : Char) (cs : List Char) :
    ∃ d more, basicInside lines run (c :: cs) = d :: more ∧
      (d = '\\' ∨ d = c ∧ (c = '"' → run < if lines then 2 else 0) ∧
        (c = '\n' ∨ isPlain c = true)) := by
  by_cases quote : c = '"'
  · subst quote
    by_cases room : run < if lines then 2 else 0
    · rw [basicInside, if_pos room]
      exact ⟨_, _, rfl, Or.inr ⟨rfl, fun _ => room, Or.inr rfl⟩⟩
    · rw [basicInside, if_neg room]
      exact ⟨_, _, rfl, Or.inl rfl⟩
  · by_cases line : c = '\n'
    · subst line
      cases lines with
      | true =>
        exact ⟨_, _, rfl, Or.inr ⟨rfl, fun other => absurd other (by decide), Or.inl rfl⟩⟩
      | false => exact ⟨_, _, rfl, Or.inl rfl⟩
    · rw [basicInside_cons quote line]
      rcases escapeControl_cases line with ⟨e, same, _⟩ | ⟨same, plain, _⟩
      · rw [same]
        exact ⟨_, _, rfl, Or.inl rfl⟩
      · rw [same]
        exact ⟨_, _, rfl, Or.inr ⟨rfl, fun other => absurd other quote, Or.inr plain⟩⟩

/-! Basic texts on one line. -/

theorem basicBody_escape {e : List Char} (escaped : escape? (e ++ rest) = some (c, rest))
    (n : Nat) :
    basicBody? (n + 1) ('\\' :: (e ++ rest)) =
      (basicBody? n rest).map fun (t, rest) => (c :: t, rest) := by
  simp only [basicBody?, escaped]

theorem basicBody_plain (plain : isPlain c = true) (unquoted : c ≠ '"') (unescaped : c ≠ '\\')
    (n : Nat) : basicBody? (n + 1) (c :: rest) =
      (basicBody? n rest).map fun (t, rest) => (c :: t, rest) := by
  simp [basicBody?, plain]

theorem basicBody_inside (cs rest : List Char) (n : Nat) :
    basicBody? (cs.length + 1 + n) (basicInside false 0 cs ++ '"' :: rest) = some (cs, rest) := by
  induction cs with
  | nil => simp [basicInside, basicBody?, Nat.add_comm]
  | cons c cs ih =>
    have budget : (c :: cs).length + 1 + n = (cs.length + 1 + n) + 1 := by
      rw [List.length_cons]
      omega
    rw [budget]
    by_cases quote : c = '"'
    · subst quote
      change basicBody? (cs.length + 1 + n + 1)
        ('\\' :: (['"'] ++ (basicInside false 0 cs ++ '"' :: rest))) = _
      rw [@basicBody_escape '"' _ ['"'] rfl, ih]
      rfl
    · by_cases line : c = '\n'
      · subst line
        change basicBody? (cs.length + 1 + n + 1)
          ('\\' :: (['n'] ++ (basicInside false 0 cs ++ '"' :: rest))) = _
        rw [@basicBody_escape '\n' _ ['n'] rfl, ih]
        rfl
      · rw [basicInside_cons quote line]
        rcases escapeControl_cases line with ⟨e, same, escaped⟩ | ⟨same, plain, unescaped⟩
        · rw [same, List.cons_append, List.cons_append, List.append_assoc,
            basicBody_escape (escaped _), ih]
          rfl
        · rw [same, List.append_assoc, List.singleton_append,
            basicBody_plain plain quote unescaped, ih]
          rfl

/-! Quotes in front of the closing ones. -/

/-- How many quotes a text begins with. -/
def leading (quote : Char) (cs : List Char) : Nat :=
  (cs.takeWhile (· == quote)).length

theorem leading_cons_self (quote : Char) (cs : List Char) :
    leading quote (quote :: cs) = leading quote cs + 1 := by
  simp [leading]

theorem leading_cons_ne {quote : Char} (other : c ≠ quote) (cs : List Char) :
    leading quote (c :: cs) = 0 := by
  simp [leading, other]

theorem leading_replicate {quote : Char} (other : c ≠ quote) (k : Nat) (rest : List Char) :
    leading quote (List.replicate k quote ++ c :: rest) = k := by
  induction k with
  | zero => exact leading_cons_ne other rest
  | succ k ih => rw [List.replicate_succ, List.cons_append, leading_cons_self, ih]

theorem closing_eq (quote : Char) (cs : List Char) : closing? quote cs =
    if leading quote cs < 3 then none
    else some (List.replicate (min (leading quote cs - 3) 2) quote,
      cs.drop (min (leading quote cs - 3) 2 + 3)) := rfl

theorem closing_of_leading {quote : Char} (few : leading quote cs < 3) :
    closing? quote cs = none := by
  rw [closing_eq, if_pos few]

/-- Up to two quotes in front of the closing ones belong to the text. -/
theorem closing_replicate {quote : Char} (other : c ≠ quote) {k : Nat} (few : k ≤ 2) :
    ∃ tail, List.replicate k quote ++ (List.replicate 3 quote ++ c :: rest) = quote :: tail ∧
      closing? quote (quote :: tail) = some (List.replicate k quote, c :: rest) := by
  have run : List.replicate k quote ++ (List.replicate 3 quote ++ c :: rest) =
      quote :: (List.replicate (k + 2) quote ++ c :: rest) := by
    rw [← List.append_assoc, List.replicate_append_replicate, List.replicate_succ,
      List.cons_append]
  have many : leading quote (List.replicate (k + 3) quote ++ c :: rest) = k + 3 :=
    leading_replicate other _ _
  have extra : min (k + 3 - 3) 2 = k := by omega
  refine ⟨_, run, ?_⟩
  rw [← List.cons_append, ← List.replicate_succ, closing_eq, many, if_neg (by omega), extra,
    List.drop_left' (List.length_replicate ..)]

/-- What is written begins with no more than two quotes, unless it is the end of the text. -/
theorem leading_inside (cs : List Char) (run : Nat) (few : run ≤ 2) :
    (∃ k, k + run ≤ 2 ∧ cs = List.replicate k '"' ∧
      basicInside true run cs = List.replicate k '"') ∨
      ∀ rest, leading '"' (basicInside true run cs ++ rest) + run ≤ 2 := by
  induction cs generalizing run with
  | nil => exact Or.inl ⟨0, by omega, rfl, rfl⟩
  | cons c cs ih =>
    by_cases raw : c = '"' ∧ run < 2
    · obtain ⟨rfl, room⟩ := raw
      have written : basicInside true run ('"' :: cs) = '"' :: basicInside true (run + 1) cs := by
        simp [basicInside, room]
      rw [written]
      rcases ih (run + 1) room with ⟨k, within, same, raw⟩ | within
      · refine Or.inl ⟨k + 1, by omega, ?_, ?_⟩
        · rw [same, List.replicate_succ]
        · rw [raw, List.replicate_succ]
      · refine Or.inr fun rest => ?_
        have fewer := within rest
        rw [List.cons_append, leading_cons_self]
        omega
    · refine Or.inr fun rest => ?_
      obtain ⟨d, more, written, first⟩ := basicInside_first true run c cs
      have other : d ≠ '"' := by
        rcases first with rfl | ⟨rfl, room, _⟩
        · decide
        · exact fun quote => raw ⟨quote, room quote⟩
      rw [written, List.cons_append, leading_cons_ne other]
      omega

/-! Basic texts on several lines. -/

theorem basicLines_escape {e : List Char} (escaped : escape? (e ++ rest) = some (c, rest))
    (n : Nat) : basicLines? (n + 1) .inside ('\\' :: (e ++ rest)) =
      (basicLines? n .inside rest).map fun (t, rest) => (c :: t, rest) := by
  simp [basicLines?, escaped]

theorem basicLines_newline (n : Nat) (rest : List Char) :
    basicLines? (n + 1) .inside ('\n' :: rest) =
      (basicLines? n .inside rest).map fun (t, rest) => ('\n' :: t, rest) := by
  simp [basicLines?]

theorem basicLines_plain (plain : isPlain c = true) (unquoted : c ≠ '"') (unescaped : c ≠ '\\')
    (n : Nat) : basicLines? (n + 1) .inside (c :: rest) =
      (basicLines? n .inside rest).map fun (t, rest) => (c :: t, rest) := by
  obtain ⟨notLine, notReturn⟩ := not_lineEnd_of_plain plain
  rw [basicLines?, if_pos plain]
  · rfl
  · exact fun _ same => absurd same notReturn
  · exact notLine
  · exact unquoted
  · exact unescaped

theorem basicLines_quote (few : leading '"' rest < 2) (n : Nat) :
    basicLines? (n + 1) .inside ('"' :: rest) =
      (basicLines? n .inside rest).map fun (t, rest) => ('"' :: t, rest) := by
  have goesOn : closing? '"' ('"' :: rest) = none :=
    closing_of_leading (by rw [leading_cons_self]; omega)
  simp [basicLines?, goesOn]

/-- The reader stops behind the closing quotes. The induction is on the text; `run` tells how many
quotes have just been written. -/
theorem basicLines_inside (other : c ≠ '"') (cs : List Char) (run : Nat) (few : run ≤ 2) (n : Nat) :
    basicLines? (cs.length + 1 + n) .inside
      (basicInside true run cs ++ (List.replicate 3 '"' ++ c :: rest)) = some (cs, c :: rest) := by
  have closes (k m : Nat) (within : k ≤ 2) : basicLines? (m + 1) .inside
      (List.replicate k '"' ++ (List.replicate 3 '"' ++ c :: rest)) =
        some (List.replicate k '"', c :: rest) := by
    obtain ⟨tail, run, found⟩ := closing_replicate other within
    rw [run]
    simp only [basicLines?, found]
  induction cs generalizing run with
  | nil =>
    rw [List.length_nil, Nat.zero_add, Nat.add_comm]
    exact closes 0 n (by decide)
  | cons d cs ih =>
    have budget : (d :: cs).length + 1 + n = (cs.length + 1 + n) + 1 := by
      rw [List.length_cons]
      omega
    rw [budget]
    rcases leading_inside (d :: cs) run few with ⟨k, within, same, raw⟩ | within
    · rw [raw, closes k _ (by omega), same]
    · by_cases quote : d = '"'
      · subst quote
        by_cases room : run < 2
        · have written : basicInside true run ('"' :: cs) =
              '"' :: basicInside true (run + 1) cs := by simp [basicInside, room]
          have fewer := within (List.replicate 3 '"' ++ c :: rest)
          rw [written, List.cons_append] at fewer ⊢
          rw [leading_cons_self] at fewer
          rw [basicLines_quote (by omega), ih (run + 1) room]
          rfl
        · have written : basicInside true run ('"' :: cs) =
              '\\' :: (['"'] ++ basicInside true 0 cs) := by simp [basicInside, room]
          rw [written, List.cons_append, List.append_assoc, @basicLines_escape '"' _ ['"'] rfl,
            ih 0 (by decide)]
          rfl
      · by_cases line : d = '\n'
        · subst line
          have written : basicInside true run ('\n' :: cs) = '\n' :: basicInside true 0 cs := by
            simp [basicInside]
          rw [written, List.cons_append, basicLines_newline, ih 0 (by decide)]
          rfl
        · rw [basicInside_cons quote line]
          rcases escapeControl_cases line with ⟨e, same, escaped⟩ | ⟨same, plain, unescaped⟩
          · rw [same, List.cons_append, List.cons_append, List.append_assoc,
              basicLines_escape (escaped _), ih 0 (by decide)]
            rfl
          · rw [same, List.append_assoc, List.singleton_append,
              basicLines_plain plain quote unescaped, ih 0 (by decide)]
            rfl

/-! Literal texts. -/

theorem literalBody_append (plain : ∀ c ∈ cs, isPlain c = true ∧ c ≠ '\'') (rest : List Char) :
    literalBody? (cs ++ '\'' :: rest) = some (cs, rest) := by
  induction cs with
  | nil => rfl
  | cons c cs ih =>
    obtain ⟨here, later⟩ := List.forall_mem_cons.mp plain
    have body := ih later
    simp [literalBody?, here.1, here.2, body]

/-- A text is made of quotes only, or what follows it does not add to its first quotes. -/
theorem leading_append (quote : Char) (cs : List Char) :
    cs = List.replicate (leading quote cs) quote ∨
      ∀ more, leading quote (cs ++ more) = leading quote cs := by
  induction cs with
  | nil => exact Or.inl rfl
  | cons c cs ih =>
    by_cases same : c = quote
    · subst same
      rw [leading_cons_self, List.replicate_succ]
      refine ih.imp (fun only => congrArg (c :: ·) only) fun first more => ?_
      rw [List.cons_append, leading_cons_self, first more]
    · refine Or.inr fun more => ?_
      rw [List.cons_append, leading_cons_ne same, leading_cons_ne same]

theorem literalLines_newline (rest : List Char) : literalLines? ('\n' :: rest) =
    (literalLines? rest).map fun (t, rest) => ('\n' :: t, rest) := by
  simp [literalLines?]

theorem literalLines_plain (plain : isPlain c = true) (unquoted : c ≠ '\'') :
    literalLines? (c :: rest) = (literalLines? rest).map fun (t, rest) => (c :: t, rest) := by
  obtain ⟨notLine, notReturn⟩ := not_lineEnd_of_plain plain
  rw [literalLines?, if_pos plain]
  · exact fun _ same => absurd same notReturn
  · exact notLine
  · exact unquoted

/-- The reader stops behind the closing quotes. -/
theorem literalLines_append (other : c ≠ '\'') (plain : ∀ d ∈ cs, isPlain d = true ∨ d = '\n')
    (few : ∀ before after, cs = before ++ after → leading '\'' after ≤ 2) :
    literalLines? (cs ++ (List.replicate 3 '\'' ++ c :: rest)) = some (cs, c :: rest) := by
  have closes (k : Nat) (within : k ≤ 2) :
      literalLines? (List.replicate k '\'' ++ (List.replicate 3 '\'' ++ c :: rest)) =
        some (List.replicate k '\'', c :: rest) := by
    obtain ⟨tail, run, found⟩ := closing_replicate other within
    rw [run]
    simp only [literalLines?, found]
  induction cs with
  | nil => exact closes 0 (by decide)
  | cons d cs ih =>
    obtain ⟨here, later⟩ := List.forall_mem_cons.mp plain
    have rest' := ih later fun before after split => few (d :: before) after (by rw [split]; rfl)
    have first := few [] (d :: cs) rfl
    by_cases quote : d = '\''
    · subst quote
      rcases leading_append '\'' ('\'' :: cs) with only | within
      · rw [only, closes _ first]
      · have goesOn := closing_of_leading
          (by rw [within (List.replicate 3 '\'' ++ c :: rest)]; omega)
        rw [List.cons_append] at goesOn ⊢
        simp only [literalLines?, goesOn, rest']
        rfl
    · rw [List.cons_append]
      rcases here with plain | line
      · rw [literalLines_plain plain quote, rest']
        rfl
      · subst line
        rw [literalLines_newline, rest']
        rfl

/-! The choice of a form. -/

/-- The longest run so far and the one that is going on. -/
def countRun (quote : Char) : Nat × Nat → Char → Nat × Nat :=
  fun (best, run) d =>
    let run := if d == quote then run + 1 else 0
    (max best run, run)

theorem countRun_le (quote : Char) (cs : List Char) (state : Nat × Nat)
    (known : state.2 ≤ state.1) :
    (cs.foldl (countRun quote) state).2 ≤ (cs.foldl (countRun quote) state).1 := by
  induction cs generalizing state with
  | nil => exact known
  | cons c cs ih => exact ih _ (Nat.le_max_right _ _)

theorem leading_le_countRun (quote : Char) (cs : List Char) (state : Nat × Nat)
    (known : state.2 ≤ state.1) :
    state.1 ≤ (cs.foldl (countRun quote) state).1 ∧
      state.2 + leading quote cs ≤ (cs.foldl (countRun quote) state).1 := by
  induction cs generalizing state with
  | nil => exact ⟨Nat.le_refl _, by simpa [leading] using known⟩
  | cons c cs ih =>
    obtain ⟨best, run⟩ := ih (countRun quote state c) (Nat.le_max_right _ _)
    have kept : state.1 ≤ (countRun quote state c).1 := Nat.le_max_left _ _
    rw [List.foldl_cons]
    refine ⟨Nat.le_trans kept best, ?_⟩
    by_cases same : c = quote
    · subst same
      have counted : (countRun c state c).2 = state.2 + 1 := by simp [countRun]
      rw [leading_cons_self]
      omega
    · rw [leading_cons_ne same]
      omega

/-- No run of a character is longer than the longest one. -/
theorem leading_le_longestRun (quote : Char) {before after : List Char}
    (split : cs = before ++ after) : leading quote after ≤ longestRun quote cs := by
  have longest : longestRun quote cs = (cs.foldl (countRun quote) (0, 0)).1 := rfl
  have known := countRun_le quote before (0, 0) (Nat.le_refl _)
  have within := (leading_le_countRun quote after _ known).2
  rw [longest, split, List.foldl_append]
  omega

theorem not_mem_of_longestRun {quote : Char} (none : longestRun quote cs = 0) : quote ∉ cs := by
  intro member
  obtain ⟨before, after, split⟩ := List.append_of_mem member
  have some := leading_le_longestRun quote split
  rw [leading_cons_self] at some
  omega

/-- What may stand in a text without an escape, newlines apart. -/
theorem plain_of_no_control (controls : cs.any isControl = false) :
    ∀ c ∈ cs, isPlain c = true ∨ c = '\n' := by
  intro c member
  have control : isControl c = false := by
    simpa using List.any_eq_false.mp controls c member
  by_cases line : c = '\n'
  · exact Or.inr line
  · exact Or.inl (plain_of_not_control control line)

/-- Literal forms are chosen only for texts that they can show. -/
theorem formOf_cases (cs : List Char) :
    formOf cs = .basic ∨ formOf cs = .basicLines ∨
      (formOf cs = .literal ∧ ∀ c ∈ cs, isPlain c = true ∧ c ≠ '\'') ∨
      (formOf cs = .literalLines ∧ (∀ c ∈ cs, isPlain c = true ∨ c = '\n') ∧
        ∀ before after, cs = before ++ after → leading '\'' after ≤ 2) := by
  unfold formOf
  dsimp only
  split
  case isTrue => exact Or.inl rfl
  case isFalse =>
    split
    case isTrue able =>
      simp only [Bool.and_eq_true, decide_eq_true_eq, Bool.not_eq_true'] at able
      obtain ⟨⟨singles, newline⟩, controls⟩ := able
      refine Or.inr (Or.inr (Or.inl ⟨rfl, fun c member => ?_⟩))
      have line : c ≠ '\n' := by
        rintro rfl
        rw [List.contains_iff_mem.mpr member] at newline
        cases newline
      have quote : c ≠ '\'' := by
        rintro rfl
        exact not_mem_of_longestRun singles member
      exact ⟨(plain_of_no_control controls c member).resolve_right line, quote⟩
    case isFalse =>
      split
      case isTrue => exact Or.inr (Or.inl rfl)
      case isFalse =>
        split
        case isTrue able =>
          simp only [Bool.and_eq_true, decide_eq_true_eq, Bool.not_eq_true'] at able
          refine Or.inr (Or.inr (Or.inr ⟨rfl, plain_of_no_control able.1, ?_⟩))
          exact fun before after split => Nat.le_trans (leading_le_longestRun '\'' split) able.2
        case isFalse =>
          split
          case isTrue => exact Or.inr (Or.inl rfl)
          case isFalse => exact Or.inl rfl

/-! The forms from the outside. -/

theorem length_escapeControl_pos (c : Char) : 0 < (escapeControl c).length := by
  unfold escapeControl
  split
  case h_6 =>
    split
    case isTrue => exact Nat.succ_pos _
    case isFalse => exact Nat.one_pos
  all_goals exact Nat.succ_pos _

theorem length_le_basicInside (lines : Bool) (run : Nat) (cs : List Char) :
    cs.length ≤ (basicInside lines run cs).length := by
  fun_induction basicInside lines run cs with
  | case1 => exact Nat.le_refl _
  | case2 run rest room ih => exact Nat.succ_le_succ ih
  | case3 run rest full ih => exact Nat.succ_le_succ (Nat.le_succ_of_le ih)
  | case4 run rest ih =>
    rw [List.length_cons, List.length_append]
    split
    case isTrue =>
      rw [List.length_singleton]
      omega
    case isFalse =>
      simp only [List.length_cons]
      omega
  | case5 run c rest _ _ ih =>
    have positive := length_escapeControl_pos c
    rw [List.length_cons, List.length_append]
    omega

/-- A text whose first line end, if it begins with one, is not its own. -/
def Unlined (cs : List Char) : Prop :=
  ∀ c, cs.head? = some c → c ≠ '\n' ∧ c ≠ '\r'

theorem unlined_cons (newline : c ≠ '\n') (creturn : c ≠ '\r') (cs : List Char) :
    Unlined (c :: cs) := by
  intro d first
  cases first
  exact ⟨newline, creturn⟩

theorem unlined_of_plain (plain : isPlain c = true) (cs : List Char) : Unlined (c :: cs) :=
  unlined_cons (not_lineEnd_of_plain plain).1 (not_lineEnd_of_plain plain).2 cs

theorem unlined_basicInside {lines : Bool} {run : Nat} (line : '\n' ∉ cs) {next : List Char}
    (unlined : Unlined next) : Unlined (basicInside lines run cs ++ next) := by
  cases cs with
  | nil => exact unlined
  | cons c cs =>
    obtain ⟨d, more, written, first⟩ := basicInside_first lines run c cs
    rw [written]
    rcases first with rfl | ⟨rfl, _, newline | plain⟩
    · exact unlined_cons (by decide) (by decide) _
    · exact absurd (newline ▸ List.mem_cons_self) line
    · exact unlined_of_plain plain _

theorem skipFirstLineEnd_of_unlined {body : List Char} (unlined : Unlined body) :
    skipFirstLineEnd body = body := by
  unfold skipFirstLineEnd
  split
  case h_1 => exact absurd rfl (unlined '\r' rfl).2
  case h_2 => exact absurd rfl (unlined '\n' rfl).1
  case h_3 => rfl

theorem skipFirstLineEnd_opening {body : List Char} (unlined : '\n' ∉ cs → Unlined body) :
    skipFirstLineEnd (opening cs ++ body) = body := by
  unfold opening
  split
  case isTrue => rfl
  case isFalse none => exact skipFirstLineEnd_of_unlined (unlined (by simpa using none))

/-- What does not begin with three quotes is a text on one line. -/
theorem quotedText_basic (few : leading '"' cs < 2) :
    quotedText? ('"' :: cs) = basicBody? (cs.length + 1) cs := by
  unfold quotedText?
  split
  case h_1 rest same =>
    cases same
    simp only [leading_cons_self] at few
    omega
  case h_2 rest same => cases same
  case h_3 => rfl

theorem quotedText_literal (few : leading '\'' cs < 2) :
    quotedText? ('\'' :: cs) = literalBody? cs := by
  unfold quotedText?
  split
  case h_1 rest same => cases same
  case h_2 rest same =>
    cases same
    simp only [leading_cons_self] at few
    omega
  case h_3 => rfl

theorem basic_reads (double : c ≠ '"') (cs rest : List Char) :
    quotedText? ('"' :: (basicInside false 0 cs ++ '"' :: c :: rest)) = some (cs, c :: rest) := by
  have few : leading '"' (basicInside false 0 cs ++ '"' :: c :: rest) < 2 := by
    cases cs with
    | nil =>
      change leading '"' ('"' :: c :: rest) < 2
      rw [leading_cons_self, leading_cons_ne double]
      decide
    | cons d cs =>
      obtain ⟨e, more, written, first⟩ := basicInside_first false 0 d cs
      have other : e ≠ '"' := by
        rcases first with rfl | ⟨rfl, room, _⟩
        · decide
        · exact fun quote => absurd (room quote) (by decide)
      rw [written, List.cons_append, leading_cons_ne other]
      decide
  have enough := length_le_basicInside false 0 cs
  obtain ⟨n, budget⟩ : ∃ n, (basicInside false 0 cs ++ '"' :: c :: rest).length + 1 =
      cs.length + 1 + n := ⟨(basicInside false 0 cs ++ '"' :: c :: rest).length - cs.length, by
        simp only [List.length_append]
        omega⟩
  rw [quotedText_basic few, budget, basicBody_inside]

theorem basicLines_reads (double : c ≠ '"') (cs rest : List Char) :
    quotedText? (List.replicate 3 '"' ++ (opening cs ++ (basicInside true 0 cs ++
      (List.replicate 3 '"' ++ c :: rest)))) = some (cs, c :: rest) := by
  have body : skipFirstLineEnd (opening cs ++ (basicInside true 0 cs ++
      (List.replicate 3 '"' ++ c :: rest))) =
        basicInside true 0 cs ++ (List.replicate 3 '"' ++ c :: rest) :=
    skipFirstLineEnd_opening fun line =>
      unlined_basicInside line (unlined_cons (by decide) (by decide) _)
  have enough := length_le_basicInside true 0 cs
  obtain ⟨n, budget⟩ : ∃ n, 2 * (basicInside true 0 cs ++
      (List.replicate 3 '"' ++ c :: rest)).length + 1 = cs.length + 1 + n :=
    ⟨2 * (basicInside true 0 cs ++ (List.replicate 3 '"' ++ c :: rest)).length - cs.length, by
      simp only [List.length_append]
      omega⟩
  change basicLines? (2 * (skipFirstLineEnd (opening cs ++ _)).length + 1) .inside
    (skipFirstLineEnd (opening cs ++ _)) = _
  rw [body, budget, basicLines_inside double cs 0 (by decide)]

theorem literal_reads (single : c ≠ '\'') (plain : ∀ c ∈ cs, isPlain c = true ∧ c ≠ '\'')
    (rest : List Char) :
    quotedText? ('\'' :: (cs ++ '\'' :: c :: rest)) = some (cs, c :: rest) := by
  have few : leading '\'' (cs ++ '\'' :: c :: rest) < 2 := by
    cases cs with
    | nil =>
      change leading '\'' ('\'' :: c :: rest) < 2
      rw [leading_cons_self, leading_cons_ne single]
      decide
    | cons d cs =>
      rw [List.cons_append, leading_cons_ne (plain d List.mem_cons_self).2]
      decide
  rw [quotedText_literal few, literalBody_append plain]

theorem literalLines_reads (single : c ≠ '\'') (plain : ∀ c ∈ cs, isPlain c = true ∨ c = '\n')
    (few : ∀ before after, cs = before ++ after → leading '\'' after ≤ 2) (rest : List Char) :
    quotedText? (List.replicate 3 '\'' ++ (opening cs ++ (cs ++
      (List.replicate 3 '\'' ++ c :: rest)))) = some (cs, c :: rest) := by
  have body : skipFirstLineEnd (opening cs ++ (cs ++ (List.replicate 3 '\'' ++ c :: rest))) =
      cs ++ (List.replicate 3 '\'' ++ c :: rest) := by
    refine skipFirstLineEnd_opening fun line => ?_
    cases cs with
    | nil => exact unlined_cons (by decide) (by decide) _
    | cons d cs =>
      refine unlined_of_plain ((plain d List.mem_cons_self).resolve_right ?_) _
      rintro rfl
      exact line List.mem_cons_self
  change literalLines? (skipFirstLineEnd (opening cs ++ _)) = _
  rw [body, literalLines_append single plain few]

/-- A written text comes back, and nothing of what follows is taken. -/
theorem quotedText_renderText (s : String) (double : c ≠ '"') (single : c ≠ '\'')
    (rest : List Char) : quotedText? (renderText s ++ c :: rest) = some (s.toList, c :: rest) := by
  unfold renderText
  dsimp only
  rcases formOf_cases s.toList with form | form | ⟨form, plain⟩ | ⟨form, plain, few⟩
  · rw [form]
    simpa using basic_reads double s.toList rest
  · rw [form]
    simpa using basicLines_reads double s.toList rest
  · rw [form]
    simpa using literal_reads single plain rest
  · rw [form]
    simpa using literalLines_reads single plain few rest

end Dialback.Toml
