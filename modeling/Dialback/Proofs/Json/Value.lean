import Dialback.Proofs.Json.Text

/-!
Values of JSON are read back from their compact text. A value takes as many steps of reading as its
text has characters, at most, so that the reader never runs out of them.
-/
namespace Dialback.Json

/-- Values whose numbers are natural numbers in decimal and whose texts are texts. -/
inductive Plain : Json → Prop
  | null : Plain null
  | bool (b : Bool) : Plain (bool b)
  | number (n : Nat) : Plain (ofNat n)
  | text (s : String) : Plain (ofString s)
  | array (items : List Json) (plain : ∀ j ∈ items, Plain j) : Plain (array items)
  | record (fields : List (String × Json)) (plain : ∀ f ∈ fields, Plain f.2) :
      Plain (record fields)

variable {j : Json} {n : Nat} {rest cs : List Char} {items : List Json}
  {fields : List (String × Json)}

/-- The reader takes the text of this value, and stops behind it. -/
def Reads (j : Json) : Prop :=
  ∀ n rest, (render j).length ≤ n → EndsNumeral rest → value? n (render j ++ rest) = some (j, rest)

/-! What a text begins with. -/

theorem isSpace_of_digit {c : Char} (digit : Text.isDigit c = true) : isSpace c = false := by
  unfold isSpace
  simp only [Bool.or_eq_false_iff, beq_eq_false_iff_ne]
  refine ⟨⟨⟨?_, ?_⟩, ?_⟩, ?_⟩ <;> rintro rfl <;> cases digit

/-- The text of a value begins with something else than a blank or a closing bracket. -/
theorem render_head (plain : Plain j) :
    ∃ c more, render j = c :: more ∧ isSpace c = false ∧ c ≠ ']' := by
  cases plain with
  | null => exact ⟨'n', _, rfl, rfl, by decide⟩
  | bool b => cases b <;> exact ⟨_, _, rfl, rfl, by decide⟩
  | number n =>
    obtain ⟨c, more, same, digit⟩ := exists_digit n []
    rw [List.append_nil] at same
    refine ⟨c, more, ?_, isSpace_of_digit digit, ?_⟩
    · rw [ofNat, render, same]
    · rintro rfl
      cases digit
  | text s =>
    rw [ofString, render]
    exact ⟨_, _, rfl, rfl, by decide⟩
  | array items =>
    rw [render]
    exact ⟨_, _, rfl, rfl, by decide⟩
  | record fields =>
    rw [Json.record, render]
    exact ⟨_, _, rfl, rfl, by decide⟩

theorem skipSpace_cons {c : Char} (shown : isSpace c = false) (rest : List Char) :
    skipSpace (c :: rest) = c :: rest := by
  simp [skipSpace, shown]

/-- Behind a value come marks that end a numeral. -/
theorem endsNumeral_mark {c : Char} (mark : c ∈ [',', ']', '}']) (rest : List Char) :
    EndsNumeral (c :: rest) := by
  intro c' here
  cases here
  simp only [List.mem_cons, List.not_mem_nil, or_false] at mark
  rcases mark with rfl | rfl | rfl <;> decide

/-! Values. -/

theorem reads_null : Reads null := by
  intro n rest enough ends
  cases n with
  | zero => simp [render] at enough
  | succ n => rfl

theorem reads_bool (b : Bool) : Reads (bool b) := by
  intro n rest enough ends
  cases n with
  | zero => cases b <;> simp [render] at enough
  | succ n => cases b <;> rfl

theorem reads_number (k : Nat) : Reads (ofNat k) := by
  intro n rest enough ends
  obtain ⟨c, more, same, digit⟩ := exists_digit k rest
  have other (mark : Char) (tail : List Char) (undigit : Text.isDigit mark = false) :
      c :: more ≠ mark :: tail := by
    rintro ⟨⟩
    rw [digit] at undigit
    cases undigit
  cases n with
  | zero =>
    rw [ofNat, render, Nat.le_zero, List.length_eq_zero_iff] at enough
    exact absurd enough (Text.decimal_ne_nil k)
  | succ n =>
    have parsed := number_decimal k ends
    rw [ofNat, render, value?, same, skipSpace_cons (isSpace_of_digit digit)]
    rw [same] at parsed
    split
    case h_1 found => exact absurd found (other _ _ rfl)
    case h_2 found => exact absurd found (other _ _ rfl)
    case h_3 found => exact absurd found (other _ _ rfl)
    case h_4 found => exact absurd found (other _ _ rfl)
    case h_5 found => exact absurd found (other _ _ rfl)
    case h_6 found => exact absurd found (other _ _ rfl)
    case h_7 => simp [parsed]

theorem reads_text (s : String) : Reads (ofString s) := by
  intro n rest enough ends
  obtain ⟨inner, same, read⟩ := text_renderText s rest
  cases n with
  | zero => simp [ofString, render, renderText] at enough
  | succ n =>
    have written : render (ofString s) ++ rest = '"' :: inner := by
      simpa [ofString, render] using same
    rw [written, value?, skipSpace_cons rfl]
    simp [read, ofString]

/-! Items and fields. -/

theorem renderItems_cons (j : Json) (items : List Json) :
    ∃ tail, renderItems (j :: items) = render j ++ tail := by
  cases items with
  | nil => exact ⟨[], by simp [renderItems]⟩
  | cons k more => exact ⟨',' :: renderItems (k :: more), by simp [renderItems]⟩

theorem items_render (reads : ∀ j ∈ items, Reads j) (nonempty : items ≠ [])
    (enough : (renderItems items).length < n) (rest : List Char) :
    items? n (renderItems items ++ ']' :: rest) = some (items, rest) := by
  -- the step that an item takes is paid for by the comma or the bracket behind it
  induction items generalizing n with
  | nil => exact absurd rfl nonempty
  | cons j items ih =>
    obtain ⟨first, others⟩ := List.forall_mem_cons.mp reads
    cases n with
    | zero => cases enough
    | succ n =>
      cases items with
      | nil =>
        rw [renderItems] at enough ⊢
        rw [items?, first n _ (by omega) (endsNumeral_mark (by simp) rest)]
        rfl
      | cons k more =>
        rw [renderItems, List.length_append, List.length_cons] at enough
        have read := first n (',' :: (renderItems (k :: more) ++ ']' :: rest)) (by omega)
          (endsNumeral_mark (by simp) _)
        rw [renderItems, List.append_assoc, List.cons_append, items?, read]
        simp only [skipSpace_cons (show isSpace ',' = false from rfl)]
        rw [ih others (by simp) (by omega)]
        rfl

theorem reads_array (plain : ∀ j ∈ items, Plain j) (reads : ∀ j ∈ items, Reads j) :
    Reads (array items) := by
  intro n rest enough ends
  rw [render, List.length_append, List.length_cons, List.length_singleton] at enough
  cases n with
  | zero => omega
  | succ n =>
    rw [render, List.append_assoc, List.cons_append, List.singleton_append, value?,
      skipSpace_cons rfl]
    cases items with
    | nil => rfl
    | cons j items =>
      obtain ⟨tail, written⟩ := renderItems_cons j items
      obtain ⟨c, more, begins, shown, open_⟩ := render_head (plain j List.mem_cons_self)
      have enough : (renderItems (j :: items)).length < n := by omega
      have read := items_render reads (by simp) enough rest
      rw [written, begins] at read ⊢
      simp only [List.cons_append, skipSpace_cons shown] at read ⊢
      split
      case h_1 closed =>
        cases closed
        exact absurd rfl open_
      case h_2 =>
        rw [read]
        rfl

/-- Fields under names that are texts. -/
def named (fields : List (String × Json)) : List (Option String × Json) :=
  fields.map fun f => (some f.1, f.2)

theorem renderFields_cons (f : String × Json) (fields : List (String × Json)) :
    ∃ more, renderFields (named (f :: fields)) = '"' :: more := by
  cases fields <;> simp [named, renderFields, renderText]

theorem fields_last (name : String)
    (read : value? n (render j ++ '}' :: rest) = some (j, '}' :: rest)) :
    fields? (n + 1) (renderText name ++ ':' :: (render j ++ '}' :: rest)) =
      some ([(some name, j)], rest) := by
  obtain ⟨inner, written, text⟩ := text_renderText name (':' :: (render j ++ '}' :: rest))
  rw [written, fields?, skipSpace_cons rfl]
  simp only [text, skipSpace_cons (show isSpace ':' = false from rfl), read,
    skipSpace_cons (show isSpace '}' = false from rfl)]

theorem fields_more (name : String) {others : List (Option String × Json)}
    (read : value? n (render j ++ ',' :: cs) = some (j, ',' :: cs))
    (behind : fields? n cs = some (others, rest)) :
    fields? (n + 1) (renderText name ++ ':' :: (render j ++ ',' :: cs)) =
      some ((some name, j) :: others, rest) := by
  obtain ⟨inner, written, text⟩ := text_renderText name (':' :: (render j ++ ',' :: cs))
  rw [written, fields?, skipSpace_cons rfl]
  simp only [text, skipSpace_cons (show isSpace ':' = false from rfl), read,
    skipSpace_cons (show isSpace ',' = false from rfl), behind, Option.map_some]

theorem fields_render (reads : ∀ f ∈ fields, Reads f.2) (nonempty : fields ≠ [])
    (enough : (renderFields (named fields)).length < n) (rest : List Char) :
    fields? n (renderFields (named fields) ++ '}' :: rest) = some (named fields, rest) := by
  induction fields generalizing n with
  | nil => exact absurd rfl nonempty
  | cons f fields ih =>
    obtain ⟨first, others⟩ := List.forall_mem_cons.mp reads
    cases n with
    | zero => cases enough
    | succ n =>
      cases fields with
      | nil =>
        simp only [named, List.map_cons, List.map_nil, renderFields, Option.getD_some,
          List.length_append, List.length_cons] at enough
        have read := first n ('}' :: rest) (by omega) (endsNumeral_mark (by simp) rest)
        simp only [named, List.map_cons, List.map_nil, renderFields, Option.getD_some,
          List.append_assoc, List.cons_append]
        exact fields_last f.1 read
      | cons next more =>
        have written : renderFields (named (f :: next :: more)) = renderText f.1 ++
            ':' :: (render f.2 ++ ',' :: renderFields (named (next :: more))) := by
          simp [named, renderFields]
        rw [written] at enough ⊢
        simp only [List.length_append, List.length_cons] at enough
        have less : (renderFields (named (next :: more))).length < n := by omega
        have read := first n (',' :: (renderFields (named (next :: more)) ++ '}' :: rest))
          (by omega) (endsNumeral_mark (by simp) _)
        have behind := ih others (by simp) less
        simp only [List.append_assoc, List.cons_append]
        exact fields_more f.1 read behind

theorem reads_record (reads : ∀ f ∈ fields, Reads f.2) : Reads (record fields) := by
  intro n rest enough ends
  change (render (object (named fields))).length ≤ n at enough
  change value? n (render (object (named fields)) ++ rest) = some (object (named fields), rest)
  rw [render, List.length_append, List.length_cons, List.length_singleton] at enough
  cases n with
  | zero => omega
  | succ n =>
    rw [render, List.append_assoc, List.cons_append, List.singleton_append, value?,
      skipSpace_cons rfl]
    cases fields with
    | nil => rfl
    | cons f fields =>
      have enough : (renderFields (named (f :: fields))).length < n := by omega
      have read := fields_render reads (by simp) enough rest
      obtain ⟨more, begins⟩ := renderFields_cons f fields
      rw [begins, List.cons_append] at read ⊢
      simp only [skipSpace_cons (show isSpace '"' = false from rfl), read]
      rfl

/-! The whole text. -/

theorem reads_of_plain (plain : Plain j) : Reads j := by
  induction plain with
  | null => exact reads_null
  | bool b => exact reads_bool b
  | number n => exact reads_number n
  | text s => exact reads_text s
  | array items plain ih => exact reads_array plain ih
  | record fields plain ih => exact reads_record ih

theorem parse?_render (plain : Plain j) : parse? (String.ofList (render j)) = some j := by
  have read := reads_of_plain plain (2 * (render j).length + 2) [] (by omega)
    (by simp [EndsNumeral])
  rw [List.append_nil] at read
  simp [parse?, read, skipSpace]

end Dialback.Json
