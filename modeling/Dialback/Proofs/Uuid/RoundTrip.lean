import Dialback.Uuid
import Dialback.Proofs.Text.Numeral
import Mathlib.Algebra.GroupWithZero.Nat
import Mathlib.Data.String.Basic

/-!
Identifiers are read back from the five groups they are written in. No group has a hyphen of its
own, so the hyphens part the text into the same groups again.
-/
namespace Dialback.Uuid

variable {u : Uuid} {cs group : List Char} {groups : List (List Char)} {c : Char}
  {lengths : List Nat}

/-! Groups. -/

theorem flatten_splitGroups : (splitGroups lengths cs).flatten = cs.take lengths.sum := by
  induction lengths generalizing cs with
  | nil => rfl
  | cons n lengths ih => rw [splitGroups, List.flatten_cons, ih, List.sum_cons, List.take_add]

theorem length_splitGroups (enough : lengths.sum ≤ cs.length) :
    (splitGroups lengths cs).map List.length = lengths := by
  induction lengths generalizing cs with
  | nil => rfl
  | cons n lengths ih =>
    rw [List.sum_cons] at enough
    have behind : lengths.sum ≤ (cs.drop n).length := by
      rw [List.length_drop]
      omega
    rw [splitGroups, List.map_cons, ih behind, List.length_take, Nat.min_eq_left (by omega)]

theorem utf8Len_narrow (narrow : ∀ c ∈ cs, c.utf8Size = 1) : String.utf8Len cs = cs.length := by
  induction cs with
  | nil => rfl
  | cons c cs ih =>
    obtain ⟨one, others⟩ := List.forall_mem_cons.mp narrow
    rw [String.utf8Len_cons, ih others, one, List.length_cons]

/-- A hyphen between any two groups, and one byte for each of their characters. -/
theorem byteLength_intercalate (narrow : ∀ c ∈ groups.flatten, c.utf8Size = 1) :
    byteLength (['-'].intercalate groups) = groups.flatten.length + (groups.length - 1) := by
  rw [byteLength, String.utf8ByteSize_ofList]
  induction groups with
  | nil => rfl
  | cons group groups ih =>
    rw [List.flatten_cons, List.forall_mem_append] at narrow
    obtain ⟨first, others⟩ := narrow
    cases groups with
    | nil => simp [utf8Len_narrow first]
    | cons next more =>
      have hyphen : ('-').utf8Size = 1 := rfl
      rw [List.intercalate_cons_cons, String.utf8Len_append, String.utf8Len_append, ih others,
        utf8Len_narrow first, String.utf8Len_cons, hyphen]
      simp only [List.flatten_cons, List.length_append, List.length_cons, String.utf8Len_nil]
      omega

/-! The groups of an identifier. -/

/-- What is written of an identifier, without the hyphens. -/
def groupsOf (u : Uuid) : List (List Char) :=
  splitGroups groupLengths (Text.hexPadded 32 u.value)

theorem length_digits (u : Uuid) : (Text.hexPadded 32 u.value).length = groupLengths.sum :=
  Text.length_hexPadded 32 u.value

theorem flatten_groupsOf (u : Uuid) : u.groupsOf.flatten = Text.hexPadded 32 u.value := by
  rw [groupsOf, flatten_splitGroups, ← u.length_digits, List.take_length]

theorem exists_hexDigit (member : c ∈ u.groupsOf.flatten) : ∃ d < 16, Text.hexDigit d = c := by
  rw [flatten_groupsOf] at member
  exact Text.exists_hexDigit member

theorem splitOn_renderChars (u : Uuid) : u.renderChars.splitOn '-' = u.groupsOf := by
  have plain : ∀ d < 16, Text.hexDigit d ≠ '-' := by decide
  refine List.splitOn_intercalate '-' ?_ (List.cons_ne_nil _ _)
  intro group part hyphen
  obtain ⟨d, few, same⟩ := exists_hexDigit (List.mem_flatten_of_mem part hyphen)
  exact plain d few same

theorem byteLength_renderChars (u : Uuid) : byteLength u.renderChars = 36 := by
  have narrow : ∀ d < 16, (Text.hexDigit d).utf8Size = 1 := by decide
  have bytes : byteLength u.renderChars = u.groupsOf.flatten.length + (u.groupsOf.length - 1) := by
    refine byteLength_intercalate fun c member => ?_
    obtain ⟨d, few, rfl⟩ := exists_hexDigit member
    exact narrow d few
  rw [bytes, flatten_groupsOf, u.length_digits]
  rfl

theorem ofGroups_renderChars (u : Uuid) : ofGroups? u.renderChars = some u := by
  have lengths : u.groupsOf.map List.length = groupLengths := length_splitGroups u.length_digits.ge
  have value : u.value % Nat.pow 16 32 = u.value := Nat.mod_eq_of_lt u.bound
  rw [ofGroups?, splitOn_renderChars, if_pos lengths, flatten_groupsOf, ofDigits?,
    Text.hexValue_hexPadded_mod, value, Option.map_some, ofNat]
  simp only [Nat.mod_eq_of_lt u.bound]

theorem parse?_render (u : Uuid) : parse? u.render = some u := by
  rw [parse?, parse, render, String.toList_ofList]
  simp [byteLength_renderChars, parseGroups, ofGroups_renderChars, Except.toOption]

end Dialback.Uuid
