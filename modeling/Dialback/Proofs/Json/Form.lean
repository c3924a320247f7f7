import Dialback.Json.Form
import Dialback.Proofs.Json.Value

/-!
Forms that are read back. A record written with names of its own is read by its fields in order, so
a record of such forms is one; absence is told from presence where what is present is never null.
-/
namespace Dialback

open Json JsonForm

/-- A form that is written in plain values and read as what was written. -/
class LawfulJson (α : Type) [JsonForm α] : Prop where
  plain (a : α) : Plain (write a)
  read_write (a : α) : read (write a) = some a

namespace JsonForm

variable {α β : Type} [JsonForm α] {fields : List (String × Json)} {names : List String}
  {next : List (Option Json) → Option β} {b : β}

/-! The whole text. -/

theorem parse?_print [LawfulJson α] (a : α) : Json.parse? (print a) = some (write a) :=
  Json.parse?_render (LawfulJson.plain a)

theorem parse_print [LawfulJson α] (a : α) : parse (print a) = some a := by
  rw [parse, parse?_print, Option.bind_some, LawfulJson.read_write]

theorem print_injective [LawfulJson α] {a b : α} (same : print a = print b) : a = b := by
  have read := parse_print a
  rw [same, parse_print] at read
  exact (Option.some.inj read).symm

/-! Fields. -/

/-- Where names are distinct, a field is alone under its own. -/
theorem filter_name (distinct : (fields.map Prod.fst).Nodup) {f : String × Json}
    (member : f ∈ fields) : fields.filter (fun g => g.1 == f.1) = [f] := by
  induction fields with
  | nil => cases member
  | cons g fields ih =>
    rw [List.map_cons, List.nodup_cons] at distinct
    obtain ⟨absent, distinct⟩ := distinct
    rcases List.mem_cons.mp member with rfl | member
    · have others : fields.filter (fun g => g.1 == f.1) = [] := by
        rw [List.filter_eq_nil_iff]
        intro g here same
        exact absent (List.mem_map.mpr ⟨g, here, beq_iff_eq.mp same⟩)
      simp [others]
    · have other : g.1 ≠ f.1 := by
        intro same
        exact absent (List.mem_map.mpr ⟨f, member, same.symm⟩)
      simp [other, ih distinct member]

theorem valuesOf_named (distinct : (fields.map Prod.fst).Nodup) {f : String × Json}
    (member : f ∈ fields) : valuesOf (named fields) f.1 = [f.2] := by
  simp [valuesOf, named, List.filter_map, Function.comp_def, filter_name distinct member]

theorem mapM_names {look : String → Option (Option Json)}
    (told : ∀ f ∈ fields, look f.1 = some (some f.2)) :
    (fields.map Prod.fst).mapM look = some (fields.map fun f => some f.2) := by
  induction fields with
  | nil => rfl
  | cons f fields ih =>
    obtain ⟨first, others⟩ := List.forall_mem_cons.mp told
    rw [List.map_cons, List.mapM_cons, first, ih others]
    rfl

theorem slots?_named (distinct : (fields.map Prod.fst).Nodup) :
    slots? (named fields) (fields.map Prod.fst) = some (fields.map fun f => some f.2) := by
  have texts : ((named fields).any fun f => f.1.isNone) = false := by simp [named]
  rw [slots?, texts, if_neg Bool.false_ne_true]
  refine mapM_names fun f member => ?_
  rw [valuesOf_named distinct member]

/-- A record is read by its fields in order. -/
theorem bind_fields (known : fields.map Prod.fst = names) (distinct : names.Nodup)
    (told : next (fields.map fun f => some f.2) = some b) :
    (JsonForm.fields? names (record fields)).bind next = some b := by
  subst known
  have slots : JsonForm.fields? (fields.map Prod.fst) (record fields) = _ := slots?_named distinct
  rw [slots, Option.bind_some, told]

/-- No field of the record is unknown. -/
theorem bind_closedFields (known : fields.map Prod.fst = names) (distinct : names.Nodup)
    (told : next (fields.map fun f => some f.2) = some b) :
    (closedFields? names (record fields)).bind next = some b := by
  subst known
  have closed : ((named fields).all fun f =>
      (fields.map Prod.fst).any fun name => f.1 == some name) = true := by
    rw [List.all_eq_true]
    intro f member
    obtain ⟨g, here, rfl⟩ := List.mem_map.mp member
    exact List.any_eq_true.mpr ⟨g.1, List.mem_map_of_mem here, beq_self_eq_true (some g.1)⟩
  have slots : closedFields? (fields.map Prod.fst) (record fields) = _ :=
    (if_pos closed).trans (slots?_named distinct)
  rw [slots, Option.bind_some, told]

@[simp] theorem required_write [LawfulJson α] (a : α) : required (some (write a)) = some a :=
  LawfulJson.read_write a

@[simp] theorem omittable_write [LawfulJson (Option α)] (a : Option α) :
    omittable (some (write a)) = some a :=
  LawfulJson.read_write a

/-! Alternatives. -/

theorem bind_variant {name : String} {j : Json} {next : String × Json → Option β}
    (told : next (name, j) = some b) : (variant? (variant name j)).bind next = some b :=
  told

/-! Single values. -/

instance : LawfulJson Unit where
  plain _ := .null
  read_write _ := rfl

instance : LawfulJson String where
  plain s := .text s
  read_write _ := rfl

theorem readNat_ofNat {n bound : Nat} (small : n < bound) : readNat bound (ofNat n) = some n := by
  have digits := Text.natNumeral?_eq_some.mpr (Text.digits_decimal n)
  simp [readNat, ofNat, digits, small]

theorem read_word {n : Nat} (small : n < UInt32.size) :
    read (ofNat n) = some (UInt32.ofNat n) := by
  simp [read, readNat_ofNat small]

theorem read_long {n : Nat} (small : n < UInt64.size) :
    read (ofNat n) = some (UInt64.ofNat n) := by
  simp [read, readNat_ofNat small]

instance : LawfulJson UInt32 where
  plain n := .number n.toNat
  read_write n := (read_word n.toNat_lt).trans (congrArg some UInt32.ofNat_toNat)

theorem read_present {j : Json} {a : α} (present : read j = some a) (shown : j ≠ null) :
    read j = some (some a) := by
  cases j with
  | null => exact absurd rfl shown
  | bool | number | text | array | object => exact congrArg (Option.map some) present

/-- What is never null is told from nothing. -/
theorem lawful_option [LawfulJson α] (shown : ∀ a : α, write a ≠ null) : LawfulJson (Option α) where
  plain
    | none => .null
    | some a => LawfulJson.plain a
  read_write
    | none => rfl
    | some a => read_present (LawfulJson.read_write a) (shown a)

end JsonForm
end Dialback
