import Dialback.Proofs.Toml.Quoted
import Dialback.Proofs.Toml.Scalar
import Dialback.Toml.Reader

/-!
Documents of pairs and sections, one line each, are read as the entries they are made of. Reading
goes line by line; what some lines do to a draft does not depend on the lines behind them, so what
is known of single lines adds up to the whole document.
-/
namespace Dialback.Toml

open Text Binary64

variable {cs rest : List Char} {v : Value} {key : String} {es : Entries}

/-! Values. -/

/-- A written value that ends with its line. -/
structure Reads (cs : List Char) (v : Value) : Prop where
  starts : ∃ c others, cs = c :: others ∧ isGap c = false
  value : ∀ n depth rest, value? (n + 1) depth (cs ++ '\n' :: rest) = some (v, '\n' :: rest)

/-- Every form of a text has a quote in front. -/
theorem renderText_quoted (s : String) :
    ∃ others, renderText s = '"' :: others ∨ renderText s = '\'' :: others := by
  simp only [renderText]
  cases formOf s.toList with
  | basic => exact ⟨_, Or.inl rfl⟩
  | literal => exact ⟨_, Or.inr rfl⟩
  | basicLines => exact ⟨_, Or.inl rfl⟩
  | literalLines => exact ⟨_, Or.inr rfl⟩

theorem reads_text (s : String) : Reads (renderText s) (.text s) := by
  obtain ⟨others, quoted⟩ := renderText_quoted s
  refine ⟨?_, ?_⟩
  · rcases quoted with written | written
    · exact ⟨'"', others, written, rfl⟩
    · exact ⟨'\'', others, written, rfl⟩
  · intro n depth rest
    have read : quotedText? (renderText s ++ '\n' :: rest) = some (s.toList, '\n' :: rest) :=
      quotedText_renderText s (by decide) (by decide) rest
    rcases quoted with written | written
    all_goals
      rw [written, List.cons_append] at read ⊢
      simp only [value?, read, Option.map_some, String.ofList_toList]

theorem reads_scalar (nonempty : cs ≠ []) (chars : ∀ c ∈ cs, isScalarChar c = true)
    (word : scalar? cs = some v) : Reads cs v := by
  obtain ⟨c, others, rfl⟩ := List.exists_cons_of_ne_nil nonempty
  have first : isScalarChar c = true := chars c List.mem_cons_self
  have other (d : Char) (special : isScalarChar d = false) : c ≠ d := by
    rintro rfl
    exact absurd first (by simp [special])
  refine ⟨⟨c, others, rfl, ?_⟩, ?_⟩
  · simp [isGap, other ' ' (by decide), other '\t' (by decide)]
  · intro n depth rest
    have read := scalarWord_append chars rest
    rw [word, Option.map_some] at read
    rw [List.cons_append] at read ⊢
    rw [value?, read]
    · exact fun _ same => other '"' (by decide) (List.cons.inj same).1
    · exact fun _ same => other '\'' (by decide) (List.cons.inj same).1
    · exact fun _ same => other '[' (by decide) (List.cons.inj same).1
    · exact fun _ same => other '{' (by decide) (List.cons.inj same).1

theorem reads_integer {n : Nat} (small : n ≤ maxInteger) : Reads (decimal n) (.integer n) :=
  reads_scalar (decimal_ne_nil n) (fun _ member => isScalarChar_decimal member)
    (scalar_decimal small)

theorem reads_float {x : Binary64} (large : x.atLeastOne = true) : Reads x.render (.float x) := by
  obtain ⟨word, chars⟩ := scalar_render large
  apply reads_scalar _ chars word
  intro empty
  rw [empty] at word
  have nothing : scalar? [] = none := by decide
  rw [nothing] at word
  cases word

/-! Keys. -/

/-- A key that needs no quotes. -/
structure Bare (key : String) : Prop where
  nonempty : key.toList ≠ []
  chars : ∀ c ∈ key.toList, isBareKeyChar c = true

instance : Decidable (Bare key) :=
  decidable_of_iff (key.toList ≠ [] ∧ key.toList.all isBareKeyChar = true)
    ⟨fun both => ⟨both.1, List.all_eq_true.mp both.2⟩,
      fun bare => ⟨bare.nonempty, List.all_eq_true.mpr bare.chars⟩⟩

theorem skipGaps_cons {c : Char} (solid : isGap c = false) (cs : List Char) :
    skipGaps (c :: cs) = c :: cs :=
  List.dropWhile_cons_of_neg (by simp [solid])

namespace Bare

/-- The first character tells a key from everything else that a line may begin with. -/
theorem head (bare : Bare key) : ∃ c others, key.toList = c :: others ∧ isGap c = false ∧
    ∀ d, isBareKeyChar d = false → c ≠ d := by
  obtain ⟨c, others, written⟩ := List.exists_cons_of_ne_nil bare.nonempty
  have first : isBareKeyChar c = true := bare.chars c (by rw [written]; exact List.mem_cons_self)
  have other (d : Char) (special : isBareKeyChar d = false) : c ≠ d := by
    rintro rfl
    exact absurd first (by simp [special])
  refine ⟨c, others, written, ?_, other⟩
  simp [isGap, other ' ' (by decide), other '\t' (by decide)]

/-- A key of one part, up to what ends it. -/
theorem read (bare : Bare key) {a d : Char} {more tail : List Char}
    (ends : isBareKeyChar a = false) (skipped : skipGaps (a :: more) = d :: tail)
    (single : d ≠ '.') : key? (key.toList ++ a :: more) = some ([], key, d :: tail) := by
  obtain ⟨c, others, written, solid, other⟩ := bare.head
  have part : keyPart? (skipGaps (key.toList ++ a :: more)) = some (key, a :: more) := by
    have taken : (key.toList ++ a :: more).takeWhile isBareKeyChar = key.toList := by
      rw [List.takeWhile_append_of_pos bare.chars, List.takeWhile_cons_of_neg (by simp [ends]),
        List.append_nil]
    have dropped : (key.toList ++ a :: more).dropWhile isBareKeyChar = a :: more := by
      rw [List.dropWhile_append_of_pos bare.chars, List.dropWhile_cons_of_neg (by simp [ends])]
    have same : key.toList ++ a :: more = c :: (others ++ a :: more) := by
      rw [written, List.cons_append]
    have nonempty : key.toList.isEmpty = false := by simpa using bare.nonempty
    rw [same, skipGaps_cons solid, keyPart?]
    · simp only [← same, taken, dropped, nonempty, String.ofList_toList]
      rfl
    · exact fun _ same => other '"' (by decide) (List.cons.inj same).1
    · exact fun _ same => other '\'' (by decide) (List.cons.inj same).1
  have parts : keyParts? (maxDepth - 1) (key.toList ++ a :: more) = some ([key], d :: tail) := by
    rw [maxDepth, keyParts?, part]
    dsimp only
    rw [skipped]
    split
    case h_1 rest dotted => exact absurd (List.cons.inj dotted).1 single
    case h_2 => rfl
  rw [key?, parts]
  rfl

end Bare

/-! Drafts. -/

theorem find_none (fresh : key ∉ es.map Prod.fst) : Entries.find? es key = none := by
  rw [Entries.find?, List.lookup_eq_none_iff]
  intro entry member
  refine bne_iff_ne.mpr ?_
  rintro rfl
  exact fresh (List.mem_map_of_mem member)

theorem find_of_mem (distinct : (es.map Prod.fst).Nodup) (member : (key, v) ∈ es) :
    Entries.find? es key = some v := by
  obtain ⟨before, after, rfl⟩ := List.append_of_mem member
  rw [Entries.find?, List.lookup_eq_some_iff]
  refine ⟨before, after, rfl, fun entry earlier => bne_iff_ne.mpr fun same => ?_⟩
  rw [List.map_append, List.map_cons] at distinct
  exact (List.nodup_append.mp distinct).2.2 entry.1 (List.mem_map_of_mem earlier) key
    List.mem_cons_self same.symm

theorem set_fresh (fresh : key ∉ es.map Prod.fst) (v : Value) :
    Entries.set es key v = es ++ [(key, v)] := by
  have absent : es.any (·.1 == key) = false := by
    rw [List.any_eq_false]
    intro entry member same
    exact fresh (List.mem_map.mpr ⟨entry, member, by simpa using same⟩)
  rw [Entries.set, absent, if_neg (by decide)]

theorem find_last {before : Entries} (fresh : key ∉ before.map Prod.fst) :
    Entries.find? (before ++ [(key, v)]) key = some v := by
  have absent : List.lookup key before = none := find_none fresh
  simp [Entries.find?, List.lookup_append, absent]

theorem set_last {before : Entries} (fresh : key ∉ before.map Prod.fst) (v w : Value) :
    Entries.set (before ++ [(key, v)]) key w = before ++ [(key, w)] := by
  have kept : before.map (fun e => if e.1 == key then (key, w) else e) = before := by
    conv_rhs => rw [← List.map_id before]
    apply List.map_congr_left
    intro e member
    have other : e.1 ≠ key := by
      rintro rfl
      exact fresh (List.mem_map_of_mem member)
    simp [other]
  rw [Entries.set, if_pos (by simp), List.map_append, kept]
  simp

/-- A pair in front of all sections. -/
theorem add_top (fresh : key ∉ es.map Prod.fst) (v : Value) :
    Draft.add? ⟨es, []⟩ [] key v = some ⟨es ++ [(key, v)], []⟩ := by
  simp [Draft.add?, descend, addValue, find_none fresh, set_fresh fresh]

/-- A pair in the section that was opened last. -/
theorem add_section {before : Entries} {name : String} (outer : name ∉ before.map Prod.fst)
    (fresh : key ∉ es.map Prod.fst) (v : Value) :
    Draft.add? ⟨before ++ [(name, .table .header es)], [name]⟩ [] key v =
      some ⟨before ++ [(name, .table .header (es ++ [(key, v)]))], [name]⟩ := by
  simp [Draft.add?, descend, addValue, find_none fresh, set_fresh fresh, find_last outer,
    set_last outer]

theorem openTable_fresh {name : String} (fresh : name ∉ es.map Prod.fst) :
    openTable es [] name = some (es ++ [(name, .table .header [])]) := by
  simp [openTable, descend, find_none fresh, set_fresh fresh]

/-! Lines. -/

/-- Reading the lines in front of `rest` takes one draft to another. -/
def Leads (d : Draft) (cs : List Char) (d' : Draft) (rest : List Char) : Prop :=
  ∃ k, k + rest.length ≤ cs.length ∧ ∀ n, Draft.lines? (n + k) d cs = Draft.lines? n d' rest

namespace Leads

variable {d d' d'' : Draft} {rest' : List Char}

theorem refl (d : Draft) (cs : List Char) : Leads d cs d cs :=
  ⟨0, by omega, fun _ => rfl⟩

theorem trans (first : Leads d cs d' rest) (second : Leads d' rest d'' rest') :
    Leads d cs d'' rest' := by
  obtain ⟨k, shorter, reads⟩ := first
  obtain ⟨l, shorter', reads'⟩ := second
  refine ⟨l + k, by omega, fun n => ?_⟩
  rw [← Nat.add_assoc, reads, reads']

/-- Nothing is left to read. -/
theorem result (leads : Leads d cs d' []) : Draft.lines? (cs.length + 1) d cs = some d' := by
  obtain ⟨k, shorter, reads⟩ := leads
  obtain ⟨n, enough⟩ : ∃ n, cs.length + 1 = n + 1 + k :=
    ⟨cs.length - k, by rw [List.length_nil] at shorter; omega⟩
  rw [enough, reads, Draft.lines?]
  rfl

/-- A line without anything but its end. -/
theorem blank (d : Draft) (rest : List Char) : Leads d ('\n' :: rest) d rest := by
  refine ⟨1, by simp [Nat.add_comm], fun n => ?_⟩
  rfl

end Leads

/-- A line with a header or a pair, if nothing follows that on it. -/
theorem leads_item {d d' : Draft} {c : Char} (solid : isGap c = false)
    (item : (c == '#' || c == '\n' || c == '\r') = false)
    (read : (if c == '[' then d.header? (c :: cs) else d.pair? (c :: cs)) = some (d', '\n' :: rest))
    (shorter : rest.length ≤ cs.length) : Leads d (c :: cs) d' rest := by
  have ends : endLine? ('\n' :: rest) = some rest := rfl
  refine ⟨1, by simpa [Nat.add_comm] using shorter, fun n => ?_⟩
  rw [Draft.lines?, skipGaps_cons solid]
  simp only [item, Bool.false_eq_true, if_false, read, ends]

theorem leads_line {d d' : Draft} {written : List Char} (bare : Bare key) (reads : Reads written v)
    (adds : d.add? [] key v = some d') (rest : List Char) :
    Leads d (line key written ++ rest) d' rest := by
  obtain ⟨c, others, named, solid, other⟩ := bare.head
  obtain ⟨w, more, begins, dense⟩ := reads.starts
  have text : line key written ++ rest =
      key.toList ++ (' ' :: '=' :: ' ' :: (written ++ '\n' :: rest)) := by
    simp [line]
  have named' : key? (line key written ++ rest) =
      some ([], key, '=' :: ' ' :: (written ++ '\n' :: rest)) := by
    rw [text]
    exact bare.read rfl rfl (by decide)
  have skipped : skipGaps (' ' :: (written ++ '\n' :: rest)) = written ++ '\n' :: rest := by
    rw [begins, List.cons_append, skipGaps, List.dropWhile_cons_of_pos (by decide)]
    exact skipGaps_cons dense _
  have pair : d.pair? (line key written ++ rest) = some (d', '\n' :: rest) := by
    simp only [Draft.pair?, named', skipped, reads.value, adds, Option.map_some]
  rw [text, named, List.cons_append] at pair ⊢
  apply leads_item solid
  · simp [other '#' (by decide), other '\n' (by decide), other '\r' (by decide)]
  · rw [if_neg (by simpa using other '[' (by decide))]
    exact pair
  · simp
    omega

/-- The two lines of a header. -/
theorem leads_header {d : Draft} (bare : Bare key) (fresh : key ∉ d.root.map Prod.fst)
    (rest : List Char) : Leads d (['\n', '['] ++ key.toList ++ [']', '\n'] ++ rest)
      ⟨d.root ++ [(key, .table .header [])], [key]⟩ rest := by
  obtain ⟨c, others, named, _, other⟩ := bare.head
  have text : ['\n', '['] ++ key.toList ++ [']', '\n'] ++ rest =
      '\n' :: '[' :: (key.toList ++ ']' :: '\n' :: rest) := by
    simp
  have named' : key? (key.toList ++ ']' :: '\n' :: rest) = some ([], key, ']' :: '\n' :: rest) :=
    bare.read rfl rfl (by decide)
  have header : d.header? ('[' :: (key.toList ++ ']' :: '\n' :: rest)) =
      some (⟨d.root ++ [(key, .table .header [])], [key]⟩, '\n' :: rest) := by
    rw [Draft.header?]
    · simp only [named', openTable_fresh fresh, Option.map_some, List.nil_append]
    · intro after same
      rw [named, List.cons_append] at same
      exact other '[' (by decide) (List.cons.inj same).1
  rw [text]
  apply (Leads.blank d _).trans
  apply leads_item rfl rfl
  · exact header
  · simp
    omega

/-! Documents. -/

/-- A pair with the text that stands for its value. -/
structure Field where
  key : String
  written : List Char
  value : Value

namespace Field

def line (f : Field) : List Char :=
  Toml.line f.key f.written

def entry (f : Field) : String × Value :=
  (f.key, f.value)

structure Lawful (f : Field) : Prop where
  bare : Bare f.key
  reads : Reads f.written f.value

end Field

theorem keys_of_fields (fields : List Field) :
    (fields.map Field.entry).map Prod.fst = fields.map Field.key := by
  rw [List.map_map]
  rfl

structure Section where
  name : String
  fields : List Field

namespace Section

def text (s : Section) : List Char :=
  block s.name (s.fields.map Field.line)

def entry (s : Section) : String × Value :=
  (s.name, .table .header (s.fields.map Field.entry))

structure Lawful (s : Section) : Prop where
  bare : Bare s.name
  fields : ∀ f ∈ s.fields, f.Lawful
  distinct : (s.fields.map Field.key).Nodup

end Section

/-- Pairs in front, and then sections. -/
structure Document where
  front : List Field
  sections : List Section

namespace Document

def text (d : Document) : List Char :=
  (d.front.map Field.line).flatten ++ (d.sections.map Section.text).flatten

def entries (d : Document) : Entries :=
  d.front.map Field.entry ++ d.sections.map Section.entry

structure Lawful (d : Document) : Prop where
  front : ∀ f ∈ d.front, f.Lawful
  sections : ∀ s ∈ d.sections, s.Lawful
  distinct : (d.front.map Field.key ++ d.sections.map Section.name).Nodup

end Document

theorem keys_of_entries (d : Document) :
    d.entries.map Prod.fst = d.front.map Field.key ++ d.sections.map Section.name := by
  rw [Document.entries, List.map_append, keys_of_fields, List.map_map]
  rfl

/-- Pairs go to the table that the draft is at. -/
theorem leads_fields (state : Entries → Draft)
    (adds : ∀ es key v, key ∉ es.map Prod.fst →
      (state es).add? [] key v = some (state (es ++ [(key, v)])))
    (fields : List Field) (es : Entries) (lawful : ∀ f ∈ fields, f.Lawful)
    (distinct : (es.map Prod.fst ++ fields.map Field.key).Nodup) (rest : List Char) :
    Leads (state es) ((fields.map Field.line).flatten ++ rest)
      (state (es ++ fields.map Field.entry)) rest := by
  induction fields generalizing es with
  | nil =>
    rw [List.map_nil, List.map_nil, List.append_nil]
    exact Leads.refl _ _
  | cons f fields ih =>
    have own := lawful f List.mem_cons_self
    have fresh : f.key ∉ es.map Prod.fst := by
      intro member
      exact (List.nodup_append.mp distinct).2.2 f.key member f.key (by simp) rfl
    have split : ((f :: fields).map Field.line).flatten ++ rest =
        line f.key f.written ++ ((fields.map Field.line).flatten ++ rest) := by
      simp [Field.line]
    have later := ih (es ++ [f.entry]) (fun g member => lawful g (List.mem_cons_of_mem _ member))
      (by simpa [Field.entry] using distinct)
    rw [List.append_assoc, List.singleton_append] at later
    rw [split, List.map_cons]
    exact (leads_line own.bare own.reads (adds es _ _ fresh) _).trans later

theorem leads_section {d : Draft} {s : Section} (lawful : s.Lawful)
    (fresh : s.name ∉ d.root.map Prod.fst) (rest : List Char) :
    Leads d (s.text ++ rest) ⟨d.root ++ [s.entry], [s.name]⟩ rest := by
  have header := leads_header lawful.bare fresh ((s.fields.map Field.line).flatten ++ rest)
  have fields : Leads ⟨d.root ++ [(s.name, .table .header [])], [s.name]⟩
      ((s.fields.map Field.line).flatten ++ rest) ⟨d.root ++ [s.entry], [s.name]⟩ rest :=
    leads_fields (fun es => ⟨d.root ++ [(s.name, .table .header es)], [s.name]⟩)
      (fun es key v other => add_section fresh other v) s.fields [] lawful.fields
      (by simpa using lawful.distinct) rest
  have split : s.text ++ rest = ['\n', '['] ++ s.name.toList ++ [']', '\n'] ++
      ((s.fields.map Field.line).flatten ++ rest) := by
    simp [Section.text, block]
  rw [split]
  exact header.trans fields

theorem leads_sections (sections : List Section) (lawful : ∀ s ∈ sections, s.Lawful) (d : Draft)
    (distinct : (d.root.map Prod.fst ++ sections.map Section.name).Nodup) :
    ∃ current, Leads d (sections.map Section.text).flatten
      ⟨d.root ++ sections.map Section.entry, current⟩ [] := by
  induction sections generalizing d with
  | nil =>
    refine ⟨d.current, ?_⟩
    rw [List.map_nil, List.map_nil, List.append_nil]
    exact Leads.refl _ _
  | cons s sections ih =>
    have fresh : s.name ∉ d.root.map Prod.fst := by
      intro member
      exact (List.nodup_append.mp distinct).2.2 s.name member s.name (by simp) rfl
    obtain ⟨current, later⟩ := ih (fun t member => lawful t (List.mem_cons_of_mem _ member))
      ⟨d.root ++ [s.entry], [s.name]⟩ (by simpa [Section.entry] using distinct)
    refine ⟨current, ?_⟩
    rw [List.map_cons, List.map_cons, List.flatten_cons]
    simp only [List.append_assoc, List.singleton_append] at later
    exact (leads_section (lawful s List.mem_cons_self) fresh _).trans later

theorem parse_unmarked (unmarked : cs.head? ≠ some '\ufeff') :
    parse? (String.ofList cs) = (Draft.lines? (cs.length + 1) {} cs).map (·.root) := by
  simp only [parse?, String.toList_ofList]
  split
  case h_1 rest => exact absurd List.head?_cons unmarked
  case h_2 => rfl

/-- No byte order mark stands in front of a document. -/
theorem text_head {d : Document} (lawful : d.Lawful) : d.text.head? ≠ some '\ufeff' := by
  unfold Document.text
  cases fields : d.front with
  | nil => cases d.sections <;> simp [Section.text, block]
  | cons f others =>
    have own := lawful.front f (by rw [fields]; exact List.mem_cons_self)
    obtain ⟨c, more, named, _, other⟩ := own.bare.head
    simpa [Field.line, line, named] using other '\ufeff' (by decide)

/-- A document is read as what it says. -/
theorem parse_text {d : Document} (lawful : d.Lawful) :
    parse? (String.ofList d.text) = some d.entries := by
  have front : Leads ⟨[], []⟩ d.text ⟨d.front.map Field.entry, []⟩
      (d.sections.map Section.text).flatten :=
    leads_fields (fun es => ⟨es, []⟩) (fun es key v fresh => add_top fresh v)
      d.front [] lawful.front (List.nodup_append.mp lawful.distinct).1 _
  obtain ⟨current, behind⟩ := leads_sections d.sections lawful.sections
    ⟨d.front.map Field.entry, []⟩ (by rw [keys_of_fields]; exact lawful.distinct)
  rw [parse_unmarked (text_head lawful), (front.trans behind).result]
  rfl

end Dialback.Toml
