import Dialback.Proofs.Settings.Validation
import Dialback.Proofs.Toml.Document

/-!
Valid settings come back from the document that is written for them: every text in the form that
was chosen for it, every number, and options that are absent as absent.
-/
namespace Dialback

open Toml

namespace Toml.Field

variable {key : String}

def ofNat (key : String) (n : Nat) : Field :=
  ⟨key, Text.decimal n, .integer n⟩

def ofText (key s : String) : Field :=
  ⟨key, renderText s, .text s⟩

def ofFloat (key : String) (x : Binary64) : Field :=
  ⟨key, x.render, .float x⟩

theorem lawful_ofNat (bare : Bare key) {n : Nat} (small : n ≤ maxInteger) : (ofNat key n).Lawful :=
  ⟨bare, reads_integer small⟩

theorem lawful_ofText (bare : Bare key) (s : String) : (ofText key s).Lawful :=
  ⟨bare, reads_text s⟩

theorem lawful_ofFloat (bare : Bare key) {x : Binary64} (large : x.atLeastOne = true) :
    (ofFloat key x).Lawful :=
  ⟨bare, reads_float large⟩

end Toml.Field

/-! Reading fields. -/

theorem boundedField_integer {bound n : Nat} (small : n < bound) (default : Nat) :
    boundedField bound default (some (.integer n)) = some n := by
  have range : (0 ≤ (n : Int) && (n : Int) < bound) = true := by
    simp only [Bool.and_eq_true, decide_eq_true_eq]
    omega
  rw [boundedField, if_pos range, Int.toNat_natCast]

theorem field64_toNat (n default : UInt64) :
    field64 default (some (.integer n.toNat)) = some n := by
  rw [field64, boundedField_integer n.toNat_lt_size, Option.map_some, UInt64.ofNat_toNat]

theorem field32_toNat (n default : UInt32) :
    field32 default (some (.integer n.toNat)) = some n := by
  rw [field32, boundedField_integer n.toNat_lt_size, Option.map_some, UInt32.ofNat_toNat]

/-- The fields of a section that are written, and nothing for the absent ones. -/
theorem sectionFields_entry (s : Section) (absent : List String)
    (distinct : (s.fields.map Field.key ++ absent).Nodup) :
    sectionFields? (s.fields.map Field.key ++ absent) s.entry.2 =
      some (s.fields.map (fun f => some f.value) ++ absent.map fun _ => none) := by
  obtain ⟨own, _, apart⟩ := List.nodup_append.mp distinct
  rw [Section.entry, sectionFields?, List.map_append, List.map_map, Option.some.injEq]
  congr 1
  · apply List.map_congr_left
    intro f member
    exact find_of_mem (by rw [keys_of_fields]; exact own) (List.mem_map_of_mem member)
  · apply List.map_congr_left
    intro key member
    apply find_none
    rw [keys_of_fields]
    exact fun written => apart key written key member rfl

theorem CallSettings.ofValue_eq {v : Value} {s : CallSettings} {a b c d e f : Option Value}
    (fields : sectionFields? ["ping_interval_ms", "ping_timeout_multiplier", "connect_timeout_ms",
      "max_concurrency", "outbound_buffer", "drain_timeout_ms"] v = some [a, b, c, d, e, f])
    (interval : ∀ n, field64 n a = some s.pingIntervalMs)
    (multiplier : ∀ n, field32 n b = some s.pingTimeoutMultiplier)
    (connect : ∀ n, field64 n c = some s.connectTimeoutMs)
    (concurrency : ∀ n, field64 n d = some s.maxConcurrency)
    (buffer : ∀ n, field64 n e = some s.outboundBuffer)
    (drain : ∀ n, field64 n f = some s.drainTimeoutMs) : CallSettings.ofValue? v = some s := by
  simp only [CallSettings.ofValue?, fields, interval, multiplier, connect, concurrency, buffer,
    drain, Option.bind_eq_bind, Option.bind_some, Option.pure_def]

theorem HandshakeSettings.ofValue_eq {v : Value} {s : HandshakeSettings} {a b c d : Option Value}
    (fields : sectionFields? ["timeout_ms", "sdk_identifier", "sdk_version",
      "contracts_version"] v = some [a, b, c, d])
    (timeout : ∀ n, field64 n a = some s.timeoutMs)
    (identifier : ∀ t, textField t b = some s.sdkIdentifier)
    (version : ∀ t, textField t c = some s.sdkVersion)
    (contracts : ∀ t, textField t d = some s.contractsVersion) :
    HandshakeSettings.ofValue? v = some s := by
  simp only [HandshakeSettings.ofValue?, fields, timeout, identifier, version, contracts,
    Option.bind_eq_bind, Option.bind_some, Option.pure_def]

theorem RetrySettings.ofValue_eq {v : Value} {s : RetrySettings} {a b c d : Option Value}
    (fields : sectionFields? ["initial_delay_ms", "max_delay_ms", "multiplier", "max_retries"] v =
      some [a, b, c, d])
    (initial : ∀ n, field64 n a = some s.initialDelayMs)
    (limit : ∀ n, field64 n b = some s.maxDelayMs)
    (multiplier : ∀ x, floatField x c = some s.multiplier)
    (retries : optionField (field32 0) d = some s.maxRetries) :
    RetrySettings.ofValue? v = some s := by
  simp only [RetrySettings.ofValue?, fields, initial, limit, multiplier, retries,
    Option.bind_eq_bind, Option.bind_some, Option.pure_def]

namespace Settings

variable {s : Settings}

/-! What is written. -/

def callSection (s : CallSettings) : Section where
  name := "reverse_call"
  fields := [
    .ofNat "ping_interval_ms" s.pingIntervalMs.toNat,
    .ofNat "ping_timeout_multiplier" s.pingTimeoutMultiplier.toNat,
    .ofNat "connect_timeout_ms" s.connectTimeoutMs.toNat,
    .ofNat "max_concurrency" s.maxConcurrency.toNat,
    .ofNat "outbound_buffer" s.outboundBuffer.toNat,
    .ofNat "drain_timeout_ms" s.drainTimeoutMs.toNat]

def handshakeSection (s : HandshakeSettings) : Section where
  name := "handshake"
  fields := [
    .ofNat "timeout_ms" s.timeoutMs.toNat,
    .ofText "sdk_identifier" s.sdkIdentifier,
    .ofText "sdk_version" s.sdkVersion,
    .ofText "contracts_version" s.contractsVersion]

def retrySection (s : RetrySettings) : Section where
  name := "retry"
  fields := [
    .ofNat "initial_delay_ms" s.initialDelayMs.toNat,
    .ofNat "max_delay_ms" s.maxDelayMs.toNat,
    .ofFloat "multiplier" s.multiplier] ++
      (s.maxRetries.map fun n => Field.ofNat "max_retries" n.toNat).toList

/-- The document of some settings. -/
def document (s : Settings) : Document where
  front := .ofText "address" s.address ::
    (s.handshakeAddress.map (Field.ofText "handshake_address")).toList
  sections := [callSection s.call, handshakeSection s.handshake, retrySection s.retry]

/-- The counts that may be too large for a document. -/
def counts (s : Settings) : List UInt64 :=
  [s.call.pingIntervalMs, s.call.connectTimeoutMs, s.call.maxConcurrency, s.call.outboundBuffer,
    s.call.drainTimeoutMs, s.handshake.timeoutMs, s.retry.initialDelayMs, s.retry.maxDelayMs]

theorem small_of_uint32 (n : UInt32) : n.toNat ≤ maxInteger := by
  have bound := n.toNat_lt_size
  simp only [UInt32.size, maxInteger] at bound ⊢
  omega

/-- Settings whose counts fit can be written. -/
theorem render_document (fits : ∀ n ∈ s.counts, n.toNat ≤ maxInteger) :
    s.render? = some (String.ofList s.document.text) := by
  have count (n : Nat) (small : n ≤ maxInteger) : renderNat? n = some (Text.decimal n) :=
    if_pos small
  have multiplier := count _ (small_of_uint32 s.call.pingTimeoutMultiplier)
  simp only [counts, List.mem_cons, List.not_mem_nil, or_false, forall_eq_or_imp,
    forall_eq] at fits
  simp only [render?, count, fits, multiplier, Option.map_some, Option.bind_eq_bind,
    Option.bind_some, Option.pure_def]
  simp only [document, Document.text, callSection, handshakeSection, retrySection]
  cases s.handshakeAddress <;> cases s.retry.maxRetries <;>
    simp [Section.text, Field.ofNat, Field.ofText, Field.ofFloat, Field.line]

/-! It is a document. -/

theorem document_distinct (s : Settings) :
    (s.document.front.map Field.key ++ s.document.sections.map Section.name).Nodup := by
  cases address : s.handshakeAddress <;>
    simp [document, address, Field.ofText, callSection, handshakeSection, retrySection]

section Lawful

variable (fits : ∀ n ∈ s.counts, n.toNat ≤ maxInteger)
include fits

theorem callSection_lawful : (callSection s.call).Lawful := by
  refine ⟨(by decide : Bare "reverse_call"), ?_, by simp [callSection, Field.ofNat]⟩
  simp only [callSection, List.mem_cons, List.not_mem_nil, or_false, forall_eq_or_imp, forall_eq]
  exact ⟨Field.lawful_ofNat (by decide) (fits _ (by simp [counts])),
    Field.lawful_ofNat (by decide) (small_of_uint32 _),
    Field.lawful_ofNat (by decide) (fits _ (by simp [counts])),
    Field.lawful_ofNat (by decide) (fits _ (by simp [counts])),
    Field.lawful_ofNat (by decide) (fits _ (by simp [counts])),
    Field.lawful_ofNat (by decide) (fits _ (by simp [counts]))⟩

theorem handshakeSection_lawful : (handshakeSection s.handshake).Lawful := by
  refine ⟨(by decide : Bare "handshake"), ?_, by simp [handshakeSection, Field.ofNat, Field.ofText]⟩
  simp only [handshakeSection, List.mem_cons, List.not_mem_nil, or_false, forall_eq_or_imp,
    forall_eq]
  exact ⟨Field.lawful_ofNat (by decide) (fits _ (by simp [counts])),
    Field.lawful_ofText (by decide) _, Field.lawful_ofText (by decide) _,
    Field.lawful_ofText (by decide) _⟩

theorem retrySection_lawful (large : s.retry.multiplier.atLeastOne = true) :
    (retrySection s.retry).Lawful := by
  refine ⟨(by decide : Bare "retry"), ?_, ?_⟩
  · intro f member
    simp only [retrySection, List.mem_append, List.mem_cons, List.not_mem_nil, or_false,
      Option.mem_toList, Option.map_eq_some_iff] at member
    rcases member with (rfl | rfl | rfl) | ⟨n, _, rfl⟩
    · exact Field.lawful_ofNat (by decide) (fits _ (by simp [counts]))
    · exact Field.lawful_ofNat (by decide) (fits _ (by simp [counts]))
    · exact Field.lawful_ofFloat (by decide) large
    · exact Field.lawful_ofNat (by decide) (small_of_uint32 n)
  · cases retries : s.retry.maxRetries <;> simp [retrySection, retries, Field.ofNat, Field.ofFloat]

theorem document_lawful (valid : s.validate = .ok ()) : s.document.Lawful := by
  refine ⟨?_, ?_, document_distinct s⟩
  · intro f member
    simp only [document, List.mem_cons, Option.mem_toList, Option.map_eq_some_iff] at member
    rcases member with rfl | ⟨address, _, rfl⟩
    · exact Field.lawful_ofText (by decide) _
    · exact Field.lawful_ofText (by decide) _
  · simp only [document, List.mem_cons, List.not_mem_nil, or_false, forall_eq_or_imp, forall_eq]
    exact ⟨callSection_lawful fits, handshakeSection_lawful fits,
      retrySection_lawful fits (validate_eq_ok.mp valid).multiplier⟩

end Lawful

/-! Reading it back. -/

theorem call_back (s : CallSettings) : CallSettings.ofValue? (callSection s).entry.2 = some s :=
  CallSettings.ofValue_eq (sectionFields_entry _ [] (by simp [callSection, Field.ofNat]))
    (field64_toNat _) (field32_toNat _) (field64_toNat _) (field64_toNat _) (field64_toNat _)
    (field64_toNat _)

theorem handshake_back (s : HandshakeSettings) :
    HandshakeSettings.ofValue? (handshakeSection s).entry.2 = some s :=
  HandshakeSettings.ofValue_eq
    (sectionFields_entry _ [] (by simp [handshakeSection, Field.ofNat, Field.ofText]))
    (field64_toNat _) (fun _ => rfl) (fun _ => rfl) (fun _ => rfl)

theorem retry_back (s : RetrySettings) :
    RetrySettings.ofValue? (retrySection s).entry.2 = some s := by
  obtain ⟨initial, limit, multiplier, retries⟩ := s
  cases retries with
  | none =>
    exact RetrySettings.ofValue_eq (sectionFields_entry _ ["max_retries"]
      (by simp [retrySection, Field.ofNat, Field.ofFloat]))
      (field64_toNat _) (field64_toNat _) (fun _ => rfl) rfl
  | some n =>
    exact RetrySettings.ofValue_eq (sectionFields_entry _ []
      (by simp [retrySection, Field.ofNat, Field.ofFloat]))
      (field64_toNat _) (field64_toNat _) (fun _ => rfl)
      (by simp [optionField, Field.ofNat, field32_toNat])

/-- The address is absent again if it was. -/
theorem handshakeAddress_back (s : Settings) :
    optionField (textField "") (Entries.find? s.document.entries "handshake_address") =
      some s.handshakeAddress := by
  have distinct := document_distinct s
  rw [← keys_of_entries] at distinct
  cases given : s.handshakeAddress with
  | none =>
    have absent : "handshake_address" ∉ s.document.entries.map Prod.fst := by
      rw [keys_of_entries]
      simp [document, given, Field.ofText, callSection, handshakeSection, retrySection]
    rw [find_none absent]
    rfl
  | some address =>
    have written : ("handshake_address", Value.text address) ∈ s.document.entries := by
      simp [document, Document.entries, given, Field.entry, Field.ofText]
    rw [find_of_mem distinct written]
    rfl

theorem ofEntries_document (s : Settings) : ofEntries? s.document.entries = some s := by
  have distinct := document_distinct s
  rw [← keys_of_entries] at distinct
  have address : Entries.find? s.document.entries "address" = some (.text s.address) :=
    find_of_mem distinct (by simp [document, Document.entries, Field.entry, Field.ofText])
  have sections (t : Section) (member : t ∈ s.document.sections) :
      Entries.find? s.document.entries t.name = some t.entry.2 :=
    find_of_mem distinct (List.mem_append_right _ (List.mem_map_of_mem member))
  have call : Entries.find? s.document.entries "reverse_call" = some (callSection s.call).entry.2 :=
    sections (callSection s.call) (by simp [document])
  have handshake : Entries.find? s.document.entries "handshake" =
      some (handshakeSection s.handshake).entry.2 :=
    sections (handshakeSection s.handshake) (by simp [document])
  have retry : Entries.find? s.document.entries "retry" = some (retrySection s.retry).entry.2 :=
    sections (retrySection s.retry) (by simp [document])
  simp only [ofEntries?, address, handshakeAddress_back, call, handshake, retry, textField,
    sectionField, call_back, handshake_back, retry_back, Option.bind_eq_bind, Option.bind_some,
    Option.pure_def]

/-- Valid settings whose counts fit come back from their document. -/
theorem parse_render (valid : s.validate = .ok ()) (fits : ∀ n ∈ s.counts, n.toNat ≤ maxInteger) :
    ∃ text, s.render? = some text ∧ parse text = .ok s := by
  refine ⟨_, render_document fits, ?_⟩
  rw [parse, parse_text (document_lawful fits valid), Option.bind_some, ofEntries_document]
  simp only [valid]
  rfl

/-- Text with both quotes, a backslash, a newline and controls, and a multiplier without a short
binary fraction. -/
def awkward : Settings where
  address := "a\"b\\c\n'''\"\"\"\x07\x7f"
  handshakeAddress := some "'\u00e9"
  call := { pingTimeoutMultiplier := 4294967295, maxConcurrency := 9223372036854775807 }
  handshake := { sdkIdentifier := "" }
  retry := { multiplier := ⟨0x3ff199999999999a⟩, maxRetries := some 0 }

theorem parse_render_awkward : awkward.validate = .ok () ∧
    (∀ n ∈ awkward.counts, n.toNat ≤ maxInteger) ∧
    ∃ text, awkward.render? = some text ∧ parse text = .ok awkward := by
  have valid : awkward.validate = .ok () := by decide +kernel
  have small : awkward.counts.all (·.toNat ≤ maxInteger) = true := by decide +kernel
  have fits : ∀ n ∈ awkward.counts, n.toNat ≤ maxInteger :=
    fun n member => of_decide_eq_true (List.all_eq_true.mp small n member)
  exact ⟨valid, fits, parse_render valid fits⟩

end Settings
end Dialback
