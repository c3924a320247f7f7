import Dialback.Wire.Frame
import Dialback.Proofs.Wire.Form

/-!
A stream carries messages. Frames are cut off the front of what has arrived, and a frame that can be
cut off stays the same when more arrives; so nothing depends on the chunks in which the bytes come.
What was written is then read back frame by frame, and of a stream that breaks off the messages whose
frames are complete.
-/
namespace Dialback.Wire

variable {α : Type} [WireForm α]

/-- The bytes of one message on the stream. -/
def frameOf (a : α) : List UInt8 :=
  header (WireForm.write a).length ++ WireForm.write a

/-- The messages whose frames end within the first `n` bytes. -/
def within (n : Nat) : List α → List α
  | [] => []
  | a :: rest =>
    if (frameOf a).length ≤ n then a :: within (n - (frameOf a).length) rest else []

/-- No message is longer than a frame may be. -/
def Sendable (messages : List α) : Prop :=
  ∀ a ∈ messages, (WireForm.write a).length ≤ maxBody

instance (messages : List α) : Decidable (Sendable messages) :=
  inferInstanceAs (Decidable (∀ a ∈ messages, _))

/-- Messages travel as these bytes. -/
structure Carries (messages : List α) (bytes : List UInt8) : Prop where
  written : encodeAll? messages = some bytes
  /-- All of them arrive, in order, and then the stream ends. -/
  whole : ∀ chunks, chunks.flatten = bytes → Receiver.ofChunks chunks = { messages }
  /-- Of a stream that breaks off the messages of the complete frames arrive, and nothing else. -/
  cut : ∀ chunks, chunks.flatten <+: bytes →
    (Receiver.ofChunks chunks : Receiver α).messages = within chunks.flatten.length messages ∧
    (Receiver.ofChunks chunks : Receiver α).fault ∈ [none, some .frameCut]

/-! Cutting off one frame. -/

theorem split_append {bs body rest : List UInt8} (more : List UInt8)
    (found : split bs = .frame body rest) : split (bs ++ more) = .frame body (rest ++ more) := by
  simp only [split] at found ⊢
  split at found
  · cases found
  rename_i long
  have headed : headerLength ≤ bs.length := Nat.not_lt.mp long
  split at found
  · cases found
  rename_i allowed
  split at found
  · rename_i complete
    cases found
    rw [List.take_append_of_le_length headed, List.drop_append_of_le_length headed,
      List.take_append_of_le_length complete, List.drop_append_of_le_length complete]
    simp only [List.length_append, List.length_drop] at complete ⊢
    rw [if_neg (by omega), if_neg allowed, if_pos (by omega)]
  · cases found

theorem split_tooLong_append {bs : List UInt8} (more : List UInt8) (found : split bs = .tooLong) :
    split (bs ++ more) = .tooLong := by
  simp only [split] at found ⊢
  split at found
  · cases found
  rename_i long
  have headed : headerLength ≤ bs.length := Nat.not_lt.mp long
  split at found
  · rename_i exceeds
    rw [List.take_append_of_le_length headed, if_pos exceeds, if_neg]
    rw [List.length_append]
    omega
  · split at found <;> cases found

theorem length_header (n : Nat) : (header n).length = headerLength := by
  rw [header, List.length_reverse, length_littleEndian]

theorem ofLittleEndian_header {n : Nat} (allowed : n ≤ maxBody) (rest : List UInt8) :
    ofLittleEndian ((header n ++ rest).take headerLength).reverse = n := by
  have small : n < 256 ^ headerLength := Nat.lt_of_le_of_lt allowed (by decide)
  rw [List.take_left' (length_header n), header, List.reverse_reverse,
    ofLittleEndian_littleEndian small]

theorem length_frameOf (a : α) :
    (frameOf a).length = headerLength + (WireForm.write a).length := by
  rw [frameOf, List.length_append, length_header]

theorem split_frameOf {a : α} (allowed : (WireForm.write a).length ≤ maxBody) :
    split (frameOf a) = .frame (WireForm.write a) [] := by
  have headed := length_header (WireForm.write a).length
  simp only [split, length_frameOf]
  simp only [frameOf, ofLittleEndian_header allowed, List.drop_left' headed]
  rw [if_neg (by omega), if_neg (by omega), if_pos (Nat.le_refl _), List.take_length,
    List.drop_length]

/-- A part of a frame is waited for. -/
theorem split_part {a : α} {part : List UInt8} (allowed : (WireForm.write a).length ≤ maxBody)
    (start : part <+: frameOf a) (less : part.length < (frameOf a).length) :
    split part = .incomplete := by
  by_cases short : part.length < headerLength
  · simp only [split, short, if_true]
  · have headed := length_header (WireForm.write a).length
    obtain ⟨content, rfl⟩ : header (WireForm.write a).length <+: part :=
      List.prefix_of_prefix_length_le (List.prefix_append _ _) start (by omega)
    rw [length_frameOf, List.length_append, headed] at less
    rw [List.length_append, headed] at short
    simp only [split, List.length_append, headed, ofLittleEndian_header allowed,
      List.drop_left' headed]
    rw [if_neg short, if_neg (by omega), if_neg (by omega)]

/-! Draining. -/

namespace Receiver

/-- A receiver that has got one message more than it knows of. -/
def after (a : α) (r : Receiver α) : Receiver α :=
  { r with messages := a :: r.messages }

theorem drain_incomplete {bs : List UInt8} (waits : split bs = .incomplete) :
    (drain bs : Receiver α) = { pending := bs } := by
  rw [drain]
  split <;> simp_all

theorem drain_tooLong {bs : List UInt8} (refused : split bs = .tooLong) :
    (drain bs : Receiver α) = { fault := some .frameSize } := by
  rw [drain]
  split <;> simp_all

theorem drain_frame {bs body rest : List UInt8} {a : α} (found : split bs = .frame body rest)
    (decoded : decodeBody body = .ok a) : (drain bs : Receiver α) = after a (drain rest) := by
  rw [drain]
  split <;> simp_all [after]

theorem drain_undecoded {bs body rest : List UInt8} {fault : Fault}
    (found : split bs = .frame body rest)
    (failed : (decodeBody body : Except Fault α) = .error fault) :
    (drain bs : Receiver α) = { fault := some fault } := by
  rw [drain]
  split <;> simp_all

theorem feed_after (a : α) (r : Receiver α) (chunk : List UInt8) :
    (after a r).feed chunk = after a (r.feed chunk) := by
  unfold feed after
  split <;> rfl

/-- More bytes are taken in as if they had come with the others. -/
theorem drain_append (bs more : List UInt8) :
    (drain (bs ++ more) : Receiver α) = (drain bs).feed more := by
  induction size : bs.length using Nat.strongRecOn generalizing bs with
  | ind n ih =>
    cases found : split bs with
    | incomplete =>
      rw [drain_incomplete found]
      rfl
    | tooLong =>
      rw [drain_tooLong found, drain_tooLong (split_tooLong_append more found)]
      rfl
    | frame body rest =>
      have further := split_append more found
      cases decoded : (decodeBody body : Except Fault α) with
      | error fault =>
        rw [drain_undecoded found decoded, drain_undecoded further decoded]
        rfl
      | ok a =>
        rw [drain_frame found decoded, drain_frame further decoded, feed_after,
          ih rest.length (size ▸ split_rest_length found) rest rfl]

/-- The chunks make no difference. -/
theorem foldl_feed (bs : List UInt8) (chunks : List (List UInt8)) :
    chunks.foldl feed (drain bs : Receiver α) = drain (bs ++ chunks.flatten) := by
  induction chunks generalizing bs with
  | nil => rw [List.foldl_nil, List.flatten_nil, List.append_nil]
  | cons chunk rest ih =>
    rw [List.foldl_cons, ← drain_append, ih, List.flatten_cons, List.append_assoc]

theorem ofChunks_eq (chunks : List (List UInt8)) :
    (ofChunks chunks : Receiver α) = (drain chunks.flatten).finish := by
  have empty : (drain [] : Receiver α) = {} := drain_incomplete rfl
  rw [ofChunks, ← empty, foldl_feed, List.nil_append]

/-- The end of a stream takes nothing back. -/
theorem finish_sound {β : Type} {r : Receiver β} (sound : r.fault = none) :
    r.finish.messages = r.messages ∧ r.finish.fault ∈ [none, some .frameCut] := by
  unfold finish
  split
  · exact ⟨rfl, by simp [sound]⟩
  · exact ⟨rfl, by simp⟩

end Receiver

/-! Writing. -/

theorem encodeAll_eq {messages : List α} (sendable : Sendable messages) :
    encodeAll? messages = some (messages.flatMap frameOf) := by
  have each : messages.mapM encode? = some (messages.map frameOf) := by
    induction messages with
    | nil => rfl
    | cons a rest ih =>
      obtain ⟨here, others⟩ := List.forall_mem_cons.mp sendable
      have written : encode? a = some (frameOf a) := if_pos here
      rw [List.mapM_cons, written, ih others]
      rfl
  rw [encodeAll?, each, Option.map_some, List.flatMap_def]

/-! Reading. -/

variable [LawfulForm α]

theorem decodeBody_write {a : α} (allowed : (WireForm.write a).length ≤ maxBody) :
    decodeBody (WireForm.write a) = .ok a := by
  have countable : (WireForm.write a).length < countLimit :=
    Nat.lt_of_le_of_lt allowed (by decide)
  have taken := LawfulForm.recovers a countable []
  rw [List.append_nil] at taken
  rw [decodeBody, taken]

namespace Receiver

theorem drain_frameOf {a : α} (allowed : (WireForm.write a).length ≤ maxBody) (rest : List UInt8) :
    (drain (frameOf a ++ rest) : Receiver α) = after a (drain rest) :=
  drain_frame (split_append rest (split_frameOf allowed)) (decodeBody_write allowed)

theorem drain_whole {messages : List α} (sendable : Sendable messages) :
    drain (messages.flatMap frameOf) = { messages } := by
  induction messages with
  | nil => exact drain_incomplete rfl
  | cons a rest ih =>
    obtain ⟨here, others⟩ := List.forall_mem_cons.mp sendable
    rw [List.flatMap_cons, drain_frameOf here, ih others]
    rfl

/-- The start of a stream is the frames that are complete and a part of the next one. -/
theorem drain_start {messages : List α} (sendable : Sendable messages) {start : List UInt8}
    (begins : start <+: messages.flatMap frameOf) :
    ∃ pending, drain start = { messages := within start.length messages, pending } := by
  induction messages generalizing start with
  | nil =>
    rw [List.prefix_nil.mp begins]
    exact ⟨[], drain_incomplete rfl⟩
  | cons a rest ih =>
    obtain ⟨here, others⟩ := List.forall_mem_cons.mp sendable
    rw [List.flatMap_cons] at begins
    by_cases complete : (frameOf a).length ≤ start.length
    · obtain ⟨further, rfl⟩ : frameOf a <+: start :=
        List.prefix_of_prefix_length_le (List.prefix_append _ _) begins complete
      obtain ⟨pending, drained⟩ := ih others ((List.prefix_append_right_inj _).mp begins)
      refine ⟨pending, ?_⟩
      rw [drain_frameOf here, drained, within, if_pos complete, List.length_append,
        Nat.add_sub_cancel_left]
      rfl
    · have part : start <+: frameOf a :=
        List.prefix_of_prefix_length_le begins (List.prefix_append _ _) (by omega)
      refine ⟨start, ?_⟩
      rw [drain_incomplete (split_part here part (by omega)), within, if_neg complete]

end Receiver

theorem carries_of_sendable {messages : List α} (sendable : Sendable messages) :
    ∃ bytes, Carries messages bytes := by
  refine ⟨_, encodeAll_eq sendable, ?_, ?_⟩
  · intro chunks all
    rw [Receiver.ofChunks_eq, all, Receiver.drain_whole sendable]
    rfl
  · intro chunks begins
    obtain ⟨pending, drained⟩ := Receiver.drain_start sendable begins
    rw [Receiver.ofChunks_eq, drained]
    exact Receiver.finish_sound rfl

variable {β γ θ ρ : Type} [WireForm β] [WireForm γ] [WireForm θ] [WireForm ρ] [LawfulForm β]
  [LawfulForm γ] [LawfulForm θ] [LawfulForm ρ]

/-- In both directions. -/
theorem messages_carried :
    (∀ messages : List (ClientMessage β ρ), Sendable messages → ∃ bytes, Carries messages bytes) ∧
      ∀ messages : List (ServerMessage γ θ), Sendable messages → ∃ bytes, Carries messages bytes :=
  ⟨fun _ => carries_of_sendable, fun _ => carries_of_sendable⟩

/-- What a client says first, without a context, and a pong. -/
def introduction : List (ClientMessage Uuid String) :=
  [.arguments { payload := Uuid.null }, .pong]

/-- A request from an application that has chosen nothing, and a refusal. -/
def demands : List (ServerMessage String String) :=
  [.request ⟨⟨Uuid.null, ExecutionContext.standard Uuid.null⟩, "ünï"⟩,
    .connectResponse (.refused (Failure.unidentified "no"))]

theorem messages_carried_demands :
    Sendable introduction ∧ Sendable demands ∧
      (∃ bytes, Carries introduction bytes) ∧ (∃ bytes, Carries demands bytes) ∧
      within (demands.flatMap frameOf).length demands = demands ∧
      within ((demands.flatMap frameOf).length - 1) demands = demands.take 1 :=
  have both := @messages_carried Uuid String String String _ _ _ _ _ _ _ _
  ⟨by decide, by decide, both.1 introduction (by decide), both.2 demands (by decide),
    by decide +kernel, by decide +kernel⟩

end Dialback.Wire
