import Dialback.Registration.Step
import Dialback.Proofs.Runs
import Mathlib.Data.List.Induction

/-!
The attempts of a registration, as its runs are told of them: when each one began, how each one came
out, and what the retry policy is shown of those that failed.
-/
namespace Dialback

variable {α γ θ ρ : Type}

namespace Registration

/-- An attempt that is over. -/
structure Attempt (γ : Type) where
  /-- `none` if the runtime closed the stream. -/
  failure? : Option AttemptFault
  /-- The connect response, if it was an accepting one. -/
  welcome? : Option γ

/-- An attempt as the history of failures records it. -/
def Attempt.mark (h : Retry.History) (a : Attempt γ) : Retry.History :=
  match a.failure? with
  | some fault => (if a.welcome?.isSome then h.markConnected else h).record fault
  | none => h

/-- The history behind so many attempts. -/
def historyOf (attempts : List (Attempt γ)) : Retry.History :=
  attempts.foldl Attempt.mark .empty

/-- The number of attempts from the last accepted connect on, or from the start. -/
def sinceWelcome (attempts : List (Attempt γ)) : Nat :=
  (attempts.reverse.takeWhile fun a => a.welcome?.isNone).length +
    if attempts.any fun a => a.welcome?.isSome then 1 else 0

/-- How these attempts end the registration, if the last of them does. -/
def verdict? (policy : Retry.Policy) (attempts : List (Attempt γ)) : Option Ending :=
  attempts.getLast?.bind fun a =>
    match a.failure? with
    | none => some (.completed attempts.length.toUInt32)
    | some fault =>
      if policy (historyOf attempts) = none then
        some (.gaveUp ⟨attempts.length.toUInt32, fault⟩)
      else none

structure Log (γ : Type) where
  /-- When each attempt began. -/
  started : List Nat := []
  /-- The attempts that are over. -/
  attempts : List (Attempt γ) := []

/-- The stop signal fires. -/
def Action.isStop : Action γ θ ρ → Bool
  | .event .stop => true
  | _ => false

namespace Log

def record (l : Log γ) (failure? : Option AttemptFault) (welcome? : Option γ) : Log γ :=
  { l with attempts := l.attempts ++ [⟨failure?, welcome?⟩] }

def note (plan : Plan α θ) (l : Log γ) (r : Registration α γ θ ρ) : Action γ θ ρ → Log γ
  | .move .start => { l with started := l.started ++ [r.now] }
  | .move .giveUpGreeting =>
    match plan.handshake with
    | some client => l.record (some (.handshake (.timeout client.patience))) none
    | none => l
  | .event (.greeted answer) =>
    match plan.handshake with
    | some client =>
      match client.conclude answer with
      | .error fault => l.record (some (.handshake fault)) none
      | .ok _ => l
    | none => l
  | .event (.openingFailed fault) => l.record (some (.opening fault)) none
  | .move .conclude =>
    match r.phase with
    | .talking _ s =>
      match s.outcome? with
      | some (outcome, _) => l.record (outcome.fault?.map .call) (s.welcome.map Prod.snd)
      | none => l
    | _ => l
  | _ => l

end Log

/-- The log of a run that begins in `r`. -/
def log (r : Registration α γ θ ρ) (plan : Plan α θ) (actions : List (Action γ θ ρ)) : Log γ :=
  Runs.noted (fun r a => r.act plan a) (Log.note plan) {} r actions

theorem Log.note_agreed {plan : Plan α θ} {l : Log γ} {r : Registration α γ θ ρ}
    {client : Handshake.Client} {answer : Except TransportFault Handshake.Response}
    {result : Handshake.Result} (handshake : plan.handshake = some client)
    (agreed : client.conclude answer = .ok result) :
    l.note plan r (.event (.greeted answer)) = l := by
  simp [note, handshake, agreed]

/-! What the policy is shown. -/

variable {attempts : List (Attempt γ)} {a : Attempt γ}

theorem historyOf_concat : historyOf (attempts ++ [a]) = a.mark (historyOf attempts) := by
  simp [historyOf]

theorem sinceWelcome_concat :
    sinceWelcome (attempts ++ [a]) =
      if a.welcome?.isSome then 1 else sinceWelcome attempts + 1 := by
  unfold sinceWelcome
  cases welcome : a.welcome? <;> simp [welcome]
  omega

theorem sinceWelcome_le (attempts : List (Attempt γ)) :
    sinceWelcome attempts ≤ attempts.length := by
  induction attempts using List.reverseRecOn with
  | nil => simp [sinceWelcome]
  | append_singleton rest a ih =>
    rw [sinceWelcome_concat, List.length_append, List.length_singleton]
    split <;> omega

private theorem bump_of_lt {n : Nat} (few : n < Retry.countLimit) : Retry.bump n = n + 1 :=
  Nat.min_eq_left few

/-- Every failure is counted, and counted again from the last accepted connect on. -/
theorem historyOf_counts (failed : ∀ a ∈ attempts, a.failure? ≠ none)
    (few : attempts.length ≤ Retry.countLimit) :
    (historyOf attempts).total = attempts.length ∧
      (historyOf attempts).sinceConnected = sinceWelcome attempts := by
  induction attempts using List.reverseRecOn with
  | nil => exact ⟨rfl, rfl⟩
  | append_singleton rest a ih =>
    rw [List.length_append, List.length_singleton] at few
    have earlier : ∀ b ∈ rest, b.failure? ≠ none :=
      fun b member => failed b (List.mem_append_left _ member)
    obtain ⟨total, since⟩ := ih earlier (by omega)
    obtain ⟨fault, failure⟩ := Option.ne_none_iff_exists'.mp (failed a (by simp))
    have bound := sinceWelcome_le rest
    rw [historyOf_concat, sinceWelcome_concat, List.length_append, List.length_singleton]
    simp only [Attempt.mark, failure, Retry.History.record]
    cases a.welcome? with
    | none =>
      simp only [Option.isSome_none, Bool.false_eq_true, if_false]
      rw [total, since, bump_of_lt (by omega), bump_of_lt (by omega)]
      exact ⟨rfl, rfl⟩
    | some payload =>
      simp only [Option.isSome_some, if_true, Retry.History.markConnected]
      rw [total, bump_of_lt (by omega)]
      exact ⟨rfl, rfl⟩

/-- The newest failure comes last. -/
theorem historyOf_last {fault : AttemptFault} (failure : a.failure? = some fault) :
    (historyOf (attempts ++ [a])).last? = some fault := by
  rw [historyOf_concat]
  simp [Attempt.mark, failure, Retry.History.record, Retry.History.last?]

end Registration
end Dialback
