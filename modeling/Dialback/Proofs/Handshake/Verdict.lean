import Dialback.Handshake.Client
import Mathlib.Data.UInt

/-!
What a client makes of the answer to its request. It goes on with an acceptance whose contracts
version has its own major number and at least its own minor number, and with nothing else; every
other answer has a failure of its own, and so has the absence of one.
-/
namespace Dialback.Handshake

/-- A client built against `client` may talk to a runtime that implements `runtime`. Nothing but the
first two numbers is looked at. -/
structure Fits (client runtime : Version) : Prop where
  major : runtime.major = client.major
  minor : client.minor ≤ runtime.minor

/-- The failure that an answer amounts to, if it is not one to go on with. -/
inductive Client.Rejects (c : Client) : Except TransportFault Response → HandshakeFault → Prop
  | transport (fault : TransportFault) : Rejects c (.error fault) (.transport fault)
  | refused (failure : Failure) : Rejects c (.ok (.refused failure)) (.refused failure)
  | incompatible (result : Result)
      (unfit : ¬ Fits c.identity.contractsVersion result.contractsVersion) :
      Rejects c (.ok (.accepted result))
        (.incompatible c.identity.contractsVersion result.contractsVersion)

variable {c : Client} {answer : Except TransportFault Response} {result : Result}
  {fault : HandshakeFault} {x : Exchange}

theorem compatibility_eq_compatible {client runtime : Version} :
    compatibility client runtime = .compatible ↔ Fits client runtime := by
  unfold compatibility
  constructor
  · intro compatible
    split at compatible
    case isTrue => cases compatible
    case isFalse newer =>
      split at compatible
      case isTrue => cases compatible
      case isFalse older =>
        simp only [Bool.or_eq_true, decide_eq_true_eq, not_or, UInt32.not_lt] at newer older
        exact ⟨UInt32.le_antisymm newer older.1, older.2⟩
  · rintro ⟨major, minor⟩
    rw [if_neg (by simp [major]), if_neg (by simpa [major] using minor)]

theorem judge_accepted (identity : Identity) (result : Result) :
    (Fits identity.contractsVersion result.contractsVersion ∧
      judge identity (.accepted result) = .ok result) ∨
    (¬ Fits identity.contractsVersion result.contractsVersion ∧
      judge identity (.accepted result) =
        .error (.incompatible identity.contractsVersion result.contractsVersion)) := by
  rw [← compatibility_eq_compatible]
  simp only [judge]
  cases compatibility identity.contractsVersion result.contractsVersion <;> simp

namespace Client

theorem conclude_eq_ok : c.conclude answer = .ok result ↔
    answer = .ok (.accepted result) ∧ Fits c.identity.contractsVersion result.contractsVersion := by
  cases answer with
  | error fault => simp [conclude]
  | ok response =>
    cases response with
    | refused failure => simp [conclude, judge]
    | accepted offered =>
      rcases judge_accepted c.identity offered with ⟨fits, agreed⟩ | ⟨unfit, failed⟩
      · simp only [conclude, agreed, Except.ok.injEq, Response.accepted.injEq]
        exact ⟨fun same => ⟨same, same ▸ fits⟩, fun known => known.1⟩
      · simp only [conclude, failed, Except.ok.injEq, Response.accepted.injEq, reduceCtorEq,
          false_iff, not_and]
        rintro rfl
        exact unfit

theorem conclude_eq_error : c.conclude answer = .error fault ↔ c.Rejects answer fault := by
  constructor
  · intro failed
    cases answer with
    | error reason =>
      cases failed
      exact .transport reason
    | ok response =>
      cases response with
      | refused failure =>
        cases failed
        exact .refused failure
      | accepted offered =>
        change judge c.identity (.accepted offered) = .error fault at failed
        rcases judge_accepted c.identity offered with ⟨_, agreed⟩ | ⟨unfit, same⟩
        · rw [agreed] at failed
          cases failed
        · rw [same] at failed
          cases failed
          exact .incompatible offered unfit
  · intro rejects
    cases rejects with
    | transport | refused => rfl
    | incompatible offered unfit =>
      rcases judge_accepted c.identity offered with ⟨fits, _⟩ | ⟨_, same⟩
      · exact absurd fits unfit
      · exact same

/-- An answer that comes within the client's patience counts. -/
theorem perform_of_inTime (answered : x.answer = some answer)
    (inTime : x.after ≤ c.patienceMs.toNat) : c.perform x = (x.after, c.conclude answer) := by
  simp [perform, answered, inTime]

/-- One that does not come, or comes too late, is not waited for. -/
theorem perform_of_late (late : x.answer = none ∨ c.patienceMs.toNat < x.after) :
    c.perform x = (c.patienceMs.toNat, .error (.timeout c.patience)) := by
  unfold perform
  cases answered : x.answer with
  | none => rfl
  | some answer =>
    rcases late with never | late
    · rw [never] at answered
      cases answered
    · simp [Nat.not_le.mpr late]

end Client
end Dialback.Handshake
