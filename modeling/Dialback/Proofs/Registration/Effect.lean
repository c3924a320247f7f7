import Dialback.Proofs.Registration.Attempts
import Dialback.Proofs.Session.Unstopped

/-!
What each action does to a registration, with the guard under which it may happen. As for a session,
later proofs open the step function only to show that an action is enabled.
-/
namespace Dialback.Registration

variable {α γ θ ρ : Type}

/-- How an attempt fails, and the connect response it got before if that was an accepting one. -/
inductive Fails (plan : Plan α θ) (r : Registration α γ θ ρ) :
    Action γ θ ρ → AttemptFault → Option γ → Prop
  | timeout (arguments : ConnectArguments α) (since limit : Nat) (client : Handshake.Client)
      (greeting : r.phase = .greeting arguments since limit)
      (handshake : plan.handshake = some client) (unstopped : r.stop = none)
      (late : limit ≤ r.now) :
      Fails plan r (.move .giveUpGreeting) (.handshake (.timeout client.patience)) none
  | handshake (arguments : ConnectArguments α) (since limit : Nat) (client : Handshake.Client)
      (answer : Except TransportFault Handshake.Response) (fault : HandshakeFault)
      (greeting : r.phase = .greeting arguments since limit)
      (handshake : plan.handshake = some client) (unstopped : r.stop = none)
      (refused : client.conclude answer = .error fault) :
      Fails plan r (.event (.greeted answer)) (.handshake fault) none
  | opening (arguments : ConnectArguments α) (since : Nat) (fault : TransportFault)
      (dialing : r.phase = .dialing arguments since) (unstopped : r.stop = none) :
      Fails plan r (.event (.openingFailed fault)) (.opening fault) none
  | call (since time : Nat) (s : Session α γ θ ρ) (fault : CallFault)
      (talking : r.phase = .talking since s) (finished : s.phase = .ended (.failed fault) time) :
      Fails plan r (.move .conclude) (.call fault) (s.welcome.map Prod.snd)

/-- How an action reaches the session. -/
inductive Lifts (r : Registration α γ θ ρ) :
    Session.Action γ θ ρ → Action γ θ ρ → Nat → Prop
  | move (m : Session.Move) : Lifts r (.move m) (.move (.session m)) r.now
  | event (e : Session.Event γ θ ρ) (allowed : isPrivate e = true) :
      Lifts r (.event e) (.event (.session e)) r.now
  | elapse (time : Nat) (later : r.now < time) :
      Lifts r (.event (.elapse time)) (.event (.elapse time)) time

/-- Where the stop signal is looked at by the registration itself. -/
inductive Heeds (r : Registration α γ θ ρ) : Action γ θ ρ → Prop
  | start (ready : r.phase = .ready) : Heeds r (.move .start)
  | greeting (arguments : ConnectArguments α) (since limit : Nat)
      (greeting : r.phase = .greeting arguments since limit) : Heeds r (.move .heedStop)
  | dialing (arguments : ConnectArguments α) (since : Nat)
      (dialing : r.phase = .dialing arguments since) : Heeds r (.move .heedStop)
  | resting (wake : Nat) (resting : r.phase = .resting wake) : Heeds r (.move .heedStop)

/-- The connection that an action leaves behind. -/
def closing? (r : Registration α γ θ ρ) : Action γ θ ρ → Option (Connection α γ θ ρ)
  | .event (.openingFailed _) | .move .heedStop =>
    match r.phase with
    | .dialing _ since => some ⟨since, none⟩
    | _ => none
  | .move .conclude =>
    match r.phase with
    | .talking since s => some ⟨since, some s⟩
    | _ => none
  | _ => none

inductive Effect (plan : Plan α θ) (r : Registration α γ θ ρ) :
    Action γ θ ρ → Registration α γ θ ρ → Prop
  | begin (ready : r.phase = .ready) (unstopped : r.stop = none) :
      Effect plan r (.move .start) (r.startAttempt plan)
  | dial (arguments : ConnectArguments α) (since limit : Nat) (client : Handshake.Client)
      (answer : Except TransportFault Handshake.Response) (result : Handshake.Result)
      (greeting : r.phase = .greeting arguments since limit)
      (handshake : plan.handshake = some client) (unstopped : r.stop = none)
      (agreed : client.conclude answer = .ok result) :
      Effect plan r (.event (.greeted answer)) { r with phase := .dialing arguments r.now }
  | connect (arguments : ConnectArguments α) (since : Nat)
      (dialing : r.phase = .dialing arguments since) (unstopped : r.stop = none) :
      Effect plan r (.event .opened) (r.openSession plan arguments since)
  | session {a : Action γ θ ρ} (since now : Nat) (s s' : Session α γ θ ρ)
      (x : Session.Action γ θ ρ) (talking : r.phase = .talking since s) (lifts : Lifts r x a now)
      (acted : s.act plan.terms x = some s') :
      Effect plan r a { r with now, phase := .talking since s' }
  | welcome (since : Nat) (s : Session α γ θ ρ) (payload : γ) (talking : r.phase = .talking since s)
      (accepted : s.phase = .accepted payload) :
      Effect plan r (.move .welcome) { r with
        phase := .talking since (s.serve plan.terms)
        welcomes := r.welcomes ++ [(r.now, r.attempts, payload)] }
  | fail {a : Action γ θ ρ} (fault : AttemptFault) (welcome? : Option γ)
      (connections : List (Connection α γ θ ρ)) (fails : Fails plan r a fault welcome?)
      (left : connections = r.connections ++ (r.closing? a).toList) :
      Effect plan r a ({ r with connections }.failAttempt plan fault welcome?.isSome)
  | complete (since time : Nat) (s : Session α γ θ ρ) (connections : List (Connection α γ θ ρ))
      (talking : r.phase = .talking since s) (finished : s.phase = .ended .completed time)
      (left : connections = r.connections ++ (r.closing? (.move .conclude)).toList) :
      Effect plan r (.move .conclude)
        { r with connections, phase := .ended (.completed r.attempts) r.now }
  | cancelled (since time : Nat) (s : Session α γ θ ρ) (connections : List (Connection α γ θ ρ))
      (talking : r.phase = .talking since s) (finished : s.phase = .ended .cancelled time)
      (left : connections = r.connections ++ (r.closing? (.move .conclude)).toList) :
      Effect plan r (.move .conclude)
        { r with connections, phase := .ended (.stopped r.attempts) r.now }
  | heed {a : Action γ θ ρ} (connections : List (Connection α γ θ ρ)) (heeds : Heeds r a)
      (stopped : r.stop.isSome = true)
      (left : connections = r.connections ++ (r.closing? a).toList) :
      Effect plan r a { r with connections, phase := .ended (.stopped r.attempts) r.now }
  | wake (wake : Nat) (resting : r.phase = .resting wake) (unstopped : r.stop = none)
      (late : wake ≤ r.now) : Effect plan r (.move .wake) { r with phase := .ready }
  | elapse (time : Nat) (later : r.now < time) (alone : ∀ since s, r.phase ≠ .talking since s)
      (lasts : ∀ ending time, r.phase ≠ .ended ending time) :
      Effect plan r (.event (.elapse time)) { r with now := time }
  | stop (unset : r.stop = none) : Effect plan r (.event .stop) (r.onStop plan)

variable {plan : Plan α θ} {r r' : Registration α γ θ ρ}

private theorem Effect.of_advance {m : Move} (acted : r.advance plan m = some r') :
    Effect plan r (.move m) r' := by
  cases m with
  | start =>
    simp only [advance] at acted
    split at acted
    case h_1 ready =>
      split at acted
      case isTrue stopped =>
        cases acted
        exact .heed r.connections (.start ready) stopped (by simp [closing?])
      case isFalse unstopped =>
        cases acted
        exact .begin ready (by simpa using unstopped)
    case h_2 => cases acted
  | heedStop =>
    simp only [advance] at acted
    split at acted
    case isTrue => cases acted
    case isFalse stopped =>
      have stopped : r.stop.isSome = true := by simpa [Option.isSome_iff_ne_none] using stopped
      split at acted
      case h_1 arguments since limit greeting =>
        cases acted
        exact .heed r.connections (.greeting arguments since limit greeting) stopped
          (by simp [closing?, greeting])
      case h_2 wake resting =>
        cases acted
        exact .heed r.connections (.resting wake resting) stopped (by simp [closing?, resting])
      case h_3 arguments since dialing =>
        cases acted
        exact .heed _ (.dialing arguments since dialing) stopped
          (by simp [closing?, noteConnection, dialing])
      case h_4 => cases acted
  | giveUpGreeting =>
    simp only [advance] at acted
    split at acted
    case h_1 arguments since limit client greeting handshake =>
      split at acted
      case isTrue late =>
        cases acted
        simp only [Bool.and_eq_true, Option.isNone_iff_eq_none, decide_eq_true_eq] at late
        exact .fail _ none r.connections
          (.timeout arguments since limit client greeting handshake late.1 late.2)
          (by simp [closing?])
      case isFalse => cases acted
    case h_2 => cases acted
  | welcome =>
    simp only [advance] at acted
    split at acted
    case h_1 since s talking =>
      split at acted
      case h_1 payload accepted =>
        simp only [Session.receive, accepted, Option.map_some] at acted
        cases acted
        exact .welcome since s payload talking accepted
      case h_2 => cases acted
    case h_2 => cases acted
  | session x =>
    simp only [advance] at acted
    split at acted
    case h_1 since s talking =>
      obtain ⟨s', moved, same⟩ := Option.map_eq_some_iff.mp acted
      cases same
      exact .session since r.now s s' (.move x) talking (.move x) moved
    case h_2 => cases acted
  | conclude =>
    simp only [advance] at acted
    split at acted
    case h_1 since s talking =>
      obtain ⟨⟨outcome, time⟩, ended, same⟩ := Option.map_eq_some_iff.mp acted
      have finished : s.phase = .ended outcome time := by
        unfold Session.outcome? at ended
        split at ended
        case h_1 outcome' time' phase =>
          cases ended
          exact phase
        case h_2 => cases ended
      have left : (r.noteConnection ⟨since, some s⟩).connections =
          r.connections ++ (r.closing? (.move .conclude)).toList := by
        simp [closing?, noteConnection, talking]
      cases same
      cases outcome with
      | completed => exact .complete since time s _ talking finished left
      | cancelled => exact .cancelled since time s _ talking finished left
      | failed fault =>
        have failed : Effect plan r (.move .conclude) _ :=
          .fail (.call fault) (s.welcome.map Prod.snd)
            (r.noteConnection ⟨since, some s⟩).connections
            (.call since time s fault talking finished) left
        rw [Option.isSome_map] at failed
        exact failed
    case h_2 => cases acted
  | wake =>
    simp only [advance] at acted
    split at acted
    case h_1 wake resting =>
      split at acted
      case isTrue late =>
        cases acted
        simp only [Bool.and_eq_true, Option.isNone_iff_eq_none, decide_eq_true_eq] at late
        exact .wake wake resting late.1 late.2
      case isFalse => cases acted
    case h_2 => cases acted

private theorem Effect.of_receive {e : Event γ θ ρ} (received : r.receive plan e = some r') :
    Effect plan r (.event e) r' := by
  cases e with
  | stop =>
    simp only [receive] at received
    split at received
    case isTrue unset =>
      cases received
      exact .stop (by simpa using unset)
    case isFalse => cases received
  | greeted answer =>
    simp only [receive] at received
    split at received
    case h_1 arguments since limit client greeting handshake =>
      split at received
      case isTrue unstopped =>
        have unstopped : r.stop = none := by simpa using unstopped
        cases received
        cases concluded : client.conclude answer with
        | ok result =>
          exact .dial arguments since limit client answer result greeting handshake unstopped
            concluded
        | error fault =>
          exact .fail _ none r.connections
            (.handshake arguments since limit client answer fault greeting handshake unstopped
              concluded) (by simp [closing?])
      case isFalse => cases received
    case h_2 => cases received
  | opened =>
    simp only [receive] at received
    split at received
    case h_1 arguments since dialing =>
      split at received
      case isTrue unstopped =>
        cases received
        exact .connect arguments since dialing (by simpa using unstopped)
      case isFalse => cases received
    case h_2 => cases received
  | openingFailed fault =>
    simp only [receive] at received
    split at received
    case h_1 arguments since dialing =>
      split at received
      case isTrue unstopped =>
        cases received
        exact .fail _ none _ (.opening arguments since fault dialing (by simpa using unstopped))
          (by simp [closing?, dialing])
      case isFalse => cases received
    case h_2 => cases received
  | session x =>
    simp only [receive] at received
    split at received
    case h_1 since s talking =>
      split at received
      case isTrue allowed =>
        obtain ⟨s', happened, same⟩ := Option.map_eq_some_iff.mp received
        cases same
        exact .session since r.now s s' (.event x) talking (.event x allowed) happened
      case isFalse => cases received
    case h_2 => cases received
  | elapse time =>
    simp only [receive] at received
    split at received
    case isTrue later =>
      split at received
      case h_1 since s talking =>
        obtain ⟨s', passed, same⟩ := Option.map_eq_some_iff.mp received
        cases same
        exact .session since time s s' (.event (.elapse time)) talking (.elapse time later) passed
      case h_2 => cases received
      case h_3 lasts alone =>
        cases received
        exact .elapse time later lasts alone
    case isFalse => cases received

theorem Effect.of_act {a : Action γ θ ρ} (acted : r.act plan a = some r') : Effect plan r a r' := by
  cases a with
  | move m => exact .of_advance acted
  | event e => exact .of_receive acted

end Dialback.Registration
