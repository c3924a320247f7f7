import Dialback.Proofs.Session.Effect

/-!
What statements about runs of a session speak of: what has arrived, what has been read, which
handlers have been invoked, what they answered, and which responses were queued for the writer.
Jobs are numbered from zero in the order in which their requests were read.
-/
namespace Dialback.Session

variable {α γ θ ρ : Type}

structure Log (γ θ ρ : Type) where
  arrived : List (Inbound γ θ) := []
  read : List (Inbound γ θ) := []
  /-- The jobs whose handlers were invoked. -/
  invoked : List Nat := []
  /-- What the handlers returned. -/
  answered : List (Nat × Response ρ) := []
  /-- The jobs whose responses were queued. -/
  placed : List Nat := []

def Inbound.isPing : Inbound γ θ → Bool
  | message m => m.isPing
  | _ => false

def Inbound.request? : Inbound γ θ → Option (Request θ)
  | message m => m.request?
  | _ => none

/-- What comes after an accepted connect response; without one, nothing is served. -/
def servedOf : List (Inbound γ θ) → List (Inbound γ θ)
  | .message (.connectResponse (.accepted _)) :: rest => rest
  | _ => []

namespace Log

/-- The first message that was read is an accepted connect response. -/
def IsConnected (l : Log γ θ ρ) : Prop :=
  ∃ payload rest, l.read = .message (.connectResponse (.accepted payload)) :: rest

def served (l : Log γ θ ρ) : List (Inbound γ θ) :=
  servedOf l.read

/-- Requests read after the accepted connect response. -/
def requests (l : Log γ θ ρ) : List (Request θ) :=
  l.served.filterMap Inbound.request?

/-- Pings read after the accepted connect response. -/
def pings (l : Log γ θ ρ) : Nat :=
  l.served.countP Inbound.isPing

def note (l : Log γ θ ρ) (s : Session α γ θ ρ) : Action γ θ ρ → Log γ θ ρ
  | .event (.arrive x) => { l with arrived := l.arrived ++ [x] }
  | .move .readFirst | .move .read => { l with read := l.read ++ s.inbox.take 1 }
  | .move (.start job) => { l with invoked := l.invoked ++ [job] }
  | .event (.answer job response) => { l with answered := l.answered ++ [(job, response)] }
  | .move (.place job) => { l with placed := l.placed ++ [job] }
  | _ => l

end Log

/-- The log of a run that begins in `s`. -/
def log (s : Session α γ θ ρ) (terms : Terms θ) (actions : List (Action γ θ ρ)) : Log γ θ ρ :=
  Runs.noted (fun s a => s.act terms a) Log.note {} s actions

/-- An invariant of log and session holds at the end of every run of allowed actions. -/
theorem log_induction {terms : Terms θ} (invariant : Log γ θ ρ → Session α γ θ ρ → Prop)
    (allowed : Action γ θ ρ → Prop) {start s : Session α γ θ ρ}
    (step : ∀ l s a s', allowed a → invariant l s → Effect terms s a s' →
      invariant (l.note s a) s')
    {actions : List (Action γ θ ρ)} (initial : invariant {} start)
    (kinds : ∀ a ∈ actions, allowed a) (ran : start.run terms actions = some s) :
    invariant (start.log terms actions) s :=
  Runs.noted_induction allowed
    (fun l s a s' kind holds acted => step l s a s' kind holds (.of_act acted))
    initial kinds ran

variable {l : Log γ θ ρ} {s s' : Session α γ θ ρ} {terms : Terms θ} {a : Action γ θ ρ}

/-- Replacing a job by one that agrees with it in some respect changes nothing in that respect. -/
theorem map_set_same {β : Type} (f : Job θ → β) {jobs : List (Job θ)} {i : Nat} {t t' : Job θ}
    (job : jobs[i]? = some t) (same : f t' = f t) : (jobs.set i t').map f = jobs.map f := by
  obtain ⟨inside, here⟩ := List.getElem?_eq_some_iff.mp job
  rw [List.map_set, same, ← here, ← List.getElem_map f (h := by simpa using inside),
    List.set_getElem_self]

/-- A job of an extended list was there before or is the new one. -/
theorem job_of_append {jobs : List (Job θ)} {new t : Job θ} {i : Nat}
    (job : (jobs ++ [new])[i]? = some t) :
    jobs[i]? = some t ∨ i = jobs.length ∧ t = new := by
  rcases Nat.lt_trichotomy i jobs.length with inside | rfl | beyond
  · exact Or.inl (by rwa [List.getElem?_append_left inside] at job)
  · rw [List.getElem?_concat_length] at job
    exact Or.inr ⟨rfl, (Option.some.inj job).symm⟩
  · have inside := (List.getElem?_eq_some_iff.mp job).1
    simp only [List.length_append, List.length_singleton] at inside
    omega

theorem servedOf_append {read more : List (Inbound γ θ)}
    (connected : ∃ payload rest,
      read = .message (.connectResponse (.accepted payload)) :: rest) :
    servedOf (read ++ more) = servedOf read ++ more := by
  obtain ⟨payload, rest, rfl⟩ := connected
  rfl

theorem Log.IsConnected.append {more : List (Inbound γ θ)} (connected : l.IsConnected) :
    ({ l with read := l.read ++ more } : Log γ θ ρ).IsConnected := by
  obtain ⟨payload, rest, read⟩ := connected
  exact ⟨payload, rest ++ more, by simp [read]⟩

theorem Log.served_append {more : List (Inbound γ θ)} (connected : l.IsConnected) :
    ({ l with read := l.read ++ more } : Log γ θ ρ).served = l.served ++ more :=
  servedOf_append connected

theorem Log.served_eq_nil (unconnected : ¬ l.IsConnected) : l.served = [] := by
  unfold Log.served servedOf
  split
  case h_1 payload rest read => exact absurd ⟨payload, rest, read⟩ unconnected
  case h_2 => rfl

/-! Actions of which the log takes no note. -/

theorem Control.note (control : Control terms s a s') : l.note s a = l := by
  cases control <;> rfl

theorem Ends.note {outcome : Outcome} (ends : Ends s a outcome) : l.note s a = l := by
  cases ends <;> rfl

theorem Flushes.note {cause : Cause} (flushes : Flushes s a cause) : l.note s a = l := by
  cases flushes <;> rfl

theorem JobEnds.note {i : Nat} {t : Job θ} {how : JobEnd} (ends : JobEnds s i t a how) :
    l.note s a = l := by
  cases ends <;> rfl

theorem Sinks.note {b : Outbox.Action (ClientMessage α ρ)} (sunk : Sinks s.now a b) :
    l.note s a = l := by
  cases sunk <;> rfl

end Dialback.Session
