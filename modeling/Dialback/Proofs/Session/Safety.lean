import Dialback.Proofs.Session.Invariant
import Mathlib.Data.List.Nodup

/-!
What a client may write, at every moment of every run: its arguments, then pongs for pings and
responses to requests, and nothing but the arguments unless the first message that is read accepts
the connection.
-/
namespace Dialback.Session

variable {α γ θ ρ : Type} {l : Log γ θ ρ} {s : Session α γ θ ρ} {terms : Terms θ}
  {arguments : ConnectArguments α}

/-- The response carries the call identifier and the execution context of the job's request. -/
def Log.Carries (l : Log γ θ ρ) (r : Response ρ) (job : Nat) : Prop :=
  ∃ request, l.requests[job]? = some request ∧ r.context = some request.context

theorem Log.Replies.carries {r : Response ρ} {job : Nat} (reply : l.Replies r job) :
    l.Carries r job := by
  obtain ⟨request, response, known, _, same⟩ := reply
  exact ⟨request, known, by rw [same]; rfl⟩

/-- The response of no job is queued twice. -/
theorem Tallied.placed_nodup (tallied : Tallied l s) : l.placed.Nodup := by
  rw [List.nodup_iff_count_le_one]
  intro i
  change (l.tally i).placed ≤ 1
  cases job : s.jobs[i]? with
  | none =>
    rw [tallied.others i (List.getElem?_eq_none_iff.mp job)]
    exact Nat.zero_le 1
  | some t => exact (tallied.jobs i t job).placed_le

/-- What may stand behind the arguments. -/
structure Log.Admits (l : Log γ θ ρ) (rest : List (ClientMessage α ρ)) : Prop where
  kinds : ∀ m ∈ rest, m = .pong ∨ ∃ r, m = .response r
  pongs : rest.countP ClientMessage.isPong ≤ l.pings
  /-- No two responses belong to the same request. -/
  responses : ∃ order : List Nat, order.Nodup ∧
    List.Forall₂ l.Carries (rest.filterMap ClientMessage.response?) order

theorem Sound.admits (sound : Sound terms arguments l s) {rest : List (ClientMessage α ρ)}
    (before : rest <+: s.outbox.handed) : l.Admits rest where
  kinds m member := sound.conveyed.handed m (before.subset member)
  pongs := sound.pongs_le before
  responses := by
    obtain ⟨order, shorter, answered⟩ := sound.replies before
    exact ⟨order, sound.tallied.placed_nodup.sublist shorter.sublist,
      answered.imp fun _ _ reply => reply.carries⟩

/-- Everything a client may have written when so much has happened. -/
structure OutboundSafe (arguments : ConnectArguments α) (l : Log γ θ ρ)
    (s : Session α γ θ ρ) : Prop where
  /-- The message whose write is under way included. -/
  written : ∀ sent, sent <+: s.handed →
    sent = [] ∨ ∃ rest, sent = .arguments arguments :: rest ∧ l.Admits rest
  wire : s.wire.map Prod.snd <+: s.handed
  /-- Without an accepted connect response nothing follows the arguments. -/
  unconnected : ¬ l.IsConnected → s.outbox.handed = [] ∧ l.invoked = []

/-- The arguments carry the caller's payload under a context of the client's own. -/
theorem outbound_safe (arguments : ConnectArguments α) (execution : ExecutionContext)
    (head : HeadId) (correlation : CorrelationId) (openedAt : Nat) {actions : List (Action γ θ ρ)}
    (ran : (Session.opened terms.settings openedAt
      (introduce terms.settings execution head correlation arguments)).run terms actions = some s) :
    OutboundSafe
      { context := some {
          head, pingInterval := terms.settings.pingInterval
          execution := { execution with correlation } }
        payload := arguments.payload }
      ((Session.opened terms.settings openedAt
        (introduce terms.settings execution head correlation arguments)).log terms actions) s := by
  have sound := Sound.of_run ran
  refine ⟨?_, sound.wire_handed, fun unconnected => sound.unserved (Log.served_eq_nil unconnected)⟩
  intro sent before
  rcases List.prefix_cons_iff.mp before with rfl | ⟨rest, rfl, inside⟩
  · exact Or.inl rfl
  · refine Or.inr ⟨rest, ?_, sound.admits inside⟩
    rw [sound.introduced.arguments]
    rfl

theorem outbound_safe_exchange :
    ∃ s : Session String String Nat String,
      (Session.opened exchangeTerms.settings 0 (introduce exchangeTerms.settings
        (.standard Uuid.null) Uuid.null Uuid.null { payload := "hello" })).run exchangeTerms
          exchange = some s ∧
      OutboundSafe
        { context := some {
            head := Uuid.null, pingInterval := exchangeTerms.settings.pingInterval
            execution := .standard Uuid.null }
          payload := "hello" }
        ((Session.opened exchangeTerms.settings 0 (introduce exchangeTerms.settings
          (.standard Uuid.null) Uuid.null Uuid.null
          ({ payload := "hello" } : ConnectArguments String))).log exchangeTerms exchange) s ∧
      s.wire.length = 4 :=
  ⟨_, rfl,
    outbound_safe { payload := "hello" } (.standard Uuid.null) Uuid.null Uuid.null 0 rfl, rfl⟩

end Dialback.Session
