import Dialback.Proofs.Session.Smooth
import Mathlib.Data.List.Perm.Basic

/-!
What a connection that ends cleanly has written: a pong for every ping and a response for every
request that was read, each handler having been invoked once. The order of scheduling, the bound on
concurrency and the room of the outbox make no difference.
-/
namespace Dialback

variable {α γ θ ρ : Type}

/-- The response of a handler as it goes out: under the context of its request. -/
def Request.respond (q : Request θ) (r : Response ρ) : ClientMessage α ρ :=
  .response (r.withContext q.context)

namespace Session

variable {l : Log γ θ ρ} {s : Session α γ θ ρ} {terms : Terms θ}

/-- Nothing is left over, nothing is missing and nothing happened twice. -/
structure Accounted (arguments : ConnectArguments α) (l : Log γ θ ρ) (s : Session α γ θ ρ) :
    Prop where
  /-- What has arrived was read in order, up to what is still unread. -/
  arrived : l.arrived = l.read ++ s.inbox
  invoked : l.invoked.Perm (List.range l.requests.length)
  written : ∃ (replies : List (Response ρ)) (rest : List (ClientMessage α ρ)),
    l.answered.Perm ((List.range l.requests.length).zip replies) ∧
    replies.length = l.requests.length ∧
    s.wire.map Prod.snd = .arguments arguments :: rest ∧
    rest.Perm (List.replicate l.pings .pong ++ List.zipWith Request.respond l.requests replies)

/-- Pongs and responses, sorted apart. -/
theorem perm_pongs_responses {sent : List (ClientMessage α ρ)}
    (kinds : ∀ m ∈ sent, m = .pong ∨ ∃ r, m = .response r) :
    sent.Perm (List.replicate (sent.countP ClientMessage.isPong) .pong ++
      (sent.filterMap ClientMessage.response?).map .response) := by
  induction sent with
  | nil => exact .nil
  | cons m rest ih =>
    have sorted := ih fun m member => kinds m (List.mem_cons_of_mem _ member)
    rcases kinds m List.mem_cons_self with rfl | ⟨r, rfl⟩
    · rw [List.countP_cons_of_pos rfl, List.replicate_succ]
      exact sorted.cons _
    · rw [List.countP_cons_of_neg (by simp [ClientMessage.isPong])]
      exact (sorted.cons _).trans List.perm_middle.symm

/-- Every job has ended by queueing its response, so everything has happened to it once. -/
theorem Tallied.perm_range (tallied : Tallied l s)
    (queued : ∀ t ∈ s.jobs, t.stage = .ended .queued) :
    l.invoked.Perm (List.range s.jobs.length) ∧
      (l.answered.map Prod.fst).Perm (List.range s.jobs.length) ∧
      l.placed.Perm (List.range s.jobs.length) := by
  have counts : ∀ i, l.tally i = if i < s.jobs.length then ⟨1, 1, 1⟩ else ⟨0, 0, 0⟩ := by
    intro i
    by_cases inside : i < s.jobs.length
    · have job : s.jobs[i]? = some s.jobs[i] := List.getElem?_eq_getElem inside
      have allowed := tallied.jobs i _ job
      rw [queued _ (List.getElem_mem inside)] at allowed
      rw [if_pos inside]
      exact allowed.counts_of_queued
    · rw [if_neg inside]
      exact tallied.others i (by omega)
  refine ⟨?_, ?_, ?_⟩ <;> refine List.perm_iff_count.mpr fun i => ?_ <;> rw [List.count_range]
  · exact (congrArg Tally.invoked (counts i)).trans (apply_ite Tally.invoked _ _ _)
  · exact (congrArg Tally.answered (counts i)).trans (apply_ite Tally.answered _ _ _)
  · exact (congrArg Tally.placed (counts i)).trans (apply_ite Tally.placed _ _ _)

/-- What has been answered, in the order of the requests. -/
theorem exists_replies {answered : List (Nat × Response ρ)} {n : Nat}
    (once : (answered.map Prod.fst).Perm (List.range n)) :
    ∃ replies : List (Response ρ), replies.length = n ∧
      answered.Perm ((List.range n).zip replies) := by
  have own : List.Forall₂ (fun i (e : Nat × Response ρ) => e.1 = i) (answered.map Prod.fst)
      answered := by
    rw [List.forall₂_map_left_iff]
    exact List.forall₂_same.mpr fun _ _ => rfl
  obtain ⟨sorted, byJob, same⟩ := List.perm_comp_forall₂ once.symm own
  have keys : sorted.map Prod.fst = List.range n := by
    have equal := List.forall₂_map_right_iff.mpr (byJob.imp fun _ _ h => h.symm)
    exact (List.forall₂_eq_eq_eq ▸ equal).symm
  refine ⟨sorted.map Prod.snd, ?_, ?_⟩
  · have lengths := congrArg List.length keys
    simpa using lengths
  · rw [← List.zip_of_prod keys rfl]
    exact same.symm

/-- The replies to all jobs, in the order of the requests. -/
theorem Log.responses_of_replies {replies responses : List (Response ρ)}
    (once : l.answered.Perm ((List.range l.requests.length).zip replies))
    (lengths : replies.length = l.requests.length)
    (answered : List.Forall₂ l.Replies responses (List.range l.requests.length)) :
    responses.map .response =
      (List.zipWith Request.respond l.requests replies : List (ClientMessage α ρ)) := by
  have sizes := answered.length_eq
  rw [List.length_range] at sizes
  refine List.ext_getElem (by simp [sizes, lengths]) fun i inside inside' => ?_
  rw [List.length_map] at inside
  have reply := answered.get inside (by simpa [← sizes] using inside)
  simp only [List.get_eq_getElem, List.getElem_range] at reply
  obtain ⟨q, x, known, returned, same⟩ := reply
  obtain ⟨k, bound, here⟩ := List.getElem_of_mem (once.subset returned)
  rw [List.getElem_zip, List.getElem_range, Prod.mk.injEq] at here
  obtain ⟨rfl, rfl⟩ := here
  rw [List.getElem_map, List.getElem_zipWith, same, (List.getElem?_eq_some_iff.mp known).2]
  rfl

/-- A connection that was made and ends cleanly has accounted for everything. -/
theorem accounted_of_clean_end (arguments : ConnectArguments α) (openedAt : Nat)
    {actions : List (Action γ θ ρ)} {outcome : Outcome} {time : Nat}
    (ran : (Session.opened terms.settings openedAt arguments).run terms actions = some s)
    (smooth : ∀ a ∈ actions, a.isSmooth = true)
    (connected : ((Session.opened terms.settings openedAt arguments).log terms actions).IsConnected)
    (ended : s.phase = .ended outcome time)
    (clean : outcome = .completed ∨ outcome = .cancelled) :
    Accounted arguments ((Session.opened terms.settings openedAt arguments).log terms actions)
      s := by
  have sound := Sound.of_run ran
  have calm := Smooth.of_run ran smooth
  generalize (Session.opened terms.settings openedAt arguments).log terms actions = l at *
  have working : s.phase.isFailing = false := by
    rw [ended]
    rcases clean with rfl | rfl <;> rfl
  have finished : s.phase.isEnded = true := by
    rw [ended]
    rfl
  obtain ⟨kept, pongs, queue, handed⟩ := calm.flushed sound working finished connected
  have queued := calm.queued sound working finished
  obtain ⟨invoked, answered, placed⟩ := sound.tallied.perm_range queued
  have size : s.jobs.length = l.requests.length := by rw [← sound.heard.requests, List.length_map]
  rw [size] at invoked answered placed
  obtain ⟨replies, lengths, once⟩ := exists_replies answered
  -- Sort what was written: pongs apart, responses by the job they answer.
  have sorted := perm_pongs_responses sound.conveyed.handed
  obtain ⟨order, _, all, inOrder⟩ := sound.conveyed.order
  rw [queue, List.append_nil, all kept] at inOrder
  obtain ⟨responses, byJob, same⟩ := List.perm_comp_forall₂ placed.symm inOrder.flip
  have complete := sound.conveyed.complete kept
  rw [pongs, List.append_nil] at complete
  refine ⟨sound.heard.arrived, invoked, replies, s.outbox.handed, once, lengths, ?_, ?_⟩
  · obtain ⟨payload, more, read⟩ := connected
    rw [handed]
    exact sound.wire_of_read (by simp [read])
  · rw [complete] at sorted
    refine sorted.trans (List.Perm.append_left _ ?_)
    rw [← Log.responses_of_replies once lengths byJob.flip]
    exact same.symm.map _

theorem accounted_of_exchange :
    ∃ s : Session String String Nat String,
      (Session.opened exchangeTerms.settings 0 { payload := "hello" }).run exchangeTerms exchange =
        some s ∧
      s.phase = .ended .completed 0 ∧
      Accounted { payload := "hello" } ((Session.opened exchangeTerms.settings 0
        ({ payload := "hello" } : ConnectArguments String)).log exchangeTerms exchange) s :=
  ⟨_, rfl, rfl, accounted_of_clean_end { payload := "hello" } 0 rfl (by decide)
    ⟨"welcome", _, rfl⟩ rfl (Or.inl rfl)⟩

end Session
end Dialback
