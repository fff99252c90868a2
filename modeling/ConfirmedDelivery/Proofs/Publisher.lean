import ConfirmedDelivery.Proofs.Retry
import ConfirmedDelivery.Proofs.Round.Alike
import ConfirmedDelivery.Proofs.Round.Upholds
import ConfirmedDelivery.Publisher

/-!
# What a publisher keeps

A publisher's rounds keep what their parts keep: if each round upholds something from which what
holds between rounds follows again, then it holds when the call has come to its end
(`publishAll_ends`). Links that are alike make no difference to the result of a call
(`publishAll_alike`).
-/

namespace ConfirmedDelivery.Publisher

variable {σ τ : Type} (p : Publisher)

theorem batchSize_pos : 0 < p.settings.batchSize := by
  by_contra hzero
  have hsound := p.sound
  unfold Settings.check at hsound
  rw [if_pos (by omega)] at hsound
  exact absurd hsound (by rintro ⟨⟩)

theorem chunkSize_pos : 0 < p.settings.chunkSize := by
  unfold Settings.chunkSize
  split
  · exact Nat.one_pos
  · exact p.batchSize_pos
  · exact p.batchSize_pos

theorem check_standard : Settings.standard.check = .ok () := by
  have htimeout : Settings.canBound Settings.standard.timeoutSecs = true := by decide +kernel
  have hbatch : Settings.canBound Settings.standard.batchConfirmTimeoutSecs = true := by
    decide +kernel
  unfold Settings.check Settings.checkSeconds
  rw [htimeout, hbatch]
  rfl

/-- A publisher that was told nothing. -/
def standard : Publisher := ⟨.standard, check_standard⟩

/-- The report that a call came back with. -/
def reported : Option (Except Failure Report) → Option Report
  | some (.ok report) => some report
  | _ => none

theorem eq_of_reported {result : Option (Except Failure Report)} {report : Report}
    (h : reported result = some report) : result = some (.ok report) := by
  unfold reported at h
  split at h
  · rw [Option.some.inj h]
  · exact absurd h (by rintro ⟨⟩)

/-- A call ends as its rounds let it: in each of them something is upheld, and with it what holds
between two rounds. -/
theorem publishAll_ends {link : Link σ} {messages : List Message} {j : Journaled σ}
    {between : Report → List Message → σ → Prop} {failed : Failure → σ → Prop}
    (hround : ∀ report pending s, pending ≠ [] → between report pending s →
      ∃ during failing,
        ((link.openSession s).answer = .ok () → Round.Upholds link p.settings pending
          (link.openSession s).state during failing)
        ∧ ∀ result s', Round.Concludes link pending s during failing result s' →
          Retry.EndsRound between failed report result s')
    (htime : ∀ {report pending s} (time : Span), between report pending s →
      between { report with elapsed := time } pending s)
    (hstart : between Report.empty messages j.state) :
    Retry.Ends between failed (p.publishAll link messages j).1
      (p.publishAll link messages j).2.state := by
  refine Retry.run_ends (fun report pending j hne h => ?_) htime hstart
  obtain ⟨during, failing, hupholds, hends⟩ := hround report pending j.state hne h
  exact hends _ _ (Round.conduct_concludes j _ p.chunkSize_pos hupholds)

theorem upholds_total (link : Link σ) (settings : Settings) (messages : List Message) (s : σ) :
    Round.Upholds link settings messages s
      (fun done _ _ b => b.Current ∧ b.total = done.length) (fun _ _ _ _ => True) where
  enable := Reply.ends_of (fun _ => by rw [Books.handleAll_empty]; exact ⟨rfl, rfl⟩)
    fun _ => trivial
  declare _ h _ := Reply.ends_of
    (fun _ => ⟨Books.current_handleAll _ h.1, (Books.total_handleAll _ _).trans h.2⟩)
    fun _ => trivial
  duplicate _ _ _ := trivial
  transmit h _ _ hadd := Reply.ends_of (fun _ => by
      split_ifs
      refine ⟨Books.current_handleAll _ (Books.add?_eq_some hadd).2.2.2.2.2, ?_⟩
      rw [Books.total_handleAll, Books.total_add? hadd, h.2, List.length_append,
        List.length_singleton])
    fun _ => trivial
  await _ h _ := Reply.ends_of (fun _ => by
      split_ifs
      exact ⟨Books.current_handleAll _ h.1, (Books.total_handleAll _ _).trans h.2⟩)
    fun _ => trivial
  lull {declared s b} h _ := lull_total _ h
where
  lull_total {done : List Message} : ∀ (lull : Lull Confirm σ) {b : Books Message},
      b.Current ∧ b.total = done.length →
      lull.Keeps (fun _ b => b.Current ∧ b.total = done.length) (fun _ _ => True) b
    | .timeUp _ _, _, _ => trivial
    | .stir _ _ next, _, h =>
      have h := ⟨Books.current_handleAll _ h.1, (Books.total_handleAll _ _).trans h.2⟩
      ⟨h, fun _ => lull_total next h⟩

/-- A round that comes to its end has sent every message and had each accepted or refused. -/
theorem conduct_accounts {link : Link σ} {number : Nat} {messages : List Message} {j : Journaled σ}
    {outcome : Outcome Message} (h : (p.conduct link number messages j).1 = .ok outcome) :
    outcome.published = messages.length
      ∧ outcome.confirmed + outcome.rejected.length = messages.length := by
  have hends := Round.conduct_concludes j number p.chunkSize_pos fun _ =>
    upholds_total link p.settings messages (link.openSession j.state).state
  change Round.Concludes _ _ _ _ _ (p.conduct link number messages j).1 _ at hends
  rw [h] at hends
  obtain ⟨-, s, b, ⟨hcurrent, htotal⟩, hdrained, -, -, rfl⟩ := hends
  have hnone := (Books.drained_iff hcurrent).1 hdrained
  rw [Books.handleAll_of_unanswered_nil hnone]
  refine ⟨rfl, ?_⟩
  rw [← htotal, Books.total, hnone, List.length_nil, Nat.zero_add]

/-- Over links that are alike in its rounds a publisher comes to the same result. -/
theorem publishAll_alikeIn {A : Likeness σ τ} {l : Link σ} {k : Link τ}
    (hlink : l.AlikeIn A p.settings k) {j : Journaled σ} {j' : Journaled τ}
    (h : A.between j.state j'.state) (messages : List Message) :
    (p.publishAll l messages j).1 = (p.publishAll k messages j').1
      ∧ A.between (p.publishAll l messages j).2.state (p.publishAll k messages j').2.state := by
  unfold publishAll
  refine Retry.run_alike (fun h' => ?_) (fun number pending _ _ hsome h' => ?_) messages h
  · rw [hlink.clock h', hlink.clock h]
  · exact (Round.alikeIn_conduct number hlink h' (.inr ⟨p.chunkSize_pos, hsome⟩)).imp_right
      Round.Alike.link

theorem publishAll_alike {R : σ → τ → Prop} {l : Link σ} {k : Link τ} (hlink : l.Alike R k)
    {j : Journaled σ} {j' : Journaled τ} (h : R j.state j'.state) (messages : List Message) :
    (p.publishAll l messages j).1 = (p.publishAll k messages j').1
      ∧ R (p.publishAll l messages j).2.state (p.publishAll k messages j').2.state :=
  p.publishAll_alikeIn (hlink.alikeIn p.settings) h messages

end ConfirmedDelivery.Publisher
