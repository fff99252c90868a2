import ConfirmedDelivery.Proofs.Broker.Reachable
import ConfirmedDelivery.Proofs.Broker.Spoken
import Mathlib.Algebra.Group.Nat.Defs

/-!
# What a session has answered

Whatever happens on a broker, a session answers for what it has taken in and for nothing else: the
confirms in the log go up by tag, each message that the script settles is spoken for by one of them
with the verdict of the script, and what is withheld by none (`Chronicle.answers_truthfully`). The
runs that were reported so far can be taken out of all that was sent (`Answering`), and a pass takes
further ones out of what they left.
-/

namespace ConfirmedDelivery.Broker

/-! ## The log of one session -/

/-- What was sent on a session. -/
def sentOn (b : Broker) (n : Nat) : List Delivery := b.deliveries.filter fun d => d.session = n

/-- What was sent on a session under a number; before confirms are on, nothing has one. -/
def numbered (b : Broker) (n : Nat) : List Delivery := (b.sentOn n).filter fun d => d.tag ≠ 0

/-- What was answered on a session. -/
def answers (b : Broker) (n : Nat) : List Confirm :=
  (b.confirms.filter fun r => r.session = n).map ConfirmRecord.confirm

section Log

variable {b b' : Broker} (n : Nat)

theorem sentOn_congr (h : b'.deliveries = b.deliveries) : b'.sentOn n = b.sentOn n := by
  rw [sentOn, h, sentOn]

theorem numbered_congr (h : b'.deliveries = b.deliveries) : b'.numbered n = b.numbered n := by
  rw [numbered, sentOn_congr n h, numbered]

theorem answers_congr (h : b'.confirms = b.confirms) : b'.answers n = b.answers n := by
  rw [answers, h, answers]

theorem sentOn_append {d : Delivery} (h : b'.deliveries = b.deliveries ++ [d]) :
    b'.sentOn n = b.sentOn n ++ if d.session = n then [d] else [] := by
  rw [sentOn, h, List.filter_append, ← sentOn]
  split_ifs with hd <;> simp [hd]

theorem numbered_append {d : Delivery} (h : b'.deliveries = b.deliveries ++ [d]) :
    b'.numbered n = b.numbered n ++ if d.session = n ∧ d.tag ≠ 0 then [d] else [] := by
  rw [numbered, sentOn_append n h, List.filter_append, ← numbered]
  split_ifs <;> simp_all

theorem length_numbered (b : Broker) : (b.numbered n).length ≤ (b.sentOn n).length :=
  List.length_filter_le ..

theorem answers_change (b : Broker) (m : Nat) (f : Session → Session)
    (queues : Dict String (List Delivery)) (cs : List Confirm) :
    (b.change m f queues (b.confirms ++ cs.map (ConfirmRecord.mk m))).answers n
      = b.answers n ++ if m = n then cs else [] := by
  rw [answers, change, List.filter_append, List.map_append, ← answers, List.filter_map, List.map_map]
  split_ifs with hmn <;> simp [Function.comp_def, hmn]

end Log

/-- What was sent on a session and no pass has taken in. -/
def untaken (b : Broker) (n : Nat) : List Settlement := ((b.session? n).map Session.queue).getD []

/-- How a broker comes to a state, and what session `n` has taken in by then. Calls come in any
order, and between them any session may take in the first `k` messages sent on it and report. -/
inductive Chronicle (n : Nat) : Broker → List Settlement → Prop where
  | start : Chronicle n .start []
  | configured {b : Broker} {taken : List Settlement} (script : Script) (reporting : Reporting)
    (delay : Span) (limit : Option Nat) (disconnected : Bool) : Chronicle n b taken →
    Chronicle n { b with script, reporting, delay, limit, disconnected } taken
  | openSession {b : Broker} {taken : List Settlement} : Chronicle n b taken →
    Chronicle n b.openSession.state taken
  | listen {b : Broker} {taken : List Settlement} (m listener : Nat) : Chronicle n b taken →
    Chronicle n (b.listen m listener) taken
  | enableConfirms {b : Broker} {taken : List Settlement} (m : Nat) : Chronicle n b taken →
    Chronicle n (b.enableConfirms m).state taken
  | declare {b : Broker} {taken : List Settlement} (m : Nat) (destination : String) :
    Chronicle n b taken → Chronicle n (b.declare m destination).state taken
  | transmit {b : Broker} {taken : List Settlement} (m : Nat) (destination : String)
    (properties : Properties) (body : ByteArray) : Chronicle n b taken →
    Chronicle n (b.transmit m destination properties body).state taken
  | close {b : Broker} {taken : List Settlement} (m : Nat) : Chronicle n b taken →
    Chronicle n (b.close m).state taken
  | discard {b : Broker} {taken : List Settlement} (m : Nat) : Chronicle n b taken →
    Chronicle n (b.discard m).state taken
  | clock {b : Broker} {taken : List Settlement} (waits now : Nat) (ready : List Nat)
    (due : Dict Nat (List Nat)) : Chronicle n b taken →
    Chronicle n { b with waits, now, ready, due } taken
  | pass {b : Broker} {taken : List Settlement} (k m : Nat) : Chronicle n b taken →
    Chronicle n (b.passFirst k m).1 (taken ++ if m = n then (b.untaken n).take k else [])

/-- Every state that a broker can come to has its chronicle. -/
theorem chronicle_of_reachable {idle : Broker → Broker → Prop} {b : Broker}
    (hidle : ∀ b b', idle b b' → ∃ heard, Interlude b heard b') (n : Nat) (h : Reachable idle b) :
    ∃ taken, Chronicle n b taken := by
  induction h with
  | start => exact ⟨[], .start⟩
  | configured script reporting delay limit disconnected _ ih =>
    exact ih.imp fun _ h => h.configured script reporting delay limit disconnected
  | openSession _ ih => exact ih.imp fun _ h => h.openSession
  | listen m listener _ ih => exact ih.imp fun _ h => h.listen m listener
  | enableConfirms m _ ih => exact ih.imp fun _ h => h.enableConfirms m
  | declare m destination _ ih => exact ih.imp fun _ h => h.declare m destination
  | transmit m destination properties body _ ih =>
    exact ih.imp fun _ h => h.transmit m destination properties body
  | close m _ ih => exact ih.imp fun _ h => h.close m
  | discard m _ ih => exact ih.imp fun _ h => h.discard m
  | @idle b _ hreachable hmoved ih =>
    obtain ⟨taken, h⟩ := ih
    obtain ⟨heard, hinter⟩ := hidle _ _ hmoved
    -- the passes that happen while somebody waits are among those of a chronicle
    clear hreachable hmoved
    induction hinter generalizing taken with
    | nothing => exact ⟨taken, h⟩
    | clock waits now ready due _ ih => exact ih _ (h.clock waits now ready due)
    | pass k m _ ih => exact ih _ (h.pass k m)

/-! ## The invariant -/

/-- A delivery with the ruling that the session has on it. -/
def Session.rule (s : Session) (d : Delivery) : Settlement := ⟨s.script d, d⟩

/-- What is never answered of these. -/
def withheld (xs : List Settlement) : List Settlement := xs.filter fun x => !x.settles

theorem withheld_append (xs ys : List Settlement) :
    withheld (xs ++ ys) = withheld xs ++ withheld ys := List.filter_append ..

theorem withheld_withheld (xs : List Settlement) : withheld (withheld xs) = withheld xs := by
  simp [withheld]

/-- A session on which `ds` were sent, which has taken in `taken`, reported it in `runs` by the
confirms `cs`, and lost the last ones, if any, when it ended. -/
structure Answering (ds : List Delivery) (cs : List Confirm) (taken lost : List Settlement)
    (runs : List (List Settlement)) (s : Session) : Prop where
  off : s.confirming = false → s.nextTag = 0 ∧ ds = []
  on : s.confirming = true → s.nextTag = UInt64.ofNat (ds.length + 1)
  ascending : ds.Pairwise fun d d' => d.tag < d'.tag
  below : ∀ d ∈ ds, d.tag.toNat ≤ ds.length
  order : ds.map s.rule = taken ++ (s.queue ++ lost)
  unbroken : s.closed = false → lost = []
  keyed : ∀ e ∈ s.pending.entries, e.1 = e.2.tag
  pending : s.pending.values = withheld taken
  answered : cs = runs.filterMap confirmOf
  reported : runs.flatten = taken.filter Settlement.settles
  peels : Peels (ds.map s.rule) runs (withheld taken ++ (s.queue ++ lost))
  single : s.reporting = .individual → ∀ run ∈ runs, run.length = 1

namespace Answering

variable {ds : List Delivery} {cs : List Confirm} {taken lost : List Settlement}
  {runs : List (List Settlement)} {s : Session}

theorem opened (script : Script) : Answering [] [] [] [] [] (.opened script) where
  off _ := ⟨rfl, rfl⟩
  on h := nomatch h
  ascending := .nil
  below _ hd := absurd hd List.not_mem_nil
  order := rfl
  unbroken _ := rfl
  keyed _ he := absurd he List.not_mem_nil
  pending := rfl
  answered := rfl
  reported := rfl
  peels := .none []
  single _ _ hrun := absurd hrun List.not_mem_nil

variable (h : Answering ds cs taken lost runs s)

include h

theorem listen (listener : Option Nat) : Answering ds cs taken lost runs { s with listener } :=
  { h with }

/-- Nothing is sent yet as confirms are turned on. -/
theorem enabled (b : Broker) (hoff : s.confirming = false) :
    Answering ds cs taken lost runs (s.enabled b) := by
  obtain rfl := (h.off hoff).2
  have hnone : taken ++ (s.queue ++ lost) = [] := h.order.symm
  obtain ⟨rfl, -⟩ := List.append_eq_nil_iff.1 hnone
  obtain rfl : runs = [] := by
    rcases runs with _ | ⟨run, runs⟩
    · rfl
    · obtain ⟨hrun, -⟩ := List.append_eq_nil_iff.1 h.reported
      exact absurd hrun (h.peels.uniform run List.mem_cons_self).nonempty
  exact { h with
    off := fun hon => nomatch hon
    on := fun _ => rfl
    single := fun _ _ hrun => absurd hrun List.not_mem_nil }

/-- What the end of the session finds in the queue is lost. -/
theorem shut : Answering ds cs taken (s.queue ++ lost) runs s.shut :=
  { h with unbroken := fun hopen => nomatch hopen }

theorem inOrder : s.InOrder where
  keyed := h.keyed
  ascending := by
    have hall : Ascending (taken ++ (s.queue ++ lost)) := h.order ▸ List.pairwise_map.2 h.ascending
    rw [h.pending]
    exact hall.sublist (List.filter_sublist.append (List.sublist_append_left s.queue lost))

theorem values_accept (k : Nat) :
    (s.accept k).pending.values = withheld taken ++ s.queue.take k := by
  rw [h.inOrder.values_accept, h.pending]

/-- What a pass takes in joins what is taken in, and what it reports comes out of what is left. -/
theorem passed (k : Nat) :
    Answering ds (cs ++ s.told k) (taken ++ s.queue.take k) lost
      (runs ++ reports s.reporting (s.accept k).pending.values) (s.passed k) where
  off := h.off
  on := h.on
  ascending := h.ascending
  below := h.below
  order := by
    rw [List.append_assoc, ← List.append_assoc (s.queue.take k)]
    exact (List.take_append_drop k s.queue).symm ▸ h.order
  unbroken := h.unbroken
  keyed := (h.inOrder.passed k).keyed
  pending := by
    rw [h.inOrder.values_passed, h.pending, withheld_append]
    change withheld (withheld taken ++ s.queue.take k) = _
    rw [withheld_append, withheld_withheld]
  answered := by
    rw [List.filterMap_append, ← h.answered]
    rfl
  reported := by
    have hnone : (withheld taken).filter Settlement.settles = [] := by simp [withheld]
    rw [List.flatten_append, flatten_reports, h.reported, h.values_accept, List.filter_append,
      List.filter_append, hnone, List.nil_append]
  peels := by
    have hpass := (peels_reports s.reporting (s.accept k).pending.values).append
      (s.queue.drop k ++ lost)
    rw [h.values_accept] at hpass ⊢
    change Peels _ _ (withheld (withheld taken ++ s.queue.take k) ++ _) at hpass
    rw [withheld_append, withheld_withheld, ← withheld_append, List.append_assoc,
      ← List.append_assoc (s.queue.take k), List.take_append_drop] at hpass
    exact h.peels.trans hpass
  single hmode run hrun := by
    rcases List.mem_append.1 hrun with hrun | hrun
    · exact h.single hmode run hrun
    · rw [show s.reporting = .individual from hmode] at hrun
      obtain ⟨x, -, rfl⟩ := List.mem_map.1 hrun
      rfl

/-- A message sent with confirms on gets the tag after all others. -/
theorem sent (hon : s.confirming = true) (hopen : s.closed = false)
    (hfew : ds.length + 1 < 2 ^ 64) {d : Delivery} (hd : d.tag = s.nextTag) :
    Answering (ds ++ [d]) cs taken [] runs (s.sent d) := by
  have htag : d.tag.toNat = ds.length + 1 := by
    rw [hd, h.on hon]
    exact UInt64.toNat_ofNat_of_lt' hfew
  obtain rfl := h.unbroken hopen
  have hmap : (ds ++ [d]).map (s.sent d).rule = ds.map s.rule ++ [s.rule d] := List.map_append
  refine { h with
    off := fun hoff => absurd (hon.symm.trans hoff) Bool.noConfusion
    on := fun _ => ?_
    ascending := ?_
    below := ?_
    order := ?_
    unbroken := fun _ => rfl
    peels := ?_ }
  · rw [tag_append, ← h.on hon]
    rfl
  · refine List.pairwise_append.2 ⟨h.ascending, List.pairwise_singleton _ _, fun e he d' hd' => ?_⟩
    have := h.below e he
    rw [List.mem_singleton.1 hd', UInt64.lt_iff_toNat_lt]
    omega
  · intro e he
    rw [List.length_append, List.length_singleton]
    rcases List.mem_append.1 he with he | he
    · exact Nat.le_succ_of_le (h.below e he)
    · rw [List.mem_singleton.1 he, htag]
  · rw [hmap, h.order, List.append_nil, List.append_nil, List.append_assoc]
    rfl
  · have hpeels := h.peels.append [s.rule d]
    rw [List.append_nil, List.append_assoc] at hpeels
    rw [hmap, List.append_nil]
    exact hpeels

end Answering

/-- The log has of session `n` what `Answering` says, as long as fewer than `2 ^ 64` messages were
sent on it: from then on tags repeat. -/
def Logged (n : Nat) (b : Broker) (taken : List Settlement) : Prop :=
  (b.sentOn n).length < 2 ^ 64 → match b.session? n with
  | none => b.sentOn n = [] ∧ b.answers n = [] ∧ taken = []
  | some s => ∃ lost runs, Answering (b.numbered n) (b.answers n) taken lost runs s

section Logged

variable {n m : Nat} {b b' : Broker} {taken : List Settlement}

theorem logged_of_some {s : Session} (hs : b.session? n = some s) :
    Logged n b taken ↔ ((b.sentOn n).length < 2 ^ 64 →
      ∃ lost runs, Answering (b.numbered n) (b.answers n) taken lost runs s) := by
  unfold Logged
  rw [hs]

theorem Logged.congr (h : Logged n b taken) (hsession : b'.session? n = b.session? n)
    (hsent : b'.sentOn n = b.sentOn n) (hanswers : b'.answers n = b.answers n) :
    Logged n b' taken := by
  unfold Logged numbered at h ⊢
  rwa [hsession, hsent, hanswers]

/-- A session may change in what its answers do not depend on. -/
theorem Logged.updated {f : Session → Session} (h : Logged n b taken)
    (hsessions : b'.sessions = (b.update m f).sessions) (hdeliveries : b'.deliveries = b.deliveries)
    (hconfirms : b'.confirms = b.confirms)
    (hf : ∀ s lost runs, b.session? m = some s →
      Answering (b.numbered m) (b.answers m) taken lost runs s →
      ∃ lost', Answering (b.numbered m) (b.answers m) taken lost' runs (f s)) :
    Logged n b' taken := by
  have hsent := sentOn_congr n hdeliveries
  have hanswers := answers_congr n hconfirms
  have hsession := session?_updated hsessions n
  by_cases hmn : m = n
  · subst hmn
    rw [if_pos rfl] at hsession
    cases hs : b.session? m with
    | none =>
      refine h.congr ?_ hsent hanswers
      rw [hsession, hs, Option.map_none]
    | some s =>
      rw [hs, Option.map_some] at hsession
      refine (logged_of_some hsession).2 fun hfew => ?_
      rw [hsent] at hfew
      rw [numbered_congr m hdeliveries, hanswers]
      obtain ⟨lost, runs, hall⟩ := (logged_of_some hs).1 h hfew
      obtain ⟨lost', hall'⟩ := hf s lost runs hs hall
      exact ⟨lost', runs, hall'⟩
  · rw [if_neg hmn] at hsession
    exact h.congr hsession hsent hanswers

theorem Logged.openSession (h : Logged n b taken) : Logged n b.openSession.state taken := by
  rcases openSession_cases b with ⟨-, heq⟩ | ⟨-, heq⟩
  · rw [heq]
    exact h
  rw [heq]
  have hpush := session?_push b (.opened b.script) n
  split_ifs at hpush with hn
  · have hnone : b.session? n = none := by
      rw [hn]
      exact List.getElem?_eq_none (Nat.le_refl _)
    refine (logged_of_some hpush).2 fun hfew => ⟨[], [], ?_⟩
    unfold Logged at h
    rw [hnone] at h
    obtain ⟨hsent, hanswers, rfl⟩ := h hfew
    have hnumbered : b.numbered n = [] := by
      unfold numbered
      rw [hsent, List.filter_nil]
    change Answering (b.numbered n) (b.answers n) [] [] [] _
    rw [hnumbered, hanswers]
    exact .opened b.script
  · exact h.congr hpush rfl rfl

theorem Logged.listen (h : Logged n b taken) (listener : Nat) :
    Logged n (b.listen m listener) taken := by
  have heq : b.listen m listener = b.change m (fun s => { s with listener := some listener })
      b.queues b.confirms := update_eq ..
  rw [heq]
  exact h.updated rfl rfl rfl fun _ lost _ _ hall => ⟨lost, hall.listen _⟩

theorem Logged.enableConfirms (h : Logged n b taken) :
    Logged n (b.enableConfirms m).state taken := by
  cases hs : b.session? m with
  | none =>
    unfold Broker.enableConfirms openSession?
    rw [hs]
    exact h
  | some s =>
    cases hclosed : s.closed with
    | true =>
      unfold Broker.enableConfirms openSession?
      rw [hs]
      simp only [hclosed, ↓reduceIte]
      exact h
    | false =>
      cases hoff : s.confirming with
      | true =>
        unfold Broker.enableConfirms
        rw [openSession?_of_session hs hclosed]
        simp only [hoff, ↓reduceIte]
        exact h
      | false =>
        rw [enableConfirms_eq hs hclosed hoff]
        refine h.updated (f := Session.enabled b) rfl rfl rfl fun s' lost _ hs' hall => ?_
        obtain rfl := Option.some.inj (hs.symm.trans hs')
        exact ⟨lost, hall.enabled b hoff⟩

theorem Logged.shut (h : Logged n b taken) : Logged n (b.shut m) taken := by
  obtain ⟨closed, ready, due, heq⟩ := shut_eq b m
  rw [heq]
  exact h.updated (f := Session.shut) rfl rfl rfl fun _ _ _ _ hall => ⟨_, hall.shut⟩

theorem Logged.close (h : Logged n b taken) : Logged n (b.close m).state taken := by
  unfold Broker.close
  split
  · exact h
  · exact h.shut

theorem Logged.discard (h : Logged n b taken) : Logged n (b.discard m).state taken := by
  unfold Broker.discard
  split
  · exact h
  · exact h.shut

theorem Logged.transmit (h : Logged n b taken) (destination : String) (properties : Properties)
    (body : ByteArray) : Logged n (b.transmit m destination properties body).state taken := by
  rcases transmit_cases b m destination properties body with
    ⟨fault, transmits, heq⟩ | ⟨s, transmits, hs, hopen, hsent⟩
  · rw [heq]
    exact h.congr (session?_congr rfl n) rfl rfl
  generalize hd : b.sentAs m s.nextTag destination properties body = d at hsent
  obtain ⟨hm, htag⟩ : d.session = m ∧ d.tag = s.nextTag := by
    rw [← hd]
    exact ⟨rfl, rfl⟩
  generalize hb' : (b.transmit m destination properties body).state = b'
  have hdeliveries : b'.deliveries = b.deliveries ++ [d] := by
    rcases hsent with ⟨-, ready, heq⟩ | ⟨-, heq⟩
    · rw [← hb', heq]
    · rw [← hb', heq]
      rfl
  have hsent' := sentOn_append n hdeliveries
  have hnumbered := numbered_append n hdeliveries
  have hanswers : b'.answers n = b.answers n := by
    rcases hsent with ⟨-, ready, heq⟩ | ⟨-, heq⟩
    · rw [← hb', heq]
      rfl
    · rw [← hb', heq]
      rfl
  have hsession : b'.session? n
      = if m = n ∧ s.confirming = true then some (s.sent d) else b.session? n := by
    rcases hsent with ⟨hon, ready, heq⟩ | ⟨hoff, heq⟩
    · have hsessions : b'.sessions = (b.update m (Session.sent d)).sessions := by rw [← hb', heq]
      rw [session?_updated hsessions]
      split_ifs <;> simp_all
    · have hsessions : b'.sessions = b.sessions := by
        rw [← hb', heq]
        rfl
      rw [session?_congr hsessions, if_neg (by simp [hoff])]
  rw [hm] at hsent' hnumbered
  by_cases hmn : m = n
  · subst hmn
    rw [if_pos rfl] at hsent'
    have hfewer : (b'.sentOn m).length < 2 ^ 64 → (b.sentOn m).length + 1 < 2 ^ 64 := by
      rw [hsent', List.length_append, List.length_singleton]
      exact id
    cases hon : s.confirming with
    | true =>
      rw [if_pos ⟨rfl, hon⟩] at hsession
      refine (logged_of_some hsession).2 fun hfew => ⟨[], ?_⟩
      have hfew := hfewer hfew
      obtain ⟨lost, runs, hall⟩ := (logged_of_some hs).1 h (Nat.lt_of_succ_lt hfew)
      have hlen := Nat.lt_of_le_of_lt (Nat.succ_le_succ (length_numbered m b)) hfew
      have hnext : (s.nextTag).toNat = (b.numbered m).length + 1 := by
        rw [hall.on hon]
        exact UInt64.toNat_ofNat_of_lt' hlen
      have hne : d.tag ≠ 0 := by
        rw [htag, ne_eq, ← UInt64.toNat_inj, hnext]
        exact Nat.succ_ne_zero _
      refine ⟨runs, ?_⟩
      rw [hnumbered, if_pos ⟨rfl, hne⟩, hanswers]
      exact hall.sent hon hopen hlen htag
    | false =>
      rw [if_neg (by simp [hon]), hs] at hsession
      refine (logged_of_some hsession).2 fun hfew => ?_
      obtain ⟨lost, runs, hall⟩ := (logged_of_some hs).1 h (Nat.lt_of_succ_lt (hfewer hfew))
      refine ⟨lost, runs, ?_⟩
      rw [hnumbered, if_neg (by simp [htag, (hall.off hon).1]), List.append_nil, hanswers]
      exact hall
  · rw [if_neg fun hand => hmn hand.1] at hsession
    rw [if_neg hmn, List.append_nil] at hsent'
    exact h.congr hsession hsent' hanswers

theorem Logged.passFirst (h : Logged n b taken) (k : Nat) :
    Logged n (b.passFirst k m).1 (taken ++ if m = n then (b.untaken n).take k else []) := by
  cases hs : b.session? m with
  | none =>
    have hnone : (if m = n then (b.untaken n).take k else []) = [] := by
      split_ifs with hmn
      · rw [← hmn, untaken, hs]
        exact List.take_nil
      · rfl
    rw [passFirst_none hs, hnone, List.append_nil]
    exact h
  | some s =>
    rw [passFirst_exact hs]
    have hsession := session?_change b m (fun _ => s.passed k)
      (kept b.queues (accepted (s.accept k).pending.values))
      (b.confirms ++ (s.told k).map (ConfirmRecord.mk m)) n
    have hanswers := answers_change n b m (fun _ => s.passed k)
      (kept b.queues (accepted (s.accept k).pending.values)) (s.told k)
    by_cases hmn : m = n
    · subst hmn
      rw [if_pos rfl, hs, Option.map_some] at hsession
      refine (logged_of_some hsession).2 fun hfew => ?_
      obtain ⟨lost, runs, hall⟩ := (logged_of_some hs).1 h hfew
      refine ⟨lost, runs ++ reports s.reporting (s.accept k).pending.values, ?_⟩
      rw [hanswers, if_pos rfl, if_pos rfl, untaken, hs]
      exact hall.passed k
    · rw [if_neg hmn] at hsession hanswers ⊢
      rw [List.append_nil] at hanswers ⊢
      exact h.congr hsession rfl hanswers

end Logged

theorem Chronicle.logged {n : Nat} {b : Broker} {taken : List Settlement}
    (h : Chronicle n b taken) : Logged n b taken := by
  induction h with
  | start =>
    intro _
    cases n <;> exact ⟨rfl, rfl, rfl⟩
  | configured script reporting delay limit disconnected _ ih =>
    exact ih.congr (session?_congr rfl n) rfl rfl
  | openSession _ ih => exact ih.openSession
  | listen m listener _ ih => exact ih.listen listener
  | enableConfirms m _ ih => exact ih.enableConfirms
  | declare m destination _ ih =>
    unfold Broker.declare
    split
    · exact ih
    · exact ih.congr (session?_congr rfl n) rfl rfl
  | transmit m destination properties body _ ih => exact ih.transmit destination properties body
  | close m _ ih => exact ih.close
  | discard m _ ih => exact ih.discard
  | clock waits now ready due _ ih => exact ih.congr (session?_congr rfl n) rfl rfl
  | pass k m _ ih => exact ih.passFirst k

/-! ## What the log says -/

/-- What is said of the messages `ds` sent on a session, of which it has taken in `taken`, is true,
in order and said once. -/
structure Truthful (ds : List Delivery) (taken : List Settlement) (s : Session)
    (cs : List Confirm) : Prop where
  /-- What was sent has tags of its own, ascending. -/
  distinct : ds.Pairwise fun d d' => d.tag < d'.tag
  /-- What was sent first was taken in first, and nothing is skipped. -/
  order : ∃ rest, ds.map s.rule = taken ++ rest
  ascending : cs.Pairwise fun c c' => c.tag < c'.tag
  /-- What the script settles is spoken for once, with the verdict of the script. -/
  once : ∀ x ∈ taken, x.settles = true →
    ∃ r, ((spoken (ds.map Delivery.tag) cs).filter fun r => x.tag ∈ r.2) = [r]
      ∧ r.1.verdict = x.ruling.verdict
  /-- What is withheld or not taken in is not spoken for. -/
  never : ∀ d ∈ ds, (∀ x ∈ taken, x.delivery = d → x.settles = false) →
    ∀ r ∈ spoken (ds.map Delivery.tag) cs, d.tag ∉ r.2
  /-- Nothing below a multiple confirm is withheld or not taken in. -/
  level : ∀ c ∈ cs, c.multiple = true → ∀ d ∈ ds, d.tag ≤ c.tag →
    ∃ x ∈ taken, x.delivery = d ∧ x.settles = true
  single : s.reporting = .individual → ∀ c ∈ cs, c.multiple = false

theorem Answering.truthful {ds : List Delivery} {cs : List Confirm} {taken lost : List Settlement}
    {runs : List (List Settlement)} {s : Session} (h : Answering ds cs taken lost runs s) :
    Truthful ds taken s cs := by
  have hasc : Ascending (ds.map s.rule) := List.pairwise_map.2 h.ascending
  have hreported : Ascending runs.flatten := by
    rw [h.reported]
    exact (h.order ▸ hasc).sublist (List.filter_sublist.trans (List.sublist_append_left taken _))
  have hspoken : spoken (ds.map Delivery.tag) cs
      = (runs.filterMap confirmed).map fun r => (r.1, r.2.map Settlement.tag) := by
    have heq := h.peels.spoken hasc
    rwa [List.map_map, ← h.answered] at heq
  have hsettled : ∀ {x : Settlement}, x ∈ runs.flatten ↔ x ∈ taken ∧ x.settles = true := by
    intro x
    rw [h.reported, List.mem_filter]
  refine ⟨h.ascending, ⟨_, h.order⟩, ?_, ?_, ?_, ?_, ?_⟩
  · rw [h.answered]
    exact ascending_confirms hreported
  · intro x hx hsettles
    obtain ⟨r, hr, hverdict⟩ := one_confirmed h.peels.uniform hreported (hsettled.2 ⟨hx, hsettles⟩)
    rw [hspoken, List.filter_map]
    exact ⟨_, congrArg (List.map _) hr, hverdict⟩
  · intro d hd hnot r hr hmem
    rw [hspoken] at hr
    obtain ⟨⟨c, run⟩, hrun, rfl⟩ := List.mem_map.1 hr
    obtain ⟨x, hx, htag⟩ := List.mem_map.1 hmem
    obtain ⟨htaken, hsettles⟩ :=
      hsettled.1 (List.mem_flatten.2 ⟨run, (exists_of_mem_confirmed hrun).1, hx⟩)
    have hmem : x ∈ ds.map s.rule := h.order ▸ List.mem_append_left _ htaken
    obtain ⟨d', hd', rfl⟩ := List.mem_map.1 hmem
    have hnodup : (ds.map Delivery.tag).Nodup :=
      List.pairwise_map.2 (h.ascending.imp fun hlt => Std.ne_of_lt hlt)
    obtain rfl : d' = d := List.inj_on_of_nodup_map hnodup hd' hd htag
    rw [hnot _ htaken rfl] at hsettles
    exact Bool.noConfusion hsettles
  · intro c hc hmany d hd hle
    rw [h.answered] at hc
    obtain ⟨run, hrun, hc⟩ := List.mem_filterMap.1 hc
    obtain ⟨y, hy, rfl⟩ := last_of_confirmOf hc
    have hrule := List.mem_map_of_mem (f := s.rule) hd
    have hbelow := h.peels.level hasc hrun (of_decide_eq_true hmany) hy hrule hle
    exact ⟨s.rule d, (hsettled.1 hbelow).1, rfl, (hsettled.1 hbelow).2⟩
  · intro hmode c hc
    rw [h.answered] at hc
    obtain ⟨run, hrun, hc⟩ := List.mem_filterMap.1 hc
    obtain ⟨x, -, rfl⟩ := last_of_confirmOf hc
    have := h.single hmode run hrun
    exact decide_eq_false (by omega)

/-- Whatever happens on a broker, what is answered on a session is true, in order and said once. -/
theorem Chronicle.answers_truthfully {n : Nat} {b : Broker} {taken : List Settlement} {s : Session}
    (h : Chronicle n b taken) (hs : b.session? n = some s) (hfew : (b.sentOn n).length < 2 ^ 64) :
    Truthful (b.numbered n) taken s (b.answers n) := by
  obtain ⟨lost, runs, hall⟩ := (logged_of_some hs).1 h.logged hfew
  exact hall.truthful

/-- A broker that reports runs, says nothing of the third message of a session and refuses the
fourth. -/
def choosy : Broker :=
  { start with
    script := fun d => if d.tag = 3 then .withhold else if d.tag = 4 then .nack else .ack
    reporting := .cumulative }

/-- Four messages, and two passes that take in two of them each. -/
def choosyAfterFour : Broker :=
  let send := fun b : Broker => (b.transmit 1 "q" ⟨true, "", "", 1, ∅⟩ .empty).state
  let b := ((choosy.openSession.state.enableConfirms 1).state.declare 1 "q").state
  ((send (send (send (send b)))).passFirst 2 1).1.passFirst 2 1 |>.1

theorem answers_truthfully_choosy :
    choosyAfterFour.answers 1 = [.ack 2 true, .nack 4 false]
      ∧ ∃ taken s, taken.map Settlement.tag = [1, 2, 3, 4]
        ∧ Truthful (choosyAfterFour.numbered 1) taken s (choosyAfterFour.answers 1) := by
  have hstart : Chronicle 1 choosy [] :=
    .configured choosy.script .cumulative choosy.delay choosy.limit choosy.disconnected .start
  have hready := ((hstart.openSession.enableConfirms 1).declare 1 "q")
  have send {b : Broker} {taken : List Settlement} (h : Chronicle 1 b taken) :=
    h.transmit 1 "q" ⟨true, "", "", 1, ∅⟩ .empty
  have hafter : Chronicle 1 choosyAfterFour _ :=
    ((send (send (send (send hready)))).pass 2 1).pass 2 1
  have hsome : (choosyAfterFour.session? 1).isSome = true := by decide +kernel
  obtain ⟨s, hs⟩ := Option.isSome_iff_exists.1 hsome
  exact ⟨by decide +kernel, _, s, by decide +kernel,
    hafter.answers_truthfully hs (by decide +kernel)⟩

end ConfirmedDelivery.Broker
