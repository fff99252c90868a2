import ConfirmedDelivery.Proofs.Broker.Calls
import ConfirmedDelivery.Proofs.Broker.Schedule

/-!
# What sessions hold

What a session holds it got itself: in every state that a broker can come to, the deliveries that a
session has taken in or is to take in were sent on it (`ofItself_of_reachable`). A pass brings
nothing new (`contents_passed`), and what it leaves behind is never answered (`tidy_of_reachable`).
-/

namespace ConfirmedDelivery.Broker

/-- The states that a broker can come to, if `idle` is what may happen to it while no call runs. -/
inductive Reachable (idle : Broker → Broker → Prop) : Broker → Prop where
  | start : Reachable idle .start
  | configured {b : Broker} (script : Script) (reporting : Reporting) (delay : Span)
    (limit : Option Nat) (disconnected : Bool) :
    Reachable idle b → Reachable idle { b with script, reporting, delay, limit, disconnected }
  | openSession {b : Broker} : Reachable idle b → Reachable idle b.openSession.state
  | listen {b : Broker} (n listener : Nat) : Reachable idle b → Reachable idle (b.listen n listener)
  | enableConfirms {b : Broker} (n : Nat) :
    Reachable idle b → Reachable idle (b.enableConfirms n).state
  | declare {b : Broker} (n : Nat) (destination : String) :
    Reachable idle b → Reachable idle (b.declare n destination).state
  | transmit {b : Broker} (n : Nat) (destination : String) (properties : Properties)
    (body : ByteArray) :
    Reachable idle b → Reachable idle (b.transmit n destination properties body).state
  | close {b : Broker} (n : Nat) : Reachable idle b → Reachable idle (b.close n).state
  | discard {b : Broker} (n : Nat) : Reachable idle b → Reachable idle (b.discard n).state
  | idle {b b' : Broker} : Reachable idle b → idle b b' → Reachable idle b'

/-! ## Contents -/

/-- What a session has taken in and not yet answered, and what it is to take in. -/
def Session.contents (s : Session) : List Settlement := s.pending.values ++ s.queue

theorem mem_foldl_insert : ∀ (xs : List Settlement) {p : Dict Tag Settlement} {x : Settlement},
    x ∈ (xs.foldl (fun p x => p.insert x.tag x) p).values → x ∈ p.values ∨ x ∈ xs
  | [], _, _, h => .inl h
  | y :: ys, p, x, h => by
    rcases mem_foldl_insert ys h with h | h
    · obtain ⟨e, he, rfl⟩ := List.mem_map.1 h
      rcases Dict.mem_entries_insert.1 he with rfl | ⟨he, -⟩
      · exact .inr List.mem_cons_self
      · exact .inl (List.mem_map_of_mem he)
    · exact .inr (List.mem_cons_of_mem _ h)

theorem contents_accept {s : Session} {k : Nat} {x : Settlement}
    (h : x ∈ (s.accept k).pending.values) : x ∈ s.contents := by
  rcases mem_foldl_insert _ h with h | h
  · exact List.mem_append_left _ h
  · exact List.mem_append_right _ (List.mem_of_mem_take h)

theorem contents_passed {s : Session} {k : Nat} {x : Settlement} (h : x ∈ (s.passed k).contents) :
    x ∈ s.contents := by
  rcases List.mem_append.1 h with h | h
  · obtain ⟨e, he, rfl⟩ := List.mem_map.1 h
    exact contents_accept (List.mem_map_of_mem (List.mem_of_mem_filter he))
  · exact List.mem_append_right _ (List.mem_of_mem_drop h)

/-- What each session holds was sent on that session. -/
def OfItself (b : Broker) : Prop :=
  ∀ m s, b.session? m = some s → ∀ x ∈ s.contents, x.delivery.session = m
    ∧ x.delivery ∈ b.deliveries

/-- It remains so as long as a session holds nothing but what it held before, or what was sent on
it. -/
theorem OfItself.mono {b b' : Broker} (h : OfItself b) (hlog : b.deliveries ⊆ b'.deliveries)
    (hcontents : ∀ m s', b'.session? m = some s' → ∀ x ∈ s'.contents,
      (∃ s, b.session? m = some s ∧ x ∈ s.contents)
        ∨ x.delivery.session = m ∧ x.delivery ∈ b'.deliveries) : OfItself b' := by
  intro m s' hs' x hx
  rcases hcontents m s' hs' x hx with ⟨s, hs, hx⟩ | hnew
  · obtain ⟨hm, hmem⟩ := h m s hs x hx
    exact ⟨hm, hlog hmem⟩
  · exact hnew

theorem OfItself.update {b b' : Broker} {n : Nat} {f : Session → Session} (h : OfItself b)
    (hsessions : b'.sessions = (b.update n f).sessions) (hlog : b.deliveries ⊆ b'.deliveries)
    (hf : ∀ s, ∀ x ∈ (f s).contents,
      x ∈ s.contents ∨ x.delivery.session = n ∧ x.delivery ∈ b'.deliveries) :
    OfItself b' := by
  refine h.mono hlog fun m s' hs' x hx => ?_
  rw [session?_congr hsessions, session?_update] at hs'
  split_ifs at hs' with hnm
  · obtain ⟨s, hs, rfl⟩ := Option.map_eq_some_iff.1 hs'
    rcases hf s x hx with hx | hnew
    · exact .inl ⟨s, hs, hx⟩
    · exact .inr (hnm ▸ hnew)
  · exact .inl ⟨s', hs', hx⟩

section Calls

variable {b : Broker} (n : Nat)

theorem OfItself.openSession (h : OfItself b) : OfItself b.openSession.state := by
  rcases openSession_cases b with ⟨-, heq⟩ | ⟨-, heq⟩
  · rw [heq]
    exact h
  · rw [heq]
    refine h.mono (List.Subset.refl _) fun m s' hs' x hx => ?_
    rw [session?_push] at hs'
    split_ifs at hs'
    · obtain rfl := Option.some.inj hs'
      exact absurd hx List.not_mem_nil
    · exact .inl ⟨s', hs', hx⟩

theorem OfItself.enableConfirms (h : OfItself b) : OfItself (b.enableConfirms n).state := by
  unfold Broker.enableConfirms
  split
  · exact h
  · split_ifs
    · exact h
    · refine h.update rfl ?_ fun _ _ hx => .inl hx
      rw [update_eq]
      exact List.Subset.refl _

theorem OfItself.declare (h : OfItself b) (destination : String) :
    OfItself (b.declare n destination).state := by
  unfold Broker.declare
  split
  · exact h
  · exact h

theorem OfItself.transmit (h : OfItself b) (destination : String) (properties : Properties)
    (body : ByteArray) : OfItself (b.transmit n destination properties body).state := by
  rcases transmit_cases b n destination properties body with
    ⟨fault, transmits, heq⟩ | ⟨s, transmits, -, -, ⟨-, ready, heq⟩ | ⟨-, heq⟩⟩
  · rw [heq]
    exact h
  · rw [heq]
    refine h.update (f := Session.sent _) rfl (List.subset_append_left _ _) fun s' x hx => ?_
    rcases List.mem_append.1 hx with hx | hx
    · exact .inl (List.mem_append_left _ hx)
    · rcases List.mem_append.1 hx with hx | hx
      · exact .inl (List.mem_append_right _ hx)
      · rw [List.mem_singleton.1 hx]
        exact .inr ⟨rfl, List.mem_append_right _ (List.mem_singleton.2 rfl)⟩
  · rw [heq]
    refine h.mono (List.subset_append_left _ _) fun m s' hs' x hx => ?_
    have hsame := session?_congr (show (({ b with
      attempts := Tally.bump properties.messageId b.attempts
      deliveries := b.deliveries ++ [b.sentAs n s.nextTag destination properties body]
      transmits } : Broker).store (b.sentAs n s.nextTag destination properties body)).sessions
        = b.sessions from rfl) m
    exact .inl ⟨s', hsame ▸ hs', hx⟩

theorem OfItself.shut (h : OfItself b) : OfItself (b.shut n) := by
  refine h.update (n := n) (f := Session.shut) ?_ ?_ fun s x hx => ?_
  · rfl
  · unfold Broker.shut
    rw [update_eq]
    exact List.Subset.refl _
  · unfold Session.contents Session.shut at hx
    rw [List.append_nil] at hx
    exact .inl (List.mem_append_left _ hx)

theorem OfItself.close (h : OfItself b) : OfItself (b.close n).state := by
  unfold Broker.close
  split
  · exact h
  · exact h.shut n

theorem OfItself.discard (h : OfItself b) : OfItself (b.discard n).state := by
  unfold Broker.discard
  split
  · exact h
  · exact h.shut n

theorem OfItself.passFirst (h : OfItself b) (k : Nat) : OfItself (b.passFirst k n).1 := by
  rcases hs : b.session? n with _ | s
  · rw [passFirst_none hs]
    exact h
  · obtain ⟨queues, confirms, heq, -⟩ := passFirst_eq hs k
    rw [heq]
    refine h.mono (List.Subset.refl _) fun m s' hs' x hx => ?_
    rw [session?_change] at hs'
    split_ifs at hs' with hnm
    · obtain ⟨_, -, rfl⟩ := Option.map_eq_some_iff.1 hs'
      exact .inl ⟨s, hnm ▸ hs, contents_passed hx⟩
    · exact .inl ⟨s', hs', hx⟩

end Calls

theorem OfItself.interlude {b b' : Broker} {heard : List Heard} (h : OfItself b)
    (hidle : Interlude b heard b') : OfItself b' := by
  induction hidle with
  | nothing => exact h
  | clock waits now ready due _ ih => exact ih h
  | pass k n _ ih => exact ih (h.passFirst n k)

theorem ofItself_of_reachable {idle : Broker → Broker → Prop} {b : Broker}
    (hidle : ∀ b b', idle b b' → ∃ heard, Interlude b heard b') (h : Reachable idle b) :
    OfItself b := by
  induction h with
  | start =>
    intro m s hs
    have := lt_of_session? hs
    simp only [opened, Broker.start, List.length_nil] at this
    omega
  | configured _ _ _ _ _ _ ih => exact ih
  | openSession _ ih => exact ih.openSession
  | listen n _ _ ih =>
    refine ih.update rfl ?_ fun _ _ hx => .inl hx
    unfold Broker.listen
    rw [update_eq]
    exact List.Subset.refl _
  | enableConfirms n _ ih => exact ih.enableConfirms n
  | declare n destination _ ih => exact ih.declare n destination
  | transmit n destination properties body _ ih => exact ih.transmit n destination properties body
  | close n _ ih => exact ih.close n
  | discard n _ ih => exact ih.discard n
  | idle _ hmoved ih =>
    obtain ⟨heard, hinter⟩ := hidle _ _ hmoved
    exact ih.interlude hinter

/-! ## Leftovers -/

/-- What a session has taken in and kept is withheld, and once it is closed there is nothing left to
take in. -/
structure Session.Tidy (s : Session) : Prop where
  withheld : ∀ x ∈ s.pending.values, x.settles = false
  empty : s.closed = true → s.queue = []

/-- What a pass leaves of a session was withheld. -/
theorem withheld_passed (s : Session) (k : Nat) :
    ∀ x ∈ (s.passed k).pending.values, x.settles = false := by
  intro x hx
  obtain ⟨e, he, rfl⟩ := List.mem_map.1 hx
  simpa using (List.mem_filter.1 he).2

theorem Session.Tidy.passed {s : Session} (h : s.Tidy) (k : Nat) : (s.passed k).Tidy where
  withheld := withheld_passed s k
  empty hclosed := by
    change s.queue.drop k = []
    rw [h.empty hclosed, List.drop_nil]

/-- So are all sessions. -/
def Tidy (b : Broker) : Prop := ∀ m s, b.session? m = some s → s.Tidy

section Tidy

variable {b b' : Broker} {n : Nat}

theorem Tidy.congr (h : Tidy b) (hsessions : b'.sessions = b.sessions) : Tidy b' := fun m s hs =>
  h m s ((session?_congr hsessions m).symm.trans hs)

theorem Tidy.update {f : Session → Session} (h : Tidy b)
    (hsessions : b'.sessions = (b.update n f).sessions)
    (hf : ∀ s, b.session? n = some s → s.Tidy → (f s).Tidy) : Tidy b' := by
  intro m s' hs'
  rw [session?_updated hsessions] at hs'
  split_ifs at hs' with hnm
  · obtain ⟨s, hs, rfl⟩ := Option.map_eq_some_iff.1 hs'
    exact hf s (hnm ▸ hs) (h m s hs)
  · exact h m s' hs'

theorem Tidy.openSession (h : Tidy b) : Tidy b.openSession.state := by
  rcases openSession_cases b with ⟨-, heq⟩ | ⟨-, heq⟩
  · rw [heq]
    exact h
  · rw [heq]
    intro m s hs
    rw [session?_push] at hs
    split_ifs at hs
    · obtain rfl := Option.some.inj hs
      exact ⟨fun x hx => absurd hx List.not_mem_nil, fun _ => rfl⟩
    · exact h m s hs

theorem Tidy.transmit (h : Tidy b) (destination : String) (properties : Properties)
    (body : ByteArray) : Tidy (b.transmit n destination properties body).state := by
  rcases transmit_cases b n destination properties body with
    ⟨fault, transmits, heq⟩ | ⟨s, transmits, hs, hopen, ⟨-, ready, heq⟩ | ⟨-, heq⟩⟩
  · rw [heq]
    exact h
  · rw [heq]
    refine h.update (f := Session.sent _) rfl fun s' hs' ht => ⟨ht.withheld, fun hclosed => ?_⟩
    obtain rfl := Option.some.inj (hs.symm.trans hs')
    exact absurd (hopen.symm.trans hclosed) Bool.false_ne_true
  · rw [heq]
    exact h.congr rfl

theorem Tidy.shut (h : Tidy b) : Tidy (b.shut n) :=
  h.update (n := n) (f := Session.shut) rfl fun _ _ ht => ⟨ht.withheld, fun _ => rfl⟩

theorem Tidy.passFirst (h : Tidy b) (k : Nat) : Tidy (b.passFirst k n).1 := by
  rcases hs : b.session? n with _ | s
  · rw [passFirst_none hs]
    exact h
  · obtain ⟨queues, confirms, heq, -⟩ := passFirst_eq hs k
    rw [heq]
    intro m s' hs'
    rw [session?_change] at hs'
    split_ifs at hs' with hnm
    · obtain ⟨_, -, rfl⟩ := Option.map_eq_some_iff.1 hs'
      exact (h n s hs).passed k
    · exact h m s' hs'

theorem Tidy.interlude {heard : List Heard} (h : Tidy b) (hidle : Interlude b heard b') :
    Tidy b' := by
  induction hidle with
  | nothing => exact h
  | clock waits now ready due _ ih => exact ih (h.congr rfl)
  | pass k n _ ih => exact ih (h.passFirst k)

end Tidy

theorem tidy_of_reachable {idle : Broker → Broker → Prop} {b : Broker}
    (hidle : ∀ b b', idle b b' → ∃ heard, Interlude b heard b') (h : Reachable idle b) :
    Tidy b := by
  induction h with
  | start =>
    intro m s hs
    have := lt_of_session? hs
    simp only [opened, Broker.start, List.length_nil] at this
    omega
  | configured _ _ _ _ _ _ ih => exact ih.congr rfl
  | openSession _ ih => exact ih.openSession
  | listen n _ _ ih => exact ih.update rfl fun _ _ ht => ⟨ht.withheld, ht.empty⟩
  | enableConfirms n _ ih =>
    unfold Broker.enableConfirms
    split
    · exact ih
    · split_ifs
      · exact ih
      · exact ih.update (n := n) rfl fun _ _ ht => ⟨ht.withheld, ht.empty⟩
  | declare n destination _ ih =>
    unfold Broker.declare
    split
    · exact ih
    · exact ih.congr rfl
  | transmit n destination properties body _ ih => exact ih.transmit destination properties body
  | close n _ ih =>
    unfold Broker.close
    split
    · exact ih
    · exact ih.shut
  | discard n _ ih =>
    unfold Broker.discard
    split
    · exact ih
    · exact ih.shut
  | idle _ hmoved ih =>
    obtain ⟨heard, hinter⟩ := hidle _ _ hmoved
    exact ih.interlude hinter

end ConfirmedDelivery.Broker
