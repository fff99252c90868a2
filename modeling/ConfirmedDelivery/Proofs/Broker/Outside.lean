import ConfirmedDelivery.Proofs.Broker.Deeds
import Mathlib.Data.Finset.Card
import Mathlib.Data.Finset.Filter
import Mathlib.Order.Interval.Finset.Nat

/-!
# A broker as it is seen from outside

Sessions are opened, used and ended on one broker in any order, and pass at any time (`Move`). What came
back so far tells of each session whether its confirms are on, whether it has ended and which tags it
gave (`Channel`), and of the broker which destinations there are and how often a message could have been
sent (`Picture`). That is enough to tell what comes back next: a broker and what is seen of it agree
after any moves (`agrees_tale`), and where they agree each call does what the picture says
(`runs_as_pictured`).
-/

namespace ConfirmedDelivery.Broker

/-! ## Moves and what is seen of them -/

/-- What happens to a broker: a session is opened, the settings are changed, something is done on session
`n` (that it passes is among it), or time goes by. -/
inductive Move where
  | opens
  | configures (script : Script) (reporting : Reporting) (delay : Span) (limit : Option Nat)
    (disconnected : Bool)
  | done (n : Nat) (deed : Deed)
  | clock (waits now : Nat) (ready : List Nat) (due : Dict Nat (List Nat))

/-- What comes back. -/
inductive Returned where
  | nothing
  | opened (answer : Except LinkFault Nat)
  | done (response : Response)

/-- What comes of a move: the broker, what is heard, and what comes back. -/
structure Consequence where
  broker : Broker
  heard : List Heard
  returned : Returned

/-- On a session that is not there nothing can be done. -/
def Move.on (b : Broker) : Move → Consequence
  | .opens => ⟨b.openSession.state, b.openSession.events, .opened b.openSession.answer⟩
  | .configures script reporting delay limit disconnected =>
    ⟨{ b with script, reporting, delay, limit, disconnected }, [], .nothing⟩
  | .done n deed =>
    match b.session? n with
    | none => ⟨b, [], .nothing⟩
    | some _ => ⟨(deed.on b n).broker, (deed.on b n).heard, .done (deed.on b n).response⟩
  | .clock waits now ready due => ⟨{ b with waits, now, ready, due }, [], .nothing⟩

theorem Move.on_absent {b : Broker} {n : Nat} (hs : b.session? n = none) (deed : Deed) :
    (Move.done n deed).on b = ⟨b, [], .nothing⟩ := by
  simp only [Move.on, hs]

theorem Move.on_present {b : Broker} {n : Nat} {s : Session} (hs : b.session? n = some s)
    (deed : Deed) : (Move.done n deed).on b
      = ⟨(deed.on b n).broker, (deed.on b n).heard, .done (deed.on b n).response⟩ := by
  simp only [Move.on, hs]

/-- The broker, everything that was heard, and what came back of each move. -/
structure Tale where
  broker : Broker
  heard : List Heard
  entries : List (Move × Returned)

namespace Tale

/-- One move more. -/
def move (t : Tale) (m : Move) : Tale :=
  let c := m.on t.broker
  ⟨c.broker, t.heard ++ c.heard, t.entries ++ [(m, c.returned)]⟩

/-- Moves one after another. -/
def after (b : Broker) (moves : List Move) : Tale := moves.foldl move ⟨b, [], []⟩

end Tale

/-- What can be told of a session. -/
structure Channel where
  confirming : Bool
  ended : Bool
  /-- The tags that came back before confirms were on. -/
  early : List Tag
  /-- The tags that came back since then. -/
  tags : List Tag

namespace Channel

def new : Channel := ⟨false, false, [], []⟩

def after (c : Channel) : Deed → Response → Channel
  | .enableConfirms, .called (.ok _) => { c with confirming := true }
  | .close, .called (.ok _) => { c with ended := true }
  | .discard, _ => { c with ended := true }
  | .transmit _ _ _, .sent (.ok tag) =>
    if c.confirming then { c with tags := c.tags ++ [tag] } else { c with early := c.early ++ [tag] }
  | _, _ => c

end Channel

/-- What can be told of a broker. -/
structure Picture where
  opened : Nat
  channels : Nat → Channel
  declared : List String
  /-- How often a message was sent on an open session to a declared destination. -/
  tried : Nat

namespace Picture

def blank : Picture := ⟨0, fun _ => .new, [], 0⟩

/-- What is declared if this comes back. -/
def declaring : Deed → Response → List String
  | .declare destination, .called (.ok _) => [destination]
  | _, _ => []

/-- Whether a message can be sent by the deed, but for a limit. -/
def tries (p : Picture) (n : Nat) (deed : Deed) : Bool :=
  !(p.channels n).ended && deed.sendsTo.any fun q => decide (q ∈ p.declared)

def after (p : Picture) : Move × Returned → Picture
  | (.opens, .opened (.ok _)) => { p with opened := p.opened + 1 }
  | (.done n deed, .done response) =>
    { p with
      channels := Function.update p.channels n ((p.channels n).after deed response)
      declared := p.declared ++ declaring deed response
      tried := p.tried + if p.tries n deed then 1 else 0 }
  | _ => p

end Picture

/-- What can be told from what came back. -/
def pictured (entries : List (Move × Returned)) : Picture := entries.foldl Picture.after .blank

/-- How many of the sessions have ended. -/
def endedOf (opened : Nat) (channels : Nat → Channel) : Nat :=
  ((Finset.Icc 1 opened).filter fun n => (channels n).ended = true).card

/-- How many messages get through a limit. -/
def through (limit : Option Nat) (tried : Nat) : Nat := limit.elim tried (min · tried)

/-- How often a message was sent. -/
def sentBefore (ds : List Delivery) (id : MessageId) : Nat :=
  ds.countP fun d => d.properties.messageId = id

/-! ## Sending a message -/

section Transmit

variable {b : Broker} {n : Nat} {s : Session} {destination : String} (properties : Properties)
  (body : ByteArray)

theorem transmit_closed {fault : LinkFault} (hs : b.openSession? n = .error fault) :
    b.transmit n destination properties body = .quiet (.error fault) b := by
  unfold transmit
  rw [hs]

theorem transmit_unknown (hs : b.openSession? n = .ok s) (hq : b.queues.contains destination = false) :
    b.transmit n destination properties body
      = .quiet (.error (.unknownDestination destination)) b := by
  unfold transmit
  rw [hs]
  simp only [hq, Bool.not_false, ↓reduceIte]

variable (hs : b.openSession? n = .ok s) (hq : b.queues.contains destination = true)

include hs hq

theorem transmit_limited (hlimit : b.limit.any (fun most => decide (most ≤ b.transmits)) = true) :
    b.transmit n destination properties body
      = .quiet (.error (.connectionClosed "connection reset during transmit"))
        { b with transmits := b.transmits + 1 } := by
  unfold transmit
  rw [hs]
  simp only [hq, Bool.not_true, Bool.false_eq_true, ↓reduceIte, hlimit]

variable (hlimit : b.limit.any (fun most => decide (most ≤ b.transmits)) = false)

include hlimit

theorem transmit_numbered (hon : s.confirming = true) :
    let d := b.sentAs n s.nextTag destination properties body
    ∃ ready, b.transmit n destination properties body
      = ⟨.ok s.nextTag, [], [.transmitted n s.nextTag destination],
        { b with
          sessions := (b.update n (Session.sent d)).sessions
          attempts := Tally.bump properties.messageId b.attempts
          deliveries := b.deliveries ++ [d]
          transmits := b.transmits + 1
          ready }⟩ := by
  intro d
  let b' : Broker := { b with
    attempts := Tally.bump properties.messageId b.attempts
    deliveries := b.deliveries ++ [d]
    transmits := b.transmits + 1 }
  obtain ⟨ready, hwake⟩ := wake_eq (b'.update n (Session.sent d)) n
  refine ⟨ready, ?_⟩
  unfold transmit
  rw [hs]
  simp only [hq, Bool.not_true, Bool.false_eq_true, ↓reduceIte, hlimit, hon]
  change (⟨.ok s.nextTag, [], _, (b'.update n (Session.sent d)).wake n⟩ : Answer Tag) = _
  rw [hwake]
  cases n <;> rfl

theorem transmit_unnumbered (hoff : s.confirming = false) :
    let d := b.sentAs n s.nextTag destination properties body
    b.transmit n destination properties body
      = ⟨.ok 0, [], [.transmitted n s.nextTag destination],
        ({ b with
          attempts := Tally.bump properties.messageId b.attempts
          deliveries := b.deliveries ++ [d]
          transmits := b.transmits + 1 } : Broker).store d⟩ := by
  unfold transmit
  rw [hs]
  simp only [hq, Bool.not_true, Bool.false_eq_true, ↓reduceIte, hlimit, hoff]
  rfl

end Transmit

/-! ## Agreement -/

/-- What is told of a session is so: its confirms are on and it has ended as told, its tags count from
one, what it holds was numbered by it, and there is nothing that it could still answer once it ended. -/
structure Channel.Shows (c : Channel) (s : Session) : Prop where
  ended : s.closed = c.ended
  confirming : s.confirming = c.confirming
  nextTag : s.nextTag = if c.confirming then UInt64.ofNat (c.tags.length + 1) else 0
  off : c.confirming = false → c.tags = []
  numbers : c.tags = (List.range c.tags.length).map fun i => UInt64.ofNat (i + 1)
  early : ∀ tag ∈ c.early, tag = 0
  holds : ∀ x ∈ s.contents, x.tag ∈ c.tags
  withheld : ∀ x ∈ s.pending.values, x.settles = false
  empty : s.closed = true → s.queue = []

/-- What is told of the sessions is so. -/
def Aligned (b : Broker) (channels : Nat → Channel) : Prop :=
  ∀ n, match b.session? n with
  | some s => (channels n).Shows s
  | none => channels n = .new

/-- The log and the counts of a broker that lets through as many messages as the limit says. -/
structure Log (limit : Option Nat) (ds : List Delivery) (tally : Tally) (declared : List String)
    (tried : Nat) : Prop where
  known : ∀ d ∈ ds, d.destination ∈ declared
  length : ds.length = through limit tried
  counts : ∀ id, tally.count id = sentBefore ds id
  attempts : ∀ i d, ds[i]? = some d → d.attempt = 1 + sentBefore (ds.take i) d.properties.messageId

/-- What is told of a broker is so. -/
structure Agrees (limit : Option Nat) (b : Broker) (p : Picture) : Prop where
  sessions : Aligned b p.channels
  limited : b.limit = limit
  opened : b.opened = p.opened
  declared : ∀ q, b.queues.contains q = true ↔ q ∈ p.declared
  transmits : b.transmits = p.tried
  log : Log limit b.deliveries b.attempts p.declared p.tried
  closed : b.closed = endedOf p.opened p.channels
  answers : ∀ r ∈ b.confirms, r.confirm.tag ∈ (p.channels r.session).tags

namespace Channel.Shows

variable {c : Channel} {s : Session}

theorem opened (script : Script) : Channel.new.Shows (.opened script) where
  ended := rfl
  confirming := rfl
  nextTag := rfl
  off _ := rfl
  numbers := rfl
  early _ h := absurd h List.not_mem_nil
  holds _ h := absurd h List.not_mem_nil
  withheld _ h := absurd h List.not_mem_nil
  empty h := nomatch h

variable (h : c.Shows s)

include h

theorem enabled (b : Broker) (hoff : s.confirming = false) :
    { c with confirming := true }.Shows (s.enabled b) := by
  have hnone : c.tags = [] := h.off (h.confirming.symm.trans hoff)
  refine { h with confirming := rfl, nextTag := ?_, off := fun hon => nomatch hon }
  change 1 = UInt64.ofNat (c.tags.length + 1)
  rw [hnone]
  rfl

theorem shut : { c with ended := true }.Shows s.shut where
  ended := rfl
  confirming := h.confirming
  nextTag := h.nextTag
  off := h.off
  numbers := h.numbers
  early := h.early
  holds x hx := by
    unfold Session.contents Session.shut at hx
    rw [List.append_nil] at hx
    exact h.holds x (List.mem_append_left _ hx)
  withheld := h.withheld
  empty _ := rfl

/-- The tag of the next message follows those that came back. -/
theorem sent (hopen : s.closed = false) (hon : s.confirming = true) {d : Delivery}
    (hd : d.tag = s.nextTag) : { c with tags := c.tags ++ [s.nextTag] }.Shows (s.sent d) := by
  have hon' : c.confirming = true := h.confirming.symm.trans hon
  have htag : s.nextTag = UInt64.ofNat (c.tags.length + 1) := by rw [h.nextTag, if_pos hon']
  refine { h with nextTag := ?_, off := ?_, numbers := ?_, holds := ?_, empty := ?_ }
  · change s.nextTag + 1 = if c.confirming then _ else _
    rw [if_pos hon', tag_append, htag]
  · exact fun hoff => absurd (hon'.symm.trans hoff) Bool.noConfusion
  · change c.tags ++ [s.nextTag] = _
    rw [List.length_append, List.length_singleton, List.range_succ, List.map_append, ← h.numbers, htag]
    rfl
  · intro x hx
    rcases List.mem_append.1 hx with hx | hx
    · exact List.mem_append_left _ (h.holds x (List.mem_append_left _ hx))
    · rcases List.mem_append.1 hx with hx | hx
      · exact List.mem_append_left _ (h.holds x (List.mem_append_right _ hx))
      · rw [List.mem_singleton.1 hx]
        exact List.mem_append_right _ (List.mem_singleton.2 hd)
  · exact fun hclosed => absurd (hopen.symm.trans hclosed) Bool.noConfusion

theorem unnumbered :
    { c with early := c.early ++ [0] }.Shows s := by
  refine { h with early := fun tag htag => ?_ }
  rcases List.mem_append.1 htag with htag | htag
  · exact h.early tag htag
  · exact List.mem_singleton.1 htag

theorem passed (k : Nat) : c.Shows (s.passed k) := by
  refine { h with
    holds := fun x hx => h.holds x (contents_passed hx)
    withheld := fun x hx => ?_
    empty := fun hclosed => ?_ }
  · obtain ⟨e, he, rfl⟩ := List.mem_map.1 hx
    simpa using (List.mem_filter.1 he).2
  · change s.queue.drop k = []
    rw [h.empty hclosed, List.drop_nil]

/-- A pass answers for what the session holds, by its tag. -/
theorem tag_of_told {k : Nat} {confirm : Confirm} (hc : confirm ∈ s.told k) :
    confirm.tag ∈ c.tags := by
  obtain ⟨run, hrun, hc⟩ := List.mem_filterMap.1 hc
  obtain ⟨x, hx, rfl⟩ := last_of_confirmOf hc
  have hmem : x ∈ (reports s.reporting (s.accept k).pending.values).flatten :=
    List.mem_flatten.2 ⟨run, hrun, List.mem_of_getLast? hx⟩
  rw [flatten_reports] at hmem
  exact h.holds x (contents_accept (List.mem_of_mem_filter hmem))

/-- A session that has ended holds nothing that it could answer for. -/
theorem settled_of_ended (hended : c.ended = true) (k : Nat) :
    (s.accept k).pending.values.filter Settlement.settles = [] := by
  unfold Session.accept
  dsimp only
  rw [h.empty (h.ended.trans hended), List.take_nil, List.foldl_nil]
  exact List.filter_eq_nil_iff.2 fun x hx => by rw [h.withheld x hx]; decide

theorem told_of_ended (hended : c.ended = true) (k : Nat) : s.told k = [] := by
  have hflat : (reports s.reporting (s.accept k).pending.values).flatten = [] :=
    (flatten_reports _ _).trans (h.settled_of_ended hended k)
  have hnone : reports s.reporting (s.accept k).pending.values = [] := by
    refine List.eq_nil_iff_forall_not_mem.2 fun run hrun => ?_
    exact (uniform_reports _ _ run hrun).nonempty (List.flatten_eq_nil_iff.1 hflat run hrun)
  unfold Session.told
  rw [hnone]
  rfl

end Channel.Shows

namespace Aligned

variable {b b' : Broker} {channels : Nat → Channel} {n : Nat} {s : Session} {c : Channel}
  (h : Aligned b channels)

include h

theorem shows (hs : b.session? n = some s) : (channels n).Shows s := by
  have hn := h n
  rwa [hs] at hn

theorem update (hs : b.session? n = some s) {f : Session → Session}
    (hsessions : b'.sessions = (b.update n f).sessions) (hc : c.Shows (f s)) :
    Aligned b' (Function.update channels n c) := by
  intro m
  rw [session?_updated hsessions, Function.update_apply]
  by_cases hm : n = m
  · subst hm
    rw [if_pos rfl, if_pos rfl, hs]
    exact hc
  · rw [if_neg hm, if_neg (Ne.symm hm)]
    exact h m

/-- What is told may change where the session does not. -/
theorem retold (hs : b.session? n = some s) (hsessions : b'.sessions = b.sessions)
    (hc : c.Shows s) : Aligned b' (Function.update channels n c) := by
  intro m
  rw [session?_congr hsessions, Function.update_apply]
  split_ifs with hm
  · rw [hm, hs]
    exact hc
  · exact h m

theorem opens : Aligned (b.push (.opened b.script)) channels := by
  intro m
  have hm := h m
  rw [session?_push]
  split_ifs with heq
  · have hnone : b.session? m = none := by
      rcases hs : b.session? m with _ | s
      · rfl
      · exact absurd (lt_of_session? hs).2 (heq ▸ Nat.not_succ_le_self _)
    rw [hnone] at hm
    rw [hm]
    exact .opened b.script
  · exact hm

end Aligned

theorem contains_kept {q : String} : ∀ (ds : List Delivery) (queues : Dict String (List Delivery)),
    (kept queues ds).contains q = true
      ↔ queues.contains q = true ∨ ∃ d ∈ ds, d.destination = q
  | [], queues => by
    change queues.contains q = true ↔ _
    simp
  | d :: ds, queues => by
    refine (contains_kept ds _).trans ?_
    rw [Dict.contains_insert, Bool.or_eq_true, decide_eq_true_eq, List.exists_mem_cons_iff]
    tauto

section Ended

variable {channels : Nat → Channel} {n opened : Nat} {c : Channel}

theorem endedOf_same (h : c.ended = (channels n).ended) :
    endedOf opened (Function.update channels n c) = endedOf opened channels := by
  unfold endedOf
  congr 2
  funext m
  rw [Function.update_apply]
  split_ifs with hm
  · rw [hm, h]
  · rfl

/-- One more has ended. -/
theorem endedOf_more (hn : n ∈ Finset.Icc 1 opened) (hbefore : (channels n).ended = false)
    (hafter : c.ended = true) :
    endedOf opened (Function.update channels n c) = endedOf opened channels + 1 := by
  have hinsert : (Finset.Icc 1 opened).filter (fun m => (Function.update channels n c m).ended = true)
      = insert n ((Finset.Icc 1 opened).filter fun m => (channels m).ended = true) := by
    ext m
    rw [Finset.mem_insert, Finset.mem_filter, Finset.mem_filter, Function.update_apply]
    by_cases hm : m = n
    · simp [hm, hn, hafter]
    · simp [hm]
  unfold endedOf
  rw [hinsert, Finset.card_insert_of_notMem]
  intro hmem
  rw [(Finset.mem_filter.1 hmem).2] at hbefore
  cases hbefore

/-- A session that opens has not ended. -/
theorem endedOf_opens (h : (channels (opened + 1)).ended = false) :
    endedOf (opened + 1) channels = endedOf opened channels := by
  unfold endedOf
  have hinsert : Finset.Icc 1 (opened + 1) = insert (opened + 1) (Finset.Icc 1 opened) := by
    ext m
    simp only [Finset.mem_insert, Finset.mem_Icc]
    omega
  rw [hinsert, Finset.filter_insert, if_neg (by rw [h]; exact Bool.false_ne_true)]

theorem tags_update (h : (channels n).tags ⊆ c.tags) (m : Nat) :
    (channels m).tags ⊆ (Function.update channels n c m).tags := by
  rw [Function.update_apply]
  split_ifs with hm
  · rw [hm]
    exact h
  · exact List.Subset.refl _

end Ended

section Deliveries

theorem sentBefore_append (ds : List Delivery) (d : Delivery) (id : MessageId) :
    sentBefore (ds ++ [d]) id = sentBefore ds id + if id = d.properties.messageId then 1 else 0 := by
  unfold sentBefore
  rw [List.countP_append, List.countP_singleton]
  exact congrArg (_ + ·) (if_congr (decide_eq_true_iff.trans eq_comm) rfl rfl)

theorem attempts_append {ds : List Delivery} {d : Delivery}
    (h : ∀ i e, ds[i]? = some e → e.attempt = 1 + sentBefore (ds.take i) e.properties.messageId)
    (hd : d.attempt = 1 + sentBefore ds d.properties.messageId) (i : Nat) (e : Delivery)
    (he : (ds ++ [d])[i]? = some e) :
    e.attempt = 1 + sentBefore ((ds ++ [d]).take i) e.properties.messageId := by
  rcases Nat.lt_or_ge i ds.length with hi | hi
  · rw [List.getElem?_append_left hi] at he
    rw [List.take_append_of_le_length (Nat.le_of_lt hi)]
    exact h i e he
  · rw [List.getElem?_append_right hi, List.getElem?_singleton] at he
    split_ifs at he with hzero
    obtain rfl := Option.some.inj he
    rw [Nat.le_antisymm (Nat.sub_eq_zero_iff_le.1 hzero) hi, List.take_left]
    exact hd

namespace Log

variable {limit : Option Nat} {ds : List Delivery} {tally : Tally} {declared : List String}
  {tried : Nat} (h : Log limit ds tally declared tried)

include h

theorem declare (more : List String) : Log limit ds tally (declared ++ more) tried :=
  { h with known := fun d hd => List.mem_append_left _ (h.known d hd) }

/-- What is tried beyond the limit is not delivered. -/
theorem limited (hlimit : limit.any (fun most => decide (most ≤ tried)) = true) :
    Log limit ds tally declared (tried + 1) := by
  obtain ⟨most, rfl, hmost⟩ := (Option.any_eq_true _ _).1 hlimit
  have hmost := of_decide_eq_true hmost
  refine { h with length := h.length.trans ?_ }
  exact (Nat.min_eq_left hmost).trans (Nat.min_eq_left (Nat.le_succ_of_le hmost)).symm

/-- A message that is sent is counted once more. -/
theorem attempt (id : MessageId) : (tally.bump id).count id = 1 + sentBefore ds id := by
  rw [Tally.count_bump, if_pos rfl, h.counts, Nat.add_comm]

theorem sent (hlimit : limit.any (fun most => decide (most ≤ tried)) = false) {d : Delivery}
    (hin : d.destination ∈ declared)
    (hattempt : d.attempt = (tally.bump d.properties.messageId).count d.properties.messageId) :
    Log limit (ds ++ [d]) (tally.bump d.properties.messageId) declared (tried + 1) where
  known e he := by
    rcases List.mem_append.1 he with he | he
    · exact h.known e he
    · rw [List.mem_singleton.1 he]
      exact hin
  length := by
    have hthrough : through limit (tried + 1) = through limit tried + 1 := by
      cases limit with
      | none => rfl
      | some most =>
        have hmost : ¬ most ≤ tried := of_decide_eq_false hlimit
        change min most (tried + 1) = min most tried + 1
        omega
    rw [List.length_append, List.length_singleton, h.length, hthrough]
  counts id := by rw [Tally.count_bump, sentBefore_append, h.counts]
  attempts := attempts_append h.attempts (hattempt.trans (h.attempt _))

end Log

end Deliveries

namespace Picture

variable {p : Picture} {n : Nat} {deed : Deed} {response : Response}

theorem after_done (p : Picture) (n : Nat) (deed : Deed) (response : Response) :
    p.after (.done n deed, .done response) = { p with
      channels := Function.update p.channels n ((p.channels n).after deed response)
      declared := p.declared ++ declaring deed response
      tried := p.tried + if p.tries n deed then 1 else 0 } := rfl

theorem tries_of_none (p : Picture) (n : Nat) (deed : Deed) (h : deed.sendsTo = []) :
    p.tries n deed = false := by
  unfold tries
  rw [h, List.any_nil, Bool.and_false]

/-- What declares and sends nothing tells of one session only. -/
theorem after_channel (hdeclares : declaring deed response = []) (htries : p.tries n deed = false) :
    p.after (.done n deed, .done response) = { p with
      channels := Function.update p.channels n ((p.channels n).after deed response) } := by
  rw [after_done, hdeclares, htries, List.append_nil]
  rfl

/-- What tells nothing new leaves the picture as it is. -/
theorem after_quiet (hchannel : (p.channels n).after deed response = p.channels n)
    (hdeclares : declaring deed response = []) (htries : p.tries n deed = false) :
    p.after (.done n deed, .done response) = p := by
  rw [after_channel hdeclares htries, hchannel, Function.update_eq_self]

/-- A message sent on an open session to a declared destination is one more that was tried. -/
theorem after_tried {destination : String} (hopen : (p.channels n).ended = false)
    (hin : destination ∈ p.declared) (properties : Properties) (body : ByteArray)
    (response : Response) :
    p.after (.done n (.transmit destination properties body), .done response) = { p with
      channels := Function.update p.channels n
        ((p.channels n).after (.transmit destination properties body) response)
      tried := p.tried + 1 } := by
  have htries : p.tries n (.transmit destination properties body) = true := by
    simp [Picture.tries, Deed.sendsTo, hin, hopen]
  have hdeclared : p.declared ++ declaring (.transmit destination properties body) response
    = p.declared := List.append_nil _
  rw [after_done, htries, hdeclared, if_pos rfl]

end Picture

namespace Agrees

variable {limit : Option Nat} {b : Broker} {p : Picture} {n : Nat} {s : Session}
  (h : Agrees limit b p)

include h

theorem of_eq {p' : Picture} (heq : p' = p) : Agrees limit b p' := heq ▸ h

variable (hs : b.session? n = some s)

include hs

theorem shows : (p.channels n).Shows s := h.sessions.shows hs

/-- A session may change in what the picture does not tell. -/
theorem altered {f : Session → Session} (hf : (p.channels n).Shows (f s)) (waits : Nat)
    (ready : List Nat) (due : Dict Nat (List Nat)) :
    Agrees limit { b with sessions := (b.update n f).sessions, waits, ready, due } p := by
  have hsessions : Aligned { b with sessions := (b.update n f).sessions, waits, ready, due }
      (Function.update p.channels n (p.channels n)) := h.sessions.update hs rfl hf
  rw [Function.update_eq_self] at hsessions
  exact { h with sessions := hsessions, opened := (opened_update b n f).trans h.opened }

theorem listen (l : Nat) : Agrees limit (b.listen n l) p := by
  have heq : b.listen n l = { b with
      sessions := (b.update n fun s => { s with listener := some l }).sessions } := by
    cases n <;> rfl
  rw [heq]
  exact h.altered hs { h.shows hs with } b.waits b.ready b.due

/-- What is told of a session may change with the session, as long as it has not ended and no tag is
forgotten. -/
theorem retold {f : Session → Session} {c : Channel} (hc : c.Shows (f s))
    (hended : c.ended = (p.channels n).ended) (htags : (p.channels n).tags ⊆ c.tags)
    (ready : List Nat) : Agrees limit { b with sessions := (b.update n f).sessions, ready }
      { p with channels := Function.update p.channels n c } :=
  { h with
    sessions := h.sessions.update hs rfl hc
    opened := (opened_update b n f).trans h.opened
    closed := h.closed.trans (endedOf_same hended).symm
    answers := fun r hr => tags_update htags r.session (h.answers r hr) }

theorem enableConfirms : Agrees limit (b.enableConfirms n).state
    (p.after (.done n .enableConfirms, .done (.called (b.enableConfirms n).answer))) := by
  have hshows := h.shows hs
  cases hopen : s.closed with
  | true =>
    have heq : b.enableConfirms n = .quiet (.error .sessionClosed) b := by
      unfold Broker.enableConfirms
      rw [openSession?_closed hs hopen]
    rw [heq]
    exact h.of_eq (Picture.after_quiet rfl rfl (p.tries_of_none n _ rfl))
  | false =>
    cases hoff : s.confirming with
    | true =>
      have heq : b.enableConfirms n = .quiet (.ok ()) b := by
        unfold Broker.enableConfirms
        rw [openSession?_of_session hs hopen]
        simp only [hoff, ↓reduceIte]
      have hsame : (p.channels n).after .enableConfirms (.called (.ok ())) = p.channels n :=
        congrArg (fun on => { p.channels n with confirming := on })
          (hoff.symm.trans hshows.confirming)
      rw [heq]
      exact h.of_eq (Picture.after_quiet hsame rfl (p.tries_of_none n _ rfl))
    | false =>
      rw [enableConfirms_eq hs hopen hoff]
      change Agrees limit _ (p.after (.done n .enableConfirms, .done (.called (.ok ()))))
      rw [Picture.after_channel rfl (p.tries_of_none n _ rfl)]
      exact h.retold hs (hshows.enabled b hoff) rfl (List.Subset.refl _) _

theorem declare (destination : String) : Agrees limit (b.declare n destination).state
    (p.after (.done n (.declare destination),
      .done (.called (b.declare n destination).answer))) := by
  unfold Broker.declare
  cases hopen : s.closed with
  | true =>
    rw [openSession?_closed hs hopen]
    dsimp only
    exact h.of_eq (Picture.after_quiet rfl rfl (p.tries_of_none n _ rfl))
  | false =>
    rw [openSession?_of_session hs hopen]
    dsimp only
    change Agrees limit _ (p.after (.done n (.declare destination), .done (.called (.ok ()))))
    rw [Picture.after_done, p.tries_of_none n (.declare destination) rfl]
    refine { h with
      sessions := ?_
      declared := fun q => ?_
      log := h.log.declare _
      closed := ?_
      answers := ?_ }
    · exact h.sessions.retold hs rfl (h.shows hs)
    · change (b.queues.insert destination (b.stored destination)).contains q = true ↔ _
      rw [Dict.contains_insert, Bool.or_eq_true, decide_eq_true_eq, h.declared q, List.mem_append,
        or_comm]
      exact or_congr_right List.mem_singleton.symm
    · exact h.closed.trans (endedOf_same rfl).symm
    · exact fun r hr => tags_update (List.Subset.refl _) r.session (h.answers r hr)

section Transmit

variable {destination : String} (hopen : s.closed = false)
  (hq : b.queues.contains destination = true) (properties : Properties) (body : ByteArray)

include hopen hq

theorem transmit_beyond
    (hlimit : b.limit.any (fun most => decide (most ≤ b.transmits)) = true) :
    Agrees limit (b.transmit n destination properties body).state
      (p.after (.done n (.transmit destination properties body),
        .done (.sent (b.transmit n destination properties body).answer))) := by
  have hended := (h.shows hs).ended.symm.trans hopen
  have hlog := h.log.limited (by rwa [h.limited, h.transmits] at hlimit)
  rw [transmit_limited _ _ (openSession?_of_session hs hopen) hq hlimit,
    Picture.after_tried hended ((h.declared destination).1 hq)]
  exact { h with
    sessions := h.sessions.retold hs rfl (h.shows hs)
    transmits := congrArg (· + 1) h.transmits
    log := hlog
    closed := h.closed.trans (endedOf_same rfl).symm
    answers := fun r hr => tags_update (List.Subset.refl _) r.session (h.answers r hr) }

theorem transmit_within
    (hlimit : b.limit.any (fun most => decide (most ≤ b.transmits)) = false) :
    Agrees limit (b.transmit n destination properties body).state
      (p.after (.done n (.transmit destination properties body),
        .done (.sent (b.transmit n destination properties body).answer))) := by
  have hshows := h.shows hs
  have hs' := openSession?_of_session hs hopen
  have hin := (h.declared destination).1 hq
  have htold := Picture.after_tried (hshows.ended.symm.trans hopen) hin properties body
  let d := b.sentAs n s.nextTag destination properties body
  have hlog := h.log.sent (d := d) (by rwa [h.limited, h.transmits] at hlimit) hin rfl
  cases hon : s.confirming with
  | true =>
    obtain ⟨ready, heq⟩ := transmit_numbered properties body hs' hq hlimit hon
    rw [heq, htold]
    dsimp only [Channel.after]
    rw [if_pos (hshows.confirming.symm.trans hon)]
    have hsent := h.retold hs (hshows.sent hopen hon (d := d) rfl) rfl
      (List.subset_append_left _ _) ready
    exact { hsent with transmits := congrArg (· + 1) h.transmits, log := hlog }
  | false =>
    let c : Channel := { p.channels n with early := (p.channels n).early ++ [0] }
    rw [transmit_unnumbered properties body hs' hq hlimit hon, htold]
    dsimp only [Channel.after]
    rw [if_neg (Bool.eq_false_iff.1 (hshows.confirming.symm.trans hon))]
    exact { h with
      sessions := h.sessions.retold hs rfl hshows.unnumbered
      declared := fun q => by
        refine (iff_of_eq (congrArg (· = true) (Dict.contains_insert ..))).trans ?_
        rw [Bool.or_eq_true, decide_eq_true_eq, h.declared q]
        exact or_iff_right_of_imp fun heq => heq ▸ hin
      transmits := congrArg (· + 1) h.transmits
      log := hlog
      closed := h.closed.trans (endedOf_same (n := n) (c := c) rfl).symm
      answers := fun r hr =>
        tags_update (c := c) (List.Subset.refl _) r.session (h.answers r hr) }

end Transmit

theorem transmit (destination : String) (properties : Properties) (body : ByteArray) :
    Agrees limit (b.transmit n destination properties body).state
      (p.after (.done n (.transmit destination properties body),
        .done (.sent (b.transmit n destination properties body).answer))) := by
  cases hopen : s.closed with
  | true =>
    have htries : p.tries n (.transmit destination properties body) = false := by
      unfold Picture.tries
      rw [← (h.shows hs).ended, hopen]
      rfl
    rw [transmit_closed _ _ (openSession?_closed hs hopen)]
    exact h.of_eq (Picture.after_quiet rfl rfl htries)
  | false =>
    cases hq : b.queues.contains destination with
    | false =>
      have hout : destination ∉ p.declared := fun hmem => by
        rw [(h.declared destination).2 hmem] at hq
        cases hq
      have htries : p.tries n (.transmit destination properties body) = false := by
        simp [Picture.tries, Deed.sendsTo, hout]
      rw [transmit_unknown _ _ (openSession?_of_session hs hopen) hq]
      exact h.of_eq (Picture.after_quiet rfl rfl htries)
    | true =>
      cases hlimit : b.limit.any fun most => decide (most ≤ b.transmits) with
      | true => exact h.transmit_beyond hs hopen hq properties body hlimit
      | false => exact h.transmit_within hs hopen hq properties body hlimit

theorem shut (hopen : s.closed = false) : Agrees limit (b.shut n)
    { p with channels := Function.update p.channels n { p.channels n with ended := true } } := by
  have hshows := h.shows hs
  have hin : n ∈ Finset.Icc 1 p.opened := by
    rw [Finset.mem_Icc, ← h.opened]
    exact lt_of_session? hs
  have hcount := endedOf_more (c := { p.channels n with ended := true }) hin
    (hshows.ended.symm.trans hopen) rfl
  have hsessions : (b.shut n).sessions = (b.update n Session.shut).sessions := rfl
  unfold Broker.shut
  rw [update_eq]
  exact { h with
    sessions := h.sessions.update hs hsessions hshows.shut
    opened := (opened_update b n _).trans h.opened
    closed := (congrArg (· + 1) h.closed).trans hcount.symm
    answers := fun r hr =>
      tags_update (c := { p.channels n with ended := true }) (List.Subset.refl _) r.session
        (h.answers r hr) }

theorem close : Agrees limit (b.close n).state
    (p.after (.done n .close, .done (.called (b.close n).answer))) := by
  unfold Broker.close
  cases hopen : s.closed with
  | true =>
    rw [openSession?_closed hs hopen]
    exact h.of_eq (Picture.after_quiet rfl rfl (p.tries_of_none n _ rfl))
  | false =>
    rw [openSession?_of_session hs hopen]
    exact (h.shut hs hopen).of_eq (Picture.after_channel rfl (p.tries_of_none n _ rfl))

theorem discard : Agrees limit (b.discard n).state
    (p.after (.done n .discard, .done (.called (b.discard n).answer))) := by
  unfold Broker.discard
  cases hopen : s.closed with
  | true =>
    have hsame : (p.channels n).after .discard (.called (.ok ())) = p.channels n :=
      congrArg (fun ended => { p.channels n with ended }) (hopen.symm.trans (h.shows hs).ended)
    rw [openSession?_closed hs hopen]
    exact h.of_eq (Picture.after_quiet hsame rfl (p.tries_of_none n _ rfl))
  | false =>
    rw [openSession?_of_session hs hopen]
    exact (h.shut hs hopen).of_eq (Picture.after_channel rfl (p.tries_of_none n _ rfl))

/-- A pass answers under tags that came back. -/
theorem passFirst (hself : OfItself b) (k : Nat) : Agrees limit (b.passFirst k n).1 p
    ∧ ∀ x ∈ (b.passFirst k n).2, x.confirm.tag ∈ (p.channels x.session).tags := by
  have hshows := h.shows hs
  rw [passFirst_exact hs]
  constructor
  · refine { h with sessions := ?_, opened := ?_, declared := ?_, answers := ?_ }
    · have hsessions : Aligned (b.change n (fun _ => s.passed k)
          (kept b.queues (accepted (s.accept k).pending.values))
          (b.confirms ++ (s.told k).map (ConfirmRecord.mk n)))
          (Function.update p.channels n (p.channels n)) :=
        h.sessions.update hs rfl (hshows.passed k)
      rwa [Function.update_eq_self] at hsessions
    · exact (opened_change ..).trans h.opened
    · intro q
      refine (contains_kept _ b.queues).trans ⟨fun hq => ?_, fun hq => .inl ((h.declared q).2 hq)⟩
      rcases hq with hq | ⟨d, hd, rfl⟩
      · exact (h.declared q).1 hq
      · obtain ⟨x, hx, rfl⟩ := List.mem_map.1 hd
        have hheld := contents_accept (List.mem_of_mem_filter hx)
        exact h.log.known _ (hself n s hs x hheld).2
    · intro r hr
      rcases List.mem_append.1 hr with hr | hr
      · exact h.answers r hr
      · obtain ⟨confirm, hc, rfl⟩ := List.mem_map.1 hr
        exact hshows.tag_of_told hc
  · intro x hx
    obtain ⟨confirm, hc, hx⟩ := List.mem_flatMap.1 hx
    obtain ⟨l, -, rfl⟩ := Option.map_eq_some_iff.1 (Option.mem_toList.1 hx)
    exact hshows.tag_of_told hc

/-- Whatever is done on a session, the broker agrees with what is told of it then, and what is heard
has tags that came back. -/
theorem deed (hself : OfItself b) (deed : Deed) :
    Agrees limit (deed.on b n).broker (p.after (.done n deed, .done (deed.on b n).response))
      ∧ ∀ x ∈ (deed.on b n).heard, x.confirm.tag ∈ (p.channels x.session).tags := by
  have quiet {α : Type} {r : Answer α} (hquiet : r.events = []) :
      ∀ x ∈ r.events, x.confirm.tag ∈ (p.channels x.session).tags :=
    fun x hx => absurd (hquiet ▸ hx) List.not_mem_nil
  cases deed with
  | listen l =>
    refine ⟨(h.listen hs l).of_eq ?_, fun x hx => absurd hx List.not_mem_nil⟩
    exact Picture.after_quiet rfl rfl (p.tries_of_none n _ rfl)
  | enableConfirms => exact ⟨h.enableConfirms hs, quiet (events_enableConfirms b n)⟩
  | nextTag =>
    refine ⟨h.of_eq ?_, fun x hx => absurd hx List.not_mem_nil⟩
    exact Picture.after_quiet rfl rfl (p.tries_of_none n _ rfl)
  | declare destination => exact ⟨h.declare hs destination, quiet (events_declare b n destination)⟩
  | transmit destination properties body =>
    exact ⟨h.transmit hs destination properties body, quiet (events_transmit b n _ _ _)⟩
  | await =>
    refine ⟨Agrees.of_eq ?_ (Picture.after_quiet rfl rfl (p.tries_of_none n _ rfl)),
      quiet (events_awaitConfirms_zero b n)⟩
    change Agrees limit (b.awaitConfirms n .zero).state p
    rcases hs' : b.openSession? n with fault | s'
    · rw [awaitConfirms_closed hs']
      exact h
    · cases hon : s'.confirming with
      | false =>
        rw [awaitConfirms_off hs' hon]
        exact h
      | true =>
        rw [awaitConfirms_zero hs' hon]
        exact { h with }
  | close => exact ⟨h.close hs, quiet (events_close b n)⟩
  | discard => exact ⟨h.discard hs, quiet (events_discard b n)⟩
  | pass k =>
    obtain ⟨hafter, hheard⟩ := h.passFirst hs hself k
    exact ⟨hafter.of_eq (Picture.after_quiet rfl rfl (p.tries_of_none n _ rfl)), hheard⟩

end Agrees

end ConfirmedDelivery.Broker
