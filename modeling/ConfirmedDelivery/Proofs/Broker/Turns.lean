import ConfirmedDelivery.Proofs.Broker.Calls
import ConfirmedDelivery.Proofs.Round.Steps
import Mathlib.Algebra.Group.Nat.Defs

/-!
# Turns

What the rounds of a call send can be told beforehand where the broker answers every message: the
first turn is all messages, each later one what is refused of the turn before it, in the same order
(`turn`). Every turn is sent on a session of its own with tags from one (`sends`), and how often a
message was sent before goes on from turn to turn. How a round paces itself, how large its batches
are and how the broker reports has no part in it.
-/

namespace ConfirmedDelivery.Broker

/-- What session `n` delivers of messages sent one after another, the first of them under the tag
`tag` when messages have been sent as often as the tally says. -/
def sends (parcel : Message → Parcel) (n : Nat) :
    Tag → Tally → List Message → List (Message × Delivery)
  | _, _, [] => []
  | tag, tally, m :: ms =>
    let q := parcel m
    let tally := tally.bump q.properties.messageId
    (m, ⟨n, tag, q.destination, tally.count q.properties.messageId, q.properties, q.body⟩)
      :: sends parcel n (tag + 1) tally ms

/-- How often messages have been sent after these were sent too. -/
def counted (parcel : Message → Parcel) (tally : Tally) (messages : List Message) : Tally :=
  messages.foldl (fun tally m => tally.bump (parcel m).properties.messageId) tally

/-- What the script refuses of what was sent. -/
def refused (rules : Script) (sent : List (Message × Delivery)) : List Message :=
  (sent.filter fun x => rules x.2 = .nack).map Prod.fst

/-- The messages of a round, and how often messages were sent before it. -/
structure Turn where
  messages : List Message
  tally : Tally

namespace Turn

/-- What is delivered of a turn on session `n`. -/
def sends (t : Turn) (parcel : Message → Parcel) (n : Nat) : List (Message × Delivery) :=
  Broker.sends parcel n 1 t.tally t.messages

/-- The turn after this one. -/
def next (t : Turn) (rules : Script) (parcel : Message → Parcel) (n : Nat) : Turn :=
  ⟨refused rules (t.sends parcel n), counted parcel t.tally t.messages⟩

end Turn

/-- What is to be sent after `i` rounds. -/
def turn (b : Broker) (parcel : Message → Parcel) (messages : List Message) : Nat → Turn
  | 0 => ⟨messages, b.attempts⟩
  | i + 1 => (turn b parcel messages i).next b.script parcel (b.opened + i + 1)

/-- What `k` rounds deliver, each on the next session. -/
def delivered (b : Broker) (parcel : Message → Parcel) (messages : List Message) (k : Nat) :
    List Delivery :=
  (List.range k).flatMap fun i =>
    ((b.turn parcel messages i).sends parcel (b.opened + i + 1)).map Prod.snd

section Sends

variable (parcel : Message → Parcel) (n : Nat)

theorem sends_append : ∀ (ms rest : List Message) (tag : Tag) (tally : Tally),
    sends parcel n tag tally (ms ++ rest) = sends parcel n tag tally ms
      ++ sends parcel n (tag + UInt64.ofNat ms.length) (counted parcel tally ms) rest
  | [], rest, tag, tally => by
    have hzero : tag + UInt64.ofNat 0 = tag := UInt64.add_zero tag
    rw [List.nil_append, List.length_nil, hzero]
    rfl
  | m :: ms, rest, tag, tally => by
    have htag : tag + 1 + UInt64.ofNat ms.length = tag + UInt64.ofNat (m :: ms).length := by
      rw [List.length_cons, Nat.add_comm ms.length 1, UInt64.ofNat_add, UInt64.add_assoc]
      rfl
    rw [List.cons_append, sends, sends_append ms rest, htag]
    rfl

theorem map_fst_sends : ∀ (ms : List Message) (tag : Tag) (tally : Tally),
    (sends parcel n tag tally ms).map Prod.fst = ms
  | [], _, _ => rfl
  | m :: ms, _, _ => congrArg (m :: ·) (map_fst_sends ms _ _)

theorem length_sends (ms : List Message) (tag : Tag) (tally : Tally) :
    (sends parcel n tag tally ms).length = ms.length := by
  have h := congrArg List.length (map_fst_sends parcel n ms tag tally)
  rwa [List.length_map] at h

variable {parcel n}

theorem session_of_sends {x : Message × Delivery} : ∀ {ms : List Message} {tag : Tag} {tally : Tally},
    x ∈ sends parcel n tag tally ms → x.2.session = n
  | [], _, _, h => absurd h List.not_mem_nil
  | m :: ms, _, _, h => by
    rcases List.mem_cons.1 h with rfl | h
    · rfl
    · exact session_of_sends h

theorem tag_of_sends {x : Message × Delivery} : ∀ {ms : List Message} {tag : Tag} {tally : Tally},
    x ∈ sends parcel n tag tally ms → ∃ i < ms.length, x.2.tag = tag + UInt64.ofNat i
  | [], _, _, h => absurd h List.not_mem_nil
  | m :: ms, tag, tally, h => by
    rcases List.mem_cons.1 h with rfl | h
    · exact ⟨0, Nat.succ_pos _, (UInt64.add_zero tag).symm⟩
    · obtain ⟨i, hi, htag⟩ := tag_of_sends h
      refine ⟨i + 1, Nat.succ_lt_succ hi, ?_⟩
      rw [htag, Nat.add_comm i 1, UInt64.ofNat_add, UInt64.add_assoc]
      rfl

/-- Tags from one on are below the tag of what is sent next. -/
theorem tag_lt_of_sends {x : Message × Delivery} {ms : List Message} {tally : Tally}
    (h : x ∈ sends parcel n 1 tally ms) (hlen : ms.length + 1 < 2 ^ 64) :
    x.2.tag < UInt64.ofNat (ms.length + 1) := by
  obtain ⟨i, hi, htag⟩ := tag_of_sends h
  have hone : (1 : Tag) + UInt64.ofNat i = UInt64.ofNat (1 + i) := (UInt64.ofNat_add 1 i).symm
  rw [htag, hone]
  exact UInt64.ofNat_lt_iff_lt (by unfold UInt64.size; omega) (by unfold UInt64.size; omega) |>.2
    (by omega)

end Sends

section Refused

variable {rules : Script}

theorem refused_append (sent more : List (Message × Delivery)) :
    refused rules (sent ++ more) = refused rules sent ++ refused rules more := by
  simp only [refused, List.filter_append, List.map_append]

/-- Where every message is answered, what is not refused is accepted. -/
theorem countP_refused (hanswers : ∀ d, rules d ≠ .withhold) : ∀ sent : List (Message × Delivery),
    (sent.countP fun x => rules x.2 = .ack) + (refused rules sent).length = sent.length
  | [] => rfl
  | x :: sent => by
    have ih := countP_refused hanswers sent
    unfold refused at ih ⊢
    cases hx : rules x.2 with
    | ack =>
      simp [hx] at ih ⊢
      omega
    | nack =>
      simp [hx] at ih ⊢
      omega
    | withhold => exact absurd hx (hanswers x.2)

end Refused

section Turns

variable (b : Broker) (parcel : Message → Parcel) (messages : List Message)

theorem length_turn_succ (i : Nat) : (b.turn parcel messages (i + 1)).messages.length
    ≤ (b.turn parcel messages i).messages.length := by
  refine Nat.le_trans (Nat.le_of_eq (List.length_map _)) ?_
  refine Nat.le_trans (List.length_filter_le _ _) ?_
  exact (length_sends ..).le

theorem length_turn_le : ∀ i, (b.turn parcel messages i).messages.length ≤ messages.length
  | 0 => Nat.le_refl _
  | i + 1 => Nat.le_trans (length_turn_succ b parcel messages i) (length_turn_le i)

variable {b parcel messages}

/-- Once nothing is refused there is nothing to be sent any more. -/
theorem turn_eq_nil {i j : Nat} (hij : i ≤ j) (h : (b.turn parcel messages i).messages = []) :
    (b.turn parcel messages j).messages = [] := by
  induction hij with
  | refl => exact h
  | @step j _ ih =>
    have hle := length_turn_succ b parcel messages j
    rw [ih] at hle
    exact List.length_eq_zero_iff.1 (Nat.le_zero.1 hle)

variable (b parcel messages)

theorem delivered_succ (k : Nat) : b.delivered parcel messages (k + 1)
    = b.delivered parcel messages k
      ++ ((b.turn parcel messages k).sends parcel (b.opened + k + 1)).map Prod.snd := by
  unfold delivered
  rw [List.range_succ, List.flatMap_append, List.flatMap_singleton]

end Turns

end ConfirmedDelivery.Broker
