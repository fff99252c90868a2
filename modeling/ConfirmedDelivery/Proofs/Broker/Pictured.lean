import ConfirmedDelivery.Proofs.Broker.Outside

/-!
# What a broker does next

What came back of all that happened on a broker tells what comes next. Wherever its picture agrees with
the broker, a message that is sent meets the fate that the picture says (`Agrees.sends`), and a session
that has ended refuses everything (`Agrees.ends`); and they agree after any moves, so that holds of every
broker whose limit is not changed (`runs_as_pictured`).
-/

namespace ConfirmedDelivery.Broker

/-! ## Runs -/

/-- A broker on which nothing happened yet. -/
def fresh (script : Script) (reporting : Reporting) (delay : Span) (limit : Option Nat)
    (disconnected : Bool) : Broker :=
  { start with script, reporting, delay, limit, disconnected }

/-- The limit is not changed. -/
def Move.Keeps (limit : Option Nat) : Move → Prop
  | .configures _ _ _ l _ => l = limit
  | _ => True

instance decidableKeeps (limit : Option Nat) : ∀ m : Move, Decidable (m.Keeps limit)
  | .configures _ _ _ l _ => inferInstanceAs (Decidable (l = limit))
  | .opens | .done _ _ | .clock _ _ _ _ => .isTrue trivial

theorem tags_after (p : Picture) (e : Move × Returned) (m : Nat) :
    (p.channels m).tags ⊆ ((p.after e).channels m).tags := by
  unfold Picture.after
  split
  · exact List.Subset.refl _
  · refine tags_update ?_ m
    unfold Channel.after
    split
    · exact List.Subset.refl _
    · exact List.Subset.refl _
    · exact List.Subset.refl _
    · split_ifs
      · exact List.subset_append_left _ _
      · exact List.Subset.refl _
    · exact List.Subset.refl _
  · exact List.Subset.refl _

theorem pictured_append (entries : List (Move × Returned)) (e : Move × Returned) :
    pictured (entries ++ [e]) = (pictured entries).after e := List.foldl_append

/-- No more tags come back than moves are made. -/
theorem length_tags (n : Nat) (entries : List (Move × Returned)) :
    ((pictured entries).channels n).tags.length ≤ entries.length := by
  induction entries using List.reverseRecOn with
  | nil => exact Nat.le_refl _
  | append_singleton entries e ih =>
    rw [pictured_append, List.length_append, List.length_singleton]
    unfold Picture.after
    split
    · exact Nat.le_succ_of_le ih
    · dsimp only
      rw [Function.update_apply]
      split_ifs with hn
      · rw [← hn]
        unfold Channel.after
        split
        · exact Nat.le_succ_of_le ih
        · exact Nat.le_succ_of_le ih
        · exact Nat.le_succ_of_le ih
        · split_ifs
          · rw [List.length_append, List.length_singleton]
            exact Nat.succ_le_succ ih
          · exact Nat.le_succ_of_le ih
        · exact Nat.le_succ_of_le ih
      · exact Nat.le_succ_of_le ih
    · exact Nat.le_succ_of_le ih

/-- What is told of a broker is so, and what was heard has tags that came back. -/
structure Told (limit : Option Nat) (t : Tale) : Prop where
  agrees : Agrees limit t.broker (pictured t.entries)
  ofItself : OfItself t.broker
  heard : ∀ x ∈ t.heard, x.confirm.tag ∈ ((pictured t.entries).channels x.session).tags

theorem told_fresh (script : Script) (reporting : Reporting) (delay : Span) (limit : Option Nat)
    (disconnected : Bool) : Told limit ⟨fresh script reporting delay limit disconnected, [], []⟩ where
  agrees := {
    sessions := fun n => by cases n <;> rfl
    limited := rfl
    opened := rfl
    declared := fun _ => ⟨fun h => absurd h Bool.false_ne_true, fun h => absurd h List.not_mem_nil⟩
    transmits := rfl
    log := {
      known := fun _ h => absurd h List.not_mem_nil
      length := by cases limit <;> simp [through, fresh, start, pictured, Picture.blank]
      counts := fun _ => rfl
      attempts := fun _ _ h => nomatch h }
    closed := rfl
    answers := fun _ h => absurd h List.not_mem_nil }
  ofItself := ofItself_of_reachable (fun _ _ h => h)
    (.configured script reporting delay limit disconnected .start :
      Reachable (fun b b' => ∃ heard, Interlude b heard b') _)
  heard _ h := absurd h List.not_mem_nil

namespace Told

variable {limit : Option Nat} {t : Tale} (h : Told limit t)

include h

theorem more {b : Broker} {heard : List Heard} {e : Move × Returned}
    (hagrees : Agrees limit b ((pictured t.entries).after e)) (hself : OfItself b)
    (hheard : ∀ x ∈ heard, x.confirm.tag ∈ ((pictured t.entries).channels x.session).tags) :
    Told limit ⟨b, t.heard ++ heard, t.entries ++ [e]⟩ where
  agrees := by rwa [pictured_append]
  ofItself := hself
  heard x hx := by
    rw [pictured_append]
    refine tags_after _ _ _ ?_
    rcases List.mem_append.1 hx with hx | hx
    · exact h.heard x hx
    · exact hheard x hx

theorem opens : Told limit (t.move .opens) := by
  have hself := h.ofItself.openSession
  have hsilent : ∀ x ∈ t.broker.openSession.events,
      x.confirm.tag ∈ ((pictured t.entries).channels x.session).tags := fun x hx =>
    absurd (events_openSession t.broker ▸ hx) List.not_mem_nil
  refine h.more ?_ hself hsilent
  dsimp only [Move.on]
  rcases openSession_cases t.broker with ⟨-, heq⟩ | ⟨-, heq⟩
  · rw [heq]
    exact h.agrees
  · let p := pictured t.entries
    have habsent : (p.channels (p.opened + 1)).ended = false := by
      have hnew := h.agrees.sessions (p.opened + 1)
      rcases hs : t.broker.session? (p.opened + 1) with _ | s
      · rw [hs] at hnew
        rw [hnew]
        rfl
      · exact absurd (lt_of_session? hs).2 (by rw [h.agrees.opened]; exact Nat.not_succ_le_self _)
    rw [heq]
    exact { h.agrees with
      sessions := h.agrees.sessions.opens
      opened := (opened_push _ _).trans (congrArg (· + 1) h.agrees.opened)
      closed := h.agrees.closed.trans (endedOf_opens habsent).symm }

theorem move {m : Move} (hm : m.Keeps limit) : Told limit (t.move m) := by
  have silent : ∀ x ∈ ([] : List Heard),
      x.confirm.tag ∈ ((pictured t.entries).channels x.session).tags := fun x hx =>
    absurd hx List.not_mem_nil
  cases m with
  | opens => exact h.opens
  | configures script reporting delay l disconnected =>
    exact h.more { h.agrees with limited := hm } h.ofItself silent
  | clock waits now ready due => exact h.more { h.agrees with } h.ofItself silent
  | done n deed =>
    unfold Tale.move
    rcases hs : t.broker.session? n with _ | s
    · rw [Move.on_absent hs]
      exact h.more h.agrees h.ofItself silent
    · obtain ⟨hagrees, hheard⟩ := h.agrees.deed hs h.ofItself deed
      rw [Move.on_present hs]
      exact h.more hagrees ((effect_deed t.broker n deed).lasts.ofItself h.ofItself) hheard

end Told

theorem told_moves {limit : Option Nat} : ∀ {moves : List Move}, (∀ m ∈ moves, m.Keeps limit) →
    ∀ {t : Tale}, Told limit t → Told limit (moves.foldl Tale.move t)
  | [], _, _, h => h
  | m :: _, hmoves, _, h => told_moves (fun m' hm' => hmoves m' (List.mem_cons_of_mem _ hm'))
    (h.move (hmoves m List.mem_cons_self))

/-! ## What comes next -/

/-- What becomes of a message that is sent on session `n`. On a session that has ended, or to a
destination that is not declared, nothing changes; beyond the limit only the messages tried are counted.
Else it is delivered under the next tag as one more attempt; and with confirms it is to be answered for,
and without it is kept at once. -/
def Sends (limit : Option Nat) (b : Broker) (p : Picture) (n : Nat) (destination : String)
    (properties : Properties) (body : ByteArray) : Prop :=
  let r := b.transmit n destination properties body
  if (p.channels n).ended then r = .quiet (.error .sessionClosed) b
  else if destination ∈ p.declared then
    if limit.any fun most => decide (most ≤ p.tried) then
      r = .quiet (.error (.connectionClosed "connection reset during transmit"))
        { b with transmits := b.transmits + 1 }
    else
      let d : Delivery := ⟨n, b.nextTag n, destination,
        1 + sentBefore b.deliveries properties.messageId, properties, body⟩
      r.answer = .ok d.tag ∧ r.state.deliveries = b.deliveries ++ [d]
        ∧ if (p.channels n).confirming then
            r.state.session? n = (b.session? n).map (Session.sent d) ∧ r.state.queues = b.queues
          else r.state.sessions = b.sessions
            ∧ ∀ q, r.state.stored q = b.stored q ++ if q = destination then [d] else []
  else r = .quiet (.error (.unknownDestination destination)) b

/-- A session that has ended refuses every call that can be refused, and answers nothing any more. -/
structure Over (b : Broker) (n : Nat) : Prop where
  enableConfirms : b.enableConfirms n = .quiet (.error .sessionClosed) b
  declare : ∀ destination, b.declare n destination = .quiet (.error .sessionClosed) b
  transmit : ∀ destination properties body,
    b.transmit n destination properties body = .quiet (.error .sessionClosed) b
  awaitConfirms : ∀ timeout, b.awaitConfirms n timeout = .quiet (.error .sessionClosed) b
  close : b.close n = .quiet (.error .sessionClosed) b
  discard : b.discard n = .quiet (.ok ()) b
  passes : ∀ k, (b.passFirst k n).2 = [] ∧ (b.passFirst k n).1.confirms = b.confirms
    ∧ (b.passFirst k n).1.queues = b.queues

/-- A session does what is told of it: the tags that came back since its confirms were on count from one,
and before that they were zero; the next one is the one that is told; what it answers for has one of
them; turning its confirms on again changes nothing. -/
structure Obeys (limit : Option Nat) (b : Broker) (p : Picture) (n : Nat) : Prop where
  tags : (p.channels n).tags.map UInt64.toNat = List.range' 1 (p.channels n).tags.length
  early : ∀ tag ∈ (p.channels n).early, tag = 0
  next : (b.nextTag n).toNat
    = if (p.channels n).confirming then (p.channels n).tags.length + 1 else 0
  answers : ∀ confirm ∈ b.answers n, confirm.tag ∈ (p.channels n).tags
  again : (p.channels n).ended = false → (p.channels n).confirming = true →
    b.enableConfirms n = .quiet (.ok ()) b
  sends : ∀ destination properties body, Sends limit b p n destination properties body
  ends : (p.channels n).ended = true → Over b n

theorem nextTag_eq {b : Broker} {n : Nat} {s : Session} (hs : b.session? n = some s) :
    b.nextTag n = s.nextTag := by
  unfold Broker.nextTag
  rw [hs]
  rfl

theorem exists_session {b : Broker} : ∀ {n : Nat}, 0 < n → n ≤ b.opened → ∃ s, b.session? n = some s
  | _ + 1, _, hn => ⟨_, List.getElem?_eq_getElem hn⟩

section Next

variable {limit : Option Nat} {b : Broker} {p : Picture} {n : Nat} {s : Session}
  (h : Agrees limit b p) (hs : b.session? n = some s)

include h hs

theorem Agrees.sends (destination : String) (properties : Properties) (body : ByteArray) :
    Sends limit b p n destination properties body := by
  have hshows := h.shows hs
  have hd : b.sentAs n s.nextTag destination properties body = ⟨n, b.nextTag n, destination,
      1 + sentBefore b.deliveries properties.messageId, properties, body⟩ := by
    have hattempt : (b.sentAs n s.nextTag destination properties body).attempt
      = 1 + sentBefore b.deliveries properties.messageId := h.log.attempt _
    rw [nextTag_eq hs, ← hattempt]
    rfl
  unfold Sends
  dsimp only
  rw [← hd]
  split_ifs with hended hin hlimit hon
  · exact transmit_closed _ _ (openSession?_closed hs (hshows.ended.trans hended))
  all_goals have hs' := openSession?_of_session hs (hshows.ended.trans (Bool.eq_false_iff.2 hended))
  · rw [← h.limited, ← h.transmits] at hlimit
    exact transmit_limited _ _ hs' ((h.declared _).2 hin) hlimit
  · rw [← h.limited, ← h.transmits] at hlimit
    obtain ⟨ready, heq⟩ := transmit_numbered properties body hs' ((h.declared _).2 hin)
      (Bool.eq_false_iff.2 hlimit) (hshows.confirming.trans hon)
    rw [heq]
    refine ⟨congrArg Except.ok (nextTag_eq hs).symm, rfl, ?_, rfl⟩
    exact (session?_updated (b := b) (n := n) rfl n).trans (if_pos rfl)
  · rw [← h.limited, ← h.transmits] at hlimit
    have hoff := hshows.confirming.trans (Bool.eq_false_iff.2 hon)
    have hzero : b.nextTag n = 0 := by rw [nextTag_eq hs, hshows.nextTag, if_neg hon]
    rw [transmit_unnumbered properties body hs' ((h.declared _).2 hin)
      (Bool.eq_false_iff.2 hlimit) hoff]
    refine ⟨congrArg Except.ok hzero.symm, rfl, rfl, fun q => ?_⟩
    rw [stored_store, List.filter_singleton]
    have hdest : (b.sentAs n s.nextTag destination properties body).destination = q
      ↔ q = destination := eq_comm
    simp only [hdest, Bool.cond_decide]
    rfl
  · exact transmit_unknown _ _ hs' (Bool.eq_false_iff.2 fun hq => hin ((h.declared _).1 hq))

theorem Agrees.ends (hended : (p.channels n).ended = true) : Over b n := by
  have hshows := h.shows hs
  have hclosed := openSession?_closed hs (hshows.ended.trans hended)
  refine ⟨?_, fun _ => ?_, fun _ _ _ => transmit_closed _ _ hclosed,
    fun timeout => awaitConfirms_closed hclosed timeout, ?_, ?_, fun k => ?_⟩
  · unfold Broker.enableConfirms
    rw [hclosed]
  · unfold Broker.declare
    rw [hclosed]
  · unfold Broker.close
    rw [hclosed]
  · unfold Broker.discard
    rw [hclosed]
  · have hnone : accepted (s.accept k).pending.values = [] := by
      rw [← accepted_settled, hshows.settled_of_ended hended k]
      rfl
    rw [passFirst_exact hs, hshows.told_of_ended hended k, hnone]
    exact ⟨rfl, List.append_nil _, rfl⟩

theorem Agrees.obeys (hfew : (p.channels n).tags.length + 1 < 2 ^ 64) : Obeys limit b p n := by
  have hshows := h.shows hs
  have htoNat : ∀ i ≤ (p.channels n).tags.length, (UInt64.ofNat (i + 1)).toNat = i + 1 :=
    fun i hi => UInt64.toNat_ofNat_of_lt' (by unfold UInt64.size; omega)
  refine ⟨?_, hshows.early, ?_, fun confirm hconfirm => ?_, fun hopen hon => ?_, h.sends hs,
    h.ends hs⟩
  · rw [hshows.numbers, List.map_map, List.length_map, List.length_range, List.range'_eq_map_range]
    refine List.map_congr_left fun i hi => ?_
    exact (htoNat i (Nat.le_of_lt (List.mem_range.1 hi))).trans (Nat.add_comm i 1)
  · rw [nextTag_eq hs, hshows.nextTag]
    split_ifs
    · exact htoNat _ (Nat.le_refl _)
    · rfl
  · obtain ⟨r, hr, rfl⟩ := List.mem_map.1 hconfirm
    obtain ⟨hr, hn⟩ := List.mem_filter.1 hr
    rw [← of_decide_eq_true hn]
    exact h.answers r hr
  · unfold Broker.enableConfirms
    rw [openSession?_of_session hs (hshows.ended.trans hopen)]
    simp only [hshows.confirming.trans hon, ↓reduceIte]

end Next

/-- Whatever happens on a broker whose limit stays the same, it is as it is seen from outside, and so is
what comes next. The log holds what was tried up to the limit, and every delivery in it is one attempt
more than there are earlier ones of its message; sessions are numbered as they are opened, and each is
counted once as it ends; nothing is heard but under a tag that came back; and each session obeys. -/
theorem runs_as_pictured (script : Script) (reporting : Reporting) (delay : Span)
    (limit : Option Nat) (disconnected : Bool) {moves : List Move}
    (hmoves : ∀ m ∈ moves, m.Keeps limit)
    (hfew : ∀ n, ((pictured (Tale.after (fresh script reporting delay limit disconnected)
      moves).entries).channels n).tags.length + 1 < 2 ^ 64) :
    let t := Tale.after (fresh script reporting delay limit disconnected) moves
    let b := t.broker
    let p := pictured t.entries
    b.deliveries.length = through limit p.tried
      ∧ (∀ i d, b.deliveries[i]? = some d →
        d.attempt = 1 + sentBefore (b.deliveries.take i) d.properties.messageId)
      ∧ b.opened = p.opened ∧ b.closed = endedOf p.opened p.channels
      ∧ (b.disconnected = false → b.openSession.answer = .ok (p.opened + 1))
      ∧ (∀ x ∈ t.heard, x.confirm.tag ∈ (p.channels x.session).tags)
      ∧ ∀ n, 0 < n → n ≤ p.opened → Obeys limit b p n := by
  intro t b p
  have h : Told limit t :=
    told_moves hmoves (told_fresh script reporting delay limit disconnected)
  refine ⟨h.agrees.log.length, h.agrees.log.attempts, h.agrees.opened, h.agrees.closed, fun hup => ?_,
    h.heard, fun n hpos hn => ?_⟩
  · rcases openSession_cases b with ⟨hdown, -⟩ | ⟨-, heq⟩
    · exact absurd (hup.symm.trans hdown) Bool.noConfusion
    · rw [heq]
      exact congrArg (fun k => Except.ok (k + 1)) h.agrees.opened
  · rw [← h.agrees.opened] at hn
    obtain ⟨s, hs⟩ := exists_session hpos hn
    exact h.agrees.obeys hs (hfew n)

/-- Two sessions on a broker that lets three messages through. One sends before and after its confirms
are on; the other sends to no destination, and once too often. The first is closed twice, and the other
is given up. -/
def dealings : List Move :=
  let hello : Properties := ⟨true, "text", "Hello", 1, ∅⟩
  [.opens, .opens, .done 1 (.declare "q"), .done 1 (.transmit "q" hello .empty),
    .done 1 .enableConfirms, .done 1 (.transmit "q" hello .empty),
    .done 2 (.transmit "nowhere" hello .empty), .done 1 (.pass 1), .done 2 .enableConfirms,
    .configures Script.nackAll .cumulative .zero (some 3) false,
    .done 2 (.transmit "q" hello .empty), .done 2 (.transmit "q" hello .empty),
    .done 1 .enableConfirms, .done 1 .close, .done 1 .close, .done 2 .discard]

/-- What comes of these dealings. -/
def dealt : Tale := Tale.after (fresh Script.ackAll .individual .zero (some 3) false) dealings

theorem runs_as_pictured_dealings :
    dealt.broker.deliveries.length = 3 ∧ dealt.broker.closed = 2
      ∧ dealt.broker.openSession.answer = .ok 3
      ∧ ((pictured dealt.entries).channels 1).early = [0]
      ∧ ((pictured dealt.entries).channels 1).tags = [1]
      ∧ (dealt.broker.nextTag 1).toNat = 2 ∧ Over dealt.broker 1 ∧ Over dealt.broker 2 := by
  have hmoves : ∀ m ∈ dealings, m.Keeps (some 3) := by decide +kernel
  have hfew : ∀ n, ((pictured dealt.entries).channels n).tags.length + 1 < 2 ^ 64 := by
    intro n
    have hlen : dealt.entries.length = 16 := by decide +kernel
    have hle := length_tags n dealt.entries
    omega
  have hopened : (pictured dealt.entries).opened = 2 := by decide +kernel
  have htried : (pictured dealt.entries).tried = 4 := by decide +kernel
  have hended : endedOf 2 (pictured dealt.entries).channels = 2 := by decide +kernel
  obtain ⟨hlength, -, -, hclosed, hnext, -, hobeys⟩ :=
    runs_as_pictured Script.ackAll .individual .zero (some 3) false hmoves hfew
  have hone := hobeys 1 (by decide) (by rw [← dealt, hopened]; decide)
  have htwo := hobeys 2 (by decide) (by rw [← dealt, hopened])
  refine ⟨hlength.trans ?_, hclosed.trans ?_, (hnext (by decide +kernel)).trans ?_, by decide +kernel,
    by decide +kernel, hone.next.trans (by decide +kernel), hone.ends (by decide +kernel),
    htwo.ends (by decide +kernel)⟩
  · rw [← dealt, htried]
    rfl
  · rw [← dealt, hopened, hended]
  · rw [← dealt, hopened]

end ConfirmedDelivery.Broker
