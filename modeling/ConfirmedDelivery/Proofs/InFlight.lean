import ConfirmedDelivery.Failure
import ConfirmedDelivery.InFlight
import ConfirmedDelivery.Proofs.Dict
import Mathlib.Data.List.Flatten

/-!
# What is in flight, as a map

Whoever shares what is in flight records items under tags, takes out what a scope covers, and looks
(`Request`). Seen from outside that is a finite map (`Request.on`): recording inserts unless the tag is
taken, and taking out deletes what is covered. What is in flight is that map after any requests
(`runs_as_map`), and every request is answered by it (`Request.Met`); the count that waiters see is its
size; and everything ever recorded was either handed out or is still there, once. What a scope takes
out is cut off at the next tag, and above the greatest tag there is none: that nothing is lost there
is `withdraw_eq`.
-/

namespace ConfirmedDelivery.InFlight

universe u

variable {α β : Type u}

/-- The items in flight with their tags, ascending. -/
def listing (f : InFlight α) : List (Tag × α) := f.entries.entries

/-- Something that is asked of what is in flight. What is settled is written down in a `β`. -/
inductive Request (α β : Type u) where
  | add (tag : Tag) (item : α)
  | get (tag : Tag)
  | resolveOne (tag : Tag)
  | resolveUpTo (tag : Tag)
  | resolve (scope : Scope)
  | resolveWith (scope : Scope) (settle : List (Tag × α) → β → β)
  | tags
  | size
  | isEmpty

/-- What comes back. -/
inductive Response (α : Type u) where
  | added
  | refused (failure : Failure)
  | item (item : Option α)
  | resolved (entries : List (Tag × α))
  | tags (tags : List Tag)
  | size (n : Nat)
  | isEmpty (answer : Bool)

/-- What comes of a request. -/
structure Upshot (α β : Type u) where
  response : Response α
  inFlight : InFlight α
  written : β

def ask (f : InFlight α) (b : β) : Request α β → Upshot α β
  | .add t a =>
    match f.add? t a with
    | none => ⟨.refused (.duplicateTag t), f, b⟩
    | some g => ⟨.added, g, b⟩
  | .get t => ⟨.item (f.get? t), f, b⟩
  | .resolveOne t => ⟨.item (f.resolveOne t).1, (f.resolveOne t).2, b⟩
  | .resolveUpTo t => ⟨.resolved (f.resolveUpTo t).1, (f.resolveUpTo t).2, b⟩
  | .resolve s => ⟨.resolved (f.resolve s).1, (f.resolve s).2, b⟩
  | .resolveWith s settle =>
    let r := f.resolveWith s settle b
    ⟨.resolved r.1, r.2.2, r.2.1⟩
  | .tags => ⟨.tags f.tags, f, b⟩
  | .size => ⟨.size f.size, f, b⟩
  | .isEmpty => ⟨.isEmpty f.isEmpty, f, b⟩

/-- What is in flight after some requests, and what was asked and answered on the way. -/
structure Run (α β : Type u) where
  inFlight : InFlight α
  written : β
  exchanges : List (Request α β × Response α)

namespace Run

/-- One request more. -/
def ask (r : Run α β) (q : Request α β) : Run α β :=
  let u := r.inFlight.ask r.written q
  ⟨u.inFlight, u.written, r.exchanges ++ [(q, u.response)]⟩

/-- Requests one after another, with nothing in flight at first. -/
def ofRequests (b : β) (qs : List (Request α β)) : Run α β := qs.foldl ask ⟨∅, b, []⟩

/-- The item that was recorded, with its tag. -/
def recorded : Request α β × Response α → List (Tag × α)
  | (.add t a, .added) => [(t, a)]
  | _ => []

/-- What was handed out for good. -/
def handedOut : Request α β × Response α → List (Tag × α)
  | (.resolveOne t, .item a) => a.toList.map (t, ·)
  | (_, .resolved l) => l
  | _ => []

end Run

/-! ## The map -/

/-- What a request does to a map. -/
def Request.on (m : Tag → Option α) : Request α β → Tag → Option α
  | .add t a => if (m t).isSome then m else Function.update m t (some a)
  | .resolveOne t => Function.update m t none
  | .resolveUpTo t => fun t' => if t' ≤ t then none else m t'
  | .resolve s => fun t' => if s.covers t' then none else m t'
  | .resolveWith s _ => fun t' => if s.covers t' then none else m t'
  | _ => m

/-- A map in flight: its entries are listed by ascending tag, and waiters see how many they are. -/
structure Shows (f : InFlight α) (m : Tag → Option α) : Prop where
  ascending : f.listing.Pairwise fun e e' => e.1 < e'.1
  lists : ∀ t a, (t, a) ∈ f.listing ↔ m t = some a
  shown : f.shown = f.listing.length

/-- What is taken out by a scope, by ascending tag, and what is left: up to a tag the listing is cut in
two, and for a tag alone it loses that entry at most. -/
def Parts (m : Tag → Option α) (before after : List (Tag × α)) (s : Scope) (l : List (Tag × α)) :
    Prop :=
  l.Pairwise (fun e e' => e.1 < e'.1) ∧
    if s.multiple then before = l ++ after ∧ (∀ e ∈ l, e.1 ≤ s.tag) ∧ ∀ e ∈ after, s.tag < e.1
    else l = (m s.tag).toList.map (s.tag, ·) ∧ after = before.filter fun e => e.1 ≠ s.tag

/-- What a request is answered with if it finds the map `m` in flight as `f`, leaves `g`, and what was
written down as `b` becomes `c`. -/
def Request.Met (m : Tag → Option α) (f g : InFlight α) (b c : β) :
    Request α β → Response α → Prop
  | .add t _, r =>
    c = b ∧ if (m t).isSome then r = .refused (.duplicateTag t) ∧ g = f else r = .added
  | .get t, r => r = .item (m t) ∧ g = f ∧ c = b
  | .resolveOne t, r => r = .item (m t) ∧ g.listing = f.listing.filter (fun e => e.1 ≠ t) ∧ c = b
  | .resolveUpTo t, r =>
    ∃ l, r = .resolved l ∧ Parts m f.listing g.listing ⟨t, true⟩ l ∧ c = b
  | .resolve s, r => ∃ l, r = .resolved l ∧ Parts m f.listing g.listing s l ∧ c = b
  | .resolveWith s settle, r => ∃ l, r = .resolved l ∧ Parts m f.listing g.listing s l
    ∧ c = if l = [] then b else settle l b
  | .tags, r => r = .tags (f.listing.map Prod.fst) ∧ g = f ∧ c = b
  | .size, r => r = .size f.listing.length ∧ g = f ∧ c = b
  | .isEmpty, r => r = .isEmpty f.listing.isEmpty ∧ g = f ∧ c = b

/-! ## What a scope takes out -/

section Withdraw

theorem lt_next {t bound : Tag} (h : t.next? = some bound) (t' : Tag) : t' < bound ↔ t' ≤ t := by
  unfold Tag.next? at h
  split_ifs at h with hlt
  obtain rfl := Option.some.inj h
  have hadd : (t + 1).toNat = t.toNat + 1 := by
    rw [UInt64.toNat_add]
    exact Nat.mod_eq_of_lt hlt
  rw [UInt64.lt_iff_toNat_lt, UInt64.le_iff_toNat_le, hadd, Nat.lt_succ_iff]

theorem le_of_next_none {t : Tag} (h : t.next? = none) (t' : Tag) : t' ≤ t := by
  unfold Tag.next? at h
  split_ifs at h with hlt
  have hbound := t'.toNat_lt_size
  rw [UInt64.le_iff_toNat_le]
  omega

/-- Cutting at the next tag takes out what is covered, also where there is no next tag. -/
theorem withdraw_eq (f : InFlight α) (s : Scope) :
    f.withdraw s = (f.listing.filter fun e => s.covers e.1,
      { f with entries := f.entries.keep fun t _ => !s.covers t }) := by
  obtain ⟨t, multiple⟩ := s
  cases multiple with
  | true =>
    change f.withdrawUpTo t = _
    unfold withdrawUpTo
    have hcovers : ∀ t', Scope.covers ⟨t, true⟩ t' = decide (t' ≤ t) := fun _ => rfl
    cases hnext : t.next? with
    | some bound => simp only [Dict.splitOff, Dict.entries_keep, lt_next hnext, hcovers]; rfl
    | none =>
      have hall := le_of_next_none hnext
      have htaken : (f.listing.filter fun e => Scope.covers ⟨t, true⟩ e.1) = f.listing := by
        simp [hcovers, hall]
      have hleft : (f.entries.keep fun t' _ => !Scope.covers ⟨t, true⟩ t') = ∅ :=
        Dict.ext (by simp [hcovers, hall])
      rw [htaken, hleft]
      rfl
  | false =>
    change f.withdrawOne t = _
    unfold withdrawOne
    have hcovers : ∀ t', Scope.covers ⟨t, false⟩ t' = decide (t' = t) := fun _ => beq_eq_decide ..
    have hone := Dict.filter_entries_eq f.entries t
    simp only [hcovers, listing, hone]
    cases hget : f.entries.get? t with
    | some a =>
      have hleft : (f.entries.keep fun t' _ => !decide (t' = t)) = f.entries.erase t :=
        Dict.ext (by simp [Dict.erase])
      rw [hleft]
      rfl
    | none =>
      rw [hget] at hone
      have hnone := List.filter_eq_nil_iff.1 hone
      have hleft : (f.entries.keep fun t' _ => !decide (t' = t)) = f.entries :=
        Dict.ext (List.filter_eq_self.2 fun e he => by simpa using hnone e he)
      rw [hleft]
      rfl

end Withdraw

section Resolve

variable (f : InFlight α) (s : Scope) (settle : List (Tag × α) → β → β) (b : β)

theorem resolveWith_fst :
    (f.resolveWith s settle b).1 = f.listing.filter fun e => s.covers e.1 := by
  unfold resolveWith
  rw [withdraw_eq]
  dsimp only
  split_ifs <;> rfl

theorem listing_resolveWith :
    (f.resolveWith s settle b).2.2.listing = f.listing.filter fun e => !s.covers e.1 := by
  unfold resolveWith
  rw [withdraw_eq]
  dsimp only
  split_ifs with hnone
  · have hnone := List.filter_eq_nil_iff.1 (List.isEmpty_iff.1 hnone)
    exact (List.filter_eq_self.2 fun e he => by simpa using hnone e he).symm
  · rfl

theorem written_resolveWith : (f.resolveWith s settle b).2.1
    = if (f.resolveWith s settle b).1 = [] then b else settle (f.resolveWith s settle b).1 b := by
  unfold resolveWith
  dsimp only
  split_ifs with hnone heq heq
  · rfl
  · exact absurd (List.isEmpty_iff.1 hnone) heq
  · exact absurd (List.isEmpty_iff.2 heq) hnone
  · rfl

variable {f}

theorem shown_resolveWith (h : f.shown = f.listing.length) :
    (f.resolveWith s settle b).2.2.shown = (f.resolveWith s settle b).2.2.listing.length := by
  unfold resolveWith
  dsimp only
  split_ifs
  · exact h
  · rfl

end Resolve

/-- An ascending listing is cut in two by what is covered up to a tag. -/
theorem cut_upTo (t : Tag) : ∀ {l : List (Tag × α)}, l.Pairwise (fun e e' => e.1 < e'.1) →
    l = l.filter (fun e => e.1 ≤ t) ++ l.filter (fun e => !decide (e.1 ≤ t))
  | [], _ => rfl
  | e :: l, h => by
    obtain ⟨he, hl⟩ := List.pairwise_cons.1 h
    by_cases hle : e.1 ≤ t
    · rw [List.filter_cons_of_pos (by simpa using hle), List.filter_cons_of_neg (by simpa using hle),
        List.cons_append, ← cut_upTo t hl]
    · have hall : ∀ x ∈ e :: l, ¬ x.1 ≤ t := by
        intro x hx
        rcases List.mem_cons.1 hx with rfl | hx
        · exact hle
        · exact fun hxt => hle (Std.le_trans (Std.le_of_lt (he x hx)) hxt)
      rw [List.filter_eq_nil_iff.2 fun x hx => by simpa using hall x hx,
        List.filter_eq_self.2 fun x hx => by simpa using hall x hx, List.nil_append]

namespace Shows

variable {f : InFlight α} {m : Tag → Option α}

theorem get? (h : f.Shows m) (t : Tag) : f.get? t = m t := by
  refine Option.ext fun a => ?_
  rw [← h.lists t a]
  exact Dict.get?_eq_some

theorem parts (h : f.Shows m) {g : InFlight α} {s : Scope} {l : List (Tag × α)}
    (hl : l = f.listing.filter fun e => s.covers e.1)
    (hg : g.listing = f.listing.filter fun e => !s.covers e.1) :
    Parts m f.listing g.listing s l := by
  refine ⟨hl ▸ h.ascending.filter _, ?_⟩
  obtain ⟨t, multiple⟩ := s
  cases multiple with
  | true =>
    have hcut := cut_upTo t h.ascending
    have hcovers : ∀ e : Tag × α, Scope.covers ⟨t, true⟩ e.1 = decide (e.1 ≤ t) := fun _ => rfl
    simp only [hcovers] at hl hg
    refine ⟨by rw [hl, hg]; exact hcut, fun e he => ?_, fun e he => ?_⟩
    · rw [hl] at he
      exact of_decide_eq_true (List.mem_filter.1 he).2
    · rw [hg] at he
      simpa using (List.mem_filter.1 he).2
  | false =>
    refine ⟨?_, hg.trans (List.filter_congr fun e _ => ?_)⟩
    · rw [hl, ← h.get? t]
      exact (List.filter_congr fun e _ => beq_eq_decide ..).trans (Dict.filter_entries_eq f.entries t)
    · simp [Scope.covers, beq_eq_decide]

/-- What is left when a scope was resolved. -/
theorem withdrawn (h : f.Shows m) {g : InFlight α} {s : Scope}
    (hg : g.listing = f.listing.filter fun e => !s.covers e.1)
    (hshown : g.shown = g.listing.length) :
    g.Shows fun t => if s.covers t then none else m t where
  ascending := hg ▸ h.ascending.filter _
  lists t a := by
    rw [hg, List.mem_filter, h.lists t a]
    cases s.covers t <;> simp
  shown := hshown

/-- An item that is recorded joins those in flight. -/
theorem added (h : f.Shows m) {t : Tag} {a : α} {g : InFlight α} (hadd : f.add? t a = some g) :
    m t = none ∧ g.Shows (Function.update m t (some a)) ∧ g.listing.Perm ((t, a) :: f.listing) := by
  obtain ⟨r, hr, rfl⟩ := Option.map_eq_some_iff.1 hadd
  unfold record? at hr
  split_ifs at hr with hfree
  obtain rfl := Option.some.inj hr
  have hfree := Bool.eq_false_iff.2 hfree
  have hperm := Dict.entries_insert_fresh hfree a
  have hnone : m t = none := Option.eq_none_iff_forall_ne_some.2 fun b hb =>
    Dict.contains_eq_false.1 hfree _ ((h.lists t b).2 hb) rfl
  refine ⟨hnone, ⟨Dict.ascending _, fun t' a' => ?_, rfl⟩, hperm⟩
  refine (hperm.mem_iff (a := (t', a'))).trans ?_
  rw [List.mem_cons, Function.update_apply]
  split_ifs with heq
  · subst heq
    have hout : (t', a') ∉ f.listing := fun hmem => by
      rw [h.lists, hnone] at hmem
      cases hmem
    simp only [Prod.mk.injEq, true_and, Option.some.injEq]
    exact ⟨fun hor => (hor.resolve_right hout).symm, fun heq => .inl heq.symm⟩
  · simp only [Prod.mk.injEq, heq, false_and, false_or]
    exact h.lists t' a'

theorem refused (h : f.Shows m) {t : Tag} {a : α} (hadd : f.add? t a = none) :
    (m t).isSome = true := by
  cases hcontains : f.entries.contains t with
  | true =>
    obtain ⟨e, he, heq⟩ := List.mem_map.1 (Dict.contains_iff.1 hcontains)
    exact Option.isSome_iff_exists.2 ⟨e.2, (h.lists t e.2).1 (heq ▸ he)⟩
  | false =>
    unfold add? record? at hadd
    rw [hcontains] at hadd
    cases hadd

end Shows

section Step

variable {f : InFlight α} {m : Tag → Option α} (h : f.Shows m)

include h

theorem Shows.resolved (s : Scope) :
    (f.resolve s).2.Shows (fun t => if s.covers t then none else m t)
      ∧ Parts m f.listing (f.resolve s).2.listing s (f.resolve s).1
      ∧ f.listing.Perm ((f.resolve s).2.listing ++ (f.resolve s).1) := by
  have hfst : (f.resolve s).1 = f.listing.filter fun e => s.covers e.1 := resolveWith_fst ..
  have hleft : (f.resolve s).2.listing = f.listing.filter fun e => !s.covers e.1 :=
    listing_resolveWith ..
  refine ⟨h.withdrawn hleft (shown_resolveWith _ _ _ h.shown), h.parts hfst hleft, ?_⟩
  rw [hfst, hleft]
  exact (List.perm_append_comm.trans (List.filter_append_perm _ _)).symm

/-- One request does to what is in flight what it does to the map, and is answered by the map; and what
comes in is what goes out and what stays. -/
theorem Shows.ask (b : β) (q : Request α β) :
    let u := f.ask b q
    u.inFlight.Shows (q.on m) ∧ q.Met m f u.inFlight b u.written u.response
      ∧ (Run.recorded (q, u.response) ++ f.listing).Perm
        (Run.handedOut (q, u.response) ++ u.inFlight.listing) := by
  cases q with
  | add t a =>
    dsimp only [InFlight.ask, Request.on, Request.Met]
    rcases hadd : f.add? t a with _ | g
    · rw [if_pos (h.refused hadd), if_pos (h.refused hadd)]
      exact ⟨h, ⟨rfl, rfl, rfl⟩, .refl _⟩
    · obtain ⟨hfree, hg, hperm⟩ := h.added hadd
      rw [hfree]
      exact ⟨hg, ⟨rfl, rfl⟩, hperm.symm⟩
  | resolveOne t =>
    obtain ⟨hg, ⟨-, hone, hleft⟩, hperm⟩ := h.resolved ⟨t, false⟩
    have hitem : (f.resolveOne t).1 = m t := by
      change (f.resolve ⟨t, false⟩).1.getLast?.map Prod.snd = m t
      rw [hone]
      cases m t <;> rfl
    refine ⟨?_, ⟨congrArg Response.item hitem, hleft, rfl⟩, ?_⟩
    · refine (congrArg (InFlight.Shows _) (funext fun t' => ?_)).mp hg
      dsimp only [Request.on]
      simp only [Scope.covers_single, Function.update_apply]
    · change f.listing.Perm ((f.resolveOne t).1.toList.map (t, ·) ++ _)
      rw [hitem, ← hone]
      exact hperm.trans List.perm_append_comm
  | resolveUpTo t =>
    obtain ⟨hg, hparts, hperm⟩ := h.resolved ⟨t, true⟩
    refine ⟨?_, ⟨_, rfl, hparts, rfl⟩, hperm.trans List.perm_append_comm⟩
    refine (congrArg (InFlight.Shows _) (funext fun t' => ?_)).mp hg
    dsimp only [Request.on]
    simp only [Scope.covers_multiple]
  | resolve s =>
    obtain ⟨hg, hparts, hperm⟩ := h.resolved s
    exact ⟨hg, ⟨_, rfl, hparts, rfl⟩, hperm.trans List.perm_append_comm⟩
  | resolveWith s settle =>
    have hfst := resolveWith_fst f s settle b
    have hleft := listing_resolveWith f s settle b
    refine ⟨h.withdrawn hleft (shown_resolveWith _ _ _ h.shown),
      ⟨_, rfl, h.parts hfst hleft, written_resolveWith ..⟩, ?_⟩
    change f.listing.Perm ((f.resolveWith s settle b).1 ++ (f.resolveWith s settle b).2.2.listing)
    rw [hfst, hleft]
    exact (List.filter_append_perm _ _).symm
  | get t => exact ⟨h, ⟨congrArg Response.item (h.get? t), rfl, rfl⟩, .refl _⟩
  | tags => exact ⟨h, ⟨rfl, rfl, rfl⟩, .refl _⟩
  | size => exact ⟨h, ⟨rfl, rfl, rfl⟩, .refl _⟩
  | isEmpty =>
    refine ⟨h, ⟨congrArg Response.isEmpty ?_, rfl, rfl⟩, .refl _⟩
    change (f.listing.length == 0) = f.listing.isEmpty
    cases f.listing <;> rfl

end Step

/-! ## Runs -/

/-- A run in which the map `m` is in flight at the end, and nothing was lost, made up or handed out
twice. -/
structure Keeps (r : Run α β) (m : Tag → Option α) : Prop where
  shows : r.inFlight.Shows m
  conserves : (r.exchanges.flatMap Run.recorded).Perm
    (r.exchanges.flatMap Run.handedOut ++ r.inFlight.listing)

theorem Keeps.ask {r : Run α β} {m : Tag → Option α} (h : Keeps r m) (q : Request α β) :
    Keeps (r.ask q) (q.on m) := by
  obtain ⟨hshows, -, hperm⟩ := h.shows.ask r.written q
  refine ⟨hshows, ?_⟩
  dsimp only [Run.ask]
  rw [List.flatMap_append, List.flatMap_append, List.flatMap_singleton, List.flatMap_singleton,
    List.append_assoc]
  refine (h.conserves.append_right _).trans ?_
  rw [List.append_assoc]
  exact (List.perm_append_comm.trans hperm).append_left _

theorem keeps_run : ∀ (qs : List (Request α β)) {r : Run α β} {m : Tag → Option α}, Keeps r m →
    Keeps (qs.foldl Run.ask r) (qs.foldl (fun m q => q.on m) m)
  | [], _, _, h => h
  | q :: qs, _, _, h => keeps_run qs (h.ask q)

/-- After any requests what is in flight is the map to which they lead, listed by ascending tag and
with its size in sight of waiters; the next request is answered by that map; and the items that were
recorded are those that were handed out and those that are left. -/
theorem runs_as_map (b : β) (qs : List (Request α β)) (q : Request α β) :
    let r := Run.ofRequests b qs
    let m := qs.foldl (fun m q => q.on m) fun _ => none
    let u := r.inFlight.ask r.written q
    r.inFlight.get? = m ∧ r.inFlight.Shows m
      ∧ q.Met m r.inFlight u.inFlight r.written u.written u.response
      ∧ (r.exchanges.flatMap Run.recorded).Perm
        (r.exchanges.flatMap Run.handedOut ++ r.inFlight.listing) := by
  intro r m u
  have hempty : Keeps (⟨∅, b, []⟩ : Run α β) fun _ => none :=
    ⟨⟨List.Pairwise.nil, fun _ _ => ⟨fun h => absurd h List.not_mem_nil, nofun⟩, rfl⟩, .refl _⟩
  have h : Keeps r m := keeps_run qs hempty
  exact ⟨funext h.shows.get?, h.shows, (h.shows.ask r.written q).2.1, h.conserves⟩

end ConfirmedDelivery.InFlight
