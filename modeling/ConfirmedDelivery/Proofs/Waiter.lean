import ConfirmedDelivery.Proofs.History
import Mathlib.Logic.Relation

/-!
# What a waiter sees

Recording an item and taking in a confirm are a few effects each (`Books.effects`), and a waiter may
look at the shown count between any two of them. The lock keeps the effects of different operations
apart, so at most one operation is under way (`Work`, `Step`). At every point of every run the books
are those of the finished operations, with the effects done so far of the one that is under way
(`sound_of_reached`). So a waiter that sees zero sees everything settled, unless an item has been
put in and not shown yet (`settled_of_shown_zero`).
-/

namespace ConfirmedDelivery

universe u

variable {α : Type u}

/-! ## Operations as effects -/

/-- One effect of an operation on the books. -/
inductive Effect (α : Type u) where
  | insert (tag : Tag) (item : α)
  | remove (scope : Scope)
  | count (verdict : Verdict) (amount : Nat)
  | queue (items : List α)
  | publish

def Effect.apply (b : Books α) : Effect α → Books α
  | .insert t a =>
    { b with inFlight := { b.inFlight with entries := b.inFlight.entries.insert t a } }
  | .remove s => { b with inFlight := (b.inFlight.withdraw s).2 }
  | .count .acked n => { b with acked := b.acked + n }
  | .count .nacked n => { b with nacked := b.nacked + n }
  | .queue items => b.requeue items
  | .publish => { b with inFlight := b.inFlight.publish }

/-- Writing down the verdict: a refused item is counted first and queued then. -/
def settling (taken : List (Tag × α)) : Verdict → List (Effect α)
  | .acked => [.count .acked taken.length]
  | .nacked => [.count .nacked taken.length, .queue (taken.map Prod.snd)]

/-- The items that are taken out of flight by what covers them. -/
def InFlight.taken (f : InFlight α) (s : Scope) : List (Tag × α) := (f.withdraw s).1

namespace Books

/-- The effects of an operation that finds these books, in their order. -/
def effects (b : Books α) : Posting α → List (Effect α)
  | .recorded t a => if b.inFlight.entries.contains t then [] else [.insert t a, .publish]
  | .answered c =>
    if (b.inFlight.taken c.toScope).isEmpty then []
    else .remove c.toScope :: (settling (b.inFlight.taken c.toScope) c.verdict ++ [.publish])

def perform (b : Books α) (es : List (Effect α)) : Books α := es.foldl Effect.apply b

theorem perform_append (b : Books α) (es fs : List (Effect α)) :
    b.perform (es ++ fs) = (b.perform es).perform fs := List.foldl_append

theorem perform_effects (b : Books α) (p : Posting α) : b.perform (b.effects p) = b.post p := by
  cases p with
  | recorded t a =>
    cases hc : b.inFlight.entries.contains t with
    | true => simp [effects, post, hc, add?_of_taken hc, perform]
    | false => simp [effects, post, hc, add?_of_free hc, perform, Effect.apply]
  | answered c =>
    simp only [effects]
    split
    · next hnone =>
      rw [post, handle_of_none ((taken_eq b c).symm.trans (List.isEmpty_iff.1 hnone))]
      rfl
    · next hsome =>
      rw [post, handle_of_some fun h => hsome (List.isEmpty_iff.2 ((taken_eq b c).trans h)),
        ← taken_eq]
      cases hv : c.verdict <;> rfl

/-- Nothing is shown before the end of an operation. -/
theorem shown_perform {b : Books α} : ∀ {es : List (Effect α)}, .publish ∉ es →
    (b.perform es).inFlight.shown = b.inFlight.shown
  | [], _ => rfl
  | e :: es, h => by
    rw [List.mem_cons, not_or] at h
    have hrest := shown_perform (b := e.apply b) h.2
    rw [perform, List.foldl_cons, ← perform, hrest]
    rcases e with _ | _ | ⟨v, n⟩ | _ | _
    · rfl
    · rw [Effect.apply, InFlight.withdraw_eq]
    · cases v <;> rfl
    · rfl
    · exact absurd rfl h.1

/-- An operation that does anything shows the count once, as its last effect. -/
theorem effects_publish {b : Books α} {p : Posting α} (h : b.effects p ≠ []) :
    ∃ es, b.effects p = es ++ [.publish] ∧ .publish ∉ es := by
  cases p with
  | recorded t a =>
    simp only [effects] at h ⊢
    split_ifs at h ⊢
    · exact absurd rfl h
    · exact ⟨[.insert t a], rfl, by simp⟩
  | answered c =>
    simp only [effects] at h ⊢
    split_ifs at h ⊢
    · exact absurd rfl h
    · exact ⟨.remove c.toScope :: settling (b.inFlight.taken c.toScope) c.verdict, rfl,
        by cases c.verdict <;> simp [settling]⟩

/-- A confirm that has anything to do finds something in flight. -/
theorem size_of_answered {b : Books α} {c : Confirm} (h : b.effects (.answered c) ≠ []) :
    0 < b.inFlight.size := by
  simp only [effects] at h
  split at h
  · exact absurd rfl h
  · next hsome =>
    have hne : b.unanswered.filter (fun e => c.covers e.1) ≠ [] :=
      fun hnil => hsome (List.isEmpty_iff.2 ((taken_eq b c).trans hnil))
    obtain ⟨e, he⟩ := List.exists_mem_of_ne_nil _ hne
    exact List.length_pos_of_mem (List.mem_of_mem_filter he)

end Books

open Books

/-! ## Operations one after another -/

/-- The operations that are over, the one under way with the effects it still has to do, and the
books as they stand. -/
structure Work (α : Type u) where
  done : List (Posting α)
  current : Option (Posting α × List (Effect α))
  books : Books α

/-- An operation is over when no effect of it is left. -/
def Work.goOn (done : List (Posting α)) (p : Posting α) (b : Books α) : List (Effect α) → Work α
  | [] => ⟨done ++ [p], none, b⟩
  | e :: left => ⟨done, some (p, e :: left), b⟩

/-- One more effect takes place. Another operation begins only where none is under way. -/
inductive Step : Work α → Work α → Prop
  | start (done : List (Posting α)) (p : Posting α) (b : Books α) :
      Step ⟨done, none, b⟩ (Work.goOn done p b (b.effects p))
  | effect (done : List (Posting α)) (p : Posting α) (e : Effect α) (left : List (Effect α))
      (b : Books α) :
      Step ⟨done, some (p, e :: left), b⟩ (Work.goOn done p (e.apply b) left)

namespace Work

/-- The books as the operation under way found them. -/
def found (w : Work α) : Books α := (∅ : Books α).replay w.done

/-- Whether the work can come to this point. -/
def Reached (w : Work α) : Prop := Relation.ReflTransGen Step ⟨[], none, ∅⟩ w

/-- The books are those of the operations that are over, with the first effects of the one under
way, which has some left to do. -/
inductive Sound : Work α → Prop
  | idle (done : List (Posting α)) : Sound ⟨done, none, (∅ : Books α).replay done⟩
  | busy (done : List (Posting α)) (p : Posting α) (had : List (Effect α)) (e : Effect α)
      (left : List (Effect α)) (h : ((∅ : Books α).replay done).effects p = had ++ e :: left) :
      Sound ⟨done, some (p, e :: left), ((∅ : Books α).replay done).perform had⟩

theorem sound_goOn {done : List (Posting α)} {p : Posting α} {had : List (Effect α)} :
    ∀ {left : List (Effect α)}, ((∅ : Books α).replay done).effects p = had ++ left →
      Sound (goOn done p (((∅ : Books α).replay done).perform had) left)
  | [], h => by
    have hover : ((∅ : Books α).replay done).perform had = (∅ : Books α).replay (done ++ [p]) := by
      rw [List.append_nil] at h
      rw [← h, perform_effects, replay_append]
      rfl
    rw [goOn, hover]
    exact .idle _
  | e :: left, h => .busy done p had e left h

theorem sound_step {w w' : Work α} (hw : Sound w) (h : Step w w') : Sound w' := by
  cases hw with
  | idle done =>
    cases h with
    | start => exact sound_goOn (List.nil_append _).symm
  | busy done p had e left heffects =>
    cases h with
    | effect =>
      have hmore : ((∅ : Books α).replay done).effects p = (had ++ [e]) ++ left := by
        rw [heffects, List.append_assoc, List.singleton_append]
      have hsound := sound_goOn hmore
      rwa [perform_append] at hsound

theorem sound_of_reached {w : Work α} (h : w.Reached) : Sound w := by
  induction h with
  | refl => exact .idle []
  | tail _ hstep ih => exact sound_step ih hstep

/-! ## Every point of every history is reached -/

theorem reached_goOn {done : List (Posting α)} {p : Posting α} {left : List (Effect α)} :
    ∀ (had : List (Effect α)) {b : Books α}, Reached (goOn done p b (had ++ left)) →
      Reached (goOn done p (b.perform had) left)
  | [], _, h => h
  | _ :: had, _, h => reached_goOn had (h.tail (.effect ..))

theorem reached_later : ∀ (later : List (Posting α)) {done : List (Posting α)},
    Reached ⟨done, none, (∅ : Books α).replay done⟩ →
      Reached ⟨done ++ later, none, (∅ : Books α).replay (done ++ later)⟩
  | [], done, h => by rwa [List.append_nil]
  | p :: later, done, h => by
    have hstart := h.tail (.start done p _)
    rw [← List.append_nil (effects _ p)] at hstart
    have hover := reached_goOn _ hstart
    rw [perform_effects] at hover
    have hnext : Reached ⟨done ++ [p], none, (∅ : Books α).replay (done ++ [p])⟩ := by
      rwa [replay_append]
    have hrest := reached_later later hnext
    rwa [List.append_assoc] at hrest

theorem reached_of_sound {w : Work α} (h : Sound w) : w.Reached := by
  cases h with
  | idle done => exact reached_later done .refl
  | busy done p had e left h =>
    have hidle : Reached ⟨done, none, (∅ : Books α).replay done⟩ := reached_later done .refl
    have hstart := hidle.tail (.start done p _)
    rw [h] at hstart
    exact reached_goOn had hstart

/-! ## What may be seen on the way -/

/-- Until its last effect, an operation shows what was in flight when it began. -/
theorem shown_busy {w : Work α} (hw : Sound w) {p : Posting α} {left : List (Effect α)}
    (h : w.current = some (p, left)) : w.books.inFlight.shown = w.found.inFlight.size := by
  cases hw with
  | idle => simp at h
  | busy done p had e left heffects =>
    have hne : ((∅ : Books α).replay done).effects p ≠ [] := by simp [heffects]
    obtain ⟨es, hes, hno⟩ := effects_publish hne
    have hhad : .publish ∉ had := by
      -- the one publication is the last effect, and at least one effect is left
      intro hmem
      refine hno ?_
      rw [heffects] at hes
      have hlen := congrArg List.length hes
      have hpre := congrArg (List.take had.length) hes
      simp only [List.length_append, List.length_cons, List.length_nil] at hlen
      rw [List.take_left, List.take_append_of_le_length (by omega)] at hpre
      exact List.mem_of_mem_take (hpre ▸ hmem)
    exact (shown_perform hhad).trans (current_replay done current_empty)

theorem insert_only {b : Books α} {t : Tag} {a : α} {had left : List (Effect α)} {e : Effect α}
    (h : b.effects (.recorded t a) = had ++ e :: left) : had = [] ∨ e :: left = [.publish] := by
  simp only [effects] at h
  split at h
  · simp at h
  · rcases had with _ | ⟨_, _ | ⟨_, _⟩⟩ <;> simp_all

/-- Where a waiter sees zero and no item is put in and not shown yet, the operations that are over
have left these books. -/
theorem found_of_shown_zero {w : Work α} (hw : Sound w)
    (hadd : ∀ t a, w.current ≠ some (.recorded t a, [.publish]))
    (hzero : w.books.inFlight.shown = 0) : w.books = w.found ∧ w.found.unanswered = [] := by
  have hcurrent : w.found.Current := current_replay w.done current_empty
  cases hw with
  | idle done => exact ⟨rfl, List.eq_nil_of_length_eq_zero (hcurrent.symm.trans hzero)⟩
  | busy done p had e left heffects =>
    have hshown := shown_busy (.busy done p had e left heffects) rfl
    rw [hzero] at hshown
    cases p with
    | recorded t a =>
      rcases insert_only heffects with rfl | hlast
      · exact ⟨rfl, List.eq_nil_of_length_eq_zero hshown.symm⟩
      · exact absurd (by rw [hlast]) (hadd t a)
    | answered c =>
      have := size_of_answered (b := (∅ : Books α).replay done) (c := c) (by simp [heffects])
      exact absurd hshown.symm (Nat.ne_of_gt this)

end Work

open Work

/-- What a resolution took out is settled once, and nothing is not settled at all. -/
theorem InFlight.settled_once (f : InFlight α) (s : Scope) :
    (f.resolveWith s (fun taken runs => runs ++ [taken]) []).2.1
      = if f.taken s = [] then [] else [f.taken s] := by
  by_cases h : f.taken s = []
  · simp_all [InFlight.resolveWith, InFlight.taken]
  · simp_all [InFlight.resolveWith, InFlight.taken]

/-- Where nothing is left in flight, every recorded item is counted and the refused ones are
queued. -/
theorem all_settled {h : List (Posting α)} (hnone : ((∅ : Books α).replay h).unanswered = []) :
    let b := (∅ : Books α).replay h
    let rs := recordings (∅ : Books α) 0 h
    b.acked + b.nacked = rs.length
      ∧ ∃ queue : List (Recording α), queue.Perm (rs.filter (Recording.settledAs .nacked))
          ∧ b.rejected = queue.map Recording.item := by
  have hagrees := agrees h ∅ 0
  have hleft : (recordings (∅ : Books α) 0 h).countP Recording.undecided = 0 := by
    have hlen := hagrees.unanswered.length_eq
    rw [hnone, List.length_map, account_empty, ← List.countP_eq_length_filter] at hlen
    exact hlen.symm
  refine ⟨?_, ?_⟩
  · have hsum := settled_or_undecided (recordings (∅ : Books α) 0 h)
    rw [hleft, Nat.add_zero] at hsum
    rw [hagrees.acked, hagrees.nacked, account_empty, ← hsum]
    simp
  · obtain ⟨queue, hqueue, -, heq⟩ := hagrees.rejected
    exact ⟨queue, hqueue, by simpa using heq⟩

/-- A waiter may look between any two effects. If it sees zero, and no item is put in and not shown
yet, then nothing is in flight, every recorded item is counted by its verdict, and every refused one
is queued. What a resolution took out is settled once, and not at all if that is nothing; and
meanwhile a waiter sees what was in flight before. -/
theorem settled_of_shown_zero :
    (∀ (b : Books α) (p : Posting α), b.perform (b.effects p) = b.post p)
      ∧ (∀ w : Work α, w.Reached → (∀ t a, w.current ≠ some (.recorded t a, [.publish])) →
          w.books.inFlight.shown = 0 →
            let rs := recordings (∅ : Books α) 0 w.done
            w.books.inFlight.isEmpty = true ∧ w.books.acked + w.books.nacked = rs.length
              ∧ ∃ queue : List (Recording α), queue.Perm (rs.filter (Recording.settledAs .nacked))
                  ∧ w.books.rejected = queue.map Recording.item)
      ∧ (∀ (f : InFlight α) (s : Scope),
          (f.resolveWith s (fun taken runs => runs ++ [taken]) []).2.1
            = if f.taken s = [] then [] else [f.taken s])
      ∧ ∀ w : Work α, w.Reached → ∀ c left, w.current = some (.answered c, left) →
          w.books.inFlight.shown = w.found.inFlight.size ∧ 0 < w.found.inFlight.size := by
  refine ⟨perform_effects, ?_, InFlight.settled_once, ?_⟩
  · intro w hw hadd hzero rs
    obtain ⟨hbooks, hnone⟩ := found_of_shown_zero (sound_of_reached hw) hadd hzero
    have hempty : w.found.inFlight.isEmpty = true := by
      rw [InFlight.isEmpty, size_inFlight, hnone]
      rfl
    rw [hbooks]
    exact ⟨hempty, all_settled hnone⟩
  · intro w hw c left hcurrent
    have hsound := sound_of_reached hw
    refine ⟨shown_busy hsound hcurrent, ?_⟩
    cases hsound with
    | idle => simp at hcurrent
    | busy done p had e left' heffects =>
      obtain ⟨rfl, -⟩ := Prod.mk.inj (Option.some.inj hcurrent)
      exact size_of_answered (b := (∅ : Books α).replay done) (c := c) (by simp [heffects])

/-- Two items are recorded, and one confirm refuses both. With the refusal counted and the items not
queued yet, a waiter still sees two; it sees zero when they are queued. -/
theorem settled_of_shown_zero_refused :
    let done : List (Posting String) := [.recorded 1 "a", .recorded 2 "b"]
    let refusal := Confirm.nack 2 true
    let counted : Work String := ⟨done, some (.answered refusal, [.queue ["a", "b"], .publish]),
      ((∅ : Books String).replay done).perform [.remove refusal.toScope, .count .nacked 2]⟩
    let finished : Work String := ⟨done ++ [.answered refusal], none,
      (∅ : Books String).replay (done ++ [.answered refusal])⟩
    (counted.Reached ∧ counted.books.nacked = 2 ∧ counted.books.rejected = []
        ∧ counted.books.inFlight.shown = 2)
      ∧ finished.Reached ∧ finished.books.inFlight.shown = 0
        ∧ finished.books.acked + finished.books.nacked = 2
        ∧ finished.books.rejected.length = 2 := by
  intro done refusal counted finished
  have hcounted : counted.Reached :=
    reached_of_sound (.busy done _ [.remove refusal.toScope, .count .nacked 2] _ _ rfl)
  have hfinished : finished.Reached := reached_of_sound (.idle _)
  obtain ⟨-, hzero, -, hmeanwhile⟩ := settled_of_shown_zero (α := String)
  obtain ⟨-, hcount, queue, hqueue, heq⟩ := hzero finished hfinished (by simp [finished]) rfl
  exact ⟨⟨hcounted, rfl, rfl, (hmeanwhile counted hcounted refusal _ rfl).1⟩, hfinished, rfl,
    hcount, by rw [heq, List.length_map, hqueue.length_eq]; rfl⟩

end ConfirmedDelivery
