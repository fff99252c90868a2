import ConfirmedDelivery.Proofs.Broker.Calls

/-!
# What depends on the way to report

Only a pass reads how its session reports, and only it writes to the log. Every other operation does
the same to two brokers that differ in nothing but that (`Broker.recast`).
-/

namespace ConfirmedDelivery.Broker

/-- A session that reports in this way. -/
def Session.recast (mode : Reporting) (s : Session) : Session := { s with reporting := mode }

/-- The broker whose session `n` reports in this way, and with this log. -/
def recast (b : Broker) (n : Nat) (mode : Reporting) (log : List ConfirmRecord) : Broker :=
  { b with
    reporting := mode
    sessions := (b.update n (Session.recast mode)).sessions
    confirms := log }

/-- What a broker has before it: when it is, and which sessions are to pass when. -/
structure Agenda where
  waits : Nat
  now : Nat
  ready : List Nat
  due : Dict Nat (List Nat)

def agenda (b : Broker) : Agenda := ⟨b.waits, b.now, b.ready, b.due⟩

/-- The broker with another agenda. -/
def rearranged (b : Broker) (f : Agenda → Agenda) : Broker :=
  let a := f b.agenda
  { b with waits := a.waits, now := a.now, ready := a.ready, due := a.due }

section Recast

variable {b : Broker} {n : Nat} {mode : Reporting} {log : List ConfirmRecord}

theorem session?_recast (m : Nat) :
    (b.recast n mode log).session? m
      = if n = m then (b.session? m).map (Session.recast mode) else b.session? m :=
  session?_updated rfl m

theorem session?_recast_self :
    (b.recast n mode log).session? n = (b.session? n).map (Session.recast mode) := by
  rw [session?_recast, if_pos rfl]

theorem session?_recast_other {m : Nat} (h : m ≠ n) :
    (b.recast n mode log).session? m = b.session? m := by
  rw [session?_recast, if_neg (Ne.symm h)]

theorem nextTag_recast : (b.recast n mode log).nextTag n = b.nextTag n := by
  unfold Broker.nextTag
  rw [session?_recast_self, Option.map_map]
  rfl

theorem allConfirmed_recast : (b.recast n mode log).allConfirmed n = b.allConfirmed n := by
  unfold allConfirmed
  rw [session?_recast_self, Option.map_map]
  rfl

theorem queued_recast (m : Nat) : (b.recast n mode log).queued m = b.queued m := by
  unfold queued
  rw [session?_recast]
  split_ifs
  · rw [Option.map_map]
    rfl
  · rfl

theorem openSession?_recast :
    (b.recast n mode log).openSession? n = (b.openSession? n).map (Session.recast mode) := by
  unfold openSession?
  rw [session?_recast_self]
  cases b.session? n with
  | none => rfl
  | some s =>
    change (if s.closed then _ else _) = _
    dsimp only
    split_ifs <;> rfl

/-- Changes to the session that have nothing to do with how it reports. -/
theorem change_recast {f g : Session → Session} (h : ∀ s, g (s.recast mode) = (f s).recast mode)
    (queues : Dict String (List Delivery)) (log' log'' : List ConfirmRecord) :
    (b.recast n mode log).change n g queues log'
      = (b.change n f queues log'').recast n mode log' := by
  have hcomp : g ∘ Session.recast mode = Session.recast mode ∘ f := funext h
  have hsessions : ((b.recast n mode log).update n g).sessions
      = ((b.change n f queues log'').update n (Session.recast mode)).sessions := by
    cases n with
    | zero => rfl
    | succ n =>
      change (b.sessions.modify n _).modify n g = (b.sessions.modify n f).modify n _
      rw [List.modify_modify_eq, List.modify_modify_eq, hcomp]
  unfold change at hsessions ⊢
  rw [hsessions]
  rfl

theorem change_recast_other {m : Nat} (hm : m ≠ n) (f : Session → Session)
    (queues : Dict String (List Delivery)) (log' log'' : List ConfirmRecord) :
    (b.recast n mode log).change m f queues log'
      = (b.change m f queues log'').recast n mode log' := by
  have hsessions : ((b.recast n mode log).update m f).sessions
      = ((b.change m f queues log'').update n (Session.recast mode)).sessions := by
    cases n with
    | zero => cases m <;> rfl
    | succ n =>
      cases m with
      | zero => rfl
      | succ m =>
        change (b.sessions.modify n _).modify m f = (b.sessions.modify m f).modify n _
        exact List.modify_modify_ne _ _ _ fun h => hm (congrArg Nat.succ h.symm)
  unfold change at hsessions ⊢
  rw [hsessions]
  rfl

theorem update_recast {f : Session → Session} (h : ∀ s, f (s.recast mode) = (f s).recast mode) :
    (b.recast n mode log).update n f = (b.update n f).recast n mode log := by
  rw [update_eq, update_eq]
  exact change_recast h _ _ _

theorem wake_recast : (b.recast n mode log).wake n = (b.wake n).recast n mode log := by
  unfold wake
  change (if b.ready.contains n || b.due.values.any _ then _ else _) = _
  split_ifs
  · rfl
  · cases n <;> rfl

theorem shut_recast : (b.recast n mode log).shut n = (b.shut n).recast n mode log := by
  have hupdate : (b.recast n mode log).update n Session.shut
      = (b.update n Session.shut).recast n mode log := update_recast fun _ => rfl
  unfold shut
  rw [hupdate]
  cases n <;> rfl

/-- The same answer of the broker whose session `n` reports in this way. -/
def recastAnswer {α : Type} (n : Nat) (mode : Reporting) (log : List ConfirmRecord) (r : Answer α) :
    Answer α := { r with state := r.state.recast n mode log }

theorem recastAnswer_ite {α : Type} {c : Prop} [Decidable c] {r r' t t' : Answer α}
    (h : r' = recastAnswer n mode log r) (h' : t' = recastAnswer n mode log t) :
    (if c then r' else t') = recastAnswer n mode log (if c then r else t) := by
  split_ifs
  · exact h
  · exact h'

theorem declare_recast (destination : String) :
    (b.recast n mode log).declare n destination
      = recastAnswer n mode log (b.declare n destination) := by
  unfold declare
  rw [openSession?_recast]
  cases b.openSession? n with
  | error fault => rfl
  | ok s => cases n <;> rfl

theorem close_recast :
    (b.recast n mode log).close n = recastAnswer n mode log (b.close n) := by
  unfold Broker.close
  rw [openSession?_recast]
  cases b.openSession? n with
  | error fault => rfl
  | ok s =>
    change Reply.mk _ _ _ ((b.recast n mode log).shut n) = _
    rw [shut_recast]
    rfl

theorem transmit_recast (destination : String) (properties : Properties) (body : ByteArray) :
    (b.recast n mode log).transmit n destination properties body
      = recastAnswer n mode log (b.transmit n destination properties body) := by
  unfold transmit
  rw [openSession?_recast]
  cases b.openSession? n with
  | error fault => rfl
  | ok s =>
    let b' : Broker := { b with
      transmits := b.transmits + 1
      attempts := Tally.bump properties.messageId b.attempts
      deliveries := b.deliveries ++ [b.sentAs n s.nextTag destination properties body] }
    let sent := Session.sent (b.sentAs n s.nextTag destination properties body)
    have hupdate : (b'.recast n mode log).update n sent = (b'.update n sent).recast n mode log :=
      update_recast fun _ => rfl
    have hwake : ((b'.recast n mode log).update n sent).wake n
        = ((b'.update n sent).wake n).recast n mode log := by rw [hupdate, wake_recast]
    refine recastAnswer_ite rfl (recastAnswer_ite ?_ (recastAnswer_ite ?_ ?_))
    · cases n <;> rfl
    · cases n <;> exact congrArg (Reply.mk _ _ _) hwake
    · cases n <;> rfl

/-- A pass of the session tells in its own way what it has to tell. -/
theorem passFirst_recast {s : Session} (hs : b.session? n = some s) (k : Nat) :
    (b.recast n mode log).passFirst k n
      = ((b.passFirst k n).1.recast n mode
          (log ++ ((s.recast mode).told k).map (ConfirmRecord.mk n)),
        heardBy n s.listener ((s.recast mode).told k)) := by
  have hs' : (b.recast n mode log).session? n = some (s.recast mode) := by
    rw [session?_recast_self, hs, Option.map_some]
  have hpassed : ∀ _ : Session, (s.recast mode).passed k = (s.passed k).recast mode := fun _ => rfl
  rw [passFirst_exact hs', passFirst_exact hs]
  refine Prod.ext ?_ rfl
  exact change_recast (f := fun _ => s.passed k) (g := fun _ => (s.recast mode).passed k) hpassed
    _ _ _

/-- A pass of another session is the same however this one reports. -/
theorem passFirst_recast_other {m : Nat} (hm : m ≠ n) (b : Broker) (k : Nat) :
    ∃ told : List Confirm, ∀ mode log, (b.recast n mode log).passFirst k m
      = ((b.passFirst k m).1.recast n mode (log ++ told.map (ConfirmRecord.mk m)),
        (b.passFirst k m).2) := by
  cases hs : b.session? m with
  | none =>
    refine ⟨[], fun mode log => ?_⟩
    rw [passFirst_none hs, passFirst_none ((session?_recast_other hm).trans hs), List.map_nil,
      List.append_nil]
  | some s =>
    refine ⟨s.told k, fun mode log => ?_⟩
    rw [passFirst_exact hs, passFirst_exact ((session?_recast_other hm).trans hs)]
    exact Prod.ext (change_recast_other hm _ _ _ _) rfl

end Recast

end ConfirmedDelivery.Broker
