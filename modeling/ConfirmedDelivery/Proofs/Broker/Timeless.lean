import ConfirmedDelivery.Proofs.Broker.Coming
import ConfirmedDelivery.Proofs.Broker.Excerpt

/-!
# Brokers without their clock

Of the clock a broker without it knows only who is to pass, and in which order (`timeless`). Every call
does to it what it does to the broker itself, and a wait leads to where all who are to pass have passed
(`outcome`): a pass does not look at the clock at all (`pass_bare`).
-/

namespace ConfirmedDelivery.Broker

/-- The broker as if nobody was to pass, and no session had a delay. -/
def bare (b : Broker) : Broker :=
  { b with
    delay := .zero
    sessions := b.sessions.map Session.timeless
    now := 0
    ready := []
    due := ∅ }

/-- The broker as if no session had a delay and there were no clock. -/
def timeless (b : Broker) : Broker := { b.bare with ready := b.coming }

/-- The broker as if no session had a delay: whoever is to pass can do so at once. -/
def undelayed (b : Broker) : Broker := { b.timeless with now := b.now }

/-- What becomes of the broker when all who are to pass have passed, and what is heard of it. -/
def outcome (b : Broker) : Broker × List Heard := passAll b.coming b.bare

section Sessions

variable {b b' : Broker} {n : Nat} {s : Session}

theorem session?_bare (b : Broker) (m : Nat) :
    b.bare.session? m = (b.session? m).map Session.timeless := by
  cases m with
  | zero => rfl
  | succ m => exact List.getElem?_map ..

theorem session?_timeless (b : Broker) (m : Nat) :
    b.timeless.session? m = (b.session? m).map Session.timeless := session?_bare b m

theorem opened_timeless (b : Broker) : b.timeless.opened = b.opened := List.length_map _

theorem bare_undelayed (b : Broker) : b.undelayed.bare = b.bare := by
  have hsessions : (b.sessions.map Session.timeless).map Session.timeless
      = b.sessions.map Session.timeless := List.map_map
  exact congrArg (fun sessions => { b.bare with sessions }) hsessions

/-- Who is to pass does not change if all can do so at once. -/
theorem timeless_undelayed (b : Broker) : b.undelayed.timeless = b.timeless :=
  congrArg (fun t : Broker => { t with ready := b.coming }) b.bare_undelayed

theorem openSession?_timeless :
    b.timeless.openSession? n = (b.openSession? n).map Session.timeless := by
  unfold openSession?
  rw [session?_timeless]
  cases b.session? n with
  | none => rfl
  | some s =>
    change (if s.closed then _ else _) = _
    dsimp only
    split_ifs <;> rfl

theorem allConfirmed_bare (b : Broker) (n : Nat) : b.bare.allConfirmed n = b.allConfirmed n := by
  unfold allConfirmed
  rw [session?_bare, Option.map_map]
  rfl

theorem nextTag_timeless (b : Broker) (n : Nat) : b.timeless.nextTag n = b.nextTag n := by
  unfold Broker.nextTag
  rw [session?_timeless, Option.map_map]
  rfl

/-- What is done to a session does not depend on its delay. -/
theorem sessions_update_bare {f g : Session → Session}
    (h : ∀ s, (f s).timeless = g s.timeless) :
    (b.update n f).sessions.map Session.timeless = (b.bare.update n g).sessions := by
  cases n with
  | zero => rfl
  | succ n =>
    change (b.sessions.modify n f).map Session.timeless = (b.sessions.map Session.timeless).modify n g
    refine List.ext_getElem? fun i => ?_
    rw [List.getElem?_map, List.getElem?_modify, List.getElem?_modify, List.getElem?_map]
    rcases b.sessions[i]? with _ | s
    · rfl
    · split_ifs
      · exact congrArg some (h s)
      · rfl

end Sessions

/-! ## Passes -/

section Passes

variable {b : Broker} {n : Nat} {s : Session}

theorem change_bare {f g : Session → Session} (h : ∀ s, (f s).timeless = g s.timeless)
    (queues : Dict String (List Delivery)) (confirms : List ConfirmRecord) :
    (b.change n f queues confirms).bare = b.bare.change n g queues confirms := by
  have hsessions := sessions_update_bare (b := b) (n := n) h
  unfold change
  cases n with
  | zero => rfl
  | succ n => exact congrArg (fun sessions => { b.bare with sessions, queues, confirms }) hsessions

/-- A pass does not look at the clock. -/
theorem passFirst_bare (b : Broker) (k n : Nat) :
    b.bare.passFirst k n = ((b.passFirst k n).1.bare, (b.passFirst k n).2) := by
  have hsession := session?_bare b n
  rcases hs : b.session? n with _ | s
  · rw [hs] at hsession
    rw [passFirst_none hs, passFirst_none hsession]
  · rw [hs] at hsession
    rw [passFirst_exact hs, passFirst_exact hsession]
    refine Prod.ext ?_ rfl
    exact (change_bare (f := fun _ => s.passed k) (g := fun _ => s.timeless.passed k)
      (fun _ => rfl) _ _).symm

theorem pass_bare (b : Broker) (n : Nat) : b.bare.pass n = ((b.pass n).1.bare, (b.pass n).2) := by
  have hqueued : b.bare.queued n = b.queued n := by
    unfold queued
    rw [session?_bare, Option.map_map]
    rfl
  unfold pass
  rw [hqueued]
  exact passFirst_bare ..

/-- A session with nothing to report has passed already. -/
theorem pass_spent (hs : b.session? n = some s) (hspent : s.Spent) (hqueue : s.queue = []) :
    b.pass n = (b, []) := by
  have hqueued : b.queued n = 0 := by
    unfold queued
    rw [hs]
    exact congrArg List.length hqueue
  have hsame : (b.update n fun _ => s) = b := by
    cases n with
    | zero => rfl
    | succ n =>
      have hmodify : b.sessions.modify n (fun _ => s) = b.sessions := by
        refine List.ext_getElem? fun i => ?_
        rw [List.getElem?_modify]
        split_ifs with hi
        · obtain rfl := hi
          have hi : b.sessions[n]? = some s := hs
          rw [hi]
          rfl
        · exact id_map _
      exact congrArg (fun sessions => { b with sessions }) hmodify
  unfold pass
  rw [hqueued, passFirst_exact hs, hspent.passed_zero, hspent.accepted, hspent.told]
  refine Prod.ext ?_ rfl
  rw [List.map_nil, List.append_nil]
  exact (update_eq b n _).symm.trans hsame

end Passes

/-! ## Calls -/

section Calls

variable {b : Broker} {n : Nat}

theorem push_timeless (s : Session) : (b.push s).timeless = b.timeless.push s.timeless :=
  congrArg (fun sessions => { b.timeless with sessions }) List.map_append

/-- What is done to a session, and to what has nothing to do with the clock. -/
theorem update_timeless {f g : Session → Session} (h : ∀ s, (f s).timeless = g s.timeless) :
    (b.update n f).timeless = b.timeless.update n g := by
  have hsessions := sessions_update_bare (b := b) (n := n) h
  cases n with
  | zero => rfl
  | succ n => exact congrArg (fun sessions => { b.timeless with sessions }) hsessions

theorem listen_timeless (l : Nat) : (b.listen n l).timeless = b.timeless.listen n l :=
  update_timeless fun _ => rfl

/-- The same answer of a broker without its clock. -/
def timelessAnswer {α : Type} (r : Answer α) : Answer α := { r with state := r.state.timeless }

theorem timelessAnswer_ite {α : Type} {c : Prop} [Decidable c] {r r' t t' : Answer α}
    (h : r' = timelessAnswer r) (h' : t' = timelessAnswer t) :
    (if c then r' else t') = timelessAnswer (if c then r else t) := by
  split_ifs
  · exact h
  · exact h'

theorem ready_timeless (ns : List Nat) :
    ({ b with ready := b.ready ++ ns } : Broker).timeless
      = { b.timeless with ready := b.timeless.ready ++ ns } :=
  congrArg (fun ready => { b.timeless with ready }) (List.append_assoc ..).symm

theorem enableConfirms_timeless :
    b.timeless.enableConfirms n = timelessAnswer (b.enableConfirms n) := by
  unfold enableConfirms
  rw [openSession?_timeless]
  cases b.openSession? n with
  | error fault => rfl
  | ok s =>
    have hready := ready_timeless (b := b.update n (Session.enabled b)) [n]
    rw [update_timeless (g := Session.enabled b.timeless) fun _ => rfl] at hready
    exact timelessAnswer_ite rfl (congrArg (Reply.quiet (.ok ())) hready.symm)

theorem declare_timeless (destination : String) :
    b.timeless.declare n destination = timelessAnswer (b.declare n destination) := by
  unfold declare
  rw [openSession?_timeless]
  cases b.openSession? n <;> rfl

theorem wake_timeless : (b.wake n).timeless = b.timeless.wake n := by
  have hcoming : b.timeless.coming = b.coming := rfl
  rw [wake_woken, wake_woken]
  unfold woken
  rw [hcoming]
  split_ifs
  · rfl
  · exact ready_timeless [n]

theorem transmit_timeless (destination : String) (properties : Properties) (body : ByteArray) :
    b.timeless.transmit n destination properties body
      = timelessAnswer (b.transmit n destination properties body) := by
  unfold transmit
  rw [openSession?_timeless]
  cases b.openSession? n with
  | error fault => rfl
  | ok s =>
    let b' : Broker := { b with
      transmits := b.transmits + 1
      attempts := Tally.bump properties.messageId b.attempts
      deliveries := b.deliveries ++ [b.sentAs n s.nextTag destination properties body] }
    let sent := Session.sent (b.sentAs n s.nextTag destination properties body)
    have hwake : (b'.timeless.update n sent).wake n = ((b'.update n sent).wake n).timeless := by
      rw [wake_timeless, update_timeless (g := sent) fun _ => rfl]
    refine timelessAnswer_ite rfl (timelessAnswer_ite rfl (timelessAnswer_ite ?_ rfl))
    exact congrArg (Reply.mk _ _ _) hwake

theorem shut_timeless : (b.shut n).timeless = b.timeless.shut n := by
  have hupdate : (b.update n Session.shut).timeless = b.timeless.update n Session.shut :=
    update_timeless fun _ => rfl
  have hscheduled : (b.shut n).scheduled = b.scheduled.filter (· ≠ n) := by
    have hdue : (b.shut n).due = b.due.mapValues fun _ ns => ns.filter (· ≠ n) := by
      unfold shut
      rw [update_eq]
      rfl
    unfold scheduled Dict.values
    rw [hdue, List.filter_flatten, List.map_map]
    unfold Dict.mapValues
    rw [List.map_map]
    rfl
  have hcoming : (b.shut n).coming = b.coming.filter (· ≠ n) := by
    unfold coming
    rw [hscheduled, ready_shut, List.filter_append]
  have htimeless : (b.shut n).timeless = { (b.update n Session.shut).timeless with
      closed := b.closed + 1, ready := (b.shut n).coming } := by
    unfold shut
    cases n <;> rfl
  rw [htimeless, hcoming, hupdate]
  unfold shut
  cases n <;> rfl

theorem close_timeless : b.timeless.close n = timelessAnswer (b.close n) := by
  unfold Broker.close
  rw [openSession?_timeless]
  cases b.openSession? n with
  | error fault => rfl
  | ok s => exact congrArg (Reply.mk _ _ _) shut_timeless.symm

end Calls

end ConfirmedDelivery.Broker
