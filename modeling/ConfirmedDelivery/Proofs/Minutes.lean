import ConfirmedDelivery.Proofs.Repeated

/-!
# Minutes

A link can take minutes (`Link.minuted`): every call and how it came back, and every confirm that was
handed over, in the order in which it came. It answers as before (`minuted_alike`), and its calls are
those that a traced link writes down (`traced_alike`).
-/

namespace ConfirmedDelivery

variable {σ α : Type}

/-- How a call came back. -/
inductive Ending where
  | well
  | faulty (fault : LinkFault)
  /-- A message got another tag than the one announced for it. -/
  | mismatched (assigned : Tag)
  /-- The time was up. -/
  | late

/-- How a call came back, where `judge` says what of an answer. -/
def Ending.of (judge : α → Ending) : Except LinkFault α → Ending
  | .ok a => judge a
  | .error fault => .faulty fault

/-- What is written down: a call, or a confirm that was handed over. -/
inductive Minute where
  | called (call : Call) (ending : Ending)
  | heard (confirm : Confirm)

namespace Minute

def call? : Minute → Option (Call × Ending)
  | .called c e => some (c, e)
  | .heard _ => none

def passage? : Minute → Option Passage
  | .called (.transmit announced destination properties body) _ =>
    some (.sent announced ⟨destination, properties, body⟩)
  | .called _ _ => none
  | .heard c => some (.heard c)

def calls (ms : List Minute) : List (Call × Ending) := ms.filterMap call?

/-- What is heard of the sessions by who listens to what is sent and to the confirms. -/
def passages (ms : List Minute) : List Passage := ms.filterMap passage?

@[simp] theorem calls_append (ms ns : List Minute) : calls (ms ++ ns) = calls ms ++ calls ns :=
  List.filterMap_append

@[simp] theorem calls_heard : ∀ cs : List Confirm, calls (cs.map .heard) = []
  | [] => rfl
  | _ :: cs => calls_heard cs

@[simp] theorem passages_append (ms ns : List Minute) :
    passages (ms ++ ns) = passages ms ++ passages ns := List.filterMap_append

@[simp] theorem passages_heard : ∀ cs : List Confirm, passages (cs.map .heard) = cs.map .heard
  | [] => rfl
  | c :: cs => congrArg (Passage.heard c :: ·) (passages_heard cs)

end Minute

/-- A state and the minutes taken so far. -/
structure Minuted (σ : Type) where
  state : σ
  minutes : List Minute

namespace Minuted

def start (s : σ) : Minuted σ := ⟨s, []⟩

def entry (c : Call) (judge : α → Ending) (r : Reply Confirm σ α) : List Minute :=
  .called c (.of judge r.answer) :: r.events.map .heard

def write (m : Minuted σ) (c : Call) (judge : α → Ending) (f : σ → Reply Confirm σ α) :
    Reply Confirm (Minuted σ) α :=
  let r := f m.state
  ⟨r.answer, r.events, r.notes, r.state, m.minutes ++ entry c judge r⟩

@[simp] theorem calls_entry (c : Call) (judge : α → Ending) (r : Reply Confirm σ α) :
    Minute.calls (entry c judge r) = [(c, .of judge r.answer)] :=
  congrArg (List.cons (c, Ending.of judge r.answer)) (Minute.calls_heard r.events)

end Minuted

/-- The same lull, with what is handed over written down. -/
def Lull.minuted (minutes : List Minute) : Lull Confirm σ → Lull Confirm (Minuted σ)
  | .timeUp events s => .timeUp events ⟨s, minutes ++ events.map .heard⟩
  | .stir events s next =>
    .stir events ⟨s, minutes ++ events.map .heard⟩ (next.minuted (minutes ++ events.map .heard))

/-- The link with minutes taken of all that happens on it. -/
def Link.minuted (l : Link σ) : Link (Minuted σ) where
  openSession m := m.write .openSession (fun _ => .well) l.openSession
  listen m := ⟨l.listen m.state, m.minutes ++ [.called .listen .well]⟩
  enableConfirms m := m.write .enableConfirms (fun _ => .well) l.enableConfirms
  nextTag m := l.nextTag m.state
  declare d m := m.write (.declare d) (fun _ => .well) (l.declare d)
  transmit d p body m :=
    m.write (.transmit (l.nextTag m.state) d p body)
      (fun tag => if tag = l.nextTag m.state then .well else .mismatched tag) (l.transmit d p body)
  awaitConfirms timeout m :=
    m.write (.awaitConfirms timeout) (fun inTime => if inTime then .well else .late)
      (l.awaitConfirms timeout)
  lull timeout m := (l.lull timeout m.state).minuted m.minutes
  close m := m.write .close (fun _ => .well) l.close
  clock m := l.clock m.state

section Alike

theorem write_alike {m : Minuted σ} {s : σ} (h : m.state = s) (c : Call) (judge : α → Ending)
    (f : σ → Reply Confirm σ α) : (m.write c judge f).Alike (fun m s => m.state = s) (f s) := by
  subst h
  exact ⟨rfl, rfl, rfl⟩

theorem lull_minuted_alike : ∀ (lull : Lull Confirm σ) (minutes : List Minute),
    (lull.minuted minutes).Alike (fun m s => m.state = s) lull
  | .timeUp _ _, _ => ⟨rfl, rfl⟩
  | .stir _ _ next, _ => ⟨rfl, rfl, lull_minuted_alike next _⟩

theorem minuted_alike (l : Link σ) : l.minuted.Alike (fun m s => m.state = s) l where
  openSession h := write_alike h _ _ _
  listen h := congrArg l.listen h
  enableConfirms h := write_alike h _ _ _
  nextTag h := congrArg l.nextTag h
  declare _ h := write_alike h _ _ _
  transmit _ _ _ h := write_alike h _ _ _
  awaitConfirms _ h := write_alike h _ _ _
  lull _ h := by subst h; exact lull_minuted_alike _ _
  close h := write_alike h _ _ _
  clock h := congrArg l.clock h

/-- Minutes and a trace of the same calls. -/
def SameCalls (m : Minuted σ) (t : Traced σ) : Prop :=
  m.state = t.state ∧ (Minute.calls m.minutes).map Prod.fst = t.calls

theorem write_traced {m : Minuted σ} {t : Traced σ} (h : SameCalls m t) (c : Call)
    (judge : α → Ending) (f : σ → Reply Confirm σ α) :
    (m.write c judge f).Alike SameCalls (t.record c f) := by
  obtain ⟨s, minutes⟩ := m
  obtain ⟨rfl, hcalls⟩ := h
  refine ⟨?_, rfl, rfl, ?_⟩
  · simp only [Minuted.write, Traced.record, Reply.map]
    cases (f t.state).answer <;> rfl
  · simpa [Minuted.write, Traced.record, Reply.map, Traced.calls] using hcalls

theorem lull_traced_alike {reversed : List Call} : ∀ (lull : Lull Confirm σ) {minutes : List Minute},
    (Minute.calls minutes).map Prod.fst = reversed.reverse →
    (lull.minuted minutes).Alike SameCalls (lull.map (fun events _ => events) (⟨·, reversed⟩))
  | .timeUp _ _, _, h => ⟨rfl, rfl, by simpa [Traced.calls] using h⟩
  | .stir _ _ next, _, h =>
    ⟨rfl, ⟨rfl, by simpa [Traced.calls] using h⟩, lull_traced_alike next (by simpa using h)⟩

theorem traced_alike (l : Link σ) : l.minuted.Alike SameCalls l.traced where
  openSession h := write_traced h _ _ _
  listen h := ⟨congrArg l.listen h.1, by
    simpa [Link.minuted, Link.traced, Traced.calls, Minute.calls, Minute.call?] using h.2⟩
  enableConfirms h := write_traced h _ _ _
  nextTag h := congrArg l.nextTag h.1
  declare _ h := write_traced h _ _ _
  transmit {m t} _ _ _ h := by
    have hnext : l.nextTag m.state = l.nextTag t.state := congrArg l.nextTag h.1
    simp only [Link.minuted, Link.traced, hnext]
    exact write_traced h _ _ _
  awaitConfirms _ h := write_traced h _ _ _
  lull {m t} timeout h := by
    obtain ⟨s, minutes⟩ := m
    obtain ⟨rfl, hcalls⟩ := h
    exact lull_traced_alike _ hcalls
  close h := write_traced h _ _ _
  clock h := congrArg l.clock h.1

end Alike

namespace Publisher

variable (p : Publisher) (link : Link σ)

/-- To take minutes makes no difference to a round. -/
theorem conduct_minuted (number : Nat) (messages : List Message) (m : Journaled (Minuted σ)) :
    let r := p.conduct link.minuted number messages m
    let r' := p.conduct link number messages ⟨m.state.state, m.journal⟩
    r.1 = r'.1 ∧ r.2.state.state = r'.2.state :=
  Round.alike_conduct p.settings number (minuted_alike link)
    (show m.state.state = (⟨m.state.state, m.journal⟩ : Journaled σ).state from rfl) messages

/-- Nor does it to a call, and they hold the very calls that are made. -/
theorem publishAll_minuted (messages : List Message) (j : Journaled σ) :
    let r := p.publishAll link.minuted messages ⟨.start j.state, j.journal⟩
    r.1 = (p.publishAll link messages j).1
      ∧ r.2.state.state = (p.publishAll link messages j).2.state
      ∧ (Minute.calls r.2.state.minutes).map Prod.fst
        = (p.publishAll link.traced messages ⟨.start j.state, j.journal⟩).2.state.calls := by
  have hplain := p.publishAll_alike (minuted_alike link)
    (show (⟨.start j.state, j.journal⟩ : Journaled (Minuted σ)).state.state = j.state from rfl)
    messages
  have htraced := p.publishAll_alike (traced_alike link)
    (show SameCalls (⟨.start j.state, j.journal⟩ : Journaled (Minuted σ)).state
      (⟨.start j.state, j.journal⟩ : Journaled (Traced σ)).state from ⟨rfl, rfl⟩) messages
  exact ⟨hplain.1, hplain.2, htraced.2.2⟩

end Publisher

end ConfirmedDelivery
