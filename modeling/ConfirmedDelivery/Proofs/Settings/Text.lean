import ConfirmedDelivery.Proofs.Json.Record
import ConfirmedDelivery.Settings.Text

/-!
# Settings read back

The text that settings are written as holds those settings again, if their numbers of seconds are
numbers and their counts fit their types. So does any part of it: whatever fields are kept, at the
top and within `retry`, in any order, with blanks anywhere and other members among them, those fields
have their values and the others the standard ones (`Settings.ofText_kept`).
-/

namespace ConfirmedDelivery

open Json

theorem if_mem_cons {α : Type} {x n : String} {names : List String} (a b : α) :
    (if x ∈ names then a else if x ∈ [n] then a else b) = if x ∈ n :: names then a else b := by
  simp only [List.mem_cons, List.not_mem_nil, or_false]
  split_ifs <;> simp_all

/-! ## Retry limits -/

namespace RetryLimits

/-- What a text can express. -/
structure Expressible (l : RetryLimits) : Prop where
  maxRounds : ∀ n ∈ l.maxRounds, n < twoPow 32
  deadlineSecs : ∀ x ∈ l.deadlineSecs, x.isFinite = true

/-- The named fields of `l`, the others from `r`. -/
def onto (l : RetryLimits) (names : List String) (r : RetryLimits) : RetryLimits where
  maxRounds := if "max_rounds" ∈ names then l.maxRounds else r.maxRounds
  deadlineSecs := if "deadline_secs" ∈ names then l.deadlineSecs else r.deadlineSecs

theorem foldl_onto (l : RetryLimits) : ∀ (names : List String) (r : RetryLimits),
    names.foldl (fun r n => l.onto [n] r) r = l.onto names r
  | [], _ => rfl
  | n :: names, r => by
    rw [List.foldl_cons, foldl_onto l names]
    unfold onto
    simp only [if_mem_cons]

theorem takes_fields {l : RetryLimits} (h : l.Expressible) (depth : ℕ) :
    ∀ f ∈ fields, Takes (f.read depth) (f.write l) (l.onto [f.name]) := by
  have hbound : ∀ n ∈ l.maxRounds, n ≤ twoPow 32 - 1 := fun n hn =>
    Nat.le_pred_of_lt (h.maxRounds n hn)
  have hrounds := takes_option (o := l.maxRounds) (fun n _ => beginsNumber_natChars n)
    fun n hn => takes_nat (hbound n hn) ((h.maxRounds n hn).trans (by decide)) "u32"
  have hdeadline := takes_option (o := l.deadlineSecs)
    (fun x hx => beginsNumber_realChars (h.deadlineSecs x hx)) fun x hx => takes_real (h.deadlineSecs x hx)
  simp only [fields, List.forall_mem_cons]
  refine ⟨?_, ?_, by simp⟩
  · rw [show l.onto [_] = fun r => { r with maxRounds := l.maxRounds } from rfl]
    exact takes_of hrounds
  · rw [show l.onto [_] = fun r => { r with deadlineSecs := l.deadlineSecs } from rfl]
    exact takes_of hdeadline

theorem onto_unknown (l : RetryLimits) {name : String} (h : name ∉ fields.map (·.name)) :
    l.onto [name] = id := by
  funext r
  simp only [fields, Field.of, List.map_cons, List.map_nil, List.mem_cons, List.not_mem_nil,
    or_false, not_or] at h
  simp only [onto, List.mem_singleton, h, eq_comm (b := name), if_false]
  rfl

/-- The values that `l` gives to its fields. -/
def Given (l : RetryLimits) (f : Json.Field RetryLimits) (v : List Char) : Prop := v = f.write l

/-- Retry limits are read from an object that keeps some of their fields. -/
theorem takes_kept {l : RetryLimits} (h : l.Expressible) {names : List String} {s : List Char}
    (hs : Holds (Record.Allowed fields l.Given) names s) (hnodup : names.Nodup) (depth : ℕ) :
    Takes (reader (depth + 1)) ('{' :: (s ++ ['}'])) (l.onto names standard) := by
  rw [← foldl_onto]
  refine Record.read_holds (fun n => l.onto [n]) _ standard (fun name v hv => ?_) hs hnodup
  refine Record.sets_allowed ?_ (fun _ => l.onto_unknown) hv
  rintro f hf v rfl
  exact takes_fields h depth f hf

end RetryLimits

/-! ## Settings -/

theorem Pacing.lookup_name (p : Pacing) : all.lookup p.name = some p := by
  cases p <;> decide

namespace Settings

/-- What a text can express. -/
structure Expressible (s : Settings) : Prop where
  timeoutSecs : s.timeoutSecs.isFinite = true
  batchSize : s.batchSize < twoPow 64
  batchConfirmTimeoutSecs : s.batchConfirmTimeoutSecs.isFinite = true
  retry : s.retry.Expressible

/-- The named fields of `s`, the others from `r`. -/
def onto (s : Settings) (names : List String) (r : Settings) : Settings where
  timeoutSecs := if "timeout_secs" ∈ names then s.timeoutSecs else r.timeoutSecs
  batchSize := if "batch_size" ∈ names then s.batchSize else r.batchSize
  batchConfirmTimeoutSecs :=
    if "batch_confirm_timeout_secs" ∈ names then s.batchConfirmTimeoutSecs
    else r.batchConfirmTimeoutSecs
  pacing := if "strategy" ∈ names then s.pacing else r.pacing
  persistent := if "persistent" ∈ names then s.persistent else r.persistent
  contentType := if "content_type" ∈ names then s.contentType else r.contentType
  retry := if "retry" ∈ names then s.retry else r.retry
  logLevel := if "log_level" ∈ names then s.logLevel else r.logLevel

theorem foldl_onto (s : Settings) : ∀ (names : List String) (r : Settings),
    names.foldl (fun r n => s.onto [n] r) r = s.onto names r
  | [], _ => rfl
  | n :: names, r => by
    rw [List.foldl_cons, foldl_onto s names]
    unfold onto
    simp only [if_mem_cons]

theorem onto_unknown (s : Settings) {name : String} (h : name ∉ fields.map (·.name)) :
    s.onto [name] = id := by
  funext r
  simp only [fields, Field.of, List.map_cons, List.map_nil, List.mem_cons, List.not_mem_nil,
    or_false, not_or] at h
  simp only [onto, List.mem_singleton, h, eq_comm (b := name), if_false]
  rfl

/-- The settings with only the named fields of their retry limits kept. -/
def keepRetry (s : Settings) (names : List String) : Settings :=
  { s with retry := s.retry.onto names .standard }

/-- The values that `s` gives to its fields, only the named ones kept within `retry`. -/
def Given (s : Settings) (inner : List String) (f : Json.Field Settings) (v : List Char) : Prop :=
  if f.name = "retry" then
    ∃ t, v = '{' :: (t ++ ['}']) ∧ Holds (Record.Allowed RetryLimits.fields s.retry.Given) inner t
  else v = f.write s

theorem takes_fields {s : Settings} (h : s.Expressible) {inner : List String}
    (hinner : inner.Nodup) (depth : ℕ) :
    ∀ f ∈ fields, ∀ v, s.Given inner f v →
      Takes (f.read (depth + 1)) v ((s.keepRetry inner).onto [f.name]) := by
  have hplain : ∀ f : Json.Field Settings, f.name ≠ "retry" →
      Takes (f.read (depth + 1)) (f.write s) ((s.keepRetry inner).onto [f.name]) →
        ∀ v, s.Given inner f v →
          Takes (f.read (depth + 1)) v ((s.keepRetry inner).onto [f.name]) := by
    intro f hne htakes v hv
    unfold Given at hv
    rw [if_neg hne] at hv
    exact hv ▸ htakes
  simp only [fields, List.forall_mem_cons]
  refine ⟨hplain _ (by decide) ?_, hplain _ (by decide) ?_, hplain _ (by decide) ?_,
    hplain _ (by decide) ?_, hplain _ (by decide) ?_, hplain _ (by decide) ?_, ?_,
    hplain _ (by decide) ?_, by simp⟩
  · exact takes_of (takes_real h.timeoutSecs)
  · exact takes_of (takes_nat (Nat.le_pred_of_lt h.batchSize) h.batchSize _)
  · exact takes_of (takes_real h.batchConfirmTimeoutSecs)
  · exact takes_of (takes_variant (Pacing.lookup_name _) _)
  · exact takes_of (takes_bool _)
  · exact takes_of (takes_text _)
  · rintro v ⟨t, rfl, ht⟩
    exact takes_of (RetryLimits.takes_kept h.retry ht hinner depth)
  · exact takes_of (takes_text _)

variable {s : Settings} {names inner : List String} {a b t : List Char}

theorem ofText_kept (h : s.Expressible) (hnames : names.Nodup) (hinner : inner.Nodup)
    (ht : Holds (Record.Allowed fields (s.Given inner)) names t) (ha : Blank a) (hb : Blank b) :
    ofText (String.ofList (a ++ ('{' :: (t ++ ['}']) ++ b)))
      = .ok ((s.keepRetry inner).onto names standard) := by
  refine readAll_takes ?_ ha hb
  rw [← foldl_onto]
  refine Record.read_holds (fun n => (s.keepRetry inner).onto [n]) _ standard
    (fun name v hv => ?_) ht hnames
  exact Record.sets_allowed (takes_fields h hinner _) (fun _ => (s.keepRetry inner).onto_unknown) hv

theorem onto_all (s r : Settings) :
    (s.keepRetry (RetryLimits.fields.map (·.name))).onto (fields.map (·.name)) r = s := rfl

theorem holds_render (s : Settings) :
    Holds (Record.Allowed fields (s.Given (RetryLimits.fields.map (·.name))))
      (fields.map (·.name)) (Record.memberChars s fields) := by
  refine Record.holds_memberChars fun f hf => Record.allowed_of_mem (by decide) hf ?_
  have hretry : Holds (Record.Allowed RetryLimits.fields s.retry.Given)
      (RetryLimits.fields.map (·.name)) (Record.memberChars s.retry RetryLimits.fields) :=
    Record.holds_memberChars fun f hf => Record.allowed_of_mem (by decide) hf rfl
  unfold Given
  split_ifs with hname
  · have hwrite : ∀ f ∈ fields, f.name = "retry" →
        f.write s = Record.chars RetryLimits.fields s.retry := by
      simp only [fields, Field.of, List.forall_mem_cons]
      simp
    exact ⟨_, hwrite f hf hname, hretry⟩
  · rfl

theorem ofText_render (h : s.Expressible) : ofText s.render = .ok s := by
  have hkept := ofText_kept (a := []) (b := []) h (by decide) (by decide) s.holds_render blank_nil
    blank_nil
  rw [List.nil_append, List.append_nil, onto_all] at hkept
  exact hkept

theorem fileText_toUTF8 (text : String) : fileText text.toUTF8 = .ok text := by
  have htext : String.fromUTF8? text.toUTF8 = some text := dif_pos text.isValidUTF8
  unfold fileText
  rw [htext]

/-- A file that settings were written to is read as those settings. One that keeps some of the
fields, at the top and within `retry`, gives those fields their values and the others the standard
ones. -/
theorem round_trip (h : s.Expressible) :
    ofFile (fileText s.render.toUTF8) = .ok s
      ∧ ∀ (names inner : List String) (a b t : List Char), names.Nodup → inner.Nodup →
        Blank a → Blank b → Holds (Record.Allowed fields (s.Given inner)) names t →
          ofFile (fileText (String.ofList (a ++ ('{' :: (t ++ ['}']) ++ b))).toUTF8)
            = .ok ((s.keepRetry inner).onto names standard) := by
  constructor
  · rw [fileText_toUTF8, ofFile, ofText_render h]
    rfl
  · intro names inner a b t hnames hinner ha hb ht
    rw [fileText_toUTF8, ofFile, ofText_kept h hnames hinner ht ha hb]
    rfl

/-- Settings of which little is kept in `sparseMembers`. -/
def sparse : Settings :=
  { standard with timeoutSecs := .one, contentType := "text/plain", retry := ⟨none, some .one⟩ }

def sparseRetry : List Char :=
  textChars "max_rounds" ++ ':' :: ("null".toList ++ ',' :: (textChars "x" ++ ':' :: ['0']))

def sparseMembers : List Char :=
  textChars "retry" ++ ':' :: ' ' :: '{' :: (sparseRetry ++ '}' :: ','
    :: (textChars "content_type" ++ ':' :: (textChars "text/plain" ++ ','
      :: (textChars "note" ++ ':' :: ("true".toList ++ [' '])))))

/-- No bound on the rounds is kept, apart from a bound that is left out. -/
theorem round_trip_sparse :
    ofFile (fileText sparse.render.toUTF8) = .ok sparse
      ∧ ofFile (fileText (String.ofList ('{' :: (sparseMembers ++ ['}']))).toUTF8)
        = .ok { standard with contentType := "text/plain", retry := ⟨none, none⟩ } := by
  have hx : IsValue ['0'] := .number (f := []) (p := []) (.inl rfl) .zero .none .none
  have hinner : Holds (Record.Allowed RetryLimits.fields sparse.retry.Given) ["max_rounds", "x"]
      sparseRetry := by
    have hlast : Holds (Record.Allowed RetryLimits.fields sparse.retry.Given) ["x"] _ :=
      .last (a := []) (b := []) (c := []) (d := []) blank_nil (spells_escape _) blank_nil blank_nil
        hx blank_nil
    have := Holds.more (a := []) (b := []) (c := []) (d := []) (v := "null".toList) blank_nil
      (spells_escape "max_rounds".toList) blank_nil blank_nil rfl blank_nil hlast
    simpa [sparseRetry, textChars] using this
  have hretry : Record.Allowed fields (sparse.Given ["max_rounds", "x"]) "retry"
      ('{' :: (sparseRetry ++ ['}'])) := ⟨_, rfl, hinner⟩
  have hmembers : Holds (Record.Allowed fields (sparse.Given ["max_rounds", "x"]))
      ["retry", "content_type", "note"] sparseMembers := by
    have hlast : Holds (Record.Allowed fields (sparse.Given ["max_rounds", "x"])) ["note"] _ :=
      .last (a := []) (b := []) (c := []) (d := [' ']) blank_nil (spells_escape _) blank_nil
        blank_nil IsValue.trueWord (by decide)
    have hmore := Holds.more (a := []) (b := []) (c := []) (d := []) (v := textChars "text/plain")
      blank_nil (spells_escape "content_type".toList) blank_nil blank_nil rfl blank_nil hlast
    have := Holds.more (a := []) (b := []) (c := [' ']) (d := []) blank_nil (spells_escape _)
      blank_nil (by decide) hretry blank_nil hmore
    simpa [sparseMembers, textChars] using this
  have hkept : (sparse.keepRetry ["max_rounds", "x"]).onto ["retry", "content_type", "note"] standard
      = { standard with contentType := "text/plain", retry := ⟨none, none⟩ } := by decide +kernel
  have hround := round_trip (s := sparse) ⟨by decide, by decide, by decide +kernel,
    by simp [sparse], fun x hx => by cases hx; decide⟩
  refine ⟨hround.1, ?_⟩
  rw [← hkept]
  exact hround.2 _ _ [] [] sparseMembers (by decide) (by decide) blank_nil blank_nil hmembers

end Settings

end ConfirmedDelivery
