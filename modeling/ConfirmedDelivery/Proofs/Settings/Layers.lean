import ConfirmedDelivery.Proofs.Settings.Bounds
import ConfirmedDelivery.Settings.Layers

/-!
# What the layers of settings come to

Each field comes from the topmost layer that names it, whatever the other fields come from
(`resolved`). The environment is put on one variable after another, so that is shown for one variable
(`withVariable_fst`) before all of them (`withEnvironment_fst`). A variable whose text cannot be read
is as good as none (`withEnvironment_cleared`), and an environment that is put on again changes
nothing (`withEnvironment_idem`). The check comes last and sees only what came out, so that nothing
that a lower layer held counts (`layers_resolve`).
-/

namespace ConfirmedDelivery

namespace Settings

/-! ## One variable -/

namespace Environment

/-- What a variable names, if it is set to a text that can be read. -/
def named {ε α : Type} (env : Environment) (read : String → Except ε α) (name : String) : Option α :=
  (env name).bind fun text => (read text).toOption

/-- Whether a text can be read as what a variable is for. -/
def readable (name text : String) : Bool :=
  if name = timeoutVariable then (readReal text).isOk
  else if name = batchSizeVariable then (readWord text).isOk
  else if name = pacingVariable then (Pacing.read text).isOk
  else true

/-- The environment in which variables that cannot be read are not set. -/
def cleared (env : Environment) : Environment := fun name => (env name).filter (readable name)

end Environment

section withVariable

variable {ε α : Type} {name : String} {read : String → Except ε α} {put : α → Settings → Settings}
  {ignored : String → ε → Event} (env : Environment) (s t : Settings)

theorem withVariable_fst : (withVariable name read put ignored env s).1
    = (env.named read name).elim s fun a => put a s := by
  unfold withVariable Environment.named
  cases env name with
  | none => rfl
  | some text => cases hread : read text <;> simp [hread, Except.toOption]

/-- What is told of a variable does not depend on what it is put on. -/
theorem withVariable_snd : (withVariable name read put ignored env s).2
    = (withVariable name read put ignored env t).2 := by
  unfold withVariable
  cases env name with
  | none => rfl
  | some text => cases hread : read text <;> simp [hread]

theorem withVariable_cleared (h : Environment.readable name = fun text => (read text).isOk) :
    withVariable name read put ignored env.cleared s
      = ((withVariable name read put ignored env s).1, []) := by
  unfold withVariable Environment.cleared
  rw [h]
  cases env name with
  | none => rfl
  | some text =>
    cases hread : read text <;> simp [Option.filter, hread, Except.isOk, Except.toBool]

end withVariable

variable (env : Environment) (o : Overrides) (s t : Settings)

theorem withTimeout_snd : (s.withTimeout env).2 = (t.withTimeout env).2 := withVariable_snd env s t

theorem withBatchSize_snd : (s.withBatchSize env).2 = (t.withBatchSize env).2 :=
  withVariable_snd env s t

theorem withPacing_snd : (s.withPacing env).2 = (t.withPacing env).2 := withVariable_snd env s t

theorem withTimeout_cleared : s.withTimeout env.cleared = ((s.withTimeout env).1, []) :=
  withVariable_cleared env s rfl

theorem withBatchSize_cleared : s.withBatchSize env.cleared = ((s.withBatchSize env).1, []) :=
  withVariable_cleared env s rfl

theorem withPacing_cleared : s.withPacing env.cleared = ((s.withPacing env).1, []) :=
  withVariable_cleared env s rfl

theorem withLogLevel_cleared : s.withLogLevel env.cleared = s.withLogLevel env := by
  have hreadable : Environment.readable logLevelVariable = fun _ => true := rfl
  unfold withLogLevel Environment.cleared
  rw [hreadable]
  cases env logLevelVariable <;> rfl

/-! ## The environment -/

theorem withEnvironment_fst : (s.withEnvironment env).1 = { s with
    timeoutSecs := (env.named readReal timeoutVariable).getD s.timeoutSecs
    batchSize := (env.named readWord batchSizeVariable).getD s.batchSize
    pacing := (env.named Pacing.read pacingVariable).getD s.pacing
    logLevel := (env logLevelVariable).getD s.logLevel } := by
  simp only [withEnvironment, withTimeout, withBatchSize, withPacing, withVariable_fst, withLogLevel]
  cases env.named readReal timeoutVariable <;> cases env.named readWord batchSizeVariable
    <;> cases env.named Pacing.read pacingVariable <;> cases env logLevelVariable <;> rfl

theorem withEnvironment_snd : (s.withEnvironment env).2 = (t.withEnvironment env).2 := by
  simp only [withEnvironment]
  rw [withTimeout_snd env s t, withBatchSize_snd env _ (t.withTimeout env).1,
    withPacing_snd env _ ((t.withTimeout env).1.withBatchSize env).1]

/-- There is nothing to tell of an environment without what cannot be read, and it changes the same
fields to the same values. -/
theorem withEnvironment_cleared :
    s.withEnvironment env.cleared = ((s.withEnvironment env).1, []) := by
  simp only [withEnvironment, withTimeout_cleared, withBatchSize_cleared, withPacing_cleared,
    withLogLevel_cleared, List.append_nil]

theorem withEnvironment_idem :
    (s.withEnvironment env).1.withEnvironment env = s.withEnvironment env := by
  refine Prod.ext ?_ (withEnvironment_snd env _ s)
  rw [withEnvironment_fst env (s.withEnvironment env).1, withEnvironment_fst env s]
  simp only [← Option.getD_or, Option.or_self]

/-! ## All layers -/

/-- The lowest layer: what a file holds, or the standard settings. -/
def lowest : Option (Except FileFault String) → Except Failure Settings
  | none => .ok standard
  | some content => ofFile content

/-- Each field as the command line names it, or else the environment, or else as it was. Only the
command line names how often messages are sent again; four fields are in the lowest layer alone. -/
def resolved (s : Settings) : Settings where
  timeoutSecs := (o.timeoutSecs.or (env.named readReal timeoutVariable)).getD s.timeoutSecs
  batchSize := (o.batchSize.or (env.named readWord batchSizeVariable)).getD s.batchSize
  batchConfirmTimeoutSecs := s.batchConfirmTimeoutSecs
  pacing := (o.pacing.or (env.named Pacing.read pacingVariable)).getD s.pacing
  persistent := s.persistent
  contentType := s.contentType
  retry := ⟨o.maxRounds.or s.retry.maxRounds, s.retry.deadlineSecs⟩
  logLevel := (o.logLevel.or (env logLevelVariable)).getD s.logLevel

theorem withOverrides_withEnvironment :
    (s.withEnvironment env).1.withOverrides o = s.resolved env o := by
  rw [withEnvironment_fst]
  unfold withOverrides resolved
  simp only [Option.getD_or, Option.orElse_eq_or]

theorem load_eq (file : Option (Except FileFault String)) :
    load file env = (lowest file).map (withEnvironment env) := by
  cases file <;> rfl

variable {file : Option (Except FileFault String)} {base : Settings}

theorem build_of_lowest (h : lowest file = .ok base) :
    build file env o = match (base.resolved env o).check with
      | .ok () => .ok (base.resolved env o)
      | .error fault => .error (.configuration fault.message) := by
  rw [build, load_eq, h, ← withOverrides_withEnvironment]
  rfl

theorem build_cleared : build file env.cleared o = build file env o := by
  simp only [build, load_eq]
  cases lowest file with
  | error failure => rfl
  | ok base => simp only [Except.map, bind, Except.bind, withEnvironment_cleared]

/-- If the lowest layer can be had, the settings that are built are those that each field's topmost
layer gives, and they are built if they pass the check, whatever lower layers held. Variables that
cannot be read play no part, and putting on an environment twice is putting it on once. -/
theorem layers_resolve (h : lowest file = .ok base) :
    (∀ s, build file env o = .ok s ↔ s = base.resolved env o ∧ s.check = .ok ())
      ∧ (∀ fault, (base.resolved env o).check = .error fault →
        build file env o = .error (.configuration fault.message))
      ∧ build file env.cleared o = build file env o
      ∧ ∀ s : Settings, (s.withEnvironment env).1.withEnvironment env = s.withEnvironment env := by
  refine ⟨fun s => ?_, fun fault hfault => ?_, build_cleared env o, withEnvironment_idem env⟩
  · rw [build_of_lowest env o h]
    cases hcheck : (base.resolved env o).check with
    | ok =>
      simp only [Except.ok.injEq]
      exact ⟨fun heq => ⟨heq.symm, heq ▸ hcheck⟩, fun heq => heq.1.symm⟩
    | error fault =>
      simp only [reduceCtorEq, false_iff, not_and]
      rintro rfl
      rw [hcheck]
      nofun
  · rw [build_of_lowest env o h, hfault]

/-- A file that could not be run with is no fault if the command line replaces what is wrong in it,
and a size that cannot be read leaves the file's in place. -/
theorem layers_resolve_faulty_file :
    let file := some (.ok "\x7b\"timeout_secs\": 0, \"batch_size\": 3\x7d")
    let set := [(batchSizeVariable, "lots"), (pacingVariable, " Per-Message"),
      (logLevelVariable, "debug")]
    let env : Environment := fun name => set.lookup name
    let o : Overrides := ⟨none, some .one, none, some 4, none⟩
    (∃ base, lowest file = .ok base ∧ base.check ≠ .ok ())
      ∧ build file env o = .ok { standard with
        timeoutSecs := .one
        batchSize := 3
        pacing := .perMessage
        retry := ⟨some 4, none⟩
        logLevel := "debug" } := by
  intro file set env o
  let base : Settings := { standard with timeoutSecs := .ofNat 0, batchSize := 3 }
  have hbase : lowest file = .ok base := by
    have hsome : (lowest file).toOption = some base := by decide +kernel
    cases hlowest : lowest file <;> simp_all [Except.toOption]
  refine ⟨⟨base, hbase, ?_⟩, ((layers_resolve env o hbase).1 _).2 ⟨by decide +kernel, ?_⟩⟩
  · rw [Ne, check_eq_ok]
    decide +kernel
  · rw [check_eq_ok]
    decide +kernel

end Settings

end ConfirmedDelivery
