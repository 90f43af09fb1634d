import ResourceSymbols.Proofs.Paths
import ResourceSymbols.Config.Check
import ResourceSymbols.Files.Memory

namespace ResourceSymbols

theorem eq_ok_of_toOption {ε α : Type} {e : Except ε α} {a : α} (h : e.toOption = some a) :
    e = .ok a := by
  cases e with
  | error _ => cases h
  | ok b =>
    cases h
    rfl

def LoggerSection.refill (l base : LoggerSection) : LoggerSection :=
  { l with destination := if l.destination.isEmpty then base.destination else l.destination
           mode := if l.mode.isEmpty then base.mode else l.mode }

theorem LoggerSection.refill_of_empty (l : LoggerSection) {base : LoggerSection}
    (hd : base.destination = []) (hm : base.mode = []) : l.refill base = l := by
  have hkeep : ∀ x : Bytes, (if x.isEmpty then [] else x) = x := fun x => by cases x <;> rfl
  simp only [refill, hd, hm, hkeep]

namespace Config

def reloaded (c : Config) : Config :=
  { c with input := { c.input with archiveExtensions := some c.extensions }
           logging := { file := c.logging.file.refill defaults.logging.file
                        console := c.logging.console.refill defaults.logging.console } }

theorem reloaded_console (c : Config) : c.reloaded.logging.console = c.logging.console :=
  c.logging.console.refill_of_empty rfl rfl

theorem reloaded_file_destination {c : Config} (hd : c.logging.file.destination ≠ []) :
    c.reloaded.logging.file.destination = c.logging.file.destination := by
  simp [reloaded, LoggerSection.refill, hd]

theorem reloaded_eq_self_iff {c : Config} (hd : c.logging.file.destination ≠ []) :
    c.reloaded = c ↔ c.logging.file.mode ≠ [] ∧ c.input.archiveExtensions ≠ none := by
  obtain ⟨version, generator, ⟨sym, man, ext⟩, ⟨⟨level, dest, mode⟩, ⟨clevel, cdest, cmode⟩⟩,
    reporting⟩ := c
  have hov : Bytes.ofString "overwrite" ≠ [] := by decide +kernel
  have hkeep : ∀ x : Bytes, (if x = [] then ([] : Bytes) else x) = x := fun x => by cases x <;> rfl
  simp only at hd ⊢
  -- the console section comes back as it was; the file mode and the extensions decide
  cases mode <;> cases ext <;> simp [reloaded, LoggerSection.refill, extensions, defaults, hd, hkeep, hov]

section Host

variable {σ : Type} [Host (StateM σ)]

omit [Host (StateM σ)] in
theorem run_bind_state {α β : Type} (x : StateM σ α) (f : α → StateM σ β) (s : σ) :
    (x >>= f).run s = (f (x.run s).1).run (x.run s).2 := rfl

omit [Host (StateM σ)] in
theorem run_pure_state {α : Type} (a : α) (s : σ) : (pure a : StateM σ α).run s = (a, s) := rfl

omit [Host (StateM σ)] in
theorem ok_pair_inj {ε α : Type} {a b : α} {s s' : σ}
    (h : ((Except.ok a : Except ε α), s) = (.ok b, s')) : a = b ∧ s = s' := by
  simp only [Prod.mk.injEq, Except.ok.injEq] at h
  exact h

theorem prepareDestination_again {p q : Bytes} {s s' : σ}
    (h : (prepareDestination p : StateM σ _).run s = (.ok q, s')) :
    (prepareDestination q : StateM σ _).run s = (.ok q, s') := by
  unfold prepareDestination at h
  by_cases hp : p.isEmpty
  · -- nothing is done for an empty destination
    simp only [hp, if_true, run_pure_state] at h
    obtain ⟨rfl, rfl⟩ := ok_pair_inj h
    unfold prepareDestination
    simp only [hp, if_true, run_pure_state]
  · simp only [hp, Bool.false_eq_true, if_false, run_bind_state] at h
    rcases hm : (Host.makeDirs (Path.dir (Path.clean p)) : StateM σ _).run s with ⟨_ | u, s₁⟩ <;>
      simp only [hm, run_pure_state] at h
    · cases (Prod.mk.inj h).1
    obtain ⟨rfl, rfl⟩ := ok_pair_inj h
    have hq : (Path.clean p).isEmpty = false := List.isEmpty_eq_false_iff.2 (Path.clean_ne_nil p)
    unfold prepareDestination
    simp only [hq, Bool.false_eq_true, if_false, Path.clean_clean, run_bind_state, hm, run_pure_state]

theorem prepare_run (c : Config) (s : σ) : (prepare c : StateM σ _).run s =
    match (prepareDestination c.logging.file.destination : StateM σ _).run s with
    | (.error e, s₁) => (.error e, s₁)
    | (.ok fileDest, s₁) =>
      match (prepareDestination c.logging.console.destination : StateM σ _).run s₁ with
      | (.error e, s₂) => (.error e, s₂)
      | (.ok consoleDest, s₂) =>
        match (prepareDestination c.reporting.destination : StateM σ _).run s₂ with
        | (.error e, s₃) => (.error e, s₃)
        | (.ok reportDest, s₃) =>
          (.ok { c with
            logging := { file := { c.logging.file with destination := fileDest },
                         console := { c.logging.console with destination := consoleDest } }
            reporting := { destination := reportDest } }, s₃) := by
  unfold prepare
  simp only [run_bind_state]
  rcases (prepareDestination c.logging.file.destination : StateM σ _).run s with ⟨_ | fileDest, s₁⟩ <;>
    simp only [run_bind_state, run_pure_state]
  rcases (prepareDestination c.logging.console.destination : StateM σ _).run s₁ with ⟨_ | consoleDest, s₂⟩ <;>
    simp only [run_bind_state, run_pure_state]
  rcases (prepareDestination c.reporting.destination : StateM σ _).run s₂ with ⟨_ | reportDest, s₃⟩ <;>
    simp only [run_bind_state, run_pure_state]

theorem prepare_reloaded {c C : Config} {s s' : σ} (h : (prepare c : StateM σ _).run s = (.ok C, s'))
    (hd : C.logging.file.destination ≠ []) :
    (prepare C.reloaded : StateM σ _).run s = (.ok C.reloaded, s') := by
  rw [prepare_run] at h ⊢
  rcases h₁ : (prepareDestination c.logging.file.destination : StateM σ _).run s with ⟨_ | fd, s₁⟩ <;>
    simp only [h₁] at h
  · cases h
  rcases h₂ : (prepareDestination c.logging.console.destination : StateM σ _).run s₁ with ⟨_ | cd, s₂⟩ <;>
    simp only [h₂] at h
  · cases h
  rcases h₃ : (prepareDestination c.reporting.destination : StateM σ _).run s₂ with ⟨_ | rd, s₃⟩ <;>
    simp only [h₃] at h
  · cases h
  obtain ⟨hC, rfl⟩ := ok_pair_inj h
  -- the destinations read back are the prepared ones, so each is prepared again by the same work
  have hfd : C.reloaded.logging.file.destination = fd := by rw [reloaded_file_destination hd, ← hC]
  have hcd : C.reloaded.logging.console.destination = cd := by rw [reloaded_console, ← hC]
  have hrd : C.reloaded.reporting.destination = rd := by rw [← hC]; rfl
  rw [hfd, prepareDestination_again h₁]
  simp only
  rw [hcd, prepareDestination_again h₂]
  simp only
  rw [hrd, prepareDestination_again h₃]
  simp only
  rw [← hfd, ← hcd, ← hrd]

end Host

theorem checkLogger_refill {m : Type → Type} [Monad m] [Host m] (key : String) (l : LoggerSection)
    (hd : l.destination ≠ []) :
    checkLogger key (l.refill defaults.logging.file) = (checkLogger key l : m _) := by
  have hdest : (l.refill defaults.logging.file).destination = l.destination := by
    simp [LoggerSection.refill, hd]
  have hpass : ((l.refill defaults.logging.file).mode.isEmpty
        || (["append", "overwrite"].map Bytes.ofString).contains (l.refill defaults.logging.file).mode)
      = (l.mode.isEmpty || (["append", "overwrite"].map Bytes.ofString).contains l.mode) := by
    by_cases hm : l.mode = []
    · have hl : (l.refill defaults.logging.file).mode = Bytes.ofString "overwrite" := by
        simp [LoggerSection.refill, hm, defaults]
      rw [hl, hm]
      decide +kernel
    · simp [LoggerSection.refill, hm]
  unfold checkLogger
  dsimp only
  rw [hdest, hpass]
  rfl

theorem check_reloaded {m : Type → Type} [Monad m] [Host m] (c : Config)
    (hd : c.logging.file.destination ≠ []) : check c.reloaded = (check c : m _) := by
  have hfile : checkLogger "Config.Logging.FileLogger" c.reloaded.logging.file
      = (checkLogger "Config.Logging.FileLogger" c.logging.file : m _) :=
    checkLogger_refill _ _ hd
  unfold check
  rw [hfile, reloaded_console]
  rfl

section Host

variable {σ : Type} [Host (StateM σ)]

theorem settle_run (c : Config) (s : σ) : (settle c : StateM σ _).run s =
    match (prepare c : StateM σ _).run s with
    | (.error e, s₁) => (.error e, s₁)
    | (.ok c', s₁) =>
      let r := (check c' : StateM σ _).run s₁
      (if r.1.isEmpty then .ok c' else .error (Bytes.join [10] r.1), r.2) := by
  unfold settle
  simp only [run_bind_state]
  rcases (prepare c : StateM σ _).run s with ⟨_ | c', s₁⟩
  · rfl
  · simp only [run_bind_state]
    by_cases hc : ((check c' : StateM σ _).run s₁).1.isEmpty <;>
      simp only [hc, if_true, Bool.false_eq_true, if_false, run_pure_state]

theorem settle_reloaded {c C : Config} {s s' : σ} (h : (settle c : StateM σ _).run s = (.ok C, s'))
    (hd : C.logging.file.destination ≠ []) :
    (settle C.reloaded : StateM σ _).run s = (.ok C.reloaded, s') := by
  rw [settle_run] at h ⊢
  rcases hp : (prepare c : StateM σ _).run s with ⟨_ | c', s₁⟩ <;> rw [hp] at h
  · cases h
  dsimp only at h ⊢
  split at h
  · rename_i hempty
    obtain ⟨rfl, rfl⟩ := ok_pair_inj h
    rw [prepare_reloaded hp hd]
    dsimp only
    rw [check_reloaded _ hd, if_pos hempty]
  · cases (Prod.mk.inj h).1

theorem settle_of_load {p : Bytes} {s s' : σ} {C : Config}
    (hreads : ∀ x s, ((Host.readFile x : StateM σ _).run s).2 = s)
    (h : (load (some p) : StateM σ _).run s = (.ok C, s')) :
    ∃ c, (settle c : StateM σ _).run s = (.ok C, s') := by
  unfold load at h
  simp only [run_bind_state, hreads] at h
  split at h
  · cases (Prod.mk.inj h).1
  · cases (Prod.mk.inj h).1
  · split at h
    · cases (Prod.mk.inj h).1
    · rename_i c _
      refine ⟨c, ?_⟩
      simp only [run_bind_state] at h
      rcases hs : (settle c : StateM σ _).run s with ⟨_ | C', s₂⟩ <;> simp only [hs, run_pure_state] at h
      · cases (Prod.mk.inj h).1
      · obtain ⟨rfl, rfl⟩ := ok_pair_inj h
        rfl

theorem load_of_settle {q text : Bytes} {s s' : σ} {c C : Config}
    (hread : (Host.readFile q : StateM σ _).run s = (.ok { bytes := text }, s))
    (hyaml : ofYaml text defaults = .ok c) (h : (settle c : StateM σ _).run s = (.ok C, s')) :
    (load (some q) : StateM σ _).run s = (.ok C, s') := by
  unfold load
  simp only [run_bind_state, hread, hyaml, h, run_pure_state]

/-- Loading the dump of a loaded configuration gives it back exactly when its log file mode is set
and its list of extensions was not cleared. -/
theorem load_dump_reloads {p q : Bytes} {s₀ s₁ : σ} {C : Config}
    (hreads : ∀ x s, ((Host.readFile x : StateM σ _).run s).2 = s)
    (hload : (load (some p) : StateM σ _).run s₀ = (.ok C, s₁))
    (hdump : ((Host.readFile q : StateM σ _).run s₀).1 = .ok { bytes := C.toYaml })
    (hcodec : ofYaml C.toYaml defaults = .ok C.reloaded)
    (hd : C.logging.file.destination ≠ []) :
    (load (some q) : StateM σ _).run s₀ = (.ok C.reloaded, s₁) ∧
      (C.reloaded = C ↔ C.logging.file.mode ≠ [] ∧ C.input.archiveExtensions ≠ none) := by
  obtain ⟨c, hsettle⟩ := settle_of_load hreads hload
  have hread : (Host.readFile q : StateM σ _).run s₀ = (.ok { bytes := C.toYaml }, s₀) :=
    Prod.ext hdump (hreads q s₀)
  exact ⟨load_of_settle hread hcodec (settle_reloaded hsettle hd), reloaded_eq_self_iff hd⟩

end Host

def modelessText : Bytes := Bytes.ofString "version: 1\nlogging:\n    file:\n        mode: \"\"\n"

def modeless : Config :=
  { defaults with logging := { defaults.logging with file := { defaults.logging.file with mode := [] } } }

def dumpMemory : Memory :=
  { nodes := [(Bytes.ofString "/config.yaml", .file modelessText),
              (Bytes.ofString "/dump.yaml", .file modeless.toYaml), ([Path.slash], .dir)] }

theorem dumpMemory_reads :
    dumpMemory.get? (Bytes.ofString "/dump.yaml") = some (.file modeless.toYaml) ∧
      ((load (some (Bytes.ofString "/config.yaml")) : InMemory _).run dumpMemory).1.toOption =
        some modeless ∧
      (ofYaml modeless.toYaml defaults).toOption = some defaults ∧
      ((settle defaults : InMemory _).run dumpMemory).1.toOption = some defaults ∧
      modeless.reloaded = defaults ∧ modeless ≠ defaults ∧ modeless.logging.file.destination ≠ [] := by
  decide +kernel

theorem read_dump :
    ((Host.readFile (Bytes.ofString "/dump.yaml") : InMemory _).run dumpMemory).1 = .ok { bytes := modeless.toYaml } := by
  show (dumpMemory.find (Bytes.ofString "/dump.yaml")).map _ = _
  rw [Memory.find, dumpMemory_reads.1]
  rfl

theorem load_modeless :
    ((load (some (Bytes.ofString "/config.yaml")) : InMemory _).run dumpMemory).1 = .ok modeless :=
  eq_ok_of_toOption dumpMemory_reads.2.1

theorem ofYaml_modeless_dump : ofYaml modeless.toYaml defaults = .ok defaults :=
  eq_ok_of_toOption dumpMemory_reads.2.2.1

theorem load_modeless_dump :
    ((load (some (Bytes.ofString "/dump.yaml")) : InMemory _).run dumpMemory).1 = .ok defaults := by
  obtain ⟨-, -, -, hdefaults, -⟩ := dumpMemory_reads
  have hsettle : (settle defaults : InMemory _).run dumpMemory =
      (.ok defaults, ((settle defaults : InMemory _).run dumpMemory).2) :=
    Prod.ext (eq_ok_of_toOption hdefaults) rfl
  rw [load_of_settle (Prod.ext read_dump rfl) ofYaml_modeless_dump hsettle]

/-- The empty log file mode a file sets is not kept by the dump: the dump of what the file loads to
loads to the defaults, whose mode is `overwrite`. -/
theorem dump_refills_empty_log_mode :
    ((load (some (Bytes.ofString "/config.yaml")) : InMemory _).run dumpMemory).1 = .ok modeless ∧
      ((load (some (Bytes.ofString "/dump.yaml")) : InMemory _).run dumpMemory).1 = .ok defaults ∧
      modeless ≠ defaults := by
  obtain ⟨-, -, -, -, -, hne, -⟩ := dumpMemory_reads
  exact ⟨load_modeless, load_modeless_dump, hne⟩

theorem load_dump_reloads_in_memory :
    (load (some (Bytes.ofString "/dump.yaml")) : InMemory _).run dumpMemory =
        (.ok modeless.reloaded, ((load (some (Bytes.ofString "/config.yaml")) : InMemory _).run dumpMemory).2) ∧
      (modeless.reloaded = modeless ↔
        modeless.logging.file.mode ≠ [] ∧ modeless.input.archiveExtensions ≠ none) := by
  obtain ⟨-, -, -, -, hreloaded, -, hd⟩ := dumpMemory_reads
  exact load_dump_reloads (fun _ _ => rfl) (Prod.ext load_modeless rfl) read_dump
    (by rw [hreloaded]; exact ofYaml_modeless_dump) hd

end Config

end ResourceSymbols
