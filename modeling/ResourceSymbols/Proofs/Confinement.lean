import ResourceSymbols.Proofs.SessionJournal

namespace ResourceSymbols

open ResourceSymbols.Path Watch

section Command

variable {σ : Type} {H : Host (StateM σ)}

/-- Everything a compile run creates, replaces or removes is its destination or lies below it, once
paths are cleaned: for a run with any quiet journal, and for the `compile` subcommand run in any
session with the session's own journal, whose one other change is appending to the session's log
file. -/
theorem compile_confined (hnames : H.ListsNames) (s₀ : σ) (hwd : isAbs (H.workDir.run s₀).1 = true) :
    (∀ (cfg : Config) (j : Journal (Watch H)), j.Quiet → ∀ r : Compile.Request,
      (∀ e d, Charset.forced r.charset = some e → e.decoding = some d → d.KeepsSafe) →
      ∀ c ∈ ((Compile.compile cfg j r : Watch H _).run (s₀, [])).2.2, ∀ p ∈ c.paths,
        Within (r.destination (H.workDir.run s₀).1) p) ∧
    ∀ (p : Command.Parsed) (sess : Program.Session),
      (∀ e d, Charset.forced (p.text "force-zip-cp") = some e → e.decoding = some d → d.KeepsSafe) →
      ∀ c ∈ (((Program.perform Program.compileCommand.name p : Program.Run (Watch H) _).run.run sess).run
          (s₀, [])).2.2,
        (∀ q ∈ c.paths, Within ((Program.compileRequest p).destination (H.workDir.run s₀).1) q) ∨
          Change.Logs sess.sinks c := by
  refine ⟨fun cfg j hj r hcs => ?_, fun p sess hcs => ?_⟩
  · obtain ⟨D, hD, hdst⟩ : ∃ D, (∀ k ∈ D, IsName k) ∧ r.destination (H.workDir.run s₀).1 = rooted D :=
      abs_rooted hwd _
    rw [hdst]
    -- the record of changes below the destination is kept by every step of the run
    refine compile_holds cfg r (asks_recorded _) hnames (hj.logic hnames).toSteady hcs (s₀, []) hwd ?_
      (fun _ h => by cases h)
    intro s hs _ input src pkg hsrc
    rw [hdst]
    exact compileTable_below (recorded_allows hnames) hD hs (hj.logic hnames) input hsrc pkg
  · obtain ⟨D, hD, hdst⟩ : ∃ D, (∀ k ∈ D, IsName k) ∧
        (Program.compileRequest p).destination (H.workDir.run s₀).1 = rooted D :=
      abs_rooted hwd _
    rw [hdst]
    -- the session's logic allows what lies below the destination and appending to the log file
    refine Program.perform_compile_recorded hnames p sess (fun _ => Or.inr) hcs s₀ hwd ?_
    intro s hs _ input src pkg hsrc
    rw [hdst]
    exact compileTable_below ((Program.Session.recorded_allows hnames).mono fun _ => Or.inl) hD hs
      (Program.journal_quiet hnames fun _ => Or.inr) input hsrc pkg

def latinArchive : Bytes :=
  [80, 75, 3, 4, 20, 0, 0, 0, 0, 0, 0, 0, 0, 0, 191, 119, 35, 163, 13, 0, 0, 0, 13, 0, 0, 0, 7, 0, 0, 0,
    233, 47, 82, 46, 116, 120, 116, 105, 110, 116, 32, 105, 100, 32, 97, 32, 48, 120, 49, 10, 80, 75, 1,
    2, 20, 0, 20, 0, 0, 0, 0, 0, 0, 0, 0, 0, 191, 119, 35, 163, 13, 0, 0, 0, 13, 0, 0, 0, 7, 0, 0, 0, 0,
    0, 0, 0, 0, 0, 0, 0, 0, 0, 0, 0, 0, 0, 233, 47, 82, 46, 116, 120, 116, 80, 75, 5, 6, 0, 0, 0, 0, 1,
    0, 1, 0, 53, 0, 0, 0, 50, 0, 0, 0, 0, 0]

/-- The archive `/in/a.zip`, compiled into `out` with US-ASCII forced, by a run and by the `compile`
subcommand in a session that logs to `/rgen.log`: its member's name is read as US-ASCII, and
everything either run changes lies below `/out`, but for the lines the session appends to its log. -/
theorem compile_confined_ascii_archive :
    let w : Memory := ({} : Memory).place (rooted [[105, 110], [97, 46, 122, 105, 112]]) (.file latinArchive)
    let r : Compile.Request :=
      { args := [Bytes.ofString "in/a.zip", Bytes.ofString "out"], charset := Bytes.ofString "US-ASCII" }
    let p : Command.Parsed := { values := [("force-zip-cp", Bytes.ofString "US-ASCII")], args := r.args }
    let sess : Program.Session := { sinks := some { file := some (Bytes.ofString "/rgen.log", .debug) } }
    isAbs (namedMemory.workDir.run w).1 = true ∧
      (∀ e d, Charset.forced r.charset = some e → e.decoding = some d → d.KeepsSafe) ∧
      (∀ c ∈ ((Compile.compile Config.defaults Journal.silent r : Watch namedMemory _).run (w, [])).2.2,
        ∀ p ∈ c.paths, Within (Bytes.ofString "/out") p) ∧
      ∀ c ∈ (((Program.perform Program.compileCommand.name p : Program.Run (Watch namedMemory) _).run.run
          sess).run (w, [])).2.2,
        (∀ q ∈ c.paths, Within (Bytes.ofString "/out") q) ∨ Change.Logs sess.sinks c := by
  intro w r p sess
  have hcs : ∀ e d, Charset.forced r.charset = some e → e.decoding = some d → d.KeepsSafe := by
    intro e d he hd
    have hascii : ((Charset.forced r.charset).bind Charset.Entry.decoding).map Charset.Decoding.keepsAscii =
        some true := by decide +kernel
    rw [he, Option.bind_some, hd, Option.map_some, Option.some.injEq] at hascii
    exact Charset.Decoding.keepsSafe_of_keepsAscii hascii
  have hflag : p.text "force-zip-cp" = r.charset := by decide +kernel
  have hdst : r.destination (namedMemory.workDir.run w).1 = Bytes.ofString "/out" := by decide +kernel
  have hdst' : (Program.compileRequest p).destination (namedMemory.workDir.run w).1 = Bytes.ofString "/out" :=
    hdst
  refine ⟨rfl, hcs, ?_, ?_⟩
  · rw [← hdst]
    exact (compile_confined namedMemory_listsNames w rfl).1 Config.defaults Journal.silent Journal.silent_quiet r hcs
  · rw [← hdst']
    exact (compile_confined namedMemory_listsNames w rfl).2 p sess (hflag ▸ hcs)

end Command

end ResourceSymbols
