import ResourceSymbols.Proofs.Inputs
import ResourceSymbols.Program.Run

namespace ResourceSymbols

open ResourceSymbols.Path Watch RunLogic

/-- The change appends to the file the sinks `S` write their lines to. -/
def Change.Logs (S : Option Log.Sinks) : Change → Prop
  | .append p => ∃ s ∈ S, ∃ least, s.file = some (p, least)
  | _ => False

section Writing

variable {m : Type → Type} [Monad m] [MonadFinally m] [Host m] {L : RunLogic m}

/-- Writing an entry keeps the invariant of a logic that lets a run print and append to the log file
of the sinks. -/
theorem Log.Sinks.write_holds {s : Log.Sinks} (e : Log.Entry)
    (hout : ∀ d, L.holds (Host.toStdout d) fun _ => True) (herr : ∀ d, L.holds (Host.toStderr d) fun _ => True)
    (happ : ∀ path least d, s.file = some (path, least) → L.holds (Host.append path d) fun _ => True) :
    L.holds (s.write e) fun _ => True := by
  unfold Log.Sinks.write Log.reportRefusal
  refine L.bind L.now fun t _ => ?_
  extract_lets toFile
  -- the line goes to the file after the console, whatever the console did with it
  have hfile : ∀ u, L.holds (toFile u) fun _ => True := by
    intro u
    dsimp only [toFile]
    split
    · rename_i path least hpath
      split
      · refine L.bind (happ path least _ hpath) fun r _ => ?_
        split
        · exact herr _
        · exact L.pure trivial
      · exact L.pure trivial
    · exact L.pure trivial
  split
  · split
    · exact L.bind (herr _) fun u _ => hfile u
    · split
      · refine L.bind (hout _) fun r _ => ?_
        split
        · exact L.bind (herr _) fun u _ => hfile u
        · exact hfile ()
      · exact hfile ()
  · exact hfile ()

end Writing

namespace Program

variable {σ α : Type} {H : Host (StateM σ)} {P : Change → Prop} (hnames : H.ListsNames)
  {S : Option Log.Sinks}

/-- The logic of a session's runs on a recorded host: every change recorded satisfies `P`, and the
session's log goes to the sinks `S` all along. -/
abbrev Session.recorded (P : Change → Prop) (hnames : H.ListsNames) (S : Option Log.Sinks) :
    RunLogic (Run (Watch H)) :=
  ((Watch.recorded P hnames).stateT fun sess : Session => sess.sinks = S).exceptT

theorem Session.recorded_allows : (Session.recorded P hnames S).Allows P :=
  (Watch.recorded_allows hnames).stateT.exceptT

/-- What a session asks of its host leaves the record of changes alone. -/
theorem Session.recorded_ask (y : StateM σ α) :
    (Session.recorded P hnames S).holds
      (monadLift (monadLift (Watch.ask y : Watch H α) : StateT Session (Watch H) α) : Run (Watch H) α)
      fun _ => True := by
  have hy : (Watch.recorded P hnames).holds (Watch.ask y : Watch H α) fun _ => True := Keeps.ask
  exact exceptT_lift (stateT_lift hy)

theorem Session.recorded_get :
    (Session.recorded P hnames S).holds (get : Run (Watch H) Session) fun sess => sess.sinks = S :=
  exceptT_lift stateT_get

theorem Session.recorded_modify {f : Session → Session} (hf : ∀ sess, (f sess).sinks = sess.sinks) :
    (Session.recorded P hnames S).holds (modify f : Run (Watch H) PUnit) fun _ => True :=
  exceptT_lift (stateT_modify fun sess hs => (hf sess).trans hs)

/-- A run that keeps the session's logic, started with no change recorded, asks only for changes
`P` allows. -/
theorem Session.recorded_run {x : Run (Watch H) α} {Q : α → Prop} (h : (Session.recorded P hnames S).holds x Q)
    {sess : Session} (hs : sess.sinks = S) (s₀ : σ) : ∀ c ∈ ((x.run.run sess).run (s₀, [])).2.2, P c :=
  (h sess hs (s₀, []) fun _ h => by cases h).1

theorem journal_log (hlog : ∀ c, Change.Logs S c → P c) (e : Log.Entry) :
    (Session.recorded P hnames S).holds ((journal : Journal (Run (Watch H))).log e) fun _ => True := by
  refine (Session.recorded P hnames S).bind (Session.recorded_get hnames) fun sess hs => ?_
  split
  · rename_i sinks hsinks
    refine Log.Sinks.write_holds e (fun _ => Session.recorded_ask hnames _) (fun _ => Session.recorded_ask hnames _)
      fun path least d hpath => (Session.recorded_allows hnames).append path d (hlog _ ?_)
    exact ⟨sinks, hs ▸ hsinks, least, hpath⟩
  · exact (Session.recorded P hnames S).pure trivial

theorem journal_keepData (name data : Bytes) :
    (Session.recorded P hnames S).holds ((journal : Journal (Run (Watch H))).keepData name data)
      fun _ => True := by
  refine (Session.recorded P hnames S).bind (Session.recorded_get hnames) fun sess _ => ?_
  split
  · -- the stamp is read once the name's suffix is known
    extract_lets stamped
    have hstamped : ∀ suffix, (Session.recorded P hnames S).holds (stamped suffix) fun _ => True :=
      fun _ => (Session.recorded P hnames S).bind (Session.recorded_ask hnames _) fun _ _ =>
        Session.recorded_modify hnames fun _ => rfl
    split
    · exact (Session.recorded P hnames S).bind (Session.recorded_ask hnames _) fun _ _ => hstamped _
    · exact (Session.recorded P hnames S).pure_bind (hstamped 0)
  · exact (Session.recorded P hnames S).pure trivial

theorem journal_keepFile (name path : Bytes) :
    (Session.recorded P hnames S).holds ((journal : Journal (Run (Watch H))).keepFile name path)
      fun _ => True := by
  refine (Session.recorded P hnames S).bind (Session.recorded_get hnames) fun sess _ => ?_
  split
  · refine (Session.recorded P hnames S).bind (Session.recorded_ask hnames _) fun cwd _ => ?_
    split
    · exact Session.recorded_modify hnames fun _ => rfl
    · exact exceptT_throw
  · exact (Session.recorded P hnames S).pure trivial

/-- The session's journal appends to its log file, keeps what it is given in the report and never
touches the log sinks: it is quiet in every logic that allows appending to the log file. -/
theorem journal_quiet (hlog : ∀ c, Change.Logs S c → P c) :
    (Session.recorded P hnames S).Quiet (journal : Journal (Run (Watch H))) :=
  ⟨⟨journal_log hnames hlog, journal_keepData hnames⟩, journal_keepFile hnames⟩

/-! ### The `compile` subcommand -/

theorem run_workDir_bind {β : Type} (f : Bytes → Run (Watch H) β) (sess : Session) (st : σ × List Change) :
    ((Host.workDir >>= f : Run (Watch H) β).run.run sess).run st =
      ((f (H.workDir.run st.1).1).run.run sess).run ((H.workDir.run st.1).2, st.2) := rfl

theorem run_config_bind {β : Type} (f : Config → Run (Watch H) β) (sess : Session) (st : σ × List Change) :
    ((config >>= f : Run (Watch H) β).run.run sess).run st =
      ((f (sess.config.getD Config.defaults)).run.run sess).run st := rfl

theorem perform_compile (p : Command.Parsed) :
    (perform compileCommand.name p : Run (Watch H) _) =
      config >>= fun cfg => Compile.compile cfg journal (compileRequest p) := by
  simp [perform]

/-- The `compile` subcommand, run in a session from an absolute working directory, asks only for
changes `P` allows, when `P` allows appending to the session's log file and every table compiled
below the destination keeps to `P`. -/
theorem perform_compile_recorded (p : Command.Parsed) (sess : Session)
    (hlog : ∀ c, Change.Logs sess.sinks c → P c)
    (hcs : ∀ e d, Charset.forced (compileRequest p).charset = some e → e.decoding = some d → d.KeepsSafe)
    (s₀ : σ) (hwd : isAbs (H.workDir.run s₀).1 = true)
    (htable : ∀ s : Compile.Settings, Java.isIdentifier s.tableName = true → s.noDirs = (compileRequest p).noDirs →
      ∀ input src pkg, Descends src →
        (Session.recorded P hnames sess.sinks).holds
          (Compile.compileTable s journal input src pkg ((compileRequest p).destination (H.workDir.run s₀).1))
          fun _ => True) :
    ∀ c ∈ (((perform compileCommand.name p : Run (Watch H) _).run.run sess).run (s₀, [])).2.2, P c := by
  rw [perform_compile, run_config_bind]
  unfold Compile.compile
  split
  · rename_i src _
    split
    · exact Session.recorded_run hnames ((Session.recorded P hnames sess.sinks).pure (Q := fun _ => True) trivial)
        rfl s₀
    · -- the working directory is asked once, before anything else
      rw [run_workDir_bind]
      exact Session.recorded_run hnames (compileFrom_holds _ _ (journal_quiet hnames hlog).toSteady hcs src hwd htable)
        rfl _
  · exact Session.recorded_run hnames ((Session.recorded P hnames sess.sinks).pure (Q := fun _ => True) trivial)
      rfl s₀

end Program

end ResourceSymbols
