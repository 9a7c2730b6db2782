import ChatMarkup.Proofs.Cli.Files
import ChatMarkup.Proofs.Effects

namespace ChatMarkup.Cli

open Config (Settings Layer)

variable {w : World} {args : List Text} {config? output? : Option Text} {extras : Extras}
  {c : Command} {s : Settings} {input path text : Text}

/-- The input and the output of a command that makes one text of another. -/
def Command.files? : Command → Option (Text × Option Text)
  | .convert input output? | .latex input output? => some (input, output?)
  | .symbols => none

/-- The text that a command makes of its input. -/
def Command.make (s : Settings) (source : Text) : Command → Except Failure Text
  | .convert _ _ =>
    match convertMarkdown source s.options with
    | .ok text => .ok text.toList
    | .error e => .error (.rendering e)
  | .latex _ _ => .ok (Latex.escapeLatex s.minDetectLength source)
  | .symbols => .ok symbolsText

theorem Failure.code_ne_zero (e : Failure) : e.code ≠ 0 := by
  cases e <;> simp [code]

namespace Session

theorem quiet_read (source : Source) : Quiet (system.read source) := fun _ => rfl

theorem quiet_orFail {ε α : Type} (failure : ε → Failure) (r : Except ε α) :
    Quiet (orFail (m := StateM Session) failure r).run := by
  cases r <;> exact quiet_pure _

theorem quiet_readSettingsFile (path : Text) : Quiet (readSettingsFile system path) := by
  refine quiet_bind (quiet_read _) fun r => ?_
  cases r with
  | ok bytes => exact quiet_pure _
  | error e =>
    refine quiet_bind (quiet_read _) fun r => ?_
    cases r <;> exact quiet_pure _

theorem quiet_loadSettings (named? : Option Text) : Quiet (loadSettings system named?).run := by
  refine quiet_run_bind (quiet_run_lift (quiet_readSettingsFile _)) fun own => ?_
  cases named? with
  | none => exact quiet_orFail _ _
  | some path =>
    exact quiet_run_bind (quiet_run_lift (quiet_readSettingsFile _)) fun _ => quiet_orFail _ _

theorem quiet_configure (named? : Option Text) (extras : Extras) :
    Quiet (configure system named? extras).run :=
  quiet_run_bind (quiet_loadSettings _) fun _ =>
    quiet_run_bind (quiet_orFail _ _) fun _ => quiet_pure _

theorem quiet_readInput (input : Text) : Quiet (readInput system input).run := by
  refine quiet_run_bind (quiet_run_lift (quiet_read _)) fun r => ?_
  cases r with
  | error e => exact quiet_pure _
  | ok bytes =>
    dsimp only
    cases Text.decode? bytes <;> exact quiet_pure _

theorem run_write (path text : Text) (t : Session) :
    (system.write path text).run t =
      match t.world.write path text with
      | .ok world => (.ok (), { t with world := world })
      | .error e => (.error e, t) := by
  change ((match t.world.write path text with
    | .ok world => do
      modify fun t => { t with world := world }
      return .ok ()
    | .error e => return .error e : StateM Session (Except FileError Unit)).run t) = _
  cases t.world.write path text <;> rfl

theorem run_writeOutput (path text : Text) (t : Session) :
    (writeOutput system (some path) text).run.run t =
      match t.world.write path text with
      | .ok world => (.ok (), { t with world := world })
      | .error e => (.error (.writing path e), t) := by
  change (orFail (.writing path) ((system.write path text).run t).1 :
    ExceptT Failure (StateM Session) Unit).run.run ((system.write path text).run t).2 = _
  rw [run_write]
  cases t.world.write path text <;> rfl

/-- The last stage changes nothing either, unless it succeeds. -/
theorem atomic_writeOutput (output? : Option Text) (text : Text) :
    Atomic (writeOutput system output? text) := by
  intro t e h
  cases output? with
  | none => cases h
  | some path =>
    rw [run_writeOutput] at h ⊢
    cases hwrite : t.world.write path text with
    | error e => rfl
    | ok world =>
      rw [hwrite] at h
      cases h

theorem atomic_execute (s : Settings) (c : Command) : Atomic (execute system s c) := by
  cases c with
  | convert input output? =>
    exact atomic_bind (quiet_readInput _) fun _ => atomic_bind (quiet_orFail _ _) fun _ =>
      atomic_writeOutput _ _
  | latex input output? => exact atomic_bind (quiet_readInput _) fun _ => atomic_writeOutput _ _
  | symbols => exact fun _ _ h => by cases h

theorem atomic_program (args : List Text) : Atomic (program system args) := by
  rw [program]
  dsimp only
  cases parse (Extras.split args).1 with
  | error stop =>
    cases stop with
    | usage => exact atomic_of_quiet (quiet_pure _)
    | help topic? full => exact fun _ _ h => by cases h
    | version => exact fun _ _ h => by cases h
  | ok r =>
    refine atomic_bind (quiet_configure _ _) fun s => ?_
    cases r.command? with
    | none => exact atomic_of_quiet (quiet_pure _)
    | some c => exact atomic_execute s c

/-- What a session has to show at the end of a run. -/
def report (t : Session) : Except Failure Unit → Report
  | .ok () => { out := t.out, err := t.err }
  | .error e => { code := e.code, out := t.out, err := t.err ++ e.message }

end Session

namespace World

/-- What an action gives in this world. -/
def value {α : Type} (w : World) (x : StateM Session α) : α := (x.run { world := w }).1

/-- A file of settings, if it can be read. -/
def settingsFile? (w : World) (path : Text) : Option Text :=
  w.value (readSettingsFile Session.system path)

/-- What is laid over the default settings. -/
def layers (w : World) (config? : Option Text) : List Layer :=
  .file (w.settingsFile? settingsPath) false ::
    config?.toList.map fun path => .file (w.settingsFile? path) true

/-- The settings of a run: those of the files, changed as parameters say. -/
def settings (w : World) (config? : Option Text) (extras : Extras) : Except Failure Settings :=
  w.value (configure Session.system config? extras).run

/-- The text of an input. -/
def source (w : World) (input : Text) : Except Failure Text :=
  w.value (readInput Session.system input).run

/-- Shows a text, or writes it to a file. -/
def deliver (w : World) (output? : Option Text) (text : Text) : World × Report :=
  w.exec (writeOutput Session.system output? text)

theorem exec_eq (w : World) (x : ExceptT Failure (StateM Session) Unit) :
    w.exec x = ((x.run.run { world := w }).2.world,
      (x.run.run { world := w }).2.report (x.run.run { world := w }).1) := by
  change (fun after : Nat × Session => (after.2.world, Report.mk after.1 after.2.out after.2.err))
    ((match (x.run.run { world := w }).1 with
      | .ok () => return 0
      | .error e => do
        Session.system.tell e.message
        return e.code : StateM Session Nat).run (x.run.run { world := w }).2) = _
  cases (x.run.run { world := w }).1 <;> rfl

theorem exec_bind {α : Type} {x : ExceptT Failure (StateM Session) α} (hx : Quiet x.run)
    (f : α → ExceptT Failure (StateM Session) Unit) :
    w.exec (x >>= f) =
      match w.value x.run with
      | .error e => (w, e.report)
      | .ok a => w.exec (f a) := by
  rw [exec_eq, run_bind_of_quiet hx, value]
  cases (x.run.run { world := w }).1 with
  | ok a => exact (exec_eq w (f a)).symm
  | error e => rfl

theorem value_bind {α β : Type} {x : ExceptT Failure (StateM Session) α} (hx : Quiet x.run)
    (f : α → ExceptT Failure (StateM Session) β) :
    w.value (x >>= f).run = w.value x.run >>= fun a => w.value (f a).run := by
  rw [value, run_bind_of_quiet hx, value]
  cases (x.run.run { world := w }).1 <;> rfl

theorem exec_of_atomic {x : ExceptT Failure (StateM Session) Unit} (hx : Atomic x)
    (h : (w.exec x).2.code ≠ 0) : ∃ e : Failure, w.exec x = (w, e.report) := by
  rw [exec_eq] at h ⊢
  cases hr : (x.run.run { world := w }).1 with
  | ok =>
    rw [hr] at h
    exact absurd rfl h
  | error e =>
    rw [hx _ e hr]
    exact ⟨e, rfl⟩

theorem value_orFail {ε α : Type} (failure : ε → Failure) (r : Except ε α) :
    w.value (orFail (m := StateM Session) failure r).run = r.mapError failure := by
  cases r <;> rfl

theorem value_loadSettings :
    w.value (loadSettings Session.system config?).run =
      (Config.load (w.layers config?)).mapError .config := by
  have hown : w.value (ExceptT.lift (ε := Failure)
      (readSettingsFile Session.system settingsPath)).run = .ok (w.settingsFile? settingsPath) := rfl
  rw [loadSettings, value_bind (quiet_run_lift (Session.quiet_readSettingsFile _)), hown]
  cases config? with
  | none => exact value_orFail _ _
  | some path =>
    change w.value (ExceptT.lift _ >>= _ : ExceptT Failure (StateM Session) Settings).run = _
    rw [value_bind (quiet_run_lift (Session.quiet_readSettingsFile _))]
    exact value_orFail _ _

theorem settings_eq :
    w.settings config? extras = do
      let loaded ← (Config.load (w.layers config?)).mapError .config
      let (s, _) ← (extras.apply loaded).mapError .extra
      return s := by
  rw [settings, configure, value_bind (Session.quiet_loadSettings _), value_loadSettings]
  congr 1
  funext loaded
  rw [value_bind (Session.quiet_orFail _ _), value_orFail]
  rfl

theorem run_of_parse (h : parse (Extras.split args).1 = .ok ⟨config?, some c⟩) :
    w.run args =
      match w.settings config? (Extras.split args).2 with
      | .error e => (w, e.report)
      | .ok s => w.exec (execute Session.system s c) := by
  rw [run, program]
  dsimp only
  rw [h]
  dsimp only
  rw [exec_bind (Session.quiet_configure _ _), ← settings]
  cases w.settings config? (Extras.split args).2 <;> rfl

theorem exec_execute (h : c.files? = some (input, output?)) :
    w.exec (execute Session.system s c) =
      match w.source input >>= fun source => c.make s source with
      | .error e => (w, e.report)
      | .ok text => w.deliver output? text := by
  cases c with
  | convert =>
    cases h
    rw [execute, exec_bind (Session.quiet_readInput _), ← source]
    cases w.source input with
    | error e => rfl
    | ok source =>
      change w.exec _ = match Command.make s source (.convert input output?) with
        | .error e => (w, e.report)
        | .ok text => w.deliver output? text
      rw [exec_bind (Session.quiet_orFail _ _), value_orFail, Command.make]
      cases convertMarkdown source s.options <;> rfl
  | latex =>
    cases h
    rw [execute, exec_bind (Session.quiet_readInput _), ← source]
    cases w.source input <;> rfl
  | symbols => cases h

/-- What is left of a text where it is to go: it is shown and nothing changes, or it is read back from
the path, where one file holds it, nothing is shown and nothing else changes. -/
def Delivers (w : World) (text : Text) (after : World × Report) : Option Text → Prop
  | none => after = (w, { out := text })
  | some path => after.2 = {} ∧ after.1.read (.file path) = .ok (Text.encode text) ∧
      after.1.input = w.input ∧ after.1.directory = w.directory ∧
      after.1.directories = w.directories ∧ ∃ file, w.file path = .ok file ∧
        ∀ other, after.1.get? other =
          if other = file then some (Text.encode text) else w.get? other

theorem delivers_deliver (h : (w.deliver output? text).2.code = 0) :
    w.Delivers text (w.deliver output? text) output? := by
  cases output? with
  | none => rfl
  | some path =>
    rw [deliver, exec_eq, Session.run_writeOutput, write] at h ⊢
    cases hfile : w.file path with
    | error e =>
      rw [hfile] at h
      exact absurd h (Failure.writing path e).code_ne_zero
    | ok file =>
      have hwrite : w.write path text = .ok (w.put file (Text.encode text)) := by
        rw [write, hfile]
        rfl
      exact ⟨rfl, read_of_write hwrite, rfl, rfl, rfl, file, hfile,
        fun other => w.get?_put file other _⟩

/-- A run that fails changes nothing and shows nothing. A run that makes one text of another and does
not fail leaves what its command makes of the input, as that was before the run, where the text is to
go, and leaves everything else as it was. -/
theorem run_leaves_no_trace (w : World) (args : List Text) :
    ((w.run args).2.code ≠ 0 → (w.run args).1 = w ∧ (w.run args).2.out = []) ∧
    ∀ config? c input output?, parse (Extras.split args).1 = .ok ⟨config?, some c⟩ →
      c.files? = some (input, output?) → (w.run args).2.code = 0 →
        ∃ s source text, w.settings config? (Extras.split args).2 = .ok s ∧
          w.source input = .ok source ∧ c.make s source = .ok text ∧
            w.Delivers text (w.run args) output? := by
  constructor
  · intro h
    obtain ⟨e, he⟩ := exec_of_atomic (Session.atomic_program args) h
    rw [run, he]
    exact ⟨rfl, rfl⟩
  · intro config? c input output? hparse hfiles hcode
    rw [run_of_parse hparse] at hcode ⊢
    cases hs : w.settings config? (Extras.split args).2 with
    | error e =>
      rw [hs] at hcode
      exact absurd hcode e.code_ne_zero
    | ok s =>
      rw [hs] at hcode
      dsimp only at hcode ⊢
      rw [exec_execute hfiles] at hcode ⊢
      cases hmade : w.source input >>= fun source => c.make s source with
      | error e =>
        rw [hmade] at hcode
        exact absurd hcode e.code_ne_zero
      | ok text =>
        rw [hmade] at hcode
        obtain ⟨source, hsource, hmake⟩ := exists_of_bind_eq_ok hmade
        exact ⟨s, source, text, rfl, hsource, hmake, delivers_deliver hcode⟩

/-- An output over its own input, by its full path, and a failing run with the same output. -/
theorem run_leaves_no_trace_over_input :
    let w : World := { files := [("a".toList, Text.encode "\\(\\alpha^{2}\\)".toList)]
                       input := [0xff]
                       directory := "d".toList }
    let output := "/d/a".toList
    let args := ["latex".toList, "a".toList, "-o".toList, output]
    let failing := ["latex".toList, "-".toList, "-o".toList, output]
    (w.run failing).2.code ≠ 0 ∧ ((w.run failing).1 = w ∧ (w.run failing).2.out = []) ∧
      (w.run args).2.code = 0 ∧
      (w.run args).1.read (.file output) = .ok (Text.encode "`α²`".toList) ∧
        ∃ s source text, w.settings none [] = .ok s ∧ w.source "a".toList = .ok source ∧
          (Command.latex "a".toList (some output)).make s source = .ok text ∧
            w.Delivers text (w.run args) (some output) := by
  intro w output args failing
  have hfailing : (w.run failing).2.code ≠ 0 := by decide +kernel
  have hparse : parse (Extras.split args).1 =
      .ok ⟨none, some (.latex "a".toList (some output))⟩ := by decide +kernel
  have hcode : (w.run args).2.code = 0 := by decide +kernel
  have hread : (w.run args).1.read (.file output) = .ok (Text.encode "`α²`".toList) := by
    decide +kernel
  exact ⟨hfailing, (run_leaves_no_trace w failing).1 hfailing, hcode, hread,
    (run_leaves_no_trace w args).2 none _ _ _ hparse rfl hcode⟩

end World
end ChatMarkup.Cli
