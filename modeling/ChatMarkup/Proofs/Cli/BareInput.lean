import ChatMarkup.Proofs.Cli.Stages
import Mathlib.Tactic.SplitIfs

namespace ChatMarkup.Cli

variable {args others : List Text} {first text : Text} {command : CommandName}

namespace Form

variable {f g h : Form}

/-- Whether everything that one form has stands in another. -/
structure Extends (f g : Form) : Prop where
  config : ∀ path ∈ f.config?, g.config? = some path
  input : ∀ text ∈ f.input?, g.input? = some text
  output : ∀ path ∈ f.output?, g.output? = some path

theorem Extends.refl (f : Form) : f.Extends f :=
  ⟨fun _ => id, fun _ => id, fun _ => id⟩

theorem Extends.trans (hfg : f.Extends g) (hgh : g.Extends h) : f.Extends h where
  config path hpath := hgh.config path (hfg.config path hpath)
  input text htext := hgh.input text (hfg.input text htext)
  output path hpath := hgh.output path (hfg.output path hpath)

theorem extends_of_addInput (hadd : f.addInput command text = .ok g) : f.Extends g := by
  rw [addInput] at hadd
  split_ifs at hadd with hnew
  cases hadd
  have hnone : f.input? = none := by simpa using (Bool.and_eq_true_iff.mp hnew).2
  exact ⟨fun _ => id, by simp [hnone], fun _ => id⟩

theorem extends_of_addOutput (hadd : f.addOutput text = .ok g) : f.Extends g := by
  rw [addOutput] at hadd
  split_ifs at hadd with hnew
  cases hadd
  have hnone : f.output? = none := by simpa using hnew
  exact ⟨fun _ => id, fun _ => id, by simp [hnone]⟩

theorem extends_of_addConfig (hadd : f.addConfig text = .ok g) : f.Extends g := by
  rw [addConfig] at hadd
  split_ifs at hadd with hnew
  cases hadd
  have hnone : f.config? = none := by simpa using hnew
  exact ⟨by simp [hnone], fun _ => id, fun _ => id⟩

theorem extends_of_foldlM
    (hread : args.foldlM (fun (f : Form) => f.addInput command) f = .ok g) : f.Extends g := by
  induction args generalizing f with
  | nil =>
    cases hread
    exact Extends.refl _
  | cons arg args ih =>
    rw [List.foldlM_cons] at hread
    obtain ⟨f', hadd, hrest⟩ := exists_of_bind_eq_ok hread
    exact (extends_of_addInput hadd).trans (ih hrest)

theorem exists_of_withValue {attached? : Option Text} {add : Form → Text → Except Stop Form}
    (hadd : ∀ {path f'}, add f path = .ok f' → f.Extends f')
    (hread : (match _h : optionValue attached? args with
      | .error e => (.error e : Except Stop Form)
      | .ok (value, rest) => do read command (← add f value) rest) = .ok g) :
    ∃ f' rest, f.Extends f' ∧ rest.length ≤ args.length ∧ f'.read command rest = .ok g := by
  split at hread
  · cases hread
  · rename_i value rest hvalue
    obtain ⟨f', hf', hrest⟩ := exists_of_bind_eq_ok hread
    exact ⟨f', rest, hadd hf', length_optionValue_le hvalue, hrest⟩

theorem read_cons {arg : Text} (hread : f.read command (arg :: args) = .ok g) :
    args.foldlM (fun (f : Form) => f.addInput command) f = .ok g ∨
      ∃ f' rest, f.Extends f' ∧ rest.length ≤ args.length ∧ f'.read command rest = .ok g := by
  rw [read] at hread
  dsimp only at hread
  split at hread
  · exact Or.inl hread
  · obtain ⟨f', hadd, hrest⟩ := exists_of_bind_eq_ok hread
    exact Or.inr ⟨f', args, extends_of_addInput hadd, Nat.le_refl _, hrest⟩
  · split_ifs at hread
    · exact Or.inr (exists_of_withValue extends_of_addConfig hread)
    · exact Or.inr (exists_of_withValue extends_of_addOutput hread)
  · split_ifs at hread
    exact Or.inr (exists_of_withValue extends_of_addOutput hread)

/-- What has been read stays, whatever arguments follow. -/
theorem extends_of_read (hread : f.read command args = .ok g) : f.Extends g := by
  induction hn : args.length using Nat.strongRecOn generalizing f args with
  | _ n ih =>
    cases args with
    | nil =>
      rw [read] at hread
      cases hread
      exact Extends.refl _
    | cons arg args =>
      obtain hinputs | ⟨f', rest, hf', hlength, hrest⟩ := read_cons hread
      · exact extends_of_foldlM hinputs
      · have hshorter : rest.length < n := by
          rw [← hn, List.length_cons]
          omega
        exact hf'.trans (ih _ hshorter hrest rfl)

end Form

theorem ofText?_eq_none_iff :
    CommandName.ofText? text = none ↔
      text ∉ ["convert", "latex", "symbols", "help"].map String.toList := by
  rw [CommandName.ofText?]
  split_ifs <;> simp_all

theorem isValue_iff : isValue text = true ↔ text = ['-'] ∨ isHyphenated text = false := by
  rw [isValue, Bool.or_eq_true, Bool.not_eq_true', beq_iff_eq, or_comm]

theorem isBareInput_cons : isBareInput (first :: args) = true ↔
    (first = ['-'] ∨ isHyphenated first = false) ∧
      first ∉ ["convert", "latex", "symbols", "help"].map String.toList := by
  rw [isBareInput, Bool.and_eq_true, isValue_iff, Option.isNone_iff_eq_none, ofText?_eq_none_iff]

theorem parse_convert (args : List Text) :
    parse ("convert".toList :: args) = parseFrom none ("convert".toList :: args) := by
  have hname : isBareInput ("convert".toList :: args) = false := rfl
  rw [parse, hname]
  cases parseFrom none ("convert".toList :: args) <;> rfl

/-- A run asks its arguments for nothing but a request and parameters. -/
theorem World.run_congr (w : World)
    (hrequest : parse (Extras.split args).1 = parse (Extras.split others).1)
    (hextras : (Extras.split args).2 = (Extras.split others).2) : w.run args = w.run others := by
  have hprogram : program Session.system args = program Session.system others := by
    rw [program, program]
    dsimp only
    rw [hrequest, hextras]
  rw [run, run, hprogram]

theorem command?_of_parseInputCommand {config? : Option Text}
    {make : Text → Option Text → Command} {r : Request} (hinput : command.hasInput = true)
    (hfirst : isValue first = true)
    (h : parseInputCommand config? command make (first :: args) = .ok r) :
    ∃ output?, r.command? = some (make first output?) := by
  rw [parseInputCommand] at h
  obtain ⟨f, hread, hrequest⟩ := exists_of_bind_eq_ok h
  rw [Form.read, Token.of_of_isValue hfirst] at hread
  dsimp only [Form.addInput] at hread
  rw [hinput] at hread
  have hinput : f.input? = some first := (Form.extends_of_read hread).input first rfl
  rw [hinput] at hrequest
  cases hrequest
  exact ⟨f.output?, rfl⟩

/-- Arguments that start with an input in place of a command are those of a conversion of it. -/
theorem World.run_of_bare_input (w : World) (hfirst : (Extras.split args).1.head? = some first)
    (hinput : first = ['-'] ∨ isHyphenated first = false)
    (hname : first ∉ ["convert", "latex", "symbols", "help"].map String.toList) :
    w.run args = w.run ("convert".toList :: args) ∧
      ∀ r, parse (Extras.split args).1 = .ok r →
        ∃ output?, r.command? = some (.convert first output?) := by
  obtain ⟨others, hothers⟩ := List.head?_eq_some_iff.mp hfirst
  have hbare : isBareInput (Extras.split args).1 = true := by
    rw [hothers, isBareInput_cons]
    exact ⟨hinput, hname⟩
  have hparse := parse_of_isBareInput hbare
  have hplain : Extras.name? "convert".toList = none := rfl
  have hsplit := Extras.split_cons_of_not_flag hplain args
  constructor
  · refine w.run_congr ?_ ?_
    · rw [hsplit, parse_convert, hparse]
    · rw [hsplit]
  · intro r hr
    rw [hparse, parseFrom, hothers] at hr
    exact command?_of_parseInputCommand rfl (isValue_iff.mpr hinput) hr

/-- The standard input behind a parameter, with options and a file named like a command. -/
theorem World.run_of_bare_input_among_options :
    let w : World := { files := [("own".toList, Text.encode "[render]\nindent_size = 2".toList)]
                       input := Text.encode "- a\n  - b".toList }
    let args := ["--extra-max-column-width", "9", "-", "--config=own", "-o", "latex"]
    let args := args.map String.toList
    let r : Request := ⟨some "own".toList, some (.convert ['-'] (some "latex".toList))⟩
    (Extras.split args).1.head? = some ['-'] ∧
      ['-'] ∉ ["convert", "latex", "symbols", "help"].map String.toList ∧
      w.run args = w.run ("convert".toList :: args) ∧ parse (Extras.split args).1 = .ok r ∧
      ∃ output?, r.command? = some (.convert ['-'] output?) := by
  intro w names args r
  have hfirst : (Extras.split args).1.head? = some ['-'] := by decide +kernel
  have hname : ['-'] ∉ ["convert", "latex", "symbols", "help"].map String.toList := by decide +kernel
  have hr : parse (Extras.split args).1 = .ok r := by decide +kernel
  obtain ⟨hrun, hcommand⟩ := w.run_of_bare_input hfirst (Or.inl rfl) hname
  exact ⟨hfirst, hname, hrun, hr, hcommand r hr⟩

end ChatMarkup.Cli
