import ChatMarkup.Proofs.Cli.Parameters
import ChatMarkup.Proofs.Cli.Stages
import ChatMarkup.Proofs.Config.Keys

namespace ChatMarkup.Cli

open Config (Settings Layer Key settingsOf)

/-- What is given for the settings of a run: its arguments, and files in the order in which they are
laid over the defaults. -/
structure Sources where
  args : List Text
  layers : List Layer

namespace Sources

variable (g : Sources)

/-- The value of a parameter: of its names the first that is given, and of that the last value. -/
def raw? (names : List String) : Option Text :=
  names.findSome? fun name => Extras.last? g.args name.toList

/-- Whether the value of each parameter that changes a setting is one that it can have. -/
def valid : Bool :=
  Knob.all.all fun k => (g.raw? k.names).all fun raw => (k.turn k.name raw {}).isOk

/-- A number that parameters and files give, or its default. -/
def number (names : List String) (k : Key Nat) (default : Nat) : Nat :=
  (((g.raw? names).bind Text.toWord?).or (k.given? g.layers)).getD default

/-- A switch that parameters and files give, or its default. -/
def switch (names : List String) (k : Key Bool) (default : Bool) : Bool :=
  (((g.raw? names).bind fun raw => Knob.switch? (Text.lower raw)).or
    (k.given? g.layers)).getD default

/-- The options of a rendering, each from its own sources; a limit of 0 is none. -/
def options : Options where
  indentSize := g.number ["indent-size", "indent"] .indentSize 4
  headingMarkers := (Key.markers.given? g.layers).getD defaultHeadingMarkers
  defaultHeadingMarker := (Key.defaultMarker.given? g.layers).getD "📌".toList
  table :=
    let limit := g.number ["max-column-width"] .maxColumnWidth 0
    { minColumnWidth := g.number ["min-column-width"] .minColumnWidth 3
      maxColumnWidth := if limit = 0 then none else some limit }
  math := {
    normalizeBlocks := g.switch ["normalize-math", "normalize-blocks"] .normalizeBlocks false
    minDetectLength := g.number ["latex-min-length"] .minDetectLength 5 }

variable {g}

theorem value?_split (names : List String) :
    (Extras.split g.args).2.value? names = g.raw? names := by
  rw [Extras.value?, Extras.given?, raw?]
  induction names with
  | nil => rfl
  | cons name names ih =>
    rw [List.find?_cons, List.findSome?_cons, ← Extras.lookup_split]
    cases h : List.lookup name.toList (Extras.split g.args).2 with
    | none => exact ih
    | some value => exact h

variable {name : String} {aliases : List String} {raw? : Option Text}

/-- A knob for numbers, which change what `get` reads. -/
theorem turnBy_number {change : Nat → Settings → Settings} (get : Settings → Nat)
    (hget : ∀ s, change (get s) s = s)
    (h : (raw?.all fun raw => (Knob.number change name raw {}).isOk) = true) (s : Settings) :
    Knob.turnBy ⟨name, aliases, Knob.number change⟩ raw? s =
      .ok (change ((raw?.bind Text.toWord?).getD (get s)) s) := by
  cases raw? with
  | none => exact congrArg Except.ok (hget s).symm
  | some raw =>
    rw [Option.all_some, Knob.number] at h
    simp only [Knob.turnBy, Knob.number, Option.bind_some]
    cases hn : Text.toWord? raw with
    | none =>
      rw [hn] at h
      cases h
    | some n => rfl

/-- A knob that switches what `get` reads. -/
theorem turnBy_switch {change : Bool → Settings → Settings} (get : Settings → Bool)
    (hget : ∀ s, change (get s) s = s)
    (h : (raw?.all fun raw => (Knob.switch change name raw {}).isOk) = true) (s : Settings) :
    Knob.turnBy ⟨name, aliases, Knob.switch change⟩ raw? s =
      .ok (change ((raw?.bind fun raw => Knob.switch? (Text.lower raw)).getD (get s)) s) := by
  cases raw? with
  | none => exact congrArg Except.ok (hget s).symm
  | some raw =>
    rw [Option.all_some, Knob.switch] at h
    simp only [Knob.turnBy, Knob.switch, Option.bind_some]
    cases hb : Knob.switch? (Text.lower raw) with
    | none =>
      rw [hb] at h
      cases h
    | some b => rfl

/-- What all knobs together make of settings. -/
theorem turned_of_valid (h : g.valid = true) (s : Settings) :
    Knob.all.foldlM (fun s (k : Knob) =>
      k.turnBy ((Extras.split g.args).2.value? k.names) s) s = .ok
        { s with
          indentSize := ((g.raw? ["indent-size", "indent"]).bind Text.toWord?).getD s.indentSize
          normalizeBlocks := ((g.raw? ["normalize-math", "normalize-blocks"]).bind fun raw =>
            Knob.switch? (Text.lower raw)).getD s.normalizeBlocks
          minDetectLength :=
            ((g.raw? ["latex-min-length"]).bind Text.toWord?).getD s.minDetectLength
          minColumnWidth :=
            ((g.raw? ["min-column-width"]).bind Text.toWord?).getD s.minColumnWidth
          maxColumnWidth :=
            ((g.raw? ["max-column-width"]).bind Text.toWord?).getD s.maxColumnWidth } := by
  simp only [valid, Knob.all, List.all_cons, List.all_nil, Bool.and_true, Bool.and_eq_true,
    Knob.names] at h
  obtain ⟨hindent, hnormalize, hlength, hmin, hmax⟩ := h
  simp only [value?_split, Knob.all, List.foldlM_cons, List.foldlM_nil, Knob.names, bind,
    Except.bind, turnBy_number Settings.indentSize (fun _ => rfl) hindent,
    turnBy_switch Settings.normalizeBlocks (fun _ => rfl) hnormalize,
    turnBy_number Settings.minDetectLength (fun _ => rfl) hlength,
    turnBy_number Settings.minColumnWidth (fun _ => rfl) hmin,
    turnBy_number Settings.maxColumnWidth (fun _ => rfl) hmax]
  rfl

theorem exists_apply (h : g.valid = true) :
    ∃ s, (Extras.split g.args).2.apply (settingsOf g.layers) = .ok (s,
      (Extras.split g.args).2.filter fun e =>
        !Knob.all.any (·.uses (Extras.split g.args).2 e.1)) ∧ s.options = g.options := by
  rw [Extras.apply_eq, turned_of_valid h]
  refine ⟨_, rfl, ?_⟩
  simp only [Settings.options, settingsOf, options, number, switch, Option.getD_or]
  rfl

end Sources

end ChatMarkup.Cli
