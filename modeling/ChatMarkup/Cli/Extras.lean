import ChatMarkup.Config.Settings

namespace ChatMarkup.Cli

open Config (Settings)

def isHyphenated (arg : Text) : Bool := arg.head? == some '-'

/-- Parameters by name; names differ. -/
abbrev Extras := List (Text × Text)

inductive ExtraError where
  | number (name : String) (raw : Text)
  | switch (name : String) (lowered : Text)
  deriving DecidableEq, Repr, Inhabited

def ExtraError.message : ExtraError → Text
  | number name raw =>
    "Invalid number '".toList ++ raw ++ "' for --extra-".toList ++ name.toList
  | switch name lowered =>
    "Invalid boolean value '".toList ++ lowered ++ "' for --extra-".toList ++ name.toList

namespace Extras

def name? (arg : Text) : Option Text :=
  (Text.dropFront? "--extra-".toList arg).or (Text.dropFront? "--extras-".toList arg)

/-- Adds a parameter in front of others; a later one of the same name wins. -/
def add (name value : Text) (later : Extras) : Extras :=
  if (List.lookup name later).isSome then later else (name, value) :: later

/-- The value of a parameter that stands alone. -/
def alone : Text := "true".toList

/-- Splits arguments into those that are no extra parameters and the parameters. The value of a
parameter is the next argument, unless that begins with a hyphen. -/
def split : List Text → List Text × Extras
  | [] => ([], [])
  | arg :: args =>
    match name? arg with
    | none =>
      let (others, extras) := split args
      (arg :: others, extras)
    | some name =>
      match args with
      | [] => ([], add name alone [])
      | value :: rest =>
        if isHyphenated value then
          let (others, extras) := split (value :: rest)
          (others, add name alone extras)
        else
          let (others, extras) := split rest
          (others, add name value extras)

theorem split_cons_of_not_flag {arg : Text} (h : name? arg = none) (args : List Text) :
    split (arg :: args) = (arg :: (split args).1, (split args).2) := by
  rw [split, h]

/-- Takes out the parameter with the first of some names that is given. -/
def take (extras : Extras) : List String → Option Text × Extras
  | [] => (none, extras)
  | name :: names =>
    match List.lookup name.toList extras with
    | some value => (some value, extras.filter (·.1 != name.toList))
    | none => take extras names

end Extras

/-- A setting that a parameter can change: the names of the parameter, the one that is told in
errors first, and what its value does. -/
structure Knob where
  name : String
  aliases : List String := []
  turn : String → Text → Settings → Except ExtraError Settings

namespace Knob

def number (change : Nat → Settings → Settings) (name : String) (raw : Text) (s : Settings) :
    Except ExtraError Settings :=
  match Text.toWord? raw with
  | some n => .ok (change n s)
  | none => .error (.number name raw)

def switch? (lowered : Text) : Option Bool :=
  let t := String.ofList lowered
  if t = "true" ∨ t = "1" ∨ t = "yes" ∨ t = "y" then some true
  else if t = "false" ∨ t = "0" ∨ t = "no" ∨ t = "n" then some false
  else none

def switch (change : Bool → Settings → Settings) (name : String) (raw : Text) (s : Settings) :
    Except ExtraError Settings :=
  match switch? (Text.lower raw) with
  | some b => .ok (change b s)
  | none => .error (.switch name (Text.lower raw))

def all : List Knob :=
  [ { name := "indent-size"
      aliases := ["indent"]
      turn := number fun n s => { s with indentSize := n } },
    { name := "normalize-math"
      aliases := ["normalize-blocks"]
      turn := switch fun b s => { s with normalizeBlocks := b } },
    { name := "latex-min-length"
      turn := number fun n s => { s with minDetectLength := n } },
    { name := "min-column-width"
      turn := number fun n s => { s with minColumnWidth := n } },
    { name := "max-column-width"
      turn := number fun n s => { s with maxColumnWidth := n } } ]

def use (k : Knob) (s : Settings) (extras : Extras) : Except ExtraError (Settings × Extras) :=
  match extras.take (k.name :: k.aliases) with
  | (some raw, extras) => (k.turn k.name raw s).map (·, extras)
  | (none, extras) => .ok (s, extras)

end Knob

/-- Changes settings as parameters say; gives the parameters that are not used, too. -/
def Extras.apply (s : Settings) (extras : Extras) : Except ExtraError (Settings × Extras) :=
  Knob.all.foldlM (fun (s, extras) k => k.use s extras) (s, extras)

end ChatMarkup.Cli
