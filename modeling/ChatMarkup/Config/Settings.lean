import ChatMarkup.Config.Value
import ChatMarkup.Decimal.Shortest
import ChatMarkup.Options

namespace ChatMarkup.Config

inductive LoadError where
  | missingFile
  | malformedFile
  | malformedPath
  | malformedTree
  | wrongType (key : Text)
  deriving DecidableEq, Repr, Inhabited

namespace LoadError

def under (key : Text) : LoadError → LoadError
  | wrongType inner =>
    wrongType (key ++ (if inner.isEmpty || inner.head? == some '[' then [] else ['.']) ++ inner)
  | e => e

def atPlace (n : Nat) : LoadError → LoadError
  | wrongType inner => wrongType ('[' :: Text.ofNat n ++ ']' :: inner)
  | e => e

end LoadError

structure Settings where
  indentSize : Nat := 4
  markers : List Text := defaultHeadingMarkers
  defaultMarker : Text := "📌".toList
  minColumnWidth : Nat := 3
  maxColumnWidth : Nat := 0
  normalizeBlocks : Bool := false
  minDetectLength : Nat := 5
  deriving DecidableEq, Repr, Inhabited

/-- The options of a rendering with these settings; a limit of 0 is none. -/
def Settings.options (s : Settings) : Options where
  indentSize := s.indentSize
  headingMarkers := s.markers
  defaultHeadingMarker := s.defaultMarker
  table := {
    minColumnWidth := s.minColumnWidth
    maxColumnWidth := if s.maxColumnWidth = 0 then none else some s.maxColumnWidth }
  math := { normalizeBlocks := s.normalizeBlocks, minDetectLength := s.minDetectLength }

namespace Value

def switch? (t : Text) : Option Bool :=
  let t := String.ofList (Text.lower t)
  if t = "true" ∨ t = "on" ∨ t = "yes" then some true
  else if t = "false" ∨ t = "off" ∨ t = "no" then some false
  else none

/-- A value as a number: switches are 1 and 0, and fractions are rounded, a half away from zero. -/
def toNat? : Value → Option Nat
  | bool b => some b.toNat
  | int n => if 0 ≤ n then some n.toNat else none
  | float x => some x.round.toUInt64.toNat
  | text t => ((switch? t).map Bool.toNat).or (Text.toWord? t)
  | null | list _ | table _ => none

/-- A value as a switch: every number but 0 switches on. -/
def toBool? : Value → Option Bool
  | bool b => some b
  | int n => some (n != 0)
  | float x => some (x != 0)
  | text t =>
    if t = ['1'] then some true
    else if t = ['0'] then some false
    else switch? t
  | null | list _ | table _ => none

def toText? : Value → Option Text
  | bool b => some (toString b).toList
  | int n => some (if n < 0 then '-' :: Text.ofNat n.natAbs else Text.ofNat n.natAbs)
  | float x => some (Decimal.text x)
  | text t => some t
  | null | list _ | table _ => none

def scalar {α : Type} (convert? : Value → Option α) (v : Value) : Except LoadError α :=
  match convert? v with
  | some a => .ok a
  | none => .error (.wrongType [])

/-- Reads a field of a record, if it is there. A record is a table, or a list of its fields in
order. -/
def field? {α : Type} (v : Value) (place : Nat) (name : String)
    (read : Value → Except LoadError α) : Except LoadError (Option α) :=
  match v with
  | table es =>
    match Entries.get? es name.toList with
    | some x => ((read x).map some).mapError (·.under name.toList)
    | none => .ok none
  | list vs =>
    match vs[place]? with
    | some x => ((read x).map some).mapError (·.atPlace place)
    | none => .error .malformedTree
  | _ => .error .malformedTree

def present {α : Type} : Option α → Except LoadError α
  | some a => .ok a
  | none => .error .malformedTree

def textsFrom (place : Nat) : List Value → Except LoadError (List Text)
  | [] => .ok []
  | v :: vs => do
    let t ← (scalar toText? v).mapError (·.atPlace place)
    return t :: (← textsFrom (place + 1) vs)

def texts : Value → Except LoadError (List Text)
  | list vs => textsFrom 0 vs
  | _ => .error .malformedTree

def headings (s : Settings) (v : Value) : Except LoadError Settings := do
  let markers ← v.field? 0 "markers" texts
  let defaultMarker ← v.field? 1 "default_marker" (scalar toText?)
  return { s with markers := ← present markers, defaultMarker := ← present defaultMarker }

def tableWidths (s : Settings) (v : Value) : Except LoadError Settings := do
  let min ← v.field? 0 "min_column_width" (scalar toNat?)
  let max ← v.field? 1 "max_column_width" (scalar toNat?)
  return { s with minColumnWidth := ← present min, maxColumnWidth := ← present max }

def formulas (s : Settings) (v : Value) : Except LoadError Settings := do
  let normalizeBlocks ← v.field? 0 "normalize_blocks" (scalar toBool?)
  let minDetectLength ← v.field? 1 "min_detect_length" (scalar toNat?)
  return { s with
    normalizeBlocks := ← present normalizeBlocks
    minDetectLength := ← present minDetectLength }

def rendering (v : Value) : Except LoadError Settings := do
  let indentSize ← v.field? 0 "indent_size" (scalar toNat?)
  let headings ← v.field? 1 "headings" (headings {})
  let widths ← v.field? 2 "table" (tableWidths {})
  let formulas ← v.field? 3 "math" (formulas {})
  let indentSize ← present indentSize
  let headings ← present headings
  let widths ← present widths
  let formulas ← present formulas
  return {
    indentSize := indentSize
    markers := headings.markers
    defaultMarker := headings.defaultMarker
    minColumnWidth := widths.minColumnWidth
    maxColumnWidth := widths.maxColumnWidth
    normalizeBlocks := formulas.normalizeBlocks
    minDetectLength := formulas.minDetectLength }

def settings (v : Value) : Except LoadError Settings := do
  present (← v.field? 0 "render" rendering)

end Value
end ChatMarkup.Config
