import ChatMarkup.Text.Basic

namespace ChatMarkup

/-- Widths of table columns, in characters; `none` keeps every cell whole. -/
structure TableOptions where
  minColumnWidth : Nat := 3
  maxColumnWidth : Option Nat := none
  deriving DecidableEq, Repr, Inhabited

/-- How formulas are treated: whether a formula block with LaTeX is normalized or left out, and the
least number of bytes in which LaTeX is looked for. -/
structure MathOptions where
  normalizeBlocks : Bool := false
  minDetectLength : Nat := 5
  deriving DecidableEq, Repr, Inhabited

def defaultHeadingMarkers : List Text :=
  ["📌".toList, "✏️".toList, "📚".toList, "🔖".toList]

/-- Everything that a rendering can be told. -/
structure Options where
  indentSize : Nat := 4
  headingMarkers : List Text := defaultHeadingMarkers
  defaultHeadingMarker : Text := "📌".toList
  table : TableOptions := {}
  math : MathOptions := {}
  deriving DecidableEq, Repr, Inhabited

/-- The marker of a heading level; levels past the list have the default marker. -/
def Options.headingMarker (o : Options) (level : Nat) : Text :=
  o.headingMarkers.getD level o.defaultHeadingMarker

end ChatMarkup
