import ChatMarkup.Text.Basic

namespace ChatMarkup.Latex

structure Symbol where
  command : String
  glyph : String
  deriving DecidableEq, Repr, Inhabited

namespace Symbol

def greekSmall : List Symbol :=
  [⟨"\\alpha", "α"⟩, ⟨"\\beta", "β"⟩, ⟨"\\gamma", "γ"⟩, ⟨"\\delta", "δ"⟩, ⟨"\\epsilon", "ε"⟩,
    ⟨"\\varepsilon", "ε"⟩, ⟨"\\zeta", "ζ"⟩, ⟨"\\eta", "η"⟩, ⟨"\\theta", "θ"⟩,
    ⟨"\\vartheta", "ϑ"⟩, ⟨"\\iota", "ι"⟩, ⟨"\\kappa", "κ"⟩, ⟨"\\lambda", "λ"⟩, ⟨"\\mu", "μ"⟩,
    ⟨"\\nu", "ν"⟩, ⟨"\\xi", "ξ"⟩, ⟨"\\pi", "π"⟩, ⟨"\\varpi", "ϖ"⟩, ⟨"\\rho", "ρ"⟩,
    ⟨"\\varrho", "ϱ"⟩, ⟨"\\sigma", "σ"⟩, ⟨"\\varsigma", "ς"⟩, ⟨"\\tau", "τ"⟩, ⟨"\\upsilon", "υ"⟩,
    ⟨"\\phi", "φ"⟩, ⟨"\\varphi", "φ"⟩, ⟨"\\chi", "χ"⟩, ⟨"\\psi", "ψ"⟩, ⟨"\\omega", "ω"⟩]

def greekCapital : List Symbol :=
  [⟨"\\Gamma", "Γ"⟩, ⟨"\\Delta", "Δ"⟩, ⟨"\\Theta", "Θ"⟩, ⟨"\\Lambda", "Λ"⟩, ⟨"\\Xi", "Ξ"⟩,
    ⟨"\\Pi", "Π"⟩, ⟨"\\Sigma", "Σ"⟩, ⟨"\\Upsilon", "Υ"⟩, ⟨"\\Phi", "Φ"⟩, ⟨"\\Psi", "Ψ"⟩,
    ⟨"\\Omega", "Ω"⟩]

def operators : List Symbol :=
  [⟨"\\sum", "∑"⟩, ⟨"\\prod", "∏"⟩, ⟨"\\coprod", "∐"⟩, ⟨"\\int", "∫"⟩, ⟨"\\oint", "∮"⟩,
    ⟨"\\iint", "∬"⟩, ⟨"\\iiint", "∭"⟩, ⟨"\\partial", "∂"⟩, ⟨"\\nabla", "∇"⟩, ⟨"\\pm", "±"⟩,
    ⟨"\\mp", "∓"⟩, ⟨"\\times", "×"⟩, ⟨"\\div", "÷"⟩, ⟨"\\setminus", "\\"⟩, ⟨"\\cdot", "·"⟩,
    ⟨"\\ast", "∗"⟩, ⟨"\\star", "★"⟩, ⟨"\\circ", "∘"⟩, ⟨"\\bullet", "•"⟩, ⟨"\\oplus", "⊕"⟩,
    ⟨"\\otimes", "⊗"⟩, ⟨"\\perp", "⊥"⟩, ⟨"\\parallel", "∥"⟩, ⟨"\\surd", "√"⟩]

def relations : List Symbol :=
  [⟨"\\leq", "≤"⟩, ⟨"\\geq", "≥"⟩, ⟨"\\neq", "≠"⟩, ⟨"\\approx", "≈"⟩, ⟨"\\equiv", "≡"⟩,
    ⟨"\\cong", "≅"⟩, ⟨"\\sim", "∼"⟩, ⟨"\\propto", "∝"⟩, ⟨"\\prec", "≺"⟩, ⟨"\\succ", "≻"⟩,
    ⟨"\\preceq", "⪯"⟩, ⟨"\\succeq", "⪰"⟩, ⟨"\\ll", "≪"⟩, ⟨"\\gg", "≫"⟩]

def sets : List Symbol :=
  [⟨"\\in", "∈"⟩, ⟨"\\notin", "∉"⟩, ⟨"\\ni", "∋"⟩, ⟨"\\subset", "⊂"⟩, ⟨"\\supset", "⊃"⟩,
    ⟨"\\subseteq", "⊆"⟩, ⟨"\\supseteq", "⊇"⟩, ⟨"\\cup", "∪"⟩, ⟨"\\cap", "∩"⟩,
    ⟨"\\emptyset", "∅"⟩, ⟨"\\varnothing", "∅"⟩]

def logic : List Symbol :=
  [⟨"\\land", "∧"⟩, ⟨"\\lor", "∨"⟩, ⟨"\\lnot", "¬"⟩, ⟨"\\forall", "∀"⟩, ⟨"\\exists", "∃"⟩,
    ⟨"\\nexists", "∄"⟩, ⟨"\\therefore", "∴"⟩, ⟨"\\because", "∵"⟩]

def arrows : List Symbol :=
  [⟨"\\to", "→"⟩, ⟨"\\rightarrow", "→"⟩, ⟨"\\leftarrow", "←"⟩, ⟨"\\Rightarrow", "⇒"⟩,
    ⟨"\\Leftarrow", "⇐"⟩, ⟨"\\mapsto", "↦"⟩, ⟨"\\uparrow", "↑"⟩, ⟨"\\downarrow", "↓"⟩,
    ⟨"\\updownarrow", "↕"⟩, ⟨"\\leftrightarrow", "↔"⟩, ⟨"\\Leftrightarrow", "⇔"⟩]

def miscellaneous : List Symbol :=
  [⟨"\\infty", "∞"⟩, ⟨"\\aleph", "ℵ"⟩, ⟨"\\hbar", "ℏ"⟩, ⟨"\\ell", "ℓ"⟩, ⟨"\\wp", "℘"⟩,
    ⟨"\\Re", "ℜ"⟩, ⟨"\\Im", "ℑ"⟩, ⟨"\\angle", "∠"⟩, ⟨"\\measuredangle", "∡"⟩,
    ⟨"\\triangle", "△"⟩, ⟨"\\square", "□"⟩, ⟨"\\overline", "‾"⟩, ⟨"\\dots", "…"⟩,
    ⟨"\\cdots", "⋯"⟩, ⟨"\\vdots", "⋮"⟩, ⟨"\\ddots", "⋱"⟩]

def escapedDigits : List Symbol :=
  [⟨"\\_0", "₀"⟩, ⟨"\\_1", "₁"⟩, ⟨"\\_2", "₂"⟩, ⟨"\\_3", "₃"⟩, ⟨"\\_4", "₄"⟩, ⟨"\\_5", "₅"⟩,
    ⟨"\\_6", "₆"⟩, ⟨"\\_7", "₇"⟩, ⟨"\\_8", "₈"⟩, ⟨"\\_9", "₉"⟩, ⟨"\\^0", "⁰"⟩, ⟨"\\^1", "¹"⟩,
    ⟨"\\^2", "²"⟩, ⟨"\\^3", "³"⟩, ⟨"\\^4", "⁴"⟩, ⟨"\\^5", "⁵"⟩, ⟨"\\^6", "⁶"⟩, ⟨"\\^7", "⁷"⟩,
    ⟨"\\^8", "⁸"⟩, ⟨"\\^9", "⁹"⟩]

def accents : List Symbol :=
  [⟨"\\vec", "→"⟩, ⟨"\\dot", "·"⟩, ⟨"\\ddot", "¨"⟩]

def brackets : List Symbol :=
  [⟨"\\lbrace", "\x7b"⟩, ⟨"\\rbrace", "\x7d"⟩, ⟨"\\langle", "⟨"⟩, ⟨"\\rangle", "⟩"⟩,
    ⟨"\\lceil", "⌈"⟩, ⟨"\\rceil", "⌉"⟩, ⟨"\\lfloor", "⌊"⟩, ⟨"\\rfloor", "⌋"⟩]

def physicalConstants : List Symbol :=
  [⟨"\\varepsilon_0", "ε₀"⟩, ⟨"\\mu_0", "μ₀"⟩]

end Symbol

def symbols : List Symbol :=
  Symbol.greekSmall ++ Symbol.greekCapital ++ Symbol.operators ++ Symbol.relations ++
    Symbol.sets ++ Symbol.logic ++ Symbol.arrows ++ Symbol.miscellaneous ++
    Symbol.escapedDigits ++ Symbol.accents ++ Symbol.brackets ++ Symbol.physicalConstants

def symbolTable : List (Text × Text) :=
  symbols.map fun s => (s.command.toList, s.glyph.toList)

def alphabetical : Text → Text → Bool
  | [], _ => true
  | _ :: _, [] => false
  | a :: x, b :: y => a.toNat < b.toNat || (a.toNat == b.toNat && alphabetical x y)

/-- Whether an entry comes before another: longer commands first, those of one length in the order
of the alphabet. -/
def longerFirst (a b : Text × Text) : Bool :=
  match compare (Text.utf8Length b.1) (Text.utf8Length a.1) with
  | .lt => true
  | .eq => alphabetical a.1 b.1
  | .gt => false

def insertByLength (a : Text × Text) : List (Text × Text) → List (Text × Text)
  | [] => [a]
  | b :: table =>
    match longerFirst a b with
    | true => a :: b :: table
    | false => b :: insertByLength a table

def byLength (table : List (Text × Text)) : List (Text × Text) := table.foldr insertByLength []

def symbolsByLength : List (Text × Text) := byLength symbolTable

/-- The glyph of exactly this command. -/
def lookup (command : String) : Option String :=
  (symbols.find? (·.command == command)).map (·.glyph)

def superscript? : Text → Option Text
  | ['0'] => some ['⁰']
  | ['1'] => some ['¹']
  | ['2'] => some ['²']
  | ['3'] => some ['³']
  | ['4'] => some ['⁴']
  | ['5'] => some ['⁵']
  | ['6'] => some ['⁶']
  | ['7'] => some ['⁷']
  | ['8'] => some ['⁸']
  | ['9'] => some ['⁹']
  | _ => none

def subscript? : Text → Option Text
  | ['0'] => some ['₀']
  | ['1'] => some ['₁']
  | ['2'] => some ['₂']
  | ['3'] => some ['₃']
  | ['4'] => some ['₄']
  | ['5'] => some ['₅']
  | ['6'] => some ['₆']
  | ['7'] => some ['₇']
  | ['8'] => some ['₈']
  | ['9'] => some ['₉']
  | ['i'] => some ['ᵢ']
  | ['j'] => some ['ⱼ']
  | ['k'] => some ['ₖ']
  | ['n'] => some ['ₙ']
  | ['m'] => some ['ₘ']
  | _ => none

end ChatMarkup.Latex
