import ChatMarkup.Markdown.Reference

namespace ChatMarkup.Markdown

inductive Style where
  | emph
  | strong
  | del
  | superscript
  deriving DecidableEq, Repr, Inhabited

inductive Inline where
  | text (literal : Text)
  | softBreak
  | hardBreak
  | code (literal : Text)
  | html (literal : Text)
  | math (display : Bool) (literal : Text)
  | styled (style : Style) (content : List Inline)
  | link (target : Target) (content : List Inline)
  | image (target : Target) (content : List Inline)
  deriving Repr, Inhabited

def Inline.isHardBreak : Inline → Bool
  | hardBreak => true
  | _ => false

end ChatMarkup.Markdown
