import ChatMarkup.Document.Node

namespace ChatMarkup

/-- The causes: a kind of node without a form in chat markup, or a Markdown construct without a
kind of node. -/
inductive RenderError where
  | unsupported (kind : Kind)
  | unmapped (construct : String)
  deriving DecidableEq, Repr, Inhabited

namespace RenderError

def message : RenderError → String
  | unsupported kind => "unsupported construct: " ++ kind.name
  | unmapped construct => "markdown construct has no document tree equivalent: " ++ construct

def unsupportedKind? : RenderError → Option Kind
  | unsupported kind => some kind
  | unmapped _ => none

end RenderError
end ChatMarkup
