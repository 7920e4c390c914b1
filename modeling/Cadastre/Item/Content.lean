/-!
What is handed to a storage provider, and the addresses it gives out.
-/

namespace Cadastre

/-- Address of a stored payload. The empty one stands for no address. -/
abbrev Locator := String

inductive ContentKind where
  | image
  | metadata
  deriving DecidableEq, Repr

namespace ContentKind

def mime : ContentKind → String
  | image => "image/png"
  | metadata => "application/json"

def extension : ContentKind → String
  | image => "png"
  | metadata => "json"

end ContentKind

end Cadastre
