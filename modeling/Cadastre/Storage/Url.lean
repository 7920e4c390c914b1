/-!
Addresses put together from a base and a path.
-/

namespace Cadastre.Url

def trimTrailingSlashes (s : String) : String :=
  .ofList (s.toList.reverse.dropWhile (· = '/')).reverse

def trimLeadingSlashes (s : String) : String :=
  .ofList (s.toList.dropWhile (· = '/'))

/-- Base and path with exactly one slash between them. -/
def join (base path : String) : String :=
  trimTrailingSlashes base ++ "/" ++ trimLeadingSlashes path

end Cadastre.Url
