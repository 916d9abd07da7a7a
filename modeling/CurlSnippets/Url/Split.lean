import CurlSnippets.Url.Host

/-!
# The parts of a url

A url is cut into scheme, authority, path and query; a fragment is dropped.  Spaces and control
characters in front of it are ignored, and tabs and line breaks in it.  A url is refused when square
brackets in its authority do not pair up or hold no address, or when compatibility normalisation of
the authority would bring out a delimiter that was not there.
-/

namespace CurlSnippets

/-- Why a url is refused. -/
inductive UrlError where
  /-- The authority opens a bracket and does not close it, or the other way round. -/
  | brackets
  /-- What the brackets hold is not the host's address. -/
  | host (cause : HostError)
  /-- The authority has a character that decomposes into a delimiter. -/
  | hiddenDelimiter (authority : Text)
deriving DecidableEq

/-- The wording of a refusal. -/
def UrlError.message : UrlError → Text
  | .brackets => "Invalid IPv6 URL"
  | .host cause => cause.message
  | .hiddenDelimiter authority =>
    "netloc '" ++ authority ++ "' contains invalid characters under NFKC normalization"

/-- The parts of a url that are made use of. -/
structure UrlParts where
  /-- In lower case; empty if the url has none. -/
  scheme : Text
  authority : Text
  query : Text
deriving DecidableEq

namespace Url

/-- Whether a character is the space or one of the control characters before it. -/
def isSpaceOrControl (c : Char) : Bool := c.toNat ≤ 0x20

/-- The url without the spaces and control characters in front of it, and without the tabs and line
breaks anywhere in it. -/
def cleaned (url : Text) : Text :=
  (url.dropWhile isSpaceOrControl).filter fun c => c ≠ '\t' && c ≠ '\n' && c ≠ '\r'

/-- Whether a character may stand in a scheme. -/
def isSchemeChar (c : Char) : Bool := c.isAlphanum || c = '+' || c = '-' || c = '.'

/-- The scheme in lower case and what follows its colon; without a well-formed scheme, no scheme and
the whole url. -/
def cutScheme (url : Text) : Text × Text :=
  match Text.cut ':' url with
  | (c :: scheme, some rest) =>
    if c.isAlpha && (c :: scheme).all isSchemeChar then ((c :: scheme).map Char.toLower, rest)
    else ([], url)
  | _ => ([], url)

/-- Whether a character ends the authority. -/
def endsAuthority (c : Char) : Bool := c = '/' || c = '?' || c = '#'

/-- The authority, which two slashes announce. -/
def authorityOf (afterScheme : Text) : Text :=
  match Text.after? "//" afterScheme with
  | some rest => rest.takeWhile fun c => !endsAuthority c
  | none => []

/-- What follows scheme and authority. -/
def pathOf (afterScheme : Text) : Text :=
  match Text.after? "//" afterScheme with
  | some rest => rest.dropWhile fun c => !endsAuthority c
  | none => afterScheme

/-- The query: what stands between the first question mark and the fragment. -/
def queryOf (path : Text) : Text := ((Text.cut '?' (Text.cut '#' path).1).2).getD []

/-- The characters whose compatibility decomposition has one of `/ ? # @ :`. -/
def hidesDelimiter (c : Char) : Bool :=
  [0x2047, 0x2048, 0x2049, 0x2100, 0x2101, 0x2105, 0x2106, 0x2A74, 0xFE13, 0xFE16, 0xFE55, 0xFE56,
    0xFE5F, 0xFE6B, 0xFF03, 0xFF0F, 0xFF1A, 0xFF1F, 0xFF20].contains c.toNat

/-- Refuses an authority that is not well formed. -/
def checkAuthority (authority : Text) : Except UrlError Unit :=
  if authority.contains '[' != authority.contains ']' then .error .brackets
  else match if authority.contains '[' then Host.checkBracketed authority else .ok () with
    | .error e => .error (.host e)
    | .ok () =>
      if authority.any hidesDelimiter then .error (.hiddenDelimiter authority) else .ok ()

/-- The parts of a url. -/
def parts (url : Text) : Except UrlError UrlParts :=
  let (scheme, rest) := cutScheme (cleaned url)
  match checkAuthority (authorityOf rest) with
  | .error e => .error e
  | .ok () => .ok ⟨scheme, authorityOf rest, queryOf (pathOf rest)⟩

end Url

end CurlSnippets
