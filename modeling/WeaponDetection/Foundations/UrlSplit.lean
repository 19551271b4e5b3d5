import WeaponDetection.Foundations.ConfigParser

/-!
# `urllib.parse.urlsplit`

Scheme and network location of a URL.  Splitting raises where the brackets of the network location do
not match, where what they enclose is no address, and where a character of it stands for a delimiter
under compatibility normalization.
-/

namespace WeaponDetection.Foundations

/-- What `urllib.parse` asks of other libraries. -/
structure UrlLibrary where
  /-- `_check_bracketed_netloc` returns. -/
  checkBracketedNetloc : Text → Bool
  /-- `unicodedata.normalize("NFKC", text)`. -/
  nfkc : Text → Text

namespace UrlLibrary

/-- `_WHATWG_C0_CONTROL_OR_SPACE`. -/
def isC0ControlOrSpace (c : Char) : Bool := c.toNat ≤ 0x20

/-- `scheme_chars`. -/
def isSchemeChar (c : Char) : Bool := c.isAlphanum || c = '+' || c = '-' || c = '.'

/-- The scheme in lower case and what follows its colon. -/
def splitScheme (url : Text) : Text × Text :=
  let head := url.takeWhile (· ≠ ':')
  match url.dropWhile (· ≠ ':') with
  | ':' :: rest =>
    if head.head?.any Char.isAlpha && head.all isSchemeChar then (head.map Char.toLower, rest)
    else ([], url)
  | _ => ([], url)

/-- The delimiters behind a network location. -/
def endsNetloc (c : Char) : Bool := c = '/' || c = '?' || c = '#'

/-- `_checknetloc` returns. -/
def checkNetloc (lib : UrlLibrary) (netloc : Text) : Bool :=
  let n := netloc.filter fun c => c ∉ ['@', ':', '#', '?']
  netloc.all (fun c => c.toNat < 128) || lib.nfkc n = n ||
    (lib.nfkc n).all fun c => c ∉ ['/', '?', '#', '@', ':']

/-- `urlsplit(url)`: scheme and network location, `none` for `ValueError`. -/
def urlsplit (lib : UrlLibrary) (url : Text) : Option (Text × Text) :=
  let url := (url.dropWhile isC0ControlOrSpace).filter fun c => c ∉ ['\t', '\r', '\n']
  match splitScheme url with
  | (scheme, '/' :: '/' :: rest) =>
    let netloc := rest.takeWhile fun c => !endsNetloc c
    if netloc.contains '[' != netloc.contains ']' then none
    else if netloc.contains '[' && !lib.checkBracketedNetloc netloc then none
    else if lib.checkNetloc netloc then some (scheme, netloc)
    else none
  | (scheme, _) => some (scheme, [])

end UrlLibrary

end WeaponDetection.Foundations
