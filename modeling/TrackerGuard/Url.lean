import TrackerGuard.Text.Blank

/-!
# The host of a URL

A URL is looked at only as far as its host: `scheme://userinfo@host:port…`.  A text that does not
look like this has no host.  `Url.parts?` cuts a text into the pieces around the host, so that their
concatenation is the text again, and the positions of the host are the byte lengths of the pieces
before it.
-/

namespace TrackerGuard.Url

/-- Characters of a scheme after its first letter. -/
def isSchemeChar (c : Char) : Bool := c.isAlphanum || c == '+' || c == '-' || c == '.'

/-- Characters that end the part of a URL in which its host stands. -/
def endsAuthority (c : Char) : Bool := c == '/' || c == '?' || c == '#'

/-- A text cut around its host. -/
structure Parts where
  /-- A letter followed by scheme characters. -/
  scheme : List Char
  /-- Everything from after the slashes up to the last `@` of the authority, included. -/
  userinfo : List Char
  host : List Char
  /-- What follows the host. -/
  rest : List Char
  deriving Repr

/-- Cuts a text behind `scheme://`. -/
def splitScheme? (cs : List Char) : Option (List Char × List Char) :=
  match cs.span (· != ':') with
  | (c :: scheme, ':' :: '/' :: '/' :: rest) =>
    if c.isAlpha && scheme.all isSchemeChar then some (c :: scheme, rest) else none
  | _ => none

/-- Cuts an authority behind its last `@`. -/
def splitUserinfo (authority : List Char) : List Char × List Char :=
  let (host, userinfo) := authority.reverse.span (· != '@')
  (userinfo.reverse, host.reverse)

/-- Cuts the host off what follows the userinfo: an address in brackets up to the closing one, which
must be there, or else everything before the first colon. -/
def splitHost? (cs : List Char) : Option (List Char × List Char) :=
  match cs with
  | '[' :: _ =>
    match cs.span (· != ']') with
    | (inside, _ :: rest) => some (inside ++ [']'], rest)
    | (_, []) => none
  | _ => some (cs.span (· != ':'))

/-- Cuts a text around its host. -/
def parts? (url : String) : Option Parts := do
  let (scheme, rest) ← splitScheme? url.toList
  let (authority, rest) := rest.span (!endsAuthority ·)
  let (userinfo, rest') := splitUserinfo authority
  let (host, port) ← splitHost? rest'
  pure ⟨scheme, userinfo, host, port ++ rest⟩

/-- The text that was cut. -/
def Parts.text (p : Parts) : List Char :=
  p.scheme ++ ':' :: '/' :: '/' :: p.userinfo ++ p.host ++ p.rest

/-- The number of bytes up to and including the slashes after the scheme. -/
def schemeEnd? (url : String) : Option Nat :=
  (splitScheme? url.toList).map fun (scheme, _) => Text.utf8Length scheme + 3

/-- The positions, in bytes, at which the host starts and ends. -/
def hostSpan? (url : String) : Option (Nat × Nat) :=
  (parts? url).map fun p =>
    let start := Text.utf8Length p.scheme + 3 + Text.utf8Length p.userinfo
    (start, start + Text.utf8Length p.host)

/-- The host as it is written, unless it is empty or a single full stop. -/
def host? (url : String) : Option String := do
  let p ← parts? url
  if p.host.isEmpty || p.host = ['.'] then none else some (String.ofList p.host)

/-- How the URLs begin to which tracker rules apply. -/
def webPrefixes : List String := ["https://", "http://", "wss://", "ws://"]

/-- Whether a text begins with a word, whatever the case of the letters. -/
def beginsWith (word cs : List Char) : Bool :=
  (cs.take word.length).map Char.toLower == word

/-- Whether the scheme is one of the web. -/
def isWeb (url : String) : Bool :=
  webPrefixes.any fun word => beginsWith word.toList url.toList

end TrackerGuard.Url
