import NodePanel.Encoding.Utf8
import NodePanel.Http.HostName
import NodePanel.Http.IpAddress

/-!
Addresses of resources. Scheme and host are in lower case, a port that the scheme implies is left
out, and in all other parts what an address may not hold is percent-encoded. Taking an address apart
and putting it together again gives the same address.
-/
namespace NodePanel

structure Url where
  scheme : Text
  userinfo : Text
  host : Text
  port : Option Int
  path : Text
  query : Option Text
  fragment : Option Text
deriving DecidableEq

inductive UrlPart where
  | scheme
  | authority
  | path
  | query
  | fragment
deriving DecidableEq

def UrlPart.name : UrlPart → Text
  | scheme => "scheme"
  | authority => "authority"
  | path => "path"
  | query => "query"
  | fragment => "fragment"

inductive WireError where
  | invalidUrl
  | partTooLong (part : UrlPart)
  | encoding (fault : EncodeFault)
deriving DecidableEq

namespace Url

def limit : Nat := 65536

def slash : CodePoint := '/'

def isIn (chars : String) (c : CodePoint) : Bool := (Text.ofString chars).contains c

def isUnreserved (c : CodePoint) : Bool :=
  c.isAsciiLetter || c.isAsciiDigit || isIn "-._~" c

def visibleExcept (chars : String) (c : CodePoint) : Bool :=
  0x20 < c.val && c.val < 0x7F && !isIn chars c

def isQueryPoint (c : CodePoint) : Bool := visibleExcept "\"#<>" c

def isPathPoint (c : CodePoint) : Bool := visibleExcept "\"#<>?`\x7b\x7d" c

def isFragmentPoint (c : CodePoint) : Bool := visibleExcept "\"<>`" c

def isUserinfoPoint (c : CodePoint) : Bool :=
  visibleExcept "\"#<>?`\x7b\x7d/;=@[\\]^|" c

def isHostPoint (c : CodePoint) : Bool :=
  isUnreserved c || isIn "!$&'()*+,;=\"`\x7b\x7d%|\\" c

def upperHexDigit (n : Nat) : CodePoint :=
  CodePoint.ofNat (if n % 16 < 10 then 0x30 + n % 16 else 0x37 + n % 16)

def percentOctet (b : UInt8) : Text :=
  [CodePoint.ofChar '%', upperHexDigit (b.toNat / 16), upperHexDigit b.toNat]

def percent (c : CodePoint) : Text := (Utf8.encodePoint c).flatMap percentOctet

def startsEncoded : Text → Bool
  | c :: d :: e :: _ => c = '%' && d.isHexDigit && e.isHexDigit
  | _ => false

def encodePoint (safe : CodePoint → Bool) (t : Text) (c : CodePoint) : Except WireError Text :=
  if safe c || startsEncoded t then .ok [c]
  else
    match Utf8.encodeFault? [c] with
    | some fault => .error (.encoding fault)
    | none => .ok (percent c)

/-- Percent-encode all that is not safe, and leave alone what is encoded already. -/
def encode (safe : CodePoint → Bool) : Text → Except WireError Text
  | [] => .ok []
  | c :: rest => do
    let piece ← encodePoint safe (c :: rest) c
    let rest ← encode safe rest
    pure (piece ++ rest)

/-- A key or a value of a form: blanks become plus signs. -/
def formText (t : Text) : Except WireError Text :=
  match Utf8.encodeFault? t with
  | some fault => .error (.encoding fault)
  | none => .ok (t.flatMap fun (c : CodePoint) =>
      if c = ' ' then [CodePoint.ofChar '+'] else if isUnreserved c then [c] else percent c)

def formPair (entry : Text × Text) : Except WireError Text := do
  let key ← formText entry.1
  let value ← formText entry.2
  pure (key ++ CodePoint.ofChar '=' :: value)

def formQuery (entries : List (Text × Text)) : Except WireError Text := do
  let pairs ← entries.mapM formPair
  pure (Text.join "&" pairs)

def isBracketed (t : Text) : Bool :=
  t.head? == some (CodePoint.ofChar '[') && t.getLast? == some (CodePoint.ofChar ']')

def hostOf (t : Text) : Except WireError Text :=
  if IpAddress.looksLikeVersion4 t then
    if IpAddress.isVersion4 t then .ok t else .error .invalidUrl
  else if isBracketed t then
    let inner := (t.drop 1).dropLast
    if IpAddress.isVersion6 inner then .ok inner else .error .invalidUrl
  else if t.all CodePoint.isAscii then encode isHostPoint (Text.asciiLower t)
  else (HostName.toWire t).mapError fun _ => .invalidUrl

def impliedPort? (scheme : Text) : Option Int :=
  if scheme = Text.ofString "http" || scheme = Text.ofString "ws" then some 80
  else if scheme = Text.ofString "https" || scheme = Text.ofString "wss" then some 443
  else if scheme = Text.ofString "ftp" then some 21
  else none

/-- The port of an address, unless its scheme as written implies it. -/
def portOf (t scheme : Text) : Except WireError (Option Int) :=
  if t.isEmpty then .ok none
  else
    match Text.toInt? t with
    | none => .error .invalidUrl
    | some port => .ok (if impliedPort? scheme = some port then none else some port)

def splitAuthority (t : Text) : Text × Text × Text :=
  let (userinfo, rest) :=
    match Text.cut? '@' t.reverse with
    | some (rest, userinfo) => (userinfo.reverse, rest.reverse)
    | none => ([], t)
  let bracket : Option (Text × Text) :=
    if rest.head? == some (CodePoint.ofChar '[') then
      (Text.cut? ']' rest.reverse).map fun (after, before) =>
        (before.reverse ++ [CodePoint.ofChar ']'], after.reverse)
    else none
  let (host, after) := bracket.getD (rest.span (· != CodePoint.ofChar ':'))
  (userinfo, host, if after.head? == some (CodePoint.ofChar ':') then after.drop 1 else after)

/-- The parts of a path without those that stand for the same or the enclosing directory. -/
def normalizeParts (parts : List Text) : List Text :=
  (parts.foldl
    (fun kept part =>
      if part = Text.ofString "." then kept
      else if part = Text.ofString ".." then
        (if kept.isEmpty || kept = [[]] then kept else kept.drop 1)
      else part :: kept)
    []).reverse

def normalizePath (t : Text) : Text := Text.join "/" (normalizeParts (Text.splitOn slash t))

/-- Whether a path can follow what stands before it in an address. -/
def isPathAllowed (path : Text) (hasScheme hasAuthority : Bool) : Bool :=
  if hasAuthority then path.isEmpty || path.head? == some slash
  else if hasScheme then true
  else !Text.startsWith "//" path && !Text.startsWith ":" path

def make (scheme authority path : Text) (query fragment : Option Text) : Except WireError Url := do
  let (userinfo, host, port) := splitAuthority authority
  let userinfo ← encode isUserinfoPoint userinfo
  let host ← hostOf host
  let port ← portOf port scheme
  let hasAuthority := !userinfo.isEmpty || !host.isEmpty || port.isSome
  if !isPathAllowed path (!scheme.isEmpty) hasAuthority then .error .invalidUrl
  else
    let path := if !scheme.isEmpty || hasAuthority then normalizePath path else path
    let path ← encode isPathPoint path
    let query ← query.mapM (encode isQueryPoint)
    let fragment ← fragment.mapM (encode isFragmentPoint)
    pure { scheme := Text.asciiLower scheme, userinfo, host, port, path, query, fragment }

def isSchemePoint (c : CodePoint) : Bool :=
  c.isAsciiLetter || c.isAsciiDigit || isIn "+.-" c

/-- The scheme at the front of an address and what follows its colon. -/
def takeScheme (t : Text) : Text × Text :=
  let (scheme, rest) :=
    if t.head?.any CodePoint.isAsciiLetter then t.span isSchemePoint else ([], t)
  if rest.head? == some (CodePoint.ofChar ':') then (scheme, rest.drop 1) else ([], t)

def isPathEnd (c : CodePoint) : Bool := isIn "?#" c

def isAuthorityEnd (c : CodePoint) : Bool := isIn "/?#" c

def ofText (t : Text) : Except WireError Url :=
  if limit < t.length || t.any (fun c => c.val < 0x20 || c.val == 0x7F) then .error .invalidUrl
  else
    let (scheme, rest) := takeScheme t
    let (authority, rest) :=
      if Text.startsWith "//" rest then (rest.drop 2).span (!isAuthorityEnd ·) else ([], rest)
    let (path, rest) := rest.span (!isPathEnd ·)
    let (query, rest) :=
      if rest.head? == some (CodePoint.ofChar '?') then
        let (query, rest) := (rest.drop 1).span (· != CodePoint.ofChar '#')
        (some query, rest)
      else (none, rest)
    make scheme authority path query (if rest.isEmpty then none else some (rest.drop 1))

def hostText (u : Url) : Text :=
  if u.host.contains (CodePoint.ofChar ':') then Text.ofString "[" ++ u.host ++ Text.ofString "]"
  else u.host

def hostAndPort (u : Url) : Text :=
  u.hostText ++ u.port.elim [] (fun port => CodePoint.ofChar ':' :: Text.ofInt port)

def authority (u : Url) : Text :=
  (if u.userinfo.isEmpty then [] else u.userinfo ++ Text.ofString "@") ++ u.hostAndPort

def toText (u : Url) : Text :=
  (if u.scheme.isEmpty then [] else u.scheme ++ Text.ofString ":")
    ++ (if u.authority.isEmpty then [] else Text.ofString "//" ++ u.authority)
    ++ u.path
    ++ u.query.elim [] (CodePoint.ofChar '?' :: ·)
    ++ u.fragment.elim [] (CodePoint.ofChar '#' :: ·)

/-- Whether a name and a colon stand in front of everything else. A host may pass for such a name,
as in `panel.test:8080`. -/
def hasType (u : Url) : Bool :=
  let (name, rest) := u.toText.span fun (c : CodePoint) => !isIn "/:" c
  !name.isEmpty && rest.head? == some (CodePoint.ofChar ':')

/-- The path, which is a slash if nothing is given, and the query. -/
def target (u : Url) : Text :=
  (if u.path.isEmpty then [slash] else u.path) ++ u.query.elim [] (CodePoint.ofChar '?' :: ·)

def isAbsolute (u : Url) : Bool := !u.scheme.isEmpty && !u.host.isEmpty

/-- The first part that is longer than a whole address may be. -/
def longPart? (parts : List (UrlPart × Text)) : Option UrlPart :=
  (parts.find? fun (_, t) => limit < t.length).map (·.1)

def withParts (u : Url) (path : Text) (query : Option Text) : Except WireError Url :=
  let parts : List (UrlPart × Text) :=
    [(.scheme, u.scheme), (.authority, u.authority), (.path, path), (.query, query.getD []),
      (.fragment, u.fragment.getD [])]
  match longPart? parts with
  | some part => .error (.partTooLong part)
  | none => make u.scheme u.authority path query u.fragment

/-- The same address with another path and query, given as one text. -/
def withTarget (u : Url) (target : Text) : Except WireError Url :=
  match Text.cut? '?' target with
  | some (path, query) => u.withParts path (some query)
  | none => u.withParts target none

def withQuery (u : Url) (query : Text) : Except WireError Url := u.withParts u.path (some query)

def isSlash (c : CodePoint) : Bool := c = slash

/-- The address with a slash at its end, so that others can be appended to it. -/
def asBase (u : Url) : Except WireError Url :=
  if u.target.getLast? = some slash then .ok u else u.withTarget (u.target ++ [slash])

/-- Append a relative address to a base; one that is absolute stays. -/
def resolve (base u : Url) : Except WireError Url :=
  if u.isAbsolute then .ok u else base.withTarget (base.target ++ u.target.dropWhile isSlash)

end Url

end NodePanel
