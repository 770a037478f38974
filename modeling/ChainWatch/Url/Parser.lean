import ChainWatch.Url.Basic
import ChainWatch.Url.Host
import ChainWatch.Url.Path

/-!
# Reading URLs

A text is read from left to right: the scheme up to the first colon, the authority between two
slashes and the path, the path up to the query, the query up to the fragment.  Blanks around the
text, and tabs and line ends inside it, count for nothing.

* `SchemeKind` : the schemes with rules of their own.
* `Authority.parse?` : user, password, host and port.
* `Url.parse?` : the whole.
-/

namespace ChainWatch

/-! ### Schemes -/

/-- How the part behind the scheme is read. -/
inductive SchemeKind
  /-- Files, which have no port and need no host. -/
  | file
  /-- The schemes of the web, with their usual ports. -/
  | web (port : Nat)
  /-- All others. -/
  | plain
  deriving DecidableEq, Repr

namespace SchemeKind

/-- The kind of a scheme. -/
def of (scheme : List Char) : SchemeKind :=
  match String.ofList scheme with
  | "file" => file
  | "http" | "ws" => web 80
  | "https" | "wss" => web 443
  | "ftp" => web 21
  | _ => plain

/-- Whether a backslash counts as a slash. -/
def isSpecial (kind : SchemeKind) : Bool := kind ≠ plain

/-- Whether a character is a slash. -/
def isSlash (kind : SchemeKind) (c : Char) : Bool := c == '/' || (kind.isSpecial && c == '\\')

/-- Whether an authority ends before a character. -/
def endsAuthority (kind : SchemeKind) (c : Char) : Bool :=
  kind.isSlash c || c == '?' || c == '#'

end SchemeKind

/-- Whether a character can be part of a scheme. -/
def isSchemeChar (c : Char) : Bool :=
  c.isAlphanum || c == '+' || c == '-' || c == '.'

/-- The scheme in lower case, and the text behind its colon. -/
def splitScheme (chars : List Char) : Option (List Char × List Char) :=
  match chars.dropWhile isSchemeChar with
  | ':' :: rest =>
    if (chars.head?.map Char.isAlpha).getD false then
      some ((chars.takeWhile isSchemeChar).map Char.toLower, rest)
    else none
  | _ => none

/-! ### Authorities -/

/-- The text before the last at sign, and the text behind it. -/
def splitLastAt (chars : List Char) : Option (List Char × List Char) :=
  if chars.contains '@' then
    let host := (chars.reverse.takeWhile (· != '@')).reverse
    some (chars.take (chars.length - host.length - 1), host)
  else none

/-- A host up to the first colon outside brackets, and the text from there on. -/
def splitHost : Bool → List Char → List Char × List Char
  | _, [] => ([], [])
  | inside, c :: rest =>
    if c = ':' ∧ !inside then ([], c :: rest)
    else
      let inside := if c = '[' then true else if c = ']' then false else inside
      let (host, after) := splitHost inside rest
      (c :: host, after)

/-- A port in decimal; nothing is no port. -/
def portOf (kind : SchemeKind) (digits : List Char) : Option (Option Nat) := do
  let port ← readBase 10 digits
  if 65535 < port then none
  -- the port that a scheme implies is not kept
  else if digits.isEmpty ∨ kind = .web port then some none
  else some (some port)

/-- The port behind a host, and the text behind the port: only a backslash may follow. -/
def splitPort (kind : SchemeKind) (after : List Char) : Option (Option Nat × List Char) :=
  match after with
  | [] => some (none, [])
  | _colon :: rest => do
    let port ← portOf kind (rest.takeWhile Char.isDigit)
    match rest.dropWhile Char.isDigit with
    | [] => some (port, [])
    | '\\' :: rest => some (port, '\\' :: rest)
    | _ => none

/-- User and password of the text before the at sign; an empty password is none. -/
def splitUserinfo (chars : List Char) : List Char × Option (List Char) :=
  let encode := Percent.encodeChars hiddenInUserinfo
  match chars.dropWhile (· != ':') with
  | _colon :: password@(_ :: _) => (encode (chars.takeWhile (· != ':')), some (encode password))
  | _ => (encode (chars.takeWhile (· != ':')), none)

/-- The host of a scheme. -/
def hostOf (kind : SchemeKind) (host : List Char) : Option (List Char) :=
  if kind.isSpecial then webHost? host else namedHost? host

/-- The authority that a text consists of, and what is left of the text.  A user or a password
needs a host, and so does a port. -/
def Authority.parse? (kind : SchemeKind) (chars rest : List Char) :
    Option (Authority × List Char) := do
  let (userinfo, hostAndPort) := (splitLastAt chars).getD ([], chars)
  -- an at sign alone in front of a path
  if chars.head? = some '@' ∧ userinfo.isEmpty ∧ hostAndPort.isEmpty ∧ !rest.isEmpty then none
  let (username, password) := splitUserinfo userinfo
  let (name, after) := splitHost false hostAndPort
  if name.isEmpty ∧ (kind.isSpecial ∨ !after.isEmpty ∨ !username.isEmpty ∨ password.isSome) then
    none
  let host ← hostOf kind name
  let (port, left) ← splitPort kind after
  return ({ username, password, host, port }, left ++ rest)

/-! ### Paths, queries and fragments -/

/-- Splits a text at its slashes. -/
def splitSlashes (kind : SchemeKind) (chars : List Char) : List (List Char) :=
  chars.splitOnP kind.isSlash

/-- The segments of a path behind its first slash. -/
def segmentsOf (kind : SchemeKind) (chars : List Char) : List (List Char) :=
  resolveDots (kind = .file) [] ((splitSlashes kind chars).map (Percent.encodeChars hiddenInPath))

/-- A path that may be empty. -/
def pathOf (kind : SchemeKind) (chars : List Char) : UrlPath :=
  match chars with
  | [] => .segments (if kind.isSpecial then [[]] else [])
  | c :: rest => .segments (segmentsOf kind (if kind.isSlash c then rest else c :: rest))

/-- The text up to the query or the fragment, and the rest. -/
def splitPath (chars : List Char) : List Char × List Char :=
  (chars.takeWhile fun c => c != '?' && c != '#', chars.dropWhile fun c => c != '?' && c != '#')

/-- A URL without query and fragment, completed by the text that holds them. -/
def Url.withTail (kind : SchemeKind) (u : Url) (tail : List Char) : Url :=
  let hidden (c : Char) : Bool := hiddenInQuery c || (kind.isSpecial && c == '\'')
  let fragment := match tail.dropWhile (· != '#') with
    | _hash :: rest => some (Percent.encodeChars hiddenInFragment rest)
    | [] => none
  match tail with
  | '?' :: rest =>
    { u with query := some (Percent.encodeChars hidden (rest.takeWhile (· != '#'))), fragment }
  | _ => { u with fragment }

/-! ### Whole URLs -/

/-- Reads what follows two slashes. -/
def parseWithAuthority (kind : SchemeKind) (scheme chars : List Char) : Option Url := do
  let authority := chars.takeWhile fun c => !kind.endsAuthority c
  let (authority, rest) ← Authority.parse? kind authority (chars.drop authority.length)
  let (path, tail) := splitPath rest
  return Url.withTail kind
    { scheme, authority := some authority, path := pathOf kind path } tail

/-- The URL of a file on a host, whose path is read without its first slash.  The path starts with a
single slash, and a drive is on no host. -/
def fileUrl (scheme host chars : List Char) : Url :=
  let (path, tail) := splitPath chars
  let segments := segmentsOf .file path
  let host := if segments.head?.any isDrive then [] else host
  let shown := segments.dropWhile List.isEmpty
  Url.withTail .file
    { scheme, authority := some { host }, path := .segments (if shown.isEmpty then [[]] else shown) }
    tail

/-- Reads what follows the scheme of a file. -/
def parseFile (scheme chars : List Char) : Option Url := do
  let isSlash := SchemeKind.file.isSlash
  match chars.takeWhile isSlash with
  | [] => return fileUrl scheme [] chars
  | [_] => return fileUrl scheme [] (chars.drop 1)
  | _ =>
    let rest := chars.drop 2
    let name := rest.takeWhile fun c => !SchemeKind.file.endsAuthority c
    -- what looks like a drive is no host
    if isDrive name then return fileUrl scheme [] rest
    let host ← if name.isEmpty then some [] else webHost? name
    let rest := rest.drop name.length
    -- without a host, the slash in front is part of the path
    if host.isEmpty ∨ host = "localhost".toList then return fileUrl scheme [] rest
    return fileUrl scheme host (if rest.head?.any isSlash then rest.drop 1 else rest)

/-- Reads what follows a scheme without rules of its own. -/
def parsePlain (scheme chars : List Char) : Option Url :=
  match chars with
  | '/' :: '/' :: rest => parseWithAuthority .plain scheme rest
  | '/' :: rest =>
    let (path, tail) := splitPath rest
    some (Url.withTail .plain { scheme, path := .segments (segmentsOf .plain path) } tail)
  | chars =>
    let (path, tail) := splitPath chars
    some (Url.withTail .plain
      { scheme, path := .verbatim (Percent.encodeChars isControl path) } tail)

/-- The characters of a text that count: blanks and controls around it do not, nor do tabs and
line ends inside it. -/
def significant (text : String) : List Char :=
  let isBlank (c : Char) : Bool := c ≤ ' '
  let trimmed := ((text.toList.dropWhile isBlank).reverse.dropWhile isBlank).reverse
  trimmed.filter fun c => c != '\t' && c != '\n' && c != '\r'

/-- Reads an absolute URL. -/
def Url.parse? (text : String) : Option Url := do
  let (scheme, rest) ← splitScheme (significant text)
  match SchemeKind.of scheme with
  | .file => parseFile scheme rest
  | .web port =>
    parseWithAuthority (.web port) scheme (rest.dropWhile (SchemeKind.isSlash (.web port)))
  | .plain => parsePlain scheme rest

end ChainWatch
