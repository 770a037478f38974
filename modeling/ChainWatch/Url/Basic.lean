/-!
# URLs

A URL is kept in parts, each already in the form in which it is written.

* `Url`, `Authority`, `UrlPath` : the parts.
* `Url.text` : the whole.
* `Url.withPassword` : the same URL with another password.
-/

namespace ChainWatch

/-- Who is asked: a user and a password, a host and a port. -/
structure Authority where
  username : List Char := []
  /-- Never empty. -/
  password : Option (List Char) := none
  host : List Char
  port : Option Nat := none
  deriving DecidableEq, Repr

/-- Where the resource is. -/
inductive UrlPath
  /-- A path without structure. -/
  | verbatim (text : List Char)
  /-- Segments, each behind a slash. -/
  | segments (parts : List (List Char))
  deriving DecidableEq, Repr

/-- A URL in its parts. -/
structure Url where
  scheme : List Char
  authority : Option Authority := none
  path : UrlPath
  query : Option (List Char) := none
  fragment : Option (List Char) := none
  deriving DecidableEq, Repr

/-- User and password in front of the host, if there are any. -/
def Authority.userinfo (a : Authority) : List Char :=
  match a.password with
  | some password => a.username ++ ':' :: password ++ ['@']
  | none => if a.username.isEmpty then [] else a.username ++ ['@']

/-- The authority behind its two slashes. -/
def Authority.chars (a : Authority) : List Char :=
  let port := match a.port with
    | some port => ':' :: Nat.toDigits 10 port
    | none => []
  '/' :: '/' :: a.userinfo ++ a.host ++ port

/-- The path. -/
def UrlPath.chars : UrlPath → List Char
  | .verbatim text => text
  | .segments parts => parts.flatMap ('/' :: ·)

namespace Url

/-- The path as it stands in the URL: without an authority, two slashes at its start would look
like one, so a dot segment keeps them apart. -/
def pathChars (u : Url) : List Char :=
  match u.authority, u.path with
  | none, .segments ([] :: second :: rest) =>
    '/' :: '.' :: (UrlPath.segments ([] :: second :: rest)).chars
  | _, path => path.chars

/-- A part that follows a mark, if it is there. -/
def marked (mark : Char) : Option (List Char) → List Char
  | some part => mark :: part
  | none => []

/-- The characters of a URL. -/
def chars (u : Url) : List Char :=
  u.scheme ++ ':' :: ((u.authority.map Authority.chars).getD [] ++ u.pathChars
    ++ marked '?' u.query ++ marked '#' u.fragment)

/-- The text of a URL. -/
def text (u : Url) : String := String.ofList u.chars

/-- The password of a URL. -/
def password? (u : Url) : Option (List Char) := u.authority.bind Authority.password

/-- The URL with another password.  Only a host that has a name can be asked for one. -/
def withPassword (u : Url) (password : List Char) : Option Url :=
  match u.authority with
  | some a =>
    if a.host.isEmpty then none
    else some { u with authority := some { a with password := some password } }
  | none => none

end Url

end ChainWatch
