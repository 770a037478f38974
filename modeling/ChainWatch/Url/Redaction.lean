import ChainWatch.Log
import ChainWatch.Url.Parser

/-!
# URLs in the log

A URL may hold a password, which does not belong in a log.

* `redactedUrl` : a URL with its password masked.
* `connectionDetails` : the line that is logged about a connection.
-/

namespace ChainWatch

/-- What stands for a password. -/
def passwordMask : List Char := ['*', '*', '*']

/-- A URL with its password masked.  What is no URL may hold a password anywhere, and is not shown
at all. -/
def redactedUrl (url : String) : String :=
  match Url.parse? url with
  | none => "<unparseable database url>"
  | some u =>
    if u.password?.isSome then
      match u.withPassword passwordMask with
      | some masked => masked.text
      | none => "<unprintable database url>"
    else u.text

/-- The line about the database that is going to be used. -/
def connectionDetails (url : String) : LogLine :=
  ⟨.info, s!"Database connection details: {redactedUrl url}"⟩

end ChainWatch
