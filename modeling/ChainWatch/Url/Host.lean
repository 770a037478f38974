import ChainWatch.Text.Percent
import ChainWatch.Url.Address
import ChainWatch.Url.Domain.Name

/-!
# Hosts

A host in brackets is a numeric address.  Otherwise it depends on the scheme: most schemes take any
name without separators as it is, and those of the web take domain names and numeric addresses.

* `namedHost?` : the host of most schemes.
* `webHost?` : the host of a web scheme.
-/

namespace ChainWatch

/-- A numeric address in brackets. -/
def bracketedHost? (host : List Char) : Option (List Char) :=
  if host.getLast? = some ']' then (Ipv6.parse? (host.drop 1).dropLast).map Ipv6.chars else none

/-- A host of a scheme without rules of its own. -/
def namedHost? (host : List Char) : Option (List Char) :=
  if host.head? = some '[' then bracketedHost? host
  else if host.any isForbiddenInHost then none
  else some (Percent.encodeChars isControl host)

/-- A host of a web scheme. -/
def webHost? (host : List Char) : Option (List Char) :=
  if host.head? = some '[' then bracketedHost? host
  else do
    let name ← (Utf8.decode (Percent.decode (Utf8.encodeChars host))).mapM id
    let domain ← asciiDomain? name
    if domain.isEmpty then none
    else if Ipv4.isMeant domain then (Ipv4.parse? domain).map Ipv4.chars
    else some domain

end ChainWatch
