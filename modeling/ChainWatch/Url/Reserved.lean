/-!
# Reserved characters

Some characters separate the parts of a URL, and some are not shown in it as they are.  Which ones
depends on the part.

* `isForbiddenInHost`, `isForbiddenInDomain` : the characters that a host does not have.
* `hiddenInUserinfo`, `hiddenInPath`, `hiddenInQuery`, `hiddenInFragment` : the characters that are
  written by their codes.
-/

namespace ChainWatch

/-- Controls and everything beyond ASCII. -/
def isControl (c : Char) : Bool := c.toNat < 0x20 || 0x7F ≤ c.toNat

/-- Characters that separate the parts of a URL, blanks and the like. -/
def isForbiddenInHost (c : Char) : Bool :=
  ['\x00', '\t', '\n', '\r', ' ', '#', '/', ':', '<', '>', '?', '@', '[', '\\', ']', '^',
   '|'].contains c

/-- Characters that a domain name does not have either. -/
def isForbiddenInDomain (c : Char) : Bool :=
  isForbiddenInHost c || c == '%' || c.toNat < 0x20 || c.toNat == 0x7F

/-- Characters that a fragment does not show. -/
def hiddenInFragment (c : Char) : Bool := isControl c || [' ', '"', '<', '>', '`'].contains c

/-- Characters that a path does not show. -/
def hiddenInPath (c : Char) : Bool := hiddenInFragment c || ['#', '?', '{', '}'].contains c

/-- Characters that user and password do not show. -/
def hiddenInUserinfo (c : Char) : Bool :=
  hiddenInPath c || ['/', ':', ';', '=', '@', '[', '\\', ']', '^', '|'].contains c

/-- Characters that a query does not show. -/
def hiddenInQuery (c : Char) : Bool := isControl c || [' ', '"', '#', '<', '>'].contains c

end ChainWatch
