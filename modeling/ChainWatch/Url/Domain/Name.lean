import ChainWatch.Url.Domain.Label

/-!
# Domain names

A domain name is a list of labels between dots.  If letters that are written from the right occur in
one of them, none may leave a doubt about the order in which it is read.

* `asciiDomain?` : a domain name in ASCII.
-/

namespace ChainWatch

/-- The labels of a name. -/
def labelsOf? (name : List Char) : Option (List Label) := do
  let labels := (← (name.splitOn '.').mapM Label.ofPiece?).flatten
  if labels.any Label.turns ∧ !labels.all Label.runsOneWay then none else some labels

/-- A domain name in ASCII. -/
def asciiDomain? (name : List Char) : Option (List Char) :=
  (labelsOf? name).map fun labels => ['.'].intercalate (labels.map Label.written)

end ChainWatch
