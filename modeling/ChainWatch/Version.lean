/-!
# Name and version

* `programVersion` : the version that the service and the tool report.
-/

namespace ChainWatch

/-- The version of the program. -/
def programVersion : String := "0.2.0"

end ChainWatch
