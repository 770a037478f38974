import ChainWatch.Config.Settings
import ChainWatch.Log
import ChainWatch.Outcome
import ChainWatch.Store.Basic
import ChainWatch.Store.Location
import ChainWatch.Url.Redaction

/-!
# Opening the store

* `openStore` : an empty store, or the reason why there is none.
-/

namespace ChainWatch

/-- Opens the store at an address, and gives the time that its accesses may take. -/
def openStore (database : DatabaseSettings) : Outcome Store (Except StoreError Span) :=
  let details := connectionDetails database.url
  let fresh : Store := { tables := {}, limit := database.storeTimeout }
  match checkLocation database.url with
  | .ok _ =>
    ⟨fresh, .ok database.storeTimeout,
      [details, ⟨.info, "Database connection established successfully"⟩]⟩
  | .error fault =>
    let reason := s!"Failed to connect to database: Connection Error: {fault.message}"
    ⟨fresh, .error (.connection reason), [details, ⟨.error, reason⟩]⟩

end ChainWatch
