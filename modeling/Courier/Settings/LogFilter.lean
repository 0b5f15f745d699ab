import Courier.Diagnostics.Filter
import Courier.Settings.Basic

/-!
# The filter of diagnostics

The settings name the level from which on diagnostics are written. The level holds for the
library and its program (`Settings.logFilter`). The text of the level is put into two
directives as it is, so that it may go on with a comma and directives of its own.
-/

namespace Courier

/-- The text of the filter. -/
def Settings.logFilter (s : Settings) : String :=
  let level := s.diagnostics.logLevel
  (Diagnostics.Filter.ofText ("rec_core=" ++ level ++ ",rec_cli=" ++ level)).text

end Courier
