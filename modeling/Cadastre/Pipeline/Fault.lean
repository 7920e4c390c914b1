import Cadastre.Cache.Progress
import Cadastre.Registry.Ledger
import Cadastre.Storage.Fault

/-!
What can stop a run. Faults that are not fatal leave the affected items pending or uploaded, and
the same command resumes.
-/

namespace Cadastre

inductive PipelineFault where
  | core (fault : Fault)
  | cache (fault : CacheFault)
  | storage (fault : StorageFault)
  | registry (fault : RegistryFault)
  | source (path reason : String)
  | config (reason : String)
  deriving DecidableEq, Repr

namespace PipelineFault

def message : PipelineFault → String
  | core fault => fault.message
  | cache fault => fault.message
  | storage fault => fault.message
  | registry fault => fault.message
  | source path reason => s!"failed to read {path}: {reason}"
  | config reason => s!"configuration error: {reason}"

def isFatal : PipelineFault → Bool
  | storage fault => !fault.isProviderFailure
  | registry _ => false
  | core _ | cache _ | source _ _ | config _ => true

end PipelineFault

end Cadastre
