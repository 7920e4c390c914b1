import Cadastre.Pipeline.Publish
import Cadastre.Registry.LedgerFile
import Cadastre.Storage.Provider

/-!
Sites on a machine: the cache, the item files and the ledger are files, and the provider is the
one that the settings choose.
-/

namespace Cadastre

structure Workplace where
  cachePath : String
  assetsDir : String
  ledgerPath : String
  provider : Provider
  deriving DecidableEq, Repr

namespace Ledger

/-- The registry of a locator in the ledger file, if there is one. -/
def findAt (path : String) (locator : Locator) :
    Job Machine (Except RegistryFault (Option Registry)) := do
  let reading ← Machine.readIfPresent path
  pure ((ofReading reading).map fun ledger => ledger.get? locator)

def saveAt (path : String) (ledger : Ledger) : Job Machine (Except RegistryFault Unit) := do
  let saved ← Machine.replaceFile path ledger.bytes
  pure (saved.mapError fun fault => .io fault.reason)

def registerAt (path : String) (capacity : UInt32) (defaults : RegistryDefaults) :
    Job Machine (Except RegistryFault RegistryHandle) := do
  let reading ← Machine.readIfPresent path
  let id ← Machine.freshId
  let time ← Machine.now
  match registerIn reading ⟨id, time.rfc3339⟩ capacity defaults with
  | .error fault => pure (.error fault)
  | .ok (handle, ledger) => do
    let saved ← saveAt path ledger
    pure (saved.map fun () => handle)

def appendAt (path : String) (append : AppendCall) : Job Machine (Except RegistryFault Unit) := do
  let reading ← Machine.readIfPresent path
  match appendIn reading append.handle append.entries append.first with
  | .error fault => pure (.error fault)
  | .ok ledger => saveAt path ledger

end Ledger

namespace Workplace

def reasonOf {α : Type} (answer : Except SystemFault α) : Except String α :=
  answer.mapError SystemFault.reason

/-- How the machine does what a pipeline asks. A registry write is done when it is awaited, in the
order in which the writes were begun. -/
def answer (place : Workplace) : (request : Site.Call) → Job Machine (Site.Answer request)
  | .readCache => Machine.readIfPresent place.cachePath
  | .replaceCache contents => reasonOf <$> Machine.replaceFile place.cachePath contents
  | .listAssets => reasonOf <$> Machine.listDirectory place.assetsDir
  | .readAsset path => reasonOf <$> Machine.readFile path
  | .storePairs pairs => place.provider.storePairs pairs
  | .register capacity defaults => Ledger.registerAt place.ledgerPath capacity defaults
  | .startAppend _ => pure ()
  | .awaitAppend first rest =>
    (fun result => (Site.foremost rest, result)) <$> Ledger.appendAt place.ledgerPath first
  | .now => Machine.now

def perform {α : Type} (place : Workplace) (work : Work α) :
    Job Machine (Except PipelineFault α) :=
  Job.translate (S := Site) place.answer work.run

end Workplace

/-- A pipeline and its site, as the settings describe them. -/
structure Installation where
  pipeline : Pipeline
  place : Workplace

namespace Installation

/-- The permutation that the settings name, the identity if they name none. -/
def permutation (config : GridConfig) : Job Machine (Except Fault Permutation) :=
  match config.permutation with
  | none => pure (.ok (.identity config.layout.cellsPerPartition))
  | some path => do
    let contents ← Machine.readFile path
    pure (Permutation.load path (contents.mapError SystemFault.reason))

def ofConfig (config : Config) : Job Machine (Except PipelineFault Installation) :=
  ExceptT.run do
    if let some fault := config.fault? then
      throw (.config fault.message)
    let permutation ← ExceptT.mk ((Except.mapError PipelineFault.core) <$> permutation config.grid)
    let remapper ← ExceptT.mk (pure
      ((Remapper.create config.grid.layout permutation).mapError PipelineFault.core))
    let cache ← ExceptT.mk (pure
      ((ProgressCache.ofConfig config.cache).mapError PipelineFault.cache))
    let provider ← ExceptT.mk ((Except.mapError PipelineFault.storage)
      <$> Provider.ofConfig config.storage)
    pure {
      pipeline := {
        cache, remapper
        assetsDir := config.upload.assetsDir
        bundled := provider.isBundled
        batchSizeLimit := config.upload.batchSizeLimit
        windowSize := config.registry.windowSize
        concurrency := config.registry.concurrency
        collection := config.collection }
      place := ⟨cache.path, config.upload.assetsDir, config.registry.path, provider⟩ }

def perform {α : Type} (installation : Installation) (work : Pipeline → Work α) :
    Job Machine (Except PipelineFault α) :=
  installation.place.perform (work installation.pipeline)

end Installation

end Cadastre
