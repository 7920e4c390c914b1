import Cadastre.Pipeline.Upload
import Cadastre.Pipeline.Windows

/-!
Writing stored items to the registry, window by window. A window is written at its first key, so
that every item lands on the line of its local key. Several writes may be under way; each outcome
is recorded and saved as it comes in. A refused window is reported and left for the next time.
-/

namespace Cadastre

/-- The defaults of a new registry: from the settings, and where these say nothing from an item's
manifest. -/
def CollectionConfig.defaults (config : CollectionConfig) (manifest : Option Manifest) :
    Except PipelineFault RegistryDefaults :=
  let symbol := (config.symbol.or (manifest.bind Manifest.symbol)).getD ""
  match config.sellerFee.or (manifest.map Manifest.sellerFee) with
  | none =>
    .error (.config "collection.seller_fee_basis_points is unset and no manifest is available")
  | some sellerFee =>
    let creators :=
      if config.creators.isEmpty then
        (manifest.map fun manifest => manifest.properties.creators).getD []
      else config.creators
    if creators.isEmpty then
      .error (.config "no creators in collection config or item manifest")
    else
      .ok {
        symbol, sellerFee
        creators := creators.map fun creator => { creator with verified := some true }
        isMutable := config.isMutable
        retainAuthority := config.retainAuthority
        maxSupply := 0 }

namespace Record

/-- The lines of a window, if all its items are stored. -/
def entries? (record : Record) (window : Window) : Option (List RegistryEntry) :=
  window.mapM fun key =>
    ((record.get? key).filter fun item => item.state ≠ .pending).map fun item =>
      ⟨item.name, item.link⟩

def markWindow (record : Record) : Window → Except Fault Record
  | [] => .ok record
  | key :: rest =>
    if record.stateOf? key = some .uploaded then
      match record.markOnChain key with
      | .error fault => .error fault
      | .ok record => markWindow record rest
    else markWindow record rest

def registryHandle? (record : Record) : Option RegistryHandle :=
  record.program.map fun program => ⟨program.uniqueId, program.registryLocator⟩

end Record

/-- A write that is under way, and the window that it is for. -/
structure Pass.Pending where
  window : Window
  append : AppendCall

/-- Where a pass over the windows stands: the record, the outcomes by first key, and the writes
that are under way. -/
structure Pass where
  handle : PartitionHandle
  outcomes : Std.ExtTreeMap LocalKey WindowOutcome := ∅
  underWay : List Pass.Pending := []

namespace Pass

def settle (pass : Pass) (window : Window) (outcome : WindowOutcome) : Pass :=
  { pass with outcomes := pass.outcomes.insert window.first outcome }

end Pass

namespace Pipeline

def applyResult (pipeline : Pipeline) (pass : Pass) (window : Window)
    (result : Except RegistryFault Unit) : Work Pass :=
  match result with
  | .error fault => pure (pass.settle window (.failed fault.message))
  | .ok () => do
    let record ← Work.check (pass.handle.record.markWindow window) PipelineFault.core
    let handle := { pass.handle with record }
    pipeline.persist handle
    pure ({ pass with handle }.settle window .written)

/-- Waits for one of the writes that are under way. -/
def awaitOne (pipeline : Pipeline) (pass : Pass) : Work Pass :=
  match pass.underWay with
  | [] => pure pass
  | first :: rest => do
    let (place, result) ← ExceptT.lift (Site.awaitAppend first.append (rest.map Pass.Pending.append))
    let ended := (first :: rest).get ⟨place.val, by simpa using place.isLt⟩
    let pass := { pass with underWay := (first :: rest).eraseIdx place.val }
    pipeline.applyResult pass ended.window result

def awaitAll (pipeline : Pipeline) (pass : Pass) : Nat → Work Pass
  | 0 => pure pass
  | count + 1 => do
    let pass ← pipeline.awaitOne pass
    awaitAll pipeline pass count

/-- Deals with a window: it is skipped, not ready, or its write is begun, and then one write is
awaited if as many are under way as may be. -/
def dispatch (pipeline : Pipeline) (registry : RegistryHandle) (pass : Pass) (window : Window) :
    Work Pass :=
  let record := pass.handle.record
  if record.allOnChain window then pure (pass.settle window .skipped)
  else
    match record.entries? window with
    | none => pure (pass.settle window .notReady)
    | some entries => do
      let append : AppendCall := ⟨registry, entries, window.first⟩
      ExceptT.lift (Site.startAppend append)
      let pass := { pass with underWay := pass.underWay ++ [⟨window, append⟩] }
      if (max pipeline.concurrency 1).toNat ≤ pass.underWay.length then pipeline.awaitOne pass
      else pure pass

def dispatchAll (pipeline : Pipeline) (registry : RegistryHandle) (pass : Pass) :
    List Window → Work Pass
  | [] => pipeline.awaitAll pass pass.underWay.length
  | window :: rest => do
    let pass ← pipeline.dispatch registry pass window
    dispatchAll pipeline registry pass rest

def reportWindow (outcomes : Std.ExtTreeMap LocalKey WindowOutcome) (window : Window) :
    WindowReport :=
  ⟨window.first, window.last, window.length, outcomes[window.first]?.getD .notReady⟩

/-- Writes every window that is not in the registry yet. -/
def syncRegistry (pipeline : Pipeline) (handle : PartitionHandle) (registry : RegistryHandle) :
    Work (SyncReport × PartitionHandle) := do
  let startedAt ← ExceptT.lift Site.now
  let windows := Window.ofKeys (max pipeline.windowSize 1) handle.record.keys
  let pass ← pipeline.dispatchAll registry { handle } windows
  pure (⟨startedAt, windows.map (reportWindow pass.outcomes)⟩, pass.handle)

/-- What a registry for the partition is to be told. -/
def registryDefaults (pipeline : Pipeline) (partition : Partition) : Work RegistryDefaults := do
  let candidates ← Source.candidates pipeline.assetsDir pipeline.remapper partition
  let manifest ← match candidates with
    | [] => pure none
    | first :: _ => some <$> Source.manifest first
  Work.check (pipeline.collection.defaults manifest) id

/-- Creates the partition's registry, and saves its identifiers before anything is written. -/
def createRegistry (pipeline : Pipeline) (handle : PartitionHandle) :
    Work (RegistryHandle × PartitionHandle) := do
  let defaults ← pipeline.registryDefaults handle.partition
  let capacity := pipeline.remapper.layout.cellsPerPartition
  let registry ← Work.expect (Site.register capacity defaults) PipelineFault.registry
  let program : Program := ⟨registry.uniqueId, registry.locator⟩
  let handle := { handle with record := { handle.record with program := some program } }
  pipeline.persist handle
  pure (registry, handle)

def emptyReport : Work SyncReport := do
  let startedAt ← ExceptT.lift Site.now
  pure ⟨startedAt, []⟩

/-- Writes a partition to its registry, creating that one first if need be. A partition without
items gets none. -/
def syncHandle (pipeline : Pipeline) (handle : PartitionHandle) :
    Work (SyncReport × PartitionHandle) := do
  if handle.record.items.isEmpty then do
    let report ← emptyReport
    pure (report, handle)
  else
    match handle.record.registryHandle? with
    | some registry => pipeline.syncRegistry handle registry
    | none => do
      let (registry, handle) ← pipeline.createRegistry handle
      pipeline.syncRegistry handle registry

end Pipeline

end Cadastre
