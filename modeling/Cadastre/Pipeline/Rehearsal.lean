import Cadastre.Machine.Memory
import Cadastre.Pipeline.Workplace

/-!
Rehearsals: a pipeline's site on a machine in memory. Provider and registry may be stand-ins that
fail where a script says so, and what they are asked is noted.
-/

namespace Cadastre

inductive StoreRequest where
  | batch (keys : List GlobalIndex)
  | payload (kind : ContentKind) (payload : Bytes)

/-- A request to a stand-in provider, which are counted from one. -/
structure StoreCall where
  number : Nat
  request : StoreRequest
  stored : Bool

inductive RehearsedProvider where
  /-- A stand-in that takes batches; it gives each pair the locators of its image and manifest. -/
  | batches (locators : PreparedPair → Locator × Locator)
  /-- A stand-in that takes payloads; it gives a locator by the number of the call. -/
  | payloads (locator : Nat → Bytes → ContentKind → Locator)
  /-- The provider of the workplace. -/
  | placed

structure Script where
  /-- Failures of a stand-in provider, by the number of the call. -/
  failure? : Nat → Option StorageFault
  /-- Refusals of writes, by the first line. -/
  refusal? : UInt32 → Option RegistryFault
  /-- Refusal of new registries. -/
  closed? : Option RegistryFault

structure Rehearsal where
  machine : MemoryMachine
  place : Workplace
  provider : RehearsedProvider
  /-- Identifiers of a stand-in's registries by number; none for the ledger of the workplace. -/
  standIn : Option (Nat → RegistryHandle)
  script : Script
  /-- Requests that the stand-in provider has counted. -/
  calls : Nat := 0
  /-- Registries created so far. -/
  handles : List RegistryHandle := []
  stored : List StoreCall := []
  registered : List (UInt32 × RegistryDefaults) := []
  appended : List AppendCall := []

namespace Rehearsal

def onMachine {α : Type} (job : Job Machine α) : StateM Rehearsal α :=
  modifyGet fun rehearsal =>
    let (value, machine) := rehearsal.machine.perform job
    (value, { rehearsal with machine })

/-- Counts and notes a request to a stand-in provider: its number, or the failure it meets. -/
def count (request : StoreRequest) : StateM Rehearsal (Except StorageFault Nat) :=
  modifyGet fun rehearsal =>
    let number := rehearsal.calls + 1
    let failure := rehearsal.script.failure? number
    let call : StoreCall := ⟨number, request, failure.isNone⟩
    (failure.elim (.ok number) .error,
      { rehearsal with calls := number, stored := rehearsal.stored ++ [call] })

def Payloads : Signature := ⟨Bytes × ContentKind, fun _ => Except StorageFault Locator⟩

def storePayload (locator : Nat → Bytes → ContentKind → Locator)
    (request : Bytes × ContentKind) : StateM Rehearsal (Except StorageFault Locator) := do
  let number ← count (.payload request.2 request.1)
  pure (number.map fun number => locator number request.1 request.2)

def storePairs (pairs : List PreparedPair) :
    StateM Rehearsal (Except StorageFault (List UploadedPair)) := do
  let rehearsal ← get
  match rehearsal.provider with
  | .placed => onMachine (rehearsal.place.provider.storePairs pairs)
  | .payloads locator =>
    let store : StorePayload Payloads := fun payload kind => Job.ask (S := Payloads) (payload, kind)
    (PreparedPair.uploadAll store pairs).run (storePayload locator)
  | .batches locators => do
    let number ← count (.batch (pairs.map PreparedPair.key))
    pure (number.map fun _ => pairs.map fun pair =>
      let (image, link) := locators pair
      ⟨pair.key, image, pair.manifest.withImage image, link⟩)

def create (capacity : UInt32) (defaults : RegistryDefaults) :
    StateM Rehearsal (Except RegistryFault RegistryHandle) := do
  let rehearsal ← get
  match rehearsal.script.closed?, rehearsal.standIn with
  | some fault, _ => pure (.error fault)
  | none, some handle => pure (.ok (handle rehearsal.handles.length))
  | none, none => onMachine (Ledger.registerAt rehearsal.place.ledgerPath capacity defaults)

def register (capacity : UInt32) (defaults : RegistryDefaults) :
    StateM Rehearsal (Except RegistryFault RegistryHandle) := do
  let created ← create capacity defaults
  modify fun rehearsal => { rehearsal with
    registered := rehearsal.registered ++ [(capacity, defaults)]
    handles := rehearsal.handles ++ created.toOption.toList }
  pure created

def append (call : AppendCall) : StateM Rehearsal (Except RegistryFault Unit) := do
  modify fun rehearsal => { rehearsal with appended := rehearsal.appended ++ [call] }
  let rehearsal ← get
  match rehearsal.script.refusal? call.first, rehearsal.standIn with
  | some fault, _ => pure (.error fault)
  | none, some _ => pure (.ok ())
  | none, none => onMachine (Ledger.appendAt rehearsal.place.ledgerPath call)

def answer : (request : Site.Call) → StateM Rehearsal (Site.Answer request)
  | .storePairs pairs => storePairs pairs
  | .register capacity defaults => register capacity defaults
  | .startAppend _ => pure ()
  | .awaitAppend first rest =>
    (fun result => (Site.foremost rest, result)) <$> append first
  | .readCache => do onMachine ((← get).place.answer .readCache)
  | .replaceCache contents => do onMachine ((← get).place.answer (.replaceCache contents))
  | .listAssets => do onMachine ((← get).place.answer .listAssets)
  | .readAsset path => do onMachine ((← get).place.answer (.readAsset path))
  | .now => do onMachine ((← get).place.answer .now)

def perform {α : Type} (work : Work α) : StateM Rehearsal (Except PipelineFault α) :=
  work.run.run answer

def clear (rehearsal : Rehearsal) : Rehearsal :=
  { rehearsal with stored := [], registered := [], appended := [] }

end Rehearsal

end Cadastre
