import Cadastre.Machine.Basic
import Cadastre.Pipeline.Fault
import Cadastre.Storage.Pair

/-!
What a pipeline asks of its site: the directory of item files, the cache file, the storage
provider, and the registry. Registry writes are started and awaited apart, so that several may be
under way; which of them ends first is for the site to say.
-/

namespace Cadastre

structure AppendCall where
  handle : RegistryHandle
  entries : List RegistryEntry
  first : UInt32
  deriving DecidableEq, Repr

namespace Site

inductive Call where
  | readCache
  | replaceCache (contents : Bytes)
  | listAssets
  | readAsset (path : String)
  | storePairs (pairs : List PreparedPair)
  | register (capacity : UInt32) (defaults : RegistryDefaults)
  | startAppend (append : AppendCall)
  /-- Waits for one of the writes that are under way. -/
  | awaitAppend (first : AppendCall) (rest : List AppendCall)
  | now

def Answer : Call → Type
  | .readCache => Except String (Option Bytes)
  | .replaceCache _ => Except String Unit
  | .listAssets => Except String (List DirectoryEntry)
  | .readAsset _ => Except String Bytes
  | .storePairs _ => Except StorageFault (List UploadedPair)
  | .register _ _ => Except RegistryFault RegistryHandle
  | .startAppend _ => Unit
  | .awaitAppend _ rest => Fin (rest.length + 1) × Except RegistryFault Unit
  | .now => Moment

end Site

def Site : Signature := ⟨Site.Call, Site.Answer⟩

/-- A part of a run: it asks the site, and may be stopped by a fault. -/
abbrev Work (α : Type) : Type := ExceptT PipelineFault (Job Site) α

namespace Site

def readCache : Job Site (Except String (Option Bytes)) := Job.ask (S := Site) .readCache

def replaceCache (contents : Bytes) : Job Site (Except String Unit) :=
  Job.ask (S := Site) (.replaceCache contents)

def listAssets : Job Site (Except String (List DirectoryEntry)) := Job.ask (S := Site) .listAssets

def readAsset (path : String) : Job Site (Except String Bytes) :=
  Job.ask (S := Site) (.readAsset path)

def storePairs (pairs : List PreparedPair) :
    Job Site (Except StorageFault (List UploadedPair)) :=
  Job.ask (S := Site) (.storePairs pairs)

def register (capacity : UInt32) (defaults : RegistryDefaults) :
    Job Site (Except RegistryFault RegistryHandle) :=
  Job.ask (S := Site) (.register capacity defaults)

def startAppend (append : AppendCall) : Job Site Unit := Job.ask (S := Site) (.startAppend append)

def awaitAppend (first : AppendCall) (rest : List AppendCall) :
    Job Site (Fin (rest.length + 1) × Except RegistryFault Unit) :=
  Job.ask (S := Site) (.awaitAppend first rest)

/-- The place of the first of the writes that are awaited. -/
def foremost (rest : List AppendCall) : Fin (rest.length + 1) := 0

def now : Job Site Moment := Job.ask (S := Site) .now

end Site

namespace Work

variable {α ε : Type}

/-- Goes on with the answer, or stops with the fault that the error means. -/
def expect (job : Job Site (Except ε α)) (fault : ε → PipelineFault) : Work α :=
  ExceptT.mk do
    let answer ← job
    pure (answer.mapError fault)

/-- Goes on with a result, or stops with the fault that the error means. -/
def check (result : Except ε α) (fault : ε → PipelineFault) : Work α :=
  ExceptT.mk (pure (result.mapError fault))

end Work

end Cadastre
