import Cadastre.Config.Basic
import Cadastre.Item.RecordFile
import Cadastre.Json.Reader

/-!
The progress cache: one JSON object with the record of every partition under the partition's tag.
All functions here are on the file's contents, none standing for a file that is not there; saving
replaces one entry and keeps the others as they are.
-/

namespace Cadastre

inductive CacheFault where
  | io (reason : String)
  | corrupt (path reason : String)
  | serialization (reason : String)
  | config (reason : String)
  deriving DecidableEq, Repr

namespace CacheFault

def message : CacheFault → String
  | io reason => s!"cache I/O error: {reason}"
  | corrupt path reason => s!"cache file {path} is corrupt: {reason}"
  | serialization reason => s!"cache serialization error: {reason}"
  | config reason => s!"configuration error: {reason}"

end CacheFault

structure ProgressCache where
  path : String
  env : String
  name : String
  deriving DecidableEq, Repr

namespace ProgressCache

open Json

def ofConfig (config : CacheConfig) : Except CacheFault ProgressCache :=
  match config.fault? with
  | some fault => .error (.config fault.message)
  | none => .ok ⟨config.filePath, config.env, config.name⟩

def members (cache : ProgressCache) (contents : Option Bytes) : Except CacheFault Members :=
  match contents with
  | none => .ok []
  | some bytes =>
    match Json.read? bytes with
    | some (.object members) => .ok members
    | some _ => .error (.corrupt cache.path "top level is not a JSON object")
    | none => .error (.corrupt cache.path Json.unreadable)

/-- The partition's record, if the file has an entry for it. -/
def load (cache : ProgressCache) (contents : Option Bytes) (partition : Partition) :
    Except CacheFault (Option Record) := do
  let members ← cache.members contents
  match members.get? partition.tag with
  | none => .ok none
  | some value =>
    match Record.ofDocument? (.ofJson value) with
    | some record => .ok (some record)
    | none =>
      .error (.corrupt cache.path s!"partition {partition.tag}: {Json.unreadable}")

def withRecord (cache : ProgressCache) (members : Members) (partition : Partition)
    (record : Record) : Members :=
  ((members.put "env" (.string cache.env)).put "cacheName" (.string cache.name)).put
    partition.tag record.toJson.sorted

def save (cache : ProgressCache) (contents : Option Bytes) (partition : Partition)
    (record : Record) : Except CacheFault Bytes := do
  let members ← cache.members contents
  .ok (Text.utf8 (Json.object (cache.withRecord members partition record)).write)

/-- The partitions that the file's keys name, by row and column. -/
def partitions (cache : ProgressCache) (contents : Option Bytes) :
    Except CacheFault (List Partition) := do
  let members ← cache.members contents
  .ok ((members.keys.filterMap Partition.ofTag?).mergeSort Partition.precedes)

end ProgressCache

end Cadastre
