import Cadastre.Item.Content
import Cadastre.Item.Index
import Cadastre.Json.Form
import Cadastre.Fault
import Cadastre.Grid.Partition
import Std.Data.ExtTreeMap
import Std.Data.ExtTreeSet

/-!
Progress of a partition: which items are stored, which of those are in the registry, and the
registry's identifiers. An item goes from pending to uploaded to on-chain.
-/

namespace Cadastre

inductive ItemState where
  | pending
  | uploaded
  | onChain
  deriving DecidableEq, Repr

def ItemState.name : ItemState → String
  | pending => "pending"
  | uploaded => "uploaded"
  | onChain => "on-chain"

structure Item where
  /-- Address of the metadata document, empty while the item is pending. -/
  link : Locator
  name : String
  onChain : Bool
  deriving DecidableEq, Repr

namespace Item

def pending (name : String) : Item := ⟨"", name, false⟩

/-- An item without a link is pending whatever its flag says. -/
def state (item : Item) : ItemState :=
  if item.link.isEmpty then .pending
  else if item.onChain then .onChain
  else .uploaded

def nameKey? (item : Item) : Option String := indexInName? item.name

def refuse {α : Type} (item : Item) (key : LocalKey) (target : ItemState) : Except Fault α :=
  .error (.invalidStateTransition (toString key) item.state.name target.name)

def markUploaded (item : Item) (key : LocalKey) (link : Locator) : Except Fault Item :=
  if item.state ≠ .pending ∨ link.isEmpty then item.refuse key .uploaded
  else .ok { item with link }

def markOnChain (item : Item) (key : LocalKey) : Except Fault Item :=
  if item.state ≠ .uploaded then item.refuse key .onChain
  else .ok { item with onChain := true }

end Item

/-- Identifiers of the registry that a partition is written to. -/
structure Program where
  uniqueId : String
  registryLocator : Locator
  deriving DecidableEq, Repr

structure StateCounts where
  pending : Nat := 0
  uploaded : Nat := 0
  onChain : Nat := 0
  deriving DecidableEq, Repr

def StateCounts.total (counts : StateCounts) : Nat :=
  counts.pending + counts.uploaded + counts.onChain

def StateCounts.count (counts : StateCounts) : ItemState → StateCounts
  | .pending => { counts with pending := counts.pending + 1 }
  | .uploaded => { counts with uploaded := counts.uploaded + 1 }
  | .onChain => { counts with onChain := counts.onChain + 1 }

structure Record where
  program : Option Program := none
  items : Std.ExtTreeMap LocalKey Item := ∅
  deriving DecidableEq

namespace Record

instance : Inhabited Record := ⟨{}⟩

def empty : Record := {}

def get? (record : Record) (key : LocalKey) : Option Item := record.items[key]?

def put (record : Record) (key : LocalKey) (item : Item) : Record :=
  { record with items := record.items.insert key item }

def keys (record : Record) : List LocalKey := record.items.keys

/-- Records a stored item. A key without an item gets a pending one first, which stays when the
link is refused. -/
def recordUpload (record : Record) (key : LocalKey) (link : Locator) (name : String) :
    Except Fault Unit × Record :=
  let item := (record.get? key).getD (.pending name)
  match item.markUploaded key link with
  | .error fault => (.error fault, record.put key item)
  | .ok item => (.ok (), record.put key { item with name })

def markOnChain (record : Record) (key : LocalKey) : Except Fault Record :=
  match record.get? key with
  | none => .error (.invalidStateTransition (toString key) "absent" ItemState.onChain.name)
  | some item => (item.markOnChain key).map (record.put key)

def stateOf? (record : Record) (key : LocalKey) : Option ItemState :=
  (record.get? key).map Item.state

def allOnChain (record : Record) (keys : List LocalKey) : Bool :=
  keys.all fun key => record.stateOf? key = some .onChain

def completedKeys (record : Record) : Std.ExtTreeSet String :=
  .ofList ((record.items.toList.filter fun (_, item) => item.state ≠ .pending).filterMap
    fun (_, item) => item.nameKey?)

def counts (record : Record) : StateCounts :=
  record.items.toList.foldl (fun counts (_, item) => counts.count item.state) {}

end Record

end Cadastre
