import Cadastre.Item.Record
import Cadastre.Json.Writer

/-!
Records as JSON. Reading accepts the shorter documents of earlier versions: links and flags may be
missing, the registry's identifiers have older names, and an unfinished program section is none.
-/

namespace Cadastre

open Json

namespace Item

def fields : List Field := [⟨"link", []⟩, ⟨"name", []⟩, ⟨"onChain", []⟩]

def read? (document : Document) : Option Item := do
  let form ← Form.ofDocument? fields document
  let link ← form.orDefault "link" Document.text? ""
  let name ← form.required "name" Document.text?
  let onChain ← form.orDefault "onChain" Document.flag? false
  pure ⟨link, name, onChain⟩

def toJson (item : Item) : Json :=
  .object [("link", .string item.link), ("name", .string item.name), ("onChain", .bool item.onChain)]

end Item

namespace Program

def fields : List Field := [⟨"uniqueId", ["uuid"]⟩, ⟨"registryLocator", ["config"]⟩]

/-- A program section with both identifiers; one that lacks any stands for no program. -/
def readPartial? (document : Document) : Option (Option Program) := do
  let form ← Form.ofDocument? fields document
  let uniqueId ← form.optional "uniqueId" Document.text?
  let locator ← form.optional "registryLocator" Document.text?
  match uniqueId, locator with
  | some uniqueId, some locator => pure (some ⟨uniqueId, locator⟩)
  | _, _ => pure none

def read? : Document → Option (Option Program)
  | .null => some none
  | document => readPartial? document

def toJson (program : Program) : Json :=
  .object [("uniqueId", .string program.uniqueId),
    ("registryLocator", .string program.registryLocator)]

end Program

namespace Record

def fields : List Field := [⟨"program", []⟩, ⟨"items", []⟩]

/-- Items by key; of two with the same key the later one counts. -/
def readItems? (document : Document) : Option (Std.ExtTreeMap LocalKey Item) := do
  let members ← document.numbered? UInt32.size
  let items ← members.mapM fun (key, value) =>
    (Item.read? value).map fun item => (UInt32.ofNat key, item)
  pure (items.foldl (fun held (key, item) => held.insert key item) ∅)

def ofDocument? (document : Document) : Option Record := do
  let form ← Form.ofDocument? fields document
  let program ← form.orDefault "program" Program.read? none
  let items ← form.orDefault "items" readItems? ∅
  pure ⟨program, items⟩

def toJson (record : Record) : Json :=
  .object (
    (record.program.map fun program => ("program", program.toJson)).toList
      ++ [("items",
        .object (record.items.toList.map fun (key, item) => (toString key, item.toJson)))])

def text (record : Record) : String := record.toJson.write

end Record

end Cadastre
