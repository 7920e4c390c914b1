import Cadastre.Proofs.Cache.Progress
import Cadastre.Proofs.Item.Index
import Cadastre.Proofs.Item.Record
import Cadastre.Proofs.Pipeline.World
import Cadastre.Proofs.Registry.Ledger

/-!
What the cache and the ledger have to do with each other. The invariant `Books` says that every
line of a partition's array is that of a recorded item, that every item on chain is on its line,
and that every write that was begun agrees with the record it was made from.
-/

namespace Cadastre

def Item.entry (item : Item) : RegistryEntry := ⟨item.name, item.link⟩

/-- Whether the item belongs under the key: it is stored, and its name gives an index that lies
there. -/
def Item.Placed (remapper : Remapper) (partition : Partition) (key : LocalKey) (item : Item) :
    Prop :=
  item.link ≠ "" ∧ ∃ index, numberInName? item.name = some index ∧
    remapper.locate index = .ok (partition, key)

namespace Record

structure Agrees (remapper : Remapper) (partition : Partition) (ledger : Ledger)
    (record : Record) : Prop where
  placed : ∀ key item, record.get? key = some item → item.Placed remapper partition key
  lines : ∀ program, record.program = some program →
    ∃ registry, ledger.get? program.registryLocator = some registry ∧
      registry.uniqueId = program.uniqueId ∧
      ∀ key entry, registry.lines[key]? = some entry →
        (record.get? key).map Item.entry = some entry
  onChain : ∀ key item, record.get? key = some item → item.onChain = true →
    ∃ program registry, record.program = some program ∧
      ledger.get? program.registryLocator = some registry ∧
      registry.lines[key]? = some item.entry

/-- Whether a write goes to the record's array and puts recorded items on their lines. -/
structure Covers (record : Record) (append : AppendCall) : Prop where
  program : ∃ program, record.program = some program ∧
    program.registryLocator = append.handle.locator
  lines : ∀ line ∈ Ledger.numbered append.first append.entries,
    (record.get? line.1).map Item.entry = some line.2

end Record

def Ledger.Lined (ledger : Ledger) (append : AppendCall) : Prop :=
  ∃ registry, ledger.get? append.handle.locator = some registry ∧
    ∀ line ∈ numbered append.first append.entries, registry.lines[line.1]?.isSome = true

/-- The invariant, for the book of records that the cache holds and for the ledger. -/
structure Books (cache : ProgressCache) (remapper : Remapper) (book : Partition → Record)
    (ledger : Ledger) (state : Site.State) : Prop where
  holds : cache.Holds state.cache book
  opened : Ledger.ofFile state.ledger = .ok ledger
  agrees : ∀ partition, (book partition).Agrees remapper partition ledger
  apart : ∀ first second program other, (book first).program = some program →
    (book second).program = some other → program.registryLocator = other.registryLocator →
      first = second
  begun : ∀ append ∈ state.begun, ∃ partition, (book partition).Covers append
  written : ∀ append ∈ state.written, ledger.Lined append

section

variable {remapper : Remapper} {partition : Partition} {ledger after : Ledger}
  {record grown : Record} {append : AppendCall}

namespace Record

theorem Agrees.appends (agrees : record.Agrees remapper partition ledger)
    (appends : ledger.Appends append.handle append.entries append.first after)
    (own : ∀ program, record.program = some program →
      program.registryLocator = append.handle.locator → record.Covers append) :
    record.Agrees remapper partition after := by
  obtain ⟨registry, held, _, rfl⟩ := appends
  refine ⟨agrees.placed, ?_, ?_⟩
  · intro program named
    obtain ⟨mine, found, id, lines⟩ := agrees.lines program named
    by_cases same : program.registryLocator = append.handle.locator
    · have covers := own program named same
      rw [same] at found
      cases found.symm.trans held
      refine ⟨{ registry with
        lines := Ledger.writeLines registry.lines append.first append.entries },
        by rw [same, Ledger.get?_put_self], id, fun key entry written => ?_⟩
      rcases Ledger.mem_of_getElem?_writeLines written with fresh | old
      · exact covers.lines (key, entry) fresh
      · exact lines key entry old
    · exact ⟨mine, by rw [Ledger.get?_put_of_ne _ _ (Ne.symm same), found], id, lines⟩
  · intro key item present chained
    obtain ⟨program, mine, named, found, line⟩ := agrees.onChain key item present chained
    by_cases same : program.registryLocator = append.handle.locator
    · have covers := own program named same
      rw [same] at found
      cases found.symm.trans held
      refine ⟨program, { registry with
        lines := Ledger.writeLines registry.lines append.first append.entries }, named,
        by rw [same, Ledger.get?_put_self], ?_⟩
      obtain ⟨entry, now⟩ := Option.isSome_iff_exists.mp
        (Ledger.isSome_writeLines_of_isSome append.first append.entries
          (by rw [line]; rfl : registry.lines[key]?.isSome = true))
      rcases Ledger.mem_of_getElem?_writeLines now with fresh | old
      · have entry' := covers.lines (key, entry) fresh
        rw [present] at entry'
        cases entry'
        exact now
      · rw [line] at old
        cases old
        exact now
    · exact ⟨program, mine, named, by rw [Ledger.get?_put_of_ne _ _ (Ne.symm same), found], line⟩

theorem Agrees.opens (agrees : record.Agrees remapper partition ledger) {handle : RegistryHandle}
    (opens : ledger.Opens handle after) : record.Agrees remapper partition after := by
  obtain ⟨vacant, registry, _, _, rfl⟩ := opens
  have kept : ∀ locator mine, ledger.get? locator = some mine →
      (ledger.put handle.locator registry).get? locator = some mine := by
    intro locator mine found
    have different : handle.locator ≠ locator := by
      rintro rfl
      rw [vacant] at found
      cases found
    rw [Ledger.get?_put_of_ne _ _ different, found]
  refine ⟨agrees.placed, fun program named => ?_, fun key item present chained => ?_⟩
  · obtain ⟨mine, found, rest⟩ := agrees.lines program named
    exact ⟨mine, kept _ _ found, rest⟩
  · obtain ⟨program, mine, named, found, line⟩ := agrees.onChain key item present chained
    exact ⟨program, mine, named, kept _ _ found, line⟩

structure GrowsTo (remapper : Remapper) (partition : Partition) (record grown : Record) : Prop where
  program : grown.program = record.program
  kept : ∀ key item, record.get? key = some item → grown.get? key = some item
  fresh : ∀ key item, grown.get? key = some item → record.get? key = some item ∨
    item.onChain = false ∧ item.Placed remapper partition key

theorem GrowsTo.refl (record : Record) : record.GrowsTo remapper partition record :=
  ⟨rfl, fun _ _ held => held, fun _ _ held => Or.inl held⟩

theorem GrowsTo.trans {last : Record} (first : record.GrowsTo remapper partition grown)
    (second : grown.GrowsTo remapper partition last) :
    record.GrowsTo remapper partition last := by
  refine ⟨second.program.trans first.program,
    fun key item held => second.kept key item (first.kept key item held), fun key item held => ?_⟩
  rcases second.fresh key item held with earlier | placed
  · exact first.fresh key item earlier
  · exact Or.inr placed

theorem GrowsTo.agrees (grows : record.GrowsTo remapper partition grown)
    (agrees : record.Agrees remapper partition ledger) :
    grown.Agrees remapper partition ledger := by
  refine ⟨fun key item held => ?_, fun program named => ?_, fun key item held chained => ?_⟩
  · rcases grows.fresh key item held with earlier | fresh
    · exact agrees.placed key item earlier
    · exact fresh.2
  · rw [grows.program] at named
    obtain ⟨registry, found, id, lines⟩ := agrees.lines program named
    refine ⟨registry, found, id, fun key entry line => ?_⟩
    obtain ⟨item, held, same⟩ := Option.map_eq_some_iff.mp (lines key entry line)
    rw [grows.kept key item held, Option.map_some, same]
  · rcases grows.fresh key item held with earlier | fresh
    · rw [grows.program]
      exact agrees.onChain key item earlier chained
    · rw [fresh.1] at chained
      cases chained

theorem GrowsTo.covers (grows : record.GrowsTo remapper partition grown)
    (covers : record.Covers append) : grown.Covers append := by
  refine ⟨grows.program ▸ covers.program, fun line member => ?_⟩
  obtain ⟨item, held, same⟩ := Option.map_eq_some_iff.mp (covers.lines line member)
  rw [grows.kept _ item held, Option.map_some, same]

structure MarksTo (keys : List LocalKey) (record marked : Record) : Prop where
  program : marked.program = record.program
  item : ∀ key, marked.get? key = (record.get? key).map fun item =>
    if key ∈ keys ∧ item.link ≠ "" then { item with onChain := true } else item

theorem MarksTo.entry {keys : List LocalKey} (marks : MarksTo keys record grown)
    (key : LocalKey) : (grown.get? key).map Item.entry = (record.get? key).map Item.entry := by
  rw [marks.item, Option.map_map]
  congr 1
  funext item
  simp only [Function.comp_apply]
  split <;> rfl

theorem MarksTo.covers {keys : List LocalKey} (marks : MarksTo keys record grown)
    (covers : record.Covers append) : grown.Covers append :=
  ⟨marks.program ▸ covers.program, fun line member => (marks.entry _).trans
    (covers.lines line member)⟩

theorem MarksTo.before {keys : List LocalKey} (marks : MarksTo keys record grown)
    {key : LocalKey} {item : Item} (held : grown.get? key = some item) :
    ∃ old, record.get? key = some old ∧ old.entry = item.entry ∧
      (item.onChain = true → old.onChain = true ∨ key ∈ keys) := by
  rw [marks.item] at held
  obtain ⟨old, found, same⟩ := Option.map_eq_some_iff.mp held
  refine ⟨old, found, ?_⟩
  subst same
  split
  · rename_i marked
    exact ⟨rfl, fun _ => Or.inr marked.1⟩
  · exact ⟨rfl, Or.inl⟩

theorem MarksTo.agrees {keys : List LocalKey} (marks : MarksTo keys record grown)
    (agrees : record.Agrees remapper partition ledger)
    (lined : ∀ key ∈ keys, ∃ program registry, record.program = some program ∧
      ledger.get? program.registryLocator = some registry ∧
      registry.lines[key]?.isSome = true) :
    grown.Agrees remapper partition ledger := by
  refine ⟨fun key item held => ?_, fun program named => ?_, fun key item held chained => ?_⟩
  · obtain ⟨old, found, same, _⟩ := marks.before held
    have placed := agrees.placed key old found
    simp only [Item.entry, RegistryEntry.mk.injEq] at same
    simp only [Item.Placed, same.1, same.2] at placed
    exact placed
  · rw [marks.program] at named
    obtain ⟨registry, found, id, lines⟩ := agrees.lines program named
    exact ⟨registry, found, id, fun key entry line => (marks.entry key).trans
      (lines key entry line)⟩
  · obtain ⟨old, found, same, chained'⟩ := marks.before held
    rw [marks.program, ← same]
    rcases chained' chained with earlier | member
    · exact agrees.onChain key old found earlier
    · obtain ⟨program, registry, named, array, line⟩ := lined key member
      obtain ⟨entry, present⟩ := Option.isSome_iff_exists.mp line
      obtain ⟨mine, array', _, lines⟩ := agrees.lines program named
      cases array.symm.trans array'
      have recorded := lines key entry present
      rw [found, Option.map_some, Option.some.injEq] at recorded
      exact ⟨program, registry, named, array, by rw [present, recorded]⟩

theorem Agrees.withProgram (agrees : record.Agrees remapper partition ledger)
    (unnamed : record.program = none) {program : Program} {registry : Registry}
    (found : ledger.get? program.registryLocator = some registry)
    (id : registry.uniqueId = program.uniqueId) (blank : registry.lines = ∅) :
    ({ record with program := some program } : Record).Agrees remapper partition ledger := by
  refine ⟨agrees.placed, fun other named => ?_, fun key item held chained => ?_⟩
  · cases named
    refine ⟨registry, found, id, fun key entry line => ?_⟩
    rw [blank] at line
    simp at line
  · obtain ⟨other, _, named, _⟩ := agrees.onChain key item held chained
    rw [unnamed] at named
    cases named

end Record

end

end Cadastre
