import Cadastre.Proofs.Pipeline.Books
import Cadastre.Proofs.Pipeline.Operations

/-!
What keeps the books: a write that takes effect, a new array, a write that is begun, and a page
that is turned over. Each of them is stated for the whole site, and the assertions that runs hold
on to are made from it.
-/

namespace Cadastre

open Site (Kept)

namespace Ledger

variable {ledger after : Ledger} {append other : AppendCall}

theorem Lined.appends (lined : ledger.Lined append)
    (appends : ledger.Appends other.handle other.entries other.first after) :
    after.Lined append := by
  obtain ⟨registry, held, lines⟩ := lined
  obtain ⟨target, found, _, rfl⟩ := appends
  by_cases same : other.handle.locator = append.handle.locator
  · rw [same, held] at found
    cases found
    refine ⟨{ registry with lines := writeLines registry.lines other.first other.entries },
      by rw [same, get?_put_self], fun line member => ?_⟩
    exact isSome_writeLines_of_isSome _ _ (lines line member)
  · exact ⟨registry, by rw [get?_put_of_ne _ _ same, held], lines⟩

theorem Appends.lined
    (appends : ledger.Appends append.handle append.entries append.first after) :
    after.Lined append := by
  obtain ⟨registry, _, _, rfl⟩ := appends
  exact ⟨{ registry with lines := writeLines registry.lines append.first append.entries },
    get?_put_self _ _ _, fun line member => isSome_writeLines_of_mem member⟩

theorem Opens.get?_of_get? {handle : RegistryHandle} (opens : ledger.Opens handle after)
    {locator : Locator} {registry : Registry} (held : ledger.get? locator = some registry) :
    after.get? locator = some registry := by
  obtain ⟨vacant, fresh, _, _, rfl⟩ := opens
  rw [get?_put_of_ne, held]
  rintro rfl
  rw [vacant] at held
  cases held

theorem Lined.opens (lined : ledger.Lined append) {handle : RegistryHandle}
    (opens : ledger.Opens handle after) : after.Lined append := by
  obtain ⟨registry, held, lines⟩ := lined
  exact ⟨registry, opens.get?_of_get? held, lines⟩

structure Spares (ledger : Ledger) (book : Partition → Record) (program : Program) : Prop where
  blank : ∃ registry, ledger.get? program.registryLocator = some registry ∧
    registry.uniqueId = program.uniqueId ∧ registry.lines = ∅
  unnamed : ∀ partition other, (book partition).program = some other →
    other.registryLocator ≠ program.registryLocator

theorem Spares.appends {book : Partition → Record} {program : Program}
    (spares : ledger.Spares book program)
    (appends : ledger.Appends append.handle append.entries append.first after)
    (covered : ∃ partition, (book partition).Covers append) : after.Spares book program := by
  obtain ⟨partition, covers⟩ := covered
  obtain ⟨other, named, place⟩ := covers.program
  obtain ⟨registry, held, blank⟩ := spares.blank
  obtain ⟨target, _, _, rfl⟩ := appends
  refine ⟨⟨registry, ?_, blank⟩, spares.unnamed⟩
  rw [get?_put_of_ne _ _ (place ▸ spares.unnamed partition other named), held]

end Ledger

namespace Books

variable {cache : ProgressCache} {remapper : Remapper} {book : Partition → Record}
  {ledger : Ledger} {state : Site.State}

theorem start (cache : ProgressCache) (remapper : Remapper) :
    Books cache remapper (fun _ => {}) .empty {} := by
  refine ⟨cache.holds_none, rfl, fun partition => ⟨?_, nofun, ?_⟩, nofun, nofun, nofun⟩
  · intro key item held
    simp at held
  · intro key item held
    simp at held

theorem appends (books : Books cache remapper book ledger state) {append : AppendCall}
    {after : Ledger} (member : append ∈ state.begun)
    (appends : ledger.Appends append.handle append.entries append.first after) :
    Books cache remapper book after
      { state with ledger := some after.bytes, written := append :: state.written } := by
  obtain ⟨owner, covers⟩ := books.begun append member
  obtain ⟨mine, named, place⟩ := covers.program
  refine ⟨books.holds, Ledger.ofFile_bytes after, fun partition => ?_, books.apart, books.begun, ?_⟩
  · refine (books.agrees partition).appends appends fun program named' same => ?_
    cases books.apart owner partition mine program named named' (place.trans same.symm)
    exact covers
  · intro other found
    rcases List.mem_cons.mp found with rfl | earlier
    · exact appends.lined
    · exact (books.written other earlier).appends appends

theorem drift (books : Books cache remapper book ledger state) {last : Site.State}
    (drift : state.Drifts last) :
    ∃ append ∈ state.begun, ∃ after,
      ledger.Appends append.handle append.entries append.first after ∧
        Books cache remapper book after last := by
  obtain ⟨append, member, after, done, rfl⟩ := drift
  have appends := Ledger.appends_of_appendIn books.opened done
  exact ⟨append, member, after, appends, books.appends member appends⟩

theorem opens (books : Books cache remapper book ledger state) {handle : RegistryHandle}
    {after : Ledger} (opens : ledger.Opens handle after) :
    Books cache remapper book after { state with ledger := some after.bytes } :=
  ⟨books.holds, Ledger.ofFile_bytes after, fun partition => (books.agrees partition).opens opens,
    books.apart, books.begun, fun append member => (books.written append member).opens opens⟩

theorem spares (books : Books cache remapper book ledger state) {handle : RegistryHandle}
    {after : Ledger} (opens : ledger.Opens handle after) :
    after.Spares book ⟨handle.uniqueId, handle.locator⟩ := by
  obtain ⟨vacant, registry, id, blank, rfl⟩ := opens
  refine ⟨⟨registry, Ledger.get?_put_self _ _ _, id, blank⟩, fun partition other named same => ?_⟩
  obtain ⟨mine, held, _⟩ := (books.agrees partition).lines other named
  have same : other.registryLocator = handle.locator := same
  rw [same, vacant] at held
  cases held

theorem begins (books : Books cache remapper book ledger state) (partition : Partition)
    {append : AppendCall} (covers : (book partition).Covers append) :
    Books cache remapper book ledger { state with begun := append :: state.begun } := by
  refine ⟨books.holds, books.opened, books.agrees, books.apart, fun other found => ?_,
    books.written⟩
  rcases List.mem_cons.mp found with rfl | earlier
  · exact ⟨partition, covers⟩
  · exact books.begun other earlier

theorem turn (books : Books cache remapper book ledger state) {partition : Partition}
    {record : Record} {bytes : Bytes} (agrees : record.Agrees remapper partition ledger)
    (alone : ∀ other program mine, (book other).program = some program →
      record.program = some mine → program.registryLocator = mine.registryLocator →
        other = partition)
    (covers : ∀ append, (book partition).Covers append → record.Covers append)
    (holds : cache.Holds (some bytes) (Function.update book partition record)) :
    Books cache remapper (Function.update book partition record) ledger
      { state with cache := some bytes } := by
  refine ⟨holds, books.opened, fun other => ?_, ?_, fun append member => ?_, books.written⟩
  · by_cases same : other = partition
    · subst same
      rw [Function.update_self]
      exact agrees
    · rw [Function.update_of_ne same]
      exact books.agrees other
  · intro first second program other named named' same
    by_cases one : first = partition
    · subst one
      rw [Function.update_self] at named
      by_cases two : second = first
      · exact two.symm
      · rw [Function.update_of_ne two] at named'
        exact (alone second other program named' named same.symm).symm
    · rw [Function.update_of_ne one] at named
      by_cases two : second = partition
      · subst two
        rw [Function.update_self] at named'
        exact alone first program other named named' same
      · rw [Function.update_of_ne two] at named'
        exact books.apart first second program other named named' same
  · obtain ⟨owner, covered⟩ := books.begun append member
    refine ⟨owner, ?_⟩
    by_cases same : owner = partition
    · subst same
      rw [Function.update_self]
      exact covers append covered
    · rw [Function.update_of_ne same]
      exact covered

end Books

namespace Site

variable {cache : ProgressCache} {remapper : Remapper} {partition : Partition}
  {record grown : Record} {program : Program} {state : State} {book : Partition → Record}
  {bytes : Bytes}

def Sound (cache : ProgressCache) (remapper : Remapper) (state : State) : Prop :=
  ∃ book ledger, Books cache remapper book ledger state

def Has (cache : ProgressCache) (remapper : Remapper) (partition : Partition) (record : Record)
    (state : State) : Prop :=
  ∃ book ledger, Books cache remapper book ledger state ∧ book partition = record

def HasSpare (cache : ProgressCache) (remapper : Remapper) (partition : Partition)
    (record : Record) (program : Program) (state : State) : Prop :=
  ∃ book ledger, Books cache remapper book ledger state ∧ book partition = record ∧
    ledger.Spares book program

theorem Has.sound (has : Has cache remapper partition record state) :
    Sound cache remapper state := by
  obtain ⟨book, ledger, books, _⟩ := has
  exact ⟨book, ledger, books⟩

theorem HasSpare.has (spare : HasSpare cache remapper partition record program state) :
    Has cache remapper partition record state := by
  obtain ⟨book, ledger, books, page, _⟩ := spare
  exact ⟨book, ledger, books, page⟩

theorem Sound.booked (sound : Sound cache remapper state) :
    ∃ book, cache.Holds state.cache book := by
  obtain ⟨book, _, books⟩ := sound
  exact ⟨book, books.holds⟩

theorem Has.placed (has : Has cache remapper partition record state) {key : LocalKey}
    {item : Item} (held : record.get? key = some item) :
    item.Placed remapper partition key := by
  obtain ⟨book, ledger, books, rfl⟩ := has
  exact (books.agrees partition).placed key item held

theorem kept_sound (cache : ProgressCache) (remapper : Remapper) :
    Kept (Sound cache remapper) (Sound cache remapper) := by
  refine ⟨?_, fun _ => id⟩
  rintro before after ⟨book, ledger, books⟩ drift
  obtain ⟨_, _, later, _, books'⟩ := books.drift drift
  exact ⟨book, later, books'⟩

theorem kept_has (cache : ProgressCache) (remapper : Remapper) (partition : Partition)
    (record : Record) :
    Kept (Sound cache remapper) (Has cache remapper partition record) := by
  refine ⟨?_, fun _ => Has.sound⟩
  rintro before after ⟨book, ledger, books, page⟩ drift
  obtain ⟨_, _, later, _, books'⟩ := books.drift drift
  exact ⟨book, later, books', page⟩

theorem kept_hasSpare (cache : ProgressCache) (remapper : Remapper) (partition : Partition)
    (record : Record) (program : Program) :
    Kept (Sound cache remapper) (HasSpare cache remapper partition record program) := by
  refine ⟨?_, fun _ spare => spare.has.sound⟩
  rintro before after ⟨book, ledger, books, page, spares⟩ drift
  obtain ⟨append, member, later, appends, books'⟩ := books.drift drift
  exact ⟨book, later, books', page, spares.appends appends (books.begun append member)⟩

theorem Has.grows (has : Has cache remapper partition record state)
    (grows : record.GrowsTo remapper partition grown) (holds : cache.Holds state.cache book)
    (holds' : cache.Holds (some bytes) (Function.update book partition grown)) :
    Has cache remapper partition grown { state with cache := some bytes } := by
  obtain ⟨same, ledger, books, rfl⟩ := has
  cases books.holds.unique holds
  refine ⟨_, ledger, books.turn (grows.agrees (books.agrees partition)) ?_
    (fun append => grows.covers) holds', Function.update_self _ _ _⟩
  intro other program mine named named'
  rw [grows.program] at named'
  exact books.apart other partition program mine named named'

theorem Has.marks (has : Has cache remapper partition record state) {keys : List LocalKey}
    (marks : Record.MarksTo keys record grown)
    (written : ∀ key ∈ keys, ∃ append ∈ state.written, record.Covers append ∧
      key ∈ (Ledger.numbered append.first append.entries).map Prod.fst)
    (holds : cache.Holds state.cache book)
    (holds' : cache.Holds (some bytes) (Function.update book partition grown)) :
    Has cache remapper partition grown { state with cache := some bytes } := by
  obtain ⟨same, ledger, books, rfl⟩ := has
  cases books.holds.unique holds
  have lined : ∀ key ∈ keys, ∃ program registry, (book partition).program = some program ∧
      ledger.get? program.registryLocator = some registry ∧
      registry.lines[key]?.isSome = true := by
    intro key member
    obtain ⟨append, done, covers, reached⟩ := written key member
    obtain ⟨program, named, place⟩ := covers.program
    obtain ⟨registry, held, lines⟩ := books.written append done
    obtain ⟨line, found, rfl⟩ := List.mem_map.mp reached
    exact ⟨program, registry, named, place ▸ held, lines line found⟩
  refine ⟨_, ledger, books.turn (marks.agrees (books.agrees partition) lined) ?_
    (fun append => marks.covers) holds', Function.update_self _ _ _⟩
  intro other program mine named named'
  rw [marks.program] at named'
  exact books.apart other partition program mine named named'

theorem HasSpare.takes (spare : HasSpare cache remapper partition record program state)
    (unnamed : record.program = none) (holds : cache.Holds state.cache book)
    (holds' : cache.Holds (some bytes)
      (Function.update book partition { record with program := some program })) :
    Has cache remapper partition { record with program := some program }
      { state with cache := some bytes } := by
  obtain ⟨same, ledger, books, rfl, spares⟩ := spare
  cases books.holds.unique holds
  obtain ⟨registry, held, id, blank⟩ := spares.blank
  refine ⟨_, ledger, books.turn ((books.agrees partition).withProgram unnamed held id blank) ?_ ?_
    holds', Function.update_self _ _ _⟩
  · intro other named mine found taken same
    cases taken
    exact absurd same (spares.unnamed other named found)
  · intro append covers
    obtain ⟨program, named, _⟩ := covers.program
    rw [unnamed] at named
    cases named

end Site

end Cadastre
