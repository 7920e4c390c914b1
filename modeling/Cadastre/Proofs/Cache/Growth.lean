import Cadastre.Proofs.Cache.LastWriter
import Cadastre.Proofs.Pipeline.Upholding

/-!
How the cache file grows. A relation between records is carried over to files: saving a record
touches one entry, so that the records of all partitions stand in the relation if those of that one
do.
-/

namespace Cadastre

namespace Record

/-- Items and the program stay, and so do the link and the name of an item that is stored and the
flag of one that is on chain. -/
structure Advances (record grown : Record) : Prop where
  program : ∀ program, record.program = some program → grown.program = some program
  items : ∀ key item, record.get? key = some item → ∃ later, grown.get? key = some later ∧
    (item.link ≠ "" → later.link = item.link ∧ later.name = item.name) ∧
    (item.onChain = true → later.onChain = true)

/-- Besides, there are no other items, and no link or name is another one. -/
structure Signs (record grown : Record) : Prop extends record.Advances grown where
  entry : ∀ key, (grown.get? key).map Item.entry = (record.get? key).map Item.entry

structure Order (grows : Record → Record → Prop) : Prop where
  refl : ∀ record, grows record record
  trans : ∀ {record middle last}, grows record middle → grows middle last → grows record last
  marks : ∀ {keys record marked}, record.MarksTo keys marked → grows record marked
  names : ∀ {record : Record} (handle : RegistryHandle), record.program = none →
    grows record (record.withProgram handle)

variable {record middle grown last : Record}

theorem Advances.refl (record : Record) : record.Advances record :=
  ⟨fun _ => id, fun _ item held => ⟨item, held, fun _ => ⟨rfl, rfl⟩, id⟩⟩

theorem Advances.trans (first : record.Advances middle) (second : middle.Advances last) :
    record.Advances last := by
  refine ⟨fun program named => second.program _ (first.program _ named), fun key item held => ?_⟩
  obtain ⟨next, found, filled, chained⟩ := first.items key item held
  obtain ⟨later, held', filled', chained'⟩ := second.items key next found
  refine ⟨later, held', fun link => ?_, fun flag => chained' (chained flag)⟩
  obtain ⟨links, names⟩ := filled link
  have link' : next.link ≠ "" := by
    rw [links]
    exact link
  obtain ⟨links', names'⟩ := filled' link'
  exact ⟨links'.trans links, names'.trans names⟩

theorem MarksTo.advances {keys : List LocalKey} (marks : MarksTo keys record grown) :
    record.Advances grown := by
  refine ⟨fun program named => marks.program.trans named, fun key item held => ?_⟩
  have entry := marks.item key
  rw [held, Option.map_some] at entry
  refine ⟨_, entry, fun _ => ?_, fun chained => ?_⟩
  · split <;> exact ⟨rfl, rfl⟩
  · split
    · rfl
    · exact chained

theorem Fills.advances {remapper : Remapper} {uploaded : List UploadedPair}
    (fills : record.Fills remapper uploaded grown) : record.Advances grown := by
  refine ⟨fun program named => fills.program.trans named, fun key item held => ?_⟩
  by_cases filled : item.link = ""
  · by_cases entered : ∃ pair ∈ uploaded, ∃ place, remapper.locate pair.key = .ok (place, key)
    · obtain ⟨pair, member, place, located⟩ := entered
      obtain ⟨_, other, located', _, _, entry⟩ := fills.entered pair member
      rw [located] at located'
      cases located'
      rw [held] at entry
      exact ⟨_, entry, fun link => absurd filled link, id⟩
    · have kept := fills.kept key fun pair member place located =>
        entered ⟨pair, member, place, located⟩
      exact ⟨item, kept.trans held, fun _ => ⟨rfl, rfl⟩, id⟩
  · exact ⟨item, fills.kept_of_stored held filled, fun _ => ⟨rfl, rfl⟩, id⟩

theorem advances_withProgram (unnamed : record.program = none) (handle : RegistryHandle) :
    record.Advances (record.withProgram handle) := by
  refine ⟨fun program named => ?_, fun key item held => ⟨item, held, fun _ => ⟨rfl, rfl⟩, id⟩⟩
  rw [unnamed] at named
  cases named

theorem order_advances : Order Advances where
  refl := Advances.refl
  trans := Advances.trans
  marks := MarksTo.advances
  names := fun handle unnamed => advances_withProgram unnamed handle

theorem order_signs : Order Signs where
  refl := fun record => ⟨Advances.refl record, fun _ => rfl⟩
  trans := fun first second =>
    ⟨first.toAdvances.trans second.toAdvances,
      fun key => (second.entry key).trans (first.entry key)⟩
  marks := fun marks => ⟨marks.advances, marks.entry⟩
  names := fun handle unnamed => ⟨advances_withProgram unnamed handle, fun _ => rfl⟩

end Record

namespace ProgressCache

open Json

def entry? (members : Members) (partition : Partition) : Option Record :=
  (members.get? partition.tag).bind fun value => Record.ofDocument? (.ofJson value)

/-- What becomes of the members when nothing is done but to the entries of some partitions, and
those grow. -/
structure Grows (named : Partition → Prop) (grows : Record → Record → Prop)
    (before after : Members) : Prop where
  others : ∀ key, key ≠ "env" → key ≠ "cacheName" →
    (∀ partition, named partition → key ≠ partition.tag) → after.get? key = before.get? key
  entries : ∀ partition record, entry? before partition = some record →
    ∃ grown, entry? after partition = some grown ∧ grows record grown
  fresh : ∀ partition grown, entry? before partition = none →
    entry? after partition = some grown → grows {} grown

def Extends (named : Partition → Prop) (grows : Record → Record → Prop)
    (before after : Option Bytes) : Prop :=
  ∀ members, HoldsObject before members →
    ∃ later, HoldsObject after later ∧ Grows named grows members later

def Turned (cache : ProgressCache) (named : Partition → Prop) (grows : Record → Record → Prop)
    (before after : Option Bytes) : Prop :=
  ∃ members later, cache.Opens before members ∧ cache.Opens after later ∧
    Grows named grows members later

variable {cache : ProgressCache} {named wider : Partition → Prop}
  {grows : Record → Record → Prop} {before middle after : Option Bytes} {members : Members}
  {partition : Partition} {record grown : Record} {found : Option Record} {bytes : Bytes}

theorem Grows.trans {middle last : Members} (order : Record.Order grows)
    (first : Grows named grows members middle) (second : Grows named grows middle last) :
    Grows named grows members last := by
  refine ⟨fun key env name apart => ?_, fun partition record entry => ?_,
    fun partition grown none entry => ?_⟩
  · rw [second.others key env name apart, first.others key env name apart]
  · obtain ⟨next, entry', one⟩ := first.entries partition record entry
    obtain ⟨grown, entry'', other⟩ := second.entries partition next entry'
    exact ⟨grown, entry'', order.trans one other⟩
  · cases there : entry? middle partition with
    | none => exact second.fresh partition grown there entry
    | some next =>
        obtain ⟨later, entry', other⟩ := second.entries partition next there
        rw [entry] at entry'
        cases entry'
        exact order.trans (first.fresh partition next none there) other

theorem Opens.unique {others : Members} (opens : cache.Opens before members)
    (opens' : cache.Opens before others) : members = others := by
  have read := opens.read
  rw [opens'.read] at read
  exact (Except.ok.inj read).symm

theorem Turned.refl (named : Partition → Prop) (order : Record.Order grows)
    (opens : cache.Opens before members) : cache.Turned named grows before before := by
  refine ⟨members, members, opens, opens, fun _ _ _ _ => rfl, ?_, ?_⟩
  · exact fun partition record entry => ⟨record, entry, order.refl record⟩
  · intro partition grown none entry
    rw [none] at entry
    cases entry

theorem Turned.trans (order : Record.Order grows) (first : cache.Turned named grows before middle)
    (second : cache.Turned named grows middle after) : cache.Turned named grows before after := by
  obtain ⟨members, next, opens, opens', one⟩ := first
  obtain ⟨next', later, opens'', opened, other⟩ := second
  obtain rfl := opens'.unique opens''
  exact ⟨members, later, opens, opened, one.trans order other⟩

theorem Turned.widen (turned : cache.Turned named grows before after)
    (within : ∀ partition, named partition → wider partition) :
    cache.Turned wider grows before after := by
  obtain ⟨members, later, opens, opened, grown⟩ := turned
  refine ⟨members, later, opens, opened, fun key env name apart => ?_, grown.entries, grown.fresh⟩
  exact grown.others key env name fun partition called => apart partition (within partition called)

theorem Turned.extends (turned : cache.Turned named grows before after) :
    Extends named grows before after := by
  obtain ⟨members, later, opens, opened, grown⟩ := turned
  intro held holds
  have read : cache.members before = .ok held := members_of_holdsObject holds
  rw [opens.read] at read
  cases read
  exact ⟨later, holdsObject_of_members opened.read, grown⟩

theorem entry?_of_load (opens : cache.Opens before members)
    (loaded : cache.load before partition = .ok found) : entry? members partition = found := by
  simp only [load, opens.read, bind, Except.bind] at loaded
  unfold entry?
  cases held : members.get? partition.tag with
  | none =>
      rw [held] at loaded
      cases loaded
      rfl
  | some value =>
      simp only [held] at loaded
      rw [Option.bind_some]
      cases read : Record.ofDocument? (.ofJson value) with
      | none => simp [read] at loaded
      | some record =>
          rw [read] at loaded
          cases loaded
          rfl

theorem Tells.turns (order : Record.Order grows) (tells : cache.Tells before partition record)
    (step : grows record grown) (saved : cache.save before partition grown = .ok bytes) :
    cache.Tells (some bytes) partition grown ∧
      cache.Turned (· = partition) grows before (some bytes) := by
  obtain ⟨⟨members, opens⟩, found, loaded, rfl⟩ := tells
  obtain ⟨saved', opened⟩ := opens.save partition grown
  rw [saved] at saved'
  cases saved'
  have entered : cache.load _ partition = .ok (some grown) :=
    load_of_members opened.read (get?_withRecord_self members partition grown)
  have first := entry?_of_load opens loaded
  have last := entry?_of_load opened entered
  have apart : ∀ other, other ≠ partition →
      entry? (cache.withRecord members partition grown) other = entry? members other := by
    intro other different
    unfold entry?
    rw [get?_withRecord_of_ne members different grown]
  refine ⟨⟨⟨_, opened⟩, some grown, entered, rfl⟩, members, _, opens, opened, ?_, ?_, ?_⟩
  · intro key env name other
    rw [withRecord, Members.get?_put_of_ne _ _ (other partition rfl),
      Members.get?_put_of_ne _ _ name, Members.get?_put_of_ne _ _ env]
  · intro other record entry
    by_cases same : other = partition
    · subst same
      rw [first] at entry
      subst entry
      exact ⟨grown, last, step⟩
    · exact ⟨record, (apart other same).trans entry, order.refl record⟩
  · intro other later none entry
    by_cases same : other = partition
    · subst same
      rw [first] at none
      subst none
      rw [last] at entry
      cases entry
      exact step
    · rw [apart other same, none] at entry
      cases entry

end ProgressCache

end Cadastre
