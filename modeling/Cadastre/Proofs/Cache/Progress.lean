import Cadastre.Cache.Progress
import Cadastre.Proofs.Grid.Partition
import Cadastre.Proofs.Item.RecordFile
import Mathlib.Logic.Function.Basic

/-!
What the cache file says. A file that was only ever saved to holds a book of records, one for each
partition, and saving a record changes that partition's page alone.
-/

namespace Cadastre

open Json

theorem Partition.tag_ne_of_head {partition : Partition} {name : String}
    (head : name.toList.head? ≠ some '[') : name ≠ partition.tag := by
  rintro rfl
  exact head (by rw [partition.toList_tag]; rfl)

namespace ProgressCache

variable {cache : ProgressCache} {contents : Option Bytes} {book : Partition → Record}

def Saved (contents : Option Bytes) : Prop :=
  contents = none ∨ ∃ members : Members,
    contents = some (Text.utf8 (Json.object members).write) ∧
      (Json.object members).Fits greatestDepth ∧ (Json.object members).Ordered

/-- Whether the contents are a book's: each partition has its page, an empty record standing for
none. -/
structure Holds (cache : ProgressCache) (contents : Option Bytes) (book : Partition → Record) :
    Prop where
  saved : Saved contents
  loads : ∀ partition, ∃ found, cache.load contents partition = .ok found ∧
    found.getD {} = book partition

/-- The contents are those of an object that is read again as it was when it is written. -/
structure Opens (cache : ProgressCache) (contents : Option Bytes) (members : Members) : Prop where
  read : cache.members contents = .ok members
  fits : (Json.object members).Fits greatestDepth
  ordered : (Json.object members).Ordered

theorem opens_written (cache : ProgressCache) {members : Members}
    (fits : (Json.object members).Fits greatestDepth) (ordered : (Json.object members).Ordered) :
    cache.Opens (some (Text.utf8 (Json.object members).write)) members := by
  refine ⟨?_, fits, ordered⟩
  simp only [ProgressCache.members, read?_write fits ordered]

theorem opens_of_saved (cache : ProgressCache) (saved : Saved contents) :
    ∃ members, cache.Opens contents members := by
  rcases saved with rfl | ⟨members, rfl, fits, ordered⟩
  · exact ⟨[], rfl, trivial, List.Pairwise.nil, trivial⟩
  · exact ⟨members, cache.opens_written fits ordered⟩

theorem get?_withRecord_self (members : Members) (partition : Partition) (record : Record) :
    (cache.withRecord members partition record).get? partition.tag
      = some record.toJson.sorted := by
  rw [withRecord, Members.get?_put_self]

theorem get?_withRecord_of_ne (members : Members) {partition other : Partition}
    (different : other ≠ partition) (record : Record) :
    (cache.withRecord members partition record).get? other.tag = members.get? other.tag := by
  have env : other.tag ≠ "env" := (Partition.tag_ne_of_head (by decide)).symm
  have name : other.tag ≠ "cacheName" := (Partition.tag_ne_of_head (by decide)).symm
  rw [withRecord, Members.get?_put_of_ne _ _ fun same => different (Partition.tag_injective same),
    Members.get?_put_of_ne _ _ name, Members.get?_put_of_ne _ _ env]

theorem get?_withRecord_of_other (cache : ProgressCache) {key : String} (env : key ≠ "env")
    (name : key ≠ "cacheName") (tag : ∀ partition : Partition, key ≠ partition.tag)
    (held : Members) (partition : Partition) (record : Record) :
    (cache.withRecord held partition record).get? key = held.get? key := by
  rw [withRecord, Members.get?_put_of_ne _ _ (tag partition), Members.get?_put_of_ne _ _ name,
    Members.get?_put_of_ne _ _ env]

theorem get?_withRecord_env (cache : ProgressCache) (held : Members) (partition : Partition)
    (record : Record) :
    (cache.withRecord held partition record).get? "env" = some (.string cache.env) := by
  rw [withRecord, Members.get?_put_of_ne _ _ (Partition.tag_ne_of_head (by decide)),
    Members.get?_put_of_ne _ _ (by decide), Members.get?_put_self]

theorem get?_withRecord_cacheName (cache : ProgressCache) (held : Members) (partition : Partition)
    (record : Record) :
    (cache.withRecord held partition record).get? "cacheName" = some (.string cache.name) := by
  rw [withRecord, Members.get?_put_of_ne _ _ (Partition.tag_ne_of_head (by decide)),
    Members.get?_put_self]

theorem load_of_members {members : Members} (read : cache.members contents = .ok members)
    {partition : Partition} {record : Record}
    (entry : members.get? partition.tag = some record.toJson.sorted) :
    cache.load contents partition = .ok (some record) := by
  simp only [load, read, bind, Except.bind, entry, Record.ofDocument?_sorted_toJson]

theorem load_congr {others : Option Bytes} {members changed : Members}
    (before : cache.members contents = .ok members) (after : cache.members others = .ok changed)
    {partition : Partition} (same : changed.get? partition.tag = members.get? partition.tag) :
    cache.load others partition = cache.load contents partition := by
  simp only [load, before, after, bind, Except.bind, same]

variable (cache) in
theorem fits_withRecord {members : Members} (fits : (Json.object members).Fits greatestDepth)
    (partition : Partition) (record : Record) :
    (Json.object (cache.withRecord members partition record)).Fits greatestDepth := by
  have before := (fitsMembers_iff _ _).mp fits
  refine (fitsMembers_iff _ _).mpr fun member found => ?_
  rcases Members.mem_of_mem_put found with rfl | found
  · exact Fits.mono (by decide) _ (fits_sorted _ record.fits_toJson)
  · rcases Members.mem_of_mem_put found with rfl | found
    · trivial
    · rcases Members.mem_of_mem_put found with rfl | found
      · trivial
      · exact before member found

variable (cache) in
theorem ordered_withRecord {members : Members} (ordered : (Json.object members).Ordered)
    (partition : Partition) (record : Record) :
    (Json.object (cache.withRecord members partition record)).Ordered := by
  have before := (orderedMembers_iff _).mp ordered.2
  refine ⟨((ordered.1.put _ _).put _ _).put _ _, (orderedMembers_iff _).mpr fun member found => ?_⟩
  rcases Members.mem_of_mem_put found with rfl | found
  · exact ordered_sorted record.toJson
  · rcases Members.mem_of_mem_put found with rfl | found
    · trivial
    · rcases Members.mem_of_mem_put found with rfl | found
      · trivial
      · exact before member found

theorem holds_none (cache : ProgressCache) : cache.Holds none fun _ => {} :=
  ⟨Or.inl rfl, fun _ => ⟨none, rfl, rfl⟩⟩

theorem Opens.save {members : Members} (opens : cache.Opens contents members)
    (partition : Partition) (record : Record) :
    cache.save contents partition record = .ok (Text.utf8
        (Json.object (cache.withRecord members partition record)).write) ∧
      cache.Opens (some (Text.utf8
        (Json.object (cache.withRecord members partition record)).write))
        (cache.withRecord members partition record) := by
  constructor
  · simp only [ProgressCache.save, opens.read, bind, Except.bind]
  · exact cache.opens_written (fits_withRecord cache opens.fits partition record)
      (ordered_withRecord cache opens.ordered partition record)

theorem Holds.save (holds : cache.Holds contents book) (partition : Partition) (record : Record) :
    ∃ bytes, cache.save contents partition record = .ok bytes ∧
      cache.Holds (some bytes) (Function.update book partition record) := by
  obtain ⟨members, opens⟩ := opens_of_saved cache holds.saved
  obtain ⟨saved, after⟩ := opens.save partition record
  refine ⟨_, saved, ?_, ?_⟩
  · exact Or.inr ⟨_, rfl, after.fits, after.ordered⟩
  · intro other
    by_cases same : other = partition
    · subst same
      exact ⟨some record, load_of_members after.read (get?_withRecord_self members other record),
        by simp⟩
    · obtain ⟨found, loaded, page⟩ := holds.loads other
      refine ⟨found, ?_, by rw [page, Function.update_of_ne same]⟩
      rw [load_congr opens.read after.read (get?_withRecord_of_ne members same record), loaded]

theorem Holds.load_eq (holds : cache.Holds contents book) {partition : Partition}
    {found : Option Record} (loaded : cache.load contents partition = .ok found) :
    found.getD {} = book partition := by
  obtain ⟨other, same, page⟩ := holds.loads partition
  rw [loaded] at same
  cases same
  exact page

theorem Holds.unique {other : Partition → Record} (holds : cache.Holds contents book)
    (holds' : cache.Holds contents other) : book = other := by
  funext partition
  obtain ⟨found, loaded, page⟩ := holds.loads partition
  rw [← page, holds'.load_eq loaded]

/-- Whether the contents can be saved to and have this record of the partition, an empty one
standing for none. -/
structure Tells (cache : ProgressCache) (contents : Option Bytes) (partition : Partition)
    (record : Record) : Prop where
  opens : ∃ members, cache.Opens contents members
  loads : ∃ found, cache.load contents partition = .ok found ∧ found.getD {} = record

structure Renews (cache : ProgressCache) (partition : Partition) (record : Record)
    (before after : Option Bytes) : Prop where
  tells : cache.Tells after partition record
  others : ∀ other, other ≠ partition → ∀ kept, cache.Tells before other kept →
    cache.Tells after other kept

theorem tells_none (cache : ProgressCache) (partition : Partition) :
    cache.Tells none partition {} :=
  ⟨⟨[], rfl, trivial, List.Pairwise.nil, trivial⟩, none, rfl, rfl⟩

theorem Tells.unique {partition : Partition} {record other : Record}
    (tells : cache.Tells contents partition record)
    (tells' : cache.Tells contents partition other) : record = other := by
  obtain ⟨found, loaded, rfl⟩ := tells.loads
  obtain ⟨again, loaded', rfl⟩ := tells'.loads
  rw [loaded] at loaded'
  cases loaded'
  rfl

theorem Tells.save {partition : Partition} {record : Record}
    (tells : cache.Tells contents partition record) (changed : Record) :
    ∃ bytes, cache.save contents partition changed = .ok bytes ∧
      cache.Renews partition changed contents (some bytes) := by
  obtain ⟨members, opens⟩ := tells.opens
  obtain ⟨saved, after⟩ := opens.save partition changed
  refine ⟨_, saved, ⟨⟨_, after⟩, some changed, ?_, rfl⟩, fun other different kept holds => ?_⟩
  · exact load_of_members after.read (get?_withRecord_self members partition changed)
  · obtain ⟨found, loaded, page⟩ := holds.loads
    refine ⟨⟨_, after⟩, found, ?_, page⟩
    rw [load_congr opens.read after.read (get?_withRecord_of_ne members different changed), loaded]

end ProgressCache

end Cadastre
