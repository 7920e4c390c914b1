import Cadastre.Proofs.Cache.LastWriter
import Mathlib.Data.List.Nodup
import Mathlib.Data.List.Perm.Subperm

/-!
What the cache lists. A partition is listed for every key that spells it, whatever blanks, plus
signs and zeros the spelling has, but its record is found under the tag alone. The list is exact
just for the files whose keys spell partitions in no other way, which saving neither brings about
nor spoils.
-/

namespace Cadastre

open Json

namespace Json.Members

variable {members : Members}

/-- Every key that spells a partition is its tag. -/
def Plain (members : Members) : Prop :=
  ∀ key ∈ members.keys, ∀ partition, Partition.Spells key partition → key = partition.tag

theorem mem_keys_iff (members : Members) (key : String) :
    key ∈ members.keys ↔ members.get? key ≠ none := by
  simp [keys, get?]

theorem mem_keys_put_iff (members : Members) (key other : String) (value : Json) :
    other ∈ (members.put key value).keys ↔ other = key ∨ other ∈ members.keys := by
  rw [mem_keys_iff, mem_keys_iff]
  by_cases same : other = key
  · subst same
    simp [get?_put_self]
  · simp [get?_put_of_ne _ _ same, same]

theorem plain_put_iff {key : String} (value : Json)
    (neat : ∀ partition, Partition.Spells key partition → key = partition.tag) :
    (members.put key value).Plain ↔ members.Plain := by
  constructor
  · intro plain other member
    exact plain other ((mem_keys_put_iff _ _ _ _).mpr (Or.inr member))
  · intro plain other member
    rcases (mem_keys_put_iff _ _ _ _).mp member with rfl | member
    · exact neat
    · exact plain other member

end Json.Members

theorem Partition.eq_tag_of_spells_tag {partition other : Partition}
    (spelled : Spells partition.tag other) : partition.tag = other.tag := by
  rw [← ofTag?_eq_some_iff, ofTag?_tag] at spelled
  rw [Option.some.inj spelled]

namespace ProgressCache

variable {cache : ProgressCache} {contents : Option Bytes} {members : Members}
  {listed : List Partition}

theorem plain_withRecord_iff (partition : Partition) (record : Record) :
    (cache.withRecord members partition record).Plain ↔ members.Plain := by
  have unread : ∀ {key : String}, Partition.ofTag? key = none → ∀ partition,
      Partition.Spells key partition → key = partition.tag := by
    intro key none partition spelled
    rw [← Partition.ofTag?_eq_some_iff, none] at spelled
    cases spelled
  rw [withRecord, Members.plain_put_iff _ fun _ => Partition.eq_tag_of_spells_tag,
    Members.plain_put_iff _ (unread (by decide)), Members.plain_put_iff _ (unread (by decide))]

theorem plain_holding_iff (calls : List CacheCall) :
    (CacheCall.holding cache members calls).Plain ↔ members.Plain := by
  induction calls using List.reverseRecOn with
  | nil => rfl
  | append_singleton calls call ih =>
      rw [CacheCall.holding_append]
      cases call with
      | load partition => exact ih
      | save partition record => exact (plain_withRecord_iff partition record).trans ih

theorem ascending_of_holdsObject (holds : HoldsObject contents members) : members.Ascending := by
  cases contents with
  | none =>
      obtain rfl : members = [] := holds
      exact List.Pairwise.nil
  | some bytes => exact (settled_of_read? holds).ordered.1

theorem load_ne_none_iff (holds : HoldsObject contents members) (partition : Partition) :
    cache.load contents partition ≠ .ok none ↔ partition.tag ∈ members.keys := by
  simp only [load, members_of_holdsObject holds, bind, Except.bind, Members.mem_keys_iff]
  cases members.get? partition.tag with
  | none => simp
  | some entry =>
      simp only [ne_eq, reduceCtorEq, not_false_eq_true, iff_true]
      split
      · simp
      · simp

/-- A list that is in order and has a partition as often as keys spell it. -/
structure Lists (cache : ProgressCache) (contents : Option Bytes) (members : Members)
    (listed : List Partition) : Prop where
  result : cache.partitions contents = .ok listed
  ordered : listed.Pairwise fun one other => one.precedes other = true
  counts : ∀ partition, listed.count partition
    = members.keys.countP fun key => Partition.Spells key partition

/-- A list of just those partitions for which something is loaded, each of them once. -/
structure ListsExactly (cache : ProgressCache) (contents : Option Bytes)
    (listed : List Partition) : Prop where
  ascending : listed.Pairwise Partition.Before
  loadable : ∀ partition, partition ∈ listed ↔ cache.load contents partition ≠ .ok none

theorem exists_lists (cache : ProgressCache) (holds : HoldsObject contents members) :
    ∃ listed, cache.Lists contents members listed := by
  refine ⟨(members.keys.filterMap Partition.ofTag?).mergeSort Partition.precedes, ?_, ?_, ?_⟩
  · simp only [partitions, members_of_holdsObject holds, bind, Except.bind]
  · exact List.pairwise_mergeSort Partition.precedes_trans Partition.precedes_total _
  · intro partition
    rw [(List.mergeSort_perm _ _).count_eq, List.count_filterMap]
    refine List.countP_congr fun key _ => ?_
    rw [beq_iff_eq, decide_eq_true_iff, Partition.ofTag?_eq_some_iff]

theorem Lists.mem_iff (lists : cache.Lists contents members listed) (partition : Partition) :
    partition ∈ listed ↔ ∃ key ∈ members.keys, Partition.Spells key partition := by
  rw [← List.count_pos_iff, lists.counts, List.countP_pos_iff]
  simp only [decide_eq_true_eq]

theorem Lists.mem_of_load (lists : cache.Lists contents members listed)
    (holds : HoldsObject contents members) {partition : Partition}
    (loaded : cache.load contents partition ≠ .ok none) : partition ∈ listed :=
  (lists.mem_iff partition).mpr
    ⟨partition.tag, (load_ne_none_iff holds partition).mp loaded, partition.spells_tag⟩

theorem nodup_of_before (ascending : listed.Pairwise Partition.Before) : listed.Nodup :=
  ascending.imp fun before => ((Partition.before_iff _ _).mp before).2

theorem plain_of_exactly (lists : cache.Lists contents members listed)
    (holds : HoldsObject contents members) (exactly : cache.ListsExactly contents listed) :
    members.Plain := by
  intro key member partition spelled
  have once : listed.count partition ≤ 1 :=
    List.nodup_iff_count_le_one.mp (nodup_of_before exactly.ascending) partition
  have tagged : partition.tag ∈ members.keys :=
    (load_ne_none_iff holds partition).mp
      ((exactly.loadable partition).mp ((lists.mem_iff partition).mpr ⟨key, member, spelled⟩))
  rw [lists.counts, List.countP_eq_length_filter] at once
  by_contra different
  have both : [key, partition.tag] ⊆ members.keys.filter (Partition.Spells · partition) := by
    simpa using ⟨⟨member, spelled⟩, tagged, partition.spells_tag⟩
  have twice := (List.subperm_of_subset (by simpa using different) both).length_le
  simp only [List.length_cons, List.length_nil] at twice
  omega

theorem exactly_of_plain (lists : cache.Lists contents members listed)
    (holds : HoldsObject contents members) (plain : members.Plain) :
    cache.ListsExactly contents listed := by
  have distinct : members.keys.Nodup := by
    have ascending : members.keys.Pairwise (· < ·) :=
      List.pairwise_map.mpr (ascending_of_holdsObject holds)
    exact ascending.imp fun below => ne_of_lt below
  have once : listed.Nodup := by
    refine List.nodup_iff_count_le_one.mpr fun partition => ?_
    calc
      listed.count partition
        = members.keys.countP fun key => Partition.Spells key partition := lists.counts partition
      _ ≤ members.keys.count partition.tag := by
        refine List.countP_mono_left fun key member spelled => ?_
        rw [beq_iff_eq]
        exact plain key member partition (decide_eq_true_eq.mp spelled)
      _ ≤ 1 := List.nodup_iff_count_le_one.mp distinct _
  refine ⟨(lists.ordered.and once).imp fun both => (Partition.before_iff _ _).mpr both,
    fun partition => ⟨fun member => ?_, lists.mem_of_load holds⟩⟩
  obtain ⟨key, member, spelled⟩ := (lists.mem_iff partition).mp member
  rw [load_ne_none_iff holds, ← plain key member partition spelled]
  exact member

theorem exactly_iff_plain (lists : cache.Lists contents members listed)
    (holds : HoldsObject contents members) :
    cache.ListsExactly contents listed ↔ members.Plain :=
  ⟨plain_of_exactly lists holds, exactly_of_plain lists holds⟩

/-- The listing never fails, is in order and leaves no partition out that can be loaded, but it is
exact just if the keys are plain; loads and saves in between make no difference to that. -/
theorem lists_exactly_iff_plain (cache : ProgressCache) (contents : Option Bytes)
    (members : Members) (holds : HoldsObject contents members) :
    (∃ listed, cache.Lists contents members listed ∧
      (∀ partition, cache.load contents partition ≠ .ok none → partition ∈ listed) ∧
      (cache.ListsExactly contents listed ↔ members.Plain)) ∧
    ((Json.object members).Lasting → ∀ calls, ∃ listed,
      cache.partitions (CacheCall.after cache contents calls) = .ok listed ∧
      (cache.ListsExactly (CacheCall.after cache contents calls) listed ↔ members.Plain)) := by
  constructor
  · obtain ⟨listed, lists⟩ := cache.exists_lists holds
    exact ⟨listed, lists, fun _ => lists.mem_of_load holds, exactly_iff_plain lists holds⟩
  · intro lasting calls
    have opens := cache.opens_of_holdsObject holds lasting
    have holds' := holdsObject_of_members (CacheCall.after_of_opens opens calls).1.read
    obtain ⟨listed, lists⟩ := cache.exists_lists holds'
    exact ⟨listed, lists.result,
      (exactly_iff_plain lists holds').trans (plain_holding_iff calls)⟩

open CacheCall in
theorem blank_in_key_lists_twice :
    ∃ (cache : ProgressCache) (contents : Option Bytes) (members : Members),
      HoldsObject contents members ∧ members.keys = ["[0, 1]", "[0,1]", "[2,+3]"] ∧
      ∃ listed, cache.partitions contents = .ok listed ∧ listed.count ⟨0, 1⟩ = 2 ∧
        ⟨2, 3⟩ ∈ listed ∧ cache.load contents ⟨2, 3⟩ = .ok none ∧
        ¬ cache.ListsExactly contents listed ∧
        ∀ calls, ∃ later, cache.partitions (after cache contents calls) = .ok later ∧
          ¬ cache.ListsExactly (after cache contents calls) later := by
  let cache : ProgressCache := ⟨"cache.json", "dev", "main"⟩
  let contents := some (Text.utf8
    "\x7b\"[0, 1]\":\x7b\x7d,\"[0,1]\":\x7b\x7d,\"[2,+3]\":\x7b\x7d\x7d")
  have shown : (cache.members contents).toOption.any (fun members : Members =>
      members.keys = ["[0, 1]", "[0,1]", "[2,+3]"] && decide (Json.object members).Lasting)
        = true := by decide +kernel
  cases read : cache.members contents with
  | error fault =>
      rw [read] at shown
      cases shown
  | ok members =>
      rw [read] at shown
      simp only [Except.toOption, Option.any_some, Bool.and_eq_true, decide_eq_true_eq] at shown
      obtain ⟨keys, lasting⟩ := shown
      have holds := holdsObject_of_members read
      have crooked : ¬ members.Plain := by
        intro plain
        exact absurd (plain "[0, 1]" (by rw [keys]; decide) ⟨0, 1⟩ (by decide)) (by decide)
      obtain ⟨⟨listed, lists, -, exactly⟩, runs⟩ :=
        lists_exactly_iff_plain cache contents members holds
      refine ⟨cache, contents, members, holds, keys, listed, lists.result, ?_, ?_, ?_, ?_,
        fun calls => ?_⟩
      · rw [lists.counts, keys]
        decide
      · rw [lists.mem_iff, keys]
        exact ⟨"[2,+3]", by decide, by decide⟩
      · by_contra loaded
        have tagged := (load_ne_none_iff holds _).mp loaded
        rw [keys] at tagged
        exact absurd tagged (by decide)
      · rwa [exactly]
      · obtain ⟨later, found, exactly⟩ := runs lasting calls
        exact ⟨later, found, by rwa [exactly]⟩

end ProgressCache

end Cadastre
