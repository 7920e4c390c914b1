import Cadastre.Pipeline.Progress
import Cadastre.Proofs.Cache.Progress
import Cadastre.Proofs.Json.Settled
import Mathlib.Data.List.Induction

/-!
The cache file as a map from partitions to records, through any loads and saves. Whoever saves a
partition last determines its record; what is not the cache's own stays as it is.
-/

namespace Cadastre

open Json

inductive CacheCall where
  | load (partition : Partition)
  | save (partition : Partition) (record : Record)

inductive CacheReply where
  | loaded (found : Option Record)
  | saved

/-- A site where reading and replacing the cache file always succeed; a cache asks for nothing
else. -/
def Site.onFile : (request : Site.Call) → StateM (Option Bytes) (Site.Answer request)
  | .readCache => do
    let contents ← get
    pure (.ok contents)
  | .replaceCache contents => do
    set (some contents)
    pure (.ok ())
  | .listAssets => pure (.ok [])
  | .readAsset _ => pure (.ok [])
  | .storePairs _ => pure (.ok [])
  | .register _ _ => pure (.error (.rejected "closed"))
  | .startAppend _ => pure ()
  | .awaitAppend _ rest => pure (Site.foremost rest, .error (.rejected "closed"))
  | .now => pure ⟨0, 0⟩

namespace CacheCall

def work (cache : ProgressCache) : CacheCall → Work CacheReply
  | load partition => do
    let found ← cache.readRecord partition
    pure (.loaded found)
  | save partition record => do
    cache.writeRecord partition record
    pure .saved

def perform (call : CacheCall) (cache : ProgressCache) (contents : Option Bytes) :
    Except PipelineFault CacheReply × Option Bytes :=
  ((call.work cache).run.run Site.onFile).run contents

def after (cache : ProgressCache) (contents : Option Bytes) (calls : List CacheCall) :
    Option Bytes :=
  calls.foldl (fun contents call => (call.perform cache contents).2) contents

def recordFor (partition : Partition) : CacheCall → Option Record
  | load _ => none
  | save other record => if other = partition then some record else none

def lastSaved (calls : List CacheCall) (partition : Partition) : Option Record :=
  calls.reverse.findSome? fun call => call.recordFor partition

def entryReply (cache : ProgressCache) (members : Members) (partition : Partition) :
    Except PipelineFault CacheReply :=
  match members.get? partition.tag with
  | none => .ok (.loaded none)
  | some entry =>
    match Record.ofDocument? (.ofJson entry) with
    | some record => .ok (.loaded (some record))
    | none =>
      .error (.cache (.corrupt cache.path s!"partition {partition.tag}: {Json.unreadable}"))

end CacheCall

def ProgressCache.HoldsObject (contents : Option Bytes) (members : Members) : Prop :=
  match contents with
  | none => members = []
  | some bytes => Json.read? bytes = some (.object members)

open CacheCall in
/-- How things stand after the calls: what is loaded next, that saving goes well, and which of the
file's members are still those it had at the start. -/
structure ProgressCache.Faithful (cache : ProgressCache) (contents : Option Bytes)
    (members : Members) (calls : List CacheCall) : Prop where
  loads : ∀ partition, (CacheCall.load partition).perform cache (after cache contents calls)
    = ((lastSaved calls partition).elim (entryReply cache members partition)
        fun record => .ok (.loaded (some record)), after cache contents calls)
  saves : ∀ partition record,
    ((CacheCall.save partition record).perform cache (after cache contents calls)).1 = .ok .saved
  keeps : ∃ held, HoldsObject (after cache contents calls) held ∧
    ∀ key, key ≠ "env" → key ≠ "cacheName" →
      (∀ partition, key = partition.tag → lastSaved calls partition = none) →
        held.get? key = members.get? key

namespace ProgressCache

variable {cache : ProgressCache} {contents : Option Bytes} {members : Members}

theorem members_of_holdsObject (holds : HoldsObject contents members) :
    cache.members contents = .ok members := by
  cases contents with
  | none =>
      obtain rfl : members = [] := holds
      rfl
  | some bytes =>
      have read : Json.read? bytes = some (.object members) := holds
      simp only [ProgressCache.members, read]

theorem holdsObject_of_members (read : cache.members contents = .ok members) :
    HoldsObject contents members := by
  cases contents with
  | none =>
      cases read
      rfl
  | some bytes =>
      simp only [ProgressCache.members] at read
      split at read
      · rename_i found
        cases read
        exact found
      · cases read
      · cases read

theorem Opens.of_cache (opens : cache.Opens contents members) (other : ProgressCache) :
    other.Opens contents members :=
  ⟨members_of_holdsObject (holdsObject_of_members opens.read), opens.fits, opens.ordered⟩

theorem corrupt_of_no_object (none : ∀ members, ¬ HoldsObject contents members) :
    ∃ reason, cache.members contents = .error (.corrupt cache.path reason) := by
  cases read : cache.members contents with
  | ok members => exact absurd (holdsObject_of_members read) (none members)
  | error fault =>
      cases contents with
      | none => cases read
      | some bytes =>
          simp only [ProgressCache.members] at read
          split at read
          · cases read
          · cases read
            exact ⟨_, rfl⟩
          · cases read
            exact ⟨_, rfl⟩

theorem opens_of_holdsObject (cache : ProgressCache) (holds : HoldsObject contents members)
    (lasting : (Json.object members).Lasting) : cache.Opens contents members := by
  have read : cache.members contents = .ok members := members_of_holdsObject holds
  cases contents with
  | none =>
      obtain rfl : members = [] := holds
      exact ⟨read, trivial, List.Pairwise.nil, trivial⟩
  | some bytes =>
      have found : Json.read? bytes = some (.object members) := holds
      have settled := settled_of_read? found
      exact ⟨read, settled.fits lasting, settled.ordered⟩

end ProgressCache

namespace CacheCall

variable {cache : ProgressCache} {contents : Option Bytes} {members : Members}
  {calls others : List CacheCall}

theorem perform_load (partition : Partition) :
    (load partition).perform cache contents
      = (((cache.load contents partition).mapError PipelineFault.cache).map .loaded, contents) := by
  have read : (load partition).perform cache contents = ((do
      let found ← Work.check (cache.load contents partition) PipelineFault.cache
      pure (.loaded found) : Work CacheReply).run.run Site.onFile).run contents := rfl
  rw [read]
  cases cache.load contents partition with
  | ok found => rfl
  | error fault => rfl

theorem perform_save (partition : Partition) (record : Record) :
    (save partition record).perform cache contents
      = match cache.save contents partition record with
        | .ok bytes => (.ok .saved, some bytes)
        | .error fault => (.error (.cache fault), contents) := by
  have read : (save partition record).perform cache contents = ((do
      (do
        let updated ← Work.check (cache.save contents partition record) PipelineFault.cache
        Work.expect (Site.replaceCache updated) fun reason => .cache (.io reason) : Work Unit)
      pure .saved : Work CacheReply).run.run Site.onFile).run contents := rfl
  rw [read]
  cases cache.save contents partition record with
  | ok bytes => rfl
  | error fault => rfl

theorem load_eq_entryReply (read : cache.members contents = .ok members) (partition : Partition) :
    ((cache.load contents partition).mapError PipelineFault.cache).map .loaded
      = entryReply cache members partition := by
  simp only [ProgressCache.load, read, bind, Except.bind, entryReply]
  cases members.get? partition.tag with
  | none => rfl
  | some entry =>
      simp only
      cases Record.ofDocument? (.ofJson entry) with
      | none => rfl
      | some record => rfl

theorem lastSaved_append (call : CacheCall) (partition : Partition) :
    lastSaved (calls ++ [call]) partition
      = (call.recordFor partition).or (lastSaved calls partition) := by
  rw [lastSaved, List.reverse_append, List.reverse_singleton, List.singleton_append,
    List.findSome?_cons]
  cases call.recordFor partition with
  | none => rfl
  | some record => rfl

def isSave : CacheCall → Bool
  | load _ => false
  | save _ _ => true

theorem any_isSave_iff :
    calls.any isSave = true ↔ ∃ partition, lastSaved calls partition ≠ none := by
  simp only [List.any_eq_true, lastSaved, ne_eq, List.findSome?_eq_none_iff, List.mem_reverse,
    Classical.not_forall, exists_prop]
  constructor
  · rintro ⟨call, found, saves⟩
    cases call with
    | load partition => cases saves
    | save partition record => exact ⟨partition, _, found, by simp [recordFor]⟩
  · rintro ⟨partition, call, found, recorded⟩
    refine ⟨call, found, ?_⟩
    cases call with
    | load other => exact absurd rfl recorded
    | save other record => rfl

def change (cache : ProgressCache) (held : Members) : CacheCall → Members
  | load _ => held
  | save partition record => cache.withRecord held partition record

def holding (cache : ProgressCache) (members : Members) (calls : List CacheCall) : Members :=
  calls.foldl (fun held call => call.change cache held) members

theorem holding_append (call : CacheCall) :
    holding cache members (calls ++ [call]) = call.change cache (holding cache members calls) := by
  rw [holding, List.foldl_append]
  rfl

theorem after_append (call : CacheCall) :
    after cache contents (calls ++ [call])
      = (call.perform cache (after cache contents calls)).2 := by
  rw [after, List.foldl_append]
  rfl

theorem perform_of_opens (opens : cache.Opens contents members) (call : CacheCall) :
    cache.Opens (call.perform cache contents).2 (call.change cache members) ∧
      (call.perform cache contents).2 = if call.isSave then
        some (Text.utf8 (Json.object (call.change cache members)).write) else contents := by
  cases call with
  | load partition =>
      rw [perform_load]
      exact ⟨opens, rfl⟩
  | save partition record =>
      obtain ⟨saved, after⟩ := opens.save partition record
      rw [perform_save, saved]
      exact ⟨after, rfl⟩

theorem after_of_opens (opens : cache.Opens contents members) (calls : List CacheCall) :
    cache.Opens (after cache contents calls) (holding cache members calls) ∧
      after cache contents calls = if calls.any isSave then
        some (Text.utf8 (Json.object (holding cache members calls)).write) else contents := by
  induction calls using List.reverseRecOn with
  | nil => exact ⟨opens, rfl⟩
  | append_singleton calls call ih =>
      obtain ⟨next, file⟩ := perform_of_opens ih.1 call
      rw [after_append, holding_append]
      refine ⟨next, ?_⟩
      rw [file, List.any_append]
      cases call with
      | load partition => simpa [isSave, change] using ih.2
      | save partition record => simp [isSave]

theorem get?_change_tag (call : CacheCall) (partition : Partition) :
    (call.change cache members).get? partition.tag
      = ((call.recordFor partition).map fun record => record.toJson.sorted).or
          (members.get? partition.tag) := by
  cases call with
  | load other => rfl
  | save other record =>
      by_cases same : other = partition
      · subst same
        simp [change, recordFor, ProgressCache.get?_withRecord_self]
      · rw [change, ProgressCache.get?_withRecord_of_ne _ (Ne.symm same)]
        simp [recordFor, same]

theorem get?_holding_tag (partition : Partition) :
    (holding cache members calls).get? partition.tag
      = ((lastSaved calls partition).map fun record => record.toJson.sorted).or
          (members.get? partition.tag) := by
  induction calls using List.reverseRecOn with
  | nil => rfl
  | append_singleton calls call ih =>
      rw [holding_append, lastSaved_append, get?_change_tag, ih, Option.map_or, Option.or_assoc]

theorem get?_holding_header {key : String} {value : Json}
    (header : ∀ held partition record,
      (cache.withRecord held partition record).get? key = some value) :
    (holding cache members calls).get? key
      = if calls.any isSave then some value else members.get? key := by
  induction calls using List.reverseRecOn with
  | nil => rfl
  | append_singleton calls call ih =>
      rw [holding_append, List.any_append]
      cases call with
      | load other => simpa [isSave, change] using ih
      | save other record => simp [isSave, change, header]

theorem get?_holding_of_other {key : String} (env : key ≠ "env") (name : key ≠ "cacheName")
    (tag : ∀ partition : Partition, key ≠ partition.tag) :
    (holding cache members calls).get? key = members.get? key := by
  induction calls using List.reverseRecOn with
  | nil => rfl
  | append_singleton calls call ih =>
      rw [holding_append]
      cases call with
      | load other => exact ih
      | save other record =>
          rw [change, cache.get?_withRecord_of_other env name tag, ih]

theorem holding_congr (opens : cache.Opens contents members)
    (same : lastSaved calls = lastSaved others) :
    holding cache members calls = holding cache members others := by
  have saves : calls.any isSave = others.any isSave := by
    rw [Bool.eq_iff_iff, any_isSave_iff, any_isSave_iff, same]
  have ascending := fun calls => (after_of_opens opens calls).1.ordered.1
  refine (ascending calls).ext (ascending others) fun key => ?_
  by_cases tag : ∃ partition : Partition, key = partition.tag
  · obtain ⟨partition, rfl⟩ := tag
    rw [get?_holding_tag, get?_holding_tag, same]
  by_cases env : key = "env"
  · subst env
    rw [get?_holding_header cache.get?_withRecord_env,
      get?_holding_header cache.get?_withRecord_env, saves]
  by_cases name : key = "cacheName"
  · subst name
    rw [get?_holding_header cache.get?_withRecord_cacheName,
      get?_holding_header cache.get?_withRecord_cacheName, saves]
  · have plain := fun partition equal => tag ⟨partition, equal⟩
    rw [get?_holding_of_other env name plain, get?_holding_of_other env name plain]

theorem after_congr (opens : cache.Opens contents members)
    (same : lastSaved calls = lastSaved others) :
    after cache contents calls = after cache contents others := by
  have saves : calls.any isSave = others.any isSave := by
    rw [Bool.eq_iff_iff, any_isSave_iff, any_isSave_iff, same]
  rw [(after_of_opens opens calls).2, (after_of_opens opens others).2, saves,
    holding_congr opens same]

theorem perform_load_of_entry {held : Members} (read : cache.members contents = .ok held)
    {partition : Partition} {saved : Option Record}
    (entry : held.get? partition.tag = (saved.map fun record => record.toJson.sorted).or
      (members.get? partition.tag)) :
    (load partition).perform cache contents
      = (saved.elim (entryReply cache members partition) fun record => .ok (.loaded (some record)),
          contents) := by
  rw [perform_load, load_eq_entryReply read, entryReply, entry]
  cases saved with
  | none => rfl
  | some record => simp [Record.ofDocument?_sorted_toJson]

theorem faithful_of_opens (opens : cache.Opens contents members) (calls : List CacheCall) :
    cache.Faithful contents members calls := by
  obtain ⟨opened, -⟩ := after_of_opens opens calls
  constructor
  · intro partition
    exact perform_load_of_entry opened.read (get?_holding_tag partition)
  · intro partition record
    rw [perform_save, (opened.save partition record).1]
  · refine ⟨_, ProgressCache.holdsObject_of_members opened.read, fun key env name unsaved => ?_⟩
    by_cases tag : ∃ partition : Partition, key = partition.tag
    · obtain ⟨partition, rfl⟩ := tag
      rw [get?_holding_tag, unsaved partition rfl]
      rfl
    · exact get?_holding_of_other env name fun partition equal => tag ⟨partition, equal⟩

theorem perform_of_corrupt {fault : CacheFault} (read : cache.members contents = .error fault)
    (call : CacheCall) : call.perform cache contents = (.error (.cache fault), contents) := by
  cases call with
  | load partition =>
      rw [perform_load]
      simp only [ProgressCache.load, read, bind, Except.bind]
      rfl
  | save partition record =>
      rw [perform_save]
      simp only [ProgressCache.save, read, bind, Except.bind]

theorem after_of_corrupt {fault : CacheFault} (read : cache.members contents = .error fault)
    (calls : List CacheCall) : after cache contents calls = contents := by
  induction calls using List.reverseRecOn with
  | nil => rfl
  | append_singleton calls call ih => rw [after_append, ih, perform_of_corrupt read]

end CacheCall

open CacheCall in
/-- Starting from an object, the file is a map in which the last save of a partition wins, and the
order of saves of different partitions leaves no trace. A file that is no object is left alone. -/
theorem ProgressCache.last_save_wins (cache : ProgressCache) (contents : Option Bytes)
    (lasting : ∀ members, HoldsObject contents members → (Json.object members).Lasting) :
    (∀ members, HoldsObject contents members →
      (∀ calls, cache.Faithful contents members calls) ∧
        ∀ calls others, lastSaved calls = lastSaved others →
          after cache contents calls = after cache contents others) ∧
      ((∀ members, ¬ HoldsObject contents members) → ∃ reason,
        ∀ (calls : List CacheCall) (call : CacheCall),
          call.perform cache (after cache contents calls)
            = (.error (.cache (.corrupt cache.path reason)), contents)) := by
  constructor
  · intro members holds
    have opens := cache.opens_of_holdsObject holds (lasting members holds)
    exact ⟨faithful_of_opens opens, fun calls others same => after_congr opens same⟩
  · intro none
    obtain ⟨reason, read⟩ := cache.corrupt_of_no_object none
    refine ⟨reason, fun calls call => ?_⟩
    rw [after_of_corrupt read, perform_of_corrupt read]

open CacheCall in
theorem ProgressCache.noted_file_keeps_note :
    ∃ members, HoldsObject (some (Text.utf8 "\x7b\"note\":1.5\x7d")) members ∧
      (∀ calls, Faithful ⟨"cache.json", "dev", "main"⟩
        (some (Text.utf8 "\x7b\"note\":1.5\x7d")) members calls) ∧
      ∀ calls others, lastSaved calls = lastSaved others →
        after ⟨"cache.json", "dev", "main"⟩ (some (Text.utf8 "\x7b\"note\":1.5\x7d")) calls
          = after ⟨"cache.json", "dev", "main"⟩ (some (Text.utf8 "\x7b\"note\":1.5\x7d"))
              others := by
  have lasts : (Json.read? (Text.utf8 "\x7b\"note\":1.5\x7d")).all
      (fun value => decide value.Lasting) = true := by decide +kernel
  have opens : (ProgressCache.members ⟨"cache.json", "dev", "main"⟩
      (some (Text.utf8 "\x7b\"note\":1.5\x7d"))).toBool = true := by decide +kernel
  cases read : ProgressCache.members ⟨"cache.json", "dev", "main"⟩
      (some (Text.utf8 "\x7b\"note\":1.5\x7d")) with
  | error fault =>
      rw [read] at opens
      cases opens
  | ok members =>
      have holds := holdsObject_of_members read
      refine ⟨members, holds, (last_save_wins _ _ fun found other => ?_).1 members holds⟩
      rw [HoldsObject] at other
      rw [other, Option.all_some, decide_eq_true_eq] at lasts
      exact lasts

end Cadastre
