import Cadastre.Machine.Memory
import Cadastre.Proofs.Job.World
import Cadastre.Proofs.Storage.Naming
import Mathlib.Data.Set.Function

/-!
What a directory store holds. Below its directory nothing is written but by the store; there every
object is missing or whole, and one that is there stays, whatever fails.
-/

namespace Cadastre

abbrev Disk := String → Option Node

def Node.kind : Node → PathKind
  | .file _ => .file
  | .directory => .directory

namespace DirectoryStore

def Below (store : DirectoryStore) (place : String) : Prop :=
  ∃ part, part ≠ "" ∧ part.startsWith "/" = false ∧ place = Path.join store.root part

def Drifts (store : DirectoryStore) (before after : Disk) : Prop :=
  ∀ place, store.Below place → after place = before place

/-- How a file may be replaced: as a whole or not at all, and whatever becomes of the directories
above it and of its drafts. -/
structure Replaces (store : DirectoryStore) (path : String) (contents : Bytes) (before : Disk)
    (reply : Except SystemFault Unit) (after : Disk) : Prop where
  others : ∀ place, store.Below place → place ≠ path → ¬ Path.Aside path place →
    after place = before place
  target : after path = before path ∨ after path = some (.file contents)
  done : reply = .ok () → after path = some (.file contents)

def Answers (store : DirectoryStore) :
    (request : Machine.Call) → Disk → Machine.Answer request → Disk → Prop
  | .kindOf path, before, reply, after =>
    after = before ∧ ∀ kind, reply = .ok kind → kind = (before path).map Node.kind
  | .replaceFile path contents, before, reply, after =>
    store.Replaces path contents before reply after
  | _, before, _, after => store.Drifts before after

def world (store : DirectoryStore) : World Machine := ⟨Disk, store.Drifts, store.Answers⟩

variable {store : DirectoryStore} {pool : Set Bytes} {held : List (Bytes × ContentKind)}
  {payload : Bytes} {kind : ContentKind} {before after disk : Disk}

theorem below_place (payload : Bytes) (kind : ContentKind) :
    store.Below (store.place payload kind) := by
  refine ⟨objectKey payload kind, ?_, relative_objectKey payload kind, rfl⟩
  intro empty
  have long := (ContentDigest.ofBytes payload).length_objectKey kind.extension
  change (objectKey payload kind).toList.length = _ at long
  rw [empty] at long
  simp at long
  omega

/-- Each object of the pool is missing or whole, and those of the list are there. -/
structure Keeps (store : DirectoryStore) (pool : Set Bytes) (held : List (Bytes × ContentKind))
    (disk : Disk) : Prop where
  whole : ∀ payload ∈ pool, ∀ kind, disk (store.place payload kind) = none ∨
    disk (store.place payload kind) = some (.file payload)
  holds : ∀ entry ∈ held,
    entry.1 ∈ pool ∧ disk (store.place entry.1 entry.2) = some (.file entry.1)

theorem Keeps.drifts (keeps : store.Keeps pool held before) (drifts : store.Drifts before after) :
    store.Keeps pool held after := by
  have same (payload : Bytes) (kind : ContentKind) :=
    drifts (store.place payload kind) (below_place payload kind)
  constructor
  · intro payload inside kind
    rw [same]
    exact keeps.whole payload inside kind
  · intro entry member
    rw [same]
    exact keeps.holds entry member

theorem Keeps.cons (keeps : store.Keeps pool held disk) (inside : payload ∈ pool)
    (there : disk (store.place payload kind) = some (.file payload)) :
    store.Keeps pool ((payload, kind) :: held) disk := by
  refine ⟨keeps.whole, fun entry member => ?_⟩
  rcases List.mem_cons.mp member with rfl | member
  · exact ⟨inside, there⟩
  · exact keeps.holds entry member

theorem Keeps.of_subset {fewer : List (Bytes × ContentKind)} (keeps : store.Keeps pool held disk)
    (among : fewer ⊆ held) : store.Keeps pool fewer disk :=
  ⟨keeps.whole, fun entry member => keeps.holds entry (among member)⟩

theorem stable_keeps : store.world.Stable (store.Keeps pool held) :=
  fun _ _ keeps drifts => keeps.drifts drifts

def Stored {α : Type} (store : DirectoryStore) (pool : Set Bytes)
    (held objects : List (Bytes × ContentKind)) (answer : α) (outcome : Except StorageFault α)
    (disk : Disk) : Prop :=
  store.Keeps pool held disk ∧ ∀ found, outcome = .ok found →
    found = answer ∧ store.Keeps pool (objects ++ held) disk

section Stored

variable {α : Type} {objects : List (Bytes × ContentKind)} {answer : α}

theorem stable_stored (outcome : Except StorageFault α) :
    store.world.Stable (store.Stored pool held objects answer outcome) := by
  rintro before after ⟨keeps, returned⟩ drifts
  refine ⟨keeps.drifts drifts, fun found same => ?_⟩
  obtain ⟨told, there⟩ := returned found same
  exact ⟨told, there.drifts drifts⟩

theorem done_safe {outcome : Except StorageFault α}
    (stored : store.Stored pool held objects answer outcome disk) :
    Job.Safe store.world (store.Keeps pool held) (store.Stored pool held objects answer)
      (.done outcome) disk :=
  .done store.world (stable_stored outcome) (fun _ stored => stored.1) stored

theorem Keeps.failed (keeps : store.Keeps pool held disk) (fault : StorageFault) :
    store.Stored pool held objects answer (.error fault) disk :=
  ⟨keeps, nofun⟩

theorem Keeps.stored (keeps : store.Keeps pool held disk)
    (there : store.Keeps pool (objects ++ held) disk) :
    store.Stored pool held objects answer (.ok answer) disk := by
  refine ⟨keeps, ?_⟩
  rintro found ⟨⟩
  exact ⟨rfl, there⟩

end Stored

section Apart

variable (apart : Set.InjOn Digest.sha256 pool)

include apart

theorem eq_of_place_eq {other : Bytes} {kind' : ContentKind} (inside : payload ∈ pool)
    (inside' : other ∈ pool) (same : store.place payload kind = store.place other kind') :
    payload = other ∧ kind = kind' := by
  rw [place_eq, place_eq] at same
  obtain ⟨digests, kinds⟩ := objectKey_injective (String.append_right_inj _ |>.mp same)
  exact ⟨apart inside inside' digests, kinds⟩

theorem Replaces.object {reply : Except SystemFault Unit} (inside : payload ∈ pool)
    (replaces : store.Replaces (store.place payload kind) payload before reply after)
    {other : Bytes} (inside' : other ∈ pool) (kind' : ContentKind) :
    after (store.place other kind') = before (store.place other kind') ∨
      after (store.place other kind') = some (.file other) := by
  by_cases same : store.place other kind' = store.place payload kind
  · obtain ⟨rfl, rfl⟩ := eq_of_place_eq apart inside' inside same
    exact replaces.target
  · exact Or.inl (replaces.others _ (below_place other kind') same
      (store.place_not_aside payload kind other kind'))

theorem Keeps.replaces {reply : Except SystemFault Unit} (keeps : store.Keeps pool held before)
    (inside : payload ∈ pool)
    (replaces : store.Replaces (store.place payload kind) payload before reply after) :
    store.Keeps pool held after := by
  constructor
  · intro other inside' kind'
    rcases replaces.object apart inside inside' kind' with same | whole
    · rw [same]
      exact keeps.whole other inside' kind'
    · exact Or.inr whole
  · intro entry member
    obtain ⟨inside', there⟩ := keeps.holds entry member
    rcases replaces.object apart inside inside' entry.2 with same | whole
    · exact ⟨inside', same.trans there⟩
    · exact ⟨inside', whole⟩

theorem store_safe (inside : payload ∈ pool) (keeps : store.Keeps pool held disk) :
    Job.Safe store.world (store.Keeps pool held)
      (store.Stored pool held [(payload, kind)] (store.locator (objectKey payload kind)))
      (store.store payload kind) disk := by
  refine .call stable_keeps (fun _ => id) ?_ keeps
  rintro before reply after keeps ⟨rfl, truthful⟩
  match reply, truthful with
  | .error fault, _ => exact done_safe (keeps.failed _)
  | .ok (some found), truthful =>
      -- What is there already is the payload, since nothing else has that name.
      have present := truthful _ rfl
      refine done_safe (keeps.stored (keeps.cons inside ?_))
      rcases keeps.whole payload inside kind with missing | there
      · change some found = (after (store.place payload kind)).map Node.kind at present
        rw [missing] at present
        cases present
      · exact there
  | .ok none, _ =>
      refine .call stable_keeps (fun _ => id) ?_ keeps
      intro before reply after keeps replaces
      have kept := keeps.replaces apart inside replaces
      match reply, replaces with
      | .error fault, _ => exact done_safe (kept.failed _)
      | .ok (), replaces => exact done_safe (kept.stored (kept.cons inside (replaces.done rfl)))

end Apart

end DirectoryStore

end Cadastre
