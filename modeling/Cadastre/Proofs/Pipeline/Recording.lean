import Cadastre.Proofs.Item.Batch
import Cadastre.Proofs.Pipeline.Books
import Cadastre.Proofs.Pipeline.Operations
import Cadastre.Proofs.Pipeline.Recognition
import Cadastre.Proofs.Pipeline.Source

/-!
What is to be uploaded, and how it is recorded. The groups are the pending pairs put into batches;
a pair that is not pending is recorded at its local key, and so is one that was stored.
-/

namespace Cadastre

namespace Pipeline

theorem flatten_of_groupsOf {pipeline : Pipeline} {pending : List FilePair}
    {groups : List (List FilePair)} (grouped : pipeline.groupsOf pending = .ok groups) :
    groups.flatten = pending := by
  rw [groupsOf] at grouped
  split at grouped
  · unfold Batch.plan at grouped
    split at grouped
    · cases grouped
    · cases grouped
      exact Batch.flatten_pack _ _ _ _
  · cases grouped
    rw [← List.flatMap_def, List.flatMap_singleton']

theorem not_isTransition_of_groupsOf {pipeline : Pipeline} {pending : List FilePair}
    {fault : Fault} (failed : pipeline.groupsOf pending = .error fault) :
    ¬ (PipelineFault.core fault).IsTransition := by
  rw [groupsOf] at failed
  split at failed
  · unfold Batch.plan at failed
    split at failed
    · cases failed
      rintro ⟨key, before, after, same⟩
      cases same
    · cases failed
  · cases failed

end Pipeline

def FilePair.RecordedIn (remapper : Remapper) (partition : Partition) (record : Record)
    (pair : FilePair) : Prop :=
  ∃ key item, remapper.locate pair.key = .ok (partition, key) ∧ record.get? key = some item ∧
    item.link ≠ "" ∧ Item.numberInName? item.name = some pair.key

section

variable {remapper : Remapper} {partition : Partition} {record grown : Record} {pair : FilePair}
  {terms : Site.Terms}

theorem FilePair.RecordedIn.grows (recorded : pair.RecordedIn remapper partition record)
    (grows : record.GrowsTo remapper partition grown) :
    pair.RecordedIn remapper partition grown := by
  obtain ⟨key, item, located, held, stored⟩ := recorded
  exact ⟨key, item, located, grows.kept key item held, stored⟩

namespace Record

theorem recordedIn_of_completed
    (placed : ∀ key item, record.get? key = some item → item.Placed remapper partition key)
    (completed : record.completedKeys.contains (toString pair.key) = true) :
    pair.RecordedIn remapper partition record := by
  obtain ⟨key, item, held, filled, named⟩ := (contains_completedKeys_iff _ _).mp completed
  obtain ⟨_, index, number, located⟩ := placed key item held
  have same : Item.numberInName? item.name = some pair.key := by
    rw [Item.nameKey?] at named
    rw [Item.numberInName?, named, Option.bind_some, Text.readUInt64?_toString]
  rw [same] at number
  cases number
  exact ⟨key, item, located, held, filled, same⟩

theorem growsTo_put {key : LocalKey} {item : Item} (vacant : record.get? key = none)
    (placed : item.Placed remapper partition key) (unchained : item.onChain = false) :
    record.GrowsTo remapper partition (record.put key item) := by
  refine ⟨rfl, fun other found held => get?_put_of_vacant vacant held, fun other found held => ?_⟩
  rcases get?_put_cases held with ⟨rfl, rfl⟩ | earlier
  · exact Or.inr ⟨unchained, placed⟩
  · exact Or.inl earlier

end Record

theorem Manifest.numberInName?_of_shows {manifest : Manifest}
    (shows' : Source.Shows terms pair manifest) :
    Item.numberInName? manifest.name = some pair.key := by
  obtain ⟨bytes, _, read⟩ := shows'
  exact ((Source.readManifest_eq_ok_iff pair bytes manifest).mp read).2

namespace Pipeline

theorem recordPairs_grows {group : List FilePair} {uploaded : List UploadedPair}
    (stored : List.Forall₂ (FilePair.StoredAs terms) group uploaded)
    (inside : ∀ pair ∈ group, ∃ key, remapper.locate pair.key = .ok (partition, key))
    (placed : ∀ key item, record.get? key = some item → item.Placed remapper partition key)
    (recorded : recordPairs remapper record uploaded = .ok grown) :
    record.GrowsTo remapper partition grown ∧
      ∀ pair ∈ group, pair.RecordedIn remapper partition grown := by
  induction stored generalizing record with
  | nil =>
      cases recorded
      exact ⟨.refl _, nofun⟩
  | @cons pair first rest others as more ih =>
      obtain ⟨key, located⟩ := inside pair List.mem_cons_self
      obtain ⟨manifest, shown, named⟩ := as.name
      have number := Manifest.numberInName?_of_shows shown
      rw [recordPairs, as.key, located] at recorded
      rcases step : record.recordUpload key first.link first.manifest.name with
        ⟨fault | done, next⟩
      · simp [step] at recorded
      · simp only [step] at recorded
        obtain ⟨vacant, filled, rfl⟩ := (Record.recordUpload_eq_ok_iff _ _ _ _ _).mp step
        have none : record.get? key = none := by
          cases held : record.get? key with
          | none => rfl
          | some item =>
              rw [held] at vacant
              exact absurd vacant (placed key item held).1
        rw [none] at recorded
        let item : Item := ⟨first.link, first.manifest.name, false⟩
        have placed' : item.Placed remapper partition key :=
          ⟨filled, pair.key, (congrArg Item.numberInName? named).trans number, located⟩
        have grows := Record.growsTo_put none placed' rfl
        obtain ⟨grows', all⟩ := ih
          (fun other member => inside other (List.mem_cons_of_mem _ member))
          (fun other item held => by
            rcases grows.fresh other item held with earlier | fresh
            · exact placed other item earlier
            · exact fresh.2) recorded
        refine ⟨grows.trans grows', fun other member => ?_⟩
        rcases List.mem_cons.mp member with rfl | later
        · exact ⟨key, _, located, grows'.kept key _ (Record.get?_put_self _ _ _), filled,
            by rw [named, number]⟩
        · exact all other later

end Pipeline

end

end Cadastre
