import Cadastre.Proofs.Pipeline.Depositing
import Cadastre.Proofs.Pipeline.Latitude

/-!
Boundaries between the groups of an upload: the partition's entry in the cache file is the one that
the upload started from with the first groups entered in full, one for each save that was made.
Looks leave an upload at a boundary, and so does a save.
-/

namespace Cadastre

namespace Site

/-- The last thing a provider replied, if it is about a group that is not on record. -/
abbrev Loose := Option (Except StorageFault (List UploadedPair))

/-- How things stand when the first groups are on record, those that a provider stored so. -/
structure Boundary (pipeline : Pipeline) (handle : PartitionHandle) (groups : List (List FilePair))
    (start : Journal) (stored : List (List UploadedPair)) (grown : Record) (loose : Loose)
    (state : Journal) : Prop where
  short : stored.length ≤ groups.length
  keys : stored.map (List.map UploadedPair.key)
    = (groups.take stored.length).map (List.map FilePair.key)
  recorded : Pipeline.recordPairs pipeline.remapper handle.record stored.flatten = .ok grown
  fills : handle.record.Fills pipeline.remapper stored.flatten grown
  saves : state.past.length = start.past.length + stored.length
  deliveries : state.deliveries = start.deliveries ++ stored.map .ok ++ loose.toList
  unchanged : stored = [] → state.cache = start.cache
  written : stored ≠ [] → ∃ members : Json.Members,
    state.cache = some (Text.utf8 (Json.object members).write) ∧
      members.get? handle.partition.tag = some grown.toJson.sorted
  tells : pipeline.cache.Tells start.cache handle.partition handle.record →
    pipeline.cache.Tells state.cache handle.partition grown

end Site

theorem ProgressCache.exists_of_save {cache : ProgressCache} {contents : Option Bytes}
    {partition : Partition} {record : Record} {bytes : Bytes}
    (saved : cache.save contents partition record = .ok bytes) :
    ∃ members : Json.Members, bytes = Text.utf8 (Json.object members).write ∧
      members.get? partition.tag = some record.toJson.sorted := by
  unfold save at saved
  cases read : cache.members contents with
  | error fault => simp [read, bind, Except.bind] at saved
  | ok members =>
      simp only [read, bind, Except.bind, Except.ok.injEq] at saved
      exact ⟨_, saved.symm, get?_withRecord_self members partition record⟩

namespace Pipeline

theorem recordPairs_append (remapper : Remapper) (record : Record)
    (first second : List UploadedPair) :
    recordPairs remapper record (first ++ second)
      = (recordPairs remapper record first).bind fun grown =>
        recordPairs remapper grown second := by
  induction first generalizing record with
  | nil => rfl
  | cons pair rest ih =>
      rw [List.cons_append, recordPairs, recordPairs]
      cases remapper.locate pair.key with
      | error fault => rfl
      | ok place =>
          obtain ⟨partition, key⟩ := place
          dsimp only
          rcases record.recordUpload key pair.link pair.manifest.name with ⟨fault | done, next⟩
          · rfl
          · exact ih next

end Pipeline

namespace Site.Boundary

variable {pipeline : Pipeline} {handle : PartitionHandle} {groups : List (List FilePair)}
  {start state after : Journal} {stored : List (List UploadedPair)} {grown : Record}
  {loose : Loose} {exchange : Exchange} {group : List FilePair} {uploaded : List UploadedPair}

theorem initial (pipeline : Pipeline) (handle : PartitionHandle) (groups : List (List FilePair))
    (start : Journal) : Boundary pipeline handle groups start [] handle.record none start where
  short := Nat.zero_le _
  keys := rfl
  recorded := rfl
  fills := Pipeline.fills_of_recordPairs rfl
  saves := rfl
  deliveries := by simp
  unchanged := fun _ => rfl
  written := fun filled => absurd rfl filled
  tells := id

theorem hear (stood : Boundary pipeline handle groups start stored grown loose state)
    (unasked : exchange.delivery? = none) :
    Boundary pipeline handle groups start stored grown loose (state.hear exchange) :=
  { stood with
    deliveries := by
      rw [Journal.deliveries_hear, unasked, stood.deliveries, Option.toList_none, List.append_nil] }

theorem quiet (stood : Boundary pipeline handle groups start stored grown loose state)
    (quiet : state.Quiet after) :
    Boundary pipeline handle groups start stored grown loose after :=
  quiet.keeps (fun _ _ unasked stood => hear stood unasked) stood

theorem deliver (stood : Boundary pipeline handle groups start stored grown none state)
    (prepared : List PreparedPair) (reply : Except StorageFault (List UploadedPair)) :
    Boundary pipeline handle groups start stored grown (some reply)
      (state.hear ⟨.storePairs prepared, reply⟩) :=
  { stood with
    deliveries := by
      rw [Journal.deliveries_hear, stood.deliveries, Option.toList_none, List.append_nil]
      rfl }

theorem stores {latitude : Latitude}
    (stood : Boundary pipeline handle groups start stored grown none state)
    (stores : latitude.Stores group uploaded state after) :
    Boundary pipeline handle groups start stored grown (some (.ok uploaded)) after := by
  obtain ⟨between, prepared, gathers, _, quiet⟩ := stores
  exact ((stood.quiet gathers.quiet).deliver prepared (.ok uploaded)).quiet quiet

theorem save {entered : Record} {bytes : Bytes}
    (stood : Boundary pipeline handle groups start stored grown (some (.ok uploaded)) state)
    (next : groups[stored.length]? = some group)
    (keys : uploaded.map UploadedPair.key = group.map FilePair.key)
    (recorded : Pipeline.recordPairs pipeline.remapper grown uploaded = .ok entered)
    (saved : pipeline.cache.save state.cache handle.partition entered = .ok bytes) :
    Boundary pipeline handle groups start (stored ++ [uploaded]) entered none
      (state.save bytes) := by
  have whole : Pipeline.recordPairs pipeline.remapper handle.record (stored ++ [uploaded]).flatten
      = .ok entered := by
    rw [List.flatten_append, List.flatten_singleton, Pipeline.recordPairs_append, stood.recorded]
    exact recorded
  have bound : stored.length < groups.length := (List.getElem?_eq_some_iff.mp next).1
  constructor
  · rw [List.length_append, List.length_singleton]
    omega
  · rw [List.length_append, List.length_singleton, List.take_add_one, next, List.map_append,
      List.map_append, stood.keys]
    simp [keys]
  · exact whole
  · exact Pipeline.fills_of_recordPairs whole
  · have saves := stood.saves
    simp only [Journal.save, List.length_append, List.length_singleton]
    omega
  · simp [stood.deliveries]
  · intro none
    simp at none
  · intro _
    obtain ⟨members, rfl, entry⟩ := ProgressCache.exists_of_save saved
    exact ⟨members, rfl, entry⟩
  · intro told
    obtain ⟨found, same, renews⟩ := (stood.tells told).save entered
    rw [saved] at same
    cases same
    exact renews.tells

theorem length_flatten (stood : Boundary pipeline handle groups start stored grown loose state) :
    stored.flatten.length = (groups.take stored.length).flatten.length := by
  have keys := congrArg (fun lists => lists.flatten.length) stood.keys
  simpa only [← List.map_flatten, List.length_map] using keys

end Site.Boundary

end Cadastre
