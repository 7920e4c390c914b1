import Cadastre.Pipeline.Source
import Mathlib.Data.List.Basic

/-!
What a directory holds. An index has a pair just if both of its files are listed, each index has
one pair at most, and the pairs of a partition are those that lie there.
-/

namespace Cadastre.Source

def Complete (entries : List DirectoryEntry) (index : GlobalIndex) : Prop :=
  ∀ kind, ∃ entry ∈ entries, classify? entry.name = some (index, kind)

def Halves.half (halves : Halves) : ContentKind → Option DirectoryEntry
  | .image => halves.image
  | .metadata => halves.metadata

theorem Halves.half_put (halves : Halves) (entry : DirectoryEntry) (kind other : ContentKind) :
    (halves.put entry kind).half other = if kind = other then some entry else halves.half other := by
  cases kind <;> cases other <;> simp [put, half]

def half? (found : Found) (index : GlobalIndex) (kind : ContentKind) : Option DirectoryEntry :=
  (found[index]?.getD {}).half kind

theorem half?_note (found : Found) (entry : DirectoryEntry) (index : GlobalIndex)
    (kind : ContentKind) :
    half? (note found entry) index kind =
      if classify? entry.name = some (index, kind) then some entry else half? found index kind := by
  unfold note
  cases classified : classify? entry.name with
  | none => simp
  | some place =>
      obtain ⟨other, part⟩ := place
      simp only [half?, Std.ExtTreeMap.getElem?_insert, Std.compare_eq_iff_eq, Option.some.injEq,
        Prod.mk.injEq]
      by_cases same : other = index
      · subst same
        simp [Halves.half_put]
      · simp [same]

theorem half?_foldl (entries : List DirectoryEntry) (found : Found) (index : GlobalIndex)
    (kind : ContentKind) :
    half? (entries.foldl note found) index kind =
      (entries.reverse.find? fun entry => classify? entry.name = some (index, kind)).or
        (half? found index kind) := by
  induction entries generalizing found with
  | nil => simp
  | cons entry rest ih =>
      rw [List.foldl_cons, ih, half?_note, List.reverse_cons, List.find?_append, Option.or_assoc]
      by_cases here : classify? entry.name = some (index, kind)
      · simp [here]
      · simp [here]

theorem half?_listed (entries : List DirectoryEntry) (index : GlobalIndex) (kind : ContentKind) :
    half? (entries.foldl note ∅) index kind =
      entries.reverse.find? fun entry => classify? entry.name = some (index, kind) := by
  have empty : half? ∅ index kind = none := by
    cases kind <;> simp [half?, Halves.half]
  rw [half?_foldl, empty, Option.or_none]

theorem key_of_pair? {dir : String} {index : GlobalIndex} {halves : Halves} {pair : FilePair}
    (made : halves.pair? dir index = some pair) : pair.key = index := by
  unfold Halves.pair? at made
  split at made
  · cases made
    rfl
  · cases made

theorem pair?_eq_some_iff {dir : String} {index : GlobalIndex} {halves : Halves}
    {pair : FilePair} :
    halves.pair? dir index = some pair ↔ ∃ image metadata,
      halves.half .image = some image ∧ halves.half .metadata = some metadata ∧
        pair = ⟨index, Path.join dir image.name, Path.join dir metadata.name,
          image.size + metadata.size⟩ := by
  obtain ⟨image, metadata⟩ := halves
  cases image with
  | none => simp [Halves.pair?, Halves.half]
  | some image =>
      cases metadata with
      | none => simp [Halves.pair?, Halves.half]
      | some metadata => simp [Halves.pair?, Halves.half, eq_comm]

theorem mem_pairs_iff (dir : String) (entries : List DirectoryEntry) (pair : FilePair) :
    pair ∈ pairs dir entries ↔ ∃ image metadata,
      half? (entries.foldl note ∅) pair.key .image = some image ∧
        half? (entries.foldl note ∅) pair.key .metadata = some metadata ∧
          pair = ⟨pair.key, Path.join dir image.name, Path.join dir metadata.name,
            image.size + metadata.size⟩ := by
  simp only [pairs, List.mem_filterMap, Prod.exists, Std.ExtTreeMap.mem_toList_iff_getElem?_eq_some]
  constructor
  · rintro ⟨index, halves, found, made⟩
    obtain ⟨image, metadata, one, other, rfl⟩ := pair?_eq_some_iff.mp made
    exact ⟨image, metadata, by rw [half?, found]; exact one, by rw [half?, found]; exact other, rfl⟩
  · rintro ⟨image, metadata, one, other, made⟩
    cases found : (entries.foldl note ∅)[pair.key]? with
    | none =>
        rw [half?, found] at one
        cases one
    | some halves =>
        rw [half?, found] at one other
        exact ⟨pair.key, halves, found, pair?_eq_some_iff.mpr ⟨image, metadata, one, other, made⟩⟩

theorem exists_pair_iff (dir : String) (entries : List DirectoryEntry) (index : GlobalIndex) :
    (∃ pair ∈ pairs dir entries, pair.key = index) ↔ Complete entries index := by
  have listed : ∀ kind, (∃ entry, half? (entries.foldl note ∅) index kind = some entry) ↔
      ∃ entry ∈ entries, classify? entry.name = some (index, kind) := by
    intro kind
    rw [half?_listed, ← Option.isSome_iff_exists, List.find?_isSome]
    simp
  constructor
  · rintro ⟨pair, member, rfl⟩ kind
    obtain ⟨image, metadata, one, other, _⟩ := (mem_pairs_iff dir entries pair).mp member
    apply (listed kind).mp
    cases kind with
    | image => exact ⟨image, one⟩
    | metadata => exact ⟨metadata, other⟩
  · intro both
    obtain ⟨image, one⟩ := (listed .image).mpr (both .image)
    obtain ⟨metadata, other⟩ := (listed .metadata).mpr (both .metadata)
    exact ⟨_, (mem_pairs_iff dir entries ⟨index, _, _, _⟩).mpr ⟨image, metadata, one, other, rfl⟩,
      rfl⟩

theorem ascending_pairs (dir : String) (entries : List DirectoryEntry) :
    (pairs dir entries).Pairwise fun one other => one.key < other.key := by
  refine List.Pairwise.filterMap _ ?_ Std.ExtTreeMap.ordered_keys_toList
  intro one other before pair made pair' made'
  rw [key_of_pair? made, key_of_pair? made']
  exact Std.compare_eq_lt.mp before

theorem pairwise_pairs (dir : String) (entries : List DirectoryEntry) :
    (pairs dir entries).Pairwise fun one other => one.key ≠ other.key :=
  (ascending_pairs dir entries).imp fun before => UInt64.ne_of_lt before

variable {remapper : Remapper} {partition : Partition} {pairs candidates : List FilePair}

theorem inPartition_cons {first : FilePair} {rest : List FilePair}
    (found : inPartition remapper partition (first :: rest) = .ok candidates) :
    (inPartition remapper partition rest = .ok candidates ∧
      ∀ key, remapper.locate first.key ≠ .ok (partition, key)) ∨
    ∃ key others, remapper.locate first.key = .ok (partition, key) ∧
      inPartition remapper partition rest = .ok others ∧ candidates = first :: others := by
  simp only [inPartition, Remapper.partitionOf] at found
  split at found
  · rename_i outside
    refine Or.inl ⟨found, fun key lies => ?_⟩
    simp [Remapper.locate, outside] at lies
  · cases located : remapper.locate first.key with
    | error fault => simp [located, Except.map] at found
    | ok place =>
        obtain ⟨lies, key⟩ := place
        simp only [located, Except.map] at found
        split at found
        · rename_i same
          subst same
          cases more : inPartition remapper lies rest with
          | error fault => simp [more] at found
          | ok others =>
              simp only [more, Except.ok.injEq] at found
              exact Or.inr ⟨key, others, rfl, rfl, found.symm⟩
        · rename_i different
          refine Or.inl ⟨found, fun key lies' => ?_⟩
          cases lies'
          exact different rfl

theorem inPartition_sublist
    (found : inPartition remapper partition pairs = .ok candidates) :
    candidates.Sublist pairs := by
  induction pairs generalizing candidates with
  | nil =>
      cases found
      exact .slnil
  | cons first rest ih =>
      rcases inPartition_cons found with ⟨passed, _⟩ | ⟨_, others, _, more, rfl⟩
      · exact (ih passed).cons first
      · exact (ih more).cons_cons first

theorem mem_inPartition_iff
    (found : inPartition remapper partition pairs = .ok candidates) (pair : FilePair) :
    pair ∈ candidates ↔
      pair ∈ pairs ∧ ∃ key, remapper.locate pair.key = .ok (partition, key) := by
  induction pairs generalizing candidates with
  | nil =>
      cases found
      simp
  | cons first rest ih =>
      rcases inPartition_cons found with ⟨passed, elsewhere⟩ | ⟨at', others, located, more, rfl⟩
      · rw [ih passed, List.mem_cons]
        constructor
        · rintro ⟨later, lies⟩
          exact ⟨Or.inr later, lies⟩
        · rintro ⟨rfl | later, key, lies⟩
          · exact absurd lies (elsewhere key)
          · exact ⟨later, key, lies⟩
      · rw [List.mem_cons, List.mem_cons, ih more]
        constructor
        · rintro (rfl | ⟨later, place⟩)
          · exact ⟨Or.inl rfl, at', located⟩
          · exact ⟨Or.inr later, place⟩
        · rintro ⟨rfl | later, place⟩
          · exact Or.inl rfl
          · exact Or.inr ⟨later, place⟩

end Cadastre.Source
