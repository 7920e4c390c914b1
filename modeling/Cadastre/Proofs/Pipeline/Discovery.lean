import Cadastre.Proofs.Grid.Enumeration
import Cadastre.Proofs.Item.Index
import Cadastre.Proofs.Pipeline.Source
import Cadastre.Proofs.Text.Parts
import Mathlib.Data.List.Pairwise

/-!
Finding the items of a directory. What is found depends on the files alone and not on the order in
which they are listed, and every pair inside the grid is a candidate of one partition.
-/

namespace Cadastre.Source

/-- The digits of an index, whatever zeros lead, and the extension of a half in letters of any
case. -/
def Spells (name : String) (index : GlobalIndex) (kind : ContentKind) : Prop :=
  ∃ digits extension, name.toList = digits ++ '.' :: extension ∧ digits ≠ [] ∧
    digits.all Char.isDigit = true ∧ Nat.ofDigitChars 10 digits 0 = index.toNat ∧
    extension.map Char.toLower = kind.extension.toList

theorem splitName_eq {name : String} {stem extension : List Char}
    (parts : name.toList = stem ++ '.' :: extension) (filled : stem ≠ [])
    (plain : '.' ∉ extension) : splitName name = (.ofList stem, some (.ofList extension)) := by
  have reversed : name.toList.reverse = extension.reverse ++ '.' :: stem.reverse := by
    rw [parts]
    simp
  obtain ⟨start, behind⟩ := Text.takeWhile_ne_of_plain
    (fun member => plain (List.mem_reverse.mp member)) stem.reverse
  rw [← reversed] at start behind
  unfold splitName
  dsimp only
  rw [start, behind, List.reverse_reverse]
  cases last : stem.reverse with
  | nil => exact absurd (List.reverse_eq_nil_iff.mp last) filled
  | cons c rest => simp only [← last, List.reverse_reverse]

theorem toList_of_splitName {name stem extension : String}
    (split : splitName name = (stem, some extension)) :
    name.toList = stem.toList ++ '.' :: extension.toList := by
  unfold splitName at split
  dsimp only at split
  split at split
  · cases split
  · cases split
  · rename_i behind
    cases split
    have back := congrArg List.reverse (Text.parts_of_dropWhile_ne behind).1
    simpa using back

theorem stemIndex?_eq_some_iff (stem : String) (index : GlobalIndex) :
    stemIndex? stem = some index ↔ stem.toList ≠ [] ∧ stem.toList.all Char.isDigit = true ∧
      Nat.ofDigitChars 10 stem.toList 0 = index.toNat := by
  unfold stemIndex?
  by_cases empty : stem = ""
  · simp [empty]
  · have filled : stem.toList ≠ [] := by
      intro none
      exact empty (String.toList_inj.mp none)
    by_cases all : stem.toList.all Char.isDigit = true
    · have read := Item.readUInt64?_normalizeIndex_iff ⟨filled, all⟩ index
      simp [empty, all, read, Text.decimalValue]
    · simp [all]

theorem kindOf?_eq_some_iff (extension : String) (kind : ContentKind) :
    kindOf? extension = some kind ↔
      extension.toList.map Char.toLower = kind.extension.toList := by
  unfold kindOf?
  have apart : ContentKind.image.extension.toList ≠ ContentKind.metadata.extension.toList := by
    decide
  by_cases image : extension.toList.map Char.toLower = ContentKind.image.extension.toList
  · cases kind with
    | image => simp [image]
    | metadata => simp [image, apart]
  · by_cases metadata : extension.toList.map Char.toLower = ContentKind.metadata.extension.toList
    · cases kind with
      | image => simp [metadata, apart.symm]
      | metadata => simp [metadata, apart.symm]
    · cases kind with
      | image => simp [image, metadata]
      | metadata => simp [image, metadata]

theorem point_not_mem_of_extension {extension : List Char} {kind : ContentKind}
    (spelled : extension.map Char.toLower = kind.extension.toList) : '.' ∉ extension := by
  intro member
  have lower : Char.toLower '.' ∈ extension.map Char.toLower := List.mem_map_of_mem member
  rw [spelled] at lower
  cases kind with
  | image => exact absurd lower (by decide)
  | metadata => exact absurd lower (by decide)

theorem classify?_eq_some_iff (name : String) (index : GlobalIndex) (kind : ContentKind) :
    classify? name = some (index, kind) ↔ Spells name index kind := by
  constructor
  · intro classified
    unfold classify? at classified
    split at classified
    · cases classified
    · rename_i stem extension parts
      split at classified
      · rename_i found half named kinded
        cases classified
        obtain ⟨filled, all, value⟩ := (stemIndex?_eq_some_iff stem index).mp named
        exact ⟨stem.toList, extension.toList, toList_of_splitName parts, filled, all, value,
          (kindOf?_eq_some_iff extension kind).mp kinded⟩
      · cases classified
  · rintro ⟨digits, extension, parts, filled, all, value, spelled⟩
    have named : stemIndex? (.ofList digits) = some index := by
      rw [stemIndex?_eq_some_iff, String.toList_ofList]
      exact ⟨filled, all, value⟩
    have kinded : kindOf? (.ofList extension) = some kind := by
      rw [kindOf?_eq_some_iff, String.toList_ofList]
      exact spelled
    simp only [classify?, splitName_eq parts filled (point_not_mem_of_extension spelled), named,
      kinded]

def Apart (one other : DirectoryEntry) : Prop :=
  ∀ index kind, Spells one.name index kind → ¬ Spells other.name index kind

instance : Std.Symm Apart where
  symm _ _ apart index kind spelled spelled' := apart index kind spelled' spelled

def Unambiguous (entries : List DirectoryEntry) : Prop := entries.Pairwise Apart

def ShownAt (site : (request : Site.Call) → Id (Site.Answer request))
    (entries : List DirectoryEntry) : Prop :=
  site .listAssets = Except.ok entries

/-- The pairs that files make up, each once and by index. -/
structure Discovers (dir : String) (entries : List DirectoryEntry) (found : List FilePair) :
    Prop where
  ascending : found.Pairwise fun one other => one.key < other.key
  complete : ∀ index, (∃ pair ∈ found, pair.key = index) ↔
    (∃ entry ∈ entries, Spells entry.name index .image) ∧
      ∃ entry ∈ entries, Spells entry.name index .metadata
  files : ∀ pair ∈ found, ∃ image ∈ entries, ∃ metadata ∈ entries,
    Spells image.name pair.key .image ∧ Spells metadata.name pair.key .metadata ∧
      pair.image = Path.join dir image.name ∧ pair.metadata = Path.join dir metadata.name ∧
      pair.size = image.size + metadata.size

/-- The candidates of each partition: those inside the grid go to one partition each, where they
have keys of their own. -/
structure Places (remapper : Remapper) (found : List FilePair)
    (placed : Partition → List FilePair) : Prop where
  ascending : ∀ partition, (placed partition).Pairwise fun one other => one.key < other.key
  members : ∀ partition pair, pair ∈ placed partition ↔
    pair ∈ found ∧ remapper.partitionOf pair.key = .ok partition
  inside : ∀ pair ∈ found, pair.key < remapper.layout.totalCells →
    ∃! partition, remapper.layout.contains partition = true ∧ pair ∈ placed partition
  outside : ∀ pair ∈ found, remapper.layout.totalCells ≤ pair.key →
    ∀ partition, pair ∉ placed partition
  apart : ∀ partition, (placed partition).Pairwise fun one other => ∀ key,
    remapper.locate one.key = .ok (partition, key) → remapper.locate other.key ≠ .ok (partition, key)

section Listing

variable {entries listing : List DirectoryEntry} {index : GlobalIndex} {kind : ContentKind}
  {dir : String} {pair : FilePair}

theorem Unambiguous.eq (unambiguous : Unambiguous entries) {one other : DirectoryEntry}
    (first : one ∈ entries) (second : other ∈ entries) (spelled : Spells one.name index kind)
    (spelled' : Spells other.name index kind) : one = other := by
  by_contra different
  exact List.Pairwise.forall unambiguous first second different index kind spelled spelled'

theorem Unambiguous.half?_eq_some_iff (unambiguous : Unambiguous entries)
    (entry : DirectoryEntry) : half? (entries.foldl note ∅) index kind = some entry ↔
      entry ∈ entries ∧ Spells entry.name index kind := by
  rw [half?_listed]
  constructor
  · intro found
    have named := List.find?_some found
    rw [decide_eq_true_eq, classify?_eq_some_iff] at named
    exact ⟨List.mem_reverse.mp (List.mem_of_find?_eq_some found), named⟩
  · rintro ⟨member, spelled⟩
    have present : (entries.reverse.find? fun entry =>
        decide (classify? entry.name = some (index, kind))).isSome = true := by
      rw [List.find?_isSome]
      refine ⟨entry, List.mem_reverse.mpr member, ?_⟩
      rw [decide_eq_true_eq, classify?_eq_some_iff]
      exact spelled
    obtain ⟨other, found⟩ := Option.isSome_iff_exists.mp present
    have named := List.find?_some found
    rw [decide_eq_true_eq, classify?_eq_some_iff] at named
    have listed := List.mem_reverse.mp (List.mem_of_find?_eq_some found)
    rw [found, unambiguous.eq listed member named spelled]

theorem Unambiguous.mem_pairs_iff (unambiguous : Unambiguous entries) :
    pair ∈ pairs dir entries ↔ ∃ image ∈ entries, ∃ metadata ∈ entries,
      Spells image.name pair.key .image ∧ Spells metadata.name pair.key .metadata ∧
        pair = ⟨pair.key, Path.join dir image.name, Path.join dir metadata.name,
          image.size + metadata.size⟩ := by
  simp only [Source.mem_pairs_iff, unambiguous.half?_eq_some_iff]
  constructor
  · rintro ⟨image, metadata, ⟨first, spelled⟩, ⟨second, spelled'⟩, made⟩
    exact ⟨image, first, metadata, second, spelled, spelled', made⟩
  · rintro ⟨image, first, metadata, second, spelled, spelled', made⟩
    exact ⟨image, metadata, ⟨first, spelled⟩, ⟨second, spelled'⟩, made⟩

theorem Unambiguous.perm (unambiguous : Unambiguous entries) (same : listing.Perm entries) :
    Unambiguous listing :=
  (same.pairwise_iff fun apart => symm apart).mpr unambiguous

theorem nodup_of_ascending {found : List FilePair}
    (ascending : found.Pairwise fun one other => one.key < other.key) : found.Nodup := by
  apply ascending.imp
  rintro one other before rfl
  exact UInt64.lt_irrefl _ before

theorem Unambiguous.pairs_eq (unambiguous : Unambiguous entries) (dir : String)
    (same : listing.Perm entries) : pairs dir listing = pairs dir entries := by
  have first := ascending_pairs dir listing
  have second := ascending_pairs dir entries
  refine List.Perm.eq_of_pairwise ?_ first second ?_
  · intro one other _ _ before after
    exact absurd after (UInt64.lt_asymm before)
  · rw [List.perm_ext_iff_of_nodup (nodup_of_ascending first) (nodup_of_ascending second)]
    intro pair
    simp only [(unambiguous.perm same).mem_pairs_iff, unambiguous.mem_pairs_iff, same.mem_iff]

theorem Unambiguous.discovers (unambiguous : Unambiguous entries) (dir : String) :
    Discovers dir entries (pairs dir entries) where
  ascending := ascending_pairs dir entries
  complete := by
    intro index
    rw [exists_pair_iff]
    simp only [Complete, classify?_eq_some_iff]
    constructor
    · intro both
      exact ⟨both .image, both .metadata⟩
    · rintro ⟨image, metadata⟩ kind
      cases kind with
      | image => exact image
      | metadata => exact metadata
  files := by
    intro pair member
    obtain ⟨image, first, metadata, second, spelled, spelled', made⟩ :=
      unambiguous.mem_pairs_iff.mp member
    refine ⟨image, first, metadata, second, spelled, spelled', ?_, ?_, ?_⟩ <;> rw [made]

variable {site : (request : Site.Call) → Id (Site.Answer request)}

theorem scan_run (shown : ShownAt site entries) :
    (scan dir).run.run site = .ok (pairs dir entries) := by
  have asked : (scan dir).run.run site = (fun reply : Except String (List DirectoryEntry) =>
      (do
        let entries ← Work.check reply (PipelineFault.source dir)
        pure (pairs dir entries) : Work (List FilePair)).run.run site) (site .listAssets) := rfl
  rw [asked, shown]
  rfl

theorem candidates_run {remapper : Remapper} {partition : Partition} {found : List FilePair}
    (shown : ShownAt site entries)
    (placed : inPartition remapper partition (pairs dir entries) = .ok found) :
    (candidates dir remapper partition).run.run site = .ok found := by
  have asked : (candidates dir remapper partition).run.run site =
      (fun reply : Except String (List DirectoryEntry) =>
        (do
          let pairs ← (do
            let entries ← Work.check reply (PipelineFault.source dir)
            pure (pairs dir entries) : Work (List FilePair))
          Work.check (inPartition remapper partition pairs) PipelineFault.core :
            Work (List FilePair)).run.run site) (site .listAssets) := rfl
  have checked : Work.check (inPartition remapper partition (pairs dir entries)) PipelineFault.core
      = pure found := by
    rw [placed]
    rfl
  rw [asked, shown]
  change (Work.check (inPartition remapper partition (pairs dir entries))
    PipelineFault.core).run.run site = _
  rw [checked]
  rfl

end Listing

theorem exists_inPartition (remapper : Remapper) (partition : Partition) (found : List FilePair) :
    ∃ candidates, inPartition remapper partition found = .ok candidates := by
  induction found with
  | nil => exact ⟨[], rfl⟩
  | cons pair rest ih =>
      obtain ⟨candidates, placed⟩ := ih
      unfold inPartition
      by_cases outside : remapper.layout.totalCells ≤ pair.key
      · exact ⟨candidates, by rw [if_pos outside, placed]⟩
      · obtain ⟨⟨lies, key⟩, located⟩ := Remapper.locate_of_lt (UInt64.not_le.mp outside)
        have found := Remapper.partitionOf_eq_ok_iff.mpr ⟨key, located⟩
        rw [if_neg outside, found, placed]
        by_cases same : lies = partition
        · exact ⟨pair :: candidates, by simp [same, Except.map]⟩
        · exact ⟨candidates, by simp [same]⟩

theorem places_of_inPartition {remapper : Remapper} (numbered : remapper.layout.Numbered)
    {found : List FilePair} (ascending : found.Pairwise fun one other => one.key < other.key)
    {placed : Partition → List FilePair}
    (each : ∀ partition, inPartition remapper partition found = .ok (placed partition)) :
    Places remapper found placed := by
  have members : ∀ partition pair, pair ∈ placed partition ↔
      pair ∈ found ∧ remapper.partitionOf pair.key = .ok partition := by
    intro partition pair
    rw [mem_inPartition_iff (each partition), Remapper.partitionOf_eq_ok_iff]
  have sorted : ∀ partition, (placed partition).Pairwise fun one other => one.key < other.key :=
    fun partition => ascending.sublist (inPartition_sublist (each partition))
  refine ⟨sorted, members, ?_, ?_, ?_⟩
  · intro pair member inside
    obtain ⟨⟨partition, key⟩, located⟩ := Remapper.locate_of_lt inside
    have lies := Remapper.partitionOf_eq_ok_iff.mpr ⟨key, located⟩
    refine ⟨partition, ⟨(Remapper.globalIndex_of_locate numbered located).1,
      (members partition pair).mpr ⟨member, lies⟩⟩, ?_⟩
    rintro other ⟨_, listed⟩
    have lies' := ((members other pair).mp listed).2
    rw [lies, Except.ok.injEq] at lies'
    exact lies'.symm
  · intro pair member outside partition listed
    obtain ⟨key, located⟩ := Remapper.partitionOf_eq_ok_iff.mp ((members partition pair).mp listed).2
    exact absurd (Remapper.lt_of_locate located) (UInt64.not_lt.mpr outside)
  · intro partition
    apply (sorted partition).imp
    intro one other before key located located'
    have same := Remapper.locate_injective numbered located located'
    rw [same] at before
    exact UInt64.lt_irrefl _ before

/-- In whatever order the files of a directory are listed, the same pairs are found, and the same
of them are candidates of each partition, as long as no two files stand for the same half. -/
theorem discovery_exact {remapper : Remapper} (numbered : remapper.layout.Numbered) (dir : String)
    {entries : List DirectoryEntry} (unambiguous : Unambiguous entries) :
    ∃ (found : List FilePair) (placed : Partition → List FilePair),
      (∀ listing site, listing.Perm entries → ShownAt site listing →
        (scan dir).run.run site = .ok found ∧
        ∀ partition, (candidates dir remapper partition).run.run site = .ok (placed partition)) ∧
      Discovers dir entries found ∧ Places remapper found placed := by
  choose placed each using fun partition =>
    exists_inPartition remapper partition (pairs dir entries)
  refine ⟨pairs dir entries, placed, ?_, unambiguous.discovers dir,
    places_of_inPartition numbered (ascending_pairs dir entries) each⟩
  intro listing site same shown
  have found := unambiguous.pairs_eq dir same
  constructor
  · rw [scan_run shown, found]
  · intro partition
    apply candidates_run shown
    rw [found]
    exact each partition

def showing (entries : List DirectoryEntry) :
    (request : Site.Call) → Id (Site.Answer request)
  | .listAssets => Except.ok entries
  | .readCache => Except.ok none
  | .replaceCache _ => Except.error "closed"
  | .readAsset _ => Except.error "closed"
  | .storePairs _ => Except.error (.provider "closed")
  | .register _ _ => Except.error (.rejected "closed")
  | .startAppend _ => ()
  | .awaitAppend _ rest => (Site.foremost rest, .error (.rejected "closed"))
  | .now => ⟨0, 0⟩

theorem unambiguous_of_classify? {entries : List DirectoryEntry}
    (apart : entries.Pairwise fun one other =>
      classify? one.name = none ∨ classify? one.name ≠ classify? other.name) :
    Unambiguous entries := by
  apply apart.imp
  intro one other different index kind spelled spelled'
  rw [← classify?_eq_some_iff] at spelled spelled'
  rw [spelled, spelled'] at different
  simp at different

/-- Padded and capital names, a file without its other half, files that are no items, and a pair
beyond the grid, listed from the last to the first. -/
theorem discovery_of_nine_files : ∃ (remapper : Remapper) (entries : List DirectoryEntry),
    remapper.layout = ⟨6, 4, 2, 2⟩ ∧ remapper.layout.Numbered ∧ Unambiguous entries ∧
      entries.map DirectoryEntry.name = ["005.png", "notes.json", "5.JSON", "14.json", "+14.png",
        "0014.PnG", "31.png", "31.json", "6.png"] ∧
      ShownAt (showing entries.reverse) entries.reverse ∧
      (scan "assets").run.run (showing entries.reverse) = .ok
        [⟨5, "assets/005.png", "assets/5.JSON", 43⟩, ⟨14, "assets/0014.PnG", "assets/14.json", 54⟩,
          ⟨31, "assets/31.png", "assets/31.json", 2⟩] ∧
      (candidates "assets" remapper ⟨1, 1⟩).run.run (showing entries.reverse) = .ok
        [⟨14, "assets/0014.PnG", "assets/14.json", 54⟩] := by
  let permutation : Permutation := ⟨#[2, 0, 3, 1], #[1, 3, 0, 2], by decide, by decide⟩
  let remapper : Remapper :=
    ⟨⟨6, 4, 2, 2⟩, permutation, ⟨by decide, by decide, by decide⟩, by decide⟩
  let entries : List DirectoryEntry := [⟨"005.png", 3⟩, ⟨"notes.json", 2⟩, ⟨"5.JSON", 40⟩,
    ⟨"14.json", 50⟩, ⟨"+14.png", 9⟩, ⟨"0014.PnG", 4⟩, ⟨"31.png", 1⟩, ⟨"31.json", 1⟩, ⟨"6.png", 7⟩]
  have numbered : remapper.layout.Numbered := ⟨by decide, by decide, by decide⟩
  have unambiguous : Unambiguous entries := unambiguous_of_classify? (by decide +kernel)
  obtain ⟨found, placed, runs, _, _⟩ := discovery_exact numbered "assets" unambiguous
  obtain ⟨scanned, listed⟩ := runs entries (showing entries) (.refl _) rfl
  obtain ⟨scanned', listed'⟩ := runs entries.reverse (showing entries.reverse)
    (List.reverse_perm _) rfl
  have made : pairs "assets" entries = [⟨5, "assets/005.png", "assets/5.JSON", 43⟩,
      ⟨14, "assets/0014.PnG", "assets/14.json", 54⟩, ⟨31, "assets/31.png", "assets/31.json", 2⟩] := by
    decide +kernel
  have inside : inPartition remapper ⟨1, 1⟩ (pairs "assets" entries) = .ok
      [⟨14, "assets/0014.PnG", "assets/14.json", 54⟩] := by
    rw [made]
    decide
  have shown : ShownAt (showing entries) entries := rfl
  refine ⟨remapper, entries, rfl, numbered, unambiguous, rfl, rfl, ?_, ?_⟩
  · rw [scanned', ← scanned, scan_run shown, made]
  · rw [listed', ← listed, candidates_run shown inside]

end Cadastre.Source
