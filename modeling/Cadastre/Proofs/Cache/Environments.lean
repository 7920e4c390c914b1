import Cadastre.Proofs.Cache.LastWriter
import Cadastre.Proofs.Path

/-!
Caches of several environments in one directory. The environment and the name are joined by a hyphen
and may have hyphens themselves, so a file belongs to every pair that is cut from its name at one of
them. Caches of such pairs read each other's records; all others keep to themselves.
-/

namespace Cadastre

open Json

namespace CacheConfig

variable {config one other : CacheConfig}

/-- Whether the other's environment goes on with what begins this one's name. -/
def Shifts (one other : CacheConfig) : Prop :=
  ∃ middle, other.env = one.env ++ "-" ++ middle ∧ one.name = middle ++ "-" ++ other.name

def Overlaps (one other : CacheConfig) : Prop :=
  (one.env = other.env ∧ one.name = other.name) ∨ one.Shifts other ∨ other.Shifts one

def fileName (config : CacheConfig) : String := config.env ++ "-" ++ config.name

theorem nameFault?_eq_none {field name : String} (accepted : nameFault? field name = none) :
    name ≠ "" ∧ '/' ∉ name.toList := by
  unfold nameFault? at accepted
  split at accepted
  · cases accepted
  rename_i filled
  split at accepted
  · cases accepted
  rename_i plain
  constructor
  · rintro rfl
    exact filled rfl
  · intro slash
    exact plain (List.any_eq_true.mpr ⟨'/', slash, by decide⟩)

theorem isName_fileName (accepted : config.fault? = none) : Path.IsName config.fileName := by
  obtain ⟨env, name⟩ := Option.or_eq_none_iff.mp accepted
  have hyphen : '-' ∈ config.fileName.toList := by simp [fileName]
  constructor
  · intro slash
    simp only [fileName, String.toList_append, List.mem_append] at slash
    rcases slash with (inEnv | inHyphen) | inName
    · exact (nameFault?_eq_none env).2 inEnv
    · exact absurd inHyphen (by decide)
    · exact (nameFault?_eq_none name).2 inName
  · intro empty
    rw [empty] at hyphen
    exact absurd hyphen (by decide)
  · intro point
    rw [point] at hyphen
    exact absurd hyphen (by decide)

theorem shifts_iff : one.Shifts other ↔ ∃ middle,
    other.env.toList = one.env.toList ++ '-' :: middle ∧
      one.name.toList = middle ++ '-' :: other.name.toList := by
  constructor
  · rintro ⟨middle, env, name⟩
    exact ⟨middle.toList, by simp [env], by simp [name]⟩
  · rintro ⟨middle, env, name⟩
    refine ⟨.ofList middle, String.toList_inj.mp ?_, String.toList_inj.mp ?_⟩
    · simp [env]
    · simp [name]

theorem fileName_eq_iff : one.fileName = other.fileName ↔ one.Overlaps other := by
  have chars : ∀ config : CacheConfig,
      config.fileName.toList = config.env.toList ++ '-' :: config.name.toList := by
    intro config
    simp [fileName]
  rw [← String.toList_inj, chars, chars, Text.append_cons_eq_iff, Overlaps, shifts_iff, shifts_iff,
    String.toList_inj, String.toList_inj]

theorem overlaps_iff_of_plain (plain : '-' ∉ one.env.toList) (plain' : '-' ∉ other.env.toList) :
    one.Overlaps other ↔ one.env = other.env ∧ one.name = other.name := by
  constructor
  · rintro (same | ⟨middle, env, _⟩ | ⟨middle, env, _⟩)
    · exact same
    · exact absurd (by simp [env]) plain'
    · exact absurd (by simp [env]) plain
  · exact Or.inl

theorem place_filePath_eq_iff (accepted : one.fault? = none) (accepted' : other.fault? = none)
    (dirs : Path.place one.dir = Path.place other.dir) :
    Path.place one.filePath = Path.place other.filePath ↔ one.Overlaps other := by
  rw [← fileName_eq_iff]
  exact (isName_fileName accepted).place_join_eq_iff (isName_fileName accepted') dirs

end CacheConfig

theorem ProgressCache.ofConfig_eq_ok_iff {config : CacheConfig} {cache : ProgressCache} :
    ofConfig config = .ok cache ↔
      config.fault? = none ∧ cache = ⟨config.filePath, config.env, config.name⟩ := by
  unfold ofConfig
  cases config.fault? with
  | some fault => simp
  | none => simp [eq_comm]

structure CacheFiles where
  held : Path.Place → Option Bytes

namespace CacheFiles

open CacheCall

variable {files : CacheFiles} {cache : ProgressCache} {calls : List (ProgressCache × CacheCall)}

def contents (files : CacheFiles) (cache : ProgressCache) : Option Bytes :=
  files.held (Path.place cache.path)

def call (files : CacheFiles) (made : ProgressCache × CacheCall) : CacheFiles :=
  ⟨Function.update files.held (Path.place made.1.path)
    (made.2.perform made.1 (files.contents made.1)).2⟩

def run (files : CacheFiles) (calls : List (ProgressCache × CacheCall)) : CacheFiles :=
  calls.foldl call files

def callsOf (cache : ProgressCache) (calls : List (ProgressCache × CacheCall)) : List CacheCall :=
  (calls.filter fun made => made.1 = cache).map Prod.snd

theorem run_append (made : ProgressCache × CacheCall) :
    files.run (calls ++ [made]) = (files.run calls).call made := by
  rw [run, List.foldl_append]
  rfl

theorem contents_call_of_same {made : ProgressCache × CacheCall}
    (same : Path.place made.1.path = Path.place cache.path) :
    (files.call made).contents cache = (made.2.perform made.1 (files.contents cache)).2 := by
  simp only [contents, call, same, Function.update_self]

theorem contents_call_of_ne {made : ProgressCache × CacheCall}
    (apart : Path.place made.1.path ≠ Path.place cache.path) :
    (files.call made).contents cache = files.contents cache :=
  Function.update_of_ne apart.symm _ _

theorem callsOf_append (made : ProgressCache × CacheCall) :
    callsOf cache (calls ++ [made])
      = if made.1 = cache then callsOf cache calls ++ [made.2] else callsOf cache calls := by
  rw [callsOf, List.filter_append, List.map_append]
  by_cases own : made.1 = cache
  · rw [if_pos own, List.filter_cons_of_pos (by simpa using own)]
    rfl
  · rw [if_neg own, List.filter_cons_of_neg (by simpa using own)]
    exact List.append_nil _

theorem contents_run_of_apart
    (apart : ∀ made ∈ calls, made.1 ≠ cache → Path.place made.1.path ≠ Path.place cache.path) :
    (files.run calls).contents cache
      = after cache (files.contents cache) (callsOf cache calls) := by
  induction calls using List.reverseRecOn with
  | nil => rfl
  | append_singleton calls made ih =>
      have before := ih fun earlier member => apart earlier (List.mem_append_left _ member)
      rw [run_append, callsOf_append]
      by_cases own : made.1 = cache
      · subst own
        rw [contents_call_of_same rfl, before, if_pos rfl, after_append]
      · rw [contents_call_of_ne (apart made (by simp) own), before, if_neg own]

theorem opens_run_of_shared {members : Members} (opens : cache.Opens (files.contents cache) members)
    (shared : ∀ made ∈ calls, Path.place made.1.path = Path.place cache.path) :
    ∃ held, cache.Opens ((files.run calls).contents cache) held ∧ ∀ partition : Partition,
      held.get? partition.tag
        = ((lastSaved (calls.map Prod.snd) partition).map fun record => record.toJson.sorted).or
            (members.get? partition.tag) := by
  induction calls using List.reverseRecOn with
  | nil => exact ⟨members, opens, fun _ => rfl⟩
  | append_singleton calls made ih =>
      obtain ⟨held, before, entries⟩ :=
        ih fun earlier member => shared earlier (List.mem_append_left _ member)
      obtain ⟨next, _⟩ := perform_of_opens (before.of_cache made.1) made.2
      refine ⟨made.2.change made.1 held, ?_, fun partition => ?_⟩
      · rw [run_append, contents_call_of_same (shared made (by simp))]
        exact next.of_cache cache
      · rw [List.map_append, List.map_singleton, lastSaved_append, get?_change_tag, entries,
          Option.map_or, Option.or_assoc]

end CacheFiles

open CacheCall in
/-- Configurations with the same directory that are accepted have one file just if their
environments and names overlap, which without a hyphen in the environments means that they are the
same. Caches that do not overlap find what their own calls have left, whatever the other does. The
calls of caches that overlap are as if they were those of one: each loads what the other saved. -/
theorem ProgressCache.one_file_iff_overlaps {one other : CacheConfig} {cache cache' : ProgressCache}
    (opened : ofConfig one = .ok cache) (opened' : ofConfig other = .ok cache')
    (dirs : Path.place one.dir = Path.place other.dir) :
    (Path.place one.filePath = Path.place other.filePath ↔ one.Overlaps other) ∧
    ('-' ∉ one.env.toList → '-' ∉ other.env.toList →
      (one.Overlaps other ↔ one.env = other.env ∧ one.name = other.name)) ∧
    ∀ (files : CacheFiles) (calls : List (ProgressCache × CacheCall)),
      (∀ made ∈ calls, made.1 = cache ∨ made.1 = cache') →
      ∀ reader, reader = cache ∨ reader = cache' →
      (¬ one.Overlaps other → (files.run calls).contents reader
        = after reader (files.contents reader) (CacheFiles.callsOf reader calls)) ∧
      (one.Overlaps other → ∀ members, HoldsObject (files.contents cache) members →
        (Json.object members).Lasting → ∀ partition,
          ((CacheCall.load partition).perform reader ((files.run calls).contents reader)).1
            = (lastSaved (calls.map Prod.snd) partition).elim (entryReply reader members partition)
                fun record => .ok (.loaded (some record))) := by
  obtain ⟨accepted, named⟩ := ofConfig_eq_ok_iff.mp opened
  obtain ⟨accepted', named'⟩ := ofConfig_eq_ok_iff.mp opened'
  have places : Path.place cache.path = Path.place cache'.path ↔ one.Overlaps other := by
    rw [named, named']
    exact CacheConfig.place_filePath_eq_iff accepted accepted' dirs
  refine ⟨CacheConfig.place_filePath_eq_iff accepted accepted' dirs,
    CacheConfig.overlaps_iff_of_plain, fun files calls makers reader reads => ?_⟩
  constructor
  · intro apart
    have different : Path.place cache.path ≠ Path.place cache'.path := mt places.mp apart
    apply CacheFiles.contents_run_of_apart
    intro made member foreign
    rcases makers made member with rfl | rfl
    · rcases reads with rfl | rfl
      · exact absurd rfl foreign
      · exact different
    · rcases reads with rfl | rfl
      · exact different.symm
      · exact absurd rfl foreign
  · intro overlaps members holds lasting partition
    have same : ∀ maker, maker = cache ∨ maker = cache' →
        Path.place maker.path = Path.place cache.path := by
      rintro maker (rfl | rfl)
      · rfl
      · exact (places.mpr overlaps).symm
    have opens := cache.opens_of_holdsObject holds lasting
    obtain ⟨held, opened, entries⟩ :=
      CacheFiles.opens_run_of_shared opens fun made member => same made.1 (makers made member)
    have found : (files.run calls).contents reader = (files.run calls).contents cache :=
      congrArg (files.run calls).held (same reader reads)
    rw [found, perform_load_of_entry (opened.of_cache reader).read (entries partition)]

theorem ProgressCache.mainnet_reads_beta :
    ∃ (one other : CacheConfig) (cache cache' : ProgressCache),
      ofConfig one = .ok cache ∧ ofConfig other = .ok cache' ∧ one.dir = other.dir ∧
      one.env = "mainnet" ∧ other.env = "mainnet-beta" ∧
      Path.place one.filePath = Path.place other.filePath ∧
      ∀ (partition : Partition) (record : Record),
        ((CacheCall.load partition).perform cache' (((CacheFiles.mk fun _ => none).run
          [(cache, .save partition record)]).contents cache')).1 = .ok (.loaded (some record)) := by
  let one : CacheConfig := { env := "mainnet", name := "beta-temp" }
  let other : CacheConfig := { env := "mainnet-beta", name := "temp" }
  have overlaps : one.Overlaps other := Or.inr (Or.inl ⟨"beta", rfl, rfl⟩)
  obtain ⟨cache, opened⟩ : ∃ cache, ofConfig one = .ok cache :=
    ⟨_, ofConfig_eq_ok_iff.mpr ⟨by decide, rfl⟩⟩
  obtain ⟨cache', opened'⟩ : ∃ cache, ofConfig other = .ok cache :=
    ⟨_, ofConfig_eq_ok_iff.mpr ⟨by decide, rfl⟩⟩
  obtain ⟨places, _, run⟩ := one_file_iff_overlaps opened opened' rfl
  refine ⟨one, other, cache, cache', opened, opened', rfl, rfl, rfl, places.mpr overlaps, ?_⟩
  intro partition record
  have read := run ⟨fun _ => none⟩ [(cache, .save partition record)] (by simp) cache' (Or.inr rfl)
  rw [read.2 overlaps [] rfl (by decide) partition]
  simp [CacheCall.lastSaved, CacheCall.recordFor]

end Cadastre
