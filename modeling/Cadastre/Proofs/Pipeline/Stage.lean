import Cadastre.Proofs.Pipeline.Conduct
import Cadastre.Proofs.Pipeline.Latitude
import Cadastre.Proofs.Pipeline.Trial

/-!
Stages: sites that stand still but for what is done on them, so that a run on one is computed. A
stage has its files, it stores pairs under locators that depend on the pairs alone, and it does
every registry write; a provider may refuse the groups with some pair.
-/

namespace Cadastre

abbrev Locators : Type := GlobalIndex → Bytes → Manifest → Locator × Locator

def PreparedPair.storedUnder (locators : Locators) (pair : PreparedPair) : UploadedPair :=
  let (image, link) := locators pair.key pair.image pair.manifest
  ⟨pair.key, image, pair.manifest.withImage image, link⟩

namespace Site

structure Stage where
  entries : List DirectoryEntry
  files : List (String × Bytes)
  locators : Locators
  linked : ∀ index image manifest, (locators index image manifest).2 ≠ ""
  refused : List GlobalIndex := []
  handle : RegistryHandle := ⟨"0a", "registry-0a"⟩

namespace Stage

def conditions (stage : Stage) : Conditions where
  Lists := fun entries => entries = stage.entries
  Reads := fun path bytes => stage.files.lookup path = some bytes
  Delivers := fun prepared uploaded =>
    uploaded = prepared.map (PreparedPair.storedUnder stage.locators)
  SavesFail := False
  stores := by
    rintro prepared _ rfl
    rw [List.forall₂_map_left_iff, List.forall₂_same]
    exact fun pair _ => ⟨rfl, rfl, stage.linked _ _ _⟩

def storePairs (stage : Stage) (pairs : List PreparedPair) :
    Except StorageFault (List UploadedPair) :=
  if pairs.any fun pair => stage.refused.contains pair.key then .error (.io "refused")
  else .ok (pairs.map (PreparedPair.storedUnder stage.locators))

def answer (stage : Stage) : (request : Call) → Diary → Answer request × Diary
  | .readCache, diary => (.ok diary.cache, diary)
  | .replaceCache contents, diary => (.ok (), diary.save contents)
  | .listAssets, diary => (.ok stage.entries, diary)
  | .readAsset path, diary =>
    (match stage.files.lookup path with
      | some bytes => .ok bytes
      | none => .error "missing", diary)
  | .storePairs pairs, diary => (stage.storePairs pairs, diary)
  | .register _ _, diary => (.ok stage.handle, diary.note (.opened stage.handle))
  | .startAppend append, diary => ((), diary.note (.begun append))
  | .awaitAppend _ rest, diary => ((Site.foremost rest, .ok ()), diary)
  | .now, diary => ({ seconds := 0 }, diary)

def perform {α : Type} (stage : Stage) (work : Work α) (diary : Diary) :
    Except PipelineFault α × Diary :=
  work.run.follow (S := Site) stage.answer diary

theorem answers_answer (stage : Stage) (request : Call) (diary : Diary) :
    stage.conditions.Answers request diary (stage.answer request diary).1
      (stage.answer request diary).2 := by
  cases request with
  | readCache =>
      refine ⟨rfl, fun contents same => ?_⟩
      cases same
      rfl
  | replaceCache contents => exact rfl
  | listAssets =>
      refine ⟨rfl, fun entries same => ?_⟩
      cases same
      rfl
  | readAsset path =>
      refine ⟨rfl, fun bytes same => ?_⟩
      simp only [answer] at same
      cases found : stage.files.lookup path with
      | none => simp [found] at same
      | some held =>
          rw [found] at same
          cases same
          exact found
  | storePairs pairs =>
      refine ⟨rfl, fun uploaded same => ?_⟩
      change stage.storePairs pairs = .ok uploaded at same
      unfold storePairs at same
      split at same
      · cases same
      · cases same
        rfl
  | register capacity defaults => exact ⟨diary.ledger, rfl⟩
  | startAppend append => exact ⟨diary.ledger, rfl⟩
  | awaitAppend first rest => exact ⟨diary.ledger, rfl⟩
  | now => exact rfl

theorem leads_perform {α : Type} (stage : Stage) (work : Work α) (diary : Diary) :
    Job.Leads (openWorld stage.conditions) work.run diary (.done (stage.perform work diary).1)
      (stage.perform work diary).2 := by
  have asked : ∀ request state, Job.Leads (openWorld stage.conditions) (Job.ask (S := Site) request) state
      (.done (stage.answer request state).1) (stage.answer request state).2 :=
    fun request state => .ask (stage.answers_answer request state)
  exact Job.leads_follow asked work.run diary

/-- How a call is answered when a journal is kept of it. -/
def jot (stage : Stage) (request : Call) (journal : Journal) : Answer request × Journal :=
  let reply := (stage.answer request { cache := journal.cache }).1
  let heard := journal.hear ⟨request, reply⟩
  (reply, match request with
    | .replaceCache contents => heard.save contents
    | _ => heard)

theorem answers_jot {latitude : Latitude} (stage : Stage) (lists : latitude.Lists stage.entries)
    (delivers : ∀ pairs uploaded, stage.storePairs pairs = .ok uploaded →
      latitude.Delivers pairs uploaded) (request : Call) (journal : Journal) :
    latitude.Answers request journal (stage.jot request journal).1
      (stage.jot request journal).2 := by
  cases request with
  | readCache =>
      refine ⟨rfl, fun contents same => ?_⟩
      cases same
      rfl
  | listAssets =>
      refine ⟨rfl, fun entries same => ?_⟩
      cases same
      exact lists
  | storePairs pairs => exact ⟨rfl, delivers pairs⟩
  | _ => exact rfl

def sample : Stage where
  entries := [⟨"0.png", 4⟩, ⟨"0.json", 45⟩, ⟨"1.png", 4⟩, ⟨"1.json", 45⟩]
  files := [("assets/0.png", [137]), ("assets/1.png", [138]),
    ("assets/0.json", Text.utf8 "\x7b\"name\":\"Land #0\",\"seller_fee_basis_points\":0\x7d"),
    ("assets/1.json", Text.utf8 "\x7b\"name\":\"Land #1\",\"seller_fee_basis_points\":0\x7d")]
  locators := fun index _ _ => ("image-" ++ toString index, "item-" ++ toString index)
  linked := by simp

def pipeline : Pipeline :=
  { Trial.pipeline with
    remapper := ⟨⟨2, 1, 2, 1⟩, .identity 2, ⟨by decide, by decide, by decide⟩, by decide +kernel⟩ }

end Stage

end Site

end Cadastre
