import Cadastre.Pipeline.Source
import Cadastre.Proofs.Item.Manifest
import Cadastre.Proofs.Pipeline.Recognition
import Cadastre.Proofs.Storage.Holdings
import Cadastre.Proofs.Storage.Provider

/-!
Links of a directory store. Through any calls, each stopped wherever it may be, what a locator was
returned for stays where it points; a published manifest is found again as it was returned just if
writing spoils none of its numbers.
-/

namespace Cadastre

namespace DirectoryStore

inductive Request where
  | object (payload : Bytes) (kind : ContentKind)
  | upload (pair : PreparedPair)

namespace Request

def Answer : Request → Type
  | object _ _ => Locator
  | upload _ => UploadedPair

def job (store : DirectoryStore) :
    (request : Request) → Job Machine (Except StorageFault request.Answer)
  | object payload kind => store.store payload kind
  | upload pair => pair.upload store.store

end Request

def publish (store : DirectoryStore) (pair : PreparedPair) : UploadedPair :=
  let image := store.locator (objectKey pair.image .image)
  let manifest := pair.manifest.withImage image
  ⟨pair.key, image, manifest, store.locator (objectKey manifest.bytes .metadata)⟩

namespace Request

def answer (store : DirectoryStore) : (request : Request) → request.Answer
  | object payload kind => store.locator (objectKey payload kind)
  | upload pair => store.publish pair

def objects (store : DirectoryStore) : Request → List (Bytes × ContentKind)
  | object payload kind => [(payload, kind)]
  | upload pair => [((store.publish pair).manifest.bytes, .metadata), (pair.image, .image)]

end Request

section Safety

variable {store : DirectoryStore} {pool : Set Bytes} {held : List (Bytes × ContentKind)}
  {disk : Disk} (apart : Set.InjOn Digest.sha256 pool)

include apart

theorem upload_safe {pair : PreparedPair} (image : pair.image ∈ pool)
    (metadata : (store.publish pair).manifest.bytes ∈ pool) (keeps : store.Keeps pool held disk) :
    Job.Safe store.world (store.Keeps pool held)
      (store.Stored pool held ((Request.upload pair).objects store) (store.publish pair))
      (pair.upload store.store) disk := by
  refine Job.Safe.bind (store_safe apart image keeps) ?_
  rintro outcome after ⟨keeps, returned⟩
  match outcome, returned with
  | .error fault, _ => exact done_safe (keeps.failed _)
  | .ok link, returned =>
      obtain ⟨rfl, pictured⟩ := returned link rfl
      refine Job.Safe.bind ((store_safe apart metadata pictured).relax
        fun _ keeps => keeps.of_subset (List.subset_cons_self _ _)) ?_
      · rintro outcome after ⟨kept, returned⟩
        have kept := kept.of_subset (List.subset_cons_self _ _)
        match outcome, returned with
        | .error fault, _ => exact done_safe (kept.failed _)
        | .ok link, returned =>
            obtain ⟨rfl, whole⟩ := returned link rfl
            exact done_safe (kept.stored whole)

theorem Request.safe (request : Request)
    (inside : ∀ object ∈ request.objects store, object.1 ∈ pool)
    (keeps : store.Keeps pool held disk) :
    Job.Safe store.world (store.Keeps pool held)
      (store.Stored pool held (request.objects store) (request.answer store))
      (request.job store) disk := by
  cases request with
  | object payload kind =>
      have stored : payload ∈ pool := inside (payload, kind) List.mem_cons_self
      exact store_safe apart stored keeps
  | upload pair =>
      have metadata : (store.publish pair).manifest.bytes ∈ pool :=
        inside (_, .metadata) List.mem_cons_self
      have image : pair.image ∈ pool :=
        inside (_, .image) (List.mem_cons_of_mem _ List.mem_cons_self)
      exact upload_safe apart image metadata keeps

end Safety

structure Event where
  request : Request
  answer : request.Answer

structure Receipt where
  payload : Bytes
  kind : ContentKind
  locator : Locator

def Event.receipts : Event → List Receipt
  | ⟨.object payload kind, link⟩ => [⟨payload, kind, link⟩]
  | ⟨.upload pair, uploaded⟩ =>
    [⟨pair.image, .image, uploaded.image⟩, ⟨uploaded.manifest.bytes, .metadata, uploaded.link⟩]

def answered? {α : Type} : Job Machine (Except StorageFault α) → Option α
  | .done (.ok value) => some value
  | _ => none

/-- What a directory store may come to, and the requests that were answered on the way. The
directory is empty at first, all that is stored is in the pool, and each request may be left off at
any point. -/
inductive Course (store : DirectoryStore) (pool : Set Bytes) : Disk → List Event → Prop where
  | start {disk : Disk} :
      (∀ place, store.Below place → disk place = none) → Course store pool disk []
  | request {request : Request} {left : Job Machine (Except StorageFault request.Answer)}
      {before after : Disk} {events : List Event} : Course store pool before events →
        (∀ object ∈ request.objects store, object.1 ∈ pool) →
          Job.Leads store.world (request.job store) before left after →
            Course store pool after
              (events ++ ((answered? left).map fun answer => ⟨request, answer⟩).toList)

def object? (store : DirectoryStore) (disk : Disk) (link : Locator) : Option Node :=
  (store.path? link).bind disk

def manifest? (store : DirectoryStore) (disk : Disk) (link : Locator) : Option Manifest :=
  match store.object? disk link with
  | some (.file bytes) => (Manifest.read bytes).toOption
  | _ => none

end DirectoryStore

def PreparedPair.Loaded (pair : PreparedPair) : Prop :=
  ∃ files, (Source.load files).run.Yields (.ok pair)

namespace DirectoryStore.Course

variable {store : DirectoryStore} {pool : Set Bytes} {disk : Disk} {events : List Event}

theorem upholds (apart : Set.InjOn Digest.sha256 pool) (course : store.Course pool disk events) :
    store.Keeps pool (events.flatMap fun event => event.request.objects store) disk ∧
      ∀ event ∈ events, event.answer = event.request.answer store := by
  induction course with
  | start empty =>
      exact ⟨⟨fun payload _ kind => Or.inl (empty _ (below_place payload kind)), nofun⟩, nofun⟩
  | @request request left before after events course inside leads ih =>
      obtain ⟨keeps, answers⟩ := ih
      obtain ⟨kept, stored⟩ := request.safe apart inside keeps left after leads
      match left, stored with
      | .call asked next, _ => simpa [answered?] using ⟨kept, answers⟩
      | .done (.error fault), _ => simpa [answered?] using ⟨kept, answers⟩
      | .done (.ok answer), stored =>
          obtain ⟨rfl, whole⟩ := (stored _ rfl).2 answer rfl
          simp only [answered?, Option.map_some, Option.toList_some, List.flatMap_append,
            List.flatMap_singleton, List.forall_mem_append, List.forall_mem_singleton, and_true]
          exact ⟨whole.of_subset (by simp), answers⟩

theorem receipt_of_mem {event : Event} {receipt : Receipt}
    (told : event.answer = event.request.answer store) (listed : receipt ∈ event.receipts) :
    (receipt.payload, receipt.kind) ∈ event.request.objects store ∧
      receipt.locator = store.locator (objectKey receipt.payload receipt.kind) := by
  obtain ⟨request, answer⟩ := event
  obtain rfl : answer = request.answer store := told
  cases request with
  | object payload kind =>
      obtain rfl := List.mem_singleton.mp listed
      exact ⟨List.mem_cons_self, rfl⟩
  | upload pair =>
      rcases List.mem_cons.mp listed with rfl | listed
      · exact ⟨List.mem_cons_of_mem _ List.mem_cons_self, rfl⟩
      · obtain rfl := List.mem_singleton.mp listed
        exact ⟨List.mem_cons_self, rfl⟩

theorem held_of_receipt (apart : Set.InjOn Digest.sha256 pool)
    (course : store.Course pool disk events) {receipt : Receipt}
    (listed : receipt ∈ events.flatMap Event.receipts) :
    receipt.payload ∈ pool ∧
      receipt.locator = store.locator (objectKey receipt.payload receipt.kind) ∧
      store.object? disk receipt.locator = some (.file receipt.payload) := by
  obtain ⟨keeps, answers⟩ := course.upholds apart
  obtain ⟨event, returned, listed⟩ := List.mem_flatMap.mp listed
  obtain ⟨object, told⟩ := receipt_of_mem (answers event returned) listed
  obtain ⟨inside, there⟩ := keeps.holds _ (List.mem_flatMap.mpr ⟨event, returned, object⟩)
  refine ⟨inside, told, ?_⟩
  rw [object?, told, path?_locator]
  exact there

theorem locator_eq_iff (apart : Set.InjOn Digest.sha256 pool)
    (course : store.Course pool disk events) {first second : Receipt}
    (listed : first ∈ events.flatMap Event.receipts)
    (listed' : second ∈ events.flatMap Event.receipts) :
    first.locator = second.locator ↔
      first.payload = second.payload ∧ first.kind = second.kind := by
  obtain ⟨inside, told, _⟩ := held_of_receipt apart course listed
  obtain ⟨inside', told', _⟩ := held_of_receipt apart course listed'
  rw [told, told']
  constructor
  · intro same
    obtain ⟨digests, kinds⟩ := store.locator_injective same
    exact ⟨apart inside inside' digests, kinds⟩
  · rintro ⟨payloads, kinds⟩
    rw [payloads, kinds]

end DirectoryStore.Course

theorem Source.sound_of_load {files : FilePair} {pair : PreparedPair}
    (loaded : (load files).run.Yields (.ok pair)) : pair.manifest.Sound := by
  obtain ⟨image, _, loaded⟩ := (Job.yields_ok_bind _ _ _).mp loaded
  obtain ⟨manifest, described, loaded⟩ := (Job.yields_ok_bind _ _ _).mp loaded
  rw [Job.yields_ok_pure] at loaded
  subst loaded
  obtain ⟨bytes, _, read⟩ := (Job.yields_ok_bind _ _ _).mp described
  have accepted : (readManifest files bytes).mapError PipelineFault.core = .ok manifest := read
  cases checked : readManifest files bytes with
  | error fault => simp [checked, Except.mapError] at accepted
  | ok found =>
      rw [checked] at accepted
      cases accepted
      exact Manifest.sound_of_read ((readManifest_eq_ok_iff files bytes manifest).mp checked).1

namespace DirectoryStore.Course

variable {store : DirectoryStore} {pool : Set Bytes} {disk : Disk} {events : List Event}

/-- Every locator that was returned points at what it was returned for, and tells it from all
else. What a loaded pair was published under leads to its manifest as it was returned just if
writing spoils none of the numbers in it; its image is found where the manifest says. -/
theorem links_hold (apart : Set.InjOn Digest.sha256 pool) (course : store.Course pool disk events) :
    (∀ receipt ∈ events.flatMap Event.receipts,
      store.object? disk receipt.locator = some (.file receipt.payload)) ∧
    (∀ first ∈ events.flatMap Event.receipts, ∀ second ∈ events.flatMap Event.receipts,
      first.locator = second.locator ↔
        first.payload = second.payload ∧ first.kind = second.kind) ∧
    ∀ pair uploaded, ⟨.upload pair, uploaded⟩ ∈ events → pair.Loaded →
      uploaded.manifest.image = uploaded.image ∧
      uploaded.manifest.properties.files = [⟨"image/png", uploaded.image⟩] ∧
      store.object? disk uploaded.image = some (.file pair.image) ∧
      (store.manifest? disk uploaded.link = some uploaded.manifest ↔ pair.manifest.Lasting) := by
  refine ⟨fun receipt listed => (held_of_receipt apart course listed).2.2,
    fun first listed second listed' => locator_eq_iff apart course listed listed', ?_⟩
  intro pair uploaded returned loaded
  obtain ⟨files, loaded⟩ := loaded
  have published : uploaded = store.publish pair := (course.upholds apart).2 _ returned
  have listed (receipt : Receipt) (own : receipt ∈ Event.receipts ⟨.upload pair, uploaded⟩) :=
    (held_of_receipt apart course (List.mem_flatMap.mpr ⟨_, returned, own⟩)).2.2
  have image := listed ⟨pair.image, .image, uploaded.image⟩ List.mem_cons_self
  have metadata := listed ⟨uploaded.manifest.bytes, .metadata, uploaded.link⟩
    (List.mem_cons_of_mem _ List.mem_cons_self)
  have sound : uploaded.manifest.Sound := by
    rw [published]
    exact (Source.sound_of_load loaded).withImage _
  refine ⟨by rw [published]; rfl, by rw [published]; rfl, image, ?_⟩
  have lasting : uploaded.manifest.Lasting ↔ pair.manifest.Lasting := by
    rw [published]
    exact pair.manifest.lasting_withImage _
  rw [← lasting, ← sound.read_bytes_iff, manifest?, metadata]
  change (Manifest.read uploaded.manifest.bytes).toOption = some uploaded.manifest ↔ _
  generalize Manifest.read uploaded.manifest.bytes = outcome
  cases outcome <;> simp [Except.toOption]

end DirectoryStore.Course

/-! What happens to a manifest with a number that does not last. -/

namespace DirectoryStore

theorem leads_store {store : DirectoryStore} {payload : Bytes} {kind : ContentKind} {disk : Disk}
    (missing : disk (store.place payload kind) = none) :
    Job.Leads store.world (store.store payload kind) disk
      (.done (.ok (store.locator (objectKey payload kind))))
      (Function.update disk (store.place payload kind) (some (.file payload))) := by
  have looked : store.Answers (.kindOf (store.place payload kind)) disk (.ok none) disk :=
    ⟨rfl, fun found same => by rw [missing, ← Except.ok.inj same]; rfl⟩
  have written : store.Answers (.replaceFile (store.place payload kind) payload) disk (.ok ())
      (Function.update disk (store.place payload kind) (some (.file payload))) := by
    refine ⟨fun place _ other _ => ?_, Or.inr ?_, fun _ => ?_⟩
    · exact Function.update_of_ne other _ _
    · exact Function.update_self _ _ _
    · exact Function.update_self _ _ _
  refine .call looked ?_
  exact Job.Leads.call written (.rest _ _)

theorem leads_upload {store : DirectoryStore} (pair : PreparedPair) {disk : Disk}
    (empty : ∀ place, store.Below place → disk place = none) :
    ∃ after, Job.Leads store.world (pair.upload store.store) disk (.done (.ok (store.publish pair)))
      after := by
  have image := leads_store (empty _ (below_place pair.image .image))
  have missing : Function.update disk (store.place pair.image .image) (some (.file pair.image))
      (store.place (store.publish pair).manifest.bytes .metadata) = none := by
    rw [Function.update_of_ne, empty _ (below_place _ _)]
    intro same
    rw [place_eq, place_eq] at same
    exact absurd (objectKey_injective (String.append_right_inj _ |>.mp same)).2 (by decide)
  have metadata := leads_store missing
  exact ⟨_, (image.bind _).trans (metadata.bind _)⟩

end DirectoryStore

namespace DirectoryStore.Course

/-- A published number that is read as another: the pair's link leads to another manifest. -/
theorem spoiled_number_differs :
    ∃ (store : DirectoryStore) (pool : Set Bytes) (disk : Disk) (pair : PreparedPair)
      (uploaded : UploadedPair),
      Source.readManifest ⟨1, "1.png", "1.json", 63⟩ (Text.utf8
        "\x7b\"name\":\"Land #1\",\"seller_fee_basis_points\":0,\"weight\":5e49\x7d")
          = .ok pair.manifest ∧
      Set.InjOn Digest.sha256 pool ∧ store.Course pool disk [⟨.upload pair, uploaded⟩] ∧
      pair.Loaded ∧ store.object? disk uploaded.image = some (.file pair.image) ∧
      store.manifest? disk uploaded.link ≠ some uploaded.manifest := by
  let store : DirectoryStore := ⟨"/srv/objects", some "https://cdn.test/"⟩
  let files : FilePair := ⟨1, "1.png", "1.json", 63⟩
  let document := Text.utf8
    "\x7b\"name\":\"Land #1\",\"seller_fee_basis_points\":0,\"weight\":5e49\x7d"
  let image := Text.utf8 "img"
  have computed : (Source.readManifest files document).toOption.map (fun manifest =>
      decide manifest.Lasting || decide (Digest.sha256 image
        = Digest.sha256 (store.publish ⟨1, image, manifest⟩).manifest.bytes)) = some false := by
    decide +kernel
  cases accepted : Source.readManifest files document with
  | error fault => simp [accepted, Except.toOption] at computed
  | ok manifest =>
      simp only [accepted, Except.toOption, Option.map_some, Option.some.injEq,
        Bool.or_eq_false_iff, decide_eq_false_iff_not] at computed
      obtain ⟨spoiled, digests⟩ := computed
      let pair : PreparedPair := ⟨1, image, manifest⟩
      let pool : Set Bytes := {image, (store.publish pair).manifest.bytes}
      have apart : Set.InjOn Digest.sha256 pool := Set.injOn_pair.mpr fun same =>
        absurd same digests
      let empty : Disk := fun _ => none
      have cleared : ∀ place, store.Below place → empty place = none := fun _ _ => rfl
      obtain ⟨disk, leads⟩ := leads_upload pair cleared
      have inside : ∀ object ∈ (Request.upload pair).objects store, object.1 ∈ pool := by
        simp [Request.objects, pool, pair]
      have course : store.Course pool disk [⟨.upload pair, store.publish pair⟩] :=
        .request (.start cleared) inside leads
      have loaded : pair.Loaded := by
        refine ⟨files, .ok image, .ok document, ?_⟩
        change Job.Yields (ExceptT.run (Work.check (Source.readManifest files document) _ >>= _)) _
        rw [accepted]
        rfl
      have held := links_hold apart course
      obtain ⟨_, _, pictured, found⟩ := held.2.2 pair _ List.mem_cons_self loaded
      exact ⟨store, pool, disk, pair, store.publish pair, rfl, apart, course, loaded, pictured,
        fun same => spoiled (found.mp same)⟩

end DirectoryStore.Course

end Cadastre
