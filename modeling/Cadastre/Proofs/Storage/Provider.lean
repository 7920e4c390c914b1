import Cadastre.Proofs.Job.World
import Cadastre.Storage.Provider
import Mathlib.Data.List.Forall2

/-!
What a provider's success means. Whatever the machine answers, pairs that are stored come back in
order, each with its key, with its manifest naming the stored image, and with an address.
-/

namespace Cadastre

namespace Job

variable {S : Signature} {ε α β : Type}

theorem yields_ok_bind (first : ExceptT ε (Job S) α) (second : α → ExceptT ε (Job S) β)
    (value : β) :
    (first >>= second).run.Yields (.ok value) ↔
      ∃ found, first.run.Yields (.ok found) ∧ (second found).run.Yields (.ok value) := by
  change (Job.bind first.run (ExceptT.bindCont second)).Yields (.ok value) ↔ _
  rw [yields_bind]
  constructor
  · rintro ⟨outcome, one, other⟩
    cases outcome with
    | ok found => exact ⟨found, one, other⟩
    | error fault => cases other
  · rintro ⟨found, one, other⟩
    exact ⟨.ok found, one, other⟩

theorem yields_ok_pure (found value : α) :
    (pure found : ExceptT ε (Job S) α).run.Yields (.ok value) ↔ found = value := by
  change Except.ok found = Except.ok value ↔ _
  rw [Except.ok.injEq]

end Job

theorem Url.join_ne_empty (base path : String) : Url.join base path ≠ "" := by
  intro empty
  have chars := congrArg String.toList empty
  simp [Url.join] at chars

structure UploadedPair.Stores (uploaded : UploadedPair) (pair : PreparedPair) : Prop where
  key : uploaded.key = pair.key
  manifest : uploaded.manifest = pair.manifest.withImage uploaded.image
  link : uploaded.link ≠ ""

theorem UploadedPair.Stores.name {uploaded : UploadedPair} {pair : PreparedPair}
    (stores : uploaded.Stores pair) : uploaded.manifest.name = pair.manifest.name := by
  rw [stores.manifest]
  rfl

section Payloads

variable {S : Signature} {store : StorePayload S}

def StorePayload.Addresses (store : StorePayload S) : Prop :=
  ∀ payload kind link, (store payload kind).Yields (.ok link) → link ≠ ""

theorem PreparedPair.stores_of_upload (addresses : store.Addresses) {pair : PreparedPair}
    {uploaded : UploadedPair} (yields : (pair.upload store).Yields (.ok uploaded)) :
    uploaded.Stores pair := by
  rw [PreparedPair.upload, Job.yields_ok_bind] at yields
  obtain ⟨image, _, yields⟩ := yields
  rw [Job.yields_ok_bind] at yields
  obtain ⟨link, linked, yields⟩ := yields
  rw [Job.yields_ok_pure] at yields
  subst yields
  exact ⟨rfl, rfl, addresses _ _ _ linked⟩

theorem PreparedPair.stores_of_uploadAll (addresses : store.Addresses)
    {pairs : List PreparedPair} {uploaded : List UploadedPair}
    (yields : (uploadAll store pairs).Yields (.ok uploaded)) :
    List.Forall₂ UploadedPair.Stores uploaded pairs := by
  rw [uploadAll] at yields
  induction pairs generalizing uploaded with
  | nil =>
      rw [List.mapM_nil, Job.yields_ok_pure] at yields
      subst yields
      exact .nil
  | cons pair rest ih =>
      rw [List.mapM_cons, Job.yields_ok_bind] at yields
      obtain ⟨first, stored, yields⟩ := yields
      rw [Job.yields_ok_bind] at yields
      obtain ⟨others, more, yields⟩ := yields
      rw [Job.yields_ok_pure] at yields
      subst yields
      exact .cons (stores_of_upload addresses stored) (ih more)

end Payloads

theorem IpfsStore.addresses (store : IpfsStore) : StorePayload.Addresses store.store := by
  intro payload kind link yields
  obtain ⟨outcome, _, found⟩ := (Job.yields_bind _ _ _).mp yields
  change (Http.checked "ipfs" outcome).bind store.locator = .ok link at found
  cases checked : Http.checked "ipfs" outcome with
  | error fault => simp [checked, Except.bind] at found
  | ok response =>
      simp only [checked, Except.bind, locator] at found
      split at found
      · cases found
        exact Url.join_ne_empty _ _
      · cases found

theorem S3Store.addresses (store : S3Store) : StorePayload.Addresses store.store := by
  intro payload kind link yields
  obtain ⟨outcome, _, found⟩ := (Job.yields_bind _ _ _).mp yields
  cases outcome with
  | error reason => cases found
  | ok done =>
      have same : Except.ok _ = Except.ok link := found
      cases same
      exact Url.join_ne_empty _ _

theorem DirectoryStore.locator_ne_empty (store : DirectoryStore) (key : String) :
    store.locator key ≠ "" := by
  rw [locator]
  split
  · exact Url.join_ne_empty _ _
  · intro empty
    have chars := congrArg String.toList empty
    simp at chars

theorem DirectoryStore.addresses (store : DirectoryStore) :
    StorePayload.Addresses store.store := by
  intro payload kind link yields
  obtain ⟨outcome, _, found⟩ := (Job.yields_bind _ _ _).mp yields
  match outcome, found with
  | .error fault, found => cases found
  | .ok (some present), found =>
      have same : Except.ok _ = Except.ok link := found
      cases same
      exact store.locator_ne_empty _
  | .ok none, found =>
      obtain ⟨replaced, _, found⟩ := (Job.yields_bind _ _ _).mp found
      cases replaced with
      | error fault => cases found
      | ok done =>
          have same : Except.ok _ = Except.ok link := found
          cases same
          exact store.locator_ne_empty _

theorem ObjectStore.addresses (store : ObjectStore) : StorePayload.Addresses store.store := by
  cases store with
  | ipfs store => exact store.addresses
  | s3 store => exact store.addresses
  | directory store => exact store.addresses

theorem BundleClient.stores_of_storeBatch (client : BundleClient) {pairs : List PreparedPair}
    {uploaded : List UploadedPair}
    (yields : (client.storeBatch pairs).Yields (.ok uploaded)) :
    List.Forall₂ UploadedPair.Stores uploaded pairs := by
  rw [storeBatch] at yields
  split at yields
  · cases yields
  · obtain ⟨outcome, _, found⟩ := (Job.yields_bind _ _ _).mp yields
    have arranged : (Http.checked "bundler" outcome).map
        (fun _ => (pairs.map client.arrange).map Prod.fst) = .ok uploaded := found
    cases checked : Http.checked "bundler" outcome with
    | error fault => simp [checked, Except.map] at arranged
    | ok response =>
        simp only [checked, Except.map, List.map_map, Except.ok.injEq] at arranged
        subst arranged
        rw [List.forall₂_map_left_iff, List.forall₂_same]
        intro pair _
        exact ⟨rfl, rfl, Url.join_ne_empty _ _⟩

theorem Provider.stores_of_storePairs (provider : Provider) {pairs : List PreparedPair}
    {uploaded : List UploadedPair}
    (yields : (provider.storePairs pairs).Yields (.ok uploaded)) :
    List.Forall₂ UploadedPair.Stores uploaded pairs := by
  cases provider with
  | bundled client => exact client.stores_of_storeBatch yields
  | unbundled store => exact PreparedPair.stores_of_uploadAll store.addresses yields

end Cadastre
