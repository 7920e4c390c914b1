import Cadastre.Proofs.Path
import Cadastre.Proofs.Storage.Naming
import Cadastre.Proofs.Storage.Posting
import Cadastre.Storage.S3
import Mathlib.Data.List.DropRight

/-!
Objects in a bucket against their locators. A payload is put once, under its key; the locator that
is returned has the same key in it if and only if keys do not begin with a slash, which they do
where the prefix is empty or begins with one itself. Then no locator leads to an object.
-/

namespace Cadastre

namespace Url

theorem startsWith_slash_trimLeadingSlashes (part : String) :
    (trimLeadingSlashes part).startsWith "/" = false := by
  rw [← Bool.not_eq_true, Path.startsWith_slash_iff, trimLeadingSlashes, String.toList_ofList]
  intro slash
  have first := List.head?_dropWhile_not (· = '/') part.toList
  rw [slash] at first
  exact absurd first (by decide)

theorem trimLeadingSlashes_eq_self_iff (part : String) :
    trimLeadingSlashes part = part ↔ part.startsWith "/" = false := by
  constructor
  · intro same
    rw [← same]
    exact startsWith_slash_trimLeadingSlashes part
  · exact trimLeadingSlashes_of_relative

theorem startsWith_slash_trimTrailingSlashes (text rest : String) :
    (trimTrailingSlashes text ++ "/" ++ rest).startsWith "/" = true ↔
      text = "" ∨ text.startsWith "/" = true := by
  have chars : (trimTrailingSlashes text ++ "/" ++ rest).toList
      = text.toList.rdropWhile (· = '/') ++ '/' :: rest.toList := by
    simp [trimTrailingSlashes, List.rdropWhile]
  rw [Path.startsWith_slash_iff, Path.startsWith_slash_iff, chars, ← String.toList_inj]
  have kept := text.toList.rdropWhile_prefix (· = '/')
  cases beginning : text.toList.rdropWhile (· = '/') with
  | nil =>
      have slashes := List.rdropWhile_eq_nil_iff.mp beginning
      cases whole : text.toList with
      | nil => simp
      | cons first others =>
          have slash := slashes first (by rw [whole]; exact List.mem_cons_self)
          simpa using slash
  | cons first others =>
      rw [beginning] at kept
      obtain ⟨more, whole⟩ := kept
      rw [← whole]
      simp

end Url

/-- No prefix, or one that neither is empty nor begins with a slash. -/
def S3Config.Relative (config : S3Config) : Prop :=
  ∀ text, config.keyPrefix = some text → text ≠ "" ∧ text.startsWith "/" = false

namespace S3Store

variable {config : S3Config} {store : S3Store}

def front (store : S3Store) : String := Url.trimTrailingSlashes store.publicBaseUrl ++ "/"

/-- The key that a locator names: what it says behind the address that the bucket has. -/
def keyOf? (store : S3Store) (link : Locator) : Option String :=
  if store.front.toList <+: link.toList then
    some (.ofList (link.toList.drop store.front.toList.length))
  else none

theorem keyOf?_front (store : S3Store) (key : String) :
    store.keyOf? (store.front ++ key) = some key := by
  rw [keyOf?, String.toList_append, if_pos (List.prefix_append _ _), List.drop_left,
    String.ofList_toList]

theorem keyPrefix_of_create (created : create config = .ok store) :
    store.keyPrefix = config.keyPrefix.map Url.trimTrailingSlashes := by
  unfold create at created
  split at created
  · cases created
  · cases created
    rfl

theorem startsWith_slash_hex (digest : ContentDigest) (rest : String) :
    (digest.hex ++ rest).startsWith "/" = false := by
  have filled : digest.hex ≠ "" := by
    intro empty
    have long := digest.length_hex
    rw [empty] at long
    cases long
  rw [Path.startsWith_slash_append, if_neg filled]
  exact Path.relative_of_plain (Bytes.slash_not_mem_hex digest.bytes)

theorem relative_objectKey_iff (created : create config = .ok store) (payload : Bytes)
    (kind : ContentKind) :
    (store.objectKey payload kind).startsWith "/" = false ↔ config.Relative := by
  unfold objectKey S3Config.Relative
  rw [keyPrefix_of_create created]
  cases config.keyPrefix with
  | none =>
      refine iff_of_true ?_ nofun
      rw [String.append_assoc]
      exact startsWith_slash_hex _ _
  | some text =>
      rw [Option.map_some, ← Bool.not_eq_true, Url.startsWith_slash_trimTrailingSlashes]
      simp

theorem store_safe (store : S3Store) (payload : Bytes) (kind : ContentKind) :
    Job.Safe Machine.journal
      (fun calls => calls = [] ∨ calls = [.putObject (store.request payload kind)])
      (fun answer calls => calls = [.putObject (store.request payload kind)] ∧
        ∀ link, answer = .ok link →
          link = store.front ++ Url.trimLeadingSlashes (store.request payload kind).key)
      (store.store payload kind) [] := by
  refine Job.Safe.call (Machine.journal_stable (· = [])) (fun _ => Or.inl) ?_ rfl
  rintro before reply after rfl rfl
  cases reply with
  | error reason =>
      refine Job.Safe.done Machine.journal (Machine.journal_stable _) (fun _ ended => ?_) ⟨rfl, nofun⟩
      exact Or.inr ended.1
  | ok done =>
      refine Job.Safe.done Machine.journal (Machine.journal_stable _) (fun _ ended => ?_) ⟨rfl, ?_⟩
      · exact Or.inr ended.1
      · rintro link ⟨⟩
        rfl

/-- However storing goes, nothing is asked for but to put the payload once, under its key. A locator
that is returned is the bucket's address, a slash, and the key without the slashes that it begins
with. So it has the key in it just if no prefix is set or one that neither is empty nor begins with
a slash; with any other prefix it names a key that nothing is ever stored under. -/
theorem locator_names_key_iff {config : S3Config} {store : S3Store}
    (created : create config = .ok store) (payload : Bytes) (kind : ContentKind)
    {left : Job Machine (Except StorageFault Locator)} {calls : List Machine.Call}
    (leads : Job.Leads Machine.journal (store.store payload kind) [] left calls) :
    (calls = [] ∨ calls = [.putObject (store.request payload kind)]) ∧
    ∀ link, left = .done (.ok link) →
      calls = [.putObject (store.request payload kind)] ∧
      link = store.front ++ Url.trimLeadingSlashes (store.request payload kind).key ∧
      (link = store.front ++ (store.request payload kind).key ↔ config.Relative) ∧
      (¬ config.Relative → ∀ other kind',
        store.keyOf? link ≠ some (store.request other kind').key) := by
  obtain ⟨only, ended⟩ := store_safe store payload kind left calls leads
  refine ⟨only, fun link returned => ?_⟩
  obtain ⟨put, located⟩ := ended _ returned
  obtain rfl := located link rfl
  refine ⟨put, rfl, ?_, fun absolute other kind' found => ?_⟩
  · rw [String.append_right_inj, Url.trimLeadingSlashes_eq_self_iff]
    exact relative_objectKey_iff created payload kind
  · rw [keyOf?_front, Option.some.injEq] at found
    have relative := Url.startsWith_slash_trimLeadingSlashes (store.request payload kind).key
    rw [found] at relative
    exact absurd ((relative_objectKey_iff created other kind').mp relative) absolute

theorem leads_store (store : S3Store) (payload : Bytes) (kind : ContentKind) :
    Job.Leads Machine.journal (store.store payload kind) []
      (.done (.ok (Url.join store.publicBaseUrl (store.request payload kind).key)))
      [.putObject (store.request payload kind)] := by
  let answer : Machine.Answer (.putObject (store.request payload kind)) := Except.ok ()
  exact Machine.noted answer (.rest _ _)

/-- With the prefix `/drop/` the key of the object is not what its locator has, and with `drop/` it
is. -/
theorem leading_slash_misleads :
    (∃ (store : S3Store) (link : Locator),
      create { bucket := "assets", keyPrefix := some "/drop/" } = .ok store ∧
      Job.Leads Machine.journal (store.store [1, 2, 3] .image) [] (.done (.ok link))
        [.putObject (store.request [1, 2, 3] .image)] ∧
      link ≠ store.front ++ (store.request [1, 2, 3] .image).key) ∧
    ∃ (store : S3Store) (link : Locator),
      create { bucket := "assets", keyPrefix := some "drop/" } = .ok store ∧
      Job.Leads Machine.journal (store.store [1, 2, 3] .image) [] (.done (.ok link))
        [.putObject (store.request [1, 2, 3] .image)] ∧
      link = store.front ++ (store.request [1, 2, 3] .image).key := by
  constructor
  · obtain ⟨store, created⟩ : ∃ store,
        create { bucket := "assets", keyPrefix := some "/drop/" } = .ok store := ⟨_, rfl⟩
    have leads := leads_store store [1, 2, 3] .image
    obtain ⟨_, returned⟩ := locator_names_key_iff created _ _ leads
    refine ⟨store, _, created, leads, fun same => ?_⟩
    obtain ⟨_, relative⟩ := (returned _ rfl).2.2.1.mp same "/drop/" rfl
    rw [← Bool.not_eq_true, Path.startsWith_slash_iff] at relative
    exact absurd relative (by decide)
  · obtain ⟨store, created⟩ : ∃ store,
        create { bucket := "assets", keyPrefix := some "drop/" } = .ok store := ⟨_, rfl⟩
    have leads := leads_store store [1, 2, 3] .image
    obtain ⟨_, returned⟩ := locator_names_key_iff created _ _ leads
    refine ⟨store, _, created, leads, (returned _ rfl).2.2.1.mpr ?_⟩
    rintro text ⟨⟩
    rw [← Bool.not_eq_true, Path.startsWith_slash_iff]
    decide

end S3Store

end Cadastre
