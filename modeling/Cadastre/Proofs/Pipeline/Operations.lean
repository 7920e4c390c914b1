import Cadastre.Proofs.Cache.Progress
import Cadastre.Proofs.Pipeline.World
import Cadastre.Proofs.Storage.Provider

/-!
What each part of a run does, as rules. Each rule takes an assertion that holds before the part and
says what holds behind it, and with which faults it may stop.
-/

namespace Cadastre

open Site (Kept)

section

variable {terms : Site.Terms} {inv pre : Site.State → Prop}
  {fails : PipelineFault → Site.State → Prop} {state : Site.State}

namespace ProgressCache

variable {cache : ProgressCache} {partition : Partition} {record : Record}

theorem contents_safe (kept : Kept inv pre) (keptFails : ∀ fault, Kept inv (fails fault))
    (failing : ∀ reason state, pre state → terms.CacheFails → fails (.cache (.io reason)) state)
    (holds : pre state) :
    Work.Safe terms inv (fun contents state => pre state ∧ state.cache = contents) fails
      contents state := by
  refine Work.Safe.expect (Work.Safe.answer .readCache kept
    (fun contents => kept.and (Site.stable_cache contents)) keptFails ?_ holds)
  rintro before reply after held ⟨rfl, reading⟩
  cases reply with
  | ok contents => exact ⟨held, reading.symm⟩
  | error reason => exact failing reason _ held reading

theorem readRecord_safe (kept : Kept inv pre) (keptFails : ∀ fault, Kept inv (fails fault))
    (booked : ∀ state, pre state → ∃ book, cache.Holds state.cache book)
    (failing : ∀ reason state, pre state → terms.CacheFails → fails (.cache (.io reason)) state)
    (holds : pre state) :
    Work.Safe terms inv
      (fun found state => pre state ∧ cache.load state.cache partition = .ok found) fails
      (cache.readRecord partition) state := by
  have keptPost : ∀ found, Kept inv fun state : Site.State =>
      pre state ∧ cache.load state.cache partition = .ok found := by
    refine fun found => kept.and ?_
    rintro before _ loaded ⟨_, _, _, _, rfl⟩
    exact loaded
  refine Work.Safe.bind _ keptFails (contents_safe kept keptFails failing holds) ?_
  rintro contents after ⟨held, rfl⟩
  refine Work.Safe.check keptPost keptFails (fun found loaded => ⟨held, loaded⟩) ?_
  intro fault loaded
  obtain ⟨book, holds⟩ := booked after held
  obtain ⟨found, other, _⟩ := holds.loads partition
  rw [loaded] at other
  cases other

theorem writeRecord_safe (post : Site.State → Prop) (kept : Kept inv pre)
    (keptPost : Kept inv post) (keptFails : ∀ fault, Kept inv (fails fault))
    (booked : ∀ state, pre state → ∃ book, cache.Holds state.cache book)
    (saves : ∀ state book bytes, pre state → cache.Holds state.cache book →
      cache.Holds (some bytes) (Function.update book partition record) →
        post { state with cache := some bytes })
    (failing : ∀ reason state, pre state ∨ post state → terms.CacheFails →
      fails (.cache (.io reason)) state)
    (holds : pre state) :
    Work.Safe terms inv (fun _ => post) fails (cache.writeRecord partition record) state := by
  refine Work.Safe.bind _ keptFails (contents_safe kept keptFails
    (fun reason state held => failing reason state (Or.inl held)) holds) ?_
  rintro contents after ⟨held, rfl⟩
  obtain ⟨book, holds⟩ := booked after held
  obtain ⟨bytes, saved, holds'⟩ := holds.save partition record
  -- What is written suits the contents that were read, which are there until they are replaced.
  have keptRead := kept.and (Site.stable_cache after.cache)
  have result : Work.check (cache.save after.cache partition record) PipelineFault.cache
      = (pure bytes : Work Bytes) := by
    rw [saved]
    rfl
  rw [result, pure_bind]
  refine Work.Safe.expect (Work.Safe.answer (.replaceCache bytes) keptRead
    (fun _ => keptPost) keptFails ?_ ⟨held, rfl⟩)
  rintro before reply last ⟨heldBefore, same⟩ answer
  have post' : post { before with cache := some bytes } :=
    saves before book bytes heldBefore (same ▸ holds) holds'
  cases reply with
  | ok done =>
      have left : last = { before with cache := some bytes } := answer
      rw [left]
      exact post'
  | error reason =>
      obtain ⟨mayFail, rfl | rfl⟩ := answer
      · exact failing reason _ (Or.inl heldBefore) mayFail
      · exact failing reason _ (Or.inr post') mayFail

end ProgressCache

namespace Source

variable {dir : String} {remapper : Remapper} {partition : Partition} {pair : FilePair}

def Lists (terms : Site.Terms) (dir : String) (remapper : Remapper) (partition : Partition)
    (candidates : List FilePair) : Prop :=
  ∃ entries, terms.Lists entries ∧ inPartition remapper partition (pairs dir entries)
    = .ok candidates

def Shows (terms : Site.Terms) (pair : FilePair) (manifest : Manifest) : Prop :=
  ∃ bytes, terms.Reads pair.metadata bytes ∧ readManifest pair bytes = .ok manifest

theorem not_isTransition_of_locate {index : GlobalIndex} {fault : Fault}
    (failed : remapper.locate index = .error fault) :
    ¬ (PipelineFault.core fault).IsTransition := by
  rintro ⟨key, before, after, same⟩
  cases same
  unfold Remapper.locate at failed
  dsimp only at failed
  split at failed
  · cases failed
  · split at failed <;> cases failed

theorem not_isTransition_of_inPartition {pairs : List FilePair} {fault : Fault}
    (failed : inPartition remapper partition pairs = .error fault) :
    ¬ (PipelineFault.core fault).IsTransition := by
  induction pairs with
  | nil => cases failed
  | cons pair rest ih =>
      simp only [inPartition, Remapper.partitionOf] at failed
      split at failed
      · exact ih failed
      · cases located : remapper.locate pair.key with
        | error other =>
            simp only [located, Except.map] at failed
            cases failed
            exact not_isTransition_of_locate located
        | ok place =>
            simp only [located, Except.map] at failed
            split at failed
            · cases more : inPartition remapper partition rest with
              | error other =>
                  simp only [more] at failed
                  cases failed
                  exact ih more
              | ok pairs => simp [more] at failed
            · exact ih failed

theorem invalidManifest_of_read {bytes : Bytes} {fault : Fault}
    (failed : Manifest.read bytes = .error fault) : ∃ reason, fault = .invalidManifest reason := by
  unfold Manifest.read at failed
  split at failed
  · cases failed
    exact ⟨_, rfl⟩
  · split at failed
    · cases failed
      exact ⟨_, rfl⟩
    · cases failed

theorem invalidManifest_of_globalIndex {manifest : Manifest} {fault : Fault}
    (failed : manifest.globalIndex = .error fault) : ∃ reason, fault = .invalidManifest reason := by
  unfold Manifest.globalIndex at failed
  split at failed
  · cases failed
    exact ⟨_, rfl⟩
  · split at failed
    · cases failed
      exact ⟨_, rfl⟩
    · cases failed

theorem not_isTransition_of_readManifest {bytes : Bytes} {fault : Fault}
    (failed : readManifest pair bytes = .error fault) :
    ¬ (PipelineFault.core fault).IsTransition := by
  have invalid : ∃ reason, fault = .invalidManifest reason := by
    simp only [readManifest, bind, Except.bind] at failed
    cases read : Manifest.read bytes with
    | error other =>
        simp only [read, Except.error.injEq] at failed
        subst failed
        exact invalidManifest_of_read read
    | ok manifest =>
        cases named : manifest.globalIndex with
        | error other =>
            simp only [read, named, Except.error.injEq] at failed
            subst failed
            exact invalidManifest_of_globalIndex named
        | ok index =>
            simp only [read, named] at failed
            split at failed
            · cases failed
            · cases failed
              exact ⟨_, rfl⟩
  obtain ⟨reason, rfl⟩ := invalid
  rintro ⟨key, before, after, same⟩
  cases same

theorem candidates_safe (kept : Kept inv pre) (keptFails : ∀ fault, Kept inv (fails fault))
    (failing : ∀ fault state, pre state → ¬ fault.IsTransition → fails fault state)
    (holds : pre state) :
    Work.Safe terms inv
      (fun candidates state => pre state ∧ Lists terms dir remapper partition candidates) fails
      (candidates dir remapper partition) state := by
  have scanned : Work.Safe terms inv (fun found state => pre state ∧
      ∃ entries, terms.Lists entries ∧ found = pairs dir entries) fails (scan dir) state := by
    refine Work.Safe.bind (fun entries state => pre state ∧ terms.Lists entries)
      keptFails (Work.Safe.expect (Work.Safe.answer .listAssets kept
        (fun entries => kept.and (Site.stable_const _)) keptFails ?_ holds)) ?_
    · rintro before reply after held ⟨rfl, listed⟩
      cases reply with
      | ok entries => exact ⟨held, listed entries rfl⟩
      | error reason => exact failing _ _ held (PipelineFault.not_isTransition fun _ => nofun)
    · rintro entries after ⟨held, listed⟩
      exact Work.Safe.pure (kept.and (Site.stable_const _)) ⟨held, entries, listed, rfl⟩
  refine Work.Safe.bind _ keptFails scanned ?_
  rintro found after ⟨held, entries, listed, rfl⟩
  exact Work.Safe.check (fun _ => kept.and (Site.stable_const _)) keptFails
    (fun candidates found => ⟨held, entries, listed, found⟩)
    (fun fault failed => failing _ _ held (not_isTransition_of_inPartition failed))

theorem manifest_safe (kept : Kept inv pre) (keptFails : ∀ fault, Kept inv (fails fault))
    (failing : ∀ fault state, pre state → ¬ fault.IsTransition → fails fault state)
    (holds : pre state) :
    Work.Safe terms inv (fun manifest state => pre state ∧ Shows terms pair manifest) fails
      (manifest pair) state := by
  refine Work.Safe.bind (fun bytes state => pre state ∧ terms.Reads pair.metadata bytes)
    keptFails (Work.Safe.expect (Work.Safe.answer (.readAsset pair.metadata) kept
      (fun bytes => kept.and (Site.stable_const _)) keptFails ?_ holds)) ?_
  · rintro before reply after held ⟨rfl, shown⟩
    cases reply with
    | ok bytes => exact ⟨held, shown bytes rfl⟩
    | error reason => exact failing _ _ held (PipelineFault.not_isTransition fun _ => nofun)
  · rintro bytes after ⟨held, shown⟩
    exact Work.Safe.check (fun _ => kept.and (Site.stable_const _)) keptFails
      (fun manifest read => ⟨held, bytes, shown, read⟩)
      (fun fault failed => failing _ _ held (not_isTransition_of_readManifest failed))

structure Loads (terms : Site.Terms) (pair : FilePair) (prepared : PreparedPair) : Prop where
  key : prepared.key = pair.key
  manifest : Shows terms pair prepared.manifest

theorem keys_of_loads {group : List FilePair} {prepared : List PreparedPair}
    (loads : List.Forall₂ (Loads terms) group prepared) :
    prepared.map PreparedPair.key = group.map FilePair.key := by
  induction loads with
  | nil => rfl
  | cons loaded _ ih => rw [List.map_cons, List.map_cons, loaded.key, ih]

theorem load_safe (kept : Kept inv pre) (keptFails : ∀ fault, Kept inv (fails fault))
    (failing : ∀ fault state, pre state → ¬ fault.IsTransition → fails fault state)
    (holds : pre state) :
    Work.Safe terms inv (fun prepared state => pre state ∧ Loads terms pair prepared) fails
      (load pair) state := by
  refine Work.Safe.bind (fun _ => pre) keptFails
    (Work.Safe.expect (Work.Safe.answer (.readAsset pair.image) kept
      (fun _ => kept) keptFails ?_ holds)) ?_
  · rintro before reply after held ⟨rfl, _⟩
    cases reply with
    | ok bytes => exact held
    | error reason => exact failing _ _ held (PipelineFault.not_isTransition fun _ => nofun)
  · intro image after held
    refine Work.Safe.bind _ keptFails (manifest_safe kept keptFails failing held) ?_
    rintro manifest last ⟨held, shown⟩
    exact Work.Safe.pure (kept.and (Site.stable_const _)) ⟨held, rfl, shown⟩

theorem loadAll_safe (kept : Kept inv pre) (keptFails : ∀ fault, Kept inv (fails fault))
    (failing : ∀ fault state, pre state → ¬ fault.IsTransition → fails fault state)
    (group : List FilePair) (holds : pre state) :
    Work.Safe terms inv
      (fun prepared state => pre state ∧ List.Forall₂ (Loads terms) group prepared) fails
      (group.mapM load) state := by
  induction group generalizing state with
  | nil =>
      rw [List.mapM_nil]
      exact Work.Safe.pure (kept.and (Site.stable_const _)) ⟨holds, .nil⟩
  | cons pair rest ih =>
      rw [List.mapM_cons]
      refine Work.Safe.bind _ keptFails (load_safe kept keptFails failing holds) ?_
      rintro first after ⟨held, loaded⟩
      refine Work.Safe.bind _ keptFails (ih held) ?_
      rintro others last ⟨held, more⟩
      exact Work.Safe.pure (kept.and (Site.stable_const _)) ⟨held, .cons loaded more⟩

end Source

structure FilePair.StoredAs (terms : Site.Terms) (pair : FilePair) (uploaded : UploadedPair) :
    Prop where
  key : uploaded.key = pair.key
  link : uploaded.link ≠ ""
  name : ∃ manifest, Source.Shows terms pair manifest ∧ uploaded.manifest.name = manifest.name

theorem FilePair.storedAs_all {group : List FilePair} {prepared : List PreparedPair}
    {uploaded : List UploadedPair} (loads : List.Forall₂ (Source.Loads terms) group prepared)
    (stores : List.Forall₂ UploadedPair.Stores uploaded prepared) :
    List.Forall₂ (StoredAs terms) group uploaded := by
  induction loads generalizing uploaded with
  | nil =>
      cases stores
      exact .nil
  | cons loaded _ ih =>
      cases stores with
      | cons stored more =>
          exact .cons ⟨stored.key.trans loaded.key, stored.link, _, loaded.manifest, stored.name⟩
            (ih more)

namespace Pipeline

theorem storeGroup_safe {post : List UploadedPair → Site.State → Prop} {group : List FilePair}
    (kept : Kept inv pre) (keptPost : ∀ uploaded, Kept inv (post uploaded))
    (keptFails : ∀ fault, Kept inv (fails fault))
    (stores : ∀ state uploaded, pre state → List.Forall₂ (FilePair.StoredAs terms) group uploaded →
      post uploaded { state with stored := state.stored ++ group.map FilePair.key })
    (failing : ∀ fault state, pre state → ¬ fault.IsTransition → fails fault state)
    (holds : pre state) :
    Work.Safe terms inv post fails (storeGroup group) state := by
  refine Work.Safe.bind _ keptFails (Source.loadAll_safe kept keptFails failing group holds) ?_
  rintro prepared after ⟨held, loads⟩
  have keys := Source.keys_of_loads loads
  refine Work.Safe.expect (Work.Safe.answer (.storePairs prepared) kept keptPost
    keptFails ?_ held)
  rintro before reply last heldBefore ⟨yields, left⟩
  cases reply with
  | ok uploaded =>
      have left : last = { before with
        stored := before.stored ++ prepared.map PreparedPair.key } := left
      rw [left, keys]
      exact stores before uploaded heldBefore
        (FilePair.storedAs_all loads (terms.provider.stores_of_storePairs yields))
  | error fault =>
      have left : last = before := left
      rw [left]
      exact failing _ _ heldBefore (PipelineFault.not_isTransition fun _ => nofun)

theorem register_safe {post : RegistryHandle → Site.State → Prop} {capacity : UInt32}
    {defaults : RegistryDefaults} (kept : Kept inv pre)
    (keptPost : ∀ handle, Kept inv (post handle)) (keptFails : ∀ fault, Kept inv (fails fault))
    (registers : ∀ state stamp handle ledger, pre state →
      Ledger.registerIn (.ok state.ledger) stamp capacity defaults = .ok (handle, ledger) →
        post handle { state with ledger := some ledger.bytes })
    (failing : ∀ fault state, pre state ∨ (∃ handle, post handle state) → fails fault state)
    (holds : pre state) :
    Work.Safe terms inv post fails
      (Work.expect (Site.register capacity defaults) PipelineFault.registry) state := by
  refine Work.Safe.expect (Work.Safe.answer (.register capacity defaults) kept keptPost
    keptFails ?_ holds)
  intro before reply after held answer
  rcases answer with ⟨stamp, handle, ledger, done, rfl, given⟩ | ⟨fault, rfl, rfl⟩
  · have post' := registers before stamp handle ledger held done
    cases reply with
    | ok other =>
        rw [← given other rfl] at post'
        exact post'
    | error fault => exact failing _ _ (Or.inr ⟨handle, post'⟩)
  · exact failing _ _ (Or.inl held)

theorem startAppend_safe {post : Site.State → Prop} {append : AppendCall} (kept : Kept inv pre)
    (keptPost : Kept inv post)
    (starts : ∀ state, pre state → post { state with begun := append :: state.begun })
    (holds : pre state) :
    Work.Safe terms inv (fun _ => post) fails (ExceptT.lift (Site.startAppend append)) state := by
  refine Work.Safe.lift (Work.Safe.asked (.startAppend append) kept (fun _ => keptPost) ?_ holds)
  rintro before reply after held rfl
  exact starts before held

theorem awaitAppend_safe {first : AppendCall} {rest : List AppendCall} (kept : Kept inv pre)
    (holds : pre state) :
    Work.Safe terms inv
      (fun reply state => pre state ∧
        (reply.2 = .ok () → (first :: rest).get reply.1 ∈ state.written)) fails
      (ExceptT.lift (Site.awaitAppend first rest)) state := by
  have keptPost : ∀ reply : Fin (rest.length + 1) × Except RegistryFault Unit,
      Kept inv fun state : Site.State =>
        pre state ∧ (reply.2 = .ok () → (first :: rest).get reply.1 ∈ state.written) := by
    refine fun reply => kept.and ?_
    rintro before _ written ⟨_, _, _, _, rfl⟩ done
    exact List.mem_cons_of_mem _ (written done)
  refine Work.Safe.lift (Work.Safe.asked (.awaitAppend first rest) kept keptPost ?_ holds)
  rintro before reply after held ⟨rfl, written⟩
  exact ⟨held, written⟩

theorem now_safe (kept : Kept inv pre) (holds : pre state) :
    Work.Safe terms inv (fun _ => pre) fails (ExceptT.lift Site.now) state := by
  refine Work.Safe.lift (Work.Safe.asked .now kept (fun _ => kept) ?_ holds)
  rintro before reply after held rfl
  exact held

end Pipeline

end

end Cadastre
