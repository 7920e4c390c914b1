import Cadastre.Pipeline.Publish
import Cadastre.Proofs.Pipeline.Conduct
import Cadastre.Proofs.Pipeline.Journal

/-!
Sites that may do what they like. Files may be unreadable or change, a provider may fail or store
what it is given in part, a registry may answer anything; only the cache file is replaced as a whole
or not at all. Each part of a run is told with what it may leave in the journal of such a site.
-/

namespace Cadastre

namespace Site

structure Latitude where
  Lists : List DirectoryEntry → Prop
  Delivers : List PreparedPair → List UploadedPair → Prop

/-- How a call may be answered. A save that fails may have had its effect all the same. -/
def Latitude.Answers (latitude : Latitude) (request : Call) (before : Journal)
    (reply : Answer request) (after : Journal) : Prop :=
  let heard := before.hear ⟨request, reply⟩
  match request, reply with
  | .readCache, (reply : Except String (Option Bytes)) =>
    after = heard ∧ ∀ contents, reply = .ok contents → contents = before.cache
  | .replaceCache contents, (.ok () : Except String Unit) => after = heard.save contents
  | .replaceCache contents, (.error _ : Except String Unit) =>
    after = heard ∨ after = heard.save contents
  | .listAssets, (reply : Except String (List DirectoryEntry)) =>
    after = heard ∧ ∀ entries, reply = .ok entries → latitude.Lists entries
  | .storePairs pairs, (reply : Except StorageFault (List UploadedPair)) =>
    after = heard ∧ ∀ uploaded, reply = .ok uploaded → latitude.Delivers pairs uploaded
  | .readAsset _, _ => after = heard
  | .register _ _, _ => after = heard
  | .startAppend _, _ => after = heard
  | .awaitAppend _ _, _ => after = heard
  | .now, _ => after = heard

def Latitude.world (latitude : Latitude) : World Site :=
  ⟨Journal, fun _ _ => False, latitude.Answers⟩

def Latitude.free : Latitude := ⟨fun _ => True, fun _ _ => True⟩

end Site

/-- What keeps a record from being saved over these contents, and the fault that it is told as. -/
inductive ProgressCache.Unsaved (cache : ProgressCache) (partition : Partition) (record : Record)
    (contents : Option Bytes) : Site.Exchange → PipelineFault → Prop where
  | unread (reason : String) :
      Unsaved cache partition record contents ⟨.readCache, .error reason⟩ (.cache (.io reason))
  | unfit {fault : CacheFault} : cache.save contents partition record = .error fault →
      Unsaved cache partition record contents ⟨.readCache, .ok contents⟩ (.cache fault)
  | unwritten {bytes : Bytes} (reason : String) :
      cache.save contents partition record = .ok bytes →
        Unsaved cache partition record contents ⟨.replaceCache bytes, .error reason⟩
          (.cache (.io reason))

inductive Source.Unfit (group : List FilePair) : Site.Exchange → PipelineFault → Prop where
  | unread {pair : FilePair} {path : String} (reason : String) : pair ∈ group →
      path = pair.image ∨ path = pair.metadata →
        Unfit group ⟨.readAsset path, .error reason⟩ (.source path reason)
  | invalid {pair : FilePair} {bytes : Bytes} {fault : Fault} : pair ∈ group →
      readManifest pair bytes = .error fault →
        Unfit group ⟨.readAsset pair.metadata, .ok bytes⟩ (.core fault)

structure Source.Gathers (group : List FilePair) (prepared : List PreparedPair)
    (before after : Site.Journal) : Prop where
  keys : prepared.map PreparedPair.key = group.map FilePair.key
  quiet : before.Quiet after

/-- Whether all that was done since is to load a group and to have it stored. -/
def Site.Latitude.Stores (latitude : Site.Latitude) (group : List FilePair)
    (uploaded : List UploadedPair) (before after : Site.Journal) : Prop :=
  ∃ between prepared, Source.Gathers group prepared before between ∧
    latitude.Delivers prepared uploaded ∧
    (between.hear ⟨.storePairs prepared, .ok uploaded⟩).Quiet after

def Pipeline.planned (pipeline : Pipeline) (handle : PartitionHandle)
    (entries : List DirectoryEntry) : Except Fault UploadPlan := do
  let candidates ← Source.inPartition pipeline.remapper handle.partition
    (Source.pairs pipeline.assetsDir entries)
  let pending := handle.record.pendingPairs candidates
  let groups ← pipeline.groupsOf pending
  pure ⟨pending.length, groups⟩

section

variable {latitude : Site.Latitude} {group : List FilePair} {uploaded : List UploadedPair}
  {before between after : Site.Journal}

theorem Site.Latitude.Stores.cache_eq (stores : latitude.Stores group uploaded before after) :
    after.cache = before.cache := by
  obtain ⟨loaded, prepared, gathers, _, quiet⟩ := stores
  exact quiet.cache_eq.trans gathers.quiet.cache_eq

theorem Site.Journal.Fluent.stores (fluent : before.Fluent between)
    (stores : latitude.Stores group uploaded between after) : before.Fluent after := by
  obtain ⟨loaded, prepared, gathers, _, quiet⟩ := stores
  exact ((fluent.quiet gathers.quiet).hear rfl).quiet quiet

end

section

variable {latitude : Site.Latitude} {inv : Site.Journal → Prop}
  {fails : PipelineFault → Site.Journal → Prop} {state : Site.Journal}

theorem Work.Meets.keeps {α : Type} {post : α → Site.Journal → Prop} {work : Work α}
    {left : Job Site (Except PipelineFault α)} {after : Site.Journal}
    (meets : Work.Meets latitude.Answers inv post fails work state)
    (leads : Job.Leads latitude.world work.run state left after) : inv after := by
  have rest := Job.ends_of_leads (fun _ _ => id) (fun _ _ _ _ _ answer => answer) leads meets
  exact rest.inside

variable (steady : Site.Journal.Steady inv)

include steady

namespace ProgressCache

variable {cache : ProgressCache} {partition : Partition} {record : Record}

theorem contents_runs (inside : inv state)
    (failing : ∀ reason, fails (.cache (.io reason)) (state.hear ⟨.readCache, .error reason⟩)) :
    Work.Meets latitude.Answers inv
      (fun contents after => contents = state.cache ∧
        after = state.hear ⟨.readCache, .ok state.cache⟩) fails contents state := by
  refine Work.Meets.expect (Job.Ends.ask inside ⟨.error "", _, rfl, nofun⟩ ?_)
  rintro reply after ⟨rfl, reading⟩
  refine ⟨steady _ _ rfl inside, ?_⟩
  cases reply with
  | ok contents =>
      obtain rfl := reading contents rfl
      exact ⟨rfl, rfl⟩
  | error reason => exact failing reason

theorem readRecord_runs (inside : inv state) (failing : ∀ fault after, fails fault after) :
    Work.Meets latitude.Answers inv
      (fun found after => cache.load state.cache partition = .ok found ∧ state.Quiet after) fails
      (cache.readRecord partition) state := by
  refine Work.Meets.bind _ (contents_runs steady inside fun _ => failing _ _) ?_
  rintro contents after inside ⟨rfl, rfl⟩
  exact Work.Meets.check inside (fun found loaded => ⟨loaded, .hear .rest rfl rfl⟩)
    fun fault _ => failing _ _

theorem writeRecord_runs (inside : inv state)
    (unsaved : Site.Journal.Blames (cache.Unsaved partition record state.cache) fails state)
    (saves : ∀ between bytes reply, state.Quiet between →
      cache.save state.cache partition record = .ok bytes →
        inv ((between.hear ⟨.replaceCache bytes, reply⟩).save bytes))
    (unsure : ∀ between bytes reason, state.Quiet between →
      cache.save state.cache partition record = .ok bytes →
        fails (.cache (.io reason))
          ((between.hear ⟨.replaceCache bytes, .error reason⟩).save bytes)) :
    Work.Meets latitude.Answers inv
      (fun _ after => ∃ between bytes, state.Quiet between ∧
        cache.save state.cache partition record = .ok bytes ∧
        after = (between.hear ⟨.replaceCache bytes, .ok ()⟩).save bytes) fails
      (cache.writeRecord partition record) state := by
  refine Work.Meets.bind _ (contents_runs steady inside fun reason =>
    unsaved _ _ _ .rest (.unread reason)) ?_
  rintro _ after inside ⟨rfl, rfl⟩
  have read : state.Quiet (state.hear ⟨.readCache, .ok state.cache⟩) := .hear .rest rfl rfl
  refine Work.Meets.bind (fun bytes after => cache.save state.cache partition record = .ok bytes ∧
    state.Quiet after) (Work.Meets.check inside (fun bytes saved => ⟨saved, read⟩)
      fun fault unfit => unsaved _ _ _ .rest (.unfit unfit)) ?_
  rintro bytes between inside ⟨saved, quiet⟩
  refine Work.Meets.expect (Job.Ends.ask inside ⟨.ok (), _, rfl⟩ ?_)
  intro reply after answer
  cases reply with
  | ok done =>
      cases answer
      exact ⟨saves _ _ _ quiet saved, between, bytes, quiet, saved, rfl⟩
  | error reason =>
      obtain rfl | rfl := answer
      · exact ⟨steady _ _ rfl inside, unsaved _ _ _ quiet (.unwritten reason saved)⟩
      · exact ⟨saves _ _ _ quiet saved, unsure _ _ _ quiet saved⟩

end ProgressCache

namespace Source

variable {dir : String} {remapper : Remapper} {partition : Partition} {pair : FilePair}
  {group : List FilePair}

theorem candidates_runs (inside : inv state)
    (unlisted : ∀ reason, fails (.source dir reason) (state.hear ⟨.listAssets, .error reason⟩))
    (misplaced : ∀ entries fault, latitude.Lists entries →
      inPartition remapper partition (pairs dir entries) = .error fault →
        fails (.core fault) (state.hear ⟨.listAssets, .ok entries⟩)) :
    Work.Meets latitude.Answers inv
      (fun candidates after => ∃ entries, latitude.Lists entries ∧
        inPartition remapper partition (pairs dir entries) = .ok candidates ∧
        after = state.hear ⟨.listAssets, .ok entries⟩) fails
      (candidates dir remapper partition) state := by
  have scanned : Work.Meets latitude.Answers inv (fun found after =>
      ∃ entries, latitude.Lists entries ∧ found = pairs dir entries ∧
        after = state.hear ⟨.listAssets, .ok entries⟩) fails (scan dir) state := by
    refine Work.Meets.bind (fun entries after => latitude.Lists entries ∧
      after = state.hear ⟨.listAssets, .ok entries⟩)
      (Work.Meets.expect (Job.Ends.ask inside ⟨.error "", _, rfl, nofun⟩ ?_)) ?_
    · rintro reply after ⟨rfl, listed⟩
      refine ⟨steady _ _ rfl inside, ?_⟩
      cases reply with
      | ok entries => exact ⟨listed entries rfl, rfl⟩
      | error reason => exact unlisted reason
    · rintro entries after inside ⟨listed, rfl⟩
      exact Work.Meets.pure inside ⟨entries, listed, rfl, rfl⟩
  refine Work.Meets.bind _ scanned ?_
  rintro _ after inside ⟨entries, listed, rfl, rfl⟩
  exact Work.Meets.check inside (fun candidates found => ⟨entries, listed, found, rfl⟩)
    fun fault misfit => misplaced entries fault listed misfit

theorem readAsset_runs {path : String} {meaning : String → PipelineFault} (inside : inv state)
    (failing : ∀ reason, fails (meaning reason) (state.hear ⟨.readAsset path, .error reason⟩)) :
    Work.Meets latitude.Answers inv
      (fun bytes after => after = state.hear ⟨.readAsset path, .ok bytes⟩) fails
      (Work.expect (Site.readAsset path) meaning) state := by
  refine Work.Meets.expect (Job.Ends.ask inside ⟨.error "", _, rfl⟩ ?_)
  rintro reply after rfl
  refine ⟨steady _ _ rfl inside, ?_⟩
  cases reply with
  | ok bytes => exact rfl
  | error reason => exact failing reason

theorem manifest_runs (inside : inv state) (member : pair ∈ group)
    (unfit : Site.Journal.Blames (Unfit group) fails state) :
    Work.Meets latitude.Answers inv (fun _ after => state.Quiet after) fails (manifest pair)
      state := by
  refine Work.Meets.bind _ (readAsset_runs steady inside fun reason =>
    unfit _ _ _ .rest (.unread reason member (Or.inr rfl))) ?_
  rintro bytes after inside rfl
  exact Work.Meets.check inside (fun _ _ => .hear .rest rfl rfl) fun fault invalid =>
    unfit _ _ _ .rest (.invalid member invalid)

theorem load_runs (inside : inv state) (member : pair ∈ group)
    (unfit : Site.Journal.Blames (Unfit group) fails state) :
    Work.Meets latitude.Answers inv
      (fun prepared after => prepared.key = pair.key ∧ state.Quiet after) fails (load pair)
      state := by
  refine Work.Meets.bind _ (readAsset_runs steady inside fun reason =>
    unfit _ _ _ .rest (.unread reason member (Or.inl rfl))) ?_
  rintro image after inside rfl
  have read : state.Quiet (state.hear ⟨.readAsset pair.image, .ok image⟩) := .hear .rest rfl rfl
  refine Work.Meets.bind _ (manifest_runs steady inside member (read.blames unfit)) ?_
  rintro manifest last inside quiet
  exact Work.Meets.pure inside ⟨rfl, read.trans quiet⟩

theorem loadAll_runs (some : List FilePair) (among : ∀ pair ∈ some, pair ∈ group)
    (inside : inv state) (unfit : Site.Journal.Blames (Unfit group) fails state) :
    Work.Meets latitude.Answers inv (fun prepared after => Gathers some prepared state after) fails
      (some.mapM load) state := by
  induction some generalizing state with
  | nil =>
      rw [List.mapM_nil]
      exact Work.Meets.pure inside ⟨rfl, .rest⟩
  | cons pair rest ih =>
      rw [List.mapM_cons]
      refine Work.Meets.bind _ (load_runs steady inside (among pair List.mem_cons_self) unfit) ?_
      rintro first after inside ⟨key, quiet⟩
      refine Work.Meets.bind _ (ih (fun other later => among other (List.mem_cons_of_mem _ later))
        inside (quiet.blames unfit)) ?_
      rintro others last inside ⟨keys, later⟩
      refine Work.Meets.pure inside ⟨?_, quiet.trans later⟩
      rw [List.map_cons, List.map_cons, key, keys]

end Source

namespace Pipeline

variable {pipeline : Pipeline} {partition : Partition} {handle : PartitionHandle}

theorem openPartition_runs (inside : inv state) (failing : ∀ fault after, fails fault after) :
    Work.Meets latitude.Answers inv
      (fun handle after => state.Quiet after ∧ handle.partition = partition ∧
        ∃ found, pipeline.cache.load state.cache partition = .ok found ∧
          handle.record = found.getD {}) fails
      (pipeline.openPartition partition) state := by
  rw [openPartition]
  cases pipeline.remapper.layout.contains partition with
  | false =>
      refine Work.Meets.bind (fun _ _ => False) (Work.Meets.throw inside (failing _ _)) ?_
      exact fun _ _ _ => nofun
  | true =>
      refine Work.Meets.bind _ (ProgressCache.readRecord_runs steady inside failing) ?_
      rintro found after inside ⟨loaded, quiet⟩
      exact Work.Meets.pure inside ⟨quiet, rfl, found, loaded, rfl⟩

theorem plan_runs (inside : inv state)
    (unlisted : ∀ reason,
      fails (.source pipeline.assetsDir reason) (state.hear ⟨.listAssets, .error reason⟩))
    (unplanned : ∀ entries fault, latitude.Lists entries →
      pipeline.planned handle entries = .error fault →
        fails (.core fault) (state.hear ⟨.listAssets, .ok entries⟩)) :
    Work.Meets latitude.Answers inv
      (fun plan after => ∃ entries, latitude.Lists entries ∧
        pipeline.planned handle entries = .ok plan ∧
        after = state.hear ⟨.listAssets, .ok entries⟩) fails
      (pipeline.plan handle) state := by
  refine Work.Meets.bind _ (Source.candidates_runs steady inside unlisted
    fun entries fault listed misfit => unplanned entries fault listed ?_) ?_
  · rw [planned, misfit]
    rfl
  rintro candidates after inside ⟨entries, listed, found, rfl⟩
  refine Work.Meets.bind (fun groups last =>
    pipeline.groupsOf (handle.record.pendingPairs candidates) = .ok groups ∧
      last = state.hear ⟨.listAssets, .ok entries⟩)
    (Work.Meets.check inside (fun groups grouped => ⟨grouped, rfl⟩) fun fault misfit =>
      unplanned entries fault listed ?_) ?_
  · simp only [planned, found, bind, Except.bind, misfit]
  rintro groups last inside ⟨grouped, rfl⟩
  refine Work.Meets.pure inside ⟨entries, listed, ?_, rfl⟩
  simp only [planned, found, bind, Except.bind, grouped, pure, Except.pure]

theorem storeGroup_runs {group : List FilePair} (inside : inv state)
    (unfit : Site.Journal.Blames (Source.Unfit group) fails state)
    (replies : ∀ between prepared reply, Source.Gathers group prepared state between →
      inv (between.hear ⟨.storePairs prepared, reply⟩))
    (refused : ∀ between prepared fault, Source.Gathers group prepared state between →
      fails (.storage fault) (between.hear ⟨.storePairs prepared, .error fault⟩)) :
    Work.Meets latitude.Answers inv
      (fun uploaded after => ∃ between prepared, Source.Gathers group prepared state between ∧
        latitude.Delivers prepared uploaded ∧
        after = between.hear ⟨.storePairs prepared, .ok uploaded⟩) fails
      (storeGroup group) state := by
  refine Work.Meets.bind _ (Source.loadAll_runs steady group (fun _ => id) inside unfit) ?_
  rintro prepared between inside gathers
  refine Work.Meets.expect (Job.Ends.ask inside ⟨.error (.io ""), _, rfl, nofun⟩ ?_)
  rintro reply last ⟨rfl, delivered⟩
  refine ⟨replies _ _ _ gathers, ?_⟩
  cases reply with
  | ok uploaded => exact ⟨between, prepared, gathers, delivered uploaded rfl, rfl⟩
  | error fault => exact refused _ _ _ gathers

theorem uploadGroup_runs {batch : Nat} {group : List FilePair} (inside : inv state)
    (unfit : Site.Journal.Blames (Source.Unfit group) fails state)
    (replies : ∀ between prepared reply, Source.Gathers group prepared state between →
      inv (between.hear ⟨.storePairs prepared, reply⟩))
    (refused : ∀ between prepared fault, Source.Gathers group prepared state between →
      fails (.storage fault) (between.hear ⟨.storePairs prepared, .error fault⟩))
    (unrecorded : ∀ between prepared uploaded fault, Source.Gathers group prepared state between →
      latitude.Delivers prepared uploaded →
      recordPairs pipeline.remapper handle.record uploaded = .error fault →
        fails (.core fault) (between.hear ⟨.storePairs prepared, .ok uploaded⟩))
    (unsaved : ∀ uploaded grown between exchange fault,
      latitude.Stores group uploaded state between →
      recordPairs pipeline.remapper handle.record uploaded = .ok grown →
      pipeline.cache.Unsaved handle.partition grown state.cache exchange fault →
        fails fault (between.hear exchange))
    (saves : ∀ uploaded grown between bytes reply, latitude.Stores group uploaded state between →
      recordPairs pipeline.remapper handle.record uploaded = .ok grown →
      pipeline.cache.save state.cache handle.partition grown = .ok bytes →
        inv ((between.hear ⟨.replaceCache bytes, reply⟩).save bytes))
    (unsure : ∀ uploaded grown between bytes reason,
      latitude.Stores group uploaded state between →
      recordPairs pipeline.remapper handle.record uploaded = .ok grown →
      pipeline.cache.save state.cache handle.partition grown = .ok bytes →
        fails (.cache (.io reason))
          ((between.hear ⟨.replaceCache bytes, .error reason⟩).save bytes)) :
    Work.Meets latitude.Answers inv
      (fun result after => ∃ between bytes,
        latitude.Stores group result.1.uploaded state between ∧ result.1.batch = batch ∧
        recordPairs pipeline.remapper handle.record result.1.uploaded = .ok result.2 ∧
        pipeline.cache.save state.cache handle.partition result.2 = .ok bytes ∧
        after = (between.hear ⟨.replaceCache bytes, .ok ()⟩).save bytes) fails
      (pipeline.uploadGroup handle batch group) state := by
  refine Work.Meets.bind _ (storeGroup_runs steady inside unfit replies refused) ?_
  rintro uploaded after inside ⟨between, prepared, gathers, delivered, rfl⟩
  have stores : ∀ {later}, (between.hear ⟨.storePairs prepared, .ok uploaded⟩).Quiet later →
      latitude.Stores group uploaded state later :=
    fun later => ⟨between, prepared, gathers, delivered, later⟩
  refine Work.Meets.bind (fun grown last =>
    recordPairs pipeline.remapper handle.record uploaded = .ok grown ∧
      last = between.hear ⟨.storePairs prepared, .ok uploaded⟩)
    (Work.Meets.check inside (fun grown recorded => ⟨recorded, rfl⟩)
      fun fault refusal => unrecorded _ _ _ _ gathers delivered refusal) ?_
  rintro grown last inside ⟨recorded, rfl⟩
  have same : (between.hear ⟨.storePairs prepared, .ok uploaded⟩).cache = state.cache :=
    gathers.quiet.cache_eq
  refine Work.Meets.bind _ (ProgressCache.writeRecord_runs steady inside
    (fun later exchange fault quiet cause =>
      unsaved _ _ _ _ _ (stores quiet) recorded (same ▸ cause))
    (fun later bytes reply quiet saved =>
      saves _ _ _ _ _ (stores quiet) recorded (same ▸ saved))
    fun later bytes reason quiet saved =>
      unsure _ _ _ _ _ (stores quiet) recorded (same ▸ saved)) ?_
  rintro _ after inside ⟨later, bytes, quiet, saved, rfl⟩
  exact Work.Meets.pure inside
    ⟨later, bytes, stores quiet, rfl, recorded, same ▸ saved, rfl⟩

/-! What a registry is asked is nothing to the cache file or the provider. -/

theorem register_runs {capacity : UInt32} {defaults : RegistryDefaults} (inside : inv state)
    (failing : ∀ fault after, fails fault after) :
    Work.Meets latitude.Answers inv (fun _ after => state.Quiet after) fails
      (Work.expect (Site.register capacity defaults) PipelineFault.registry) state := by
  refine Work.Meets.expect (Job.Ends.ask inside ⟨.error (.rejected ""), _, rfl⟩ ?_)
  rintro reply after rfl
  refine ⟨steady _ _ rfl inside, ?_⟩
  cases reply with
  | ok handle => exact .hear .rest rfl rfl
  | error fault => exact failing _ _

theorem now_runs (inside : inv state) :
    Work.Meets latitude.Answers inv (fun _ after => state.Quiet after) fails
      (ExceptT.lift Site.now) state := by
  refine Work.Meets.lift (Job.Ends.ask inside ⟨{ seconds := 0 }, _, rfl⟩ ?_)
  rintro reply after rfl
  exact ⟨steady _ _ rfl inside, .hear .rest rfl rfl⟩

theorem startAppend_runs {append : AppendCall} (inside : inv state) :
    Work.Meets latitude.Answers inv (fun _ after => state.Quiet after) fails
      (ExceptT.lift (Site.startAppend append)) state := by
  refine Work.Meets.lift (Job.Ends.ask inside ⟨(), _, rfl⟩ ?_)
  rintro reply after rfl
  exact ⟨steady _ _ rfl inside, .hear .rest rfl rfl⟩

theorem awaitAppend_runs {first : AppendCall} {rest : List AppendCall} (inside : inv state) :
    Work.Meets latitude.Answers inv
      (fun reply after => after = state.hear ⟨.awaitAppend first rest, reply⟩) fails
      (ExceptT.lift (Site.awaitAppend first rest)) state := by
  refine Work.Meets.lift (Job.Ends.ask inside ⟨(Site.foremost rest, .ok ()), _, rfl⟩ ?_)
  rintro reply after rfl
  exact ⟨steady _ _ rfl inside, rfl⟩

theorem emptyReport_runs (inside : inv state) :
    Work.Meets latitude.Answers inv (fun report after => report.windows = [] ∧ state.Quiet after)
      fails emptyReport state := by
  refine Work.Meets.bind _ (now_runs steady inside) ?_
  rintro startedAt after inside quiet
  exact Work.Meets.pure inside ⟨rfl, quiet⟩

theorem registryDefaults_runs (inside : inv state) (failing : ∀ fault after, fails fault after) :
    Work.Meets latitude.Answers inv (fun _ after => state.Quiet after) fails
      (pipeline.registryDefaults partition) state := by
  have chosen : ∀ {after} manifest, inv after → state.Quiet after →
      Work.Meets latitude.Answers inv (fun _ after => state.Quiet after) fails
        (Work.check (pipeline.collection.defaults manifest) id) after := by
    intro after manifest inside quiet
    exact Work.Meets.check inside (fun _ _ => quiet) fun fault _ => failing _ _
  refine Work.Meets.bind _ (Source.candidates_runs steady inside (fun reason => failing _ _)
    fun _ fault _ _ => failing _ _) ?_
  rintro candidates after inside ⟨entries, _, _, rfl⟩
  have listed : state.Quiet (state.hear ⟨.listAssets, .ok entries⟩) := .hear .rest rfl rfl
  cases candidates with
  | nil => exact chosen none inside listed
  | cons first rest =>
      refine Work.Meets.bind (fun _ later => state.Quiet later) ?_ ?_
      · rw [map_eq_pure_bind]
        have unfit : Site.Journal.Blames (Source.Unfit (first :: rest)) fails
            (state.hear ⟨.listAssets, .ok entries⟩) := fun _ _ _ _ _ => failing _ _
        refine Work.Meets.bind _ (Source.manifest_runs steady inside List.mem_cons_self unfit) ?_
        rintro manifest last inside quiet
        exact Work.Meets.pure inside (listed.trans quiet)
      · rintro manifest last inside quiet
        exact chosen manifest inside quiet

end Pipeline

end

end Cadastre
