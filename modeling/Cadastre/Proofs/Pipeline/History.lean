import Cadastre.Proofs.Pipeline.Publishing
import Cadastre.Proofs.Pipeline.Trial

/-!
Histories: what the cache file and the ledger may come to when this program alone writes them. In
every history, at every point, what is on chain for the cache is written on its own line of the
ledger, and every line is that of a recorded item.
-/

namespace Cadastre

/-- States that commands lead to which share a cache and a grid. Whatever else the pipelines
have is free, each command may stop at any point, and what it may meet is free too. -/
inductive Site.Reachable (cache : ProgressCache) (remapper : Remapper) : Site.State → Prop where
  | start : Reachable cache remapper {}
  | drift {before after : Site.State} :
      Reachable cache remapper before → before.Drifts after → Reachable cache remapper after
  | upload {pipeline : Pipeline} {terms : Site.Terms} {partition : Partition}
      {left : Job Site (Except PipelineFault UploadSummary)} {before after : Site.State} :
      pipeline.cache = cache → pipeline.remapper = remapper → Reachable cache remapper before →
        Job.Leads (Site.world terms) (pipeline.upload partition).run before left after →
          Reachable cache remapper after
  | sync {pipeline : Pipeline} {terms : Site.Terms} {partition : Partition}
      {left : Job Site (Except PipelineFault SyncReport)} {before after : Site.State} :
      pipeline.cache = cache → pipeline.remapper = remapper → Reachable cache remapper before →
        Job.Leads (Site.world terms) (pipeline.sync partition).run before left after →
          Reachable cache remapper after
  | publish {pipeline : Pipeline} {terms : Site.Terms} {partition : Partition}
      {left : Job Site (Except PipelineFault PublishReport)} {before after : Site.State} :
      pipeline.cache = cache → pipeline.remapper = remapper → Reachable cache remapper before →
        Job.Leads (Site.world terms) (pipeline.publish partition).run before left after →
          Reachable cache remapper after

variable {cache : ProgressCache} {remapper : Remapper} {state : Site.State}

theorem Site.Reachable.sound (reachable : Site.Reachable cache remapper state) :
    Site.Sound cache remapper state := by
  induction reachable with
  | start => exact ⟨_, _, Books.start cache remapper⟩
  | drift _ step ih => exact (Site.kept_sound cache remapper).stable _ _ ih step
  | upload same grid _ leads ih =>
      subst same grid
      exact (Pipeline.upload_works ih _ _ leads).1
  | sync same grid _ leads ih =>
      subst same grid
      exact (Pipeline.sync_works ih _ _ leads).1
  | publish same grid _ leads ih =>
      subst same grid
      exact (Pipeline.publish_works ih _ _ leads).1

/-- Whether the record and the ledger show the same items: what is on chain is on its own line of
the array that the record names, and the lines of this array are recorded items with a link. -/
structure Record.Mirrored (record : Record) (ledger : Ledger) : Prop where
  onChain : ∀ key item, record.get? key = some item → item.state = .onChain →
    ∃ program registry, record.program = some program ∧
      ledger.get? program.registryLocator = some registry ∧
      registry.lines[key]? = some ⟨item.name, item.link⟩
  lines : ∀ program, record.program = some program →
    ∃ registry, ledger.get? program.registryLocator = some registry ∧
      registry.uniqueId = program.uniqueId ∧
      ∀ line entry, registry.lines[line]? = some entry →
        ∃ item, record.get? line = some item ∧ item.name = entry.name ∧ item.link = entry.uri ∧
          item.link ≠ ""

theorem Record.Agrees.mirrored {partition : Partition} {ledger : Ledger} {record : Record}
    (agrees : record.Agrees remapper partition ledger) : record.Mirrored ledger := by
  refine ⟨fun key item held chained => ?_, fun program named => ?_⟩
  · exact agrees.onChain key item held ((item.state_eq_onChain_iff).mp chained).2
  · obtain ⟨registry, found, id, lines⟩ := agrees.lines program named
    refine ⟨registry, found, id, fun line entry written => ?_⟩
    obtain ⟨item, held, rfl⟩ := Option.map_eq_some_iff.mp (lines line entry written)
    exact ⟨item, held, rfl, rfl, (agrees.placed line item held).1⟩

/-- At every point of every history both files can be read, and every record in the cache mirrors
the ledger. -/
theorem mirrored_of_reachable (reachable : Site.Reachable cache remapper state)
    (partition : Partition) :
    ∃ found ledger, cache.load state.cache partition = .ok found ∧
      Ledger.ofFile state.ledger = .ok ledger ∧
      ∀ record, found = some record → record.Mirrored ledger := by
  obtain ⟨book, ledger, books⟩ := reachable.sound
  obtain ⟨found, loaded, page⟩ := books.holds.loads partition
  refine ⟨found, ledger, loaded, books.opened, ?_⟩
  rintro record rfl
  have agrees := books.agrees partition
  rw [← page] at agrees
  exact agrees.mirrored

theorem mirrored_after_publication :
    ∃ state record ledger,
      Site.Reachable Trial.pipeline.cache Trial.pipeline.remapper state ∧
      Trial.pipeline.cache.load state.cache ⟨0, 0⟩ = .ok (some record) ∧
      Ledger.ofFile state.ledger = .ok ledger ∧
      record.stateOf? 0 = some .onChain ∧ record.Mirrored ledger := by
  let state := (Trial.sample.perform (Trial.pipeline.publish ⟨0, 0⟩).run {}).2
  have reached : Site.Reachable Trial.pipeline.cache Trial.pipeline.remapper state :=
    .publish rfl rfl .start (Trial.sample.leads_perform _ _)
  have chained : ((Trial.pipeline.cache.load state.cache ⟨0, 0⟩).toOption.join).bind
      (fun record => record.stateOf? 0) = some .onChain := by
    decide +kernel
  obtain ⟨found, ledger, loaded, opened, mirrors⟩ := mirrored_of_reachable reached ⟨0, 0⟩
  rw [loaded] at chained
  obtain ⟨record, rfl, all⟩ := Option.bind_eq_some_iff.mp chained
  exact ⟨state, record, ledger, reached, loaded, opened, all, mirrors record rfl⟩

end Cadastre
