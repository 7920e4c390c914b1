import Cadastre.Proofs.Pipeline.History

/-!
A clean publication is complete. Whatever happened before, when publishing a partition ends well,
was not interrupted and had no window fail, then every item of the partition whose two files the
directory lists is on chain at its local key.
-/

namespace Cadastre

/-- Whether the item of an index is on chain: the cache records it so at the key, under a name
that gives the index, and the ledger has its name and link on the line of the key. -/
def Site.State.Shows (state : Site.State) (cache : ProgressCache) (partition : Partition)
    (index : GlobalIndex) (key : LocalKey) : Prop :=
  ∃ record item program ledger registry,
    cache.load state.cache partition = .ok (some record) ∧
    record.get? key = some item ∧ item.state = .onChain ∧
    Item.numberInName? item.name = some index ∧
    record.program = some program ∧ Ledger.ofFile state.ledger = .ok ledger ∧
    ledger.get? program.registryLocator = some registry ∧
    registry.lines[key]? = some ⟨item.name, item.link⟩

theorem Site.Has.shows {cache : ProgressCache} {remapper : Remapper} {partition : Partition}
    {record : Record} {state : Site.State} (has : Site.Has cache remapper partition record state)
    {key : LocalKey} {item : Item} {index : GlobalIndex} (held : record.get? key = some item)
    (chained : item.onChain = true) (named : Item.numberInName? item.name = some index) :
    state.Shows cache partition index key := by
  obtain ⟨book, ledger, books, rfl⟩ := has
  obtain ⟨found, loaded, page⟩ := books.holds.loads partition
  have agrees := books.agrees partition
  cases found with
  | none =>
      rw [← page] at held
      simp at held
  | some record =>
      have page : record = book partition := page
      subst page
      obtain ⟨program, registry, taken, array, line⟩ := agrees.onChain key item held chained
      have state := (item.state_eq_onChain_iff).mpr ⟨(agrees.placed key item held).1, chained⟩
      exact ⟨_, item, program, ledger, registry, loaded, held, state, named, taken,
        books.opened, array, line⟩

/-- When a publication of a partition ends well, was not interrupted and had no window fail, every
item of the partition whose two files are listed is on chain. -/
theorem shows_of_clean_publication {cache : ProgressCache} {remapper : Remapper}
    {pipeline : Pipeline} {terms : Site.Terms} {partition : Partition} {report : PublishReport}
    {entries : List DirectoryEntry} {before after : Site.State}
    (shared : pipeline.cache = cache ∧ pipeline.remapper = remapper)
    (reachable : Site.Reachable cache remapper before)
    (listed : ∀ found, terms.Lists found → found = entries)
    (published : Job.Leads (Site.world terms) (pipeline.publish partition).run before
      (.done (.ok report)) after)
    (whole : report.upload.interrupted = false)
    (clean : ∀ window ∈ report.sync.windows, window.outcome.isFailed = false) :
    ∀ index key, Source.Complete entries index →
      remapper.locate index = .ok (partition, key) → after.Shows cache partition index key := by
  obtain ⟨rfl, rfl⟩ := shared
  intro index key complete located
  obtain ⟨pair, member, rfl⟩ :=
    (Source.exists_pair_iff pipeline.assetsDir entries index).mpr complete
  have publishes := (Pipeline.publish_works reachable.sound _ after published).2 _ rfl
  obtain ⟨record, candidates, has, ⟨found, listing, inside⟩, recorded, chained⟩ :=
    publishes whole clean
  rw [listed found listing] at inside
  have candidate := (Source.mem_inPartition_iff inside pair).mpr ⟨member, key, located⟩
  obtain ⟨other, item, located', held, _, named⟩ := recorded pair candidate
  rw [located] at located'
  cases located'
  exact has.shows held (chained key item held) named

theorem sample_publication_shows :
    ∃ report after,
      Job.Leads (Site.world Trial.sample.terms) (Trial.pipeline.publish ⟨0, 0⟩).run {}
        (.done (.ok report)) after ∧
      report.upload.interrupted = false ∧
      (∀ window ∈ report.sync.windows, window.outcome.isFailed = false) ∧
      after.Shows Trial.pipeline.cache ⟨0, 0⟩ 0 0 := by
  obtain ⟨result, after, leads, good⟩ : ∃ result after,
      Job.Leads (Site.world Trial.sample.terms) (Trial.pipeline.publish ⟨0, 0⟩).run {}
        (.done result) after ∧
      result.toOption.map (fun report => !report.upload.interrupted &&
        report.sync.windows.all fun window => !window.outcome.isFailed) = some true :=
    ⟨_, _, Trial.sample.leads_perform _ _, by decide +kernel⟩
  cases result with
  | error fault => cases good
  | ok report =>
      simp only [Except.toOption, Option.map_some, Option.some.injEq, Bool.and_eq_true,
        Bool.not_eq_true', List.all_eq_true] at good
      have complete : Source.Complete Trial.sample.entries 0 := by
        intro kind
        cases kind with
        | image => exact ⟨⟨"0.png", 4⟩, by decide, by decide +kernel⟩
        | metadata => exact ⟨⟨"0.json", 45⟩, by decide, by decide +kernel⟩
      have place : Trial.pipeline.remapper.locate 0 = .ok (⟨0, 0⟩, 0) := by decide +kernel
      exact ⟨report, after, leads, good.1, good.2, shows_of_clean_publication ⟨rfl, rfl⟩ .start
        (fun _ same => same) leads good.1 good.2 0 0 complete place⟩

end Cadastre
