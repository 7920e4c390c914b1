import Cadastre.Proofs.Cache.Growth
import Cadastre.Proofs.Pipeline.Accounting
import Cadastre.Proofs.Pipeline.Latitude

/-!
What is carried through a run at a site that may do what it likes. An assertion on a partition's
record and the journal that outlasts whatever is answered, and goes from a record to one that grew
out of it when that one is saved, goes through every part of a run. On the way each pass comes to a
report that the record bears out.
-/

namespace Cadastre

/-- An assertion that goes through all that a run does, when records grow as `grows` tells. -/
structure Site.Carries (cache : ProgressCache) (grows : Record → Record → Prop)
    (inv : Journal → Prop) (holds : PartitionHandle → Journal → Prop) : Prop where
  order : Record.Order grows
  steady : Journal.Steady inv
  inside : ∀ {handle state}, holds handle state → inv state
  hears : ∀ {handle state}, holds handle state → ∀ exchange, holds handle (state.hear exchange)
  saves : ∀ {handle state grown bytes}, holds handle state → grows handle.record grown →
    cache.save state.cache handle.partition grown = .ok bytes →
      holds { handle with record := grown } (state.save bytes)

theorem Site.Carries.rests {cache : ProgressCache} {grows : Record → Record → Prop}
    {inv : Journal → Prop} {holds : PartitionHandle → Journal → Prop} {handle : PartitionHandle}
    {before after : Journal} (carries : Carries cache grows inv holds) (held : holds handle before)
    (quiet : before.Quiet after) : holds handle after :=
  quiet.keeps (fun _ exchange _ held => carries.hears held exchange) held

namespace Pipeline

variable {latitude : Site.Latitude} {pipeline : Pipeline} {grows : Record → Record → Prop}
  {inv : Site.Journal → Prop} {holds : PartitionHandle → Site.Journal → Prop}
  {handle : PartitionHandle} {partition : Partition} {state : Site.Journal}

variable (carries : Site.Carries pipeline.cache grows inv holds)

include carries

theorem openPartition_carries (inside : inv state)
    (opens : ∀ found, pipeline.cache.load state.cache partition = .ok found →
      holds ⟨partition, found.getD {}⟩ state) :
    Work.Meets latitude.Answers inv holds (fun _ _ => True) (pipeline.openPartition partition)
      state := by
  refine (openPartition_runs carries.steady inside fun _ _ => trivial).weaken ?_ fun _ _ _ => id
  rintro ⟨_, _⟩ after _ ⟨quiet, rfl, found, loaded, rfl⟩
  exact carries.rests (opens found loaded) quiet

theorem persist_carries {grown : Record} (held : holds handle state)
    (step : grows handle.record grown) :
    Work.Meets latitude.Answers inv
      (fun _ after => holds { handle with record := grown } after) (fun _ _ => True)
      (pipeline.persist { handle with record := grown }) state := by
  have saves : ∀ between bytes reply, state.Quiet between →
      pipeline.cache.save state.cache handle.partition grown = .ok bytes →
        holds { handle with record := grown }
          ((between.hear ⟨.replaceCache bytes, reply⟩).save bytes) := by
    intro between bytes reply quiet saved
    rw [← quiet.cache_eq] at saved
    exact carries.saves (carries.hears (carries.rests held quiet) _) step saved
  refine (ProgressCache.writeRecord_runs carries.steady (carries.inside held)
    (fun _ _ _ _ _ => trivial) (fun between bytes reply quiet saved =>
      carries.inside (saves between bytes reply quiet saved)) fun _ _ _ _ _ => trivial).weaken ?_
    fun _ _ _ => id
  rintro _ after _ ⟨between, bytes, quiet, saved, rfl⟩
  exact saves between bytes _ quiet saved

/-! Uploads: a group that was stored is entered and saved. -/

section Upload

variable (fills : ∀ {remapper : Remapper} {uploaded : List UploadedPair} {record grown : Record},
  record.Fills remapper uploaded grown → grows record grown)

include fills

theorem uploadGroup_carries {batch : Nat} {group : List FilePair} (held : holds handle state) :
    Work.Meets latitude.Answers inv
      (fun result after => holds { handle with record := result.2 } after)
      (fun fault after => fault.isFatal = false → holds handle after)
      (pipeline.uploadGroup handle batch group) state := by
  have replied : ∀ {prepared between}, Source.Gathers group prepared state between → ∀ reply,
      holds handle (between.hear ⟨.storePairs prepared, reply⟩) :=
    fun gathers reply => carries.hears (carries.rests held gathers.quiet) _
  have stored : ∀ {uploaded between}, latitude.Stores group uploaded state between →
      holds handle between := by
    rintro uploaded between ⟨before, prepared, gathers, _, quiet⟩
    exact carries.rests (replied gathers _) quiet
  have entered : ∀ uploaded grown between bytes reply,
      latitude.Stores group uploaded state between →
      recordPairs pipeline.remapper handle.record uploaded = .ok grown →
      pipeline.cache.save state.cache handle.partition grown = .ok bytes →
        holds { handle with record := grown }
          ((between.hear ⟨.replaceCache bytes, reply⟩).save bytes) := by
    intro uploaded grown between bytes reply stores recorded saved
    rw [← stores.cache_eq] at saved
    exact carries.saves (carries.hears (stored stores) _) (fills (fills_of_recordPairs recorded))
      saved
  have unfit : Site.Journal.Blames (Source.Unfit group)
      (fun fault after => fault.isFatal = false → holds handle after) state :=
    fun _ exchange _ quiet _ _ => carries.hears (carries.rests held quiet) exchange
  refine (uploadGroup_runs carries.steady (carries.inside held) unfit
    (fun _ _ reply gathers => carries.inside (replied gathers reply))
    (fun _ _ _ gathers _ => replied gathers _) (fun _ _ _ _ gathers _ _ _ => replied gathers _)
    (fun _ _ _ exchange _ stores _ _ _ => carries.hears (stored stores) exchange)
    (fun uploaded grown between bytes reply stores recorded saved =>
      carries.inside (entered uploaded grown between bytes reply stores recorded saved))
    fun _ _ _ _ _ _ _ _ => nofun).weaken ?_ fun _ _ _ => id
  rintro ⟨step, grown⟩ after _ ⟨between, bytes, stores, _, recorded, saved, rfl⟩
  exact entered step.uploaded grown between bytes _ stores recorded saved

theorem uploadGroups_carries (groups : List (List FilePair)) (batch : Nat)
    (held : holds handle state) :
    Job.Ends latitude.Answers inv
      (fun run after => (∀ fault, run.fault = some fault → fault.isFatal = false) →
        holds { handle with record := run.record } after)
      (pipeline.uploadGroups handle batch groups) state := by
  induction groups generalizing handle batch state with
  | nil => exact ⟨carries.inside held, fun _ => held⟩
  | cons group rest ih =>
      rw [uploadGroups]
      refine Job.Ends.bind (uploadGroup_carries carries fills held) ?_
      intro result after inside held
      cases result with
      | error fault => exact ⟨inside, fun mild => held (mild fault rfl)⟩
      | ok result =>
          obtain ⟨step, grown⟩ := result
          refine Job.Ends.bind (ih (batch + 1) held) ?_
          exact fun run last inside held => ⟨inside, held⟩

theorem uploadHandle_carries (held : holds handle state) :
    Work.Meets latitude.Answers inv (fun result after => holds result.2 after)
      (fun _ _ => True) (pipeline.uploadHandle handle) state := by
  refine Work.Meets.bind _ (plan_runs carries.steady (carries.inside held) (fun _ => trivial)
    fun _ _ _ _ => trivial) ?_
  rintro plan after _ ⟨entries, _, _, rfl⟩
  refine Work.Meets.bind _ (Work.Meets.lift
    (uploadGroups_carries carries fills plan.groups 0 (carries.hears held _))) ?_
  intro run last inside held
  dsimp only
  split
  · exact Work.Meets.throw inside trivial
  · rename_i mild
    refine Work.Meets.pure inside (held fun fault stopped => ?_)
    simpa [stopped] using mild

end Upload

/-! Writes to the registry: the record is signed and saved. -/

section Pass

variable {windows : List Window} {dealt : Window → Prop} {pass : Pass} {window : Window}
  {registry : RegistryHandle}

theorem applyResult_carries {result : Except RegistryFault Unit}
    (accounts : pass.Accounts windows dealt) (member : window ∈ windows)
    (ready : pass.handle.record.Ready window) (held : holds pass.handle state) :
    Work.Meets latitude.Answers inv
      (fun later after => holds later.handle after ∧
        (later.Accounts windows fun other => other = window ∨ dealt other) ∧
        later.underWay = pass.underWay)
      (fun _ _ => True) (pipeline.applyResult pass window result) state := by
  cases result with
  | error fault =>
      exact Work.Meets.pure (carries.inside held) ⟨held, accounts.settle _ member trivial, rfl⟩
  | ok written =>
      obtain ⟨marked, checked, marks⟩ := pass.handle.record.check_markWindow window
      rw [applyResult, checked, pure_bind]
      refine Work.Meets.bind _ (persist_carries carries held (carries.order.marks marks)) ?_
      intro _ after inside held
      exact Work.Meets.pure inside
        ⟨held, (accounts.mark marks).settle .written member (ready.written marks), rfl⟩

theorem awaitOne_carries (accounts : pass.Accounts windows dealt)
    (held : holds pass.handle state) :
    Work.Meets latitude.Answers inv
      (fun later after => holds later.handle after ∧ later.Accounts windows dealt ∧
        later.underWay.length = pass.underWay.length - 1)
      (fun _ _ => True) (pipeline.awaitOne pass) state := by
  unfold awaitOne
  split
  · rename_i none
    exact Work.Meets.pure (carries.inside held) ⟨held, accounts, by rw [none]; rfl⟩
  · rename_i first rest waiting
    refine Work.Meets.bind _ (awaitAppend_runs carries.steady (carries.inside held)) ?_
    rintro ⟨place, result⟩ _ _ rfl
    have bound : place.val < (first :: rest).length := by simpa using place.isLt
    have there := Pass.get_underWay waiting bound
    have ended := accounts.end there
    obtain ⟨member, ready⟩ := accounts.underWay _ (List.mem_of_getElem? there)
    rw [waiting] at ended
    refine (applyResult_carries carries ended member ready (carries.hears held _)).weaken ?_
      fun _ _ _ => id
    rintro later last _ ⟨held, accounts, same⟩
    refine ⟨held, accounts.rejoin, ?_⟩
    rw [same, waiting, List.length_eraseIdx_of_lt bound]

theorem awaitAll_carries (count : Nat) (accounts : pass.Accounts windows dealt)
    (held : holds pass.handle state) :
    Work.Meets latitude.Answers inv
      (fun later after => holds later.handle after ∧ later.Accounts windows dealt ∧
        later.underWay.length = pass.underWay.length - count)
      (fun _ _ => True) (pipeline.awaitAll pass count) state := by
  induction count generalizing pass state with
  | zero => exact Work.Meets.pure (carries.inside held) ⟨held, accounts, rfl⟩
  | succ count ih =>
      refine Work.Meets.bind _ (awaitOne_carries carries accounts held) ?_
      rintro next after _ ⟨held, accounts, fewer⟩
      refine (ih accounts held).weaken ?_ fun _ _ _ => id
      rintro later last _ ⟨held, accounts, left⟩
      exact ⟨held, accounts, by omega⟩

theorem dispatch_carries (accounts : pass.Accounts windows dealt) (member : window ∈ windows)
    (held : holds pass.handle state) :
    Work.Meets latitude.Answers inv
      (fun later after => holds later.handle after ∧
        later.Accounts windows fun other => other = window ∨ dealt other)
      (fun _ _ => True) (pipeline.dispatch registry pass window) state := by
  have inside := carries.inside held
  unfold dispatch
  dsimp only
  split
  · rename_i all
    exact Work.Meets.pure inside
      ⟨held, accounts.settle .skipped member (Record.bears_skipped all)⟩
  · split
    · rename_i unready
      have known : ∀ key ∈ window, key ∈ pass.handle.record.keys := fun key found =>
        accounts.cuts.mem_keys member found
      exact Work.Meets.pure inside
        ⟨held, accounts.settle .notReady member (Record.bears_notReady known unready)⟩
    · rename_i entries ready
      have begun := accounts.begin ⟨window, ⟨registry, entries, window.first⟩⟩ member
        (Record.ready_of_entries? ready)
      refine Work.Meets.bind _ (startAppend_runs carries.steady inside) ?_
      intro _ after inside quiet
      replace held := carries.rests held quiet
      split
      · refine (awaitOne_carries carries begun held).weaken ?_ fun _ _ _ => id
        exact fun _ _ _ held => ⟨held.1, held.2.1⟩
      · exact Work.Meets.pure inside ⟨held, begun⟩

theorem dispatchAll_carries (later : List Window) (among : ∀ window ∈ later, window ∈ windows)
    (accounts : pass.Accounts windows dealt) (held : holds pass.handle state) :
    Work.Meets latitude.Answers inv
      (fun last after => holds last.handle after ∧
        (last.Accounts windows fun other => other ∈ later ∨ dealt other) ∧ last.underWay = [])
      (fun _ _ => True) (pipeline.dispatchAll registry pass later) state := by
  induction later generalizing dealt pass state with
  | nil =>
      refine (awaitAll_carries carries pass.underWay.length accounts held).weaken ?_
        fun _ _ _ => id
      rintro last after _ ⟨held, accounts, none⟩
      rw [Nat.sub_self] at none
      refine ⟨held, ⟨accounts.cuts, accounts.underWay, accounts.placed.weaken ?_⟩,
        List.length_eq_zero_iff.mp none⟩
      exact fun window _ asked => asked.resolve_left List.not_mem_nil
  | cons window rest ih =>
      refine Work.Meets.bind _ (dispatch_carries carries accounts
        (among window List.mem_cons_self) held) ?_
      rintro next after _ ⟨held, accounts⟩
      refine (ih (fun other found => among other (List.mem_cons_of_mem _ found)) accounts
        held).weaken ?_ fun _ _ _ => id
      rintro last state _ ⟨held, accounts, none⟩
      exact ⟨held, accounts.cons, none⟩

end Pass

theorem syncRegistry_carries {registry : RegistryHandle} (held : holds handle state) :
    Work.Meets latitude.Answers inv
      (fun result after => holds result.2 after ∧ result.1.Reviews result.2.record)
      (fun _ _ => True) (pipeline.syncRegistry handle registry) state := by
  refine Work.Meets.bind _ (now_runs carries.steady (carries.inside held)) ?_
  intro startedAt after _ quiet
  have cuts := handle.record.cuts_ofKeys (max pipeline.windowSize 1)
  refine Work.Meets.bind _
    (dispatchAll_carries carries _ (fun _ => id) (Pass.Accounts.initial cuts)
      (carries.rests held quiet)) ?_
  rintro pass last inside ⟨held, accounts, none⟩
  exact Work.Meets.pure inside ⟨held, SyncReport.reviews_of_accounts startedAt accounts none⟩

theorem createRegistry_carries (unnamed : handle.record.program = none)
    (held : holds handle state) :
    Work.Meets latitude.Answers inv (fun result after => holds result.2 after)
      (fun _ _ => True) (pipeline.createRegistry handle) state := by
  refine Work.Meets.bind _ (registryDefaults_runs carries.steady (carries.inside held)
    fun _ _ => trivial) ?_
  intro defaults after inside quiet
  replace held := carries.rests held quiet
  refine Work.Meets.bind _ (register_runs carries.steady inside fun _ _ => trivial) ?_
  intro registry after _ quiet
  refine Work.Meets.bind _ (persist_carries carries (carries.rests held quiet)
    (carries.order.names registry unnamed)) ?_
  exact fun _ last inside held => Work.Meets.pure inside held

theorem syncHandle_carries (held : holds handle state) :
    Work.Meets latitude.Answers inv
      (fun result after => holds result.2 after ∧ result.1.Reviews result.2.record)
      (fun _ _ => True) (pipeline.syncHandle handle) state := by
  unfold syncHandle
  split
  · rename_i empty
    refine Work.Meets.bind _ (emptyReport_runs carries.steady (carries.inside held)) ?_
    rintro ⟨startedAt, _⟩ after inside ⟨rfl, quiet⟩
    exact Work.Meets.pure inside
      ⟨carries.rests held quiet, SyncReport.reviews_of_isEmpty startedAt empty⟩
  · split
    · exact syncRegistry_carries carries held
    · rename_i unnamed
      have unnamed : handle.record.program = none := Option.map_eq_none_iff.mp unnamed
      refine Work.Meets.bind _ (createRegistry_carries carries unnamed held) ?_
      rintro ⟨registry, named⟩ after _ held
      exact syncRegistry_carries carries held

section Command

variable (inside : inv state)
  (opens : ∀ found, pipeline.cache.load state.cache partition = .ok found →
    holds ⟨partition, found.getD {}⟩ state)

include inside opens

theorem sync_carries :
    Work.Meets latitude.Answers inv
      (fun report after => ∃ handle, holds handle after ∧ report.Reviews handle.record)
      (fun _ _ => True) (pipeline.sync partition) state := by
  refine Work.Meets.bind _ (openPartition_carries carries inside opens) ?_
  intro handle after _ held
  refine Work.Meets.bind _ (syncHandle_carries carries held) ?_
  exact fun result last inside reviewed => Work.Meets.pure inside ⟨result.2, reviewed⟩

variable (fills : ∀ {remapper : Remapper} {uploaded : List UploadedPair} {record grown : Record},
  record.Fills remapper uploaded grown → grows record grown)

include fills

theorem upload_carries :
    Work.Meets latitude.Answers inv (fun _ after => ∃ handle, holds handle after)
      (fun _ _ => True) (pipeline.upload partition) state := by
  refine Work.Meets.bind _ (openPartition_carries carries inside opens) ?_
  intro handle after _ held
  refine Work.Meets.bind _ (uploadHandle_carries carries fills held) ?_
  exact fun result last inside held => Work.Meets.pure inside ⟨result.2, held⟩

theorem publish_carries :
    Work.Meets latitude.Answers inv
      (fun report after => ∃ handle, holds handle after ∧
        (report.upload.interrupted = false → report.sync.Reviews handle.record))
      (fun _ _ => True) (pipeline.publish partition) state := by
  refine Work.Meets.bind _ (openPartition_carries carries inside opens) ?_
  intro handle after _ held
  refine Work.Meets.bind _ (uploadHandle_carries carries fills held) ?_
  rintro ⟨summary, later⟩ after inside held
  dsimp only at held ⊢
  split
  · rename_i cut
    refine Work.Meets.bind _ (emptyReport_runs carries.steady inside) ?_
    rintro report after inside ⟨_, quiet⟩
    refine Work.Meets.pure inside ⟨later, carries.rests held quiet, fun whole => ?_⟩
    rw [whole] at cut
    cases cut
  · refine Work.Meets.bind _ (syncHandle_carries carries held) ?_
    rintro ⟨report, last⟩ after inside ⟨held, reviews⟩
    exact Work.Meets.pure inside ⟨last, held, fun _ => reviews⟩

end Command

end Pipeline

end Cadastre
