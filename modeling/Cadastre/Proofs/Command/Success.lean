import Cadastre.Command.Run
import Cadastre.Proofs.Cache.Retelling
import Cadastre.Proofs.Pipeline.Carrying
import Cadastre.Proofs.Pipeline.Housing
import Cadastre.Proofs.Pipeline.Trial

/-!
What the success of a command tells of its partition. A command that writes to the registry fails
if some window failed, but not if some window was not ready: the partition is complete then only if
no item is pending.
-/

namespace Cadastre

/-- Whether a file, if it can be read, has this record of the partition, an empty one standing for
none. -/
def ProgressCache.Shows (cache : ProgressCache) (contents : Option Bytes) (partition : Partition)
    (record : Record) : Prop :=
  ∀ found, cache.load contents partition = .ok found → found.getD {} = record

namespace Pipeline

variable {latitude : Site.Latitude} {pipeline : Pipeline} {partition : Partition}
  {state : Site.Journal}

theorem shows_carries (pipeline : Pipeline) (partition : Partition) :
    Site.Carries pipeline.cache (fun _ _ => True) (fun _ => True)
      fun handle state => handle.partition = partition ∧
        pipeline.cache.Shows state.cache partition handle.record where
  order := ⟨fun _ => trivial, fun _ _ => trivial, fun _ => trivial, fun _ _ => trivial⟩
  steady _ _ _ := id
  inside := fun _ => trivial
  hears := fun held _ => held
  saves := by
    rintro ⟨_, _⟩ state grown bytes ⟨rfl, _⟩ _ saved
    refine ⟨rfl, fun found loaded => ?_⟩
    rw [ProgressCache.load_of_save saved loaded]
    rfl

theorem shows_opened (found : Option Record)
    (loaded : pipeline.cache.load state.cache partition = .ok found) :
    (⟨partition, found.getD {}⟩ : PartitionHandle).partition = partition ∧
      pipeline.cache.Shows state.cache partition (found.getD {}) := by
  refine ⟨rfl, fun other again => ?_⟩
  rw [loaded] at again
  cases again
  rfl

theorem sync_reviews :
    Work.Meets latitude.Answers (fun _ => True)
      (fun report after => ∃ record, pipeline.cache.Shows after.cache partition record ∧
        report.Reviews record)
      (fun _ _ => True) (pipeline.sync partition) state := by
  refine (sync_carries (pipeline.shows_carries partition) trivial shows_opened).weaken ?_
    fun _ _ _ => id
  rintro report after _ ⟨handle, ⟨_, shows⟩, reviews⟩
  exact ⟨handle.record, shows, reviews⟩

theorem publish_reviews :
    Work.Meets latitude.Answers (fun _ => True)
      (fun report after => ∃ record, pipeline.cache.Shows after.cache partition record ∧
        (report.upload.interrupted = false → report.sync.Reviews record))
      (fun _ _ => True) (pipeline.publish partition) state := by
  refine (publish_carries (pipeline.shows_carries partition) trivial shows_opened
    fun _ => trivial).weaken ?_ fun _ _ _ => id
  rintro report after _ ⟨handle, ⟨_, shows⟩, reviews⟩
  exact ⟨handle.record, shows, reviews⟩

end Pipeline

theorem CommandFault.exitCode_ne_zero (fault : CommandFault) : fault.exitCode ≠ 0 := by
  unfold exitCode
  split <;> decide

theorem Transcript.fault_eq_none {transcript : Transcript} (succeeded : transcript.exitCode = 0) :
    transcript.fault = none := by
  cases fault : transcript.fault with
  | none => rfl
  | some fault' =>
      rw [exitCode, fault] at succeeded
      exact absurd succeeded fault'.exitCode_ne_zero

namespace Command

def signing? : Command → Option Selection
  | .sync selection _ => some selection
  | .publish selection _ => some selection
  | _ => none

/-- How a command gets to work on a partition: it reads its settings, finds the partition in the
grid, and sets up what the settings describe. -/
inductive Prepares (world : World Machine) (settingsFile : String) (environment : Environment)
    (selection : Selection) (before : world.State) :
    Installation → Partition → world.State → Prop where
  | ready {config : Config} {installation : Installation} {partition : Partition}
      {between after : world.State} :
      Job.Leads world (Config.load settingsFile environment) before (.done (.ok config)) between →
      selection.resolve config.grid.layout = .ok partition →
      Job.Leads world (Installation.ofConfig config) between (.done (.ok installation)) after →
        Prepares world settingsFile environment selection before installation partition after

inductive Prints (partition : Partition) (report : SyncReport) : Command → List String → Prop where
  | sync (selection : Selection) (json : Bool) :
      Prints partition report (.sync selection json) (report.lines partition json)
  | publish (selection : Selection) (json : Bool) (upload : UploadSummary) :
      upload.interrupted = false → Prints partition report (.publish selection json)
        (upload.line partition :: report.lines partition json)

variable {world : World Machine} {settingsFile : String} {environment : Environment}
  {command : Command} {selection : Selection} {transcript : Transcript}
  {before after : world.State}

theorem exists_prepares
    {work : Installation → Partition → Job Machine Transcript}
    (runs : ∀ config, command.runWith config = onPartition config selection work)
    (ran : Job.Leads world (command.run settingsFile environment) before (.done transcript) after)
    (unfailed : transcript.fault = none) :
    ∃ installation partition ready,
      Prepares world settingsFile environment selection before installation partition ready ∧
      Job.Leads world (work installation partition) ready (.done transcript) after := by
  obtain ⟨loaded, between, loads, rest⟩ := Job.Leads.done_of_bind ran
  cases loaded with
  | error fault =>
      obtain rfl := rest.eq_of_done
      cases unfailed
  | ok config =>
      dsimp only at rest
      rw [runs, onPartition] at rest
      cases resolved : selection.resolve config.grid.layout with
      | error fault =>
          rw [resolved] at rest
          obtain rfl := rest.eq_of_done
          cases unfailed
      | ok partition =>
          rw [resolved] at rest
          obtain ⟨found, ready, sets, works⟩ := Job.Leads.done_of_bind rest
          cases found with
          | error fault =>
              obtain rfl := works.eq_of_done
              cases unfailed
          | ok installation =>
              exact ⟨installation, partition, ready, .ready loads resolved sets, works⟩

theorem exists_report_of_runSync {installation : Installation} {partition : Partition} {json : Bool}
    (ran : Job.Leads world (runSync json installation partition) before (.done transcript) after)
    (unfailed : transcript.fault = none) :
    ∃ report, transcript.lines = report.lines partition json ∧ report.failed = 0 ∧
      Job.Leads world (installation.perform fun pipeline => pipeline.sync partition) before
        (.done (.ok report)) after := by
  obtain ⟨found, between, performed, rest⟩ := Job.Leads.done_of_bind ran
  cases found with
  | error fault =>
      obtain rfl := rest.eq_of_done
      cases unfailed
  | ok report =>
      obtain rfl := rest.eq_of_done
      refine ⟨report, rfl, ?_, performed.lasts rest⟩
      simpa [windowFault?] using unfailed

theorem exists_report_of_runPublish {installation : Installation} {partition : Partition}
    {json : Bool}
    (ran : Job.Leads world (runPublish json installation partition) before (.done transcript) after)
    (unfailed : transcript.fault = none) :
    ∃ report, transcript.lines = report.upload.line partition :: report.sync.lines partition json ∧
      report.upload.interrupted = false ∧ report.sync.failed = 0 ∧
      Job.Leads world (installation.perform fun pipeline => pipeline.publish partition) before
        (.done (.ok report)) after := by
  obtain ⟨found, between, performed, rest⟩ := Job.Leads.done_of_bind ran
  cases found with
  | error fault =>
      obtain rfl := rest.eq_of_done
      cases unfailed
  | ok report =>
      obtain rfl := rest.eq_of_done
      obtain ⟨whole, clean⟩ := Option.or_eq_none_iff.mp unfailed
      refine ⟨report, rfl, ?_, ?_, performed.lasts rest⟩
      · simpa [interruption?] using whole
      · simpa [windowFault?] using clean

theorem tfae_of_shows {cache : ProgressCache} {contents : Option Bytes} {partition : Partition}
    {report : SyncReport}
    (told : ∃ record, cache.Shows contents partition record ∧ report.Reviews record)
    (clean : report.failed = 0) (found : Option Record)
    (loaded : cache.load contents partition = .ok found) :
    [report.isComplete = true,
      ∀ key item, (found.getD {}).get? key = some item → item.state = .onChain,
      ∀ key item, (found.getD {}).get? key = some item → item.state ≠ .pending].TFAE := by
  obtain ⟨record, shows, reviews⟩ := told
  rw [shows found loaded]
  exact reviews.tfae clean

/-- A command that wrote to the registry and succeeds has printed a report on which no window
failed. That report is complete just if no item that the cache file then has of the partition is
pending, and just then all of them are on chain: a window that was not ready fails no command. -/
theorem success_tfae (signing : command.signing? = some selection)
    (ran : Job.Leads world (command.run settingsFile environment) before (.done transcript) after)
    (succeeded : transcript.exitCode = 0) :
    ∃ installation partition ready report,
      Prepares world settingsFile environment selection before installation partition ready ∧
      Prints partition report command transcript.lines ∧ report.failed = 0 ∧
      ∀ cache : world.State → Option Bytes, installation.place.Houses world cache →
        ∀ found, installation.pipeline.cache.load (cache after) partition = .ok found →
          [report.isComplete = true,
            ∀ key item, (found.getD {}).get? key = some item → item.state = .onChain,
            ∀ key item, (found.getD {}).get? key = some item → item.state ≠ .pending].TFAE := by
  have unfailed := Transcript.fault_eq_none succeeded
  cases command with
  | sync selected json =>
      cases signing
      obtain ⟨installation, partition, ready, prepares, works⟩ :=
        exists_prepares (fun _ => rfl) ran unfailed
      obtain ⟨report, lines, clean, performed⟩ := exists_report_of_runSync works unfailed
      refine ⟨installation, partition, ready, report, prepares, lines ▸ .sync _ _, clean, ?_⟩
      intro cache houses
      obtain ⟨journal, same, told⟩ := Pipeline.sync_reviews.of_performed houses performed
      rw [← same]
      exact tfae_of_shows told clean
  | publish selected json =>
      cases signing
      obtain ⟨installation, partition, ready, prepares, works⟩ :=
        exists_prepares (fun _ => rfl) ran unfailed
      obtain ⟨report, lines, whole, clean, performed⟩ := exists_report_of_runPublish works unfailed
      refine ⟨installation, partition, ready, report.sync, prepares,
        lines ▸ .publish _ _ _ whole, clean, ?_⟩
      intro cache houses
      obtain ⟨journal, same, record, shows, reviews⟩ :=
        Pipeline.publish_reviews.of_performed houses performed
      rw [← same]
      exact tfae_of_shows ⟨record, shows, reviews whole⟩ clean
  | _ => cases signing

end Command

def Machine.readOnly (path : String) (contents : Bytes) :
    (request : Machine.Call) → Machine.Answer request
  | .readFile other =>
    (if other = path then .ok contents else .error ⟨true, "missing"⟩ : Except SystemFault Bytes)
  | .writeFile _ _ => (.error ⟨false, "read-only"⟩ : Except SystemFault Unit)
  | .replaceFile _ _ => (.error ⟨false, "read-only"⟩ : Except SystemFault Unit)
  | request => Trial.node request

theorem Machine.readOnly_readFile (path : String) (contents : Bytes) :
    Machine.readOnly path contents (.readFile path) = (.ok contents : Except SystemFault Bytes) :=
  if_pos rfl

theorem Workplace.houses_readOnly {place : Workplace} {path : String} {contents : Bytes}
    (same : place.cachePath = path) :
    place.Houses (World.fixed (Machine.readOnly path contents)) fun _ => some contents where
  drifts _ _ _ := rfl
  reads before reply after leads found told := by
    subst same
    obtain ⟨answered, between, asked, rest⟩ := Job.Leads.done_of_bind leads
    have read : answered = .ok contents :=
      (Job.eq_run_of_fixed asked).trans (Machine.readOnly_readFile _ _)
    rw [read] at rest
    obtain rfl := rest.eq_of_done
    cases told
    rfl
  saves found before reply after leads := by
    refine Or.inr ⟨?_, rfl⟩
    rintro rfl
    obtain ⟨answered, between, asked, rest⟩ := Job.Leads.done_of_bind leads
    obtain rfl := Job.eq_run_of_fixed asked
    cases rest.eq_of_done
  others _ _ _ _ _ _ := rfl

namespace Command

def halfStored : Bytes := Text.utf8 (
  "\x7b\"[0,0]\":\x7b\"program\":\x7b\"uniqueId\":\"u\",\"registryLocator\":\"r\"\x7d," ++
    "\"items\":\x7b\"0\":\x7b\"name\":\"Land #0\"\x7d,\"1\":\x7b\"link\":\"l\"," ++
      "\"name\":\"Land #1\"\x7d\x7d\x7d\x7d")

def twoCells : Environment :=
  [("TESSERA_GRID__GRID_WIDTH", "2"), ("TESSERA_GRID__GRID_HEIGHT", "1"),
    ("TESSERA_GRID__PARTITION_WIDTH", "2"), ("TESSERA_GRID__PARTITION_HEIGHT", "1")]

abbrev halfway : (request : Machine.Call) → Machine.Answer request :=
  Machine.readOnly ".cache/devnet-temp" halfStored

theorem halfway_of_prepares {installation : Installation} {partition : Partition} {ready : Unit}
    (prepares : Prepares (World.fixed halfway) "tessera.toml" twoCells { number := some 0 } ()
      installation partition ready) :
    installation.place.cachePath = ".cache/devnet-temp" ∧ ∃ record,
      installation.pipeline.cache.load (some halfStored) partition = .ok (some record) ∧
      record.stateOf? 0 = some .pending ∧ record.stateOf? 1 = some .uploaded := by
  have known : ((Config.load "tessera.toml" twoCells).run (m := Id) halfway).toOption.bind
      (fun config => ((Installation.ofConfig config).run (m := Id) halfway).toOption.map
        fun installation => (installation.place.cachePath,
          (({ number := some 0 } : Selection).resolve config.grid.layout).toOption,
          (installation.pipeline.cache.load (some halfStored) ⟨0, 0⟩).toOption.join.map
            fun record => (record.stateOf? 0, record.stateOf? 1)))
      = some (".cache/devnet-temp", some ⟨0, 0⟩, some (some .pending, some .uploaded)) := by
    decide +kernel
  obtain ⟨loads, resolved, sets⟩ := prepares
  rw [← Job.eq_run_of_fixed loads, Except.toOption, Option.bind_some, ← Job.eq_run_of_fixed sets,
    resolved] at known
  simp only [Except.toOption, Option.map_some, Option.some.injEq, Prod.mk.injEq] at known
  obtain ⟨path, rfl, states⟩ := known
  obtain ⟨record, read, states⟩ := Option.map_eq_some_iff.mp states
  refine ⟨path, record, ?_, Prod.mk.inj states⟩
  cases found : installation.pipeline.cache.load (some halfStored) ⟨0, 0⟩ with
  | error fault => simp [found] at read
  | ok held =>
      rw [found] at read
      exact congrArg Except.ok read

/-- A sync that succeeds while one item is pending, and another one stored but not on chain. -/
theorem sync_succeeds_beside_pending : ∃ (transcript : Transcript) (installation : Installation)
    (partition : Partition) (report : SyncReport) (record : Record),
    Job.Leads (World.fixed halfway)
      ((Command.sync { number := some 0 } false).run "tessera.toml" twoCells) ()
      (.done transcript) () ∧
    transcript.exitCode = 0 ∧
    Prints partition report (.sync { number := some 0 } false) transcript.lines ∧
    installation.place.Houses (World.fixed halfway) (fun _ => some halfStored) ∧
    installation.pipeline.cache.load (some halfStored) partition = .ok (some record) ∧
    record.stateOf? 0 = some .pending ∧ record.stateOf? 1 = some .uploaded ∧
    report.isComplete = false := by
  have ran := Job.leads_fixed halfway
    ((Command.sync { number := some 0 } false).run "tessera.toml" twoCells) ()
  have succeeded : (((Command.sync { number := some 0 } false).run "tessera.toml"
      twoCells).run (m := Id) halfway).exitCode = 0 := by
    decide +kernel
  obtain ⟨installation, partition, ready, report, prepares, prints, clean, told⟩ :=
    success_tfae rfl ran succeeded
  obtain ⟨path, record, loaded, pending, uploaded⟩ := halfway_of_prepares prepares
  obtain ⟨item, held, state⟩ := Option.map_eq_some_iff.mp pending
  have houses : installation.place.Houses (World.fixed halfway) fun _ => some halfStored :=
    Workplace.houses_readOnly path
  refine ⟨_, installation, partition, report, record, ran, succeeded, prints, houses, loaded,
    pending, uploaded, Bool.eq_false_of_not_eq_true fun complete => ?_⟩
  have stored := ((told _ houses (some record) loaded).out 0 2).mp complete
  exact stored 0 item held state

end Command

end Cadastre
