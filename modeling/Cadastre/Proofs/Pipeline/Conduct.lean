import Cadastre.Pipeline.Publish
import Cadastre.Proofs.Cache.Progress
import Cadastre.Proofs.Job.Ending
import Cadastre.Proofs.Job.World
import Cadastre.Proofs.Storage.Provider

/-!
The conduct of a run at a site of any kind: whatever provider it has, whatever registry, and
whatever of these fails. The site keeps a diary of what was saved, of the arrays that were created
and of the registry writes that were begun.
-/

namespace Cadastre

namespace Site

inductive Event where
  | saved (contents : Bytes)
  | opened (handle : RegistryHandle)
  | begun (append : AppendCall)

structure Diary where
  cache : Option Bytes := none
  ledger : Option Bytes := none
  events : List Event := []

namespace Diary

def save (diary : Diary) (contents : Bytes) : Diary :=
  { diary with cache := some contents, events := diary.events ++ [.saved contents] }

def withLedger (diary : Diary) (ledger : Option Bytes) : Diary := { diary with ledger }

def note (diary : Diary) (event : Event) : Diary :=
  { diary with events := diary.events ++ [event] }

end Diary

/-- What a site may answer. A provider's answer that is no fault stores what it was given. -/
structure Conditions where
  Lists : List DirectoryEntry → Prop
  Reads : String → Bytes → Prop
  Delivers : List PreparedPair → List UploadedPair → Prop
  SavesFail : Prop
  stores : ∀ prepared uploaded, Delivers prepared uploaded →
    List.Forall₂ UploadedPair.Stores uploaded prepared

/-- How a call may be answered. What fails may have had its effect all the same, and at any call
the registry may do to its ledger what it likes. -/
def Conditions.Answers (conditions : Conditions) :
    (request : Call) → Diary → Answer request → Diary → Prop
  | .readCache, before, (reply : Except String (Option Bytes)), after =>
    after = before ∧ ∀ contents, reply = .ok contents → contents = before.cache
  | .replaceCache contents, before, (reply : Except String Unit), after =>
    match reply with
    | .ok () => after = before.save contents
    | .error _ => conditions.SavesFail ∧ (after = before ∨ after = before.save contents)
  | .listAssets, before, (reply : Except String (List DirectoryEntry)), after =>
    after = before ∧ ∀ entries, reply = .ok entries → conditions.Lists entries
  | .readAsset path, before, (reply : Except String Bytes), after =>
    after = before ∧ ∀ bytes, reply = .ok bytes → conditions.Reads path bytes
  | .storePairs pairs, before, (reply : Except StorageFault (List UploadedPair)), after =>
    after = before ∧ ∀ uploaded, reply = .ok uploaded → conditions.Delivers pairs uploaded
  | .register _ _, before, (reply : Except RegistryFault RegistryHandle), after =>
    ∃ ledger, match reply with
      | .ok handle => after = (before.withLedger ledger).note (.opened handle)
      | .error _ => after = before.withLedger ledger
  | .startAppend append, before, _, after =>
    ∃ ledger, after = (before.withLedger ledger).note (.begun append)
  | .awaitAppend _ _, before, _, after => ∃ ledger, after = before.withLedger ledger
  | .now, before, _, after => after = before

def openWorld (conditions : Conditions) : World Site :=
  ⟨Diary, fun _ _ => False, conditions.Answers⟩

end Site

/-- In a world that does not drift, a job that ends so does it also from the middle on, even if the
world has answers only where the job may ask. -/
theorem Job.ends_of_leads {S : Signature} {α : Type} {world : World S}
    {answers : (request : S.Call) → world.State → S.Answer request → world.State → Prop}
    {inv : world.State → Prop} {post : α → world.State → Prop} {job left : Job S α}
    {before after : world.State} (calm : ∀ before after, ¬ world.Drifts before after)
    (served : ∀ request before reply after, (∃ reply after, answers request before reply after) →
      world.Answers request before reply after → answers request before reply after)
    (leads : Leads world job before left after) (ends : job.Ends answers inv post before) :
    left.Ends answers inv post after := by
  induction leads with
  | rest => exact ends
  | drift step => exact absurd step (calm _ _)
  | call answer _ ih =>
      obtain ⟨_, asked, goes⟩ := ends
      exact ih (goes _ _ (served _ _ _ _ asked answer))

namespace Work

variable {State : Type}
  {answers : (request : Site.Call) → State → Site.Answer request → State → Prop}
  {inv : State → Prop} {α β ε : Type} {post other : α → State → Prop}
  {fails otherFails : PipelineFault → State → Prop} {state : State}

def result (post : α → State → Prop) (fails : PipelineFault → State → Prop) :
    Except PipelineFault α → State → Prop
  | .ok value => post value
  | .error fault => fails fault

/-- Whether a part of a run comes to its end, keeps the invariant at every point, and ends in
`post` or `fails`. -/
def Meets (answers : (request : Site.Call) → State → Site.Answer request → State → Prop)
    (inv : State → Prop) (post : α → State → Prop) (fails : PipelineFault → State → Prop)
    (work : Work α) (state : State) : Prop :=
  Job.Ends (S := Site) answers inv (result post fails) work.run state

namespace Meets

theorem pure {value : α} (inside : inv state) (holds : post value state) :
    Meets answers inv post fails (Pure.pure value) state :=
  ⟨inside, holds⟩

theorem throw {fault : PipelineFault} (inside : inv state) (failing : fails fault state) :
    Meets answers inv post fails (MonadExcept.throw fault : Work α) state :=
  ⟨inside, failing⟩

theorem bind {first : Work α} {second : α → Work β} (between : α → State → Prop)
    {post : β → State → Prop} (one : Meets answers inv between fails first state)
    (next : ∀ value after, inv after → between value after →
      Meets answers inv post fails (second value) after) :
    Meets answers inv post fails (first >>= second) state := by
  refine Job.Ends.bind one fun reply after inside held => ?_
  cases reply with
  | ok value => exact next value after inside held
  | error fault => exact ⟨inside, held⟩

theorem weaken {work : Work α} (meets : Meets answers inv post fails work state)
    (implies : ∀ value after, inv after → post value after → other value after)
    (failing : ∀ fault after, inv after → fails fault after → otherFails fault after) :
    Meets answers inv other otherFails work state := by
  refine Job.Ends.weaken meets fun reply after inside held => ?_
  cases reply with
  | ok value => exact implies value after inside held
  | error fault => exact failing fault after inside held

theorem lift {job : Job Site α} (ends : Job.Ends (S := Site) answers inv post job state) :
    Meets answers inv post fails (ExceptT.lift job) state :=
  Job.Ends.bind ends fun _ _ inside held => ⟨inside, held⟩

theorem expect {job : Job Site (Except ε α)} {meaning : ε → PipelineFault}
    (ends : Job.Ends (S := Site) answers inv
      (fun reply => result post fails (reply.mapError meaning)) job state) :
    Meets answers inv post fails (Work.expect job meaning) state :=
  Job.Ends.bind ends fun _ _ inside held => ⟨inside, held⟩

theorem check {outcome : Except ε α} {meaning : ε → PipelineFault} (inside : inv state)
    (good : ∀ value, outcome = .ok value → post value state)
    (bad : ∀ error, outcome = .error error → fails (meaning error) state) :
    Meets answers inv post fails (Work.check outcome meaning) state := by
  cases outcome with
  | ok value => exact ⟨inside, good value rfl⟩
  | error error => exact ⟨inside, bad error rfl⟩

theorem of_leads_served {conditions : Site.Conditions} {inv : Site.Diary → Prop}
    {post : α → Site.Diary → Prop} {fails : PipelineFault → Site.Diary → Prop} {work : Work α}
    {left : Job Site (Except PipelineFault α)} {before after : Site.Diary}
    {answers : (request : Site.Call) → Site.Diary → Site.Answer request → Site.Diary → Prop}
    (meets : Meets answers inv post fails work before)
    (served : ∀ request before reply after, (∃ reply after, answers request before reply after) →
      conditions.Answers request before reply after → answers request before reply after)
    (leads : Job.Leads (Site.openWorld conditions) work.run before left after) :
    inv after ∧ ∀ outcome, left = .done outcome → result post fails outcome after := by
  have rest := Job.ends_of_leads (fun _ _ => id) served leads meets
  refine ⟨rest.inside, ?_⟩
  rintro outcome rfl
  exact rest.2

theorem of_leads {conditions : Site.Conditions} {inv : Site.Diary → Prop}
    {post : α → Site.Diary → Prop} {fails : PipelineFault → Site.Diary → Prop} {work : Work α}
    {left : Job Site (Except PipelineFault α)} {before after : Site.Diary}
    (meets : Meets conditions.Answers inv post fails work before)
    (leads : Job.Leads (Site.openWorld conditions) work.run before left after) :
    inv after ∧ ∀ outcome, left = .done outcome → result post fails outcome after :=
  of_leads_served meets (fun _ _ _ _ _ => id) leads

end Meets

end Work

section

variable {conditions : Site.Conditions} {inv : Site.Diary → Prop}
  {fails : PipelineFault → Site.Diary → Prop} {state : Site.Diary}

namespace ProgressCache

variable {cache : ProgressCache} {partition : Partition}

theorem contents_meets (inside : inv state) (failing : ∀ fault, fails (.cache fault) state) :
    Work.Meets conditions.Answers inv (fun contents after => contents = state.cache ∧ after = state)
      fails contents state := by
  refine Work.Meets.expect (Job.Ends.ask inside ⟨.ok state.cache, state, rfl, ?_⟩ ?_)
  · rintro contents same
    cases same
    rfl
  · rintro reply after ⟨rfl, reading⟩
    cases reply with
    | ok contents => exact ⟨inside, reading contents rfl, rfl⟩
    | error reason => exact ⟨inside, failing _⟩

theorem readRecord_meets (inside : inv state) (failing : ∀ fault, fails (.cache fault) state) :
    Work.Meets conditions.Answers inv
      (fun found after => cache.load state.cache partition = .ok found ∧ after = state) fails
      (cache.readRecord partition) state := by
  refine Work.Meets.bind _ (contents_meets inside failing) ?_
  rintro contents after inside ⟨rfl, rfl⟩
  exact Work.Meets.check inside (fun found loaded => ⟨loaded, rfl⟩) fun fault _ => failing fault

theorem writeRecord_meets {record held : Record} (tells : cache.Tells state.cache partition held)
    (inside : inv state)
    (saves : ∀ bytes, cache.Renews partition record state.cache (some bytes) →
      inv (state.save bytes))
    (failing : ∀ fault after, fails (.cache fault) after) :
    Work.Meets conditions.Answers inv
      (fun _ after => ∃ bytes, cache.Renews partition record state.cache (some bytes) ∧
        after = state.save bytes) fails
      (cache.writeRecord partition record) state := by
  refine Work.Meets.bind _ (contents_meets inside fun fault => failing fault state) ?_
  rintro contents after inside ⟨rfl, rfl⟩
  obtain ⟨bytes, saved, renews⟩ := tells.save record
  have result : Work.check (cache.save after.cache partition record) PipelineFault.cache
      = (pure bytes : Work Bytes) := by
    rw [saved]
    rfl
  rw [result, pure_bind]
  refine Work.Meets.expect (Job.Ends.ask inside ⟨.ok (), _, rfl⟩ ?_)
  intro reply after answer
  cases reply with
  | ok done =>
      cases answer
      exact ⟨saves bytes renews, bytes, renews, rfl⟩
  | error reason =>
      obtain ⟨_, rfl | rfl⟩ := answer
      · exact ⟨inside, failing _ _⟩
      · exact ⟨saves bytes renews, failing _ _⟩

end ProgressCache

namespace Source

variable {dir : String} {remapper : Remapper} {partition : Partition} {pair : FilePair}

def ListedBy (lists : List DirectoryEntry → Prop) (dir : String) (remapper : Remapper)
    (partition : Partition) (candidates : List FilePair) : Prop :=
  ∃ entries, lists entries ∧ inPartition remapper partition (pairs dir entries) = .ok candidates

structure LoadedAs (reads : String → Bytes → Prop) (pair : FilePair) (prepared : PreparedPair) :
    Prop where
  key : prepared.key = pair.key
  image : reads pair.image prepared.image
  manifest : ∃ bytes, reads pair.metadata bytes ∧
    readManifest pair bytes = .ok prepared.manifest

theorem candidates_meets (inside : inv state) (failing : ∀ fault, fails fault state) :
    Work.Meets conditions.Answers inv
      (fun candidates after => ListedBy conditions.Lists dir remapper partition candidates ∧
        after = state) fails (candidates dir remapper partition) state := by
  have scanned : Work.Meets conditions.Answers inv (fun found after =>
      (∃ entries, conditions.Lists entries ∧ found = pairs dir entries) ∧ after = state) fails
      (scan dir) state := by
    refine Work.Meets.bind (fun entries after => conditions.Lists entries ∧ after = state)
      (Work.Meets.expect (Job.Ends.ask inside ⟨.error "", state, rfl, nofun⟩ ?_)) ?_
    · rintro reply after ⟨rfl, listed⟩
      cases reply with
      | ok entries => exact ⟨inside, listed entries rfl, rfl⟩
      | error reason => exact ⟨inside, failing _⟩
    · rintro entries after inside ⟨listed, rfl⟩
      exact Work.Meets.pure inside ⟨⟨entries, listed, rfl⟩, rfl⟩
  refine Work.Meets.bind _ scanned ?_
  rintro _ after inside ⟨⟨entries, listed, rfl⟩, rfl⟩
  exact Work.Meets.check inside (fun candidates found => ⟨⟨entries, listed, found⟩, rfl⟩)
    fun fault _ => failing _

theorem readAsset_meets {path : String} {meaning : String → PipelineFault} (inside : inv state)
    (failing : ∀ fault, fails fault state) :
    Work.Meets conditions.Answers inv
      (fun bytes after => conditions.Reads path bytes ∧ after = state) fails
      (Work.expect (Site.readAsset path) meaning) state := by
  refine Work.Meets.expect (Job.Ends.ask inside ⟨.error "", state, rfl, nofun⟩ ?_)
  rintro reply after ⟨rfl, read⟩
  cases reply with
  | ok bytes => exact ⟨inside, read bytes rfl, rfl⟩
  | error reason => exact ⟨inside, failing _⟩

theorem manifest_meets (inside : inv state) (failing : ∀ fault, fails fault state) :
    Work.Meets conditions.Answers inv
      (fun manifest after => (∃ bytes, conditions.Reads pair.metadata bytes ∧
        readManifest pair bytes = .ok manifest) ∧ after = state) fails (manifest pair) state := by
  refine Work.Meets.bind _ (readAsset_meets inside failing) ?_
  rintro bytes after inside ⟨read, rfl⟩
  exact Work.Meets.check inside (fun manifest found => ⟨⟨bytes, read, found⟩, rfl⟩)
    fun fault _ => failing _

theorem load_meets (inside : inv state) (failing : ∀ fault, fails fault state) :
    Work.Meets conditions.Answers inv
      (fun prepared after => LoadedAs conditions.Reads pair prepared ∧ after = state) fails
      (load pair) state := by
  refine Work.Meets.bind _ (readAsset_meets inside failing) ?_
  rintro image after inside ⟨read, rfl⟩
  refine Work.Meets.bind _ (manifest_meets inside failing) ?_
  rintro manifest last inside ⟨shown, rfl⟩
  exact Work.Meets.pure inside ⟨⟨rfl, read, shown⟩, rfl⟩

theorem loadAll_meets (group : List FilePair) (inside : inv state)
    (failing : ∀ fault, fails fault state) :
    Work.Meets conditions.Answers inv
      (fun prepared after => List.Forall₂ (LoadedAs conditions.Reads) group prepared ∧
        after = state) fails (group.mapM load) state := by
  induction group with
  | nil =>
      rw [List.mapM_nil]
      exact Work.Meets.pure inside ⟨.nil, rfl⟩
  | cons pair rest ih =>
      rw [List.mapM_cons]
      refine Work.Meets.bind _ (load_meets inside failing) ?_
      rintro first after _ ⟨loaded, rfl⟩
      refine Work.Meets.bind _ ih ?_
      rintro others last inside ⟨more, rfl⟩
      exact Work.Meets.pure inside ⟨.cons loaded more, rfl⟩

end Source

namespace Pipeline

theorem storePairs_meets {prepared : List PreparedPair} (inside : inv state)
    (failing : ∀ fault, fails fault state) :
    Work.Meets conditions.Answers inv
      (fun uploaded after => conditions.Delivers prepared uploaded ∧ after = state) fails
      (Work.expect (Site.storePairs prepared) PipelineFault.storage) state := by
  refine Work.Meets.expect (Job.Ends.ask inside ⟨.error (.io ""), state, rfl, nofun⟩ ?_)
  rintro reply after ⟨rfl, delivered⟩
  cases reply with
  | ok uploaded => exact ⟨inside, delivered uploaded rfl, rfl⟩
  | error fault => exact ⟨inside, failing _⟩

theorem now_meets (inside : inv state) :
    Work.Meets conditions.Answers inv (fun _ after => after = state) fails
      (ExceptT.lift Site.now) state := by
  refine Work.Meets.lift (Job.Ends.ask inside ⟨{ seconds := 0 }, state, rfl⟩ ?_)
  rintro reply after rfl
  exact ⟨inside, rfl⟩

theorem emptyReport_meets (inside : inv state) :
    Work.Meets conditions.Answers inv (fun report after => report.windows = [] ∧ after = state)
      fails emptyReport state := by
  refine Work.Meets.bind _ (now_meets inside) ?_
  rintro startedAt after inside rfl
  exact Work.Meets.pure inside ⟨rfl, rfl⟩

theorem register_meets {capacity : UInt32} {defaults : RegistryDefaults} (inside : inv state)
    (changes : ∀ ledger, inv (state.withLedger ledger))
    (opens : ∀ ledger handle, inv ((state.withLedger ledger).note (.opened handle)))
    (failing : ∀ fault ledger, fails fault (state.withLedger ledger)) :
    Work.Meets conditions.Answers inv
      (fun handle after => ∃ ledger, after = (state.withLedger ledger).note (.opened handle)) fails
      (Work.expect (Site.register capacity defaults) PipelineFault.registry) state := by
  refine Work.Meets.expect (Job.Ends.ask inside
    ⟨.error (.rejected ""), _, state.ledger, rfl⟩ ?_)
  rintro reply after ⟨ledger, answer⟩
  cases reply with
  | ok handle =>
      cases answer
      exact ⟨opens ledger handle, ledger, rfl⟩
  | error fault =>
      cases answer
      exact ⟨changes ledger, failing _ _⟩

theorem startAppend_meets {append : AppendCall} (inside : inv state)
    (begins : ∀ ledger, inv ((state.withLedger ledger).note (.begun append))) :
    Work.Meets conditions.Answers inv
      (fun _ after => ∃ ledger, after = (state.withLedger ledger).note (.begun append)) fails
      (ExceptT.lift (Site.startAppend append)) state := by
  refine Work.Meets.lift (Job.Ends.ask inside ⟨(), _, state.ledger, rfl⟩ ?_)
  rintro reply after ⟨ledger, rfl⟩
  exact ⟨begins ledger, ledger, rfl⟩

theorem awaitAppend_meets {first : AppendCall} {rest : List AppendCall} (inside : inv state)
    (changes : ∀ ledger, inv (state.withLedger ledger)) :
    Work.Meets conditions.Answers inv
      (fun _ after => ∃ ledger, after = state.withLedger ledger) fails
      (ExceptT.lift (Site.awaitAppend first rest)) state := by
  refine Work.Meets.lift (Job.Ends.ask inside
    ⟨(Site.foremost rest, .ok ()), _, state.ledger, rfl⟩ ?_)
  rintro reply after ⟨ledger, rfl⟩
  exact ⟨changes ledger, ledger, rfl⟩

end Pipeline

end

end Cadastre
