import Cadastre.Proofs.Pipeline.Carrying
import Cadastre.Proofs.Pipeline.Stage

/-!
Recorded progress is not lost. Through any calls, each answered as the site likes and stopped
wherever it may be, the cache file grows from one of its states to the next, and nothing is touched
but the entries of the partitions that the calls are on.
-/

namespace Cadastre

/-- What the cache file has held, from one content on: each state of it grew out of those before. -/
structure Site.Chained (cache : ProgressCache) (partition : Partition)
    (grows : Record → Record → Prop) (first : Option Bytes) (state : Journal) : Prop where
  first : state.files.head? = some first
  turns : state.files.Pairwise (cache.Turned (· = partition) grows)

structure Site.Stands (cache : ProgressCache) (partition : Partition)
    (grows : Record → Record → Prop) (first : Option Bytes) (handle : PartitionHandle)
    (state : Journal) : Prop where
  place : handle.partition = partition
  tells : cache.Tells state.cache partition handle.record
  chained : Chained cache partition grows first state

namespace Site.Stands

variable {cache : ProgressCache} {partition : Partition} {grows : Record → Record → Prop}
  {first : Option Bytes} {handle : PartitionHandle} {state : Journal} {grown : Record}
  {bytes : Bytes} {members : Json.Members}

theorem hear (stood : Stands cache partition grows first handle state) (exchange : Exchange) :
    Stands cache partition grows first handle (state.hear exchange) :=
  ⟨stood.place, stood.tells, stood.chained.first, stood.chained.turns⟩

theorem save (order : Record.Order grows) (stood : Stands cache partition grows first handle state)
    (step : grows handle.record grown)
    (saved : cache.save state.cache partition grown = .ok bytes) :
    Stands cache partition grows first { handle with record := grown } (state.save bytes) := by
  obtain ⟨tells, turned⟩ := stood.tells.turns order step saved
  refine ⟨stood.place, tells, ?_, ?_⟩
  · rw [Journal.files_save, List.head?_append_of_ne_nil]
    · exact stood.chained.first
    · simp [Journal.files]
  · rw [Journal.files_save, List.pairwise_append]
    refine ⟨stood.chained.turns, List.pairwise_singleton _ _, ?_⟩
    intro file member last inside
    rw [List.mem_singleton] at inside
    subst inside
    rcases List.mem_append.mp member with earlier | current
    · have before := (List.pairwise_append.mp stood.chained.turns).2.2
      exact (before file earlier _ List.mem_cons_self).trans order turned
    · rw [List.mem_singleton] at current
      subst current
      exact turned

theorem begun (opens : cache.Opens first members) (partition : Partition) {found : Option Record}
    (loaded : cache.load first partition = .ok found) :
    Stands cache partition grows first ⟨partition, found.getD {}⟩ { cache := first } :=
  ⟨rfl, ⟨⟨members, opens⟩, found, loaded, rfl⟩, rfl, List.pairwise_singleton _ _⟩

end Site.Stands

namespace Pipeline

variable {latitude : Site.Latitude} {pipeline : Pipeline} {partition : Partition}
  {grows : Record → Record → Prop} {first : Option Bytes} {members : Json.Members}

abbrev Stands (pipeline : Pipeline) (partition : Partition) (grows : Record → Record → Prop)
    (first : Option Bytes) : PartitionHandle → Site.Journal → Prop :=
  Site.Stands pipeline.cache partition grows first

abbrev Chained (pipeline : Pipeline) (partition : Partition) (grows : Record → Record → Prop)
    (first : Option Bytes) : Site.Journal → Prop :=
  Site.Chained pipeline.cache partition grows first

theorem stands_carries (pipeline : Pipeline) (order : Record.Order grows) (partition : Partition)
    (first : Option Bytes) :
    Site.Carries pipeline.cache grows (pipeline.Chained partition grows first)
      (pipeline.Stands partition grows first) where
  order := order
  steady _ _ _ chained := ⟨chained.first, chained.turns⟩
  inside := Site.Stands.chained
  hears := Site.Stands.hear
  saves := by
    intro handle state grown bytes stood step saved
    rw [stood.place] at saved
    exact stood.save order step saved

theorem sync_chained (order : Record.Order grows) (opens : pipeline.cache.Opens first members) :
    Work.Meets latitude.Answers (pipeline.Chained partition grows first) (fun _ _ => True)
      (fun _ _ => True) (pipeline.sync partition) { cache := first } :=
  (sync_carries (pipeline.stands_carries order partition first)
    ⟨rfl, List.pairwise_singleton _ _⟩ fun _ => Site.Stands.begun opens partition).weaken
      (fun _ _ _ _ => trivial) fun _ _ _ => id

theorem Task.work_chained (task : Task) (opens : pipeline.cache.Opens first members) :
    Work.Meets latitude.Answers (pipeline.Chained partition Record.Advances first)
      (fun _ _ => True) (fun _ _ => True) (task.work pipeline partition) { cache := first } := by
  have carries := pipeline.stands_carries Record.order_advances partition first
  have inside : pipeline.Chained partition Record.Advances first { cache := first } :=
    ⟨rfl, List.pairwise_singleton _ _⟩
  cases task with
  | upload =>
      refine Work.Meets.bind _ (upload_carries carries inside
        (fun _ => Site.Stands.begun opens partition) Record.Fills.advances) ?_
      exact fun _ _ inside _ => Work.Meets.pure inside trivial
  | sync =>
      refine Work.Meets.bind _ (sync_chained Record.order_advances opens) ?_
      exact fun _ _ inside _ => Work.Meets.pure inside trivial
  | publish =>
      refine Work.Meets.bind _ (publish_carries carries inside
        (fun _ => Site.Stands.begun opens partition) Record.Fills.advances) ?_
      exact fun _ _ inside _ => Work.Meets.pure inside trivial

end Pipeline

namespace Site

structure Passage where
  task : Pipeline.Task
  partition : Partition
  files : List (Option Bytes)

/-- Calls one after the other by pipelines with one cache file, from one content of it on. Each may
be stopped at any point. -/
inductive Course (latitude : Latitude) (cache : ProgressCache) :
    Option Bytes → List Passage → Prop where
  | none (file : Option Bytes) : Course latitude cache file []
  | call {pipeline : Pipeline} {task : Pipeline.Task} {partition : Partition} {file : Option Bytes}
      {left : Job Site (Except PipelineFault Unit)} {state : Journal} {rest : List Passage} :
      pipeline.cache = cache →
      Job.Leads latitude.world (task.work pipeline partition).run { cache := file } left state →
      Course latitude cache state.cache rest →
        Course latitude cache file (⟨task, partition, state.files⟩ :: rest)

namespace Course

variable {latitude : Latitude} {cache : ProgressCache} {file : Option Bytes}
  {passages early among late : List Passage} {members : Json.Members} {named : Partition → Prop}

theorem exists_opens_of_chained {partition : Partition} {grows : Record → Record → Prop}
    {state : Journal} (opens : cache.Opens file members)
    (chained : Chained cache partition grows file state) :
    ∃ later, cache.Opens state.cache later := by
  obtain ⟨first, turns⟩ := chained
  unfold Journal.files at first turns
  cases past : state.past with
  | nil =>
      rw [past] at first
      cases first
      exact ⟨members, opens⟩
  | cons earlier rest =>
      rw [past] at turns
      obtain ⟨_, later, _, opened, _⟩ :=
        (List.pairwise_append.mp turns).2.2 earlier List.mem_cons_self _ List.mem_cons_self
      exact ⟨later, opened⟩

theorem turned_of_chained {partition : Partition} {grows : Record → Record → Prop}
    {state : Journal} (order : Record.Order grows) (opens : cache.Opens file members)
    (chained : Chained cache partition grows file state) :
    ∀ content ∈ state.files, cache.Turned (· = partition) grows file content ∧
      cache.Turned (· = partition) grows content state.cache := by
  obtain ⟨later, opened⟩ := exists_opens_of_chained opens chained
  obtain ⟨first, turns⟩ := chained
  intro content member
  constructor
  · cases files : state.files with
    | nil =>
        rw [files] at member
        cases member
    | cons head rest =>
        rw [files] at first turns member
        cases first
        rcases List.mem_cons.mp member with rfl | after
        · exact .refl _ order opens
        · exact (List.pairwise_cons.mp turns).1 content after
  · rcases List.mem_append.mp member with earlier | current
    · exact (List.pairwise_append.mp turns).2.2 content earlier _ List.mem_cons_self
    · rw [List.mem_singleton] at current
      subst current
      exact .refl _ order opened

theorem chained_of_leads {pipeline : Pipeline} {task : Pipeline.Task} {partition : Partition}
    {left : Job Site (Except PipelineFault Unit)} {state : Journal}
    (opens : pipeline.cache.Opens file members)
    (leads : Job.Leads latitude.world (task.work pipeline partition).run { cache := file } left
      state) :
    Chained pipeline.cache partition Record.Advances file state :=
  (task.work_chained opens).keeps leads

theorem turned (course : Course latitude cache file passages) (opens : cache.Opens file members)
    (calls : ∀ passage ∈ passages, named passage.partition) :
    (∀ content ∈ passages.flatMap Passage.files,
      cache.Turned named Record.Advances file content) ∧
    (passages.flatMap Passage.files).Pairwise (cache.Turned named Record.Advances) := by
  induction course generalizing members with
  | none => exact ⟨nofun, List.Pairwise.nil⟩
  | @call pipeline task partition file left state rest same leads _ ih =>
      subst same
      have chained := chained_of_leads opens leads
      obtain ⟨later, opened⟩ := exists_opens_of_chained opens chained
      obtain ⟨onward, turns⟩ := ih opened fun passage member =>
        calls passage (List.mem_cons_of_mem _ member)
      have within : ∀ other, other = partition → named other := by
        rintro _ rfl
        exact calls _ List.mem_cons_self
      have inner := turned_of_chained Record.order_advances opens chained
      rw [List.flatMap_cons]
      refine ⟨fun content member => ?_, List.pairwise_append.mpr ⟨?_, turns, ?_⟩⟩
      · rcases List.mem_append.mp member with here | there
        · exact (inner content here).1.widen within
        · have first := (inner _ (List.mem_append_right _ List.mem_cons_self)).1.widen within
          exact first.trans Record.order_advances (onward content there)
      · exact chained.turns.imp fun turned => turned.widen within
      · intro content here other there
        exact ((inner content here).2.widen within).trans Record.order_advances
          (onward other there)

theorem drop (course : Course latitude cache file (early ++ late))
    (opens : cache.Opens file members) :
    ∃ middle later, cache.Opens middle later ∧ Course latitude cache middle late := by
  induction early generalizing file members with
  | nil => exact ⟨file, members, opens, course⟩
  | cons passage rest ih =>
      cases course with
      | call same leads more =>
          subst same
          obtain ⟨later, opened⟩ := exists_opens_of_chained opens (chained_of_leads opens leads)
          exact ih more opened

theorem take (course : Course latitude cache file (early ++ late)) :
    Course latitude cache file early := by
  induction early generalizing file with
  | nil => exact .none file
  | cons passage rest ih =>
      cases course with
      | call same leads more => exact .call same leads (ih more)

theorem sync_turned (course : Course latitude cache file passages)
    (opens : cache.Opens file members) : ∀ passage ∈ passages, passage.task = .sync →
      passage.files.Pairwise (cache.Turned (· = passage.partition) Record.Signs) := by
  induction course generalizing members with
  | none => exact nofun
  | @call pipeline task partition file left state rest same leads _ ih =>
      subst same
      obtain ⟨later, opened⟩ := exists_opens_of_chained opens (chained_of_leads opens leads)
      intro passage member signing
      rcases List.mem_cons.mp member with rfl | after
      · cases signing
        have meets : Work.Meets latitude.Answers
            (pipeline.Chained partition Record.Signs file) (fun _ _ => True) (fun _ _ => True)
            (Pipeline.Task.sync.work pipeline partition) { cache := file } :=
          Work.Meets.bind _ (Pipeline.sync_chained Record.order_signs opens)
            fun _ _ inside held => Work.Meets.pure inside held
        exact (meets.keeps leads).turns
      · exact ih opened passage after signing

/-- Whatever calls are made and however they end, of any two contents of the cache file the later
one has all the progress of the earlier. Calls in between touch no entry but those of their own
partitions, and a call that writes to a registry changes no link, no name and no set of keys. -/
theorem progress_lasts (course : Course latitude cache file passages)
    (holds : ProgressCache.HoldsObject file members) (lasting : (Json.object members).Lasting) :
    (∀ among, among <:+: passages → (among.flatMap Passage.files).Pairwise
      (ProgressCache.Extends (fun partition => partition ∈ among.map Passage.partition)
        Record.Advances)) ∧
    ∀ passage ∈ passages, passage.task = .sync → passage.files.Pairwise
      (ProgressCache.Extends (fun partition => partition = passage.partition) Record.Signs) := by
  have opens := ProgressCache.opens_of_holdsObject cache holds lasting
  refine ⟨?_, fun passage member signing => ?_⟩
  · rintro among ⟨early, late, rfl⟩
    rw [List.append_assoc] at course
    obtain ⟨middle, later, opened, rest⟩ := course.drop opens
    have turns := (rest.take.turned opened fun passage member =>
      List.mem_map_of_mem member).2
    exact turns.imp fun turned => turned.extends
  · exact (course.sync_turned opens passage member signing).imp fun turned => turned.extends

end Course

theorem Stage.leads_jot {α : Type} (stage : Stage) (work : Work α) (journal : Journal) :
    Job.Leads Latitude.free.world work.run journal
      (.done (work.run.follow (S := Site) stage.jot journal).1)
      (work.run.follow (S := Site) stage.jot journal).2 := by
  have answers : ∀ request state, Latitude.free.Answers request state (stage.jot request state).1
      (stage.jot request state).2 := stage.answers_jot trivial fun _ _ _ => trivial
  have asked : ∀ request state, Job.Leads Latitude.free.world (Job.ask (S := Site) request) state
      (.done (stage.jot request state).1) (stage.jot request state).2 :=
    fun request state => .ask (answers request state)
  exact Job.leads_follow asked work.run journal

def Stage.passages (stage : Stage) (pipeline : Pipeline) :
    Option Bytes → List (Pipeline.Task × Partition) → List Passage
  | _, [] => []
  | file, (task, partition) :: rest =>
    let state := ((task.work pipeline partition).run.follow (S := Site) stage.jot
      { cache := file }).2
    ⟨task, partition, state.files⟩ :: stage.passages pipeline state.cache rest

theorem Stage.course_passages (stage : Stage) (pipeline : Pipeline) (file : Option Bytes)
    (calls : List (Pipeline.Task × Partition)) :
    Course Latitude.free pipeline.cache file (stage.passages pipeline file calls) := by
  induction calls generalizing file with
  | nil => exact .none file
  | cons call rest ih => exact .call rfl (stage.leads_jot _ _) (ih _)

def olderFile : Bytes := Text.utf8 (
  "\x7b\"[0,0]\":\x7b\"items\":\x7b\"0\":\x7b\"name\":\"Land #0\"\x7d,\"1\":\x7b" ++
    "\"link\":\"l\",\"name\":\"Land #1\",\"onChain\":true\x7d\x7d\x7d,\"note\":1.5\x7d")

/-- A file of an earlier version, in which one item is pending and the other is on chain. -/
theorem Course.older_file_advances : ∃ members passages,
    ProgressCache.HoldsObject (some olderFile) members ∧ (Json.object members).Lasting ∧
      Course Latitude.free Stage.pipeline.cache (some olderFile) passages ∧
      (passages.map fun passage => (passage.task matches .sync, passage.files.length))
        = [(false, 4), (true, 1)] ∧
      (∀ among, among <:+: passages → (among.flatMap Passage.files).Pairwise
        (ProgressCache.Extends (fun partition => partition ∈ among.map Passage.partition)
          Record.Advances)) ∧
      ∀ passage ∈ passages, passage.task = .sync → passage.files.Pairwise
        (ProgressCache.Extends (fun partition => partition = passage.partition)
          Record.Signs) := by
  have lasts : (Json.read? olderFile).all (fun value => decide value.Lasting) = true := by
    decide +kernel
  have course := Stage.sample.course_passages Stage.pipeline (some olderFile)
    [(.publish, ⟨0, 0⟩), (.sync, ⟨0, 0⟩)]
  have lengths : ((Stage.sample.passages Stage.pipeline (some olderFile)
      [(.publish, ⟨0, 0⟩), (.sync, ⟨0, 0⟩)]).map fun passage =>
        (passage.task matches .sync, passage.files.length)) = [(false, 4), (true, 1)] := by
    decide +kernel
  have opens : (ProgressCache.members Stage.pipeline.cache (some olderFile)).toBool = true := by
    decide +kernel
  cases read : ProgressCache.members Stage.pipeline.cache (some olderFile) with
  | error fault =>
      rw [read] at opens
      cases opens
  | ok members =>
      have holds := ProgressCache.holdsObject_of_members read
      have lasting : (Json.object members).Lasting := by
        rw [ProgressCache.HoldsObject] at holds
        rw [holds, Option.all_some, decide_eq_true_eq] at lasts
        exact lasts
      obtain ⟨advances, signs⟩ := course.progress_lasts holds lasting
      exact ⟨members, _, holds, lasting, course, lengths, advances, signs⟩

end Site

end Cadastre
