import Cadastre.Job

/-!
Jobs in a world. A world has a state, which may drift of itself; it says how a call may be answered
and what the answer leaves. A job may stop at any point, and a job is safe if whatever may have
happened until then keeps an invariant.
-/

namespace Cadastre

structure World (S : Signature) where
  State : Type
  /-- What may happen at any time. -/
  Drifts : State → State → Prop
  Answers : (request : S.Call) → State → S.Answer request → State → Prop

def World.fixed {S : Signature} (answer : (request : S.Call) → S.Answer request) : World S :=
  ⟨Unit, fun _ _ => False, fun request _ reply _ => reply = answer request⟩

def World.Stable {S : Signature} (world : World S) (holds : world.State → Prop) : Prop :=
  ∀ before after, holds before → world.Drifts before after → holds after

namespace Job

variable {S : Signature} {world : World S} {α β : Type}

/-- What may be left of a job and of the world's state once a part of the job is done. -/
inductive Leads (world : World S) :
    Job S α → world.State → Job S α → world.State → Prop where
  | rest (job : Job S α) (state : world.State) : Leads world job state job state
  | drift {job left : Job S α} {before between after : world.State} :
      world.Drifts before between → Leads world job between left after →
        Leads world job before left after
  | call {request : S.Call} {next : S.Answer request → Job S α} {left : Job S α}
      {reply : S.Answer request} {before between after : world.State} :
      world.Answers request before reply between → Leads world (next reply) between left after →
        Leads world (.call request next) before left after

theorem Leads.trans {job left last : Job S α} {before between after : world.State}
    (first : Leads world job before left between) (second : Leads world left between last after) :
    Leads world job before last after := by
  induction first with
  | rest => exact second
  | drift step _ ih => exact .drift step (ih second)
  | call answer _ ih => exact .call answer (ih second)

theorem Leads.ask {request : S.Call} {reply : S.Answer request} {before after : world.State}
    (answer : world.Answers request before reply after) :
    Leads world (Job.ask request) before (.done reply) after :=
  .call answer (.rest _ _)

theorem Leads.bind {job left : Job S α} {before after : world.State}
    (leads : Leads world job before left after) (next : α → Job S β) :
    Leads world (job.bind next) before (left.bind next) after := by
  induction leads with
  | rest job state => exact .rest _ _
  | drift step _ ih => exact .drift step ih
  | call answer _ ih => exact .call answer ih

theorem Leads.of_bind {job : Job S α} {next : α → Job S β} {left : Job S β}
    {before after : world.State} (leads : Leads world (job.bind next) before left after) :
    (∃ rest, left = rest.bind next ∧ Leads world job before rest after) ∨
      ∃ value between, Leads world job before (.done value) between ∧
        Leads world (next value) between left after := by
  generalize whole : job.bind next = both at leads
  induction leads generalizing job with
  | rest both state => exact Or.inl ⟨job, whole.symm, .rest job state⟩
  | drift step more ih =>
      rcases ih whole with ⟨rest, same, first⟩ | ⟨value, between, first, second⟩
      · exact Or.inl ⟨rest, same, .drift step first⟩
      · exact Or.inr ⟨value, between, .drift step first, second⟩
  | @call request goes left reply before between after answer more ih =>
      cases job with
      | done value =>
          refine Or.inr ⟨value, before, .rest _ _, ?_⟩
          have same : next value = .call request goes := whole
          rw [same]
          exact .call answer more
      | call asked answered =>
          cases whole
          rcases ih rfl with ⟨rest, same, first⟩ | ⟨value, between, first, second⟩
          · exact Or.inl ⟨rest, same, .call answer first⟩
          · exact Or.inr ⟨value, between, .call answer first, second⟩

theorem Leads.of_done {value : α} {left : Job S α} {before after : world.State}
    (leads : Leads world (.done value) before left after) :
    left = .done value ∧ ∀ other : β, Leads world (.done other) before (.done other) after := by
  obtain ⟨job, whole⟩ : ∃ job, Job.done value = job := ⟨_, rfl⟩
  rw [whole] at leads
  induction leads with
  | rest => exact ⟨whole.symm, fun other => .rest _ _⟩
  | drift step _ ih =>
      obtain ⟨same, later⟩ := ih whole
      exact ⟨same, fun other => .drift step (later other)⟩
  | call => cases whole

/-- The job's end and the state there, with each call answered as it is told. -/
def follow {State : Type} (answer : (request : S.Call) → State → S.Answer request × State) :
    Job S α → State → α × State
  | done value, state => (value, state)
  | call request next, state =>
    let (reply, after) := answer request state
    follow answer (next reply) after

theorem leads_follow {answer : (request : S.Call) → world.State → S.Answer request × world.State}
    (asked : ∀ request state,
      Leads world (ask request) state (.done (answer request state).1) (answer request state).2)
    (job : Job S α) (state : world.State) :
    Leads world job state (.done (job.follow answer state).1) (job.follow answer state).2 := by
  induction job generalizing state with
  | done value => exact .rest _ _
  | call request next ih => exact ((asked request state).bind next).trans (ih _ _)

/-- Whether every point that the job may come to from here keeps the invariant, and every end has
its value as `post` says. -/
def Safe (world : World S) (inv : world.State → Prop) (post : α → world.State → Prop)
    (job : Job S α) (state : world.State) : Prop :=
  ∀ left after, Leads world job state left after →
    inv after ∧ ∀ value, left = .done value → post value after

namespace Safe

variable {inv : world.State → Prop} {post : α → world.State → Prop} {state : world.State}

variable (world) in
theorem done {value : α} (stable : world.Stable (post value))
    (inside : ∀ state, post value state → inv state) (holds : post value state) :
    Safe world inv post (.done value) state := by
  intro left after leads
  generalize whole : Job.done value = job at leads
  induction leads with
  | rest =>
      subst whole
      refine ⟨inside _ holds, fun found same => ?_⟩
      cases same
      exact holds
  | drift step _ ih => exact ih (stable _ _ holds step) whole
  | call => cases whole

theorem call {pre : world.State → Prop} {request : S.Call} {next : S.Answer request → Job S α}
    (stable : world.Stable pre) (inside : ∀ state, pre state → inv state)
    (goes : ∀ before reply after, pre before → world.Answers request before reply after →
      Safe world inv post (next reply) after)
    (holds : pre state) : Safe world inv post (.call request next) state := by
  intro left after leads
  generalize whole : Job.call request next = job at leads
  induction leads with
  | rest =>
      subst whole
      exact ⟨inside _ holds, fun _ same => by cases same⟩
  | drift step _ ih => exact ih (stable _ _ holds step) whole
  | call answer more =>
      cases whole
      exact goes _ _ _ holds answer _ _ more

theorem bind {between : α → world.State → Prop} {post : β → world.State → Prop} {job : Job S α}
    {next : α → Job S β} (first : Safe world inv between job state)
    (second : ∀ value after, between value after → Safe world inv post (next value) after) :
    Safe world inv post (job.bind next) state := by
  intro left after leads
  rcases leads.of_bind with ⟨rest, rfl, part⟩ | ⟨value, middle, whole, part⟩
  · refine ⟨(first rest after part).1, fun found ended => ?_⟩
    cases rest with
    | done value =>
        have held := (first _ after part).2 value rfl
        exact (second value after held _ after (.rest _ _)).2 found ended
    | call request answer => cases ended
  · have held := (first _ middle whole).2 value rfl
    exact second value middle held left after part

variable (world) in
theorem ask (request : S.Call) {pre : world.State → Prop}
    {post : S.Answer request → world.State → Prop} (stable : world.Stable pre)
    (inside : ∀ state, pre state → inv state)
    (answered : ∀ before reply after, pre before → world.Answers request before reply after →
      post reply after)
    (stableAfter : ∀ reply, world.Stable (post reply))
    (insideAfter : ∀ reply state, post reply state → inv state) (holds : pre state) :
    Safe world inv post (Job.ask request) state :=
  call stable inside (fun before reply after held answer =>
    done world (stableAfter reply) (insideAfter reply) (answered before reply after held answer)) holds

variable (world) in
theorem map {job : Job S α} (change : α → β) (post : β → world.State → Prop)
    (safe : Safe world inv (fun value => post (change value)) job state) :
    Safe world inv post (job.bind fun value => .done (change value)) state := by
  intro left after leads
  rcases leads.of_bind with ⟨rest, rfl, part⟩ | ⟨value, middle, whole, part⟩
  · refine ⟨(safe rest after part).1, fun found ended => ?_⟩
    cases rest with
    | done value =>
        cases ended
        exact (safe _ after part).2 value rfl
    | call request answer => cases ended
  · obtain ⟨rfl, later⟩ := part.of_done
    obtain ⟨kept, held⟩ := safe _ after (whole.trans (later value))
    refine ⟨kept, fun found ended => ?_⟩
    cases ended
    exact held value rfl

theorem weaken {job : Job S α} {other : α → world.State → Prop}
    (safe : Safe world inv post job state)
    (implies : ∀ value state, post value state → other value state) :
    Safe world inv other job state := fun left after leads =>
  ⟨(safe left after leads).1, fun value same => implies _ _ ((safe left after leads).2 value same)⟩

theorem relax {job : Job S α} {wider : world.State → Prop} (safe : Safe world inv post job state)
    (implies : ∀ state, inv state → wider state) : Safe world wider post job state :=
  fun left after leads => ⟨implies _ (safe left after leads).1, (safe left after leads).2⟩

end Safe

theorem Leads.eq_of_done {value result : α} {before after : world.State}
    (leads : Leads world (.done value) before (.done result) after) : result = value := by
  cases (leads.of_done (β := α)).1
  rfl

theorem Leads.lasts {job : Job S α} {value : α} {found result : β}
    {before between after : world.State} (first : Leads world job before (.done value) between)
    (rest : Leads world (.done found) between (.done result) after) :
    Leads world job before (.done value) after :=
  first.trans (rest.of_done.2 value)

theorem Leads.done_of_bind {job : Job S α} {next : α → Job S β} {result : β}
    {before after : world.State} (leads : Leads world (job >>= next) before (.done result) after) :
    ∃ value between, Leads world job before (.done value) between ∧
      Leads world (next value) between (.done result) after := by
  rcases leads.of_bind with ⟨rest, same, first⟩ | parts
  · cases rest with
    | done value =>
        have ended : Job.done result = next value := same
        refine ⟨value, after, first, ?_⟩
        rw [← ended]
        exact .rest _ _
    | call request answer => cases same
  · exact parts

/-- Whether the job may come to this value, whatever it is answered. -/
def Yields : Job S α → α → Prop
  | .done found, value => found = value
  | .call _ next, value => ∃ reply, (next reply).Yields value

theorem yields_bind (job : Job S α) (next : α → Job S β) (value : β) :
    (job.bind next).Yields value ↔ ∃ found, job.Yields found ∧ (next found).Yields value := by
  induction job with
  | done found => simp [bind, Yields]
  | call request answer ih =>
      simp only [bind, Yields, ih]
      constructor
      · rintro ⟨reply, found, first, second⟩
        exact ⟨found, ⟨reply, first⟩, second⟩
      · rintro ⟨found, ⟨reply, first⟩, second⟩
        exact ⟨reply, found, first, second⟩

section Fixed

variable {answer : (request : S.Call) → S.Answer request}

theorem leads_fixed (answer : (request : S.Call) → S.Answer request) (job : Job S α)
    (state : Unit) :
    Leads (World.fixed answer) job state (.done (job.run (m := Id) answer)) state := by
  induction job with
  | done value => exact .rest _ _
  | call request next ih =>
      refine .call ?_ (ih (answer request))
      exact rfl

theorem eq_run_of_fixed {job : Job S α} {value : α} {before after : (World.fixed answer).State}
    (leads : Leads (World.fixed answer) job before (.done value) after) :
    value = job.run (m := Id) answer := by
  induction job generalizing before with
  | done found => exact leads.eq_of_done
  | call request next ih =>
      cases leads with
      | drift step => exact step.elim
      | call answered rest =>
          cases answered
          exact ih (answer request) rest

end Fixed

end Job

end Cadastre
