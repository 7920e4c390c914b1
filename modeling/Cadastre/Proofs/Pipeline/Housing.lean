import Cadastre.Pipeline.Workplace
import Cadastre.Proofs.Pipeline.Latitude

/-!
Sites on machines. Where nothing but saving touches the cache file, whatever else may happen to the
machine, a run at a workplace is one at a site that may do what it likes.
-/

namespace Cadastre

/-- Whether `cache` shows what the workplace's cache file holds: reading tells it, saving replaces
it or leaves it, and nothing else changes it. -/
structure Workplace.Houses (place : Workplace) (world : World Machine)
    (cache : world.State → Option Bytes) : Prop where
  drifts : ∀ before after, world.Drifts before after → cache after = cache before
  reads : ∀ before (reply : Except String (Option Bytes)) after,
    Job.Leads world (place.answer .readCache) before (.done reply) after →
      ∀ contents, reply = .ok contents → contents = cache before
  saves : ∀ contents before (reply : Except String Unit) after,
    Job.Leads world (place.answer (.replaceCache contents)) before (.done reply) after →
      cache after = some contents ∨ reply ≠ .ok () ∧ cache after = cache before
  others : ∀ request before reply after, (∀ contents, request ≠ .replaceCache contents) →
    Job.Leads world (place.answer request) before (.done reply) after →
      cache after = cache before

namespace Workplace.Houses

variable {world : World Machine} {place : Workplace} {cache : world.State → Option Bytes}
  {before after : world.State}

theorem answers (houses : place.Houses world cache) {request : Site.Call}
    {reply : Site.Answer request}
    (leads : Job.Leads world (place.answer request) before (.done reply) after)
    {journal : Site.Journal} (same : journal.cache = cache before) :
    ∃ later, Site.Latitude.free.Answers request journal reply later ∧
      later.cache = cache after := by
  have kept := houses.others request before reply after
  have heard : (∀ contents, request ≠ .replaceCache contents) →
      (journal.hear ⟨request, reply⟩).cache = cache after :=
    fun other => same.trans (kept other leads).symm
  cases request with
  | readCache =>
      refine ⟨_, ⟨rfl, fun contents told => ?_⟩, heard nofun⟩
      rw [same]
      exact houses.reads before reply after leads contents told
  | replaceCache contents =>
      have saved := houses.saves contents before reply after leads
      cases reply with
      | ok done =>
          refine ⟨_, rfl, ?_⟩
          exact (saved.resolve_right fun failed => failed.1 rfl).symm
      | error reason =>
          rcases saved with saved | ⟨_, left⟩
          · exact ⟨_, Or.inr rfl, saved.symm⟩
          · exact ⟨_, Or.inl rfl, same.trans left.symm⟩
  | listAssets => exact ⟨_, ⟨rfl, fun _ _ => trivial⟩, heard nofun⟩
  | storePairs pairs => exact ⟨_, ⟨rfl, fun _ _ => trivial⟩, heard nofun⟩
  | readAsset path => exact ⟨_, rfl, heard nofun⟩
  | register capacity defaults => exact ⟨_, rfl, heard nofun⟩
  | startAppend append => exact ⟨_, rfl, heard nofun⟩
  | awaitAppend first rest => exact ⟨_, rfl, heard nofun⟩
  | now => exact ⟨_, rfl, heard nofun⟩

theorem cache_eq_of_done (houses : place.Houses world cache) {α : Type} {value : α}
    {left : Job Machine α} (leads : Job.Leads world (.done value) before left after) :
    cache after = cache before := by
  have safe : Job.Safe world (fun state => cache state = cache before)
      (fun _ state => cache state = cache before) (.done value) before :=
    Job.Safe.done world (fun one other held drift => (houses.drifts one other drift).trans held)
      (fun _ held => held) rfl
  exact (safe left after leads).1

theorem leads_site (houses : place.Houses world cache) {α : Type} {job : Job Site α} {value : α}
    (leads : Job.Leads world (job.translate place.answer) before (.done value) after)
    {journal : Site.Journal} (same : journal.cache = cache before) :
    ∃ later, Job.Leads Site.Latitude.free.world job journal (.done value) later ∧
      later.cache = cache after := by
  induction job generalizing before journal with
  | done found =>
      obtain rfl := leads.eq_of_done
      exact ⟨journal, .rest _ _, same.trans (houses.cache_eq_of_done leads).symm⟩
  | call request next ih =>
      obtain ⟨reply, between, first, rest⟩ := Job.Leads.done_of_bind leads
      obtain ⟨middle, answer, held⟩ := houses.answers first same
      obtain ⟨later, goes, told⟩ := ih reply rest held
      exact ⟨later, .call answer goes, told⟩

end Workplace.Houses

/-- What holds of every run at a free site holds of what the machine did. -/
theorem Work.Meets.of_performed {world : World Machine} {place : Workplace}
    {cache : world.State → Option Bytes} {before after : world.State} {α : Type} {work : Work α}
    {value : α} {inv : Site.Journal → Prop} {post : α → Site.Journal → Prop}
    {fails : PipelineFault → Site.Journal → Prop}
    (meets : Work.Meets Site.Latitude.free.Answers inv post fails work { cache := cache before })
    (houses : place.Houses world cache)
    (leads : Job.Leads world (place.perform work) before (.done (.ok value)) after) :
    ∃ journal : Site.Journal, journal.cache = cache after ∧ post value journal := by
  let journal : Site.Journal := { cache := cache before }
  have same : journal.cache = cache before := rfl
  obtain ⟨later, goes, told⟩ := houses.leads_site leads same
  have ends := Job.ends_of_leads (fun _ _ => id) (fun _ _ _ _ _ answer => answer) goes meets
  exact ⟨later, told, ends.2⟩

end Cadastre
