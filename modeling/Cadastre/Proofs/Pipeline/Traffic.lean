import Cadastre.Pipeline.Sync
import Cadastre.Proofs.Cache.Progress
import Cadastre.Proofs.Job.Ending

/-!
The registry writes of a run, as a site sees them: those begun so far and those that are not
answered yet. Whichever of these a run waits for may be answered first, each by a verdict that is
its own; the cache file can be read and replaced.
-/

namespace Cadastre

namespace Site

structure Traffic where
  begun : List AppendCall := []
  outstanding : List AppendCall := []

structure Manner where
  cache : ProgressCache
  verdict : AppendCall → Except RegistryFault Unit
  clock : Moment

def Traffic.begin (traffic : Traffic) (append : AppendCall) : Traffic :=
  ⟨traffic.begun ++ [append], traffic.outstanding ++ [append]⟩

def Manner.Answers (manner : Manner) : (request : Call) → Traffic → Answer request → Traffic → Prop
  | .readCache, before, (reply : Except String (Option Bytes)), after =>
    after = before ∧ ∃ contents members, reply = .ok contents ∧
      manner.cache.members contents = .ok members
  | .replaceCache _, before, (reply : Except String Unit), after =>
    after = before ∧ reply = .ok ()
  | .startAppend append, before, _, after => after = before.begin append
  | .awaitAppend first rest, before,
      (reply : Fin (rest.length + 1) × Except RegistryFault Unit), after =>
    before.outstanding = first :: rest ∧ reply.2 = manner.verdict ((first :: rest).get reply.1) ∧
      after = { before with outstanding := (first :: rest).eraseIdx reply.1 }
  | .now, before, (reply : Moment), after => after = before ∧ reply = manner.clock
  | .listAssets, _, _, _ => False
  | .readAsset _, _, _, _ => False
  | .storePairs _, _, _, _ => False
  | .register _ _, _, _, _ => False

/-- How a call is answered, if of the writes that are waited for the one that is picked ends. -/
def Manner.answer (manner : Manner) (pick : (count : Nat) → Fin (count + 1)) (request : Call)
    (traffic : Traffic) : Answer request × Traffic :=
  match request with
  | .readCache => (.ok none, traffic)
  | .replaceCache _ => (.ok (), traffic)
  | .startAppend append => ((), traffic.begin append)
  | .awaitAppend first rest =>
    let place := pick rest.length
    ((place, manner.verdict ((first :: rest).get place)),
      { traffic with outstanding := (first :: rest).eraseIdx place })
  | .now => (manner.clock, traffic)
  | .listAssets => (.error "", traffic)
  | .readAsset _ => (.error "", traffic)
  | .storePairs _ => (.error (.io ""), traffic)
  | .register _ _ => (.error (.io ""), traffic)

theorem Manner.answers_answer (manner : Manner) (pick : (count : Nat) → Fin (count + 1))
    (request : Call) (traffic : Traffic)
    (answered : ∃ reply after, manner.Answers request traffic reply after) :
    manner.Answers request traffic (manner.answer pick request traffic).1
      (manner.answer pick request traffic).2 := by
  obtain ⟨reply, after, answers⟩ := answered
  cases request with
  | readCache => exact ⟨rfl, none, [], rfl, rfl⟩
  | replaceCache contents => exact ⟨rfl, rfl⟩
  | startAppend append => exact rfl
  | awaitAppend first rest => exact ⟨answers.1, rfl, rfl⟩
  | now => exact ⟨rfl, rfl⟩
  | listAssets => exact answers.elim
  | readAsset path => exact answers.elim
  | storePairs pairs => exact answers.elim
  | register capacity defaults => exact answers.elim

end Site

namespace Work

open Site (Traffic)

variable {manner : Site.Manner} {inv : Traffic → Prop} {α β : Type}
  {post other : α → Traffic → Prop} {traffic : Traffic}

/-- However it is answered, the work ends, and not with a fault. -/
def Ends (manner : Site.Manner) (inv : Traffic → Prop) (post : α → Traffic → Prop)
    (work : Work α) (traffic : Traffic) : Prop :=
  Job.Ends manner.Answers inv (fun result after => ∃ value, result = .ok value ∧ post value after)
    work.run traffic

namespace Ends

theorem pure {value : α} (inside : inv traffic) (holds : post value traffic) :
    Ends manner inv post (Pure.pure value) traffic :=
  ⟨inside, value, rfl, holds⟩

theorem bind {between : α → Traffic → Prop} {post : β → Traffic → Prop} {first : Work α}
    {second : α → Work β} (one : Ends manner inv between first traffic)
    (next : ∀ value after, inv after → between value after →
      Ends manner inv post (second value) after) :
    Ends manner inv post (first >>= second) traffic := by
  refine Job.Ends.bind one ?_
  rintro result after inside ⟨value, rfl, holds⟩
  exact next value after inside holds

theorem weaken {work : Work α} (ends : Ends manner inv post work traffic)
    (implies : ∀ value after, inv after → post value after → other value after) :
    Ends manner inv other work traffic := by
  refine Job.Ends.weaken ends ?_
  rintro result after inside ⟨value, rfl, holds⟩
  exact ⟨value, rfl, implies value after inside holds⟩

theorem lift {job : Job Site α} (ends : Job.Ends manner.Answers inv post job traffic) :
    Ends manner inv post (ExceptT.lift job) traffic :=
  Job.Ends.bind ends fun value _ inside holds => ⟨inside, value, rfl, holds⟩

theorem expect {ε : Type} {job : Job Site (Except ε α)} {meaning : ε → PipelineFault}
    (ends : Job.Ends manner.Answers inv
      (fun answer after => ∃ value, answer = .ok value ∧ post value after) job traffic) :
    Ends manner inv post (Work.expect job meaning) traffic := by
  refine Job.Ends.bind ends ?_
  rintro answer after inside ⟨value, rfl, holds⟩
  exact ⟨inside, value, rfl, holds⟩

end Ends

theorem now_ends (inside : inv traffic) :
    Ends manner inv (fun moment after => moment = manner.clock ∧ after = traffic)
      (ExceptT.lift Site.now) traffic := by
  refine Ends.lift (Job.Ends.ask inside ⟨manner.clock, traffic, rfl, rfl⟩ ?_)
  rintro reply after ⟨rfl, same⟩
  exact ⟨inside, same, rfl⟩

theorem startAppend_ends {append : AppendCall} (inside : inv traffic)
    (next : inv (traffic.begin append)) :
    Ends manner inv (fun _ after => after = traffic.begin append)
      (ExceptT.lift (Site.startAppend append)) traffic := by
  refine Ends.lift (Job.Ends.ask inside ⟨(), _, rfl⟩ ?_)
  rintro reply after rfl
  exact ⟨next, rfl⟩

theorem awaitAppend_ends {first : AppendCall} {rest : List AppendCall} (inside : inv traffic)
    (waiting : traffic.outstanding = first :: rest)
    (next : ∀ place : Fin (rest.length + 1),
      inv { traffic with outstanding := (first :: rest).eraseIdx place }) :
    Ends manner inv
      (fun reply after => reply.2 = manner.verdict ((first :: rest).get reply.1) ∧
        after = { traffic with outstanding := (first :: rest).eraseIdx reply.1 })
      (ExceptT.lift (Site.awaitAppend first rest)) traffic := by
  refine Ends.lift (Job.Ends.ask inside
    ⟨(Site.foremost rest, manner.verdict first), _, waiting, rfl, rfl⟩ ?_)
  rintro ⟨place, result⟩ after ⟨_, verdict, rfl⟩
  exact ⟨next place, verdict, rfl⟩

theorem writeRecord_ends (inside : inv traffic) (partition : Partition) (record : Record) :
    Ends manner inv (fun _ after => after = traffic)
      (manner.cache.writeRecord partition record) traffic := by
  have read : Ends manner inv (fun contents after => after = traffic ∧
      ∃ members, manner.cache.members contents = .ok members) ProgressCache.contents traffic := by
    have empty : manner.cache.members none = .ok [] := rfl
    refine Ends.expect (Job.Ends.ask inside ⟨.ok none, traffic, rfl, none, [], rfl, empty⟩ ?_)
    rintro reply after ⟨rfl, contents, members, rfl, object⟩
    exact ⟨inside, contents, rfl, rfl, members, object⟩
  refine Ends.bind read ?_
  rintro contents _ _ ⟨rfl, members, object⟩
  have saved : Work.check (manner.cache.save contents partition record) PipelineFault.cache
      = pure (Text.utf8 (Json.object
          (manner.cache.withRecord members partition record)).write) := by
    simp only [ProgressCache.save, object, bind, Except.bind]
    rfl
  rw [saved, pure_bind]
  refine Ends.expect (Job.Ends.ask inside ⟨.ok (), _, rfl, rfl⟩ ?_)
  rintro reply after ⟨rfl, rfl⟩
  exact ⟨inside, (), rfl, rfl⟩

end Work

end Cadastre
