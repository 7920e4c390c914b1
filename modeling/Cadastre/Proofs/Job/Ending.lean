import Cadastre.Proofs.Job.World

/-!
Jobs that come to an end. A job is a tree without infinite branches, so that all it takes is an
answer to each call; what then holds of every end is shown along the tree.
-/

namespace Cadastre.Job

variable {S : Signature} {State α β : Type}
  {answers : (request : S.Call) → State → S.Answer request → State → Prop}
  {inv : State → Prop} {post other : α → State → Prop} {state : State}

/-- However the calls are answered, each gets an answer, every point on the way keeps the invariant,
and every end is as `post` says. -/
def Ends (answers : (request : S.Call) → State → S.Answer request → State → Prop)
    (inv : State → Prop) (post : α → State → Prop) : Job S α → State → Prop
  | done value, state => inv state ∧ post value state
  | call request next, state =>
    inv state ∧ (∃ reply after, answers request state reply after) ∧
      ∀ reply after, answers request state reply after → (next reply).Ends answers inv post after

namespace Ends

theorem inside {job : Job S α} (ends : job.Ends answers inv post state) : inv state := by
  cases job with
  | done value => exact ends.1
  | call request next => exact ends.1

theorem bind {between : α → State → Prop} {post : β → State → Prop} {job : Job S α}
    {next : α → Job S β} (first : job.Ends answers inv between state)
    (second : ∀ value after, inv after → between value after →
      (next value).Ends answers inv post after) :
    (job.bind next).Ends answers inv post state := by
  induction job generalizing state with
  | done value => exact second value state first.1 first.2
  | call request answer ih =>
      obtain ⟨inside, answered, goes⟩ := first
      exact ⟨inside, answered, fun reply after served => ih reply (goes reply after served)⟩

theorem weaken {job : Job S α} (ends : job.Ends answers inv post state)
    (implies : ∀ value after, inv after → post value after → other value after) :
    job.Ends answers inv other state := by
  induction job generalizing state with
  | done value => exact ⟨ends.1, implies value state ends.1 ends.2⟩
  | call request answer ih =>
      obtain ⟨inside, answered, goes⟩ := ends
      exact ⟨inside, answered, fun reply after served => ih reply (goes reply after served)⟩

theorem ask {request : S.Call} {post : S.Answer request → State → Prop} (inside : inv state)
    (answered : ∃ reply after, answers request state reply after)
    (each : ∀ reply after, answers request state reply after → inv after ∧ post reply after) :
    (Job.ask request).Ends answers inv post state :=
  ⟨inside, answered, each⟩

/-- Where a job is followed to is one of its ends, if it is told such answers as there are. -/
theorem followed {answer : (request : S.Call) → State → S.Answer request × State} {job : Job S α}
    (ends : job.Ends answers inv post state)
    (sound : ∀ request state, (∃ reply after, answers request state reply after) →
      answers request state (answer request state).1 (answer request state).2) :
    inv (job.follow answer state).2 ∧
      post (job.follow answer state).1 (job.follow answer state).2 := by
  induction job generalizing state with
  | done value => exact ends
  | call request next ih =>
      obtain ⟨_, answered, goes⟩ := ends
      exact ih _ (goes _ _ (sound request state answered))

end Ends

end Cadastre.Job
