/-!
Jobs: computations that ask their surroundings for one thing at a time. A job is the tree of all
the ways it can go, so that a statement about it may quantify over every answer and may stop it
between any two calls.
-/

namespace Cadastre

/-- What may be asked, and the form of each answer. -/
structure Signature where
  Call : Type
  Answer : Call → Type

inductive Job (S : Signature) (α : Type) where
  | done (value : α)
  | call (request : S.Call) (next : S.Answer request → Job S α)

namespace Job

variable {S T : Signature} {α β : Type}

def bind (job : Job S α) (next : α → Job S β) : Job S β :=
  match job with
  | done value => next value
  | call request answer => call request fun reply => (answer reply).bind next

instance : Monad (Job S) where
  pure := done
  bind := bind

@[simp] theorem pure_eq_done (value : α) : (pure value : Job S α) = done value := rfl

@[simp] theorem done_bind (value : α) (next : α → Job S β) : (done value >>= next) = next value :=
  rfl

@[simp] theorem call_bind (request : S.Call) (answer : S.Answer request → Job S α)
    (next : α → Job S β) :
    (call request answer >>= next) = call request fun reply => answer reply >>= next := rfl

theorem bind_done (job : Job S α) : job.bind done = job := by
  induction job with
  | done value => rfl
  | call request answer ih => simp only [bind, ih]

theorem bind_assoc {γ : Type} (job : Job S α) (f : α → Job S β) (g : β → Job S γ) :
    (job.bind f).bind g = job.bind fun value => (f value).bind g := by
  induction job with
  | done value => rfl
  | call request answer ih => simp only [bind, ih]

instance : LawfulMonad (Job S) :=
  LawfulMonad.mk' (Job S) (fun job => bind_done job) (fun _ _ => rfl)
    (fun job f g => bind_assoc job f g)

def ask (request : S.Call) : Job S (S.Answer request) := call request done

/-- Carries the job out where every call can be answered. -/
def run {m : Type → Type} [Monad m] (answer : (request : S.Call) → m (S.Answer request)) :
    Job S α → m α
  | done value => pure value
  | call request next => do
    let reply ← answer request
    run answer (next reply)

/-- The job with each call replaced by a job on another signature. -/
def translate (meaning : (request : S.Call) → Job T (S.Answer request)) (job : Job S α) : Job T α :=
  job.run meaning

end Job

end Cadastre
