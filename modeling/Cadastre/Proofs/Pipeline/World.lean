import Cadastre.Pipeline.Publish
import Cadastre.Proofs.Job.World
import Cadastre.Registry.LedgerFile
import Cadastre.Storage.Provider

/-!
The world of a pipeline: its cache file and its ledger, which no one else writes. Files and
providers may fail at any time as far as the terms allow, and a registry write that was begun may
take effect at any time, also after the run that began it has ended.
-/

namespace Cadastre

namespace Site

structure State where
  cache : Option Bytes := none
  ledger : Option Bytes := none
  begun : List AppendCall := []
  written : List AppendCall := []
  /-- Keys of the pairs that a provider was given and stored, one for each time. -/
  stored : List GlobalIndex := []

structure Terms where
  provider : Provider
  Lists : List DirectoryEntry → Prop
  Reads : String → Bytes → Prop
  CacheFails : Prop

def State.Drifts (before after : State) : Prop :=
  ∃ append ∈ before.begun, ∃ ledger,
    Ledger.appendIn (.ok before.ledger) append.handle append.entries append.first = .ok ledger ∧
      after = { before with
        ledger := some ledger.bytes, written := append :: before.written }

/-- How a call may be answered. What fails may have had its effect all the same. -/
def Answers (terms : Terms) : (request : Call) → State → Answer request → State → Prop
  | .readCache, before, (reply : Except String (Option Bytes)), after =>
    after = before ∧
      match reply with
      | .ok contents => contents = before.cache
      | .error _ => terms.CacheFails
  | .replaceCache contents, before, (reply : Except String Unit), after =>
    match reply with
    | .ok () => after = { before with cache := some contents }
    | .error _ =>
      terms.CacheFails ∧ (after = before ∨ after = { before with cache := some contents })
  | .listAssets, before, (reply : Except String (List DirectoryEntry)), after =>
    after = before ∧ ∀ entries, reply = .ok entries → terms.Lists entries
  | .readAsset path, before, (reply : Except String Bytes), after =>
    after = before ∧ ∀ bytes, reply = .ok bytes → terms.Reads path bytes
  | .storePairs pairs, before, (reply : Except StorageFault (List UploadedPair)), after =>
    (terms.provider.storePairs pairs).Yields reply ∧
      match reply with
      | .ok _ => after = { before with stored := before.stored ++ pairs.map PreparedPair.key }
      | .error _ => after = before
  | .register capacity defaults, before, (reply : Except RegistryFault RegistryHandle), after =>
    (∃ stamp handle ledger,
      Ledger.registerIn (.ok before.ledger) stamp capacity defaults = .ok (handle, ledger) ∧
        after = { before with ledger := some ledger.bytes } ∧
        ∀ given, reply = .ok given → given = handle) ∨
      (∃ fault, reply = .error fault ∧ after = before)
  | .startAppend append, before, _, after =>
    after = { before with begun := append :: before.begun }
  | .awaitAppend first rest, before,
      (reply : Fin (rest.length + 1) × Except RegistryFault Unit), after =>
    after = before ∧ (reply.2 = .ok () → (first :: rest).get reply.1 ∈ before.written)
  | .now, before, _, after => after = before

def world (terms : Terms) : World Site := ⟨State, State.Drifts, Answers terms⟩

end Site

def PipelineFault.IsTransition (fault : PipelineFault) : Prop :=
  ∃ key before after, fault = .core (.invalidStateTransition key before after)

theorem PipelineFault.not_isTransition {fault : PipelineFault}
    (other : ∀ inner, fault ≠ .core inner) : ¬ fault.IsTransition := by
  rintro ⟨key, before, after, same⟩
  exact other _ same

def Site.Stable (holds : Site.State → Prop) : Prop :=
  ∀ before after, holds before → before.Drifts after → holds after

/-- Whether an assertion is one to hold on to: it is stable, and nothing it allows breaks the
invariant. -/
structure Site.Kept (inv holds : Site.State → Prop) : Prop where
  stable : Site.Stable holds
  inside : ∀ state, holds state → inv state

theorem Site.Kept.and {inv first second : Site.State → Prop} (kept : Kept inv first)
    (stable : Stable second) : Kept inv fun state => first state ∧ second state :=
  ⟨fun before after held drift =>
      ⟨kept.stable before after held.1 drift, stable before after held.2 drift⟩,
    fun state held => kept.inside state held.1⟩

theorem Site.stable_const (fact : Prop) : Stable fun _ => fact := fun _ _ held _ => held

theorem Site.stable_cache (contents : Option Bytes) : Stable fun state => state.cache = contents :=
  fun _ _ held drift => by
    obtain ⟨_, _, _, _, rfl⟩ := drift
    exact held

namespace Work

variable {terms : Site.Terms} {inv : Site.State → Prop} {α β ε : Type}
  {post : α → Site.State → Prop} {fails : PipelineFault → Site.State → Prop}
  {state : Site.State}

def outcome (post : α → Site.State → Prop) (fails : PipelineFault → Site.State → Prop) :
    Except PipelineFault α → Site.State → Prop
  | .ok value => post value
  | .error fault => fails fault

theorem outcome_kept (keptPost : ∀ value, Site.Kept inv (post value))
    (keptFails : ∀ fault, Site.Kept inv (fails fault)) (result : Except PipelineFault α) :
    Site.Kept inv (outcome post fails result) := by
  cases result with
  | ok value => exact keptPost value
  | error fault => exact keptFails fault

/-- Whether a part of a run keeps the invariant at every point, and ends in `post` or `fails`. -/
def Safe (terms : Site.Terms) (inv : Site.State → Prop) (post : α → Site.State → Prop)
    (fails : PipelineFault → Site.State → Prop) (work : Work α) (state : Site.State) : Prop :=
  Job.Safe (Site.world terms) inv (outcome post fails) work.run state

namespace Safe

theorem done_of {pre : Site.State → Prop} {result : Except PipelineFault α}
    (kept : Site.Kept inv pre) (holds : pre state)
    (implies : ∀ state, pre state → outcome post fails result state) :
    Job.Safe (Site.world terms) inv (outcome post fails) (.done result) state := by
  have ended : Job.Safe (Site.world terms) inv (fun found state => found = result ∧ pre state)
      (.done result) state := by
    refine Job.Safe.done (Site.world terms) ?_ ?_ ⟨rfl, holds⟩
    · exact fun before after held drift => ⟨held.1, kept.stable before after held.2 drift⟩
    · exact fun state held => kept.inside state held.2
  refine Job.Safe.weaken ended ?_
  rintro found state ⟨rfl, held⟩
  exact implies state held

theorem pure_of {pre : Site.State → Prop} {value : α} (kept : Site.Kept inv pre)
    (holds : pre state) (implies : ∀ state, pre state → post value state) :
    Safe terms inv post fails (Pure.pure value) state :=
  done_of kept holds implies

theorem throw_of {pre : Site.State → Prop} {fault : PipelineFault} (kept : Site.Kept inv pre)
    (holds : pre state) (implies : ∀ state, pre state → fails fault state) :
    Safe terms inv post fails (MonadExcept.throw fault : Work α) state :=
  done_of kept holds implies

theorem pure {value : α} (kept : Site.Kept inv (post value)) (holds : post value state) :
    Safe terms inv post fails (Pure.pure value) state :=
  pure_of kept holds fun _ held => held

theorem bind {first : Work α} {second : α → Work β} (between : α → Site.State → Prop)
    {post : β → Site.State → Prop} (keptFails : ∀ fault, Site.Kept inv (fails fault))
    (one : Safe terms inv between fails first state)
    (other : ∀ value after, between value after →
      Safe terms inv post fails (second value) after) :
    Safe terms inv post fails (first >>= second) state := by
  refine Job.Safe.bind one fun result after held => ?_
  cases result with
  | ok value => exact other value after held
  | error fault => exact done_of (keptFails fault) held fun _ failed => failed

theorem check {result : Except ε α} {meaning : ε → PipelineFault}
    (keptPost : ∀ value, Site.Kept inv (post value))
    (keptFails : ∀ fault, Site.Kept inv (fails fault))
    (good : ∀ value, result = .ok value → post value state)
    (bad : ∀ error, result = .error error → fails (meaning error) state) :
    Safe terms inv post fails (Work.check result meaning) state := by
  cases result with
  | ok value => exact done_of (keptPost value) (good value rfl) fun _ held => held
  | error error => exact done_of (keptFails _) (bad error rfl) fun _ failed => failed

theorem expect {job : Job Site (Except ε α)} {meaning : ε → PipelineFault}
    (safe : Job.Safe (Site.world terms) inv
      (fun answer => outcome post fails (answer.mapError meaning)) job state) :
    Safe terms inv post fails (Work.expect job meaning) state :=
  Job.Safe.map (Site.world terms) (Except.mapError meaning) (outcome post fails) safe

theorem asked (request : Site.Call) {pre : Site.State → Prop}
    {post : Site.Answer request → Site.State → Prop} (kept : Site.Kept inv pre)
    (keptPost : ∀ reply, Site.Kept inv (post reply))
    (answered : ∀ before reply after, pre before → Site.Answers terms request before reply after →
      post reply after)
    (holds : pre state) :
    Job.Safe (Site.world terms) inv post (Job.ask (S := Site) request) state :=
  Job.Safe.ask (Site.world terms) request kept.stable kept.inside answered
    (fun reply => (keptPost reply).stable) (fun reply => (keptPost reply).inside) holds

theorem answer (request : Site.Call) {pre : Site.State → Prop}
    {change : Site.Answer request → Except PipelineFault α} (kept : Site.Kept inv pre)
    (keptPost : ∀ value, Site.Kept inv (post value))
    (keptFails : ∀ fault, Site.Kept inv (fails fault))
    (answered : ∀ before reply after, pre before → Site.Answers terms request before reply after →
      outcome post fails (change reply) after)
    (holds : pre state) :
    Job.Safe (Site.world terms) inv (fun reply => outcome post fails (change reply))
      (Job.ask (S := Site) request) state :=
  asked request kept (fun reply => outcome_kept keptPost keptFails (change reply)) answered holds

theorem lift {job : Job Site α} (safe : Job.Safe (Site.world terms) inv post job state) :
    Safe terms inv post fails (ExceptT.lift job) state :=
  Job.Safe.map (Site.world terms) Except.ok (outcome post fails) safe

theorem weaken {work : Work α} {other : α → Site.State → Prop}
    {otherFails : PipelineFault → Site.State → Prop}
    (safe : Safe terms inv post fails work state)
    (implies : ∀ value state, post value state → other value state)
    (failing : ∀ fault state, fails fault state → otherFails fault state) :
    Safe terms inv other otherFails work state :=
  Job.Safe.weaken safe fun result state held => by
    cases result with
    | ok value => exact implies value state held
    | error fault => exact failing fault state held

end Safe

end Work

end Cadastre
