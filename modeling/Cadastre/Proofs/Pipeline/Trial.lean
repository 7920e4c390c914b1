import Cadastre.Proofs.Pipeline.World
import Cadastre.Proofs.Text.Utf8

/-!
Sites on which nothing fails: each call is answered at once, and each registry write takes effect
when it is awaited. What happens there may happen in the world, so that a run can be followed by
computing it.
-/

namespace Cadastre

theorem Job.yields_run {S : Signature} {α : Type}
    (answer : (request : S.Call) → S.Answer request) (job : Job S α) :
    job.Yields (job.run (m := Id) answer) := by
  induction job with
  | done value => rfl
  | call request next ih => exact ⟨answer request, ih (answer request)⟩

def Ledger.spelled (ledger : Ledger) : Bytes :=
  (ledger.toJson.pretty 0).flatMap String.utf8EncodeChar

theorem Ledger.spelled_eq_bytes (ledger : Ledger) : ledger.spelled = ledger.bytes := by
  rw [bytes, Text.utf8_eq_flatMap, Json.writePretty, String.toList_ofList, spelled]

structure Trial where
  provider : Provider
  machine : (request : Machine.Call) → Machine.Answer request
  entries : List DirectoryEntry
  files : List (String × Bytes)
  stamp : Stamp
  clock : Moment := { seconds := 0 }

namespace Trial

def terms (trial : Trial) : Site.Terms where
  provider := trial.provider
  Lists := fun entries => entries = trial.entries
  Reads := fun path bytes => trial.files.lookup path = some bytes
  CacheFails := False

def storePairs (trial : Trial) (pairs : List PreparedPair) (state : Site.State) :
    Except StorageFault (List UploadedPair) × Site.State :=
  let reply := (trial.provider.storePairs pairs).run (m := Id) trial.machine
  (reply, if reply.isOk then
    { state with stored := state.stored ++ pairs.map PreparedPair.key } else state)

def register (trial : Trial) (capacity : UInt32) (defaults : RegistryDefaults)
    (state : Site.State) : Except RegistryFault RegistryHandle × Site.State :=
  match Ledger.registerIn (.ok state.ledger) trial.stamp capacity defaults with
  | .error fault => (.error fault, state)
  | .ok (handle, ledger) => (.ok handle, { state with ledger := some ledger.spelled })

def awaitAppend (append : AppendCall) (state : Site.State) :
    Except RegistryFault Unit × Site.State :=
  if append ∈ state.begun then
    match Ledger.appendIn (.ok state.ledger) append.handle append.entries append.first with
    | .error fault => (.error fault, state)
    | .ok ledger =>
      (.ok (), { state with
        ledger := some ledger.spelled, written := append :: state.written })
  else (.error (.rejected "not begun"), state)

def answer (trial : Trial) :
    (request : Site.Call) → Site.State → Site.Answer request × Site.State
  | .readCache, state => (.ok state.cache, state)
  | .replaceCache contents, state => (.ok (), { state with cache := some contents })
  | .listAssets, state => (.ok trial.entries, state)
  | .readAsset path, state =>
    (match trial.files.lookup path with
      | some bytes => .ok bytes
      | none => .error "missing", state)
  | .storePairs pairs, state => trial.storePairs pairs state
  | .register capacity defaults, state => trial.register capacity defaults state
  | .startAppend append, state => ((), { state with begun := append :: state.begun })
  | .awaitAppend first rest, state =>
    let (result, after) := awaitAppend first state
    ((Site.foremost rest, result), after)
  | .now, state => (trial.clock, state)

def perform {α : Type} (trial : Trial) (job : Job Site α) (state : Site.State) : α × Site.State :=
  job.follow trial.answer state

variable {α : Type}

theorem answers_storePairs (trial : Trial) (pairs : List PreparedPair) (state : Site.State) :
    Site.Answers trial.terms (.storePairs pairs) state (trial.storePairs pairs state).1
      (trial.storePairs pairs state).2 := by
  have yields := Job.yields_run trial.machine (trial.provider.storePairs pairs)
  unfold storePairs
  dsimp only
  cases replied : (trial.provider.storePairs pairs).run (m := Id) trial.machine with
  | ok uploaded => exact ⟨replied ▸ yields, rfl⟩
  | error fault => exact ⟨replied ▸ yields, rfl⟩

theorem answers_register (trial : Trial) (capacity : UInt32) (defaults : RegistryDefaults)
    (state : Site.State) :
    Site.Answers trial.terms (.register capacity defaults) state
      (trial.register capacity defaults state).1 (trial.register capacity defaults state).2 := by
  unfold register
  split
  · rename_i fault _
    exact Or.inr ⟨fault, rfl, rfl⟩
  · rename_i handle ledger done
    refine Or.inl ⟨trial.stamp, handle, ledger, done, by rw [ledger.spelled_eq_bytes],
      fun given same => ?_⟩
    cases same
    rfl

/-- A write that is awaited takes effect before it is answered. -/
theorem leads_awaitAppend (trial : Trial) (first : AppendCall) (rest : List AppendCall)
    (state : Site.State) :
    Job.Leads (Site.world trial.terms) (Job.ask (S := Site) (.awaitAppend first rest)) state
      (.done (trial.answer (.awaitAppend first rest) state).1)
      (trial.answer (.awaitAppend first rest) state).2 := by
  have answers : ∀ (result : Except RegistryFault Unit) (between : Site.State),
      (result = .ok () → first ∈ between.written) →
        Site.Answers trial.terms (.awaitAppend first rest) between
          (Site.foremost rest, result) between :=
    fun _ _ written => ⟨rfl, written⟩
  simp only [answer, awaitAppend]
  split
  · rename_i begun
    split
    · exact .ask (answers _ _ nofun)
    · rename_i ledger done
      rw [ledger.spelled_eq_bytes]
      refine .drift ⟨first, begun, ledger, done, rfl⟩ (.ask (answers _ _ fun _ => ?_))
      exact List.mem_cons_self
  · exact .ask (answers _ _ nofun)

theorem leads_answer (trial : Trial) (request : Site.Call) (state : Site.State) :
    Job.Leads (Site.world trial.terms) (Job.ask (S := Site) request) state
      (.done (trial.answer request state).1) (trial.answer request state).2 := by
  cases request with
  | readCache => exact .ask ⟨rfl, rfl⟩
  | replaceCache contents => exact .ask rfl
  | listAssets =>
      refine .ask ⟨rfl, fun entries same => ?_⟩
      cases same
      rfl
  | readAsset path =>
      refine .ask ⟨rfl, fun bytes same => ?_⟩
      simp only [answer] at same
      cases found : trial.files.lookup path with
      | none => simp [found] at same
      | some held =>
          simp only [found, Except.ok.injEq] at same
          exact found.trans (congrArg some same)
  | storePairs pairs => exact .ask (trial.answers_storePairs pairs state)
  | register capacity defaults => exact .ask (trial.answers_register capacity defaults state)
  | startAppend append => exact .ask rfl
  | awaitAppend first rest => exact trial.leads_awaitAppend first rest state
  | now => exact .ask rfl

/-- What is computed may happen. -/
theorem leads_perform (trial : Trial) (job : Job Site α) (state : Site.State) :
    Job.Leads (Site.world trial.terms) job state (.done (trial.perform job state).1)
      (trial.perform job state).2 := by
  have asked : ∀ request state, Job.Leads (Site.world trial.terms) (Job.ask (S := Site) request)
      state (.done (trial.answer request state).1) (trial.answer request state).2 :=
    trial.leads_answer
  exact Job.leads_follow asked job state

def node : (request : Machine.Call) → Machine.Answer request
  | .readFile _ => (.error ⟨true, "missing"⟩ : Except SystemFault Bytes)
  | .writeFile _ _ => (.ok () : Except SystemFault Unit)
  | .replaceFile _ _ => (.ok () : Except SystemFault Unit)
  | .kindOf _ => (.ok none : Except SystemFault (Option PathKind))
  | .listDirectory _ => (.ok [] : Except SystemFault (List DirectoryEntry))
  | .createDirectory path => (.ok path : Except SystemFault String)
  | .post _ => (.ok ⟨200, Text.utf8 "\x7b\"Hash\":\"Qm\"\x7d"⟩ : HttpOutcome)
  | .putObject _ => (.ok () : Except String Unit)
  | .pause _ => ()
  | .now => ({ seconds := 0 } : Moment)
  | .freshId => ("" : String)

def closed : (request : Machine.Call) → Machine.Answer request
  | .post _ => (.error "closed" : HttpOutcome)
  | request => node request

def sample : Trial where
  provider := .unbundled (.ipfs
    { apiUrl := "api", gatewayUrl := "gate", projectId := "id", secretKey := "key" })
  machine := node
  entries := [⟨"0.png", 4⟩, ⟨"0.json", 45⟩]
  files := [("assets/0.png", [137]),
    ("assets/0.json", Text.utf8 "\x7b\"name\":\"Land #0\",\"seller_fee_basis_points\":0\x7d")]
  stamp := ⟨"0a", "1970"⟩

def pipeline : Pipeline where
  cache := ⟨"cache.json", "dev", "land"⟩
  remapper := ⟨⟨1, 1, 1, 1⟩, .identity 1, ⟨by decide, by decide, by decide⟩, by decide +kernel⟩
  assetsDir := "assets"
  bundled := false
  batchSizeLimit := 1000
  windowSize := 10
  concurrency := 2
  collection := { sellerFee := some 0, creators := [⟨"owner", 100, none⟩] }

end Trial

end Cadastre
