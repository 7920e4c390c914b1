import Cadastre.Proofs.Job.Ending
import Cadastre.Proofs.Json.Entries
import Cadastre.Storage.Ipfs

/-!
How often a request is posted. A network gives the outcomes of a fixed endless sequence, one after
the other; the requests posted are counted, and what comes of them is that of the last one.
-/

namespace Cadastre

namespace Machine

def posted (calls : List Machine.Call) : List HttpRequest :=
  calls.filterMap fun call =>
    match call with
    | .post request => some request
    | _ => none

theorem posted_post (calls : List Machine.Call) (request : HttpRequest) :
    posted (calls ++ [.post request]) = posted calls ++ [request] := by
  rw [posted, List.filterMap_append]
  rfl

theorem posted_pause (calls : List Machine.Call) (seconds : Nat) :
    posted (calls ++ [.pause seconds]) = posted calls := by
  rw [posted, List.filterMap_append]
  exact List.append_nil _

/-- Posts come to these outcomes in their order. Whatever is asked for is noted. -/
def Scripted (outcomes : Nat → HttpOutcome) : (request : Machine.Call) → List Machine.Call →
    Machine.Answer request → List Machine.Call → Prop
  | .post request, before, reply, after =>
    reply = outcomes (posted before).length ∧ after = before ++ [.post request]
  | request, before, _, after => after = before ++ [request]

end Machine

namespace Http

open Machine (posted Scripted)

variable {outcomes : Nat → HttpOutcome} {request : HttpRequest} {outcome : HttpOutcome}
  {calls : List Machine.Call} {limit retries : Nat}

/-- A response that is no server error, for better or worse. -/
def Settles (outcome : HttpOutcome) : Prop :=
  ∃ response, outcome = .ok response ∧ ¬ (500 ≤ response.status ∧ response.status ≤ 599)

theorem isTransient_iff (outcome : HttpOutcome) :
    isTransient outcome = true ↔ ¬ Settles outcome := by
  cases outcome with
  | error reason => simp [isTransient, Settles]
  | ok response =>
      simp [isTransient, isServerError, Settles]
      omega

/-- Nothing but this request is posted, at most `limit` times, and not after an outcome that
settles it. -/
structure Trying (outcomes : Nat → HttpOutcome) (request : HttpRequest) (limit : Nat)
    (calls : List Machine.Call) : Prop where
  same : ∀ other ∈ posted calls, other = request
  bounded : (posted calls).length ≤ limit
  quiet : ∀ earlier, earlier + 1 < (posted calls).length → ¬ Settles (outcomes earlier)

/-- As many requests are posted as it takes for one to be settled, or one and the retries; the
outcome is that of the last one. -/
structure Tried (outcomes : Nat → HttpOutcome) (retries : Nat) (outcome : HttpOutcome)
    (calls : List Machine.Call) : Prop where
  settled : ∀ first, Settles (outcomes first) →
    (∀ earlier < first, ¬ Settles (outcomes earlier)) →
      (posted calls).length = min first retries + 1
  unsettled : (∀ every, ¬ Settles (outcomes every)) → (posted calls).length = retries + 1
  last : outcome = outcomes ((posted calls).length - 1)

theorem Trying.nil (outcomes : Nat → HttpOutcome) (request : HttpRequest) (limit : Nat) :
    Trying outcomes request limit [] where
  same _ member := by cases member
  bounded := Nat.zero_le limit
  quiet _ fewer := absurd fewer (Nat.not_lt_zero _)

theorem Trying.post (trying : Trying outcomes request limit calls)
    (fewer : (posted calls).length < limit)
    (unsettled : ∀ earlier < (posted calls).length, ¬ Settles (outcomes earlier)) :
    Trying outcomes request limit (calls ++ [.post request]) := by
  constructor
  · rw [Machine.posted_post, List.forall_mem_append]
    exact ⟨trying.same, List.forall_mem_singleton.mpr rfl⟩
  · rw [Machine.posted_post, List.length_append, List.length_singleton]
    exact fewer
  · rw [Machine.posted_post, List.length_append, List.length_singleton]
    intro earlier before
    exact unsettled earlier (by omega)

theorem Trying.pause (trying : Trying outcomes request limit calls) (seconds : Nat) :
    Trying outcomes request limit (calls ++ [.pause seconds]) := by
  constructor
  · rw [Machine.posted_pause]
    exact trying.same
  · rw [Machine.posted_pause]
    exact trying.bounded
  · rw [Machine.posted_pause]
    exact trying.quiet

structure Stopped (outcomes : Nat → HttpOutcome) (limit : Nat) (outcome : HttpOutcome)
    (calls : List Machine.Call) : Prop where
  some_try : 0 < (posted calls).length
  last : outcome = outcomes ((posted calls).length - 1)
  enough : Settles outcome ∨ (posted calls).length = limit

theorem Stopped.tried (stopped : Stopped outcomes (retries + 1) outcome calls)
    (trying : Trying outcomes request (retries + 1) calls) :
    Tried outcomes retries outcome calls := by
  obtain ⟨some_try, rfl, enough⟩ := stopped
  have bounded := trying.bounded
  refine ⟨fun first settles before => ?_, fun unsettled => enough.resolve_left (unsettled _), rfl⟩
  have enough' : (posted calls).length ≤ first + 1 := by
    by_contra more
    exact trying.quiet first (by omega) settles
  rcases enough with settles' | all
  · have reached : first ≤ (posted calls).length - 1 := by
      by_contra fewer
      exact before _ (by omega) settles'
    omega
  · omega

theorem stopped_post {outcome : HttpOutcome} (outcome_eq : outcome = outcomes (posted calls).length)
    (enough : Settles outcome ∨ (posted calls).length + 1 = limit) :
    Stopped outcomes limit outcome (calls ++ [.post request]) := by
  have count : (posted (calls ++ [.post request])).length = (posted calls).length + 1 := by
    rw [Machine.posted_post, List.length_append, List.length_singleton]
  refine ⟨by omega, ?_, ?_⟩
  · rw [count, Nat.add_sub_cancel]
    exact outcome_eq
  · rw [count]
    exact enough

theorem postFrom_ends (delay : Nat) (trying : Trying outcomes request limit calls)
    (unsettled : ∀ earlier < (posted calls).length, ¬ Settles (outcomes earlier))
    (allowed : (posted calls).length + retries + 1 = limit) :
    (postFrom request delay retries).Ends (Scripted outcomes) (Trying outcomes request limit)
      (Stopped outcomes limit) calls := by
  have noted := trying.post (by omega) unsettled
  induction retries generalizing delay calls with
  | zero =>
      refine Job.Ends.ask trying ⟨_, _, rfl, rfl⟩ ?_
      rintro outcome _ ⟨same, rfl⟩
      exact ⟨noted, stopped_post same (Or.inr allowed)⟩
  | succ retries ih =>
      refine ⟨trying, ⟨_, _, rfl, rfl⟩, ?_⟩
      rintro outcome _ ⟨same, rfl⟩
      change Job.Ends _ _ _ (if isTransient outcome then
        (Machine.pause delay).bind fun _ => postFrom request (2 * delay) retries
        else .done outcome) _
      by_cases settles : Settles outcome
      · rw [if_neg (mt (isTransient_iff outcome).mp (not_not.mpr settles))]
        exact ⟨noted, stopped_post same (Or.inl settles)⟩
      · rw [if_pos ((isTransient_iff outcome).mpr settles)]
        refine ⟨noted, ⟨(), _, rfl⟩, ?_⟩
        rintro _ _ rfl
        have count : (posted (calls ++ [.post request] ++ [.pause delay])).length
            = (posted calls).length + 1 := by
          rw [Machine.posted_pause, Machine.posted_post, List.length_append, List.length_singleton]
        have unsettled' : ∀ earlier < (posted calls).length + 1, ¬ Settles (outcomes earlier) := by
          intro earlier before
          by_cases last : earlier = (posted calls).length
          · rwa [last, ← same]
          · exact unsettled earlier (by omega)
        have paused := noted.pause delay
        rw [← count] at unsettled'
        exact ih (2 * delay) paused unsettled' (by omega) (paused.post (by omega) unsettled')

theorem post_ends (outcomes : Nat → HttpOutcome) (request : HttpRequest) (retries : Nat) :
    (post retries request).Ends (Scripted outcomes) (Trying outcomes request (retries + 1))
      (Tried outcomes retries) [] := by
  refine (postFrom_ends 1 (.nil outcomes request _) ?_ ?_).weaken
    fun _ _ trying stopped => stopped.tried trying
  · intro earlier before
    cases before
  · exact congrArg (· + 1) (Nat.zero_add retries)

end Http

namespace IpfsStore

open Json

variable {body : Bytes} {hash : String}

/-- The hash that a response gives: its one member of that name, or the only item of a list. -/
def Gives (body : Bytes) (hash : String) : Prop :=
  ∃ document, Document.read? body = some document ∧
    ((∃ members, document.members? = some members ∧
        members.filter (fun member => member.1 = "Hash") = [("Hash", .string (some hash))]) ∨
      document = .array [.string (some hash)])

def Refuses (outcome : HttpOutcome) : Prop :=
  (∃ reason, outcome = .error reason) ∨ ∃ response, outcome = .ok response ∧
    (¬ (200 ≤ response.status ∧ response.status ≤ 299) ∨ ∀ hash, ¬ Gives response.body hash)

def hashField : Field := ⟨"Hash", []⟩

theorem text?_eq_some_iff (document : Document) (text : String) :
    document.text? = some text ↔ document = .string (some text) := by
  cases document <;> simp [Document.text?]

theorem hash_of_members (members : List (String × Document)) :
    ((Form.ofMembers? [hashField] members).bind fun form => form.required "Hash" Document.text?)
        = some hash ↔
      members.filter (fun member => member.1 = "Hash") = [("Hash", .string (some hash))] := by
  have same : (Form.known [hashField] members).filter (fun entry => entry.1 = "Hash")
      = members.filter fun member => member.1 = "Hash" :=
    Form.filter_known (by decide) (by decide) members
  have named : ∀ entry ∈ members.filter (fun member => member.1 = "Hash"), entry.1 = "Hash" := by
    intro entry member
    simpa using (List.mem_filter.mp member).2
  have whole : ((Form.ofMembers? [hashField] members).bind
      fun form => form.required "Hash" Document.text?)
        = if 1 < (members.filter fun member => member.1 = "Hash").length then none
          else ((members.filter fun member => member.1 = "Hash").head?.map Prod.snd).bind
            Document.text? := by
    rw [← same, List.head?_filter]
    have name : hashField.name = "Hash" := rfl
    simp only [Form.ofMembers?, List.any_cons, List.any_nil, Bool.or_false, Form.isRepeated, name]
    by_cases many : 1 < ((Form.known [hashField] members).filter fun entry =>
        entry.1 = "Hash").length
    · rw [if_pos many, if_pos (decide_eq_true many)]
      rfl
    · rw [if_neg many, if_neg (by simpa using many)]
      rfl
  rw [whole]
  generalize members.filter (fun member => member.1 = "Hash") = found at named ⊢
  rcases found with _ | ⟨⟨name, value⟩, _ | ⟨second, rest⟩⟩
  · simp
  · obtain rfl : name = "Hash" := named _ (List.mem_singleton.mpr rfl)
    simp [text?_eq_some_iff]
  · simp

theorem hash_of_items (items : List Document) :
    ((Form.ofDocument? [hashField] (.array items)).bind
        fun form => form.required "Hash" Document.text?) = some hash ↔
      items = [.string (some hash)] := by
  rcases items with _ | ⟨item, _ | ⟨second, rest⟩⟩
  · simp [Form.ofDocument?, Form.required, Form.get?]
  · simp [Form.ofDocument?, Form.required, Form.get?, hashField, text?_eq_some_iff]
  · simp [Form.ofDocument?]

theorem readHash?_eq_some_iff : readHash? body = some hash ↔ Gives body hash := by
  have whole : readHash? body = (Document.read? body).bind fun document =>
      (Form.ofDocument? [hashField] document).bind
        fun form => form.required "Hash" Document.text? := rfl
  rw [whole, Option.bind_eq_some_iff]
  apply exists_congr
  intro document
  rw [and_congr_right_iff]
  intro _
  cases document with
  | array items => simp [hash_of_items, Document.members?]
  | object members =>
      simp only [Form.ofDocument?, Option.bind_assoc, Option.bind_eq_some_iff, reduceCtorEq,
        or_false]
      apply exists_congr
      intro found
      rw [and_congr_right_iff]
      intro _
      rw [← hash_of_members, Option.bind_eq_some_iff]
  | _ => simp [Form.ofDocument?, Document.members?]

theorem isSuccess_iff (response : HttpResponse) :
    Http.isSuccess response = true ↔ 200 ≤ response.status ∧ response.status ≤ 299 := by
  simp [Http.isSuccess]
  omega

variable (store : IpfsStore)

theorem answer_of_outcome (outcome : HttpOutcome) :
    (∃ response hash, outcome = .ok response ∧ Gives response.body hash ∧
      ¬ Refuses outcome ∧ (Http.checked "ipfs" outcome).bind store.locator
        = .ok (Url.join store.gatewayUrl ("ipfs/" ++ hash))) ∨
      Refuses outcome ∧ ∃ fault, (Http.checked "ipfs" outcome).bind store.locator = .error fault ∧
        fault.isProviderFailure = true := by
  cases outcome with
  | error reason => exact Or.inr ⟨Or.inl ⟨reason, rfl⟩, _, rfl, rfl⟩
  | ok response =>
      by_cases success : Http.isSuccess response = true
      · have checked : (Http.checked "ipfs" (.ok response)).bind store.locator
            = store.locator response := by
          rw [Http.checked, if_pos success]
          rfl
        rw [checked, locator]
        cases read : readHash? response.body with
        | none =>
            refine Or.inr ⟨Or.inr ⟨response, rfl, Or.inr fun hash gives => ?_⟩, _, rfl, rfl⟩
            rw [← readHash?_eq_some_iff, read] at gives
            cases gives
        | some hash =>
            have gives := readHash?_eq_some_iff.mp read
            refine Or.inl ⟨response, hash, rfl, gives, ?_, rfl⟩
            rintro (⟨_, failed⟩ | ⟨_, same, refused | mute⟩)
            · cases failed
            · cases same
              exact refused ((isSuccess_iff response).mp success)
            · cases same
              exact mute hash gives
      · refine Or.inr ⟨Or.inr ⟨response, rfl, Or.inl ?_⟩, ?_⟩
        · rwa [← isSuccess_iff]
        · rw [Http.checked, if_neg success]
          exact ⟨_, rfl, rfl⟩

structure Answered (outcome : HttpOutcome) (answer : Except StorageFault Locator) : Prop where
  fails_iff : (∃ fault, answer = .error fault) ↔ Refuses outcome
  provider : ∀ fault, answer = .error fault → fault.isProviderFailure = true
  stored : ∀ locator, answer = .ok locator → ∃ response hash, outcome = .ok response ∧
    Gives response.body hash ∧ locator = Url.join store.gatewayUrl ("ipfs/" ++ hash)

theorem answered (outcome : HttpOutcome) :
    store.Answered outcome ((Http.checked "ipfs" outcome).bind store.locator) := by
  rcases store.answer_of_outcome outcome with ⟨response, hash, same, gives, accepts, answer⟩
    | ⟨refuses, fault, answer, provider⟩
  · rw [answer]
    refine ⟨⟨?_, fun refuses => absurd refuses accepts⟩, ?_, ?_⟩
    · rintro ⟨_, failed⟩
      cases failed
    · intro _ failed
      cases failed
    · intro locator stored
      cases stored
      exact ⟨response, hash, same, gives, rfl⟩
  · rw [answer]
    refine ⟨⟨fun _ => refuses, fun _ => ⟨fault, rfl⟩⟩, ?_, ?_⟩
    · intro _ failed
      cases failed
      exact provider
    · intro _ stored
      cases stored

end IpfsStore

/-- A request is posted until it is settled, once and at most `retries` more times, and what comes
of it is the outcome of the last post. A node's store fails just if that outcome is no good, and
that is the provider's failure. -/
theorem Http.requests_retried (outcomes : Nat → HttpOutcome) :
    (∀ (request : HttpRequest) (retries : Nat), (post retries request).Ends
      (Machine.Scripted outcomes) (Trying outcomes request (retries + 1))
      (Tried outcomes retries) []) ∧
    ∀ (store : IpfsStore) (payload : Bytes) (kind : ContentKind), (store.store payload kind).Ends
      (Machine.Scripted outcomes)
      (Trying outcomes (store.request payload kind) (store.retries + 1))
      (fun answer calls => ∃ outcome, Tried outcomes store.retries outcome calls ∧
        store.Answered outcome answer) [] := by
  refine ⟨fun request retries => post_ends outcomes request retries,
    fun store payload kind => ?_⟩
  apply (post_ends outcomes (store.request payload kind) store.retries).bind
  intro outcome calls trying tried
  exact ⟨trying, outcome, tried, store.answered outcome⟩

end Cadastre
