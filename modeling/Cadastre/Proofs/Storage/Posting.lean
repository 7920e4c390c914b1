import Cadastre.Proofs.Job.World
import Cadastre.Proofs.Storage.Bundle

/-!
Pairs stored by a bundle. Whatever comes back from the network, only one bundle is ever posted, and
the addresses that are returned are those of the items in it.
-/

namespace Cadastre

/-- A machine that may answer anything, and notes what it is asked for. -/
abbrev Machine.journal : World Machine where
  State := List Machine.Call
  Drifts _ _ := False
  Answers request before _ after := after = before ++ ([request] : List Machine.Call)

theorem Machine.journal_stable (holds : List Machine.Call → Prop) : journal.Stable holds :=
  fun _ _ _ drift => drift.elim

theorem Machine.nothing_noted {α : Type} {value : α} {left : Job Machine α}
    {before after : List Machine.Call} (leads : Job.Leads journal (.done value) before left after) :
    left = .done value ∧ after = before := by
  have quiet :
      Job.Safe journal (· = before) (fun _ calls => calls = before) (.done value) before :=
    Job.Safe.done journal (journal_stable _) (fun _ same => same) rfl
  exact ⟨(leads.of_done (β := α)).1, (quiet left after leads).1⟩

theorem Machine.noted {α : Type} {request : Machine.Call}
    {next : Machine.Answer request → Job Machine α} {left : Job Machine α}
    {before after : List Machine.Call} (reply : Machine.Answer request)
    (leads : Job.Leads journal (next reply) (before ++ [request]) left after) :
    Job.Leads journal (.call request next) before left after :=
  .call rfl leads

namespace Http

variable {request : HttpRequest} {calls : List Machine.Call}

def Only (request : HttpRequest) (calls : List Machine.Call) : Prop :=
  ∀ call ∈ calls, (∃ seconds, call = .pause seconds) ∨ call = .post request

theorem Only.nil : Only request [] :=
  fun _ found => absurd found List.not_mem_nil

theorem Only.pause (only : Only request calls) (seconds : Nat) :
    Only request (calls ++ [.pause seconds]) :=
  List.forall_mem_append.mpr ⟨only, List.forall_mem_singleton.mpr (Or.inl ⟨seconds, rfl⟩)⟩

theorem Only.post (only : Only request calls) : Only request (calls ++ [.post request]) :=
  List.forall_mem_append.mpr ⟨only, List.forall_mem_singleton.mpr (Or.inr rfl)⟩

theorem post_safe {α : Type} {post : α → List Machine.Call → Prop}
    {next : HttpOutcome → Job Machine α} (only : Only request calls)
    (goes : ∀ outcome after, Only request after → .post request ∈ after →
      Job.Safe Machine.journal (Only request) post (next outcome) after) :
    Job.Safe Machine.journal (Only request) post ((Machine.post request).bind next) calls := by
  refine Job.Safe.call (Machine.journal_stable _) (fun _ only => only) ?_ only
  rintro before outcome after only rfl
  exact goes outcome _ only.post (by simp)

theorem done_safe {α : Type} (value : α) (only : Only request calls)
    (posted : .post request ∈ calls) :
    Job.Safe Machine.journal (Only request) (fun _ calls => Only request calls ∧
      .post request ∈ calls) (.done value) calls :=
  Job.Safe.done Machine.journal (Machine.journal_stable _) (fun _ both => both.1) ⟨only, posted⟩

theorem postFrom_safe (delay retries : Nat) (only : Only request calls) :
    Job.Safe Machine.journal (Only request)
      (fun _ calls => Only request calls ∧ .post request ∈ calls)
      (postFrom request delay retries) calls := by
  induction retries generalizing delay calls with
  | zero => exact post_safe only fun outcome after only posted => done_safe outcome only posted
  | succ retries ih =>
      refine post_safe only fun outcome after only posted => ?_
      by_cases transient : isTransient outcome = true
      · rw [if_pos transient]
        refine Job.Safe.call (Machine.journal_stable _) (fun _ only => only) ?_ only
        rintro before _ after only rfl
        exact ih (2 * delay) (only.pause delay)
      · rw [if_neg transient]
        exact done_safe outcome only posted

end Http

namespace BundleClient

variable (client : BundleClient)

def itemsOf (pair : PreparedPair) : List DataItem :=
  let image : DataItem := ⟨.image, pair.image⟩
  [image, ⟨.metadata, (pair.manifest.withImage (client.locator image)).bytes⟩]

structure Finds (contents : Bundle.Contents) (place : Nat) (link : Locator) (kind : ContentKind)
    (payload : Bytes) : Prop where
  address : ∃ header, contents.headers[place]? = some header ∧
    link = Url.join client.gatewayUrl (Bytes.base64url header.id)
  item : contents.bodies[place]?.bind Bundle.content? = some (Text.utf8 kind.mime, payload)

structure Returns (contents : Bundle.Contents) (place : Nat) (pair : PreparedPair)
    (uploaded : UploadedPair) : Prop where
  key : uploaded.key = pair.key
  manifest : uploaded.manifest = { pair.manifest with
    image := uploaded.image
    properties := { pair.manifest.properties with files := [⟨"image/png", uploaded.image⟩] } }
  image : client.Finds contents place uploaded.image .image pair.image
  link : client.Finds contents (place + 1) uploaded.link .metadata uploaded.manifest.bytes

theorem items_arranged (pairs : List PreparedPair) :
    (pairs.map client.arrange).flatMap Prod.snd = pairs.flatMap client.itemsOf :=
  List.flatMap_map _ _ pairs

variable {client}

theorem countable_of_length {items : List DataItem} (small : Bundle.length items < 2 ^ 64) :
    Bundle.Countable items := by
  have sum : ∀ item ∈ items,
      item.bodyLength ≤ items.foldr (fun item total => item.bodyLength + total) 0 := by
    clear small
    induction items with
    | nil => nofun
    | cons first rest ih =>
        intro item found
        rw [List.foldr_cons]
        rcases List.mem_cons.mp found with rfl | later
        · exact Nat.le_add_right _ _
        · exact Nat.le_add_left_of_le (ih item later)
  rw [Bundle.length, Bundle.fieldLength] at small
  exact ⟨by omega, fun item found => by have := sum item found; omega⟩

theorem finds_of_getElem? {items : List DataItem} {contents : Bundle.Contents} {place : Nat}
    {item : DataItem} (tells : contents.Tells items) (held : items[place]? = some item) :
    client.Finds contents place (client.locator item) item.kind item.payload := by
  refine ⟨⟨⟨item.body.length, item.id.bytes⟩, ?_, rfl⟩, ?_⟩
  · rw [tells.headers, List.getElem?_map, held, Option.map_some]
  · rw [tells.bodies, List.getElem?_map, held, Option.map_some, Option.bind_some,
      Bundle.content?_body]

theorem getElem?_items {pairs : List PreparedPair} {place : Nat} {pair : PreparedPair}
    (held : pairs[place]? = some pair) :
    (pairs.flatMap client.itemsOf)[2 * place]? = some ⟨.image, pair.image⟩ ∧
      (pairs.flatMap client.itemsOf)[2 * place + 1]?
        = some ⟨.metadata, (client.arrange pair).1.manifest.bytes⟩ := by
  induction pairs generalizing place with
  | nil => cases held
  | cons first rest ih =>
      cases place with
      | zero =>
          cases held
          exact ⟨rfl, rfl⟩
      | succ place => exact ih held

theorem returns_of_tells {pairs : List PreparedPair} {contents : Bundle.Contents} {place : Nat}
    {pair : PreparedPair} (tells : contents.Tells (pairs.flatMap client.itemsOf))
    (held : pairs[place]? = some pair) :
    client.Returns contents (2 * place) pair (client.arrange pair).1 where
  key := rfl
  manifest := rfl
  image := finds_of_getElem? tells (getElem?_items held).1
  link := finds_of_getElem? tells (getElem?_items held).2

theorem storeBatch_of_large {pairs : List PreparedPair}
    (large : client.maxBundleSize.toNat < Bundle.length (pairs.flatMap client.itemsOf)) :
    client.storeBatch pairs = .done (.error (.batchTooLarge
      (Bundle.length (pairs.flatMap client.itemsOf)) client.maxBundleSize.toNat)) := by
  simp only [storeBatch, items_arranged, if_pos large]
  rfl

theorem storeBatch_of_small {pairs : List PreparedPair}
    (fits : Bundle.length (pairs.flatMap client.itemsOf) ≤ client.maxBundleSize.toNat) :
    client.storeBatch pairs
      = (Http.post client.retries (client.request (pairs.flatMap client.itemsOf))).bind
          fun outcome => .done ((Http.checked "bundler" outcome).map
            fun _ => pairs.map fun pair => (client.arrange pair).1) := by
  simp only [storeBatch, items_arranged, if_neg (Nat.not_lt.mpr fits), List.map_map]
  rfl

theorem storeBatch_safe {pairs : List PreparedPair}
    (fits : Bundle.length (pairs.flatMap client.itemsOf) ≤ client.maxBundleSize.toNat) :
    Job.Safe Machine.journal (Http.Only (client.request (pairs.flatMap client.itemsOf)))
      (fun answer calls => ∀ uploaded, answer = .ok uploaded →
        .post (client.request (pairs.flatMap client.itemsOf)) ∈ calls ∧
          uploaded = pairs.map fun pair => (client.arrange pair).1)
      (client.storeBatch pairs) [] := by
  rw [storeBatch_of_small fits]
  refine Job.Safe.map Machine.journal _ _ ((Http.postFrom_safe 1 client.retries .nil).weaken ?_)
  rintro outcome calls ⟨_, posted⟩ uploaded returned
  refine ⟨posted, ?_⟩
  cases checked : Http.checked "bundler" outcome with
  | error fault => simp [checked, Except.map] at returned
  | ok response =>
      rw [checked] at returned
      exact (Except.ok.inj returned).symm

/-- A bundle above the limit is refused by its size and not sent. Otherwise all that is sent,
however often, is one bundle, and success gives for each pair the addresses that its items have in
this bundle. -/
theorem storeBatch_returns (client : BundleClient) (pairs : List PreparedPair)
    {left : Job Machine (Except StorageFault (List UploadedPair))} {calls : List Machine.Call}
    (leads : Job.Leads Machine.journal (client.storeBatch pairs) [] left calls) :
    let items := pairs.flatMap client.itemsOf
    let size := Bundle.length items
    let limit := client.maxBundleSize.toNat
    (limit < size → calls = [] ∧ left = .done (.error (.batchTooLarge size limit))) ∧
    (size ≤ limit → ∃ contents, Bundle.read? (Bundle.encode items) = some contents ∧
      (∀ call ∈ calls, (∃ seconds, call = .pause seconds) ∨
        ∃ request, call = .post request ∧ request.body = .bytes (Bundle.encode items)) ∧
      ∀ uploaded, left = .done (.ok uploaded) →
        (∃ request, .post request ∈ calls) ∧ uploaded.length = pairs.length ∧
        ∀ place pair result, pairs[place]? = some pair → uploaded[place]? = some result →
          client.Returns contents (2 * place) pair result) := by
  intro items size limit
  constructor
  · intro large
    rw [storeBatch_of_large large] at leads
    exact (Machine.nothing_noted leads).symm
  · intro fits
    have countable := countable_of_length (Nat.lt_of_le_of_lt fits client.maxBundleSize.toNat_lt)
    obtain ⟨contents, read, tells⟩ := Bundle.exists_tells countable
    obtain ⟨only, ended⟩ := storeBatch_safe fits left calls leads
    refine ⟨contents, read, fun call found => ?_, fun uploaded returned => ?_⟩
    · exact (only call found).imp_right fun same => ⟨_, same, rfl⟩
    · obtain ⟨posted, rfl⟩ := ended _ returned uploaded rfl
      refine ⟨⟨_, posted⟩, List.length_map _, fun place pair result held held' => ?_⟩
      rw [List.getElem?_map, held] at held'
      cases held'
      exact returns_of_tells tells held

/-- A bundle that is posted twice, since the first time the connection is lost. -/
theorem storeBatch_returns_after_retry :
    ∃ (client : BundleClient) (first second : PreparedPair) (uploaded : List UploadedPair)
      (calls : List Machine.Call) (contents : Bundle.Contents) (one other : UploadedPair),
      Job.Leads Machine.journal (client.storeBatch [first, second]) []
        (.done (.ok uploaded)) calls ∧
      calls.length = 3 ∧ uploaded = [one, other] ∧
      client.Returns contents 0 first one ∧ client.Returns contents 2 second other := by
  let client : BundleClient := ⟨"https://bundler.test/", "https://gateway.test/", 2000, 1⟩
  let first : PreparedPair := ⟨1, [1, 2], ⟨"Land #1", none, 0, "", {}, []⟩⟩
  let second : PreparedPair := ⟨2, [], ⟨"Land #2", some "LAND", 500, "2.png", {}, []⟩⟩
  let request := client.request ([first, second].flatMap client.itemsOf)
  have fits :
      Bundle.length ([first, second].flatMap client.itemsOf) ≤ client.maxBundleSize.toNat := by
    decide +kernel
  have leads : Job.Leads Machine.journal (client.storeBatch [first, second]) []
      (.done (.ok [(client.arrange first).1, (client.arrange second).1]))
      [.post request, .pause 1, .post request] := by
    rw [storeBatch_of_small fits]
    refine Machine.noted (.error "connection reset") (Machine.noted () (Machine.noted ?_ ?_))
    · exact .ok ⟨200, []⟩
    · exact .rest _ _
  obtain ⟨contents, _, _, returned⟩ := (storeBatch_returns client _ leads).2 fits
  obtain ⟨_, _, each⟩ := returned _ rfl
  exact ⟨client, first, second, _, _, contents, _, _, leads, rfl, rfl, each 0 _ _ rfl rfl,
    each 1 _ _ rfl rfl⟩

end BundleClient

end Cadastre
