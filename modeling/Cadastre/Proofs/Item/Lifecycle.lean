import Cadastre.Item.RecordFile
import Cadastre.Json.Reader
import Cadastre.Proofs.Item.Record

/-!
The lifecycle of items through any calls on a record and on the items in it. A call takes its item
one step on, from pending to uploaded to on chain, and leaves the others where they are; only an
item that is flagged as on chain before it has a link leaves this order.
-/

namespace Cadastre

/-- What may be asked of a record or of an item in it. A call on the item under `key` is told a
key to name in its refusal. -/
inductive RecordCall where
  | recordUpload (key : LocalKey) (link : Locator) (name : String)
  | markOnChain (key : LocalKey)
  | markItemUploaded (key named : LocalKey) (link : Locator)
  | markItemOnChain (key named : LocalKey)

namespace Record

def changeItem (record : Record) (key : LocalKey) (change : Item → Except Fault Item) :
    Option (Except Fault Unit) × Record :=
  match record.get? key with
  | none => (none, record)
  | some item =>
    match change item with
    | .ok item => (some (.ok ()), record.put key item)
    | .error fault => (some (.error fault), record)

def Misflagged (record : Record) (key : LocalKey) : Prop :=
  ∃ item, record.get? key = some item ∧ item.link = "" ∧ item.onChain = true

def flagged (record : Record) (key : LocalKey) : Bool :=
  (record.get? key).any Item.onChain

end Record

namespace RecordCall

def key : RecordCall → LocalKey
  | recordUpload key _ _ => key
  | markOnChain key => key
  | markItemUploaded key _ _ => key
  | markItemOnChain key _ => key

def isUpload : RecordCall → Bool
  | recordUpload _ _ _ => true
  | markItemUploaded _ _ _ => true
  | markOnChain _ => false
  | markItemOnChain _ _ => false

/-- The answer, none if there is no item to call, and the record that the call leaves. -/
def perform (record : Record) : RecordCall → Option (Except Fault Unit) × Record
  | recordUpload key link name =>
    let (answer, after) := record.recordUpload key link name
    (some answer, after)
  | markOnChain key =>
    match record.markOnChain key with
    | .ok after => (some (.ok ()), after)
    | .error fault => (some (.error fault), record)
  | markItemUploaded key named link => record.changeItem key fun item => item.markUploaded named link
  | markItemOnChain key named => record.changeItem key fun item => item.markOnChain named

def Succeeds (call : RecordCall) (record : Record) : Prop :=
  (call.perform record).1 = some (.ok ())

def after (record : Record) (calls : List RecordCall) : Record :=
  calls.foldl (fun record call => (call.perform record).2) record

/-- Whether the call, if it succeeds, takes its item just one step on; it leaves the states of all
other items as they are. -/
structure Orderly (call : RecordCall) (record : Record) : Prop where
  others : ∀ other, other ≠ call.key →
    (call.perform record).2.stateOf? other = record.stateOf? other
  uploads : call.Succeeds record → call.isUpload = true →
    (record.stateOf? call.key = none ∨ record.stateOf? call.key = some .pending) ∧
      (call.perform record).2.stateOf? call.key = some .uploaded
  chains : call.Succeeds record → call.isUpload = false →
    record.stateOf? call.key = some .uploaded ∧
      (call.perform record).2.stateOf? call.key = some .onChain

end RecordCall

theorem Item.markUploaded_eq_ok_iff (item after : Item) (key : LocalKey) (link : Locator) :
    item.markUploaded key link = .ok after ↔
      item.link = "" ∧ link ≠ "" ∧ after = ⟨link, item.name, item.onChain⟩ := by
  rw [← item.state_eq_pending_iff]
  unfold markUploaded
  by_cases refused : item.state ≠ .pending ∨ link.isEmpty
  · simp only [refused, ↓reduceIte, refuse]
    simp only [String.isEmpty_iff] at refused
    constructor
    · intro impossible
      cases impossible
    · rintro ⟨pending, filled, _⟩
      exact absurd refused (by simp [pending, filled])
  · simp only [refused, ↓reduceIte, Except.ok.injEq]
    simp only [String.isEmpty_iff, not_or, ne_eq, Classical.not_not] at refused
    simp only [refused, not_false_eq_true, true_and, ne_eq]
    exact eq_comm

theorem Item.markOnChain_eq_ok_iff (item after : Item) (key : LocalKey) :
    item.markOnChain key = .ok after ↔
      item.state = .uploaded ∧ after = { item with onChain := true } := by
  unfold markOnChain
  by_cases uploaded : item.state = .uploaded
  · simp only [uploaded, ne_eq, not_true_eq_false, ↓reduceIte, Except.ok.injEq, true_and]
    exact eq_comm
  · simp [uploaded, refuse]

namespace Record

theorem put_of_get? {record : Record} {key : LocalKey} {item : Item}
    (held : record.get? key = some item) : record.put key item = record := by
  have same : record.items.insert key item = record.items := by
    refine Std.ExtTreeMap.ext_getElem? fun {other} => ?_
    by_cases equal : key = other
    · subst equal
      rw [Std.ExtTreeMap.getElem?_insert_self]
      exact held.symm
    · rw [Std.ExtTreeMap.getElem?_insert, if_neg (by simpa using equal)]
  rw [put, same]

theorem changeItem_cases (record : Record) (key : LocalKey) (change : Item → Except Fault Item) :
    ((record.changeItem key change).1 ≠ some (.ok ()) ∧ (record.changeItem key change).2 = record) ∨
      ∃ item changed, record.get? key = some item ∧ change item = .ok changed ∧
        (record.changeItem key change).2 = record.put key changed := by
  unfold changeItem
  cases held : record.get? key with
  | none => exact Or.inl ⟨by simp, rfl⟩
  | some item =>
      cases result : change item with
      | error fault => exact Or.inl ⟨by simp [result], by simp [result]⟩
      | ok changed => exact Or.inr ⟨item, changed, rfl, result, by simp [result]⟩

theorem flagged_eq {record : Record} {key : LocalKey} {item : Item}
    (held : record.get? key = some item) : record.flagged key = item.onChain := by
  rw [flagged, held]
  rfl

theorem flagged_of_pending {record : Record} {key : LocalKey} {item : Item}
    (held : record.get? key = some item) (empty : item.link = "")
    (right : ¬ record.Misflagged key) : record.flagged key = false := by
  rw [flagged_eq held, Bool.eq_false_iff]
  intro flagged
  exact right ⟨item, held, empty, flagged⟩

end Record

namespace RecordCall

variable {record : Record} {call : RecordCall}

theorem recordUpload_cases (record : Record) (key : LocalKey) (link : Locator) (name : String) :
    ((record.recordUpload key link name).1 ≠ .ok () ∧
      ((record.recordUpload key link name).2 = record ∨ record.get? key = none ∧
        (record.recordUpload key link name).2 = record.put key (.pending name))) ∨
    ((∀ item, record.get? key = some item → item.link = "") ∧ link ≠ "" ∧
      (record.recordUpload key link name).2
        = record.put key ⟨link, name, record.flagged key⟩) := by
  unfold Record.recordUpload
  cases held : record.get? key with
  | none =>
      have unflagged : record.flagged key = false := by rw [Record.flagged, held]; rfl
      cases result : (Item.pending name).markUploaded key link with
      | error fault => exact Or.inl ⟨by simp [result], Or.inr ⟨rfl, by simp [result]⟩⟩
      | ok item =>
          obtain ⟨_, filled, rfl⟩ := (Item.markUploaded_eq_ok_iff _ _ _ _).mp result
          refine Or.inr ⟨nofun, filled, ?_⟩
          simp only [Option.getD_none, result, unflagged]
          rfl
  | some item =>
      cases result : item.markUploaded key link with
      | error fault =>
          refine Or.inl ⟨by simp [result], Or.inl ?_⟩
          simp [result, Record.put_of_get? held]
      | ok changed =>
          obtain ⟨empty, filled, rfl⟩ := (Item.markUploaded_eq_ok_iff _ _ _ _).mp result
          refine Or.inr ⟨?_, filled, ?_⟩
          · rintro other ⟨⟩
            exact empty
          · simp [result, Record.flagged_eq held]

theorem perform_cases (call : RecordCall) (record : Record) :
    (¬ call.Succeeds record ∧
      ((call.perform record).2 = record ∨ record.get? call.key = none ∧
        ∃ name, (call.perform record).2 = record.put call.key (.pending name))) ∨
    (call.isUpload = true ∧ (∀ item, record.get? call.key = some item → item.link = "") ∧
      ∃ link name, link ≠ "" ∧ (call.perform record).2
        = record.put call.key ⟨link, name, record.flagged call.key⟩) ∨
    (call.isUpload = false ∧ ∃ item, record.get? call.key = some item ∧ item.state = .uploaded ∧
      (call.perform record).2 = record.put call.key { item with onChain := true }) := by
  cases call with
  | recordUpload key link name =>
      rcases recordUpload_cases record key link name with ⟨refused, left⟩ | ⟨empty, filled, left⟩
      · refine Or.inl ⟨fun done => refused (Option.some.inj done), ?_⟩
        exact left.imp_right fun ⟨absent, same⟩ => ⟨absent, name, same⟩
      · exact Or.inr (Or.inl ⟨rfl, empty, link, name, filled, left⟩)
  | markOnChain key =>
      simp only [Succeeds, perform, Record.markOnChain, RecordCall.key]
      cases held : record.get? key with
      | none => exact Or.inl ⟨by simp, Or.inl rfl⟩
      | some item =>
          cases result : item.markOnChain key with
          | error fault =>
              exact Or.inl ⟨by simp [Except.map, result], Or.inl (by simp [Except.map, result])⟩
          | ok changed =>
              obtain ⟨uploaded, rfl⟩ := (Item.markOnChain_eq_ok_iff _ _ _).mp result
              refine Or.inr (Or.inr ⟨rfl, item, rfl, uploaded, ?_⟩)
              simp [Except.map, result]
  | markItemUploaded key named link =>
      rcases record.changeItem_cases key (fun item => item.markUploaded named link) with
        ⟨refused, left⟩ | ⟨item, changed, held, result, left⟩
      · exact Or.inl ⟨refused, Or.inl left⟩
      · obtain ⟨empty, filled, rfl⟩ := (Item.markUploaded_eq_ok_iff _ _ _ _).mp result
        refine Or.inr (Or.inl ⟨rfl, ?_, link, item.name, filled, ?_⟩)
        · intro other found
          rw [RecordCall.key, held] at found
          cases found
          exact empty
        · rw [RecordCall.key, Record.flagged_eq held]
          exact left
  | markItemOnChain key named =>
      rcases record.changeItem_cases key (fun item => item.markOnChain named) with
        ⟨refused, left⟩ | ⟨item, changed, held, result, left⟩
      · exact Or.inl ⟨refused, Or.inl left⟩
      · obtain ⟨uploaded, rfl⟩ := (Item.markOnChain_eq_ok_iff _ _ _).mp result
        exact Or.inr (Or.inr ⟨rfl, item, held, uploaded, left⟩)

theorem stateOf?_put_of_ne (record : Record) {key other : LocalKey} (item : Item)
    (different : other ≠ key) : (record.put key item).stateOf? other = record.stateOf? other := by
  rw [Record.stateOf?, Record.get?_put_of_ne _ _ (Ne.symm different), Record.stateOf?]

theorem stateOf?_perform_of_ne (call : RecordCall) (record : Record) {other : LocalKey}
    (different : other ≠ call.key) :
    (call.perform record).2.stateOf? other = record.stateOf? other := by
  rcases call.perform_cases record with ⟨_, same | ⟨_, name, same⟩⟩ |
    ⟨_, _, link, name, _, same⟩ | ⟨_, item, _, _, same⟩
  · rw [same]
  all_goals rw [same, stateOf?_put_of_ne _ _ different]

theorem misflagged_of_perform {key : LocalKey}
    (astray : (call.perform record).2.Misflagged key) : record.Misflagged key := by
  obtain ⟨item, held, empty, flagged⟩ := astray
  rcases call.perform_cases record with ⟨_, same | ⟨_, name, same⟩⟩ |
    ⟨_, _, link, name, filled, same⟩ | ⟨_, old, _, uploaded, same⟩
  · rw [same] at held
    exact ⟨item, held, empty, flagged⟩
  all_goals
    rw [same] at held
    rcases Record.get?_put_cases held with ⟨_, rfl⟩ | earlier
  · cases flagged
  · exact ⟨item, earlier, empty, flagged⟩
  · exact absurd empty filled
  · exact ⟨item, earlier, empty, flagged⟩
  · exact absurd empty ((old.state_eq_uploaded_iff).mp uploaded).1
  · exact ⟨item, earlier, empty, flagged⟩

theorem misflagged_of_after {key : LocalKey} (calls : List RecordCall)
    (astray : (after record calls).Misflagged key) : record.Misflagged key := by
  induction calls generalizing record with
  | nil => exact astray
  | cons call rest ih => exact misflagged_of_perform (ih astray)

theorem orderly_of_not_misflagged (right : ¬ record.Misflagged call.key) :
    call.Orderly record := by
  refine ⟨fun other => stateOf?_perform_of_ne call record, fun done uploads => ?_,
    fun done chains => ?_⟩
  · rcases call.perform_cases record with ⟨refused, _⟩ | ⟨_, empty, link, name, filled, same⟩ |
      ⟨other, _⟩
    · exact absurd done refused
    · have unflagged : record.flagged call.key = false := by
        cases held : record.get? call.key with
        | none => rw [Record.flagged, held]; rfl
        | some item => exact Record.flagged_of_pending held (empty item held) right
      constructor
      · cases held : record.get? call.key with
        | none => exact Or.inl (by rw [Record.stateOf?, held]; rfl)
        | some item =>
            have pending := (item.state_eq_pending_iff).mpr (empty item held)
            exact Or.inr (by rw [Record.stateOf?, held, Option.map_some, pending])
      · rw [same, Record.stateOf?, Record.get?_put_self, Option.map_some, Option.some.injEq,
          unflagged]
        exact (Item.state_eq_uploaded_iff _).mpr ⟨filled, rfl⟩
    · rw [uploads] at other
      cases other
  · rcases call.perform_cases record with ⟨refused, _⟩ | ⟨other, _⟩ |
      ⟨_, item, held, uploaded, same⟩
    · exact absurd done refused
    · rw [chains] at other
      cases other
    · have filled := ((item.state_eq_uploaded_iff).mp uploaded).1
      constructor
      · rw [Record.stateOf?, held, Option.map_some, uploaded]
      · rw [same, Record.stateOf?, Record.get?_put_self, Option.map_some, Option.some.injEq]
        exact (Item.state_eq_onChain_iff _).mpr ⟨filled, rfl⟩

/-- Through any calls the item under a key goes through the lifecycle in order, and calls on it
leave the others alone, just if it is not flagged without a link at the start. -/
theorem orderly_iff_not_misflagged (record : Record) (key : LocalKey) :
    (∀ (calls : List RecordCall) (call : RecordCall), call.key = key →
      call.Orderly (after record calls)) ↔ ¬ record.Misflagged key := by
  constructor
  · rintro orderly ⟨item, held, empty, flagged⟩
    have uploaded := (Record.recordUpload_eq_ok_iff record _ key "link" "name").mpr
      ⟨by rw [held]; exact empty, by decide, rfl⟩
    rw [held, Option.getD_some, flagged] at uploaded
    have step := (orderly [] (.recordUpload key "link" "name") rfl).uploads
      (by simp [Succeeds, perform, after, uploaded]) rfl
    have skipped := step.2
    simp only [perform, after, List.foldl_nil, uploaded, RecordCall.key, Record.stateOf?,
      Record.get?_put_self, Option.map_some, Option.some.injEq] at skipped
    exact absurd skipped (by decide)
  · rintro right calls call rfl
    apply orderly_of_not_misflagged
    exact fun astray => right (misflagged_of_after calls astray)

/-- A file may hold such an item, and uploading it puts it on chain. -/
theorem misflagged_item_skips :
    ∃ record, (Json.read? (Text.utf8
        "\x7b\"items\":\x7b\"3\":\x7b\"name\":\"Land #3\",\"onChain\":true\x7d\x7d\x7d")).bind
          (fun value => Record.ofDocument? (.ofJson value)) = some record ∧
      ¬ ∀ (calls : List RecordCall) (call : RecordCall), call.key = 3 →
        call.Orderly (after record calls) := by
  have reads : ((Json.read? (Text.utf8
      "\x7b\"items\":\x7b\"3\":\x7b\"name\":\"Land #3\",\"onChain\":true\x7d\x7d\x7d")).bind
        (fun value => Record.ofDocument? (.ofJson value))).bind (fun record => record.get? 3)
      = some ⟨"", "Land #3", true⟩ := by decide +kernel
  obtain ⟨record, parsed, held⟩ := Option.bind_eq_some_iff.mp reads
  refine ⟨record, parsed, ?_⟩
  rw [orderly_iff_not_misflagged]
  intro right
  exact right ⟨_, held, rfl, rfl⟩

end RecordCall

end Cadastre
