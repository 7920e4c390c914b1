import Cadastre.Proofs.Item.Lifecycle

/-!
Refused calls. They leave the record as it was, and a run of calls comes to the same without them;
but an upload without a link, of a key that has no item, leaves a pending item there.
-/

namespace Cadastre

namespace RecordCall

def isRefused (call : RecordCall) (record : Record) : Bool :=
  match (call.perform record).1 with
  | some (.error _) => true
  | some (.ok ()) => false
  | none => false

/-- The item that is left behind when the call is refused, if there is one. -/
def remnant? (call : RecordCall) (record : Record) : Option Item :=
  match call with
  | recordUpload key link name =>
    if link = "" ∧ record.get? key = none then some (.pending name) else none
  | markOnChain _ => none
  | markItemUploaded _ _ _ => none
  | markItemOnChain _ _ => none

def telling (record : Record) : List RecordCall → List RecordCall
  | [] => []
  | call :: rest =>
    let others := telling (call.perform record).2 rest
    if call.isRefused record && (call.remnant? record).isNone then others else call :: others

variable {record : Record} {call : RecordCall} {item : Item}

theorem isRefused_iff :
    call.isRefused record = true ↔ ∃ fault, (call.perform record).1 = some (.error fault) := by
  unfold isRefused
  split
  · rename_i fault refused
    exact iff_of_true rfl ⟨fault, refused⟩
  · rename_i done
    simp [done]
  · rename_i absent
    simp [absent]

theorem recordUpload_of_vacant {key : LocalKey} (vacant : record.get? key = none) (name : String) :
    record.recordUpload key "" name = (.error (.invalidStateTransition (toString key)
      ItemState.pending.name ItemState.uploaded.name), record.put key (.pending name)) := by
  have pending : (Item.pending name).state = .pending := (Item.state_eq_pending_iff _).mpr rfl
  simp [Record.recordUpload, vacant, Item.markUploaded, Item.refuse, pending]

theorem recordUpload_of_refused {key : LocalKey} {link : Locator} {name : String} {fault : Fault}
    (refused : (record.recordUpload key link name).1 = .error fault)
    (sound : link ≠ "" ∨ record.get? key ≠ none) :
    (record.recordUpload key link name).2 = record := by
  unfold Record.recordUpload at refused ⊢
  cases held : record.get? key with
  | none =>
      have filled : link ≠ "" := sound.resolve_right fun present => present held
      have stored := (Item.markUploaded_eq_ok_iff (.pending name) _ key link).mpr ⟨rfl, filled, rfl⟩
      simp [held, stored] at refused
  | some item =>
      cases result : item.markUploaded key link with
      | error fault => simpa [result] using Record.put_of_get? held
      | ok changed => simp [held, result] at refused

theorem changeItem_of_refused {key : LocalKey} {change : Item → Except Fault Item} {fault : Fault}
    (refused : (record.changeItem key change).1 = some (.error fault)) :
    (record.changeItem key change).2 = record := by
  rcases record.changeItem_cases key change with ⟨_, same⟩ | ⟨item, changed, held, done, _⟩
  · exact same
  · simp [Record.changeItem, held, done] at refused

theorem perform_of_remnant (left : call.remnant? record = some item) :
    call.isRefused record = true ∧ record.get? call.key = none ∧ item.state = .pending ∧
      (call.perform record).2 = record.put call.key item := by
  cases call with
  | recordUpload key link name =>
      by_cases astray : link = "" ∧ record.get? key = none
      · rw [remnant?, if_pos astray] at left
        cases left
        obtain ⟨rfl, vacant⟩ := astray
        have performed := recordUpload_of_vacant vacant name
        have refused := congrArg (fun outcome => some outcome.1) performed
        exact ⟨isRefused_iff.mpr ⟨_, refused⟩, vacant, (Item.state_eq_pending_iff _).mpr rfl,
          congrArg Prod.snd performed⟩
      · rw [remnant?, if_neg astray] at left
        cases left
  | markOnChain key => cases left
  | markItemUploaded key named link => cases left
  | markItemOnChain key named => cases left

theorem perform_of_refused (refused : call.isRefused record = true)
    (clean : call.remnant? record = none) : (call.perform record).2 = record := by
  obtain ⟨fault, refused⟩ := isRefused_iff.mp refused
  cases call with
  | recordUpload key link name =>
      have sound : link ≠ "" ∨ record.get? key ≠ none := by
        by_cases empty : link = ""
        · refine Or.inr fun vacant => ?_
          simp [remnant?, empty, vacant] at clean
        · exact Or.inl empty
      exact recordUpload_of_refused (Option.some.inj refused) sound
  | markOnChain key =>
      cases result : record.markOnChain key with
      | error fault => simp only [perform, result]
      | ok after => simp [perform, result] at refused
  | markItemUploaded key named link => exact changeItem_of_refused refused
  | markItemOnChain key named => exact changeItem_of_refused refused

theorem put_ne_self {key : LocalKey} (vacant : record.get? key = none) (item : Item) :
    record.put key item ≠ record := by
  intro same
  have held := record.get?_put_self key item
  rw [same, vacant] at held
  cases held

theorem after_telling (record : Record) (calls : List RecordCall) :
    after record (telling record calls) = after record calls := by
  induction calls generalizing record with
  | nil => rfl
  | cons call rest ih =>
      have next : after record (call :: rest) = after (call.perform record).2 rest := rfl
      rw [next, ← ih, telling]
      by_cases idle : call.isRefused record = true ∧ call.remnant? record = none
      · rw [if_pos (by simp [idle]), perform_of_refused idle.1 idle.2]
      · rw [if_neg (by simpa using idle)]
        rfl

/-- A refused call leaves the record just as it was, unless it is an upload without a link of a key
that has no item; that one is always refused, and leaves a pending item and all else as it was. A
run of calls comes to the same if those that are refused and leave nothing are not made. -/
theorem refusal_keeps_record_iff (record : Record) :
    (∀ call : RecordCall, call.isRefused record = true →
      ((call.perform record).2 = record ↔ call.remnant? record = none)) ∧
    (∀ (call : RecordCall) (item : Item), call.remnant? record = some item →
      call.isRefused record = true ∧ record.get? call.key = none ∧ item.state = .pending ∧
        (call.perform record).2 = record.put call.key item) ∧
    ∀ calls : List RecordCall, after record (telling record calls) = after record calls := by
  refine ⟨fun call refused => ⟨fun same => ?_, perform_of_refused refused⟩,
    fun call item => perform_of_remnant, after_telling record⟩
  cases left : call.remnant? record with
  | none => rfl
  | some item =>
      obtain ⟨_, vacant, _, changed⟩ := perform_of_remnant left
      rw [changed] at same
      exact absurd same (put_ne_self vacant item)

/-- The key of an upload without a link, in a record that has no items, is one of its keys
afterwards. -/
theorem linkless_upload_leaves_item :
    ∃ call : RecordCall, call.isRefused {} = true ∧ (call.perform {}).2 ≠ {} ∧
      ((call.perform {}).2.get? 3).map Item.name = some "Land #3" := by
  let call : RecordCall := .recordUpload 3 "" "Land #3"
  obtain ⟨changes, leaves, _⟩ := refusal_keeps_record_iff {}
  have left : call.remnant? {} = some (.pending "Land #3") := by decide
  obtain ⟨refused, _, _, changed⟩ := leaves call _ left
  refine ⟨call, refused, fun same => ?_, ?_⟩
  · rw [(changes call refused).mp same] at left
    cases left
  · rw [changed]
    simp [call, RecordCall.key, Item.pending]

end RecordCall

end Cadastre
