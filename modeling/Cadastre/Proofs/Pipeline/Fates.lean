import Cadastre.Proofs.Pipeline.Passes

/-!
The fates of windows, told by the record that a pass begins with and by the verdicts on their
writes. A pass marks items as it goes, but none of a window that it has still to deal with, so that
it finds in its own record what was there at the beginning.
-/

namespace Cadastre

def WindowOutcome.isTried : WindowOutcome → Bool
  | written | failed _ => true
  | skipped | notReady => false

def WindowOutcome.ofVerdict : Except RegistryFault Unit → WindowOutcome
  | .ok () => written
  | .error fault => failed fault.message

theorem WindowOutcome.isTried_ofVerdict (verdict : Except RegistryFault Unit) :
    (ofVerdict verdict).isTried = true := by
  cases verdict with
  | ok => rfl
  | error fault => rfl

namespace Record

def appendFor (record : Record) (registry : RegistryHandle) (window : Window) : AppendCall :=
  ⟨registry, window.filterMap fun key => (record.get? key).map Item.entry, window.first⟩

def fate (record : Record) (registry : RegistryHandle)
    (verdict : AppendCall → Except RegistryFault Unit) (window : Window) : WindowOutcome :=
  if window.all fun key => record.stateOf? key = some .onChain then .skipped
  else if window.any fun key => record.stateOf? key = some .pending then .notReady
  else .ofVerdict (verdict (record.appendFor registry window))

theorem fate_of_tried {record : Record} {registry : RegistryHandle}
    {verdict : AppendCall → Except RegistryFault Unit} {window : Window}
    (tried : (record.fate registry verdict window).isTried = true) :
    record.fate registry verdict window
      = .ofVerdict (verdict (record.appendFor registry window)) := by
  unfold fate at tried ⊢
  split at tried
  · cases tried
  · rename_i some
    rw [if_neg some]
    split at tried
    · cases tried
    · rename_i none
      rw [if_neg none]

def chain (record : Record) (keys : List LocalKey) : Record :=
  { record with items := record.items.map fun key item =>
      if key ∈ keys ∧ item.state = .uploaded then { item with onChain := true } else item }

theorem MarksTo.eq_chain {keys : List LocalKey} {record marked : Record}
    (marks : MarksTo keys record marked) : marked = record.chain keys := by
  obtain ⟨program, items⟩ := marked
  have same : items = (record.chain keys).items := by
    refine Std.ExtTreeMap.ext_getElem? fun {key} => ?_
    have held := marks.item key
    simp only [get?] at held
    rw [held, chain, Std.ExtTreeMap.getElem?_map]
    congr 1
    funext item
    by_cases uploaded : item.state = .uploaded
    · have filled := ((item.state_eq_uploaded_iff).mp uploaded).1
      simp [uploaded, filled]
    · rcases Item.empty_or_onChain uploaded with empty | chained
      · simp [uploaded, empty]
      · obtain ⟨link, name, flag⟩ := item
        cases chained
        simp [uploaded]
  rw [same, show program = record.program from marks.program]
  rfl

theorem MarksTo.congr {keys others : List LocalKey} {record marked : Record}
    (marks : MarksTo keys record marked) (same : ∀ key, key ∈ others ↔ key ∈ keys) :
    MarksTo others record marked := by
  refine ⟨marks.program, fun key => ?_⟩
  simp only [marks.item, same]

theorem MarksTo.get?_of_not_mem {keys : List LocalKey} {record marked : Record}
    (marks : MarksTo keys record marked) {key : LocalKey} (apart : key ∉ keys) :
    marked.get? key = record.get? key := by
  rw [marks.item]
  simp [apart]

section

variable {record other : Record} {window : Window}

theorem allOnChain_congr (same : ∀ key ∈ window, record.get? key = other.get? key) :
    record.allOnChain window = other.allOnChain window := by
  have states : ∀ key ∈ window, record.stateOf? key = other.stateOf? key := by
    intro key member
    rw [stateOf?, stateOf?, same key member]
  rw [Bool.eq_iff_iff]
  simp only [allOnChain, List.all_eq_true]
  exact forall₂_congr fun key member => by rw [states key member]

theorem entries?_cons (record : Record) (key : LocalKey) (window : Window) :
    record.entries? (key :: window)
      = ((record.get? key).filter fun item => item.state ≠ .pending).bind fun item =>
          (record.entries? window).map fun entries => item.entry :: entries := by
  rw [entries?, List.mapM_cons]
  cases (record.get? key).filter fun item => item.state ≠ .pending with
  | none => rfl
  | some item =>
      change (record.entries? window).bind (fun entries => some (item.entry :: entries)) = _
      cases record.entries? window <;> rfl

theorem entries?_congr (same : ∀ key ∈ window, record.get? key = other.get? key) :
    record.entries? window = other.entries? window := by
  induction window with
  | nil => rfl
  | cons key rest ih =>
      have later := ih fun next member => same next (List.mem_cons_of_mem key member)
      rw [entries?_cons, entries?_cons, same key List.mem_cons_self, later]

theorem entries?_eq_none {key : LocalKey} (member : key ∈ window)
    (pending : record.stateOf? key = some .pending) : record.entries? window = none := by
  induction window with
  | nil => cases member
  | cons first rest ih =>
      rw [entries?_cons]
      rcases List.mem_cons.mp member with rfl | later
      · obtain ⟨item, held, state⟩ := Option.map_eq_some_iff.mp pending
        simp [held, Option.filter, state]
      · rw [ih later]
        simp

theorem entries?_eq_some (held : ∀ key ∈ window, key ∈ record.keys)
    (stored : ∀ key ∈ window, record.stateOf? key ≠ some .pending) :
    record.entries? window
      = some (window.filterMap fun key => (record.get? key).map Item.entry) := by
  induction window with
  | nil => rfl
  | cons key rest ih =>
      have later := ih (fun next member => held next (List.mem_cons_of_mem key member))
        fun next member => stored next (List.mem_cons_of_mem key member)
      obtain ⟨item, found⟩ := Option.isSome_iff_exists.mp
        ((record.mem_keys_iff key).mp (held key List.mem_cons_self))
      have ready : item.state ≠ .pending := by
        have state := stored key List.mem_cons_self
        rw [stateOf?, found, Option.map_some] at state
        exact fun same => state (congrArg some same)
      rw [entries?_cons, later, found]
      simp [Option.filter, ready, found]

end

end Record

theorem Record.Cuts.fresh {record : Record} {dealt later : List Window} {window : Window}
    (cuts : record.Cuts (dealt ++ window :: later)) :
    ∀ key ∈ window, ∀ other ∈ dealt, key ∉ other := by
  have distinct : (dealt ++ window :: later).flatten.Nodup := by
    rw [cuts.whole]
    exact Std.ExtTreeMap.nodup_keys
  rw [List.flatten_append, List.flatten_cons, List.nodup_append] at distinct
  intro key member other found within
  have before : key ∈ dealt.flatten := List.mem_flatten.mpr ⟨other, found, within⟩
  exact distinct.2.2 key before key (List.mem_append_left _ member) rfl

end Cadastre
