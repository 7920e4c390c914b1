import Cadastre.Pipeline.Sync
import Cadastre.Proofs.Item.Record
import Cadastre.Proofs.Pipeline.Books
import Mathlib.Data.List.Nodup

/-!
Windows put together again are the keys they were made from. Each is a run of consecutive keys, so
that its entries take the lines of its own keys.
-/

namespace Cadastre

namespace Window

def Consecutive (window : Window) : Prop :=
  List.IsChain (fun key next => next = key + 1) window

theorem flatten_extend (size : UInt64) (key : LocalKey) (windows : List Window) :
    (extend size key windows).flatten = key :: windows.flatten := by
  unfold extend
  split
  · split <;> simp
  · simp

theorem flatten_ofKeys (size : UInt64) (keys : List LocalKey) :
    (ofKeys size keys).flatten = keys := by
  induction keys with
  | nil => rfl
  | cons key rest ih => rw [ofKeys, List.foldr_cons, flatten_extend, ← ofKeys, ih]

theorem extend_runs {size : UInt64} {windows : List Window} (key : LocalKey)
    (runs : ∀ window ∈ windows, window ≠ [] ∧ window.IsChain fun key next => joins size key next) :
    ∀ window ∈ extend size key windows,
      window ≠ [] ∧ window.IsChain fun key next => joins size key next := by
  unfold extend
  split
  · rename_i next more others
    obtain ⟨first, rest⟩ := List.forall_mem_cons.mp runs
    by_cases joined : joins size key next = true
    · rw [if_pos joined]
      refine List.forall_mem_cons.mpr ⟨⟨by simp, ?_⟩, rest⟩
      exact List.isChain_cons_cons.mpr ⟨joined, first.2⟩
    · rw [if_neg joined]
      exact List.forall_mem_cons.mpr ⟨⟨by simp, List.IsChain.singleton _⟩, runs⟩
  · exact List.forall_mem_cons.mpr ⟨⟨by simp, List.IsChain.singleton _⟩, runs⟩

theorem ofKeys_runs (size : UInt64) (keys : List LocalKey) :
    ∀ window ∈ ofKeys size keys,
      window ≠ [] ∧ window.IsChain fun key next => joins size key next := by
  induction keys with
  | nil => simp [ofKeys]
  | cons key rest ih => exact extend_runs key ih

theorem ofKeys_sound (size : UInt64) (keys : List LocalKey) :
    ∀ window ∈ ofKeys size keys, window ≠ [] ∧ Consecutive window := by
  intro window member
  obtain ⟨filled, runs⟩ := ofKeys_runs size keys window member
  refine ⟨filled, runs.imp fun key next joined => ?_⟩
  rw [joins, Bool.and_eq_true, decide_eq_true_eq] at joined
  exact joined.1

theorem first_mem {window : Window} (filled : window ≠ []) : window.first ∈ window := by
  cases window with
  | nil => exact absurd rfl filled
  | cons key rest => simp [first]

theorem last_mem {window : Window} (filled : window ≠ []) : window.last ∈ window := by
  rw [last, List.getLast?_eq_some_getLast filled]
  exact List.getLast_mem filled

theorem eq_of_first_eq {windows : List Window} (distinct : windows.flatten.Nodup)
    (filled : ∀ window ∈ windows, window ≠ []) {one other : Window} (member : one ∈ windows)
    (member' : other ∈ windows) (same : one.first = other.first) : one = other := by
  induction windows with
  | nil => cases member
  | cons window rest ih =>
      rw [List.flatten_cons, List.nodup_append] at distinct
      have apart : ∀ later ∈ rest, window.first ≠ later.first := by
        intro later found equal
        exact distinct.2.2 _ (first_mem (filled window (by simp))) _
          (List.mem_flatten.mpr ⟨later, found, first_mem (filled later (by simp [found]))⟩) equal
      rcases List.mem_cons.mp member with rfl | found
      · rcases List.mem_cons.mp member' with rfl | found'
        · rfl
        · exact absurd same (apart other found')
      · rcases List.mem_cons.mp member' with rfl | found'
        · exact absurd same.symm (apart one found)
        · exact ih distinct.2.1 (fun later found => filled later (by simp [found])) found found'

end Window

namespace Record

theorem mem_keys_iff (record : Record) (key : LocalKey) :
    key ∈ record.keys ↔ (record.get? key).isSome = true := by
  rw [keys, Std.ExtTreeMap.mem_keys, get?, Std.ExtTreeMap.mem_iff_isSome_getElem?]

/-- Whether the windows are all the record's keys, in runs. -/
structure Cuts (record : Record) (windows : List Window) : Prop where
  whole : windows.flatten = record.keys
  sound : ∀ window ∈ windows, window ≠ [] ∧ window.Consecutive

theorem cuts_ofKeys (record : Record) (size : UInt64) :
    record.Cuts (Window.ofKeys size record.keys) :=
  ⟨Window.flatten_ofKeys size record.keys, Window.ofKeys_sound size record.keys⟩

theorem Cuts.mem_keys {record : Record} {windows : List Window} (cuts : record.Cuts windows)
    {window : Window} (member : window ∈ windows) {key : LocalKey} (found : key ∈ window) :
    key ∈ record.keys := by
  rw [← cuts.whole]
  exact List.mem_flatten.mpr ⟨window, member, found⟩

theorem Cuts.exists_window {record : Record} {windows : List Window} (cuts : record.Cuts windows)
    {key : LocalKey} (member : key ∈ record.keys) : ∃ window ∈ windows, key ∈ window := by
  rw [← cuts.whole] at member
  exact List.mem_flatten.mp member

theorem Cuts.apart {record : Record} {windows : List Window} (cuts : record.Cuts windows) :
    ∀ one ∈ windows, ∀ two ∈ windows, one.first = two.first → one = two := by
  intro one member two member' same
  refine Window.eq_of_first_eq ?_ (fun window found => (cuts.sound window found).1) member member'
    same
  rw [cuts.whole]
  exact Std.ExtTreeMap.nodup_keys

theorem entries?_numbered {record : Record} {window : Window} {entries : List RegistryEntry}
    (consecutive : window.Consecutive) (ready : record.entries? window = some entries) :
    (Ledger.numbered window.first entries).map Prod.fst = window ∧
      ∀ line ∈ Ledger.numbered window.first entries,
        (record.get? line.1).map Item.entry = some line.2 := by
  induction window generalizing entries with
  | nil =>
      cases ready
      exact ⟨rfl, nofun⟩
  | cons key rest ih =>
      rw [entries?, List.mapM_cons] at ready
      obtain ⟨entry, held, ready⟩ := Option.bind_eq_some_iff.mp ready
      obtain ⟨others, more, same⟩ := Option.bind_eq_some_iff.mp ready
      cases same
      have line : (record.get? key).map Item.entry = some entry := by
        obtain ⟨item, found, rfl⟩ := Option.map_eq_some_iff.mp held
        rw [(Option.filter_eq_some_iff.mp found).1]
        rfl
      have tail : (Ledger.numbered (key + 1) others).map Prod.fst = rest ∧
          ∀ line ∈ Ledger.numbered (key + 1) others,
            (record.get? line.1).map Item.entry = some line.2 := by
        cases rest with
        | nil =>
            cases more
            exact ⟨rfl, nofun⟩
        | cons next last =>
            obtain ⟨follows, chain⟩ := List.isChain_cons_cons.mp consecutive
            rw [← follows]
            exact ih chain more
      refine ⟨?_, ?_⟩
      · change key :: (Ledger.numbered (key + 1) others).map Prod.fst = key :: rest
        rw [tail.1]
      · intro found member
        rcases List.mem_cons.mp member with rfl | later
        · exact line
        · exact tail.2 found later

theorem exists_entries? {record : Record} {window : Window}
    (stored : ∀ key ∈ window, ∃ item, record.get? key = some item ∧ item.link ≠ "") :
    ∃ entries, record.entries? window = some entries := by
  induction window with
  | nil => exact ⟨[], rfl⟩
  | cons key rest ih =>
      obtain ⟨entries, more⟩ := ih fun other member => stored other (List.mem_cons_of_mem _ member)
      obtain ⟨item, held, filled⟩ := stored key List.mem_cons_self
      have ready : item.state ≠ .pending := mt (item.state_eq_pending_iff).mp filled
      refine ⟨⟨item.name, item.link⟩ :: entries, ?_⟩
      rw [entries?] at more
      rw [entries?, List.mapM_cons, more, held]
      simp [Option.filter, ready]

theorem markOnChain_of_uploaded {record : Record} {key : LocalKey}
    (uploaded : record.stateOf? key = some .uploaded) :
    ∃ item, record.get? key = some item ∧ item.link ≠ "" ∧
      record.markOnChain key = .ok (record.put key { item with onChain := true }) := by
  obtain ⟨item, held, state⟩ := Option.map_eq_some_iff.mp uploaded
  refine ⟨item, held, ((item.state_eq_uploaded_iff).mp state).1, ?_⟩
  simp [markOnChain, held, Item.markOnChain, state, Except.map]

theorem marksTo_markWindow (record : Record) (window : Window) :
    ∃ marked, record.markWindow window = .ok marked ∧ MarksTo window record marked := by
  induction window generalizing record with
  | nil =>
      refine ⟨record, rfl, rfl, fun key => ?_⟩
      simp
  | cons key rest ih =>
      by_cases uploaded : record.stateOf? key = some .uploaded
      · obtain ⟨item, held, filled, step⟩ := markOnChain_of_uploaded uploaded
        obtain ⟨marked, done, marks⟩ := ih (record.put key { item with onChain := true })
        refine ⟨marked, ?_, marks.program, fun other => ?_⟩
        · simp only [markWindow, uploaded, ↓reduceIte, step, done]
        · rw [marks.item, get?_put]
          by_cases same : key = other
          · subst same
            simp [held, filled]
          · have different : other ≠ key := Ne.symm same
            simp [same, different]
      · obtain ⟨marked, done, marks⟩ := ih record
        refine ⟨marked, ?_, marks.program, fun other => ?_⟩
        · simp only [markWindow, uploaded, ↓reduceIte, done]
        · rw [marks.item]
          by_cases same : other = key
          · subst same
            cases held : record.get? other with
            | none => rfl
            | some item =>
                have other' : item.state ≠ .uploaded := fun same =>
                  uploaded (by rw [stateOf?, held, Option.map_some, same])
                rcases Item.empty_or_onChain other' with empty | chained
                · simp [empty]
                · obtain ⟨link, name, flag⟩ := item
                  cases chained
                  simp
          · simp [same]

theorem onChain_of_allOnChain {record : Record} {window : Window}
    (all : record.allOnChain window = true) {key : LocalKey} {item : Item} (member : key ∈ window)
    (held : record.get? key = some item) : item.onChain = true := by
  have state := List.all_eq_true.mp all key member
  rw [decide_eq_true_eq, stateOf?, held, Option.map_some, Option.some.injEq] at state
  exact ((item.state_eq_onChain_iff).mp state).2

end Record

end Cadastre
