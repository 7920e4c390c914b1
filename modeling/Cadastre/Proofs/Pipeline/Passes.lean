import Cadastre.Proofs.Pipeline.Windows

/-!
Where a pass over the windows stands. The record is the one that the pass began with, with some of
its items marked; a window that was dealt with is under way or has an outcome, and an outcome that
is no failure means that its items are on chain.
-/

namespace Cadastre

namespace Record

theorem MarksTo.refl (record : Record) : MarksTo [] record record :=
  ⟨rfl, fun key => by simp⟩

theorem MarksTo.trans {keys others : List LocalKey} {record marked last : Record}
    (first : MarksTo keys record marked) (second : MarksTo others marked last) :
    MarksTo (keys ++ others) record last := by
  refine ⟨second.program.trans first.program, fun key => ?_⟩
  rw [second.item, first.item, Option.map_map]
  congr 1
  funext item
  by_cases one : key ∈ keys <;> by_cases other : key ∈ others <;>
    by_cases filled : item.link = "" <;> simp [one, other, filled]

theorem MarksTo.onChain {keys : List LocalKey} {record marked : Record}
    (marks : MarksTo keys record marked) {key : LocalKey}
    (before : ∀ item, record.get? key = some item → item.onChain = true) :
    ∀ item, marked.get? key = some item → item.onChain = true := by
  intro item held
  rw [marks.item] at held
  obtain ⟨old, found, rfl⟩ := Option.map_eq_some_iff.mp held
  split
  · rfl
  · exact before old found

theorem MarksTo.onChain_of_mem {keys : List LocalKey} {record marked : Record}
    (marks : MarksTo keys record marked)
    (stored : ∀ key item, record.get? key = some item → item.link ≠ "") {key : LocalKey}
    (member : key ∈ keys) : ∀ item, marked.get? key = some item → item.onChain = true := by
  intro item held
  rw [marks.item] at held
  obtain ⟨old, found, rfl⟩ := Option.map_eq_some_iff.mp held
  rw [if_pos ⟨member, stored key old found⟩]

theorem MarksTo.mem_keys_iff {keys : List LocalKey} {record marked : Record}
    (marks : MarksTo keys record marked) (key : LocalKey) :
    key ∈ marked.keys ↔ key ∈ record.keys := by
  rw [Record.mem_keys_iff, Record.mem_keys_iff, marks.item, Option.isSome_map]

def Linked (record : Record) : Prop :=
  ∀ key item, record.get? key = some item → item.link ≠ ""

theorem linked_empty : ({} : Record).Linked := by
  intro key item held
  simp at held

theorem Linked.marks {keys : List LocalKey} {record marked : Record} (linked : record.Linked)
    (marks : MarksTo keys record marked) : marked.Linked := by
  intro key item held
  obtain ⟨old, found, same, _⟩ := marks.before held
  have links : old.link = item.link := congrArg RegistryEntry.uri same
  rw [← links]
  exact linked key old found

theorem check_markWindow (record : Record) (window : Window) :
    ∃ marked, Work.check (record.markWindow window) PipelineFault.core
      = (pure marked : Work Record) ∧ MarksTo window record marked := by
  obtain ⟨marked, worked, marks⟩ := record.marksTo_markWindow window
  refine ⟨marked, ?_, marks⟩
  rw [worked]
  rfl

end Record

structure Pass.Pending.Covered (start : Record) (pending : Pass.Pending) : Prop where
  covers : start.Covers pending.append
  keys : (Ledger.numbered pending.append.first pending.append.entries).map Prod.fst
    = pending.window

namespace Pass

def Placed (windows : List Window) (dealt : Window → Prop)
    (judged : Window → WindowOutcome → Prop) (pass : Pass) : Prop :=
  ∀ window ∈ windows, dealt window →
    (∃ pending ∈ pass.underWay, pending.window = window) ∨
      ∃ outcome, pass.outcomes[window.first]? = some outcome ∧ judged window outcome

def Settled (pass : Pass) (window : Window) : Prop :=
  ∃ outcome, pass.outcomes[window.first]? = some outcome ∧
    (outcome.isFailed = true ∨
      ∀ key ∈ window, ∀ item, pass.handle.record.get? key = some item → item.onChain = true)

structure Keeps (start : PartitionHandle) (windows : List Window) (dealt : Window → Prop)
    (pass : Pass) : Prop where
  place : pass.handle.partition = start.partition
  marks : ∃ keys, Record.MarksTo keys start.record pass.handle.record
  underWay : ∀ pending ∈ pass.underWay, pending.window ∈ windows ∧ pending.Covered start.record
  dealt : ∀ window ∈ windows, dealt window →
    (∃ pending ∈ pass.underWay, pending.window = window) ∨ pass.Settled window

variable {start : PartitionHandle} {windows : List Window} {dealt other : Window → Prop}
  {judged : Window → WindowOutcome → Prop} {pass : Pass} {window : Window}

theorem outcomes_settle (pass : Pass) (window other : Window) (outcome : WindowOutcome) :
    (pass.settle window outcome).outcomes[other.first]?
      = if window.first = other.first then some outcome else pass.outcomes[other.first]? := by
  change (pass.outcomes.insert window.first outcome)[other.first]? = _
  rw [Std.ExtTreeMap.getElem?_insert]
  simp

theorem get_append {first : Pending} {rest : List Pending}
    (place : Fin ((rest.map Pending.append).length + 1))
    (bound : place.val < (first :: rest).length) :
    (first.append :: rest.map Pending.append).get place
      = ((first :: rest).get ⟨place.val, bound⟩).append := by
  simp only [List.get_eq_getElem, ← List.map_cons, List.getElem_map]

theorem get_underWay {pass : Pass} {first : Pending} {rest : List Pending}
    (waiting : pass.underWay = first :: rest) {place : Nat}
    (bound : place < (first :: rest).length) :
    pass.underWay[place]? = some ((first :: rest).get ⟨place, bound⟩) := by
  rw [waiting, List.get_eq_getElem, List.getElem?_eq_getElem bound]

theorem Placed.weaken (placed : pass.Placed windows dealt judged)
    (implies : ∀ window ∈ windows, other window → dealt window) :
    pass.Placed windows other judged :=
  fun window member asked => placed window member (implies window member asked)

theorem Placed.settle (placed : pass.Placed windows dealt judged) (outcome : WindowOutcome)
    (apart : ∀ one ∈ windows, ∀ two ∈ windows, one.first = two.first → one = two)
    (member : window ∈ windows) (good : judged window outcome) :
    (pass.settle window outcome).Placed windows (fun other => other = window ∨ dealt other)
      judged := by
  intro other found asked
  by_cases same : other = window
  · subst same
    exact Or.inr ⟨outcome, Std.ExtTreeMap.getElem?_insert_self, good⟩
  · rcases placed other found (asked.resolve_left same) with waiting | ⟨mine, held, meaning⟩
    · exact Or.inl waiting
    · refine Or.inr ⟨mine, ?_, meaning⟩
      have different : window.first ≠ other.first := fun equal =>
        same (apart other found window member equal.symm)
      rw [outcomes_settle, if_neg different, held]

theorem Placed.judge {later : Window → WindowOutcome → Prop}
    (placed : pass.Placed windows dealt judged)
    (implies : ∀ window outcome, judged window outcome → later window outcome) :
    pass.Placed windows dealt later := by
  intro window member asked
  rcases placed window member asked with waiting | ⟨outcome, held, meaning⟩
  · exact Or.inl waiting
  · exact Or.inr ⟨outcome, held, implies window outcome meaning⟩

theorem Placed.begin (placed : pass.Placed windows dealt judged) (pending : Pending) :
    ({ pass with underWay := pass.underWay ++ [pending] } : Pass).Placed windows
      (fun other => other = pending.window ∨ dealt other) judged := by
  intro window found asked
  rcases asked with rfl | asked
  · exact Or.inl ⟨pending, by simp, rfl⟩
  · rcases placed window found asked with ⟨waiting, earlier, same⟩ | settled
    · exact Or.inl ⟨waiting, List.mem_append_left _ earlier, same⟩
    · exact Or.inr settled

theorem Placed.end (placed : pass.Placed windows dealt judged) {place : Nat} {ended : Pending}
    (there : pass.underWay[place]? = some ended) :
    ({ pass with underWay := pass.underWay.eraseIdx place } : Pass).Placed windows
      (fun other => dealt other ∧ other ≠ ended.window) judged := by
  intro window found asked
  rcases placed window found asked.1 with ⟨waiting, earlier, same⟩ | settled
  · refine Or.inl ⟨waiting, ?_, same⟩
    obtain ⟨at', held⟩ := List.getElem?_of_mem earlier
    refine List.mem_eraseIdx_iff_getElem?.mpr ⟨at', ?_, held⟩
    rintro rfl
    rw [there] at held
    cases held
    exact asked.2 same.symm
  · exact Or.inr settled

theorem Placed.rejoin {ended : Window} (placed : pass.Placed windows
      (fun window => window = ended ∨ dealt window ∧ window ≠ ended) judged) :
    pass.Placed windows dealt judged := by
  refine placed.weaken fun window _ asked => ?_
  by_cases same : window = ended
  · exact Or.inl same
  · exact Or.inr ⟨asked, same⟩

theorem Placed.cons {rest : List Window} (placed : pass.Placed windows
      (fun other => other ∈ rest ∨ other = window ∨ dealt other) judged) :
    pass.Placed windows (fun other => other ∈ window :: rest ∨ dealt other) judged := by
  refine placed.weaken fun other _ asked => ?_
  rcases asked with found | earlier
  · rcases List.mem_cons.mp found with rfl | later
    · exact Or.inr (Or.inl rfl)
    · exact Or.inl later
  · exact Or.inr (Or.inr earlier)

theorem Keeps.placed (keeps : pass.Keeps start windows dealt) :
    pass.Placed windows dealt fun window outcome => outcome.isFailed = true ∨
      ∀ key ∈ window, ∀ item, pass.handle.record.get? key = some item → item.onChain = true :=
  keeps.dealt

theorem Keeps.weaken (keeps : pass.Keeps start windows dealt)
    (implies : ∀ window ∈ windows, other window → dealt window) :
    pass.Keeps start windows other :=
  ⟨keeps.place, keeps.marks, keeps.underWay,
    fun window member asked => keeps.dealt window member (implies window member asked)⟩

theorem Keeps.initial (start : PartitionHandle) (windows : List Window) :
    Keeps start windows (fun _ => False) { handle := start } :=
  ⟨rfl, ⟨[], .refl _⟩, nofun, fun _ _ => nofun⟩

theorem Keeps.covers (keeps : pass.Keeps start windows dealt) {append : AppendCall}
    (covers : start.record.Covers append) : pass.handle.record.Covers append := by
  obtain ⟨keys, marks⟩ := keeps.marks
  exact marks.covers covers

theorem Keeps.settle (keeps : pass.Keeps start windows dealt) (outcome : WindowOutcome)
    (apart : ∀ one ∈ windows, ∀ two ∈ windows, one.first = two.first → one = two)
    (member : window ∈ windows)
    (good : outcome.isFailed = true ∨
      ∀ key ∈ window, ∀ item, pass.handle.record.get? key = some item → item.onChain = true) :
    (pass.settle window outcome).Keeps start windows fun other =>
      other = window ∨ dealt other :=
  ⟨keeps.place, keeps.marks, keeps.underWay, keeps.placed.settle outcome apart member good⟩

theorem Keeps.mark (keeps : pass.Keeps start windows dealt) {keys : List LocalKey}
    {marked : Record} (marks : Record.MarksTo keys pass.handle.record marked) :
    ({ pass with handle := { pass.handle with record := marked } } : Pass).Keeps start windows
      dealt := by
  obtain ⟨earlier, before⟩ := keeps.marks
  refine ⟨keeps.place, ⟨earlier ++ keys, before.trans marks⟩, keeps.underWay,
    keeps.placed.judge fun window outcome good => good.imp id ?_⟩
  exact fun chained key found => marks.onChain (chained key found)

theorem Keeps.begin (keeps : pass.Keeps start windows dealt) (pending : Pending)
    (member : pending.window ∈ windows) (covered : pending.Covered start.record) :
    ({ pass with underWay := pass.underWay ++ [pending] } : Pass).Keeps start windows
      fun other => other = pending.window ∨ dealt other := by
  refine ⟨keeps.place, keeps.marks, fun other found => ?_, keeps.placed.begin pending⟩
  rcases List.mem_append.mp found with earlier | last
  · exact keeps.underWay other earlier
  · rw [List.mem_singleton.mp last]
    exact ⟨member, covered⟩

theorem Keeps.end (keeps : pass.Keeps start windows dealt) {place : Nat} {ended : Pending}
    (there : pass.underWay[place]? = some ended) :
    ({ pass with underWay := pass.underWay.eraseIdx place } : Pass).Keeps start windows
      fun other => dealt other ∧ other ≠ ended.window :=
  ⟨keeps.place, keeps.marks, fun other found =>
    keeps.underWay other (List.mem_of_mem_eraseIdx found), keeps.placed.end there⟩

theorem Keeps.ready (keeps : pass.Keeps start windows dealt) (cuts : start.record.Cuts windows)
    {registry : RegistryHandle} (named : start.record.registryHandle? = some registry)
    (member : window ∈ windows) (linked : pass.handle.record.Linked) :
    ∃ entries, pass.handle.record.entries? window = some entries ∧
      Pending.Covered start.record ⟨window, ⟨registry, entries, window.first⟩⟩ := by
  obtain ⟨marked, marks⟩ := keeps.marks
  have stored : ∀ key ∈ window, ∃ item,
      pass.handle.record.get? key = some item ∧ item.link ≠ "" := by
    intro key found
    have known := (marks.mem_keys_iff key).mpr (cuts.mem_keys member found)
    obtain ⟨item, held⟩ := Option.isSome_iff_exists.mp ((Record.mem_keys_iff _ key).mp known)
    exact ⟨item, held, linked key item held⟩
  obtain ⟨entries, ready⟩ := Record.exists_entries? stored
  obtain ⟨keys, lines⟩ := Record.entries?_numbered (cuts.sound window member).2 ready
  refine ⟨entries, ready, ?_, keys⟩
  obtain ⟨program, held, rfl⟩ := Option.map_eq_some_iff.mp named
  refine ⟨⟨program, held, rfl⟩, fun line found => ?_⟩
  rw [← marks.entry]
  exact lines line found

theorem Keeps.rejoin {ended : Window} (keeps : pass.Keeps start windows
      fun window => window = ended ∨ dealt window ∧ window ≠ ended) :
    pass.Keeps start windows dealt :=
  ⟨keeps.place, keeps.marks, keeps.underWay, keeps.placed.rejoin⟩

theorem Keeps.cons {rest : List Window} (keeps : pass.Keeps start windows
      fun other => other ∈ rest ∨ other = window ∨ dealt other) :
    pass.Keeps start windows fun other => other ∈ window :: rest ∨ dealt other :=
  ⟨keeps.place, keeps.marks, keeps.underWay, keeps.placed.cons⟩

end Pass

end Cadastre
