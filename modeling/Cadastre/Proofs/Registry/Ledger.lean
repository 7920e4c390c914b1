import Cadastre.Proofs.Registry.LedgerFile

/-!
What the registry's requests do. A request either leaves the ledger alone, or it changes one array
of lines in the way that is stated here.
-/

namespace Cadastre.Ledger

@[simp] theorem get?_put_self (ledger : Ledger) (locator : Locator) (registry : Registry) :
    (ledger.put locator registry).get? locator = some registry := by
  simp [put, get?]

theorem get?_put_of_ne (ledger : Ledger) {locator other : Locator} (registry : Registry)
    (different : locator ≠ other) :
    (ledger.put locator registry).get? other = ledger.get? other := by
  simp [put, get?, Std.ExtTreeMap.getElem?_insert, different]

def numbered (line : UInt32) : List RegistryEntry → List (UInt32 × RegistryEntry)
  | [] => []
  | entry :: rest => (line, entry) :: numbered (line + 1) rest

section Lines

variable {lines : Std.ExtTreeMap UInt32 RegistryEntry} {line key : UInt32}
  {entries : List RegistryEntry} {entry : RegistryEntry}

theorem mem_of_getElem?_writeLines (held : (writeLines lines line entries)[key]? = some entry) :
    (key, entry) ∈ numbered line entries ∨ lines[key]? = some entry := by
  induction entries generalizing lines line with
  | nil => exact Or.inr held
  | cons first rest ih =>
      rcases ih held with later | earlier
      · exact Or.inl (List.mem_cons_of_mem _ later)
      · rw [Std.ExtTreeMap.getElem?_insert] at earlier
        split at earlier
        · rename_i same
          rw [Std.compare_eq_iff_eq] at same
          cases earlier
          subst same
          exact Or.inl List.mem_cons_self
        · exact Or.inr earlier

theorem isSome_writeLines_of_isSome (line : UInt32) (entries : List RegistryEntry)
    (held : lines[key]?.isSome = true) :
    (writeLines lines line entries)[key]?.isSome = true := by
  induction entries generalizing lines line with
  | nil => exact held
  | cons first rest ih =>
      apply ih
      rw [Std.ExtTreeMap.getElem?_insert]
      split
      · rfl
      · exact held

theorem isSome_writeLines_of_mem (member : (key, entry) ∈ numbered line entries) :
    (writeLines lines line entries)[key]?.isSome = true := by
  induction entries generalizing lines line with
  | nil => cases member
  | cons first rest ih =>
      rcases List.mem_cons.mp member with same | later
      · cases same
        have written : (lines.insert key entry)[key]?.isSome = true := by simp
        exact isSome_writeLines_of_isSome _ rest written
      · exact ih later

end Lines

def Appends (ledger : Ledger) (handle : RegistryHandle) (entries : List RegistryEntry)
    (first : UInt32) (after : Ledger) : Prop :=
  ∃ registry, ledger.get? handle.locator = some registry ∧ registry.uniqueId = handle.uniqueId ∧
    after = ledger.put handle.locator
      { registry with lines := writeLines registry.lines first entries }

theorem appends_of_append {ledger after : Ledger} {handle : RegistryHandle}
    {entries : List RegistryEntry} {first : UInt32}
    (done : ledger.append handle entries first = .ok after) :
    ledger.Appends handle entries first after := by
  simp only [append] at done
  cases held : ledger.get? handle.locator with
  | none => simp [held] at done
  | some registry =>
      simp only [held] at done
      split at done
      · cases done
      · rename_i same
        split at done
        · cases done
        · cases done
          exact ⟨registry, held, Classical.not_not.mp same, rfl⟩

theorem appends_of_appendIn {contents : Option Bytes} {ledger after : Ledger}
    {handle : RegistryHandle} {entries : List RegistryEntry} {first : UInt32}
    (opened : ofFile contents = .ok ledger)
    (done : appendIn (.ok contents) handle entries first = .ok after) :
    ledger.Appends handle entries first after := by
  simp only [appendIn, ofReading, opened] at done
  split at done
  · cases done
  · exact appends_of_append done

def Opens (ledger : Ledger) (handle : RegistryHandle) (after : Ledger) : Prop :=
  ledger.get? handle.locator = none ∧ ∃ registry : Registry,
    registry.uniqueId = handle.uniqueId ∧ registry.lines = ∅ ∧
      after = ledger.put handle.locator registry

theorem opens_of_registerIn {contents : Option Bytes} {ledger after : Ledger} {stamp : Stamp}
    {capacity : UInt32} {defaults : RegistryDefaults} {handle : RegistryHandle}
    (opened : ofFile contents = .ok ledger)
    (done : registerIn (.ok contents) stamp capacity defaults = .ok (handle, after)) :
    ledger.Opens handle after := by
  simp only [registerIn, ofReading, opened] at done
  split at done
  · cases done
  · simp only [register, bind, Except.bind] at done
    cases held : ledger.get? stamp.handle.locator with
    | some registry => simp [held] at done
    | none =>
        simp only [held, pure, Except.pure, Except.ok.injEq, Prod.mk.injEq] at done
        obtain ⟨rfl, rfl⟩ := done
        exact ⟨held, _, rfl, rfl, rfl⟩

end Cadastre.Ledger
