import Cadastre.Json.Form
import Cadastre.Proofs.Json.Ordered
import Std.Data.ExtTreeMap

/-!
Objects that hold the entries of a table, each under its key. The reader goes through them in the
order of their texts, which is another one than that of the table.
-/

namespace Cadastre.Json

theorem ofMembers_eq_map (members : Members) :
    Document.ofMembers members
      = members.map fun member => (.plain member.1, .ofJson member.2) := by
  induction members with
  | nil => rfl
  | cons member rest ih => rw [Document.ofMembers, ih, List.map_cons]

theorem mapM_some {α β : Type} (f : α → β) (items : List α) :
    items.mapM (fun item => some (f item)) = some (items.map f) :=
  List.mapM_pure (m := Option) (f := f) (l := items)

theorem mapM_map_eq_some {α β : Type} {read : β → Option α} {written : α → β} {items : List α}
    (each : ∀ item ∈ items, read (written item) = some item) :
    (items.map written).mapM read = some items := by
  induction items with
  | nil => rfl
  | cons item rest ih =>
      rw [List.map_cons, List.mapM_cons, each item (by simp),
        ih fun other member => each other (by simp [member])]
      rfl

namespace Document

theorem members?_ofJson (members : Members) :
    (ofJson (.object members)).members?
      = some (members.map fun member => (member.1, ofJson member.2)) := by
  rw [ofJson, members?, ofMembers_eq_map, List.mapM_map]
  exact mapM_some _ members

theorem members?_spelled (members : Members) :
    (Json.object members).spelled.members?
      = some (members.map fun member => (member.1, member.2.spelled)) := by
  rw [spelled, members?, spelledMembers_eq_map, List.mapM_map]
  exact mapM_some _ members

@[simp] theorem text?_spelled (s : String) : text? (Json.string s).spelled = some s := rfl

@[simp] theorem flag?_spelled (value : Bool) : flag? (Json.bool value).spelled = some value := rfl

theorem natural?_spelled {limit n : Nat} (below : n < limit) :
    natural? limit (Json.nat n).spelled = some n := by
  have range : (0 : Int) ≤ (n : Int) ∧ (n : Int) < limit := by omega
  rw [Json.nat, spelled, natural?, if_pos range, Int.toNat_natCast]

theorem spelled_numeral (n : UInt32) : Key.spelled (toString n) = .plain (toString n) := by
  have digits := Text.all_isDigit_toDigits n.toNat
  rw [← Text.toList_toString_uint32, List.all_eq_true] at digits
  simp only [Key.spelled, Key.plain, Key.mk.injEq, true_and, List.any_eq_false]
  intro c member
  have digit := Char.isDigit_iff_toNat.mp (digits c member)
  have lower : 48 ≤ c.toNat := digit.1
  have upper : c.toNat ≤ 57 := digit.2
  simp only [isEscaped, Bool.or_eq_true, decide_eq_true_eq, not_or]
  refine ⟨⟨?_, ?_⟩, by omega⟩
  · rintro rfl
    exact absurd lower (by decide)
  · rintro rfl
    exact absurd upper (by decide)

theorem numbered?_numerals {α : Type} (value : α → Document) (entries : List (UInt32 × α)) :
    numbered? UInt32.size
        (.object (entries.map fun entry => (.plain (toString entry.1), value entry.2)))
      = some (entries.map fun entry => (entry.1.toNat, value entry.2)) := by
  rw [numbered?, List.mapM_map, ← mapM_some]
  congr 1
  funext entry
  have digits := Text.all_isDigit_toDigits entry.1.toNat
  have lead := needless_zero_toDigits entry.1.toNat
  have below : entry.1.toNat < UInt32.size := entry.1.toNat_lt
  simp only [Function.comp_apply, Key.plain, Option.map_some, Text.toList_toString_uint32, digits,
    Nat.ofDigitChars_ten_toDigits]
  rw [if_pos]
  simp only [Bool.and_true, Bool.and_eq_true, decide_eq_true_eq]
  refine ⟨⟨by simp, ?_⟩, below⟩
  rw [Bool.or_eq_true, decide_eq_true_eq, decide_eq_true_eq]
  exact Classical.or_iff_not_imp_left.mpr fun zero =>
    Classical.byContradiction fun more => lead ⟨Classical.not_not.mp zero, more⟩

end Document

theorem Form.ofDocument?_ofJson (fields : List Field) (members : Members) :
    ofDocument? fields (.ofJson (.object members))
      = ofMembers? fields (members.map fun member => (member.1, .ofJson member.2)) := by
  have read := Document.members?_ofJson members
  rw [Document.ofJson] at read ⊢
  simp only [ofDocument?, read, Option.bind_some]

theorem Form.ofDocument?_spelled (fields : List Field) (members : Members) :
    ofDocument? fields (Json.object members).spelled
      = ofMembers? fields (members.map fun member => (member.1, member.2.spelled)) := by
  have read := Document.members?_spelled members
  rw [spelled] at read ⊢
  simp only [ofDocument?, read, Option.bind_some]

theorem exists_map_of_perm_map {α β : Type} {f : α → β} {items : List α} {mapped : List β}
    (perm : mapped.Perm (items.map f)) : 
      ∃ others : List α, mapped = others.map f ∧ others.Perm items := by
  generalize written : items.map f = goal at perm
  induction perm generalizing items with
  | nil => exact ⟨[], rfl, by simp [List.map_eq_nil_iff.mp written]⟩
  | cons x _ ih =>
      obtain ⟨item, rest, rfl, rfl, more⟩ := List.map_eq_cons_iff.mp written
      obtain ⟨others, rfl, perm⟩ := ih more
      exact ⟨item :: others, rfl, perm.cons item⟩
  | swap x y l =>
      obtain ⟨first, more, rfl, rfl, tail⟩ := List.map_eq_cons_iff.mp written
      obtain ⟨second, rest, rfl, rfl, rfl⟩ := List.map_eq_cons_iff.mp tail
      exact ⟨second :: first :: rest, rfl, List.Perm.swap _ _ _⟩
  | trans _ _ first second =>
      obtain ⟨others, rfl, perm⟩ := second written
      obtain ⟨last, rfl, perm'⟩ := first rfl
      exact ⟨last, rfl, perm'.trans perm⟩

theorem foldl_insert_of_perm {α β : Type} [Ord α] [DecidableEq α] [Std.TransOrd α]
    [Std.LawfulEqOrd α] (table : Std.ExtTreeMap α β) {entries : List (α × β)}
    (perm : entries.Perm table.toList) :
    entries.foldl (fun held entry => held.insert entry.1 entry.2)
      (∅ : Std.ExtTreeMap α β) = table := by
  rw [← Std.ExtTreeMap.ofList_eq_foldl]
  have apart : entries.Pairwise fun a b => ¬ compare a.1 b.1 = .eq :=
    perm.symm.pairwise table.distinct_keys_toList
      fun different same => different (Std.OrientedCmp.eq_symm same)
  refine Std.ExtTreeMap.ext_getElem? fun {key} => ?_
  cases held : table[key]? with
  | some value =>
      have member := perm.mem_iff.mpr (Std.ExtTreeMap.mem_toList_iff_getElem?_eq_some.mpr held)
      exact Std.ExtTreeMap.getElem?_ofList_of_mem Std.ReflCmp.compare_self apart member
  | none =>
      apply Std.ExtTreeMap.getElem?_eq_none
      intro found
      rw [Std.ExtTreeMap.mem_ofList, List.contains_iff_mem, List.mem_map] at found
      obtain ⟨entry, member, rfl⟩ := found
      have present := Std.ExtTreeMap.mem_toList_iff_getElem?_eq_some.mp (perm.mem_iff.mp member)
      rw [held] at present
      cases present

end Cadastre.Json
