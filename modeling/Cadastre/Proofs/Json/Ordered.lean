import Cadastre.Proofs.Json.Reading
import Mathlib.Data.List.Nodup
import Mathlib.Data.String.Basic

/-!
Free-form values. Their objects have ascending keys, which sorting brings about and setting a key
keeps; such a value that is written is read back as it was.
-/

namespace Cadastre.Json

namespace Members

def Ascending (members : Members) : Prop :=
  members.Pairwise fun first second => first.1 < second.1

theorem mem_of_mem_put {members : Members} {key : String} {value : Json}
    {member : String × Json} (found : member ∈ members.put key value) :
    member = (key, value) ∨ member ∈ members := by
  induction members with
  | nil => exact Or.inl (by simpa [put] using found)
  | cons first rest ih =>
      simp only [put] at found
      split at found
      · simpa using found
      · split at found
        · rcases List.mem_cons.mp found with same | later
          · exact Or.inl same
          · exact Or.inr (List.mem_cons_of_mem _ later)
        · rcases List.mem_cons.mp found with same | later
          · exact Or.inr (same ▸ List.mem_cons_self)
          · exact (ih later).imp_right (List.mem_cons_of_mem _)

theorem Ascending.put {members : Members} (ascending : members.Ascending) (key : String)
    (value : Json) : (members.put key value).Ascending := by
  induction members with
  | nil => exact List.pairwise_singleton _ _
  | cons first rest ih =>
      obtain ⟨above, rest'⟩ := List.pairwise_cons.mp ascending
      simp only [Members.put]
      split
      · rename_i below
        refine List.pairwise_cons.mpr ⟨fun member found => ?_, ascending⟩
        rcases List.mem_cons.mp found with rfl | later
        · exact below
        · exact below.trans (above member later)
      · split
        · rename_i same
          exact List.pairwise_cons.mpr ⟨same ▸ above, rest'⟩
        · rename_i notBelow different
          have greater : first.1 < key :=
            lt_of_le_of_ne (not_lt.mp notBelow) (Ne.symm different)
          refine List.pairwise_cons.mpr ⟨fun member found => ?_, ih rest'⟩
          rcases mem_of_mem_put found with rfl | later
          · exact greater
          · exact above member later

theorem Ascending.nodup {members : Members} (ascending : members.Ascending) : members.Nodup :=
  ascending.imp fun below same => absurd (same ▸ below) (lt_irrefl _)

theorem get?_eq_some_iff {members : Members} (ascending : members.Ascending) {key : String}
    {value : Json} : members.get? key = some value ↔ (key, value) ∈ members := by
  induction members with
  | nil => simp [get?]
  | cons first rest ih =>
      obtain ⟨above, later⟩ := List.pairwise_cons.mp ascending
      by_cases same : first.1 = key
      · subst same
        have absent : (first.1, value) ∉ rest := by
          intro member
          exact lt_irrefl first.1 (above (first.1, value) member)
        have found : get? (first :: rest) first.1 = some first.2 := by simp [get?]
        rw [found, List.mem_cons, or_iff_left absent, Option.some.injEq, Prod.ext_iff]
        simp [eq_comm]
      · have skipped : get? (first :: rest) key = get? rest key := by simp [get?, same]
        have other : (key, value) ≠ first := fun equal => same (equal ▸ rfl)
        rw [skipped, ih later, List.mem_cons, or_iff_right other]

theorem Ascending.ext {members others : Members} (ascending : members.Ascending)
    (ascending' : others.Ascending) (same : ∀ key, members.get? key = others.get? key) :
    members = others := by
  have perm : members.Perm others := by
    rw [List.perm_ext_iff_of_nodup ascending.nodup ascending'.nodup]
    rintro ⟨key, value⟩
    rw [← get?_eq_some_iff ascending, ← get?_eq_some_iff ascending', same]
  refine perm.eq_of_pairwise (fun first second _ _ below above => ?_) ascending ascending'
  exact absurd (below.trans above) (lt_irrefl _)

theorem put_eq_append {members : Members} {key : String}
    (above : ∀ member ∈ members, member.1 < key) (value : Json) : members.put key value = members ++ [(key, value)] := by
  induction members with
  | nil => rfl
  | cons first rest ih =>
      have below := above first (by simp)
      simp only [put, not_lt.mpr below.le, below.ne', ↓reduceIte, List.cons_append]
      rw [ih fun member found => above member (by simp [found])]

theorem foldl_put_of_ascending {members held : Members}
    (ascending : Ascending (held ++ members)) :
    members.foldl (fun held member => held.put member.1 member.2) held = held ++ members := by
  induction members generalizing held with
  | nil => simp
  | cons member rest ih =>
      have below := (List.pairwise_append.mp ascending).2.2
      rw [List.foldl_cons, put_eq_append fun earlier found => below earlier found member (by simp),
        ih (by simpa using ascending)]
      simp

theorem ofList_of_ascending {members : Members} (ascending : members.Ascending) :
    ofList members = members :=
  foldl_put_of_ascending ascending

theorem ofList_swapped {first second : String} (below : second < first) (value other : Json) :
    ofList [(first, value), (second, other)] = [(second, other), (first, value)] := by
  simp only [ofList, List.foldl_cons, List.foldl_nil, put, below, ↓reduceIte]

theorem ascending_foldl_put (members : Members) {held : Members} (ascending : held.Ascending) :
    Ascending (members.foldl (fun held member => held.put member.1 member.2) held) := by
  induction members generalizing held with
  | nil => exact ascending
  | cons member rest ih => exact ih (ascending.put member.1 member.2)

theorem ascending_ofList (members : Members) : (ofList members).Ascending :=
  ascending_foldl_put members List.Pairwise.nil

theorem mem_of_mem_foldl_put {members held : Members} {member : String × Json}
    (found : member ∈ members.foldl (fun held member => held.put member.1 member.2) held) :
    member ∈ held ∨ member ∈ members := by
  induction members generalizing held with
  | nil => exact Or.inl found
  | cons first rest ih =>
      rcases ih found with earlier | later
      · rcases mem_of_mem_put earlier with rfl | kept
        · exact Or.inr List.mem_cons_self
        · exact Or.inl kept
      · exact Or.inr (List.mem_cons_of_mem _ later)

theorem mem_of_mem_ofList {members : Members} {member : String × Json}
    (found : member ∈ ofList members) : member ∈ members :=
  (mem_of_mem_foldl_put found).resolve_left List.not_mem_nil

theorem put_perm {members : Members} {key : String} (fresh : key ∉ members.keys) (value : Json) :
    (members.put key value).Perm ((key, value) :: members) := by
  induction members with
  | nil => exact List.Perm.refl _
  | cons first rest ih =>
      simp only [keys, List.map_cons, List.mem_cons, not_or] at fresh
      simp only [put, fresh.1, ↓reduceIte]
      split
      · exact List.Perm.refl _
      · exact ((ih fresh.2).cons first).trans (List.Perm.swap _ _ _)

theorem ofList_perm {members : Members} (distinct : members.keys.Nodup) :
    (ofList members).Perm members := by
  have general : ∀ (members held : Members), (held ++ members).keys.Nodup →
      (members.foldl (fun held member => held.put member.1 member.2) held).Perm
        (held ++ members) := by
    intro members
    induction members with
    | nil => intro held _; simp
    | cons member rest ih =>
        intro held distinct
        have apart : member.1 ∉ Members.keys held := by
          simp only [keys, List.map_append, List.map_cons, List.nodup_append] at distinct
          intro found
          exact distinct.2.2 _ found _ List.mem_cons_self rfl
        have moved := put_perm apart member.2
        have shifted : (held.put member.1 member.2 ++ rest).Perm (held ++ member :: rest) :=
          (moved.append_right rest).trans List.perm_middle.symm
        exact (ih _ ((shifted.map Prod.fst).nodup_iff.mpr distinct)).trans shifted
  exact general members [] distinct

end Members

mutual

def Ordered : Json → Prop
  | null => True
  | bool _ => True
  | number _ => True
  | string _ => True
  | array items => OrderedItems items
  | object members => Members.Ascending members ∧ OrderedMembers members

def OrderedItems : List Json → Prop
  | [] => True
  | item :: rest => Ordered item ∧ OrderedItems rest

def OrderedMembers : List (String × Json) → Prop
  | [] => True
  | (_, value) :: rest => Ordered value ∧ OrderedMembers rest

end

theorem orderedMembers_iff (members : Members) :
    OrderedMembers members ↔ ∀ member ∈ members, member.2.Ordered := by
  induction members with
  | nil => simp [OrderedMembers]
  | cons member rest ih => simp [OrderedMembers, ih]

mutual

theorem ordered_sorted : (value : Json) → value.sorted.Ordered
  | null => trivial
  | bool _ => trivial
  | number _ => trivial
  | string _ => trivial
  | array items => ordered_sortedItems items
  | object members => ⟨Members.ascending_ofList _, (orderedMembers_iff _).mpr
      fun member found => ordered_sortedMembers members member (Members.mem_of_mem_ofList found)⟩

theorem ordered_sortedItems : (items : List Json) → OrderedItems (sortedItems items)
  | [] => trivial
  | item :: rest => ⟨ordered_sorted item, ordered_sortedItems rest⟩

theorem ordered_sortedMembers :
    (members : List (String × Json)) → ∀ member ∈ sortedMembers members, member.2.Ordered
  | [] => by simp [sortedMembers]
  | (key, value) :: rest => by
      simp only [sortedMembers, List.mem_cons, forall_eq_or_imp]
      exact ⟨ordered_sorted value, ordered_sortedMembers rest⟩

end

mutual

theorem fits_sorted {depth : Nat} : (value : Json) → value.Fits depth → value.sorted.Fits depth
  | null, _ => trivial
  | bool _, _ => trivial
  | number _, exact => exact
  | string _, _ => trivial
  | array items, fits => by
      cases depth with
      | zero => exact fits.elim
      | succ depth => exact fits_sortedItems items fits
  | object members, fits => by
      cases depth with
      | zero => exact fits.elim
      | succ depth =>
          exact (fitsMembers_iff _ _).mpr fun member found =>
            fits_sortedMembers members fits member (Members.mem_of_mem_ofList found)

theorem fits_sortedItems {depth : Nat} :
    (items : List Json) → FitsItems depth items → FitsItems depth (sortedItems items)
  | [], _ => trivial
  | item :: rest, fits => ⟨fits_sorted item fits.1, fits_sortedItems rest fits.2⟩

theorem fits_sortedMembers {depth : Nat} :
    (members : List (String × Json)) → FitsMembers depth members →
      ∀ member ∈ sortedMembers members, member.2.Fits depth
  | [], _ => by simp [sortedMembers]
  | (key, value) :: rest, fits => by
      simp only [sortedMembers, List.mem_cons, forall_eq_or_imp]
      exact ⟨fits_sorted value fits.1, fits_sortedMembers rest fits.2⟩

end

mutual

theorem settle?_spelled {depth : Nat} :
    (value : Json) → value.Fits depth → value.Ordered →
      value.spelled.settle? depth = some value
  | null, _, _ => rfl
  | bool _, _, _ => rfl
  | number _, _, _ => rfl
  | string _, _, _ => rfl
  | array items, fits, ordered => by
      cases depth with
      | zero => exact fits.elim
      | succ depth =>
          rw [spelled, Document.settle?, settleItems?_spelled items fits ordered]
          rfl
  | object members, fits, ordered => by
      cases depth with
      | zero => exact fits.elim
      | succ depth =>
          rw [spelled, Document.settle?, settleMembers?_spelled members fits ordered.2,
            Option.map_some, Members.ofList_of_ascending ordered.1]

theorem settleItems?_spelled {depth : Nat} :
    (items : List Json) → FitsItems depth items → OrderedItems items →
      Document.settleItems? depth (spelledItems items) = some items
  | [], _, _ => rfl
  | item :: rest, fits, ordered => by
      rw [spelledItems, Document.settleItems?, settle?_spelled item fits.1 ordered.1,
        settleItems?_spelled rest fits.2 ordered.2]

theorem settleMembers?_spelled {depth : Nat} :
    (members : List (String × Json)) → FitsMembers depth members → OrderedMembers members →
      Document.settleMembers? depth (spelledMembers members) = some members
  | [], _, _ => rfl
  | (key, value) :: rest, fits, ordered => by
      rw [spelledMembers, Document.settleMembers?, settle?_spelled value fits.1 ordered.1,
        settleMembers?_spelled rest fits.2 ordered.2]
      rfl

end

theorem read?_write {value : Json} (fits : value.Fits greatestDepth) (ordered : value.Ordered) :
    read? (Text.utf8 value.write) = some value := by
  rw [read?, Document.read?_write fits, Option.bind_some, settle?_spelled value fits ordered]

end Cadastre.Json
