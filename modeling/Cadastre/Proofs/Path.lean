import Cadastre.Path
import Cadastre.Proofs.Text.Parts

/-!
Where a path leads. Paths are compared by their components; the path of a name, seen from a base,
has the base's components and the name.
-/

namespace Cadastre.Path

/-- What two ways to write a path have in common. -/
structure Place where
  rooted : Bool
  names : List String
  deriving DecidableEq

def place (path : String) : Place := ⟨path.startsWith "/", components path⟩

structure IsName (part : String) : Prop where
  plain : '/' ∉ part.toList
  filled : part ≠ ""
  notHere : part ≠ "."

variable {base part name other : String}

theorem startsWith_slash_iff (text : String) :
    text.startsWith "/" = true ↔ text.toList.head? = some '/' := by
  rw [String.startsWith_string_iff]
  change ['/'] <+: text.toList ↔ _
  cases text.toList with
  | nil => simp
  | cons first rest => simp [eq_comm]

theorem startsWith_slash_append (base part : String) :
    (base ++ part).startsWith "/" = if base = "" then part.startsWith "/"
      else base.startsWith "/" := by
  rw [Bool.eq_iff_iff, startsWith_slash_iff, String.toList_append]
  by_cases empty : base = ""
  · rw [if_pos empty, startsWith_slash_iff, empty]
    rfl
  · have filled : base.toList ≠ [] := fun none => empty (String.toList_inj.mp none)
    rw [if_neg empty, startsWith_slash_iff, List.head?_append_of_ne_nil _ filled]

theorem exists_of_endsWith_slash (ends : base.endsWith "/" = true) :
    ∃ front, base = front ++ "/" := by
  change base.toSlice.endsWith "/" = true at ends
  rw [String.Slice.endsWith_string_iff, String.copy_toSlice] at ends
  obtain ⟨front, chars⟩ := ends
  refine ⟨.ofList front, String.toList_inj.mp ?_⟩
  rw [String.toList_append, String.toList_ofList, chars]

theorem components_append (base : String) (plain : '/' ∉ part.toList) :
    components (base ++ "/" ++ part)
      = components base ++ [part].filter fun name => !name.isEmpty && name ≠ "." := by
  have parts : (base ++ "/" ++ part).splitOn "/" = base.splitOn "/" ++ [part] :=
    Text.splitOn_append '/' base plain
  have filled : base.splitOn "/" ≠ [] := Text.splitOn_ne_nil '/' base
  rw [components, components, parts]
  cases found : base.splitOn "/" with
  | nil => exact absurd found filled
  | cons first rest =>
      simp only [List.cons_append, List.filter_append, List.append_assoc]

theorem components_of_plain (plain : '/' ∉ part.toList) :
    components part = [part].filter (!·.isEmpty) := by
  have parts : part.splitOn "/" = [part] := Text.splitOn_of_plain plain
  rw [components, parts]
  exact List.append_nil _

theorem relative_of_plain (plain : '/' ∉ part.toList) : part.startsWith "/" = false := by
  rw [← Bool.not_eq_true, startsWith_slash_iff]
  intro slash
  exact plain (List.mem_of_head? slash)

theorem IsName.components_join (named : IsName name) (base : String) :
    components (join base name) = components base ++ [name] := by
  have behind : ∀ front, components (front ++ "/" ++ name) = components front ++ [name] := by
    intro front
    rw [components_append front named.plain]
    simp [named.filled, named.notHere]
  have none : '/' ∉ ("" : String).toList := by decide
  rw [join, relative_of_plain named.plain, Bool.false_or]
  by_cases empty : base.isEmpty = true
  · obtain rfl := String.isEmpty_iff.mp empty
    rw [if_pos empty, components_of_plain named.plain, components_of_plain none]
    simp [named.filled]
  by_cases ends : base.endsWith "/" = true
  · obtain ⟨front, rfl⟩ := exists_of_endsWith_slash ends
    have last := components_append front none
    rw [String.append_empty] at last
    rw [if_neg empty, if_pos ends, behind, last]
    simp
  · rw [if_neg empty, if_neg ends, behind]

theorem IsName.startsWith_slash_join (named : IsName name) (base : String) :
    (join base name).startsWith "/" = base.startsWith "/" := by
  rw [join, relative_of_plain named.plain, Bool.false_or]
  by_cases empty : base.isEmpty = true
  · obtain rfl := String.isEmpty_iff.mp empty
    rw [if_pos empty, relative_of_plain named.plain]
    simp
  have filled : base ≠ "" := fun none => empty (String.isEmpty_iff.mpr none)
  rw [if_neg empty]
  split
  · rw [startsWith_slash_append, if_neg filled]
  · rw [String.append_assoc, startsWith_slash_append, if_neg filled]

theorem IsName.place_join (named : IsName name) (base : String) :
    place (join base name) = ⟨(place base).rooted, (place base).names ++ [name]⟩ := by
  rw [place, named.components_join, named.startsWith_slash_join]
  rfl

theorem IsName.place_join_eq_iff (named : IsName name) (named' : IsName other) {base' : String}
    (same : place base = place base') :
    place (join base name) = place (join base' other) ↔ name = other := by
  rw [named.place_join, named'.place_join, same, Place.mk.injEq]
  simp

end Cadastre.Path
