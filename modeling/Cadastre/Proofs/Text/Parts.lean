import Mathlib.Data.List.TakeWhile
import Mathlib.Data.String.Basic

/-!
Text between separators. A text is split where its list of characters is; two parts and the
separator between them can be told from the whole unless a part has one itself.
-/

namespace Cadastre.Text

open String (ofList utf8Len splitOnAux)

variable {sep first : Char} {before part rest : List Char} {found : List String}

theorem splitOnAux_end :
    splitOnAux (ofList (before ++ part)) (ofList [sep]) ⟨utf8Len before⟩
        ⟨utf8Len before + utf8Len part⟩ 0 found = found.reverse ++ [ofList part] := by
  have ended : (ofList (before ++ part)).rawEndPos ≤ ⟨utf8Len before + utf8Len part⟩ := by
    simp [-String.ofList_append]
  have last : String.Pos.Raw.extract (ofList (before ++ part)) ⟨utf8Len before⟩
      ⟨utf8Len before + utf8Len part⟩ = ofList part := by
    simpa [-String.ofList_append] using String.extract_of_valid before part []
  unfold splitOnAux
  rw [if_pos ((String.atEnd_iff _ _).mpr ended), last, List.reverse_cons]

theorem splitOnAux_step :
    splitOnAux (ofList (before ++ part ++ first :: rest)) (ofList [sep]) ⟨utf8Len before⟩
        ⟨utf8Len before + utf8Len part⟩ 0 found
      = if first = sep then
          splitOnAux (ofList (before ++ part ++ first :: rest)) (ofList [sep])
            ⟨utf8Len before + utf8Len part + first.utf8Size⟩
            ⟨utf8Len before + utf8Len part + first.utf8Size⟩ 0 (ofList part :: found)
        else
          splitOnAux (ofList (before ++ part ++ first :: rest)) (ofList [sep]) ⟨utf8Len before⟩
            ⟨utf8Len before + utf8Len part + first.utf8Size⟩ 0 found := by
  have more : ¬ (ofList (before ++ part ++ first :: rest)).rawEndPos
      ≤ ⟨utf8Len before + utf8Len part⟩ := by
    have wide := first.utf8Size_pos
    simp only [String.rawEndPos_ofList, String.utf8Len_append, String.utf8Len_cons,
      String.Pos.Raw.mk_le_mk]
    omega
  have here : String.Pos.Raw.get (ofList (before ++ part ++ first :: rest))
      ⟨utf8Len before + utf8Len part⟩ = first := by
    rw [← String.utf8Len_append]
    exact String.get_of_valid (before ++ part) (first :: rest)
  have next : String.Pos.Raw.next (ofList (before ++ part ++ first :: rest))
      ⟨utf8Len before + utf8Len part⟩ = ⟨utf8Len before + utf8Len part + first.utf8Size⟩ := by
    rw [← String.utf8Len_append, String.next_of_valid]
  have mark : String.Pos.Raw.get (ofList [sep]) 0 = sep := String.get_of_valid [] [sep]
  have past : String.Pos.Raw.next (ofList [sep]) 0 = ⟨sep.utf8Size⟩ := by
    simpa using String.next_of_valid [] sep []
  conv_lhs => unfold splitOnAux
  rw [if_neg (mt (String.atEnd_iff _ _).mp more), here, mark, next, past]
  by_cases same : first = sep
  · subst same
    have ended : (ofList [first]).rawEndPos ≤ ⟨first.utf8Size⟩ := by
      rw [String.rawEndPos_ofList]
      simp
    have back : String.Pos.Raw.unoffsetBy ⟨utf8Len before + utf8Len part + first.utf8Size⟩
        ⟨first.utf8Size⟩ = ⟨utf8Len before + utf8Len part⟩ := by
      simp [String.Pos.Raw.unoffsetBy]
    rw [if_pos (beq_self_eq_true first), if_pos ((String.atEnd_iff _ _).mpr ended), if_pos rfl,
      back, String.extract_of_valid]
  · have back : String.Pos.Raw.unoffsetBy ⟨utf8Len before + utf8Len part⟩ 0
        = ⟨utf8Len before + utf8Len part⟩ := by
      simp [String.Pos.Raw.unoffsetBy]
    rw [if_neg (by simpa using same), if_neg same, back, next]

theorem splitOnAux_singleton (sep : Char) (before part rest : List Char) (found : List String) :
    splitOnAux (ofList (before ++ part ++ rest)) (ofList [sep]) ⟨utf8Len before⟩
        ⟨utf8Len before + utf8Len part⟩ 0 found
      = found.reverse ++ (rest.splitOnPPrepend (· == sep) part.reverse).map ofList := by
  induction rest generalizing before part found with
  | nil =>
      rw [List.append_nil, splitOnAux_end, List.splitOnPPrepend_nil, List.reverse_reverse]
      rfl
  | cons first rest ih =>
      rw [splitOnAux_step, List.splitOnPPrepend_cons_eq_if]
      by_cases same : first = sep
      · rw [if_pos same, if_pos (by simpa using same)]
        have others := ih (before ++ part ++ [first]) [] (ofList part :: found)
        simpa [-String.ofList_append, Nat.add_assoc] using others
      · rw [if_neg same, if_neg (by simpa using same)]
        have others := ih before (part ++ [first]) found
        simpa [-String.ofList_append, Nat.add_assoc] using others

theorem splitOn_singleton (sep : Char) (text : String) :
    text.splitOn (ofList [sep]) = (text.toList.splitOn sep).map ofList := by
  have parts := splitOnAux_singleton sep [] [] text.toList []
  have filled : (ofList [sep] == "") = false := by simp
  rw [String.splitOn, filled, List.splitOn_eq_splitOnP]
  simpa [-String.ofList_append] using parts

theorem splitOn_ne_nil (sep : Char) (text : String) : text.splitOn (ofList [sep]) ≠ [] := by
  rw [splitOn_singleton]
  simp

theorem splitOn_append (sep : Char) (text : String) {part : String} (plain : sep ∉ part.toList) :
    (text ++ ofList [sep] ++ part).splitOn (ofList [sep])
      = text.splitOn (ofList [sep]) ++ [part] := by
  have chars : (text ++ ofList [sep] ++ part).toList = text.toList ++ sep :: part.toList := by
    simp
  rw [splitOn_singleton, splitOn_singleton, chars, List.splitOn_append_cons_self,
    List.splitOn_eq_singleton plain]
  simp

theorem splitOn_of_plain {sep : Char} {part : String} (plain : sep ∉ part.toList) :
    part.splitOn (ofList [sep]) = [part] := by
  rw [splitOn_singleton, List.splitOn_eq_singleton plain]
  simp

theorem append_cons_eq_iff {front front' back back' : List Char} :
    front ++ sep :: back = front' ++ sep :: back' ↔
      (front = front' ∧ back = back') ∨
      (∃ middle, front' = front ++ sep :: middle ∧ back = middle ++ sep :: back') ∨
      ∃ middle, front = front' ++ sep :: middle ∧ back' = middle ++ sep :: back := by
  rw [List.append_eq_append_iff]
  constructor
  · rintro (⟨more, longer, rest⟩ | ⟨more, longer, rest⟩)
    · cases more with
      | nil =>
          rw [List.append_nil] at longer
          exact Or.inl ⟨longer.symm, (List.cons.inj rest).2⟩
      | cons first middle =>
          obtain ⟨rfl, back⟩ := List.cons.inj rest
          exact Or.inr (Or.inl ⟨middle, longer, back⟩)
    · cases more with
      | nil =>
          rw [List.append_nil] at longer
          exact Or.inl ⟨longer, (List.cons.inj rest).2.symm⟩
      | cons first middle =>
          obtain ⟨rfl, back⟩ := List.cons.inj rest
          exact Or.inr (Or.inr ⟨middle, longer, back⟩)
  · rintro (⟨rfl, rfl⟩ | ⟨middle, rfl, rfl⟩ | ⟨middle, rfl, rfl⟩)
    · exact Or.inl ⟨[], by simp, rfl⟩
    · exact Or.inl ⟨sep :: middle, rfl, rfl⟩
    · exact Or.inr ⟨sep :: middle, rfl, rfl⟩

theorem takeWhile_ne_of_plain (plain : sep ∉ before) (after : List Char) :
    (before ++ sep :: after).takeWhile (· ≠ sep) = before ∧
      (before ++ sep :: after).dropWhile (· ≠ sep) = sep :: after := by
  have apart : ∀ c ∈ before, decide (c ≠ sep) = true := by
    intro c member
    rw [decide_eq_true_eq]
    rintro rfl
    exact plain member
  rw [List.takeWhile_append_of_pos apart, List.dropWhile_append_of_pos apart,
    List.takeWhile_cons_of_neg (by simp), List.dropWhile_cons_of_neg (by simp), List.append_nil]
  exact ⟨rfl, rfl⟩

theorem parts_of_dropWhile_ne {cs : List Char} (behind : cs.dropWhile (· ≠ sep) = first :: rest) :
    cs = cs.takeWhile (· ≠ sep) ++ sep :: rest ∧ sep ∉ cs.takeWhile (· ≠ sep) := by
  have whole := List.takeWhile_append_dropWhile (p := fun c => decide (c ≠ sep)) (l := cs)
  have head := List.head?_dropWhile_not (fun c => decide (c ≠ sep)) cs
  rw [behind] at whole head
  obtain rfl : first = sep := by simpa using head
  refine ⟨whole.symm, fun member => ?_⟩
  simpa using List.all_eq_true.mp List.all_takeWhile _ member

end Cadastre.Text
