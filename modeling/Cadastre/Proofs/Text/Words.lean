import Cadastre.Text.Blank

/-!
Pieces, words and lines. A text has a second piece if it has a separator, and that piece goes up to
the next one. The words of a text are found one after the other, each with blanks or the end of the
text behind it; a carriage return at the end of a line changes neither its words nor whether it
has any.
-/

namespace Cadastre.Text

variable {c sep : Char} {before word after cs line piece rest : List Char}
  {more : List (List Char)}

theorem pieces_eq_splitOnP (isSeparator : Char → Bool) (cs : List Char) :
    pieces isSeparator cs = cs.splitOnP isSeparator := by
  induction cs with
  | nil => rfl
  | cons c rest ih =>
      unfold pieces at ih ⊢
      rw [List.foldr_cons, ih, List.splitOnP_cons_eq_if_modifyHead]
      by_cases separates : isSeparator c = true
      · rw [if_pos separates, if_pos separates]
      · rw [if_neg separates, if_neg separates]
        cases parts : rest.splitOnP isSeparator with
        | nil => exact absurd parts (List.splitOnP_ne_nil _ _)
        | cons piece more => rfl

theorem pieces_eq_splitOn (sep : Char) (cs : List Char) : pieces (· = sep) cs = cs.splitOn sep :=
  pieces_eq_splitOnP _ cs

theorem head?_pieces (plain : sep ∉ piece) (ends : ∀ c ∈ rest.head?, c = sep) :
    (pieces (· = sep) (piece ++ rest)).head? = some piece := by
  rw [pieces_eq_splitOn]
  cases rest with
  | nil => rw [List.append_nil, List.splitOn_eq_singleton plain, List.head?_cons]
  | cons c rest =>
      obtain rfl : c = sep := ends c rfl
      rw [List.splitOn_append_cons_self, List.splitOn_eq_singleton plain, List.singleton_append,
        List.head?_cons]

theorem exists_first_piece (sep : Char) (cs : List Char) : ∃ piece rest,
    cs = piece ++ rest ∧ sep ∉ piece ∧ ∀ c ∈ rest.head?, c = sep := by
  by_cases separated : sep ∈ cs
  · obtain ⟨piece, rest, rfl, plain⟩ := List.eq_append_cons_of_mem separated
    exact ⟨piece, sep :: rest, rfl, plain, by simp⟩
  · exact ⟨cs, [], by simp, separated, by simp⟩

theorem pieces_second_eq_some_iff (sep : Char) (cs piece : List Char) :
    (pieces (· = sep) cs)[1]? = some piece ↔ ∃ before rest,
      cs = before ++ sep :: (piece ++ rest) ∧ sep ∉ before ∧ sep ∉ piece ∧
        ∀ c ∈ rest.head?, c = sep := by
  have behind : ∀ before rest, sep ∉ before →
      (pieces (· = sep) (before ++ sep :: rest))[1]? = (pieces (· = sep) rest).head? := by
    intro before rest plain
    rw [pieces_eq_splitOn, List.splitOn_append_cons_self, List.splitOn_eq_singleton plain,
      List.singleton_append, List.getElem?_cons_succ, ← pieces_eq_splitOn, List.head?_eq_getElem?]
  constructor
  · intro found
    by_cases separated : sep ∈ cs
    · obtain ⟨before, after, rfl, plain⟩ := List.eq_append_cons_of_mem separated
      obtain ⟨first, rest, rfl, plain', ends⟩ := exists_first_piece sep after
      rw [behind before _ plain, head?_pieces plain' ends] at found
      cases found
      exact ⟨before, rest, rfl, plain, plain', ends⟩
    · rw [pieces_eq_splitOn, List.splitOn_eq_singleton separated] at found
      cases found
  · rintro ⟨before, rest, rfl, plain, plain', ends⟩
    rw [behind before _ plain, head?_pieces plain' ends]

theorem words_append_blank (blank : isBlank c = true) (cs rest : List Char) :
    words (cs ++ c :: rest) = words cs ++ words rest := by
  simp only [words, pieces_eq_splitOnP]
  rw [List.splitOnP_append_cons cs rest blank, List.filter_append]

theorem words_cons_of_blank (blank : isBlank c = true) (cs : List Char) :
    words (c :: cs) = words cs :=
  words_append_blank blank [] cs

theorem words_append_of_blank (blank : before.all isBlank = true) (cs : List Char) :
    words (before ++ cs) = words cs := by
  induction before with
  | nil => rfl
  | cons c rest ih =>
      rw [List.all_cons, Bool.and_eq_true] at blank
      rw [List.cons_append, words_cons_of_blank blank.1, ih blank.2]

theorem words_append_singleton (blank : isBlank c = true) (cs : List Char) :
    words (cs ++ [c]) = words cs := by
  rw [words_append_blank blank]
  exact List.append_nil _

theorem words_of_plain (filled : word ≠ []) (plain : ∀ c ∈ word, isBlank c = false) :
    words word = [word] := by
  rw [words, pieces_eq_splitOnP, List.splitOnP_eq_singleton plain]
  simp [filled]

theorem words_append_word (filled : word ≠ []) (plain : ∀ c ∈ word, isBlank c = false)
    (ends : ∀ c ∈ after.head?, isBlank c = true) : words (word ++ after) = word :: words after := by
  cases after with
  | nil =>
      rw [List.append_nil, words_of_plain filled plain]
      rfl
  | cons c rest =>
      have blank := ends c rfl
      rw [words_append_blank blank, words_of_plain filled plain, words_cons_of_blank blank]
      rfl

theorem parts_of_words (found : words cs = word :: more) : ∃ before after,
    cs = before ++ word ++ after ∧ before.all isBlank = true ∧ word ≠ [] ∧
      (∀ c ∈ word, isBlank c = false) ∧ (∀ c ∈ after.head?, isBlank c = true) ∧
      words after = more := by
  obtain ⟨before, rest, rfl, blank, opens⟩ : ∃ before rest, cs = before ++ rest ∧
      before.all isBlank = true ∧ ∀ c ∈ rest.head?, isBlank c = false := by
    refine ⟨cs.takeWhile isBlank, cs.dropWhile isBlank, List.takeWhile_append_dropWhile.symm,
      List.all_takeWhile, ?_⟩
    intro c head
    simpa [Option.mem_def.mp head] using List.head?_dropWhile_not isBlank cs
  rw [words_append_of_blank blank] at found
  obtain ⟨first, after, rfl, plain, ends⟩ : ∃ first after, rest = first ++ after ∧
      (∀ c ∈ first, isBlank c = false) ∧ ∀ c ∈ after.head?, isBlank c = true := by
    refine ⟨rest.takeWhile (!isBlank ·), rest.dropWhile (!isBlank ·),
      List.takeWhile_append_dropWhile.symm, ?_, ?_⟩
    · intro c member
      simpa using List.all_eq_true.mp List.all_takeWhile c member
    · intro c head
      simpa [Option.mem_def.mp head] using List.head?_dropWhile_not (!isBlank ·) rest
  have filled : first ≠ [] := by
    rintro rfl
    cases after with
    | nil => cases found
    | cons c rest => exact absurd ((ends c rfl).symm.trans (opens c rfl)) (by decide)
  rw [words_append_word filled plain ends] at found
  obtain ⟨rfl, rfl⟩ := List.cons.inj found
  exact ⟨before, after, (List.append_assoc _ _ _).symm, blank, filled, plain, ends, rfl⟩

theorem eq_dropReturn_append (line : List Char) :
    line = dropReturn line ∨ line = dropReturn line ++ ['\r'] := by
  unfold dropReturn
  split
  · rename_i last
    obtain ⟨body, rfl⟩ := List.getLast?_eq_some_iff.mp last
    rw [List.dropLast_concat]
    exact Or.inr rfl
  · exact Or.inl rfl

theorem words_dropReturn (line : List Char) : words (dropReturn line) = words line := by
  rcases eq_dropReturn_append line with same | more
  · rw [← same]
  · rw [more, words_append_singleton (by decide), ← more]

theorem all_isBlank_dropReturn (line : List Char) :
    (dropReturn line).all isBlank = line.all isBlank := by
  rcases eq_dropReturn_append line with same | more
  · rw [← same]
  · have blank : isBlank '\r' = true := by decide
    rw [more, List.all_append, ← more, List.all_cons, blank]
    simp

theorem lines_eq (cs : List Char) : ∃ closed last, cs.splitOn '\n' = closed ++ [last] ∧
    lines cs = closed.map dropReturn ++ (if last = [] then [] else [last]) := by
  obtain ⟨closed, last, whole⟩ :=
    (List.eq_nil_or_concat (cs.splitOn '\n')).resolve_left (List.splitOn_ne_nil _ _)
  rw [List.concat_eq_append] at whole
  refine ⟨closed, last, whole, ?_⟩
  rw [lines, pieces_eq_splitOn, whole, List.reverse_concat]
  cases last <;> simp [List.map_reverse]

end Cadastre.Text
