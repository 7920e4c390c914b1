import Cadastre.Json.Token
import Cadastre.Json.Writer
import Cadastre.Proofs.Text.Numeral
import Mathlib.Data.List.Forall2

/-!
Written text cut into tokens. A number or a literal ends only where something else begins, so that
a text `Spells` its tokens if they are there once it has ended, and `Closes` if nothing of it is
left to end.
-/

namespace Cadastre.Json

namespace Lexer

def behind (lexer : Lexer) (cs : List Char) : Option Lexer :=
  (cs.map some).foldlM step lexer

/-- The tokens so far, in reverse, if the text may end here or go on with a mark. -/
def settled? (lexer : Lexer) : Option (List Token) :=
  match lexer.mode with
  | .between => some lexer.done
  | .word letters => (Token.ofWord? letters.reverse).map (· :: lexer.done)
  | _ => none

theorem finish_eq_settled? (lexer : Lexer) :
    lexer.finish = lexer.settled?.map List.reverse := by
  obtain ⟨done, mode⟩ := lexer
  cases mode <;> simp [finish, settled?, Function.comp_def]

@[simp] theorem behind_nil (lexer : Lexer) : lexer.behind [] = some lexer := rfl

theorem behind_cons (lexer : Lexer) (c : Char) (cs : List Char) :
    lexer.behind (c :: cs) = (lexer.step (some c)).bind fun next => next.behind cs := by
  simp only [behind, List.map_cons, List.foldlM_cons]
  rfl

theorem behind_append (lexer : Lexer) (cs more : List Char) :
    lexer.behind (cs ++ more) = (lexer.behind cs).bind fun next => next.behind more := by
  induction cs generalizing lexer with
  | nil => simp
  | cons c rest ih =>
      simp only [List.cons_append, behind_cons, ih, Option.bind_assoc]

section Step

variable (done : List Token) (pieces : List Piece) (c : Char)

theorem step_between : step ⟨done, .between⟩ (some c) = enter done c := rfl

theorem step_word (letters : List Char) : step ⟨done, .word letters⟩ (some c)
    = if isWordChar c then some ⟨done, .word (c :: letters)⟩
      else (Token.ofWord? letters.reverse).bind fun token => enter (token :: done) c := rfl

theorem step_text (escaped : Bool) : step ⟨done, .text pieces escaped⟩ (some c)
    = if c = '"' then some ⟨.text (Piece.text? pieces.reverse) escaped :: done, .between⟩
      else if c = '\\' then some ⟨done, .escape pieces⟩
      else if c.toNat < 0x20 then none
      else some ⟨done, .text (.char c :: pieces) escaped⟩ := rfl

theorem step_escape : step ⟨done, .escape pieces⟩ (some c)
    = if c = 'u' then some ⟨done, .unit pieces 3 0⟩
      else (escaped? c).map fun plain => ⟨done, .text (.char plain :: pieces) true⟩ := rfl

end Step

theorem step_of_settled? {lexer : Lexer} {tokens : List Token} {c : Char}
    (ended : lexer.settled? = some tokens) (mark : isWordChar c = false) :
    lexer.step (some c) = step ⟨tokens, .between⟩ (some c) := by
  obtain ⟨done, mode⟩ := lexer
  cases mode with
  | between =>
      cases ended
      rfl
  | word letters =>
      simp only [settled?, Option.map_eq_some_iff] at ended
      obtain ⟨token, read, rfl⟩ := ended
      simp [step_word, step_between, mark, read]
  | text pieces escaped => cases ended
  | escape pieces => cases ended
  | unit pieces missing value => cases ended

end Lexer

def Closes (cs : List Char) (tokens : List Token) : Prop :=
  ∀ done, Lexer.behind ⟨done, .between⟩ cs = some ⟨tokens.reverse ++ done, .between⟩

/-- The text says the tokens, the last one as soon as it has ended. -/
def Spells (cs : List Char) (tokens : List Token) : Prop :=
  ∀ done, (Lexer.behind ⟨done, .between⟩ cs).bind Lexer.settled? = some (tokens.reverse ++ done)

def Breaks (cs : List Char) : Prop :=
  ∃ c rest, cs = c :: rest ∧ Lexer.isWordChar c = false

theorem Closes.spells {cs : List Char} {tokens : List Token} (closes : Closes cs tokens) :
    Spells cs tokens := fun done => by
  rw [closes done]
  rfl

theorem Closes.append {cs more : List Char} {tokens others : List Token}
    (first : Closes cs tokens) (second : Closes more others) :
    Closes (cs ++ more) (tokens ++ others) := fun done => by
  rw [Lexer.behind_append, first done, Option.bind_some, second]
  simp

theorem Closes.spells_append {cs more : List Char} {tokens others : List Token}
    (first : Closes cs tokens) (second : Spells more others) :
    Spells (cs ++ more) (tokens ++ others) := fun done => by
  rw [Lexer.behind_append, first done, Option.bind_some, second]
  simp

theorem Breaks.append {cs : List Char} (breaks : Breaks cs) (more : List Char) :
    Breaks (cs ++ more) := by
  obtain ⟨c, rest, rfl, mark⟩ := breaks
  exact ⟨c, rest ++ more, rfl, mark⟩

theorem Spells.behind_append {cs more : List Char} {tokens : List Token}
    (first : Spells cs tokens) (breaks : Breaks more) (done : List Token) :
    Lexer.behind ⟨done, .between⟩ (cs ++ more)
      = Lexer.behind ⟨tokens.reverse ++ done, .between⟩ more := by
  obtain ⟨c, rest, rfl, mark⟩ := breaks
  obtain ⟨lexer, reached, ended⟩ := Option.bind_eq_some_iff.mp (first done)
  rw [Lexer.behind_append, reached, Option.bind_some, Lexer.behind_cons,
    Lexer.step_of_settled? ended mark, ← Lexer.behind_cons]

theorem Spells.closes_append {cs more : List Char} {tokens others : List Token}
    (first : Spells cs tokens) (breaks : Breaks more) (second : Closes more others) :
    Closes (cs ++ more) (tokens ++ others) := fun done => by
  rw [first.behind_append breaks, second]
  simp

theorem Spells.append {cs more : List Char} {tokens others : List Token}
    (first : Spells cs tokens) (breaks : Breaks more) (second : Spells more others) :
    Spells (cs ++ more) (tokens ++ others) := fun done => by
  rw [first.behind_append breaks, second]
  simp

theorem closes_nil : Closes [] [] := fun _ => rfl

theorem plain_of_ofMark? {c : Char} {token : Token} (mark : Token.ofMark? c = some token) :
    Lexer.isSpace c = false ∧ c ≠ '"' ∧ Lexer.isWordChar c = false := by
  unfold Token.ofMark? at mark
  split at mark <;> cases mark <;> exact ⟨by decide, by decide, by decide⟩

theorem closes_mark {c : Char} {token : Token} (mark : Token.ofMark? c = some token) :
    Closes [c] [token] := fun done => by
  simp [Lexer.behind_cons, Lexer.step_between, Lexer.enter, plain_of_ofMark? mark, mark]

theorem closes_space {c : Char} (space : Lexer.isSpace c = true) : Closes [c] [] := fun done => by
  simp [Lexer.behind_cons, Lexer.step_between, Lexer.enter, space]

theorem closes_spaces {cs : List Char} (spaces : ∀ c ∈ cs, Lexer.isSpace c = true) :
    Closes cs [] := by
  induction cs with
  | nil => exact closes_nil
  | cons c rest ih =>
      exact (closes_space (spaces c (by simp))).append
        (ih fun other member => spaces other (by simp [member]))

theorem spells_intercalate {separator : List Char} (comma : Closes separator [.comma])
    (breaks : Breaks separator) {parts : List (List Char)} {tokens : List (List Token)}
    (each : List.Forall₂ Spells parts tokens) :
    Spells (List.intercalate separator parts) (List.intercalate [.comma] tokens) := by
  induction each with
  | nil => exact closes_nil.spells
  | cons part rest ih =>
      cases rest with
      | nil => simpa using part
      | cons next others =>
          rw [List.intercalate_cons_cons, List.intercalate_cons_cons, List.append_assoc,
            List.append_assoc]
          exact part.append (breaks.append _) (comma.spells_append ih)

theorem behind_word (done : List Token) (letters : List Char) {cs : List Char}
    (word : ∀ c ∈ cs, Lexer.isWordChar c = true) :
    Lexer.behind ⟨done, .word letters⟩ cs = some ⟨done, .word (cs.reverse ++ letters)⟩ := by
  induction cs generalizing letters with
  | nil => rfl
  | cons c rest ih =>
      rw [Lexer.behind_cons]
      simp only [Lexer.step_word, word c (by simp), ↓reduceIte, Option.bind_some]
      rw [ih _ fun other member => word other (by simp [member])]
      simp

theorem spells_word {cs : List Char} {token : Token} (filled : cs ≠ [])
    (word : cs.all Lexer.isWordChar = true) (read : Token.ofWord? cs = some token) :
    Spells cs [token] := fun done => by
  rw [List.all_eq_true] at word
  cases cs with
  | nil => exact absurd rfl filled
  | cons c rest =>
      have first := word c (by simp)
      have plain : Lexer.isSpace c = false ∧ c ≠ '"' := by
        constructor
        · rw [Bool.eq_false_iff]
          intro space
          simp only [Lexer.isSpace, Bool.or_eq_true, decide_eq_true_eq] at space
          rcases space with ((rfl | rfl) | rfl) | rfl <;> exact absurd first (by decide)
        · rintro rfl
          exact absurd first (by decide)
      rw [Lexer.behind_cons]
      simp only [Lexer.step_between, Lexer.enter, plain, first, ↓reduceIte, Bool.false_eq_true,
        Option.bind_some]
      rw [behind_word _ _ fun other member => word other (by simp [member])]
      simp [Lexer.settled?, read]

end Cadastre.Json
