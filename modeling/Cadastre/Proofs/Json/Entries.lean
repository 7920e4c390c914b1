import Cadastre.Proofs.Json.FreeMembers
import Mathlib.Data.List.Induction

/-!
Objects by their keys. What an object says under a key is what it says there last; a form takes it
from there if a field goes by this key, and it is found among the other members if none does.
-/

namespace Cadastre.Json

def last? (entries : List (String × Document)) (key : String) : Option Document :=
  (entries.reverse.find? fun entry => entry.1 = key).map Prod.snd

def Document.member? (document : Document) (key : String) : Option Document :=
  document.members?.bind fun entries => last? entries key

/-- Under the key, the document says this value, which nests at most `depth` levels; for none, it
says nothing there. -/
def Document.Says (depth : Nat) (document : Document) (key : String) (value : Option Json) : Prop :=
  (document.member? key).map (settle? depth) = value.map some

/-- Neither document says anything under the key, or both say the same value, which nests at most
`depth` levels. -/
def Document.Agree (depth : Nat) (first second : Document) (key : String) : Prop :=
  (first.member? key = none ∧ second.member? key = none) ∨
    ∃ one other value, first.member? key = some one ∧ second.member? key = some other ∧
      one.settle? depth = some value ∧ other.settle? depth = some value

namespace Document

variable {depth : Nat} {first second document : Document} {key : String}

theorem Says.agree {value : Option Json} (one : Says depth first key value)
    (other : Says depth second key value) : Agree depth first second key := by
  cases value with
  | none => exact Or.inl ⟨Option.map_eq_none_iff.mp one, Option.map_eq_none_iff.mp other⟩
  | some value =>
      obtain ⟨here, said, settled⟩ := Option.map_eq_some_iff.mp one
      obtain ⟨there, said', settled'⟩ := Option.map_eq_some_iff.mp other
      exact Or.inr ⟨here, there, value, said, said', settled, settled'⟩

theorem settle?_of_text? {text : String} (read : document.text? = some text) :
    document.settle? depth = some (.string text) := by
  cases document with
  | string value =>
      obtain rfl : value = some text := read
      rfl
  | _ => cases read

theorem settle?_of_natural? {limit n : Nat} (read : document.natural? limit = some n) :
    n < limit ∧ document.settle? depth = some (Json.nat n) := by
  cases document with
  | number value =>
      rcases value with _ | value | value
      · cases read
      · rw [natural?] at read
        split at read
        · rename_i range
          cases read
          refine ⟨by omega, ?_⟩
          rw [settle?, Option.map_some, Json.nat, Int.toNat_of_nonneg range.1]
        · cases read
      · cases read
  | _ => cases read

end Document

theorem Members.get?_ofList (members : Members) (key : String) :
    (ofList members).get? key
      = (members.reverse.find? fun member => member.1 = key).map Prod.snd := by
  induction members using List.reverseRecOn with
  | nil => rfl
  | append_singleton members member ih =>
      rw [ofList, List.foldl_append, List.reverse_append]
      change ((ofList members).put member.1 member.2).get? key = _
      by_cases same : member.1 = key
      · subst same
        simp
      · rw [get?_put_of_ne _ _ (Ne.symm same), ih]
        simp [same]

theorem Document.find?_settled {depth : Nat} {entries : List (String × Document)}
    {found : Members} (key : String)
    (each :
      List.Forall₂ (fun entry member => settlePair? depth entry = some member) entries found) :
    (entries.find? fun entry => entry.1 = key).map (fun entry => entry.2.settle? depth)
      = (found.find? fun member => member.1 = key).map fun member => some member.2 := by
  induction each with
  | nil => rfl
  | @cons entry member _ _ first _ ih =>
      obtain ⟨keys, settled⟩ := settlePair?_eq_some_iff.mp first
      rw [List.find?_cons, List.find?_cons, keys]
      by_cases same : entry.1 = key
      · simp [same, settled]
      · simpa [same] using ih

namespace Form

variable {fields : List Field} {key : String}

theorem answersTo_eq_false (plain : ∀ field ∈ fields, field.aliases = [])
    (unnamed : key ∉ fields.map Field.name) : ∀ field ∈ fields, field.answersTo key = false := by
  intro field listed
  have apart : ¬ key = field.name := fun same =>
    unnamed (List.mem_map.mpr ⟨field, listed, same.symm⟩)
  simp [Field.answersTo, plain field listed, apart]

theorem last?_unknown (free : ∀ field ∈ fields, field.answersTo key = false)
    (members : List (String × Document)) :
    last? (unknown fields members) key = last? members key := by
  rw [last?, last?, unknown, ← List.filter_reverse, List.find?_filter]
  congr 2
  funext member
  by_cases same : member.1 = key
  · simpa [same] using free
  · simp [same]

theorem get?_of_extra? {depth : Nat} {members : List (String × Document)} {extra : Members}
    (read : extra? fields depth members = some extra)
    (free : ∀ field ∈ fields, field.answersTo key = false) :
    (last? members key).map (Document.settle? depth) = (extra.get? key).map some := by
  rw [extra?_eq_map] at read
  obtain ⟨found, settled, rfl⟩ := Option.map_eq_some_iff.mp read
  have each := List.forall₂_reverse_iff.mpr (Document.settlePairs_eq_some settled).2
  rw [← last?_unknown free, Members.get?_ofList, last?, Option.map_map, Option.map_map]
  exact Document.find?_settled key each

theorem known_cons (member : String × Document) (rest : List (String × Document)) :
    known fields (member :: rest)
      = ((fields.find? fun field => field.answersTo member.1).map
          fun field => (field.name, member.2)).toList ++ known fields rest := by
  obtain ⟨key, value⟩ := member
  simp only [known, List.filterMap_cons]
  cases fields.find? fun field => field.answersTo key <;> rfl

theorem filter_known (plain : ∀ field ∈ fields, field.aliases = [])
    (named : key ∈ fields.map Field.name) (members : List (String × Document)) :
    (known fields members).filter (fun entry => entry.1 = key)
      = members.filter fun member => member.1 = key := by
  have answers {field : Field} (listed : field ∈ fields) (other : String) :
      field.answersTo other = decide (other = field.name) := by
    simp [Field.answersTo, plain field listed]
  induction members with
  | nil => rfl
  | cons member rest ih =>
      rw [known_cons, List.filter_append, List.filter_cons, ih]
      cases found : fields.find? fun field => field.answersTo member.1 with
      | none =>
          obtain ⟨field, listed, rfl⟩ := List.mem_map.mp named
          have apart := List.find?_eq_none.mp found field listed
          rw [answers listed, decide_eq_true_eq] at apart
          simp [apart]
      | some field =>
          have same := List.find?_some found
          rw [answers (List.mem_of_find?_eq_some found), decide_eq_true_eq] at same
          have kept : (field.name, member.2) = member := by rw [← same]
          rw [Option.map_some, Option.toList_some, kept, List.filter_cons, List.filter_nil]
          split <;> rfl

theorem head?_reverse_of_single {α : Type} {entries : List α} (single : entries.length ≤ 1) :
    entries.reverse.head? = entries.head? := by
  cases entries with
  | nil => rfl
  | cons entry rest =>
      obtain rfl : rest = [] := List.eq_nil_of_length_eq_zero (by simpa using single)
      rfl

theorem get?_of_ofMembers? {members : List (String × Document)} {form : Form}
    (plain : ∀ field ∈ fields, field.aliases = []) (read : ofMembers? fields members = some form)
    (named : key ∈ fields.map Field.name) : last? members key = form.get? key := by
  rw [ofMembers?] at read
  split at read
  · cases read
  · rename_i single
    cases read
    obtain ⟨field, listed, rfl⟩ := List.mem_map.mp named
    have once : ¬ isRepeated (known fields members) field.name = true := fun repeated =>
      single (List.any_eq_true.mpr ⟨field, listed, repeated⟩)
    rw [isRepeated, filter_known plain named, decide_eq_true_eq] at once
    rw [last?, get?, ← List.head?_filter, ← List.head?_filter, List.filter_reverse,
      filter_known plain named, head?_reverse_of_single (Nat.le_of_not_lt once)]

end Form

end Cadastre.Json
