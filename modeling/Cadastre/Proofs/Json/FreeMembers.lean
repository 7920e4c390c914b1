import Cadastre.Proofs.Json.Rereading

/-!
Forms read back from what was written. Members that no field answers to come back behind the
fields, just if writing spoils none of their numbers.
-/

namespace Cadastre.Json

theorem reread_nat {n : Nat} (below : n < 2 ^ 64) :
    (Json.nat n).reread = .number (some (.integer n)) := by
  have exact : Number.again (.integer n) = some (.integer n) :=
    Number.exact_integer (by omega) (by omega)
  rw [Json.nat, reread, spelled, Document.again, Option.bind_some, exact]

theorem natural?_reread {limit n : Nat} (below : n < limit) (fits : limit ≤ 2 ^ 64) :
    Document.natural? limit (Json.nat n).reread = some n := by
  have range : (0 : Int) ≤ (n : Int) ∧ (n : Int) < limit := by omega
  rw [reread_nat (by omega), Document.natural?, if_pos range, Int.toNat_natCast]

theorem reread_array (items : List Json) : (array items).reread = .array (items.map reread) := by
  rw [reread, spelled, Document.again, spelledItems_eq_map, Document.againItems_eq_map,
    List.map_map]
  rfl

theorem members?_reread (members : Members) :
    (object members).reread.members?
      = some (members.map fun member => (member.1, member.2.reread)) := by
  rw [reread, spelled, Document.again, spelledMembers_eq_map, Document.againMembers_eq_map,
    List.map_map, Document.members?, List.mapM_map]
  exact mapM_some _ members

theorem Form.ofDocument?_reread (fields : List Field) (members : Members) :
    ofDocument? fields (object members).reread
      = ofMembers? fields (members.map fun member => (member.1, member.2.reread)) := by
  have read := members?_reread members
  rw [reread, spelled, Document.again] at read ⊢
  simp only [ofDocument?, read, Option.bind_some]

theorem Form.extra?_eq_map (fields : List Field) (depth : Nat)
    (members : List (String × Document)) :
    extra? fields depth members
      = ((unknown fields members).mapM (Document.settlePair? depth)).map Members.ofList := by
  change Option.bind ((unknown fields members).mapM (Document.settlePair? depth)) _ = _
  cases (unknown fields members).mapM (Document.settlePair? depth) <;> rfl

/-- Members that no field answers to, as they are when they have been read. -/
structure Form.Free (fields : List Field) (depth : Nat) (members : Members) : Prop where
  ascending : members.Ascending
  unknown : ∀ member ∈ members, ∀ field ∈ fields, field.answersTo member.1 = false
  returns : ∀ member ∈ members, member.2.Returns depth

theorem Form.free_of_extra? {fields : List Field} {depth : Nat}
    {members : List (String × Document)} {extra : Members}
    (read : extra? fields depth members = some extra) : Free fields depth extra := by
  rw [extra?_eq_map] at read
  obtain ⟨found, settled, rfl⟩ := Option.map_eq_some_iff.mp read
  obtain ⟨keys, each⟩ := Document.settlePairs_eq_some settled
  refine ⟨Members.ascending_ofList found, fun member held field listed => ?_, fun member held => ?_⟩
  · have key : member.1 ∈ Members.keys found :=
      List.mem_map_of_mem (Members.mem_of_mem_ofList held)
    rw [keys] at key
    obtain ⟨entry, kept, same⟩ := List.mem_map.mp key
    have apart := (List.mem_filter.mp kept).2
    simp only [Bool.not_eq_true', List.any_eq_false] at apart
    rw [← same]
    exact Bool.eq_false_iff.mpr (apart field listed)
  · obtain ⟨entry, read⟩ := Document.exists_of_mem_settled each (Members.mem_of_mem_ofList held)
    exact holds_of_settle? inherited_returns entry.2 (Document.settlePair?_eq_some_iff.mp read).2

section Free

variable {fields : List Field} {depth : Nat} {members : List (String × Document)} {extra : Members}

theorem Form.known_append_free (free : Free fields depth extra) :
    known fields (members ++ extra.map fun member => (member.1, member.2.reread))
      = known fields members := by
  have none' : known fields (extra.map fun member => (member.1, member.2.reread)) = [] := by
    simp only [known, List.filterMap_map, List.filterMap_eq_nil_iff, Function.comp_apply,
      Option.map_eq_none_iff, List.find?_eq_none]
    intro member held field listed
    rw [free.unknown member held field listed]
    decide
  rw [known, List.filterMap_append]
  exact (congrArg _ none').trans (List.append_nil _)

theorem Form.ofMembers?_append_free (free : Free fields depth extra) :
    ofMembers? fields (members ++ extra.map fun member => (member.1, member.2.reread))
      = ofMembers? fields members := by
  rw [ofMembers?, known_append_free free]
  rfl

theorem Form.extra?_append_free (free : Free fields depth extra)
    (taken : unknown fields members = []) :
    extra? fields depth (members ++ extra.map fun member => (member.1, member.2.reread))
        = some extra ↔ (object extra).Lasting := by
  have left : unknown fields (members ++ extra.map fun member => (member.1, member.2.reread))
      = extra.map fun member => (member.1, member.2.reread) := by
    rw [unknown, List.filter_append]
    refine (congrArg (· ++ _) taken).trans ((List.nil_append _).trans ?_)
    rw [List.filter_eq_self]
    intro entry listed
    obtain ⟨member, held, rfl⟩ := List.mem_map.mp listed
    simpa using free.unknown member held
  have lasting : (object extra).Lasting ↔
      ∀ member ∈ extra, member.2.reread.settle? depth = some member.2 := by
    rw [lasting_object_iff]
    exact forall₂_congr fun member held => (free.returns member held).symm
  rw [extra?_eq_map, left, lasting, ← Members.ofList_settled_iff free.ascending reread]

end Free

end Cadastre.Json
