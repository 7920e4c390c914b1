import Cadastre.Proofs.Json.Ordered

/-!
Values that have been read. They are free-form, and if writing spoils none of their numbers, then
they are read again as they were.
-/

namespace Cadastre.Json

mutual

def numbers : Json → List Number
  | null => []
  | bool _ => []
  | number value => [value]
  | string _ => []
  | array items => itemNumbers items
  | object members => memberNumbers members

def itemNumbers : List Json → List Number
  | [] => []
  | item :: rest => numbers item ++ itemNumbers rest

def memberNumbers : List (String × Json) → List Number
  | [] => []
  | (_, value) :: rest => numbers value ++ memberNumbers rest

end

/-- Writing spoils no number of the value. -/
def Lasting (value : Json) : Prop :=
  ∀ number ∈ value.numbers, number.Exact

instance (value : Json) : Decidable value.Lasting :=
  inferInstanceAs (Decidable (∀ _ ∈ _, _))

theorem memberNumbers_eq_flatMap (members : Members) :
    memberNumbers members = members.flatMap fun member => member.2.numbers := by
  induction members with
  | nil => rfl
  | cons member rest ih => rw [memberNumbers, ih, List.flatMap_cons]

theorem itemNumbers_eq_flatMap (items : List Json) : itemNumbers items = items.flatMap numbers := by
  induction items with
  | nil => rfl
  | cons item rest ih => rw [itemNumbers, ih, List.flatMap_cons]

theorem lasting_object_iff (members : Members) :
    (object members).Lasting ↔ ∀ member ∈ members, member.2.Lasting := by
  simp only [Lasting, numbers, memberNumbers_eq_flatMap, List.mem_flatMap]
  constructor
  · intro lasting member found number within
    exact lasting number ⟨member, found, within⟩
  · rintro lasting number ⟨member, found, within⟩
    exact lasting member found number within

theorem lasting_array_iff (items : List Json) :
    (array items).Lasting ↔ ∀ item ∈ items, item.Lasting := by
  simp only [Lasting, numbers, itemNumbers_eq_flatMap, List.mem_flatMap]
  constructor
  · intro lasting item found number within
    exact lasting number ⟨item, found, within⟩
  · rintro lasting number ⟨item, found, within⟩
    exact lasting item found number within

theorem orderedItems_iff (items : List Json) :
    OrderedItems items ↔ ∀ item ∈ items, item.Ordered := by
  induction items with
  | nil => simp [OrderedItems]
  | cons item rest ih => simp [OrderedItems, ih]

structure Settled (depth : Nat) (value : Json) : Prop where
  ordered : value.Ordered
  fits : value.Lasting → value.Fits depth

theorem settled_array {depth : Nat} {items : List Json}
    (each : ∀ item ∈ items, item.Settled depth) : (array items).Settled (depth + 1) where
  ordered := (orderedItems_iff items).mpr fun item found => (each item found).ordered
  fits lasting := (fitsItems_iff depth items).mpr fun item found =>
    (each item found).fits ((lasting_array_iff items).mp lasting item found)

theorem settled_object {depth : Nat} {members : Members}
    (each : ∀ member ∈ members, member.2.Settled depth) :
    (object (Members.ofList members)).Settled (depth + 1) where
  ordered := by
    refine ⟨Members.ascending_ofList members, (orderedMembers_iff _).mpr fun member found => ?_⟩
    exact (each member (Members.mem_of_mem_ofList found)).ordered
  fits lasting := by
    refine (fitsMembers_iff _ _).mpr fun member found => ?_
    have exact := (lasting_object_iff _).mp lasting member found
    exact (each member (Members.mem_of_mem_ofList found)).fits exact

/-- A property, at a depth, of leaves and of what is put together from values that have it one
level below. -/
structure Inherited (holds : Nat → Json → Prop) : Prop where
  null : ∀ depth, holds depth .null
  bool : ∀ depth value, holds depth (.bool value)
  number : ∀ depth value, holds depth (.number value)
  string : ∀ depth value, holds depth (.string value)
  array : ∀ depth items, (∀ item ∈ items, holds depth item) → holds (depth + 1) (.array items)
  object : ∀ depth members, (∀ member ∈ members, holds depth member.2) →
    holds (depth + 1) (.object (Members.ofList members))

section Inherited

variable {holds : Nat → Json → Prop}

mutual

theorem holds_of_settle? (inherited : Inherited holds) {depth : Nat} {value : Json} :
    (document : Document) → document.settle? depth = some value → holds depth value
  | .null, read => by
      cases read
      exact inherited.null depth
  | .bool flag, read => by
      cases read
      exact inherited.bool depth flag
  | .number _, read => by
      obtain ⟨number, rfl, rfl⟩ := Option.map_eq_some_iff.mp read
      exact inherited.number depth number
  | .string _, read => by
      obtain ⟨text, rfl, rfl⟩ := Option.map_eq_some_iff.mp read
      exact inherited.string depth text
  | .array items, read => by
      cases depth with
      | zero => cases read
      | succ depth =>
          obtain ⟨values, settled, rfl⟩ := Option.map_eq_some_iff.mp read
          exact inherited.array depth values (holds_of_settleItems? inherited items settled)
  | .object members, read => by
      cases depth with
      | zero => cases read
      | succ depth =>
          obtain ⟨values, settled, rfl⟩ := Option.map_eq_some_iff.mp read
          exact inherited.object depth values (holds_of_settleMembers? inherited members settled)

theorem holds_of_settleItems? (inherited : Inherited holds) {depth : Nat}
    {values : List Json} :
    (items : List Document) → Document.settleItems? depth items = some values →
      ∀ value ∈ values, holds depth value
  | [], read => by
      cases read
      exact fun _ absent => absurd absent List.not_mem_nil
  | item :: rest, read => by
      simp only [Document.settleItems?] at read
      split at read
      · rename_i first others settled later
        cases read
        intro value found
        rcases List.mem_cons.mp found with rfl | found
        · exact holds_of_settle? inherited item settled
        · exact holds_of_settleItems? inherited rest later value found
      · cases read

theorem holds_of_settleMembers? (inherited : Inherited holds) {depth : Nat}
    {values : Members} :
    (members : List (Key × Document)) → Document.settleMembers? depth members = some values →
      ∀ member ∈ values, holds depth member.2
  | [], read => by
      cases read
      exact fun _ absent => absurd absent List.not_mem_nil
  | (key, item) :: rest, read => by
      simp only [Document.settleMembers?] at read
      split at read
      · rename_i text value others _ settled later
        cases read
        intro member found
        rcases List.mem_cons.mp found with rfl | found
        · exact holds_of_settle? inherited item settled
        · exact holds_of_settleMembers? inherited rest later member found
      · cases read

end

end Inherited

theorem inherited_settled : Inherited Settled where
  null _ := ⟨trivial, fun _ => trivial⟩
  bool _ _ := ⟨trivial, fun _ => trivial⟩
  number _ value := ⟨trivial, fun lasting => lasting value List.mem_cons_self⟩
  string _ _ := ⟨trivial, fun _ => trivial⟩
  array _ _ := settled_array
  object _ _ := settled_object

theorem settled_of_settle? {depth : Nat} {value : Json} (document : Document)
    (read : document.settle? depth = some value) : value.Settled depth :=
  holds_of_settle? inherited_settled document read

theorem settled_of_read? {bytes : Bytes} {value : Json} (read : read? bytes = some value) :
    value.Settled greatestDepth := by
  obtain ⟨document, _, settled⟩ := Option.bind_eq_some_iff.mp read
  exact settled_of_settle? document settled

end Cadastre.Json
