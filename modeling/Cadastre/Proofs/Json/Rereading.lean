import Cadastre.Proofs.Json.Numerals
import Cadastre.Proofs.Json.Settled
import Cadastre.Proofs.Json.Tables

/-!
Written values read back, whatever their numbers. All of a value is found again as it was but for
the numbers that reading rounds to others, so that a value comes back just if it lasts.
-/

namespace Cadastre.Json

def Number.again (number : Number) : Option Number :=
  (Numeral.ofChars? number.text).bind Numeral.number?

theorem Number.exact_iff (number : Number) : number.Exact ↔ number.again = some number := Iff.rfl

theorem Number.spells_text (number : Number) :
    Spells number.text [.leaf (.number number.again)] := by
  obtain ⟨numeral, read⟩ := Option.isSome_iff_exists.mp number.isSome_ofChars?_text
  rw [again, read]
  exact spells_numeral read

namespace Document

mutual

def again : Document → Document
  | .null => .null
  | .bool value => .bool value
  | .number value => .number (value.bind Number.again)
  | .string value => .string value
  | .array items => .array (againItems items)
  | .object members => .object (againMembers members)

def againItems : List Document → List Document
  | [] => []
  | item :: rest => again item :: againItems rest

def againMembers : List (Key × Document) → List (Key × Document)
  | [] => []
  | (key, value) :: rest => (key, again value) :: againMembers rest

end

theorem againItems_eq_map (items : List Document) : againItems items = items.map again := by
  induction items with
  | nil => rfl
  | cons item rest ih => rw [againItems, ih, List.map_cons]

theorem againMembers_eq_map (members : List (Key × Document)) :
    againMembers members = members.map fun member => (member.1, member.2.again) := by
  induction members with
  | nil => rfl
  | cons member rest ih => rw [againMembers, ih, List.map_cons]

end Document

def Token.again : Token → Token
  | .leaf document => .leaf document.again
  | token => token

theorem map_intercalate {α β : Type} (f : α → β) (separator : List α) (parts : List (List α)) :
    (List.intercalate separator parts).map f
      = List.intercalate (separator.map f) (parts.map (List.map f)) := by
  induction parts with
  | nil => rfl
  | cons part rest ih =>
      cases rest with
      | nil => simp
      | cons next others =>
          rw [List.intercalate_cons_cons, List.map_append, List.map_append, ih]
          simp only [List.map_cons, List.intercalate_cons_cons]

theorem closes_bracketed_again {opening closing : Char} {opener closer : Token}
    {parts : List (List Char)} {tokens : List (List Token)}
    (first : Token.ofMark? opening = some opener) (last : Token.ofMark? closing = some closer)
    (plain : opener.again = opener ∧ closer.again = closer)
    (each : List.Forall₂ Spells parts (tokens.map (List.map Token.again))) :
    Closes ([opening] ++ commaSeparated parts ++ [closing])
      (([opener] ++ List.intercalate [.comma] tokens ++ [closer]).map Token.again) := by
  have bracketed := closes_bracketed first last each
  simp only [List.map_append, map_intercalate, List.map_singleton, plain.1, plain.2]
  exact bracketed

mutual

theorem spells_again : (value : Json) → Spells value.compact (value.tokens.map Token.again)
  | null => spells_null
  | bool value => spells_bool value
  | number value => value.spells_text
  | string value => (closes_quote value).spells
  | array items => (closes_bracketed_again rfl rfl ⟨rfl, rfl⟩ (spellsItems_again items)).spells
  | object members =>
      (closes_bracketed_again rfl rfl ⟨rfl, rfl⟩ (spellsMembers_again members)).spells

theorem spellsItems_again : (items : List Json) →
    List.Forall₂ Spells (compactItems items) ((itemTokens items).map (List.map Token.again))
  | [] => .nil
  | item :: rest => .cons (spells_again item) (spellsItems_again rest)

theorem spellsMembers_again : (members : List (String × Json)) →
    List.Forall₂ Spells (compactMembers members)
      ((memberTokens members).map (List.map Token.again))
  | [] => .nil
  | (key, value) :: rest =>
      .cons (((closes_quote key).append (closes_mark (c := ':') rfl)).spells_append
        (spells_again value)) (spellsMembers_again rest)

end

def Frame.again : Frame → Frame
  | .array items => .array (items.map Document.again)
  | .object members => .object (members.map fun member => (member.1, member.2.again))
  | .member members key => .member (members.map fun member => (member.1, member.2.again)) key

def Phase.again : Phase → Phase
  | .finished root => .finished root.again
  | phase => phase

namespace Reader

def again (reader : Reader) : Reader := ⟨reader.frames.map Frame.again, reader.phase.again⟩

theorem place_again (frames : List Frame) (document : Document) :
    place (frames.map Frame.again) document.again = (place frames document).map again := by
  cases frames with
  | nil => rfl
  | cons frame rest => cases frame <;> rfl

theorem close_again (frames : List Frame) (token : Token) :
    close (frames.map Frame.again) token.again = (close frames token).map again := by
  cases frames with
  | nil => cases token <;> rfl
  | cons frame rest =>
      cases token <;> cases frame <;> try rfl
      · rename_i members
        rw [List.map_cons, close, ← place_again, Document.again, Document.againMembers_eq_map,
          List.map_reverse]
        rfl
      · rename_i items
        rw [List.map_cons, close, ← place_again, Document.again, Document.againItems_eq_map,
          List.map_reverse]
        rfl

theorem step_again (reader : Reader) (token : Token) :
    reader.again.step token.again = (reader.step token).map again := by
  obtain ⟨frames, phase⟩ := reader
  cases phase with
  | value mayClose =>
      cases token with
      | leaf document =>
          have placed := place_again frames document
          cases mayClose <;> exact placed
      | text value escaped =>
          have placed := place_again frames (.string value)
          cases mayClose <;> exact placed
      | closeArray =>
          cases mayClose with
          | false => rfl
          | true => exact close_again frames .closeArray
      | _ => cases mayClose <;> rfl
  | key mayClose =>
      cases token with
      | closeObject =>
          cases mayClose with
          | false => rfl
          | true => exact close_again frames .closeObject
      | _ => cases mayClose <;> rfl
  | colon key =>
      cases token with
      | colon =>
          cases frames with
          | nil => rfl
          | cons frame rest => cases frame <;> rfl
      | _ => rfl
  | separator =>
      cases token with
      | comma =>
          cases frames with
          | nil => rfl
          | cons frame rest => cases frame <;> rfl
      | closeArray => exact close_again frames .closeArray
      | closeObject => exact close_again frames .closeObject
      | _ => rfl
  | finished root => cases token <;> rfl

theorem behind_again (reader : Reader) (tokens : List Token) :
    reader.again.behind (tokens.map Token.again) = (reader.behind tokens).map again := by
  induction tokens generalizing reader with
  | nil => rfl
  | cons token rest ih =>
      rw [List.map_cons, behind_cons, behind_cons, step_again]
      cases reader.step token with
      | none => rfl
      | some next => exact ih next

end Reader

/-- The document that the value is read as once it is written. -/
def reread (value : Json) : Document := value.spelled.again

theorem Document.read?_write_eq_reread (value : Json) :
    Document.read? (Text.utf8 value.write) = some value.reread := by
  have taken : ofTokens? (value.tokens.map Token.again) = some value.reread := by
    have behind := Reader.behind_again Reader.start value.tokens
    rw [Reader.start, Reader.takes] at behind
    change (Reader.behind _ _).bind Reader.finish = _
    exact congrArg (Option.bind · Reader.finish) behind
  rw [read?, write, Text.decode_utf8, String.toList_ofList, tokens?_of_spells (spells_again value),
    Option.bind_some, taken]

def Document.settlePair? (depth : Nat) (entry : String × Document) : Option (String × Json) :=
  (entry.2.settle? depth).map fun value => (entry.1, value)

theorem Document.settleMembers?_spelled (depth : Nat) (entries : List (String × Document)) :
    settleMembers? depth (entries.map fun entry => (.spelled entry.1, entry.2))
      = entries.mapM (settlePair? depth) := by
  induction entries with
  | nil => rfl
  | cons entry rest ih =>
      rw [List.map_cons, settleMembers?, ih, List.mapM_cons, settlePair?]
      cases entry.2.settle? depth with
      | none => rfl
      | some value => cases rest.mapM (settlePair? depth) <;> rfl

theorem Document.settlePair?_eq_some_iff {depth : Nat} {entry : String × Document}
    {member : String × Json} :
    settlePair? depth entry = some member ↔
      member.1 = entry.1 ∧ entry.2.settle? depth = some member.2 := by
  rw [settlePair?, Option.map_eq_some_iff]
  constructor
  · rintro ⟨value, settled, rfl⟩
    exact ⟨rfl, settled⟩
  · rintro ⟨same, settled⟩
    exact ⟨member.2, settled, by rw [← same]⟩

theorem Document.settlePairs_eq_some {depth : Nat} {entries : List (String × Document)}
    {found : Members} (settled : entries.mapM (settlePair? depth) = some found) :
    found.keys = entries.map Prod.fst ∧
      List.Forall₂ (fun entry member => settlePair? depth entry = some member) entries found := by
  induction entries generalizing found with
  | nil =>
      cases settled
      exact ⟨rfl, .nil⟩
  | cons entry rest ih =>
      rw [List.mapM_cons] at settled
      obtain ⟨member, first, settled⟩ := Option.bind_eq_some_iff.mp settled
      obtain ⟨others, later, settled⟩ := Option.bind_eq_some_iff.mp settled
      cases settled
      obtain ⟨keys, each⟩ := ih later
      refine ⟨?_, .cons first each⟩
      rw [Members.keys, List.map_cons, List.map_cons, (settlePair?_eq_some_iff.mp first).1, ← keys]
      rfl

theorem Document.exists_of_mem_settled {depth : Nat} {entries : List (String × Document)}
    {found : Members} {member : String × Json}
    (each : List.Forall₂ (fun entry member => settlePair? depth entry = some member) entries found)
    (held : member ∈ found) : ∃ entry, settlePair? depth entry = some member := by
  induction each with
  | nil => cases held
  | cons first later ih =>
      rcases List.mem_cons.mp held with rfl | held
      · exact ⟨_, first⟩
      · exact ih held

theorem Members.ofList_settled_iff {depth : Nat} {members : Members} (ascending : members.Ascending)
    (document : Json → Document) :
    ((members.map fun member => (member.1, document member.2)).mapM
        (Document.settlePair? depth)).map ofList = some members ↔
      ∀ member ∈ members, (document member.2).settle? depth = some member.2 := by
  constructor
  · intro settled
    obtain ⟨found, settled, same⟩ := Option.map_eq_some_iff.mp settled
    obtain ⟨keys, each⟩ := Document.settlePairs_eq_some settled
    rw [List.map_map] at keys
    have ordered : found.Ascending := by
      have below := List.pairwise_map.mpr ascending
      change List.Pairwise (· < ·) members.keys at below
      change found.keys = members.keys at keys
      rw [← keys] at below
      exact List.pairwise_map.mp below
    rw [ofList_of_ascending ordered] at same
    subst same
    rw [List.forall₂_map_left_iff, List.forall₂_same] at each
    intro member held
    exact (Document.settlePair?_eq_some_iff.mp (each member held)).2
  · intro each
    rw [mapM_map_eq_some, Option.map_some, ofList_of_ascending ascending]
    intro member found
    rw [Document.settlePair?, each member found]
    rfl

def Returns (depth : Nat) (value : Json) : Prop :=
  value.reread.settle? depth = some value ↔ value.Lasting

theorem settleItems?_eq_some_iff {depth : Nat} (document : Json → Document) (items : List Json) :
    Document.settleItems? depth (items.map document) = some items ↔
      ∀ item ∈ items, (document item).settle? depth = some item := by
  induction items with
  | nil => simp [Document.settleItems?]
  | cons item rest ih =>
      rw [List.map_cons, Document.settleItems?, List.forall_mem_cons, ← ih]
      cases (document item).settle? depth with
      | none => simp
      | some value => cases Document.settleItems? depth (rest.map document) <;> simp

theorem returns_array {depth : Nat} {items : List Json}
    (each : ∀ item ∈ items, item.Returns depth) : (array items).Returns (depth + 1) := by
  rw [Returns, reread, spelled, Document.again, Document.settle?, lasting_array_iff,
    spelledItems_eq_map, Document.againItems_eq_map, List.map_map]
  have all : (∀ item ∈ items, item.Lasting) ↔
      ∀ item ∈ items, item.reread.settle? depth = some item :=
    forall₂_congr fun item held => (each item held).symm
  rw [all, ← settleItems?_eq_some_iff reread]
  constructor
  · intro settled
    obtain ⟨values, settled, same⟩ := Option.map_eq_some_iff.mp settled
    cases same
    exact settled
  · intro settled
    exact congrArg (Option.map array) settled

theorem returns_object {depth : Nat} {members : Members} (ascending : members.Ascending)
    (each : ∀ member ∈ members, member.2.Returns depth) :
    (object members).Returns (depth + 1) := by
  rw [Returns, reread, spelled, Document.again, Document.settle?, lasting_object_iff,
    spelledMembers_eq_map, Document.againMembers_eq_map, List.map_map]
  have all : (∀ member ∈ members, member.2.Lasting) ↔
      ∀ member ∈ members, member.2.reread.settle? depth = some member.2 :=
    forall₂_congr fun member held => (each member held).symm
  have entries := Document.settleMembers?_spelled depth
    (members.map fun member => (member.1, member.2.reread))
  rw [List.map_map] at entries
  rw [all, ← Members.ofList_settled_iff ascending reread, ← entries]
  constructor
  · intro settled
    obtain ⟨found, settled, same⟩ := Option.map_eq_some_iff.mp settled
    cases same
    exact Option.map_eq_some_iff.mpr ⟨found, settled, rfl⟩
  · intro settled
    obtain ⟨found, settled, same⟩ := Option.map_eq_some_iff.mp settled
    exact Option.map_eq_some_iff.mpr ⟨found, settled, congrArg object same⟩

theorem inherited_returns : Inherited Returns where
  null _ := iff_of_true rfl nofun
  bool _ _ := iff_of_true rfl nofun
  number _ value := by
    simp [Returns, Lasting, numbers, reread, spelled, Document.again, Document.settle?,
      Number.exact_iff]
  string _ _ := iff_of_true rfl nofun
  array _ _ := returns_array
  object _ _ each := returns_object (Members.ascending_ofList _) fun member found =>
    each member (Members.mem_of_mem_ofList found)

end Cadastre.Json
