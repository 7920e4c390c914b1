import Cadastre.Json.Reader
import Cadastre.Proofs.Json.Leaves
import Cadastre.Proofs.Text.Utf8

/-!
Written values read back. Each value has its tokens, which both ways of writing spell; from them
the reader comes to the document that says the value, whatever is open around it.
-/

namespace Cadastre.Json

mutual

def tokens : Json → List Token
  | null => [.leaf .null]
  | bool value => [.leaf (.bool value)]
  | number value => [.leaf (.number (some value))]
  | string value => [.ofString value]
  | array items =>
    [.openArray] ++ List.intercalate [.comma] (itemTokens items) ++ [.closeArray]
  | object members =>
    [.openObject] ++ List.intercalate [.comma] (memberTokens members) ++ [.closeObject]

def itemTokens : List Json → List (List Token)
  | [] => []
  | item :: rest => tokens item :: itemTokens rest

def memberTokens : List (String × Json) → List (List Token)
  | [] => []
  | (key, value) :: rest => ([.ofString key, .colon] ++ tokens value) :: memberTokens rest

end

mutual

/-- Whether all numbers of the value are exact and it nests at most `depth` levels. -/
def Fits (depth : Nat) : Json → Prop
  | null => True
  | bool _ => True
  | number value => value.Exact
  | string _ => True
  | array items =>
    match depth with
    | 0 => False
    | depth + 1 => FitsItems depth items
  | object members =>
    match depth with
    | 0 => False
    | depth + 1 => FitsMembers depth members

def FitsItems (depth : Nat) : List Json → Prop
  | [] => True
  | item :: rest => Fits depth item ∧ FitsItems depth rest

def FitsMembers (depth : Nat) : List (String × Json) → Prop
  | [] => True
  | (_, value) :: rest => Fits depth value ∧ FitsMembers depth rest

end

def Key.spelled (text : String) : Key := ⟨some text, text.toList.any isEscaped⟩

mutual

def spelled : Json → Document
  | null => .null
  | bool value => .bool value
  | number value => .number (some value)
  | string value => .string (some value)
  | array items => .array (spelledItems items)
  | object members => .object (spelledMembers members)

def spelledItems : List Json → List Document
  | [] => []
  | item :: rest => spelled item :: spelledItems rest

def spelledMembers : List (String × Json) → List (Key × Document)
  | [] => []
  | (key, value) :: rest => (.spelled key, spelled value) :: spelledMembers rest

end

theorem spelledMembers_eq_map (members : Members) :
    spelledMembers members = members.map fun member => (.spelled member.1, spelled member.2) := by
  induction members with
  | nil => rfl
  | cons member rest ih => rw [spelledMembers, ih, List.map_cons]

theorem spelledItems_eq_map (items : List Json) : spelledItems items = items.map spelled := by
  induction items with
  | nil => rfl
  | cons item rest ih => rw [spelledItems, ih, List.map_cons]

theorem fitsMembers_iff (depth : Nat) (members : Members) :
    FitsMembers depth members ↔ ∀ member ∈ members, member.2.Fits depth := by
  induction members with
  | nil => simp [FitsMembers]
  | cons member rest ih => simp [FitsMembers, ih]

theorem fitsItems_iff (depth : Nat) (items : List Json) :
    FitsItems depth items ↔ ∀ item ∈ items, item.Fits depth := by
  induction items with
  | nil => simp [FitsItems]
  | cons item rest ih => simp [FitsItems, ih]

mutual

theorem Fits.mono {depth deeper : Nat} (less : depth ≤ deeper) :
    (value : Json) → value.Fits depth → value.Fits deeper
  | null, _ => trivial
  | bool _, _ => trivial
  | number _, exact => exact
  | string _, _ => trivial
  | array items, fits => by
      cases depth with
      | zero => exact fits.elim
      | succ depth =>
          obtain ⟨deeper, rfl⟩ := Nat.exists_eq_succ_of_ne_zero (Nat.ne_zero_of_lt less)
          exact FitsItems.mono (Nat.le_of_succ_le_succ less) items fits
  | object members, fits => by
      cases depth with
      | zero => exact fits.elim
      | succ depth =>
          obtain ⟨deeper, rfl⟩ := Nat.exists_eq_succ_of_ne_zero (Nat.ne_zero_of_lt less)
          exact FitsMembers.mono (Nat.le_of_succ_le_succ less) members fits

theorem FitsItems.mono {depth deeper : Nat} (less : depth ≤ deeper) :
    (items : List Json) → FitsItems depth items → FitsItems deeper items
  | [], _ => trivial
  | item :: rest, fits => ⟨Fits.mono less item fits.1, FitsItems.mono less rest fits.2⟩

theorem FitsMembers.mono {depth deeper : Nat} (less : depth ≤ deeper) :
    (members : List (String × Json)) → FitsMembers depth members → FitsMembers deeper members
  | [], _ => trivial
  | (_, value) :: rest, fits => ⟨Fits.mono less value fits.1, FitsMembers.mono less rest fits.2⟩

end

section Spelling

variable {opening closing : Char} {opener closer : Token} {parts : List (List Char)}
  {tokens : List (List Token)}

theorem breaks_mark {c : Char} {token : Token} (mark : Token.ofMark? c = some token)
    (rest : List Char) : Breaks (c :: rest) :=
  ⟨c, rest, rfl, (plain_of_ofMark? mark).2.2⟩

theorem closes_bracketed (first : Token.ofMark? opening = some opener)
    (last : Token.ofMark? closing = some closer) (each : List.Forall₂ Spells parts tokens) :
    Closes ([opening] ++ commaSeparated parts ++ [closing])
      ([opener] ++ List.intercalate [.comma] tokens ++ [closer]) :=
  ((closes_mark first).spells_append (spells_intercalate (closes_mark rfl)
    (breaks_mark (c := ',') rfl []) each)).closes_append (breaks_mark last []) (closes_mark last)

theorem closes_margin (levels : Nat) : Closes ('\n' :: List.replicate (2 * levels) ' ') [] := by
  apply closes_spaces
  simp only [List.mem_cons, List.mem_replicate]
  rintro c (rfl | ⟨_, rfl⟩) <;> rfl

theorem closes_block (first : Token.ofMark? opening = some opener)
    (last : Token.ofMark? closing = some closer) (depth : Nat)
    (each : List.Forall₂ Spells parts tokens) :
    Closes (block opening closing depth parts)
      ([opener] ++ List.intercalate [.comma] tokens ++ [closer]) := by
  cases each with
  | nil => exact (closes_mark first).append (closes_mark last)
  | cons part rest =>
      have separator : Closes (',' :: '\n' :: List.replicate (2 * (depth + 1)) ' ') [.comma] :=
        (closes_mark (c := ',') rfl).append (closes_margin (depth + 1))
      have inner := spells_intercalate separator (breaks_mark (c := ',') rfl _) (.cons part rest)
      have opened := (closes_mark first).append (closes_margin (depth + 1))
      have ending := (closes_margin depth).append (closes_mark last)
      have whole := (opened.spells_append inner).closes_append ⟨'\n', _, rfl, rfl⟩ ending
      simp only [block, List.isEmpty_cons, Bool.false_eq_true, ↓reduceIte]
      simpa [List.append_assoc] using whole

end Spelling

mutual

theorem spells_compact {depth : Nat} :
    (value : Json) → value.Fits depth → Spells value.compact value.tokens
  | null, _ => spells_null
  | bool value, _ => spells_bool value
  | number _, exact => Number.Exact.spells exact
  | string value, _ => (closes_quote value).spells
  | array items, fits => by
      cases depth with
      | zero => exact fits.elim
      | succ depth => exact (closes_bracketed rfl rfl (spells_compactItems items fits)).spells
  | object members, fits => by
      cases depth with
      | zero => exact fits.elim
      | succ depth =>
          exact (closes_bracketed rfl rfl (spells_compactMembers members fits)).spells

theorem spells_compactItems {depth : Nat} :
    (items : List Json) → FitsItems depth items →
      List.Forall₂ Spells (compactItems items) (itemTokens items)
  | [], _ => .nil
  | item :: rest, fits =>
      .cons (spells_compact item fits.1) (spells_compactItems rest fits.2)

theorem spells_compactMembers {depth : Nat} :
    (members : List (String × Json)) → FitsMembers depth members →
      List.Forall₂ Spells (compactMembers members) (memberTokens members)
  | [], _ => .nil
  | (key, value) :: rest, fits =>
      .cons (((closes_quote key).append (closes_mark (c := ':') rfl)).spells_append
        (spells_compact value fits.1)) (spells_compactMembers rest fits.2)

end

mutual

theorem spells_pretty {depth : Nat} (level : Nat) :
    (value : Json) → value.Fits depth → Spells (value.pretty level) value.tokens
  | null, _ => spells_null
  | bool value, _ => spells_bool value
  | number _, exact => Number.Exact.spells exact
  | string value, _ => (closes_quote value).spells
  | array items, fits => by
      cases depth with
      | zero => exact fits.elim
      | succ depth =>
          exact (closes_block rfl rfl level (spells_prettyItems (level + 1) items fits)).spells
  | object members, fits => by
      cases depth with
      | zero => exact fits.elim
      | succ depth =>
          exact (closes_block rfl rfl level (spells_prettyMembers (level + 1) members fits)).spells

theorem spells_prettyItems {depth : Nat} (level : Nat) :
    (items : List Json) → FitsItems depth items →
      List.Forall₂ Spells (prettyItems level items) (itemTokens items)
  | [], _ => .nil
  | item :: rest, fits =>
      .cons (spells_pretty level item fits.1) (spells_prettyItems level rest fits.2)

theorem spells_prettyMembers {depth : Nat} (level : Nat) :
    (members : List (String × Json)) → FitsMembers depth members →
      List.Forall₂ Spells (prettyMembers level members) (memberTokens members)
  | [], _ => .nil
  | (key, value) :: rest, fits =>
      have colon : Closes [':', ' '] [.colon] :=
        (closes_mark (c := ':') rfl).append (closes_space (c := ' ') rfl)
      .cons (((closes_quote key).append colon).spells_append (spells_pretty level value fits.1))
        (spells_prettyMembers level rest fits.2)

end

namespace Reader

variable {frames : List Frame} {mayClose : Bool}

def behind (reader : Reader) (tokens : List Token) : Option Reader :=
  tokens.foldlM step reader

theorem behind_append (reader : Reader) (tokens more : List Token) :
    reader.behind (tokens ++ more)
      = (reader.behind tokens).bind fun next => next.behind more := by
  rw [behind, List.foldlM_append]
  rfl

theorem behind_cons (reader : Reader) (token : Token) (more : List Token) :
    reader.behind (token :: more) = (reader.step token).bind fun next => next.behind more := by
  rw [behind, List.foldlM_cons]
  rfl

theorem behind_singleton (reader : Reader) (token : Token) :
    reader.behind [token] = reader.step token := by
  rw [behind_cons]
  exact Option.bind_fun_some (reader.step token)

theorem step_leaf (document : Document) :
    step ⟨frames, .value mayClose⟩ (.leaf document) = place frames document := by
  cases mayClose <;> rfl

theorem step_string (s : String) :
    step ⟨frames, .value mayClose⟩ (.ofString s) = place frames (.string (some s)) := by
  cases mayClose <;> rfl

theorem step_openArray :
    step ⟨frames, .value mayClose⟩ .openArray = some ⟨.array [] :: frames, .value true⟩ := by
  cases mayClose <;> rfl

theorem step_openObject :
    step ⟨frames, .value mayClose⟩ .openObject = some ⟨.object [] :: frames, .key true⟩ := by
  cases mayClose <;> rfl

theorem step_key (s : String) :
    step ⟨frames, .key mayClose⟩ (.ofString s) = some ⟨frames, .colon (.spelled s)⟩ := by
  cases mayClose <;> rfl

/-- Where a value may stand, the tokens of this one put its document there. -/
def Takes (value : Json) : Prop :=
  ∀ frames mayClose,
    behind ⟨frames, .value mayClose⟩ value.tokens = place frames value.spelled

theorem behind_itemTokens (held : List Document) (items : List Json) (filled : items ≠ [])
    (each : ∀ item ∈ items, Takes item) :
    behind ⟨.array held :: frames, .value mayClose⟩ (List.intercalate [.comma] (itemTokens items))
      = some ⟨.array ((spelledItems items).reverse ++ held) :: frames, .separator⟩ := by
  induction items generalizing held mayClose with
  | nil => exact absurd rfl filled
  | cons item rest ih =>
      have first := each item (by simp)
      have later := fun other member => each other (List.mem_cons_of_mem item member)
      cases rest with
      | nil =>
          rw [itemTokens, itemTokens, List.intercalate_singleton, first]
          rfl
      | cons next others =>
          rw [itemTokens, itemTokens, List.intercalate_cons_cons, ← itemTokens,
            List.append_assoc, behind_append, first, place, Option.bind_some, behind_append,
            behind_singleton]
          change (behind ⟨.array (item.spelled :: held) :: frames, .value false⟩ _) = _
          rw [ih _ (by simp) later]
          simp [spelledItems]

theorem behind_memberTokens (held : List (Key × Document)) (members : Members)
    (filled : members ≠ []) (each : ∀ member ∈ members, Takes member.2) :
    behind ⟨.object held :: frames, .key mayClose⟩
        (List.intercalate [.comma] (memberTokens members))
      = some ⟨.object ((spelledMembers members).reverse ++ held) :: frames, .separator⟩ := by
  induction members generalizing held mayClose with
  | nil => exact absurd rfl filled
  | cons member rest ih =>
      obtain ⟨key, value⟩ := member
      have first := each (key, value) (by simp) (.member held (.spelled key) :: frames) false
      have later := fun other member => each other (List.mem_cons_of_mem (key, value) member)
      have placed : behind ⟨.object held :: frames, .key mayClose⟩
          ([.ofString key, .colon] ++ value.tokens)
            = some ⟨.object ((.spelled key, value.spelled) :: held) :: frames, .separator⟩ := by
        rw [List.cons_append, List.singleton_append, behind_cons, step_key, Option.bind_some,
          behind_cons]
        change behind ⟨.member held (.spelled key) :: frames, .value false⟩ value.tokens = _
        rw [first]
        rfl
      cases rest with
      | nil =>
          rw [memberTokens, memberTokens, List.intercalate_singleton, placed]
          rfl
      | cons next others =>
          rw [memberTokens, memberTokens.eq_def (_ :: _), List.intercalate_cons_cons,
            List.append_assoc, behind_append, placed, Option.bind_some, behind_append,
            behind_singleton]
          change (behind ⟨.object ((.spelled key, value.spelled) :: held) :: frames, .key false⟩
            (List.intercalate [.comma] (memberTokens (next :: others)))) = _
          rw [ih _ (by simp) later]
          simp [spelledMembers]

theorem takes_array {items : List Json} (each : ∀ item ∈ items, Takes item) :
    Takes (array items) := by
  intro frames mayClose
  rw [tokens, List.append_assoc, List.singleton_append, behind_cons, step_openArray,
    Option.bind_some]
  cases items with
  | nil =>
      rw [itemTokens, List.intercalate_nil, List.nil_append, behind_singleton]
      rfl
  | cons item rest =>
      rw [behind_append, behind_itemTokens [] _ (by simp) each, Option.bind_some,
        behind_singleton, List.append_nil]
      change place frames (.array (spelledItems (item :: rest)).reverse.reverse) = _
      rw [List.reverse_reverse]
      rfl

theorem takes_object {members : Members} (each : ∀ member ∈ members, Takes member.2) :
    Takes (object members) := by
  intro frames mayClose
  rw [tokens, List.append_assoc, List.singleton_append, behind_cons, step_openObject,
    Option.bind_some]
  cases members with
  | nil =>
      rw [memberTokens, List.intercalate_nil, List.nil_append, behind_singleton]
      rfl
  | cons member rest =>
      rw [behind_append, behind_memberTokens [] _ (by simp) each, Option.bind_some,
        behind_singleton, List.append_nil]
      change place frames (.object (spelledMembers (member :: rest)).reverse.reverse) = _
      rw [List.reverse_reverse]
      rfl

mutual

theorem takes : (value : Json) → Takes value
  | null => fun _ _ => by rw [tokens, behind_singleton, step_leaf, spelled]
  | bool value => fun _ _ => by rw [tokens, behind_singleton, step_leaf, spelled]
  | number value => fun _ _ => by rw [tokens, behind_singleton, step_leaf, spelled]
  | string value => fun _ _ => by rw [tokens, behind_singleton, step_string, spelled]
  | array items => takes_array (takes_items items)
  | object members => takes_object (takes_members members)

theorem takes_items : (items : List Json) → ∀ item ∈ items, Takes item
  | [] => by simp
  | item :: rest => by
      simp only [List.mem_cons, forall_eq_or_imp]
      exact ⟨takes item, takes_items rest⟩

theorem takes_members :
    (members : List (String × Json)) → ∀ member ∈ members, Takes member.2
  | [] => by simp
  | (key, value) :: rest => by
      simp only [List.mem_cons, forall_eq_or_imp]
      exact ⟨takes value, takes_members rest⟩

end

end Reader

theorem ofTokens?_tokens (value : Json) : ofTokens? value.tokens = some value.spelled := by
  rw [ofTokens?, ← Reader.behind, Reader.start, Reader.takes]
  rfl

theorem tokens?_of_spells {cs : List Char} {tokens : List Token} (spells : Spells cs tokens) :
    tokens? (cs.map some) = some tokens := by
  have ended := spells []
  change (Lexer.behind Lexer.start cs).bind Lexer.finish = some tokens
  obtain ⟨lexer, reached, settled⟩ := Option.bind_eq_some_iff.mp ended
  change Lexer.behind Lexer.start cs = some lexer at reached
  rw [reached, Option.bind_some, Lexer.finish_eq_settled?, settled]
  simp

theorem Document.read?_of_spells {cs : List Char} {value : Json}
    (spells : Spells cs value.tokens) :
    Document.read? (Text.utf8 (.ofList cs)) = some value.spelled := by
  rw [read?, Text.decode_utf8, String.toList_ofList, tokens?_of_spells spells, Option.bind_some,
    ofTokens?_tokens]

/-- A compactly written value is read as the document that says it. -/
theorem Document.read?_write {depth : Nat} {value : Json} (fits : value.Fits depth) :
    Document.read? (Text.utf8 value.write) = some value.spelled :=
  read?_of_spells (spells_compact value fits)

theorem Document.read?_writePretty {depth : Nat} {value : Json} (fits : value.Fits depth) :
    Document.read? (Text.utf8 value.writePretty) = some value.spelled :=
  read?_of_spells (spells_pretty 0 value fits)

end Cadastre.Json
