import Cadastre.Proofs.Path
import Cadastre.Storage.Directory
import Mathlib.Data.List.Basic

/-!
Names of objects. An object's key tells the digest of its payload and the kind of content, and an
object's locator tells its key, however the directory is published.
-/

namespace Cadastre

theorem Bytes.hex_injective {first second : Bytes} (same : hex first = hex second) :
    first = second := by
  have read := ofHex?_hex first
  rw [same, ofHex?_hex second] at read
  exact (Option.some.inj read).symm

theorem Bytes.length_hex (bytes : Bytes) : (hex bytes).toList.length = 2 * bytes.length := by
  induction bytes with
  | nil => rfl
  | cons byte rest ih =>
      simp only [hex, String.toList_ofList, List.flatMap_cons, List.length_append,
        List.length_cons, List.length_nil] at ih ⊢
      omega

theorem Bytes.hexDigit_ne_slash {n : Nat} (small : n < 16) : hexDigit n ≠ '/' := by
  revert n
  decide

theorem Bytes.slash_not_mem_hex (bytes : Bytes) : '/' ∉ (hex bytes).toList := by
  simp only [hex, String.toList_ofList, List.mem_flatMap, List.mem_cons, List.not_mem_nil,
    or_false]
  rintro ⟨byte, _, high | low⟩
  · exact hexDigit_ne_slash (Nat.div_lt_of_lt_mul byte.toNat_lt) high.symm
  · exact hexDigit_ne_slash (Nat.mod_lt _ (by decide)) low.symm

theorem ContentKind.extension_injective {first second : ContentKind}
    (same : first.extension = second.extension) : first = second := by
  revert same
  cases first <;> cases second <;> decide

theorem ContentKind.length_extension (kind : ContentKind) :
    3 ≤ kind.extension.toList.length ∧ kind.extension.toList.length ≤ 4 := by
  cases kind <;> decide

theorem ContentKind.slash_not_mem_extension (kind : ContentKind) :
    '/' ∉ kind.extension.toList := by
  cases kind <;> decide

namespace ContentDigest

theorem length_hex (digest : ContentDigest) : digest.hex.toList.length = 64 := by
  rw [hex, Bytes.length_hex, digest.length_bytes]

theorem toList_objectKey (digest : ContentDigest) (extension : String) :
    ∃ levels : List Char, levels.length = 6 ∧ levels.head? ≠ some '/' ∧
      (digest.objectKey extension).toList
        = levels ++ (digest.hex.toList ++ '.' :: extension.toList) := by
  refine ⟨digest.hex.toList.take 2 ++ '/' :: ((digest.hex.toList.drop 2).take 2 ++ ['/']),
    ?_, ?_, ?_⟩
  · simp [digest.length_hex]
  · intro slash
    have long := digest.length_hex
    have plain : '/' ∉ digest.hex.toList := Bytes.slash_not_mem_hex digest.bytes
    generalize digest.hex.toList = digits at long plain slash
    cases digits with
    | nil => cases long
    | cons first others =>
        obtain rfl := Option.some.inj slash
        exact plain List.mem_cons_self
  · simp [objectKey, String.toList_append]

theorem length_objectKey (digest : ContentDigest) (extension : String) :
    (digest.objectKey extension).toList.length = 71 + extension.toList.length := by
  obtain ⟨levels, six, _, key⟩ := digest.toList_objectKey extension
  rw [key, List.length_append, List.length_append, List.length_cons, six, digest.length_hex]
  omega

theorem objectKey_injective {first second : ContentDigest} {one other : String}
    (same : first.objectKey one = second.objectKey other) : first = second ∧ one = other := by
  obtain ⟨levels, six, _, key⟩ := first.toList_objectKey one
  obtain ⟨levels', six', _, key'⟩ := second.toList_objectKey other
  rw [← same, key] at key'
  have names := (List.append_inj key' (by rw [six, six'])).2
  obtain ⟨digits, ending⟩ := List.append_inj names (by rw [first.length_hex, second.length_hex])
  refine ⟨?_, String.toList_inj.mp (List.cons.inj ending).2⟩
  have bytes := Bytes.hex_injective (String.toList_inj.mp digits)
  obtain ⟨_, _⟩ := first
  obtain ⟨_, _⟩ := second
  cases bytes
  rfl

end ContentDigest

theorem Url.trimLeadingSlashes_of_relative {part : String}
    (relative : part.startsWith "/" = false) : trimLeadingSlashes part = part := by
  rw [← Bool.not_eq_true, Path.startsWith_slash_iff] at relative
  rw [trimLeadingSlashes, ← String.toList_inj, String.toList_ofList]
  cases chars : part.toList with
  | nil => rfl
  | cons first others =>
      have other : first ≠ '/' := by
        rintro rfl
        exact relative (by rw [chars]; rfl)
      simp [other]

def Path.stem (base : String) : String :=
  if base.isEmpty then "" else if base.endsWith "/" then base else base ++ "/"

theorem Path.join_of_relative {part : String} (base : String)
    (relative : part.startsWith "/" = false) : join base part = stem base ++ part := by
  simp only [join, stem, relative, Bool.false_or]
  split
  · exact (String.empty_append).symm
  · split
    · rfl
    · rfl

/-- The places that replacing a file may touch beside it: directories that lead to it, and its
drafts. -/
def Path.Aside (path place : String) : Prop :=
  (∃ rest, path = place ++ "/" ++ rest) ∨ ∃ mark, place = path ++ ".tmp." ++ mark

namespace DirectoryStore

variable (store : DirectoryStore) (payload : Bytes) (kind : ContentKind)

theorem relative_objectKey : (objectKey payload kind).startsWith "/" = false := by
  obtain ⟨levels, six, head, key⟩ :=
    (ContentDigest.ofBytes payload).toList_objectKey kind.extension
  rw [← Bool.not_eq_true, Path.startsWith_slash_iff, objectKey, key]
  cases levels with
  | nil => cases six
  | cons first others => exact head

theorem objectKey_injective {payload other : Bytes} {kind kind' : ContentKind}
    (same : objectKey payload kind = objectKey other kind') :
    Digest.sha256 payload = Digest.sha256 other ∧ kind = kind' := by
  obtain ⟨digests, extensions⟩ := ContentDigest.objectKey_injective same
  exact ⟨congrArg ContentDigest.bytes digests, ContentKind.extension_injective extensions⟩

def place : String := Path.join store.root (objectKey payload kind)

theorem place_eq : store.place payload kind = Path.stem store.root ++ objectKey payload kind :=
  Path.join_of_relative store.root (relative_objectKey payload kind)

def front : String :=
  match store.publicBaseUrl with
  | some base => Url.trimTrailingSlashes base ++ "/"
  | none => "file://" ++ Path.stem store.root

/-- The path of the object that a locator names: what the locator says behind the address under
which the directory is published, seen from the directory. -/
def path? (link : Locator) : Option String :=
  if store.front.toList <+: link.toList then
    some (Path.join store.root (.ofList (link.toList.drop store.front.toList.length)))
  else none

theorem locator_objectKey :
    store.locator (objectKey payload kind) = store.front ++ objectKey payload kind := by
  have relative := relative_objectKey payload kind
  unfold locator front
  cases store.publicBaseUrl with
  | none => simp only [Path.join_of_relative _ relative, String.append_assoc]
  | some base => simp only [Url.join, Url.trimLeadingSlashes_of_relative relative]

theorem path?_locator :
    store.path? (store.locator (objectKey payload kind)) = some (store.place payload kind) := by
  rw [path?, locator_objectKey, String.toList_append, if_pos (List.prefix_append _ _),
    List.drop_left, String.ofList_toList, place]

theorem locator_injective {payload other : Bytes} {kind kind' : ContentKind}
    (same : store.locator (objectKey payload kind) = store.locator (objectKey other kind')) :
    Digest.sha256 payload = Digest.sha256 other ∧ kind = kind' := by
  rw [locator_objectKey, locator_objectKey] at same
  exact objectKey_injective (String.append_right_inj _ |>.mp same)

theorem place_not_aside (other : Bytes) (kind' : ContentKind) :
    ¬ Path.Aside (store.place payload kind) (store.place other kind') := by
  obtain ⟨levels, six, _, key⟩ :=
    (ContentDigest.ofBytes payload).toList_objectKey kind.extension
  have long := (ContentDigest.ofBytes payload).length_objectKey kind.extension
  have long' := (ContentDigest.ofBytes other).length_objectKey kind'.extension
  rw [place_eq, place_eq]
  rintro (⟨rest, inside⟩ | ⟨mark, beside⟩)
  · rw [String.append_assoc, String.append_assoc] at inside
    have chars := congrArg String.toList (String.append_right_inj _ |>.mp inside)
    have slash : '/' ∈ (objectKey payload kind).toList.drop 6 := by
      have reach : 6 ≤ (objectKey other kind').toList.length := by
        rw [objectKey, long']
        omega
      rw [chars, String.toList_append, List.drop_append_of_le_length reach]
      simp
    rw [objectKey, key, ← six, List.drop_left] at slash
    rcases List.mem_append.mp slash with digit | ending
    · exact Bytes.slash_not_mem_hex _ digit
    · exact kind.slash_not_mem_extension ((List.mem_cons.mp ending).resolve_left (by decide))
  · rw [String.append_assoc, String.append_assoc] at beside
    have chars := congrArg String.toList (String.append_right_inj _ |>.mp beside)
    have lengths := congrArg List.length chars
    simp only [objectKey, String.toList_append, List.length_append] at lengths
    rw [long, long'] at lengths
    have least := kind.length_extension.1
    have most := kind'.length_extension.2
    have dot : (".tmp.").toList.length = 5 := rfl
    omega

end DirectoryStore

end Cadastre
