import Cadastre.Storage.Bundle
import Mathlib.Algebra.Order.Group.Nat
import Mathlib.Data.List.Basic

/-!
Bundles read from the front. A bundle alone tells how many items it has, how long each of them is,
and what its type, its payload and its digest are, so that different items make different bundles.
-/

namespace Cadastre

namespace Bytes

def ofLittleEndian : Bytes → Nat
  | [] => 0
  | byte :: rest => byte.toNat + 256 * ofLittleEndian rest

theorem ofLittleEndian_littleEndian {width n : Nat} (fits : n < 256 ^ width) :
    ofLittleEndian (littleEndian width n) = n := by
  induction width generalizing n with
  | zero =>
      rw [Nat.pow_zero] at fits
      simp [littleEndian, ofLittleEndian, Nat.lt_one_iff.mp fits]
  | succ width ih =>
      rw [Nat.pow_succ] at fits
      rw [littleEndian, ofLittleEndian, ih (Nat.div_lt_of_lt_mul (by omega)), UInt8.toNat_ofNat']
      omega

theorem ofLittleEndian_zeros (count : Nat) : ofLittleEndian (List.replicate count 0) = 0 := by
  induction count with
  | zero => rfl
  | succ count ih => simp [List.replicate_succ, ofLittleEndian, ih]

theorem ofLittleEndian_append_zeros (bytes : Bytes) (count : Nat) :
    ofLittleEndian (bytes ++ List.replicate count 0) = ofLittleEndian bytes := by
  induction bytes with
  | nil => exact ofLittleEndian_zeros count
  | cons byte rest ih => rw [List.cons_append, ofLittleEndian, ih, ofLittleEndian]

def cut? (size : Nat) (bytes : Bytes) : Option (Bytes × Bytes) :=
  if size ≤ bytes.length then some (bytes.take size, bytes.drop size) else none

theorem cut?_append {size : Nat} {part : Bytes} (length : part.length = size) (rest : Bytes) :
    cut? size (part ++ rest) = some (part, rest) := by
  subst length
  rw [cut?, if_pos (by simp), List.take_left, List.drop_left]

end Bytes

namespace Bundle

structure Header where
  size : Nat
  id : Bytes
  deriving DecidableEq, Repr

def number? (bytes : Bytes) : Option (Nat × Bytes) :=
  (Bytes.cut? fieldLength bytes).map fun (field, rest) => (Bytes.ofLittleEndian field, rest)

def headers? : Nat → Bytes → Option (List Header × Bytes)
  | 0, bytes => some ([], bytes)
  | count + 1, bytes => do
    let (size, bytes) ← number? bytes
    let (id, bytes) ← Bytes.cut? fieldLength bytes
    let (others, bytes) ← headers? count bytes
    pure (⟨size, id⟩ :: others, bytes)

def parts? : List Nat → Bytes → Option (List Bytes)
  | [], bytes => if bytes.isEmpty then some [] else none
  | size :: sizes, bytes => do
    let (part, bytes) ← Bytes.cut? size bytes
    let others ← parts? sizes bytes
    pure (part :: others)

structure Contents where
  count : Nat
  headers : List Header
  bodies : List Bytes
  deriving DecidableEq, Repr

def read? (bundle : Bytes) : Option Contents := do
  let (count, bytes) ← number? bundle
  let (headers, bytes) ← headers? count bytes
  let bodies ← parts? (headers.map Header.size) bytes
  pure ⟨count, headers, bodies⟩

def content? (body : Bytes) : Option (Bytes × Bytes) := do
  let (width, bytes) ← Bytes.cut? 2 body
  Bytes.cut? (Bytes.ofLittleEndian width) bytes

/-- The number of items and their lengths are words, as they are for any list in memory. -/
structure Countable (items : List DataItem) : Prop where
  count : items.length < 2 ^ 64
  sizes : ∀ item ∈ items, item.bodyLength < 2 ^ 64

/-- What a bundle of these items is to say. -/
structure Contents.Tells (contents : Contents) (items : List DataItem) : Prop where
  count : contents.count = items.length
  headers : contents.headers = items.map fun item => ⟨item.body.length, item.id.bytes⟩
  bodies : contents.bodies = items.map DataItem.body
  entries : contents.bodies.map content?
    = items.map fun item => some (Text.utf8 item.kind.mime, item.payload)

theorem number?_field {n : Nat} (fits : n < 2 ^ 64) (rest : Bytes) :
    number? (field n ++ rest) = some (n, rest) := by
  have value : Bytes.ofLittleEndian (field n) = n := by
    rw [field, Bytes.ofLittleEndian_append_zeros, Bytes.ofLittleEndian_littleEndian fits]
  simp only [number?, Bytes.cut?_append (length_field n), Option.map_some, value]

theorem headers?_append {items : List DataItem}
    (sizes : ∀ item ∈ items, item.bodyLength < 2 ^ 64) (rest : Bytes) :
    headers? items.length
        ((items.flatMap fun item => field item.bodyLength ++ item.id.bytes) ++ rest)
      = some (items.map fun item => ⟨item.bodyLength, item.id.bytes⟩, rest) := by
  induction items with
  | nil => rfl
  | cons item items ih =>
      obtain ⟨size, sizes⟩ := List.forall_mem_cons.mp sizes
      simp only [List.length_cons, List.flatMap_cons, List.append_assoc, headers?,
        number?_field size, Bytes.cut?_append item.id.length_bytes, ih sizes,
        Option.bind_eq_bind, Option.bind_some, List.map_cons, fieldLength]
      rfl

theorem parts?_bodies (items : List DataItem) :
    parts? (items.map DataItem.bodyLength) (items.flatMap DataItem.body)
      = some (items.map DataItem.body) := by
  induction items with
  | nil => rfl
  | cons item items ih =>
      simp only [List.map_cons, List.flatMap_cons, parts?, Bytes.cut?_append item.length_body, ih,
        Option.bind_eq_bind, Option.bind_some]
      rfl

theorem read?_encode {items : List DataItem} (countable : Countable items) :
    read? (encode items) = some ⟨items.length,
      items.map fun item => ⟨item.bodyLength, item.id.bytes⟩, items.map DataItem.body⟩ := by
  have sizes :
      (items.map fun item => (⟨item.bodyLength, item.id.bytes⟩ : Header)).map Header.size
        = items.map DataItem.bodyLength := List.map_map
  rw [read?, encode, head, List.append_assoc, number?_field countable.count]
  simp only [Option.bind_eq_bind, Option.bind_some, headers?_append countable.sizes, sizes,
    parts?_bodies]
  rfl

theorem length_mimeBytes (item : DataItem) : item.mimeBytes.length < 256 ^ 2 := by
  rw [DataItem.mimeBytes]
  cases item.kind <;> decide

theorem content?_body (item : DataItem) :
    content? item.body = some (Text.utf8 item.kind.mime, item.payload) := by
  have width := Bytes.ofLittleEndian_littleEndian (length_mimeBytes item)
  simp only [content?, DataItem.body, List.append_assoc,
    Bytes.cut?_append (Bytes.length_littleEndian 2 _), Option.bind_eq_bind, Option.bind_some, width,
    Bytes.cut?_append rfl]
  rfl

theorem exists_tells {items : List DataItem} (countable : Countable items) :
    ∃ contents, read? (encode items) = some contents ∧ contents.Tells items := by
  refine ⟨_, read?_encode countable, rfl, ?_, rfl, ?_⟩
  · simp only [DataItem.length_body]
  · rw [List.map_map]
    exact List.map_congr_left fun item _ => content?_body item

theorem mime_injective {first second : ContentKind}
    (same : Text.utf8 first.mime = Text.utf8 second.mime) : first = second := by
  revert same
  cases first <;> cases second <;> decide

theorem body_injective {first second : DataItem} (same : first.body = second.body) :
    first = second := by
  have entries := content?_body first
  rw [same, content?_body second] at entries
  obtain ⟨mimes, payloads⟩ := Prod.mk.inj (Option.some.inj entries)
  obtain ⟨kind, payload⟩ := first
  cases mime_injective mimes
  cases payloads
  rfl

theorem encode_injective {items others : List DataItem} (countable : Countable items)
    (countable' : Countable others) (same : encode items = encode others) : items = others := by
  have contents := read?_encode countable
  rw [same, read?_encode countable'] at contents
  have bodies := congrArg Contents.bodies (Option.some.inj contents)
  exact (List.map_injective_iff.mpr (fun _ _ => body_injective) bodies).symm

/-- A bundle is as long as it was planned to be, it says by itself what is in it, and no other
items make the same bundle. -/
theorem encode_unambiguous (items : List DataItem) :
    (encode items).length = length items ∧
    (Countable items →
      (∃ contents, read? (encode items) = some contents ∧ contents.Tells items) ∧
      ∀ others, Countable others → encode items = encode others → items = others) :=
  ⟨length_encode items, fun countable =>
    ⟨exists_tells countable, fun _ countable' => encode_injective countable countable'⟩⟩

/-- A byte that goes from one payload to the next is noticed, though all payloads together are the
same bytes. -/
theorem moved_byte_changes_bundle :
    let items : List DataItem := [⟨.image, [1, 2]⟩, ⟨.image, []⟩, ⟨.metadata, [3]⟩]
    let others : List DataItem := [⟨.image, [1]⟩, ⟨.image, [2]⟩, ⟨.metadata, [3]⟩]
    Countable items ∧ Countable others ∧
      (∃ contents, read? (encode items) = some contents ∧ contents.Tells items) ∧
      encode items ≠ encode others := by
  intro items others
  have countable : Countable items := ⟨by decide, by decide⟩
  have countable' : Countable others := ⟨by decide, by decide⟩
  obtain ⟨told, apart⟩ := (encode_unambiguous items).2 countable
  exact ⟨countable, countable', told,
    fun same => absurd (apart others countable' same) (by decide)⟩

end Bundle

end Cadastre
