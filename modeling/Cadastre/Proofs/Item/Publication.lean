import Cadastre.Proofs.Item.Manifest
import Cadastre.Proofs.Json.Entries

/-!
What becomes of a manifest's document when it is published. All that the document says beside its
image and its files is said by the published one too, and nothing else is added.
-/

namespace Cadastre

open Json

namespace Manifest

def propertiesIn (document : Document) : Document :=
  (document.member? "properties").getD (.object [])

def symbolIn (document : Document) : Option (Option String) :=
  (document.member? "symbol").elim (some none) (Document.nullable? Document.text?)

def creatorsIn (document : Document) : Option (List Creator) :=
  ((propertiesIn document).member? "creators").elim (some []) (Document.list? Creator.read?)

/-- What publishing keeps of a document. -/
structure Retains (manifest : Manifest) (input output : Document) : Prop where
  others : ∀ key ∉ ["name", "symbol", "seller_fee_basis_points", "image", "properties"],
    Document.Agree (greatestDepth - 1) input output key
  properties : ∀ key ∉ ["creators", "files"],
    Document.Agree (greatestDepth - 2) (propertiesIn input) (propertiesIn output) key
  name : Document.Agree (greatestDepth - 1) input output "name"
  fee : Document.Agree (greatestDepth - 1) input output "seller_fee_basis_points"
  symbol : symbolIn input = some manifest.symbol ∧ symbolIn output = some manifest.symbol
  creators : creatorsIn input = some manifest.properties.creators ∧
    creatorsIn output = some manifest.properties.creators

/-- The published manifest can be read, is for the same item, and retains what was in the bytes that
the manifest was read from. -/
structure Publishes (bytes : Bytes) (manifest : Manifest) (link : Locator) : Prop where
  returns : read (manifest.withImage link).bytes = .ok (manifest.withImage link)
  index : (manifest.withImage link).globalIndex = manifest.globalIndex
  retains : ∃ input output, Document.read? bytes = some input ∧
    Document.read? (manifest.withImage link).bytes = some output ∧ manifest.Retains input output

end Manifest

namespace ManifestProperties

variable {depth : Nat} {document : Document} {properties : ManifestProperties}

theorem plain_fields : ∀ field ∈ fields, field.aliases = [] := by decide

structure SaidBy (depth : Nat) (properties : ManifestProperties) (document : Document) : Prop where
  creators : (document.member? "creators").elim (some []) (Document.list? Creator.read?)
    = some properties.creators
  others : ∀ key ∉ fields.map Field.name, document.Says depth key (properties.extra.get? key)

theorem saidBy_of_read? (read : read? depth document = some properties) :
    properties.SaidBy depth document := by
  obtain ⟨members, named, read⟩ := Option.bind_eq_some_iff.mp read
  obtain ⟨form, filled, read⟩ := Option.bind_eq_some_iff.mp read
  obtain ⟨creators, created, read⟩ := Option.bind_eq_some_iff.mp read
  obtain ⟨files, _, read⟩ := Option.bind_eq_some_iff.mp read
  obtain ⟨extra, kept, read⟩ := Option.bind_eq_some_iff.mp read
  cases read
  have entry (key : String) : document.member? key = last? members key := by
    rw [Document.member?, named, Option.bind_some]
  constructor
  · rw [entry, Form.get?_of_ofMembers? plain_fields filled (by decide), ← created, Form.orDefault]
    cases form.get? "creators" <;> rfl
  · intro key unnamed
    rw [Document.Says, entry]
    exact Form.get?_of_extra? kept (Form.answersTo_eq_false plain_fields unnamed)

end ManifestProperties

namespace Manifest

variable {document input output : Document} {manifest : Manifest} {bytes : Bytes}

theorem plain_fields : ∀ field ∈ fields, field.aliases = [] := by decide

structure SaidBy (manifest : Manifest) (document : Document) : Prop where
  name : document.Says (greatestDepth - 1) "name" (some (.string manifest.name))
  symbol : symbolIn document = some manifest.symbol
  fee : document.Says (greatestDepth - 1) "seller_fee_basis_points"
    (some (.nat manifest.sellerFee.toNat))
  properties : manifest.properties.SaidBy (greatestDepth - 2) (propertiesIn document)
  others : ∀ key ∉ fields.map Field.name,
    document.Says (greatestDepth - 1) key (manifest.extra.get? key)

theorem saidBy_of_ofDocument? (read : ofDocument? document = some manifest) :
    manifest.SaidBy document := by
  obtain ⟨members, listed, read⟩ := Option.bind_eq_some_iff.mp read
  obtain ⟨form, filled, read⟩ := Option.bind_eq_some_iff.mp read
  obtain ⟨name, named, read⟩ := Option.bind_eq_some_iff.mp read
  obtain ⟨symbol, marked, read⟩ := Option.bind_eq_some_iff.mp read
  obtain ⟨fee, charged, read⟩ := Option.bind_eq_some_iff.mp read
  obtain ⟨image, _, read⟩ := Option.bind_eq_some_iff.mp read
  obtain ⟨properties, described, read⟩ := Option.bind_eq_some_iff.mp read
  obtain ⟨extra, kept, read⟩ := Option.bind_eq_some_iff.mp read
  cases read
  have entry (key : String) : document.member? key = last? members key := by
    rw [Document.member?, listed, Option.bind_some]
  have field {key : String} (known : key ∈ fields.map Field.name) :
      document.member? key = form.get? key := by
    rw [entry, Form.get?_of_ofMembers? plain_fields filled known]
  constructor
  · obtain ⟨said, found, text⟩ := Option.bind_eq_some_iff.mp named
    rw [Document.Says, field (by decide), found, Option.map_some, Document.settle?_of_text? text]
    rfl
  · rw [symbolIn, field (by decide), ← marked, Form.orDefault]
    cases form.get? "symbol" <;> rfl
  · obtain ⟨said, found, number⟩ := Option.bind_eq_some_iff.mp charged
    obtain ⟨small, settled⟩ := Document.settle?_of_natural? number
    have exact : (UInt16.ofNat fee).toNat = fee := UInt16.toNat_ofNat_of_lt' small
    rw [Document.Says, field (by decide), found, Option.map_some, settled, exact]
    rfl
  · rw [propertiesIn, field (by decide)]
    apply ManifestProperties.saidBy_of_read?
    rw [← described, Form.orDefault]
    cases form.get? "properties" <;> rfl
  · intro key unnamed
    rw [Document.Says, entry]
    exact Form.get?_of_extra? kept (Form.answersTo_eq_false plain_fields unnamed)

theorem retains_of_saidBy {published : Manifest} (before : manifest.SaidBy input)
    (after : published.SaidBy output) (name : published.name = manifest.name)
    (symbol : published.symbol = manifest.symbol) (fee : published.sellerFee = manifest.sellerFee)
    (creators : published.properties.creators = manifest.properties.creators)
    (inner : published.properties.extra = manifest.properties.extra)
    (outer : published.extra = manifest.extra) : manifest.Retains input output where
  others key unnamed := (before.others key unnamed).agree (outer ▸ after.others key unnamed)
  properties key unnamed := (before.properties.others key unnamed).agree
    (inner ▸ after.properties.others key unnamed)
  name := before.name.agree (name ▸ after.name)
  fee := before.fee.agree (fee ▸ after.fee)
  symbol := ⟨before.symbol, symbol ▸ after.symbol⟩
  creators := ⟨before.properties.creators, creators ▸ after.properties.creators⟩

theorem exists_saidBy_of_read (accepted : read bytes = .ok manifest) :
    ∃ document, Document.read? bytes = some document ∧ manifest.SaidBy document := by
  obtain ⟨found, _⟩ := (read_eq_ok_iff bytes manifest).mp accepted
  obtain ⟨document, read, found⟩ := Option.bind_eq_some_iff.mp found
  exact ⟨document, read, saidBy_of_ofDocument? found⟩

/-- A manifest is published without loss if writing spoils none of its numbers. -/
theorem publishes_of_read (accepted : read bytes = .ok manifest) (lasting : manifest.Lasting)
    (link : Locator) : Publishes bytes manifest link := by
  have returns : read (manifest.withImage link).bytes = .ok (manifest.withImage link) :=
    ((sound_of_read accepted).withImage link).read_bytes_iff.mpr
      ((manifest.lasting_withImage link).mpr lasting)
  obtain ⟨input, read, before⟩ := exists_saidBy_of_read accepted
  obtain ⟨output, read', after⟩ := exists_saidBy_of_read returns
  exact ⟨returns, rfl, input, output, read, read',
    retains_of_saidBy before after rfl rfl rfl rfl rfl rfl⟩

theorem publishes_with_unknown_members :
    ∃ (bytes : Bytes) (manifest : Manifest), bytes = Text.utf8
        ("\x7b\"name\":\"Land #007\",\"rank\":1,\"symbol\":null,\"seller_fee_basis_points\":500," ++
          "\"rank\":[2.5,\x7b\"of\":\"three\"\x7d],\"properties\":\x7b\"category\":\"image\"," ++
          "\"creators\":[\x7b\"address\":\"a\",\"share\":100\x7d]\x7d\x7d") ∧
      read bytes = .ok manifest ∧ manifest.Lasting ∧
      Publishes bytes manifest "https://gateway.test/7" := by
  let bytes := Text.utf8
    ("\x7b\"name\":\"Land #007\",\"rank\":1,\"symbol\":null,\"seller_fee_basis_points\":500," ++
      "\"rank\":[2.5,\x7b\"of\":\"three\"\x7d],\"properties\":\x7b\"category\":\"image\"," ++
      "\"creators\":[\x7b\"address\":\"a\",\"share\":100\x7d]\x7d\x7d")
  have lasts : (read bytes).toOption.map (fun manifest => decide manifest.Lasting) = some true := by
    decide +kernel
  cases accepted : read bytes with
  | error fault => simp [accepted, Except.toOption] at lasts
  | ok manifest =>
      simp only [accepted, Except.toOption, Option.map_some, Option.some.injEq,
        decide_eq_true_eq] at lasts
      exact ⟨bytes, manifest, rfl, accepted, lasts, publishes_of_read accepted lasts _⟩

end Manifest

end Cadastre
