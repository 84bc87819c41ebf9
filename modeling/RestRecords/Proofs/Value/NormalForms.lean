import RestRecords.Contact
import RestRecords.Proofs.Binding.RoundTrip
/-!
# Normal forms of named values

Where the normal form of a scalar is a scalar in normal form, a named value holds one at all times,
whatever raw data it is given: data that are refused leave it as it is. It is read back as itself,
from its payload and from the map it is stored as.
-/

namespace RestRecords

open Text

/-- Whether the normal forms of scalars are scalars, and are their own normal forms. -/
def ValueSchema.HasNormalForms (schema : ValueSchema) : Prop :=
  ∀ raw payload, raw.IsScalar → schema.normalize raw = .ok payload →
    payload.IsScalar ∧ schema.normalize payload = .ok payload

namespace NamedValue

/-- The value after it was given raw data: the same one where they are refused. -/
def after (v : NamedValue) (raw : Json) : NamedValue :=
  (v.update raw).toOption.getD v

def afterAll (v : NamedValue) (raws : List Json) : NamedValue :=
  raws.foldl after v

/-- What holds of a value of a type at all times, where `first` is what it was made as. -/
structure IsSettled (schema : ValueSchema) (v first : NamedValue) : Prop where
  scalar : v.payload.IsScalar
  normal : schema.normalize v.payload = .ok v.payload
  ofMap : ofJson schema v.toJson = .ok v
  ofPayload : ofJson schema v.payload = .ok v
  same : v.same v = true
  refused : ∀ raw e, v.update raw = .error e → v.after raw = v
  replaced : ∀ raw w, v.update raw = .ok w → v.after raw = w ∧ ofJson schema raw = .ok w
  readOnly : schema.readOnly = true → v.payload = first.payload

end NamedValue

/-! ## The types of contact data -/

namespace Text

/-- A text whose ends are stripped has no more to strip. -/
theorem strip_strip (p : Char → Bool) (cs : List Char) : strip p (strip p cs) = strip p cs := by
  have hfirst : ∀ c ∈ (cs.dropWhile p).head?, ¬p c := by
    intro c hc
    have hstop := List.head?_dropWhile_not p cs
    simpa [Option.mem_def.1 hc] using hstop
  have hlast : ∀ c ∈ ((cs.dropWhile p).reverse.dropWhile p).head?, ¬p c := by
    intro c hc
    have hstop := List.head?_dropWhile_not p (cs.dropWhile p).reverse
    simpa [Option.mem_def.1 hc] using hstop
  apply strip_eq_self
  · -- What is left begins as the text did, unless nothing is left.
    intro c hc
    obtain ⟨tail, htail⟩ : strip p cs <+: cs.dropWhile p := by
      have hsuffix := List.dropWhile_suffix p (l := (cs.dropWhile p).reverse)
      simpa [strip] using List.reverse_prefix.2 hsuffix
    apply hfirst
    rw [← htail, List.head?_append, Option.mem_def.1 hc]
    rfl
  · simpa [strip] using hlast

theorem trim_trim (cs : List Char) : trim (trim cs) = trim cs :=
  strip_strip isBlank cs

end Text

theorem Contact.hasNormalForms_id : Contact.id.HasNormalForms := by
  intro raw payload hraw h
  change normalizeId raw = .ok payload at h
  change payload.IsScalar ∧ normalizeId payload = .ok payload
  cases raw with
  | arr => cases hraw
  | obj => cases hraw
  | str s =>
    cases hread : readSigned64? (trim s.toList) with
    | some n =>
      simp only [normalizeId, hread] at h
      cases h
      exact ⟨trivial, rfl⟩
    | none =>
      simp only [normalizeId, hread] at h
      cases h
      exact ⟨trivial, by simp only [normalizeId, hread]⟩
  | _ =>
    cases h
    exact ⟨trivial, rfl⟩

theorem Contact.hasNormalForms_emailAddress : Contact.emailAddress.HasNormalForms := by
  intro raw payload _ h
  change normalizeEmail raw = .ok payload at h
  change payload.IsScalar ∧ normalizeEmail payload = .ok payload
  cases raw with
  | null =>
    cases h
    exact ⟨trivial, rfl⟩
  | str s =>
    cases h
    refine ⟨trivial, ?_⟩
    rw [normalizeEmail, String.toList_ofList, trim_trim]
  | _ => cases h

namespace NamedValue

variable {schema : ValueSchema} {v first : NamedValue}

/-! ## One change -/

theorem after_of_ok {raw : Json} {w : NamedValue} (h : v.update raw = .ok w) : v.after raw = w := by
  rw [after, h]
  rfl

theorem after_of_error {raw : Json} {e : Error} (h : v.update raw = .error e) :
    v.after raw = v := by
  rw [after, h]
  rfl

theorem update_of_readOnly (hlocked : v.schema.readOnly = true) (raw : Json) :
    v.update raw = .error (.readOnly (.value v.schema.name)) := by
  rw [update, if_pos hlocked]

theorem ofJson_of_update {raw : Json} {w : NamedValue} (h : v.update raw = .ok w) :
    ofJson v.schema raw = .ok w := by
  unfold update at h
  split at h
  · cases h
  · exact h

theorem exists_ofJson_after {raw : Json} (h : ofJson schema raw = .ok v) (next : Json) :
    ∃ raw', ofJson schema raw' = .ok (v.after next) := by
  cases hnext : v.update next with
  | ok w =>
    have hschema : v.schema = schema := schema_of_named h
    exact ⟨next, by rw [after_of_ok hnext, ← hschema, ofJson_of_update hnext]⟩
  | error e => exact ⟨raw, by rw [after_of_error hnext, h]⟩

/-! ## All changes -/

theorem exists_ofJson_afterAll {raw : Json} (h : ofJson schema raw = .ok v) (raws : List Json) :
    ∃ raw', ofJson schema raw' = .ok (v.afterAll raws) := by
  induction raws generalizing v raw with
  | nil => exact ⟨raw, h⟩
  | cons next raws ih =>
    obtain ⟨raw', h'⟩ := exists_ofJson_after h next
    exact ih h'

theorem afterAll_of_readOnly (hlocked : v.schema.readOnly = true) (raws : List Json) :
    v.afterAll raws = v := by
  induction raws with
  | nil => rfl
  | cons next raws ih =>
    rw [afterAll, List.foldl_cons, after_of_error (update_of_readOnly hlocked next)]
    exact ih

/-- A payload in normal form is read back from the map it is stored as. -/
theorem ofJson_toJson (hscalar : v.payload.IsScalar)
    (hnormal : v.schema.normalize v.payload = .ok v.payload) :
    ofJson v.schema v.toJson = .ok v := by
  obtain ⟨schema, payload⟩ := v
  have hread : unwrap schema (toJson ⟨schema, payload⟩) = .ok payload := by
    cases payload with
    | arr => cases hscalar
    | obj => cases hscalar
    | null => rfl
    | _ => simp [toJson, Json.isNull, unwrap, unwrap.scalar]
  have hform : schema.normalize payload = .ok payload := hnormal
  simp only [ofJson, prepare, hread, hform, Except.map]

/-- Identifiers and e-mail addresses have normal forms. A value of a type that has them, after any
raw data, holds a scalar in normal form, is read back as itself, is what the data it took in last
give and what it was where they were refused, and is as it was made if it may not be changed. -/
theorem isSettled_afterAll :
    (Contact.id.HasNormalForms ∧ Contact.emailAddress.HasNormalForms) ∧
      ∀ schema : ValueSchema, schema.HasNormalForms → ∀ raw first, ofJson schema raw = .ok first →
        ∀ raws, (first.afterAll raws).IsSettled schema first := by
  refine ⟨⟨Contact.hasNormalForms_id, Contact.hasNormalForms_emailAddress⟩, ?_⟩
  intro schema hnormals raw first hfirst raws
  obtain ⟨raw', hmade⟩ := exists_ofJson_afterAll hfirst raws
  obtain ⟨scalar, hscalar, hpayload⟩ := exists_normalize_eq hmade
  have hschema : (first.afterAll raws).schema = schema := schema_of_named hmade
  obtain ⟨hkept, hnormal⟩ := hnormals scalar _ hscalar hpayload
  refine ⟨hkept, hnormal, ?_, ?_, ?_, fun _ _ => after_of_error, fun next w hnext => ?_,
    fun hlocked => ?_⟩
  · subst hschema
    exact ofJson_toJson hkept hnormal
  · have hregular : (Kind.value schema).IsRegular ⟨[], []⟩ := hnormals
    exact ofJson_payload hregular hmade
  · simp [same, Json.equal_self]
  · exact ⟨after_of_ok hnext, hschema ▸ ofJson_of_update hnext⟩
  · rw [afterAll_of_readOnly (by rwa [schema_of_named hfirst])]

/-- An identifier that takes in the second of three data: a list and another name are refused. -/
theorem isSettled_afterAll_id :
    ofJson Contact.id (.obj [("id", .str " 12 ")]) = .ok ⟨Contact.id, .int 12⟩ ∧
      (afterAll ⟨Contact.id, .int 12⟩
        [.arr [], .str "-7\n", .obj [("name", .null)]]).payload = .int (-7) ∧
      (afterAll ⟨Contact.id, .int 12⟩
        [.arr [], .str "-7\n", .obj [("name", .null)]]).IsSettled Contact.id
          ⟨Contact.id, .int 12⟩ := by
  have hmade : ofJson Contact.id (.obj [("id", .str " 12 ")]) = .ok ⟨Contact.id, .int 12⟩ := rfl
  obtain ⟨⟨hid, -⟩, hsettled⟩ := isSettled_afterAll
  exact ⟨hmade, rfl, hsettled Contact.id hid _ _ hmade _⟩

end NamedValue

end RestRecords
