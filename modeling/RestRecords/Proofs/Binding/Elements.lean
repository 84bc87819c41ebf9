import RestRecords.Proofs.Binding.Instances
/-!
# The elements of a collection

Raw data of a collection spell one list of elements, and nothing else of them counts. Each element
becomes the item at its position, and the first that cannot be bound is the failure of them all: what
binds to nothing is refused and not left out.
-/

namespace RestRecords

/-- Whether raw data have a content: the entry of a map that goes by the collection's name, if that is
the name of contents, and otherwise the data as a whole. -/
inductive HasContent (name : String) : Json → Json → Prop where
  | entry {entries : List (String × Json)} {content : Json} (named : name = contentName)
    (given : Json.entry? entries contentName = some content) :
    HasContent name (.obj entries) content
  | whole {raw : Json} (bare : ∀ entries content, raw = .obj entries → name = contentName →
      Json.entry? entries contentName ≠ some content) : HasContent name raw raw

/-- Whether a content spells a list of elements: null the empty one, a list itself, and anything else
the list of it alone. -/
inductive Spells : Json → List Json → Prop where
  | null : Spells .null []
  | list (elements : List Json) : Spells (.arr elements) elements
  | single {content : Json} (given : content ≠ .null)
    (alone : ∀ elements, content ≠ .arr elements) : Spells content [content]

def HasElements (name : String) (raw : Json) (elements : List Json) : Prop :=
  ∃ content, HasContent name raw content ∧ Spells content elements

def StandsForDefaults (kind : Kind) (raw : Json) (ref : EntityRef) : Prop :=
  kind = .entity ref ∧ raw = .null

inductive BindsElement (Δ : Catalog) (kind : Kind) (i : Nat) (raw : Json) : FieldValue → Prop where
  | defaults {ref : EntityRef} {r : Record} (null : StandsForDefaults kind raw ref)
    (made : (Record.initial Δ ref).outcome = .ok r) : BindsElement Δ kind i raw (.ofRecord r)
  | bound {v : FieldValue} (given : ∀ ref, ¬StandsForDefaults kind raw ref)
    (made : (Bind.asKind Δ (.index i) kind false raw).outcome = .ok (some v)) :
    BindsElement Δ kind i raw v

/-- Whether the element at `i` cannot be bound: because its defaults have no end, it cannot be bound
as the kind, or it is bound to nothing. -/
inductive RefusesElement (Δ : Catalog) (kind : Kind) (i : Nat) (raw : Json) : Failure → Prop where
  | defaults {ref : EntityRef} {failure : Failure} (null : StandsForDefaults kind raw ref)
    (failed : (Record.initial Δ ref).outcome = .error failure) : RefusesElement Δ kind i raw failure
  | failed {failure : Failure} (given : ∀ ref, ¬StandsForDefaults kind raw ref)
    (failed : (Bind.asKind Δ (.index i) kind false raw).outcome = .error failure) :
    RefusesElement Δ kind i raw failure
  | nothing (given : ∀ ref, ¬StandsForDefaults kind raw ref)
    (made : (Bind.asKind Δ (.index i) kind false raw).outcome = .ok none) :
    RefusesElement Δ kind i raw (.error (Bind.fault (.index i) kind (.invalidValue raw)))

/-- Whether the element at `i` cannot be bound for an error: the one with which it cannot be bound as
the kind, or the one for data that are bound to nothing. -/
inductive ElementError (Δ : Catalog) (kind : Kind) (i : Nat) (raw : Json) : Error → Prop where
  | failed {e : Error} (given : ∀ ref, ¬StandsForDefaults kind raw ref)
    (failed : (Bind.asKind Δ (.index i) kind false raw).outcome = Outcome.fail e) :
    ElementError Δ kind i raw e
  | nothing (given : ∀ ref, ¬StandsForDefaults kind raw ref)
    (made : (Bind.asKind Δ (.index i) kind false raw).outcome = .ok none) :
    ElementError Δ kind i raw (Bind.fault (.index i) kind (.invalidValue raw))

variable {Δ : Catalog}

/-! ## The list of elements -/

theorem spells_iff {content : Json} {elements : List Json} :
    Spells content elements ↔
      elements = match content with
        | .null => []
        | .arr items => items
        | single => [single] := by
  constructor
  · intro h
    cases h with
    | null => rfl
    | list => rfl
    | single given alone =>
      cases content with
      | null => exact absurd rfl given
      | arr items => exact absurd rfl (alone items)
      | _ => rfl
  · rintro rfl
    cases content with
    | null => exact .null
    | arr items => exact .list items
    | _ => exact .single nofun nofun

theorem hasContent_iff {name : String} {raw content : Json} :
    HasContent name raw content ↔
      content = match raw with
        | .obj entries =>
          if name = contentName then (Json.entry? entries contentName).getD raw else raw
        | _ => raw := by
  cases raw with
  | obj entries =>
    show _ ↔ content =
      if name = contentName then (Json.entry? entries contentName).getD (.obj entries)
      else .obj entries
    constructor
    · intro h
      cases h with
      | entry named given => rw [if_pos named, given, Option.getD_some]
      | whole bare =>
        split
        · rename_i named
          cases hentry : Json.entry? entries contentName with
          | none => rfl
          | some inner => exact absurd hentry (bare entries inner rfl named)
        · rfl
    · rintro rfl
      split
      · rename_i named
        cases hentry : Json.entry? entries contentName with
        | none =>
          refine .whole fun _ _ hentries _ => ?_
          cases hentries
          rw [hentry]
          exact nofun
        | some inner => exact .entry named hentry
      · rename_i named
        exact .whole fun _ _ _ hname => absurd hname named
  | _ =>
    constructor
    · rintro ⟨⟩
      rfl
    · rintro rfl
      exact .whole nofun

theorem hasElements_iff {name : String} {raw : Json} {elements : List Json} :
    HasElements name raw elements ↔ elements = Bind.elements name raw := by
  unfold HasElements
  simp only [hasContent_iff, exists_eq_left]
  exact spells_iff

-- A content that has a content itself is unwrapped once.
example : HasElements contentName (.obj [(contentName, .obj [(contentName, .null)])])
    [.obj [(contentName, .null)]] :=
  hasElements_iff.2 rfl

/-! ## Element by element -/

namespace Bind

theorem outcome_element_eq_ok_iff {kind : Kind} {i : Nat} {raw : Json} {v : FieldValue} :
    (element Δ (asElement Δ kind) kind i raw).outcome = .ok v ↔ BindsElement Δ kind i raw v := by
  unfold element
  split
  · rename_i ref
    rw [Traced.outcome_bind_eq_ok_iff]
    constructor
    · rintro ⟨r, made, hv⟩
      cases hv
      exact .defaults ⟨rfl, rfl⟩ made
    · intro h
      cases h with
      | defaults null made =>
        cases null.1
        exact ⟨_, made, rfl⟩
      | bound given => exact absurd ⟨rfl, rfl⟩ (given ref)
  · rename_i hgiven
    rw [Traced.outcome_bind_eq_ok_iff]
    constructor
    · rintro ⟨bound, made, hv⟩
      cases bound with
      | none => cases hv
      | some w =>
        cases hv
        exact .bound (fun ref h => hgiven ref h.1 h.2) made
    · intro h
      cases h with
      | defaults null => exact absurd null.2 (hgiven _ null.1)
      | bound _ made => exact ⟨some v, made, rfl⟩

theorem outcome_element_eq_error_iff {kind : Kind} {i : Nat} {raw : Json} {failure : Failure} :
    (element Δ (asElement Δ kind) kind i raw).outcome = .error failure ↔
      RefusesElement Δ kind i raw failure := by
  unfold element
  split
  · rename_i ref
    rw [Traced.outcome_bind_eq_error_iff]
    constructor
    · rintro (failed | ⟨r, -, h⟩)
      · exact .defaults ⟨rfl, rfl⟩ failed
      · cases h
    · intro h
      cases h with
      | defaults null failed =>
        cases null.1
        exact .inl failed
      | failed given => exact absurd ⟨rfl, rfl⟩ (given ref)
      | nothing given => exact absurd ⟨rfl, rfl⟩ (given ref)
  · rename_i hgiven
    have hother : ∀ ref, ¬StandsForDefaults kind raw ref := fun ref h => hgiven ref h.1 h.2
    rw [Traced.outcome_bind_eq_error_iff]
    constructor
    · rintro (failed | ⟨bound, made, h⟩)
      · exact .failed hother failed
      · cases bound with
        | none =>
          cases h
          exact .nothing hother made
        | some w => cases h
    · intro h
      cases h with
      | defaults null => exact absurd null (hother _)
      | failed _ failed => exact .inl failed
      | nothing _ made => exact .inr ⟨none, made, rfl⟩

variable {bindElement : Nat → Json → Traced FieldValue} {raws : List Json}

theorem outcome_items_eq_ok_iff {i : Nat} {items : List FieldValue} :
    (Bind.items bindElement i raws).outcome = .ok items ↔
      items.length = raws.length ∧ ∀ k raw v, raws[k]? = some raw → items[k]? = some v →
        (bindElement (i + k) raw).outcome = .ok v := by
  induction raws generalizing i items with
  | nil =>
    constructor
    · intro h
      cases h
      exact ⟨rfl, nofun⟩
    · rintro ⟨hlength, -⟩
      rw [List.length_eq_zero_iff.1 hlength]
      rfl
  | cons raw raws ih =>
    have hshift : ∀ k, i + 1 + k = i + (k + 1) := fun k => by omega
    rw [Bind.items, Traced.outcome_bind_eq_ok_iff]
    constructor
    · rintro ⟨v, hfirst, h⟩
      obtain ⟨rest, hrest, h⟩ := Traced.outcome_bind_eq_ok_iff.1 h
      cases h
      obtain ⟨hlength, hitems⟩ := ih.1 hrest
      refine ⟨congrArg (· + 1) hlength, fun k part w hpart hw => ?_⟩
      cases k with
      | zero =>
        cases hpart
        cases hw
        exact hfirst
      | succ k =>
        rw [← hshift]
        exact hitems k part w hpart hw
    · rintro ⟨hlength, hitems⟩
      cases items with
      | nil => cases hlength
      | cons v rest =>
        have hrest : (Bind.items bindElement (i + 1) raws).outcome = .ok rest := by
          refine ih.2 ⟨Nat.succ.inj hlength, fun k part w hpart hw => ?_⟩
          rw [hshift]
          exact hitems (k + 1) part w hpart hw
        exact ⟨v, hitems 0 raw v rfl rfl, Traced.outcome_bind_eq_ok_iff.2 ⟨rest, hrest, rfl⟩⟩

/-- A list fails as its first element that fails. -/
theorem outcome_items_eq_error_iff {i : Nat} {failure : Failure} :
    (items bindElement i raws).outcome = .error failure ↔
      ∃ k raw, raws[k]? = some raw ∧ (bindElement (i + k) raw).outcome = .error failure ∧
        ∀ j < k, ∀ earlier, raws[j]? = some earlier →
          ∃ v, (bindElement (i + j) earlier).outcome = .ok v := by
  induction raws generalizing i with
  | nil => exact ⟨nofun, fun ⟨_, _, hraw, _⟩ => nomatch hraw⟩
  | cons raw raws ih =>
    have hshift : ∀ k, i + 1 + k = i + (k + 1) := fun k => by omega
    rw [items, Traced.outcome_bind_eq_error_iff]
    constructor
    · rintro (hfirst | ⟨v, hfirst, h⟩)
      · exact ⟨0, raw, rfl, hfirst, nofun⟩
      · rcases Traced.outcome_bind_eq_error_iff.1 h with hrest | ⟨_, -, h⟩
        · obtain ⟨k, part, hpart, hfails, hbefore⟩ := ih.1 hrest
          refine ⟨k + 1, part, hpart, hshift k ▸ hfails, fun j hj earlier hearlier => ?_⟩
          cases j with
          | zero =>
            cases hearlier
            exact ⟨v, hfirst⟩
          | succ j =>
            rw [← hshift]
            exact hbefore j (Nat.lt_of_succ_lt_succ hj) earlier hearlier
        · cases h
    · rintro ⟨k, part, hpart, hfails, hbefore⟩
      cases k with
      | zero =>
        cases hpart
        exact .inl hfails
      | succ k =>
        obtain ⟨v, hfirst⟩ := hbefore 0 (Nat.succ_pos k) raw rfl
        have hrest : (items bindElement (i + 1) raws).outcome = .error failure := by
          refine ih.2 ⟨k, part, hpart, (hshift k).symm ▸ hfails, fun j hj earlier hearlier => ?_⟩
          rw [hshift]
          exact hbefore (j + 1) (Nat.succ_lt_succ hj) earlier hearlier
        exact .inr ⟨v, hfirst, Traced.outcome_bind_eq_error_iff.2 (.inl hrest)⟩

end Bind

/-! ## Whole collections -/

variable {kind : Kind} {i : Nat} {raw : Json} {v : FieldValue}

theorem BindsElement.isInstance (h : BindsElement Δ kind i raw v) : Instance Δ kind v :=
  .of_element (fun _ _ _ made => (Fills.of_kindWithin made).instance_of_required)
    (Bind.outcome_element_eq_ok_iff.2 h)

theorem BindsElement.not_refuses {failure : Failure} (h : BindsElement Δ kind i raw v) :
    ¬RefusesElement Δ kind i raw failure := by
  intro hrefused
  have hok := Bind.outcome_element_eq_ok_iff.2 h
  rw [Bind.outcome_element_eq_error_iff.2 hrefused] at hok
  cases hok

/-- Where an element is refused and the run is not aborted, there is an error for it: defaults do not
fail. -/
theorem refusesElement_error_iff {e : Error} :
    RefusesElement Δ kind i raw (.error e) ↔ ElementError Δ kind i raw e := by
  constructor
  · intro h
    cases h with
    | defaults _ failed => exact absurd failed Record.outcome_initial_ne_fail
    | failed given failed => exact .failed given failed
    | nothing given made => exact .nothing given made
  · intro h
    cases h with
    | failed given failed => exact .failed given failed
    | nothing given made => exact .nothing given made

namespace Collection

variable {ref : CollectionRef}

theorem outcome_ofJson_eq_ok_iff {c : Collection} :
    (ofJson Δ ref raw).outcome = .ok c ↔
      c.ref = ref ∧ c.items.length = (Bind.elements ref.name raw).length ∧
        ∀ i part v, (Bind.elements ref.name raw)[i]? = some part → c.items[i]? = some v →
          BindsElement Δ (Δ.collection ref).element i part v := by
  unfold ofJson Bind.collection
  simp only [Traced.outcome_bind_eq_ok_iff, Bind.outcome_items_eq_ok_iff, Nat.zero_add,
    Bind.outcome_element_eq_ok_iff]
  constructor
  · rintro ⟨items, hitems, h⟩
    cases h
    exact ⟨rfl, hitems⟩
  · rintro ⟨rfl, hitems⟩
    exact ⟨c.items, hitems, rfl⟩

theorem outcome_ofJson_eq_error_iff {failure : Failure} :
    (ofJson Δ ref raw).outcome = .error failure ↔
      ∃ i part, (Bind.elements ref.name raw)[i]? = some part ∧
        RefusesElement Δ (Δ.collection ref).element i part failure ∧
        ∀ j < i, ∀ earlier, (Bind.elements ref.name raw)[j]? = some earlier →
          ∃ v, BindsElement Δ (Δ.collection ref).element j earlier v := by
  unfold ofJson Bind.collection
  simp only [Traced.outcome_bind_eq_error_iff, Bind.outcome_items_eq_error_iff, Nat.zero_add,
    Bind.outcome_element_eq_error_iff, Bind.outcome_element_eq_ok_iff]
  constructor
  · rintro (h | ⟨_, -, h⟩)
    · exact h
    · cases h
  · exact .inl

theorem exists_outcome_ofJson_iff :
    (∃ c, (ofJson Δ ref raw).outcome = .ok c) ↔
      ∀ i part, (Bind.elements ref.name raw)[i]? = some part →
        ∃ v, BindsElement Δ (Δ.collection ref).element i part v := by
  constructor
  · rintro ⟨c, hc⟩ i part hpart
    obtain ⟨-, hlength, hitems⟩ := outcome_ofJson_eq_ok_iff.1 hc
    have hi : i < c.items.length := by
      rw [hlength]
      exact (List.getElem?_eq_some_iff.1 hpart).1
    exact ⟨c.items[i], hitems i part _ hpart (List.getElem?_eq_getElem hi)⟩
  · intro hall
    cases houtcome : (ofJson Δ ref raw).outcome with
    | ok c => exact ⟨c, rfl⟩
    | error failure =>
      obtain ⟨i, part, hpart, hrefused, -⟩ := outcome_ofJson_eq_error_iff.1 houtcome
      obtain ⟨v, hbinds⟩ := hall i part hpart
      exact absurd hrefused hbinds.not_refuses

/-- Raw data have one list of elements. The collection is bound if every element binds to an instance
of the element kind, then of one item for each, at its position; and otherwise it fails as the first
element that cannot be bound, and a failure that does not abort the run is the error of that element.
Other data with the same elements are bound alike. -/
theorem ofJson_binds_each_element (Δ : Catalog) (ref : CollectionRef) (raw : Json) :
    ∃ elements, (∀ others, HasElements ref.name raw others ↔ others = elements) ∧
      ((∃ c, (ofJson Δ ref raw).outcome = .ok c) ↔
        ∀ i part, elements[i]? = some part →
          ∃ v, BindsElement Δ (Δ.collection ref).element i part v ∧
            Instance Δ (Δ.collection ref).element v ∧ v ≠ .null) ∧
      (∀ c, (ofJson Δ ref raw).outcome = .ok c ↔
        c.ref = ref ∧ c.items.length = elements.length ∧
          ∀ i part v, elements[i]? = some part → c.items[i]? = some v →
            BindsElement Δ (Δ.collection ref).element i part v) ∧
      (∀ failure, (ofJson Δ ref raw).outcome = .error failure ↔
        ∃ i part, elements[i]? = some part ∧
          RefusesElement Δ (Δ.collection ref).element i part failure ∧
          ∀ j < i, ∀ earlier, elements[j]? = some earlier →
            ∃ v, BindsElement Δ (Δ.collection ref).element j earlier v) ∧
      (∀ e, (ofJson Δ ref raw).outcome = Outcome.fail e ↔
        ∃ i part, elements[i]? = some part ∧
          ElementError Δ (Δ.collection ref).element i part e ∧
          ∀ j < i, ∀ earlier, elements[j]? = some earlier →
            ∃ v, BindsElement Δ (Δ.collection ref).element j earlier v) ∧
      ∀ other, HasElements ref.name other elements →
        ofJson Δ ref other = ofJson Δ ref raw := by
  refine ⟨Bind.elements ref.name raw, fun _ => hasElements_iff, ?_,
    fun _ => outcome_ofJson_eq_ok_iff, fun _ => outcome_ofJson_eq_error_iff, fun e => ?_, ?_⟩
  · rw [exists_outcome_ofJson_iff]
    constructor
    · intro h i part hpart
      obtain ⟨v, hv⟩ := h i part hpart
      exact ⟨v, hv, hv.isInstance, hv.isInstance.ne_null⟩
    · intro h i part hpart
      obtain ⟨v, hv, -⟩ := h i part hpart
      exact ⟨v, hv⟩
  · simp only [← refusesElement_error_iff]
    exact outcome_ofJson_eq_error_iff
  · intro other hother
    have hsame := hasElements_iff.1 hother
    rw [ofJson, ofJson, Bind.collection, Bind.collection, hsame]

end Collection

end RestRecords
