import RestRecords.Proofs.Binding.RoundTrip
/-!
# Validity of what was stored

An entity that is stored and bound again has the failures it had before, in their order. What storing
drops is neither checked nor missing, and the rules of fields see values that are equal.
-/

namespace RestRecords

def FieldSpec.RespectsEquality (f : FieldSpec) : Prop :=
  ∀ check, f.check = some check → ∀ v w : FieldValue, v.equal w = true → check v = check w

/-- Whether the rules of all fields that the declaration of a kind leads to respect equality. -/
def Kind.RulesRespectEquality (Δ : Catalog) (kind : Kind) : Prop :=
  ∀ ref, kind.Reaches Δ (.entity ref) → ∀ f ∈ (Δ.entity ref).fields, f.RespectsEquality

open FieldValue

variable {Δ : Catalog}

theorem Kind.RulesRespectEquality.field {ref : EntityRef}
    (h : (Kind.entity ref).RulesRespectEquality Δ) {f : FieldSpec} {i : Nat}
    (hf : (Δ.entity ref).fields[i]? = some f) :
    ((Δ.entity ref).bindingKind f).RulesRespectEquality Δ :=
  fun other hother => h other (.field (List.mem_of_getElem? hf) hother)

theorem Kind.RulesRespectEquality.element {ref : CollectionRef}
    (h : (Kind.collection ref).RulesRespectEquality Δ) :
    (Δ.collection ref).element.RulesRespectEquality Δ :=
  fun other hother => h other (.element hother)

theorem FieldSpec.RespectsEquality.ruleErrors_eq {f : FieldSpec} (h : f.RespectsEquality)
    {v w : FieldValue} (hequal : v.equal w = true) : ruleErrors f v = ruleErrors f w := by
  unfold ruleErrors
  cases hcheck : f.check with
  | none => rfl
  | some check => rw [Option.bind_some, Option.bind_some, h check hcheck v w hequal]

/-- Slots have the failures of their compact ones, if null is only where it may be, and the values
that are kept have the same failures. -/
theorem slotErrors_compactSlots {fields : List FieldSpec} {slots : Slots}
    (hlength : slots.length = fields.length)
    (hnulls : ∀ (i : Nat) (f : FieldSpec), fields[i]? = some f →
      slots[i]? = some (some .null) → f.nullable = true)
    (hparts : ∀ (i : Nat) (f : FieldSpec) (v : FieldValue), fields[i]? = some f →
      slots[i]? = some (some v) → v ≠ .null →
        ruleErrors f (compact Δ v) = ruleErrors f v ∧
          innerErrors Δ (compact Δ v) = innerErrors Δ v) :
    slotErrors Δ fields (compactSlots Δ fields slots) = slotErrors Δ fields slots := by
  induction slots generalizing fields with
  | nil => rfl
  | cons slot slots ih =>
    cases fields with
    | nil => cases hlength
    | cons f fields =>
      have hrest : slotErrors Δ fields (compactSlots Δ fields slots) = slotErrors Δ fields slots :=
        ih (Nat.succ.inj hlength) (fun i => hnulls (i + 1)) fun i => hparts (i + 1)
      cases slot with
      | none => rw [compactSlots, List.tail_cons, slotErrors, slotErrors, hrest]
      | some v =>
        rw [compactSlots]
        cases homitted : isOmitted f (some v) with
        | true =>
          -- A value that is left out is null or without data, and its field may be null.
          have hnullable : f.nullable = true := by
            rw [isOmitted, Bool.or_eq_true, Bool.and_eq_true] at homitted
            rcases homitted with hnull | ⟨hnullable, -⟩
            · cases v with
              | null => exact hnulls 0 f rfl rfl
              | _ => cases hnull
            · exact hnullable
          have hskipped : (v.isNull || (f.nullable && v.carriesNoData)) = true := homitted
          rw [if_pos rfl, slotErrors, slotErrors, if_pos hnullable, if_pos hskipped, hrest]
        | false =>
          have hkept : ¬(v.isNull || (f.nullable && v.carriesNoData)) = true :=
            Bool.eq_false_iff.1 homitted
          obtain ⟨hrule, hinner⟩ := hparts 0 f v rfl rfl (ne_null_of_kept homitted)
          rw [if_neg Bool.false_ne_true, slotErrors, slotErrors, isNull_compact,
            carriesNoData_compact, if_neg hkept, if_neg hkept, hrule, hinner, hrest]

theorem itemErrors_compactItems {items : List FieldValue}
    (h : ∀ v ∈ items, innerErrors Δ (compact Δ v) = innerErrors Δ v) (i : Nat) :
    itemErrors Δ i (compactItems Δ items) = itemErrors Δ i items := by
  induction items generalizing i with
  | nil => rfl
  | cons v items ih =>
    have hfirst := h v List.mem_cons_self
    have hrest := ih (fun w hw => h w (List.mem_cons_of_mem v hw)) (i + 1)
    rw [compactItems, itemErrors, itemErrors, hfirst, hrest]

theorem Instance.innerErrors_compact {kind : Kind} {v : FieldValue} (h : Instance Δ kind v)
    (hrules : kind.RulesRespectEquality Δ) : innerErrors Δ (compact Δ v) = innerErrors Δ v := by
  induction h with
  | @entity ref slots length nulls parts ih =>
    rw [compact, innerErrors, innerErrors]
    refine slotErrors_compactSlots length nulls fun i f v hf hs hnull => ?_
    have hrespects : f.RespectsEquality := hrules ref (.self _) f (List.mem_of_getElem? hf)
    have hequal : (compact Δ v).equal v = true := (parts i f v hf hs hnull).equal_compact
    exact ⟨hrespects.ruleErrors_eq hequal, ih i f v hf hs hnull (hrules.field hf)⟩
  | @collection ref items parts ih =>
    rw [compact, innerErrors, innerErrors]
    exact itemErrors_compactItems (fun v hv => ih v hv hrules.element) 0
  | _ => rfl

/-- The JSON of an entity made from data binds to an entity that has the same failures, with the same
paths and complaints in the same order. -/
theorem validationErrors_ofJson_toJson {r : Record} (h : r.Loaded Δ)
    (hregular : (Kind.entity r.ref).IsRegularThroughout Δ) (hyears : (ofRecord r).HasPlainYears)
    (hrules : (Kind.entity r.ref).RulesRespectEquality Δ) :
    ∃ r', (Record.ofJson Δ r.ref (r.toJson Δ)).outcome = .ok r' ∧
      r'.validationErrors Δ = r.validationErrors Δ := by
  have hinst : Instance Δ (.entity r.ref) (ofRecord r) := .of_fillsSlots h.fillsSlots
  exact ⟨_, h.fillsSlots.ofJson_toJson hregular hyears, hinst.innerErrors_compact hrules⟩

namespace Sample

def crate : EntityRef := ⟨"Crate", 0⟩

def marked : FieldValue → Option String
  | .str "" => some "must not be empty"
  | _ => none

def crates : Catalog where
  entities :=
    [⟨[{ name := "mark", kind := .str, check := some marked }, { name := "lot", kind := .int },
      { name := "note", kind := .str, nullable := true },
      { name := "inner", kind := .collection ⟨"Crates", 0⟩ }], none⟩]
  collections := [⟨.entity crate, false⟩]

def packed : Record :=
  ⟨crate, [some (.str ""), some (.int 7), some .null,
    some (.collection ⟨"Crates", 0⟩ [.entity crate [some (.str "a"), none, none, none]])]⟩

theorem marked_of_equal {v w : FieldValue} (h : v.equal w = true) : marked v = marked w := by
  cases v with
  | str s =>
    cases w with
    | str s' => rw [beq_iff_eq.1 h]
    | _ => cases h
  | _ => cases w <;> first | rfl | cases h

theorem reaches_crate {P : Kind → Prop} {other : Kind}
    (h : (Kind.entity crate).Reaches crates other) (hcrate : P (.entity crate)) (hstr : P .str)
    (hint : P .int) (hinner : P (.collection ⟨"Crates", 0⟩)) : P other := by
  refine h.induction hcrate hstr ?_ ?_
  · simp only [crates, List.forall_mem_cons, List.not_mem_nil, false_imp_iff, implies_true, and_true]
    exact ⟨hstr, hint, hstr, hinner⟩
  · simp only [crates, List.forall_mem_cons, List.not_mem_nil, false_imp_iff, implies_true, and_true]
    exact hcrate

theorem rulesRespectEquality_crate : (Kind.entity crate).RulesRespectEquality crates := by
  intro ref h
  have href : ref = crate := by
    refine reaches_crate (P := fun kind => ∀ ref, kind = .entity ref → ref = crate) h ?_ nofun nofun
      nofun ref rfl
    rintro _ ⟨⟩
    rfl
  subst href
  have hmark : ∀ check, some marked = some check →
      ∀ v w : FieldValue, v.equal w = true → check v = check w := by
    rintro check ⟨⟩ v w hequal
    exact marked_of_equal hequal
  show ∀ f ∈ [_, _, _, _], _
  simp only [List.forall_mem_cons, List.not_mem_nil, false_imp_iff, implies_true, and_true]
  exact ⟨hmark, nofun, nofun, nofun⟩

end Sample

open Sample in
theorem validationErrors_ofJson_toJson_packed :
    (Record.ofJson crates crate (.obj [("inner", .obj [("mark", .str "a")]), ("lot", .int 7),
      ("mark", .str ""), ("note", .null)])).outcome = .ok packed ∧
    ∃ r', (Record.ofJson crates crate (packed.toJson crates)).outcome = .ok r' ∧
      (r'.validationErrors crates).map FieldError.text =
        ["mark: must not be empty", "inner[0].lot: is required but not initialized",
          "inner[0].inner: is required but not initialized"] := by
  have hbound : (Record.ofJson crates crate (.obj [("inner", .obj [("mark", .str "a")]),
      ("lot", .int 7), ("mark", .str ""), ("note", .null)])).outcome = .ok packed := rfl
  have hcrate : (Kind.entity crate).IsRegular crates := by
    show ["mark", "lot", "note", "inner"].Nodup
    decide
  have hregular : (Kind.entity crate).IsRegularThroughout crates :=
    fun other h => reaches_crate h hcrate trivial trivial trivial
  have hinst : Instance crates (.entity crate) (ofRecord packed) :=
    .of_fillsSlots (FillsSlots.of_ofJson hbound).2
  have hyears : (ofRecord packed).HasPlainYears :=
    hinst.hasPlainYears fun h => reaches_crate (P := (· ≠ .dateTime)) h nofun nofun nofun nofun rfl
  obtain ⟨r', hread, herrors⟩ :=
    validationErrors_ofJson_toJson (.bound hbound) hregular hyears rulesRespectEquality_crate
  refine ⟨hbound, r', hread, ?_⟩
  rw [herrors]
  decide

end RestRecords
