import RestRecords.Proofs.Binding.Representation
/-!
# The stored form

What storing a value as JSON drops is what carries no data: unset slots, null, and named values
without payload in fields that may be null. The compact value has them unset at every depth. It is
stored as the same JSON as the value itself, and equal to it.
-/

namespace RestRecords

/-! ## Objects -/

namespace Json

theorem mem_of_mem_insertEntry {key : String} {value : Json} {entries : List (String × Json)}
    {e : String × Json} (h : e ∈ insertEntry key value entries) : e = (key, value) ∨ e ∈ entries := by
  induction entries with
  | nil => exact .inl (List.mem_singleton.1 h)
  | cons entry rest ih =>
    obtain ⟨k, v⟩ := entry
    rw [insertEntry] at h
    split at h
    · exact List.mem_cons.1 h
    split at h
    · exact (List.mem_cons.1 h).imp_right (List.mem_cons_of_mem _)
    · rcases List.mem_cons.1 h with rfl | h
      · exact .inr List.mem_cons_self
      · exact (ih h).imp_right (List.mem_cons_of_mem _)

theorem mem_keys_insertEntry {key k : String} {value : Json} {entries : List (String × Json)} :
    k ∈ (insertEntry key value entries).map Prod.fst ↔ k = key ∨ k ∈ entries.map Prod.fst := by
  induction entries with
  | nil => simp [insertEntry]
  | cons entry rest ih =>
    obtain ⟨l, v⟩ := entry
    rw [insertEntry]
    split
    · simp
    split
    · rename_i heq
      subst heq
      simp
    · simp only [List.map_cons, List.mem_cons, ih]
      exact or_left_comm

def sortEntries (entries : List (String × Json)) : List (String × Json) :=
  entries.foldl (fun acc e => insertEntry e.1 e.2 acc) []

theorem ofEntries_eq (entries : List (String × Json)) :
    ofEntries entries = .obj (sortEntries entries) := rfl

private theorem mem_of_mem_insertAll {entries acc : List (String × Json)} {e : String × Json}
    (h : e ∈ entries.foldl (fun acc e => insertEntry e.1 e.2 acc) acc) : e ∈ acc ∨ e ∈ entries := by
  induction entries generalizing acc with
  | nil => exact .inl h
  | cons entry rest ih =>
    rcases ih h with h | h
    · rcases mem_of_mem_insertEntry h with rfl | h
      · exact .inr List.mem_cons_self
      · exact .inl h
    · exact .inr (List.mem_cons_of_mem _ h)

theorem mem_of_mem_sortEntries {entries : List (String × Json)} {e : String × Json}
    (h : e ∈ sortEntries entries) : e ∈ entries :=
  (mem_of_mem_insertAll h).resolve_left List.not_mem_nil

private theorem mem_keys_insertAll {entries acc : List (String × Json)} {k : String} :
    k ∈ (entries.foldl (fun acc e => insertEntry e.1 e.2 acc) acc).map Prod.fst ↔
      k ∈ acc.map Prod.fst ∨ k ∈ entries.map Prod.fst := by
  induction entries generalizing acc with
  | nil => simp
  | cons entry rest ih =>
    rw [List.foldl_cons, ih, mem_keys_insertEntry, List.map_cons, List.mem_cons]
    exact or_assoc.trans or_left_comm

theorem mem_keys_sortEntries {entries : List (String × Json)} {k : String} :
    k ∈ (sortEntries entries).map Prod.fst ↔ k ∈ entries.map Prod.fst := by
  rw [sortEntries, mem_keys_insertAll, List.map_nil, or_iff_right List.not_mem_nil]

def Ascends (entries : List (String × Json)) : Prop :=
  entries.Pairwise fun e f => e.1 < f.1

theorem Ascends.insertEntry {entries : List (String × Json)} (h : Ascends entries) (key : String)
    (value : Json) : Ascends (insertEntry key value entries) := by
  induction entries with
  | nil => exact List.pairwise_singleton _ _
  | cons entry rest ih =>
    obtain ⟨k, v⟩ := entry
    obtain ⟨hfirst, hrest⟩ := List.pairwise_cons.1 h
    rw [Json.insertEntry]
    split
    · rename_i hlt
      refine List.pairwise_cons.2 ⟨fun e he => ?_, h⟩
      rcases List.mem_cons.1 he with rfl | he
      · exact hlt
      · exact String.lt_trans hlt (hfirst e he)
    split
    · rename_i heq
      subst heq
      exact List.pairwise_cons.2 ⟨hfirst, hrest⟩
    · rename_i hlt hne
      have hkey : k < key := by
        apply Classical.byContradiction
        intro hnot
        exact hne (String.le_antisymm (String.not_lt.1 hnot) (String.not_lt.1 hlt))
      refine List.pairwise_cons.2 ⟨fun e he => ?_, ih hrest⟩
      rcases mem_of_mem_insertEntry he with rfl | he
      · exact hkey
      · exact hfirst e he

theorem ascends_sortEntries (entries : List (String × Json)) : Ascends (sortEntries entries) := by
  have hinsert : ∀ acc, Ascends acc →
      Ascends (entries.foldl (fun acc e => Json.insertEntry e.1 e.2 acc) acc) := by
    induction entries with
    | nil => exact fun acc h => h
    | cons e entries ih => exact fun acc h => ih _ (h.insertEntry e.1 e.2)
  exact hinsert [] List.Pairwise.nil

theorem insertEntry_of_forall_lt {key : String} {value : Json} {entries : List (String × Json)}
    (h : ∀ e ∈ entries, e.1 < key) : insertEntry key value entries = entries ++ [(key, value)] := by
  induction entries with
  | nil => rfl
  | cons entry rest ih =>
    obtain ⟨k, v⟩ := entry
    have hlt : k < key := h (k, v) List.mem_cons_self
    have hne : key ≠ k := by
      rintro rfl
      exact String.lt_irrefl _ hlt
    rw [insertEntry, if_neg (String.lt_asymm hlt), if_neg hne,
      ih fun e he => h e (List.mem_cons_of_mem _ he), List.cons_append]

/-- Entries whose keys ascend are in their order. -/
theorem Ascends.sortEntries_eq {entries : List (String × Json)} (h : Ascends entries) :
    sortEntries entries = entries := by
  have hinsert : ∀ acc, Ascends (acc ++ entries) →
      entries.foldl (fun acc e => Json.insertEntry e.1 e.2 acc) acc = acc ++ entries := by
    clear h
    induction entries with
    | nil => exact fun acc _ => (List.append_nil acc).symm
    | cons e entries ih =>
      intro acc h
      have hlast : ∀ d ∈ acc, d.1 < e.1 := fun d hd =>
        (List.pairwise_append.1 h).2.2 d hd e List.mem_cons_self
      rw [List.foldl_cons, insertEntry_of_forall_lt hlast, ih, List.append_assoc]
      · rfl
      · rw [List.append_assoc]
        exact h
  exact hinsert [] h

theorem depth_le_depthEntries {entries : List (String × Json)} {e : String × Json}
    (h : e ∈ entries) : e.2.depth ≤ depthEntries entries := by
  induction entries with
  | nil => cases h
  | cons entry rest ih =>
    obtain ⟨k, a⟩ := entry
    rw [depthEntries]
    rcases List.mem_cons.1 h with rfl | h
    · exact Nat.le_max_left _ _
    · exact Nat.le_trans (ih h) (Nat.le_max_right _ _)

theorem depth_le_depthItems {items : List Json} {a : Json} (h : a ∈ items) :
    a.depth ≤ depthItems items := by
  induction items with
  | nil => cases h
  | cons b rest ih =>
    rw [depthItems]
    rcases List.mem_cons.1 h with rfl | h
    · exact Nat.le_max_left _ _
    · exact Nat.le_trans (ih h) (Nat.le_max_right _ _)

end Json

/-! ## Values without what carries no data -/

namespace FieldValue

mutual

/-- The value whose slots without data to be stored are unset, at every depth. -/
def compact (Δ : Catalog) : FieldValue → FieldValue
  | .entity ref slots => .entity ref (compactSlots Δ (Δ.entity ref).fields slots)
  | .collection ref items => .collection ref (compactItems Δ items)
  | v => v

def compactSlots (Δ : Catalog) (fields : List FieldSpec) :
    List (Option FieldValue) → List (Option FieldValue)
  | [] => []
  | none :: slots => none :: compactSlots Δ fields.tail slots
  | some v :: slots =>
    match fields with
    | [] => none :: compactSlots Δ [] slots
    | f :: fs => (if isOmitted f (some v) then none else some (compact Δ v)) :: compactSlots Δ fs slots

def compactItems (Δ : Catalog) : List FieldValue → List FieldValue
  | [] => []
  | v :: items => compact Δ v :: compactItems Δ items

end

variable {Δ : Catalog}

theorem itemsJson_eq_map (items : List FieldValue) : itemsJson Δ items = items.map (toJson Δ) := by
  induction items with
  | nil => rfl
  | cons v items ih => rw [itemsJson, ih, List.map_cons]

@[simp] theorem isNull_compact (v : FieldValue) : (compact Δ v).isNull = v.isNull := by
  cases v <;> rfl

@[simp] theorem carriesNoData_compact (v : FieldValue) :
    (compact Δ v).carriesNoData = v.carriesNoData := by
  cases v <;> rfl

@[simp] theorem isOmitted_compact (f : FieldSpec) (v : FieldValue) :
    isOmitted f (some (compact Δ v)) = isOmitted f (some v) := by
  rw [isOmitted, isOmitted, isNull_compact, carriesNoData_compact]

theorem carriesNoData_of_isOmitted {f : FieldSpec} {v : FieldValue}
    (h : isOmitted f (some v) = true) : v.carriesNoData = true := by
  rw [isOmitted, Bool.or_eq_true, Bool.and_eq_true] at h
  rcases h with h | ⟨-, h⟩
  · cases v <;> first | rfl | cases h
  · exact h

theorem ne_null_of_kept {f : FieldSpec} {v : FieldValue} (h : isOmitted f (some v) = false) :
    v ≠ .null := by
  rintro rfl
  cases h

theorem carriesNoData_of_kept {f : FieldSpec} {v : FieldValue} (h : isOmitted f (some v) = false)
    (hnullable : f.nullable = true) : v.carriesNoData = false := by
  rw [isOmitted, hnullable, Bool.true_and, Bool.or_eq_false_iff] at h
  exact h.2

theorem length_compactSlots (fields : List FieldSpec) (slots : Slots) :
    (compactSlots Δ fields slots).length = slots.length := by
  induction slots generalizing fields with
  | nil => rfl
  | cons slot slots ih =>
    cases slot with
    | none => rw [compactSlots, List.length_cons, List.length_cons, ih]
    | some v => cases fields <;> rw [compactSlots, List.length_cons, List.length_cons, ih]

theorem getElem?_compactSlots {fields : List FieldSpec} {slots : Slots} {i : Nat} {f : FieldSpec}
    {slot : Option FieldValue} (hf : fields[i]? = some f) (hs : slots[i]? = some slot) :
    (compactSlots Δ fields slots)[i]? =
      some (if isOmitted f slot then none else slot.map (compact Δ)) := by
  induction slots generalizing fields i with
  | nil => cases hs
  | cons first slots ih =>
    cases fields with
    | nil => cases hf
    | cons g fields =>
      cases i with
      | zero =>
        cases hf
        cases hs
        cases slot with
        | none => rfl
        | some v => rw [compactSlots]; rfl
      | succ i =>
        cases first <;> rw [compactSlots] <;> exact ih hf hs

theorem slotEntries_nil (slots : Slots) : slotEntries Δ [] slots = [] := by
  induction slots with
  | nil => rfl
  | cons slot slots ih =>
    cases slot with
    | none => exact ih
    | some v => rfl

/-- The entries of an entity are those of its slots that are not left out. -/
theorem mem_slotEntries_iff {fields : List FieldSpec} {slots : Slots} {e : String × Json} :
    e ∈ slotEntries Δ fields slots ↔ ∃ (i : Nat) (f : FieldSpec) (v : FieldValue),
      fields[i]? = some f ∧ slots[i]? = some (some v) ∧ isOmitted f (some v) = false ∧
        e = (f.name, toJson Δ v) := by
  induction slots generalizing fields with
  | nil => simp [slotEntries]
  | cons slot slots ih =>
    cases fields with
    | nil =>
      cases slot with
      | none => simp [slotEntries_nil]
      | some v => simp [slotEntries]
    | cons f fields =>
      rw [← Nat.or_exists_add_one]
      cases slot with
      | none =>
        rw [slotEntries, List.tail_cons, ih]
        simp
      | some v =>
        rw [slotEntries]
        split
        · rename_i h
          rw [ih]
          simp [h]
        · rename_i h
          rw [List.mem_cons, ih]
          simp [h]

mutual

theorem toJson_compact (v : FieldValue) : toJson Δ (compact Δ v) = toJson Δ v := by
  cases v with
  | entity ref slots => rw [compact, toJson, toJson, slotEntries_compactSlots]
  | collection ref items => rw [compact, toJson, toJson, itemsJson_compactItems]
  | _ => rfl

theorem slotEntries_compactSlots (fields : List FieldSpec) (slots : Slots) :
    slotEntries Δ fields (compactSlots Δ fields slots) = slotEntries Δ fields slots := by
  cases slots with
  | nil => rfl
  | cons slot slots =>
    cases slot with
    | none => rw [compactSlots, slotEntries, slotEntries, slotEntries_compactSlots]
    | some v =>
      cases fields with
      | nil => rw [slotEntries_nil, slotEntries_nil]
      | cons f fields =>
        rw [compactSlots, slotEntries]
        split
        · rw [slotEntries, List.tail_cons, slotEntries_compactSlots]
        · rename_i h
          rw [slotEntries, isOmitted_compact, if_neg h, toJson_compact, slotEntries_compactSlots]

theorem itemsJson_compactItems (items : List FieldValue) :
    itemsJson Δ (compactItems Δ items) = itemsJson Δ items := by
  cases items with
  | nil => rfl
  | cons v items => rw [compactItems, itemsJson, itemsJson, toJson_compact, itemsJson_compactItems]

end

theorem equalSlots_compactSlots {fields : List FieldSpec} {slots : Slots}
    (hlength : slots.length = fields.length)
    (h : ∀ (i : Nat) (f : FieldSpec) (v : FieldValue), fields[i]? = some f →
      slots[i]? = some (some v) → v.carriesNoData = false → equal (compact Δ v) v = true) :
    equalSlots (compactSlots Δ fields slots) slots = true := by
  induction slots generalizing fields with
  | nil => rfl
  | cons slot slots ih =>
    cases fields with
    | nil => cases hlength
    | cons f fields =>
      have hrest : equalSlots (compactSlots Δ fields slots) slots = true :=
        ih (Nat.succ.inj hlength) fun i g v hg hs => h (i + 1) g v hg hs
      cases slot with
      | none =>
        rw [compactSlots, List.tail_cons, equalSlots, hrest]
        rfl
      | some v =>
        rw [compactSlots]
        split
        · rename_i homitted
          rw [equalSlots, hrest, Option.all_some, carriesNoData_of_isOmitted homitted]
          rfl
        · rw [equalSlots, hrest, carriesNoData_compact, Bool.and_true]
          cases hdata : v.carriesNoData with
          | true => rfl
          | false => simpa using h 0 f v rfl rfl hdata

theorem equalItems_compactItems {items : List FieldValue}
    (h : ∀ v ∈ items, equal (compact Δ v) v = true) :
    equalItems (compactItems Δ items) items = true := by
  induction items with
  | nil => rfl
  | cons v items ih =>
    rw [compactItems, equalItems, h v List.mem_cons_self,
      ih fun w hw => h w (List.mem_cons_of_mem v hw)]
    rfl

end FieldValue

/-! ## What was bound is equal to its compact value -/

mutual

theorem Json.equal_self (a : Json) : a.equal a = true := by
  cases a with
  | null => rfl
  | bool | int | str => simp [equal]
  | float x => exact FiniteDouble.numEq_iff.2 rfl
  | arr items => rw [equal, equalItems_self]
  | obj entries => rw [equal, equalEntries_self]

theorem Json.equalItems_self (items : List Json) : equalItems items items = true := by
  cases items with
  | nil => rfl
  | cons a items => rw [equalItems, equal_self, equalItems_self, Bool.and_true]

theorem Json.equalEntries_self (entries : List (String × Json)) :
    equalEntries entries entries = true := by
  cases entries with
  | nil => rfl
  | cons e entries =>
    obtain ⟨key, a⟩ := e
    rw [equalEntries, beq_self_eq_true, equal_self, equalEntries_self, Bool.and_true, Bool.and_true]

end

open FieldValue

variable {Δ : Catalog}

theorem Instance.equal_compact {kind : Kind} {v : FieldValue} (h : Instance Δ kind v) :
    equal (compact Δ v) v = true := by
  induction h with
  | bool | int | str => simp [compact, equal]
  | float x => exact FiniteDouble.numEq_iff.2 rfl
  | dateTime => simp [compact, equal, DateTime.sameInstant]
  | enumCase => simp [compact, equal, EnumValue.same]
  | named => simp [compact, equal, NamedValue.same, Json.equal_self]
  | @entity ref slots length nulls parts ih =>
    rw [compact, equal, beq_self_eq_true, Bool.true_and]
    refine equalSlots_compactSlots length fun i f v hf hs hdata => ih i f v hf hs ?_
    rintro rfl
    cases hdata
  | collection parts ih =>
    rw [compact, equal, beq_self_eq_true, Bool.true_and]
    exact equalItems_compactItems ih

end RestRecords
