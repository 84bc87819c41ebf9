import RestRecords.Proofs.Binding.Elements
import RestRecords.Proofs.Binding.RoundTrip
import RestRecords.Proofs.Schema.Cycles
/-!
# Whether defaults and binding end

The defaults of an entity contain those of the entities it requires, and a bare value given for a
collection is its only element, so both may go on without end where declarations refer to
themselves. They end where no cycle forces them on: no cycle on which every field is required and
bound as an entity, or which has no fields at all, as one of collections that are elements of each
other. For entities they end within as many steps as there are declarations; from a cycle that
forces them on, there is no end.
-/

namespace RestRecords

open Relation

/-! ## Computations that end -/

namespace Traced

variable {α β : Type}

/-- Whether a computation comes to a result or a failure. -/
def Ends (t : Traced α) : Prop :=
  ∀ abort, t.outcome ≠ .error (.abort abort)

/-- Whether a recursion that is cut off at a depth ends within `depth` steps: it is not cut off
there, and comes to the same if it is cut off later. -/
def EndsWithin (unrolled : Nat → Traced α) (depth : Nat) : Prop :=
  (unrolled depth).Ends ∧ ∀ more, depth ≤ more → unrolled more = unrolled depth

/-- Whether a recursion is cut off at every depth. -/
def NeverEnds (unrolled : Nat → Traced α) : Prop :=
  ∀ depth, (unrolled depth).outcome = .error (.abort .endlessSchema)

theorem Ends.of_ok {t : Traced α} {a : α} (h : t.outcome = .ok a) : t.Ends := by
  intro abort habort
  rw [h] at habort
  cases habort

theorem Ends.of_fail {t : Traced α} {e : Error} (h : t.outcome = Outcome.fail e) : t.Ends := by
  intro abort habort
  rw [h] at habort
  cases habort

theorem Ends.of_outcome_eq {t t' : Traced α} (h : t.Ends) (heq : t'.outcome = t.outcome) :
    t'.Ends := by
  intro abort habort
  exact h abort (heq ▸ habort)

theorem ends_bind_iff {x : Traced α} {f : α → Traced β} :
    (x >>= f).Ends ↔ x.Ends ∧ ∀ a, x.outcome = .ok a → (f a).Ends := by
  unfold Ends
  rw [outcome_bind]
  cases x.outcome with
  | ok a => simp [Except.bind]
  | error e => simp [Except.bind]

theorem bind_mono {x x' : Traced α} {f f' : α → Traced β} (hx : x.Ends → x' = x)
    (hf : ∀ a, (f a).Ends → f' a = f a) (h : (x >>= f).Ends) : x' >>= f' = x >>= f := by
  obtain ⟨hends, hrest⟩ := ends_bind_iff.1 h
  rw [hx hends]
  show x.andThen f' = x.andThen f
  unfold andThen
  cases hok : x.outcome with
  | ok a => simp only [hf a (hrest a hok)]
  | error e => rfl

theorem ends_mapError_iff {x : Traced α} {f : Error → Error} : (x.mapError f).Ends ↔ x.Ends := by
  unfold Ends mapError
  split
  · rename_i e he
    simp [he]
  · rfl

theorem outcome_mapError_of_abort {x : Traced α} {f : Error → Error} {abort : Abort}
    (h : x.outcome = .error (.abort abort)) : (x.mapError f).outcome = .error (.abort abort) := by
  unfold mapError
  rw [h]
  exact h

theorem endsWithin_of_step {unrolled : Nat → Traced α} {depth : Nat}
    (hstep : ∀ k, (unrolled k).Ends → unrolled (k + 1) = unrolled k) (h : (unrolled depth).Ends) :
    EndsWithin unrolled depth := by
  refine ⟨h, fun more hmore => ?_⟩
  induction more, hmore using Nat.le_induction with
  | base => rfl
  | succ more _ ih => rw [hstep more (by rwa [ih]), ih]

end Traced

/-! ## Defaults -/

namespace Default

variable {Δ : Catalog}

/-- The default of a field is that of the entity it requires, or does not depend on entities. -/
theorem slot_cases (entity : EntityRef) (f : FieldSpec) (kind : Kind) :
    (∃ other, f.nullable = false ∧ kind = .entity other) ∨
      ∃ t v, Traced.outcome t = .ok v ∧ ∀ nested, slot nested entity f kind = t := by
  cases hnull : f.nullable with
  | true =>
    right
    cases kind with
    | enumeration schema => exact ⟨.ok (schema.first?.map .enumCase), _, rfl, fun _ => rfl⟩
    | _ => exact ⟨.ok (some .null), _, rfl, fun nested => by simp [slot, hnull]⟩
  | false =>
    cases kind with
    | entity other => exact .inl ⟨other, rfl, rfl⟩
    | enumeration schema =>
      exact .inr ⟨.ok (schema.first?.map .enumCase), _, rfl, fun _ => rfl⟩
    | collection ref =>
      exact .inr ⟨.ok (some (.collection ref [])), _, rfl, fun nested => by simp [slot, hnull]⟩
    | value schema =>
      right
      cases hvalue : NamedValue.ofJson schema .null with
      | ok v => exact ⟨.ok (some (.named v)), _, rfl, fun nested => by simp [slot, hnull, hvalue]⟩
      | error e =>
        exact ⟨_, none, rfl, fun nested => by simp [slot, hnull, hvalue]; rfl⟩
    | _ => exact .inr ⟨.ok none, _, rfl, fun nested => by simp [slot, hnull]⟩

theorem slot_entity {nested : EntityRef → Traced Slots} {entity other : EntityRef} {f : FieldSpec}
    (h : f.nullable = false) :
    slot nested entity f (.entity other) = do return some (.entity other (← nested other)) := by
  simp [slot, h]

theorem slots_mono {default default' : FieldSpec → Traced (Option FieldValue)}
    {fields : List FieldSpec} (h : ∀ f ∈ fields, default' f = default f) :
    slots default' fields = slots default fields := by
  induction fields with
  | nil => rfl
  | cons f fields ih =>
    rw [slots, slots, h f List.mem_cons_self, ih fun g hg => h g (List.mem_cons_of_mem f hg)]

theorem exists_outcome_slots {default : FieldSpec → Traced (Option FieldValue)}
    {fields : List FieldSpec} (h : ∀ f ∈ fields, ∃ v, (default f).outcome = .ok v) :
    ∃ values, (slots default fields).outcome = .ok values := by
  induction fields with
  | nil => exact ⟨[], rfl⟩
  | cons f fields ih =>
    obtain ⟨v, hv⟩ := h f List.mem_cons_self
    obtain ⟨values, hvalues⟩ := ih fun g hg => h g (List.mem_cons_of_mem f hg)
    exact ⟨v :: values, by
      rw [slots, Traced.outcome_bind_of_ok hv, Traced.outcome_bind_of_ok hvalues]
      rfl⟩

/-- One field without end leaves no defaults, whatever the others are. -/
theorem outcome_slots_endless {default : FieldSpec → Traced (Option FieldValue)} {e : Failure}
    {fields : List FieldSpec}
    (h : ∀ f ∈ fields, (∃ v, (default f).outcome = .ok v) ∨ (default f).outcome = .error e)
    {f : FieldSpec} (hf : f ∈ fields) (hendless : (default f).outcome = .error e) :
    (slots default fields).outcome = .error e := by
  induction fields with
  | nil => cases hf
  | cons g fields ih =>
    rw [slots, Traced.outcome_bind_eq_error_iff]
    rcases h g List.mem_cons_self with ⟨v, hv⟩ | hfirst
    · rcases List.mem_cons.1 hf with rfl | hf
      · exact .inl hendless
      · right
        refine ⟨v, hv, Traced.outcome_bind_eq_error_iff.2 (.inl ?_)⟩
        exact ih (fun k hk => h k (List.mem_cons_of_mem g hk)) hf
    · exact .inl hfirst

def fieldWithin (Δ : Catalog) (depth : Nat) (ref : EntityRef) (f : FieldSpec) :
    Traced (Option FieldValue) :=
  slot (within Δ depth) ref f ((Δ.entity ref).bindingKind f)

variable (Δ) in
theorem within_cases (depth : Nat) (ref : EntityRef) :
    (HasChain (Kind.Forces Δ) depth (.entity ref) →
      (within Δ depth ref).outcome = .error (.abort .endlessSchema)) ∧
    (¬HasChain (Kind.Forces Δ) depth (.entity ref) →
      (∃ values, (within Δ depth ref).outcome = .ok values) ∧
        within Δ (depth + 1) ref = within Δ depth ref) := by
  induction depth generalizing ref with
  | zero => exact ⟨fun _ => rfl, fun h => absurd trivial h⟩
  | succ depth ih =>
    -- A field either leads on to an entity that is cut off, or it is the same at the next depth.
    have hfield : ∀ f, ((∃ other, f.nullable = false ∧
          (Δ.entity ref).bindingKind f = .entity other ∧
          HasChain (Kind.Forces Δ) depth (.entity other)) ∧
        (fieldWithin Δ depth ref f).outcome = .error (.abort .endlessSchema)) ∨
        (∃ v, (fieldWithin Δ depth ref f).outcome = .ok v) ∧
          fieldWithin Δ (depth + 1) ref f = fieldWithin Δ depth ref f := by
      intro f
      unfold fieldWithin
      rcases slot_cases ref f ((Δ.entity ref).bindingKind f) with
        ⟨other, required, bound⟩ | ⟨t, v, hv, heq⟩
      · rw [bound, slot_entity required, slot_entity required]
        by_cases hrest : HasChain (Kind.Forces Δ) depth (.entity other)
        · refine .inl ⟨⟨other, required, rfl, hrest⟩, ?_⟩
          exact Traced.outcome_bind_eq_error_iff.2 (.inl ((ih other).1 hrest))
        · obtain ⟨⟨values, hvalues⟩, hsame⟩ := (ih other).2 hrest
          exact .inr ⟨⟨_, Traced.outcome_bind_of_ok hvalues⟩, by rw [hsame]⟩
      · exact .inr ⟨⟨v, by rw [heq, hv]⟩, by rw [heq, heq]⟩
    constructor
    · rintro ⟨kind, hstep, hrest⟩
      cases hstep with
      | @field _ other f declared required bound =>
        refine outcome_slots_endless (fun g _ => (hfield g).symm.imp And.left And.right) declared ?_
        rw [bound, slot_entity required]
        exact Traced.outcome_bind_eq_error_iff.2 (.inl ((ih other).1 hrest))
    · intro h
      have hends : ∀ f ∈ (Δ.entity ref).fields,
          (∃ v, (fieldWithin Δ depth ref f).outcome = .ok v) ∧
            fieldWithin Δ (depth + 1) ref f = fieldWithin Δ depth ref f := by
        intro f hf
        rcases hfield f with ⟨⟨other, required, bound, hchain⟩, -⟩ | hends
        · exact absurd ⟨_, .field hf required bound, hchain⟩ h
        · exact hends
      exact ⟨exists_outcome_slots fun f hf => (hends f hf).1, slots_mono fun f hf => (hends f hf).2⟩

theorem endsWithin_of_not_hasChain {depth : Nat} {ref : EntityRef}
    (h : ¬HasChain (Kind.Forces Δ) depth (.entity ref)) :
    Traced.EndsWithin (within Δ · ref) depth := by
  refine Traced.endsWithin_of_step (fun k hends => ?_) ?_
  · exact ((within_cases Δ k ref).2 fun hchain => hends _ ((within_cases Δ k ref).1 hchain)).2
  · obtain ⟨⟨values, hvalues⟩, -⟩ := (within_cases Δ depth ref).2 h
    exact .of_ok hvalues

end Default

/-! ## Binding -/

namespace Bind

variable {Δ : Catalog}

section Mono

variable {ref : EntityRef} {d : EntityDecl}

theorem assign_mono {bindField bindField' : FieldSpec → Json → Traced (Option FieldValue)}
    (hbind : ∀ f raw, (bindField f raw).Ends → bindField' f raw = bindField f raw)
    (entries : List (String × Json)) (slots : Slots)
    (h : (assign bindField ref d entries slots).report.Ends) :
    assign bindField' ref d entries slots = assign bindField ref d entries slots := by
  induction entries generalizing slots with
  | nil => rfl
  | cons entry rest ih =>
    obtain ⟨key, raw⟩ := entry
    rw [assign] at h ⊢
    rw [assign]
    split at h
    · simp only [ih slots ((Traced.ends_bind_iff.1 h).2 () rfl)]
    split at h
    · exact ih slots h
    rename_i f _
    have hfirst : (bindField f raw).Ends := by
      intro abort habort
      simp only [habort] at h
      exact h abort rfl
    rw [hbind f raw hfirst]
    dsimp only at h ⊢
    split at h
    · rfl
    · rw [ih _ (h.of_outcome_eq rfl)]

theorem entity_mono
    {bindField bindField' : EntityDecl → FieldSpec → Json → Traced (Option FieldValue)}
    (hbind : ∀ d f raw, (bindField d f raw).Ends → bindField' d f raw = bindField d f raw)
    {raw : Json} (h : (entity Δ bindField ref raw).Ends) :
    entity Δ bindField' ref raw = entity Δ bindField ref raw := by
  unfold entity at h ⊢
  split
  · rfl
  rename_i hraw
  rw [if_neg hraw] at h
  have hupdate : update (bindField' (Δ.entity ref)) ref (Δ.entity ref) (unset (Δ.entity ref)) raw =
      update (bindField (Δ.entity ref)) ref (Δ.entity ref) (unset (Δ.entity ref)) raw := by
    have hends := (Traced.ends_bind_iff.1 h).1
    cases raw with
    | obj entries => exact assign_mono (hbind _) entries _ hends
    | _ => rfl
  simp only [hupdate]

theorem items_mono {bindElement bindElement' : Nat → Json → Traced FieldValue}
    (hbind : ∀ i raw, (bindElement i raw).Ends → bindElement' i raw = bindElement i raw)
    (i : Nat) (raws : List Json) (h : (items bindElement i raws).Ends) :
    items bindElement' i raws = items bindElement i raws := by
  induction raws generalizing i with
  | nil => rfl
  | cons raw rest ih =>
    exact Traced.bind_mono (hbind i raw)
      (fun _ hrest => Traced.bind_mono (ih (i + 1)) (fun _ _ => rfl) hrest) h

theorem element_mono {bindElement bindElement' : Step → Json → Traced (Option FieldValue)}
    {kind : Kind} (hbind : ∀ place raw, (bindElement place raw).Ends →
      bindElement' place raw = bindElement place raw) (i : Nat) (raw : Json)
    (h : (element Δ bindElement kind i raw).Ends) :
    element Δ bindElement' kind i raw = element Δ bindElement kind i raw := by
  unfold element at h ⊢
  split
  · rfl
  · split at h
    · rename_i hother
      exact absurd rfl (hother _ rfl)
    · exact Traced.bind_mono (hbind _ raw) (fun _ _ => rfl) h

theorem collection_mono {bindElement bindElement' : Kind → Step → Json → Traced (Option FieldValue)}
    {ref : CollectionRef}
    (hbind : ∀ kind place raw, (bindElement kind place raw).Ends →
      bindElement' kind place raw = bindElement kind place raw) {raw : Json}
    (h : (collection Δ bindElement ref raw).Ends) :
    collection Δ bindElement' ref raw = collection Δ bindElement ref raw :=
  Traced.bind_mono (items_mono (element_mono (hbind _)) 0 _) (fun _ _ => rfl) h

theorem kindWithin_mono {depth : Nat} {place : Step} {kind : Kind} {nullable : Bool} {raw : Json}
    (h : (kindWithin Δ depth place kind nullable raw).Ends) :
    kindWithin Δ (depth + 1) place kind nullable raw =
      kindWithin Δ depth place kind nullable raw := by
  induction depth generalizing place kind nullable raw with
  | zero => exact absurd rfl (h .endlessSchema)
  | succ depth ih =>
    cases kind with
    | entity ref =>
      rw [kindWithin] at h ⊢
      rw [kindWithin]
      split
      · rfl
      rename_i hraw
      rw [if_neg hraw] at h
      dsimp only at h ⊢
      refine Traced.bind_mono (fun hends => ?_) (fun _ _ => rfl) h
      rw [entity_mono (fun d f raw => ih) (Traced.ends_mapError_iff.1 hends)]
    | collection ref =>
      rw [kindWithin] at h ⊢
      rw [kindWithin]
      split
      · rfl
      rename_i hraw
      rw [if_neg hraw] at h
      dsimp only at h ⊢
      refine Traced.bind_mono (fun hends => ?_) (fun _ _ => rfl) h
      rw [collection_mono (fun kind place raw => ih) (Traced.ends_mapError_iff.1 hends)]
    | _ => rfl

end Mono

/-! ## How far the data lead -/

/-- Elements are parts of the data, or the data themselves. -/
theorem depth_of_mem_elements {name : String} {raw part : Json} (h : part ∈ elements name raw) :
    part = raw ∨ part.depth < raw.depth := by
  obtain ⟨content, hcontent, hspells⟩ : HasElements name raw (elements name raw) :=
    hasElements_iff.2 rfl
  have hpart : part = content ∨ part.depth < content.depth := by
    generalize elements name raw = parts at h hspells
    cases hspells with
    | null => cases h
    | list =>
      have hdepth := Json.depth_le_depthItems h
      rw [Json.depth]
      omega
    | single => exact .inl (List.mem_singleton.1 h)
  cases hcontent with
  | whole => exact hpart
  | @entry entries _ _ given =>
    obtain ⟨before, after, rfl, -⟩ := List.lookup_eq_some_iff.1 given
    have hmem : (contentName, content) ∈ before ++ (contentName, content) :: after := by simp
    have hdepth : content.depth ≤ _ := Json.depth_le_depthEntries hmem
    rw [Json.depth]
    rcases hpart with rfl | hlt <;> omega

theorem enumeration_ends (schema : EnumSchema) (place : Step) (nullable : Bool) (raw : Json) :
    (enumeration schema place nullable raw).Ends := by
  unfold enumeration
  split
  · exact .of_ok rfl
  split <;> exact .of_ok rfl

theorem number_ends (kind : Kind) (place : Step) (nullable : Bool) (raw : Json)
    (value : Option FieldValue) : (number kind place nullable raw value).Ends := by
  unfold number
  split
  · exact .of_fail rfl
  · exact .of_fail rfl
  split
  · exact .of_ok rfl
  split
  · exact .of_ok rfl
  · exact .of_fail rfl

theorem string_ends (place : Step) (raw : Json) : (string place raw).Ends := by
  unfold string
  split
  · exact .of_ok rfl
  · exact .of_fail rfl
  · exact .of_fail rfl
  · exact .of_ok rfl

theorem dateTime_ends (place : Step) (raw : Json) : (dateTime place raw).Ends := by
  unfold dateTime
  split
  · exact .of_ok rfl
  · exact .of_fail rfl

theorem named_ends (schema : ValueSchema) (raw : Json) :
    (do return some (.named (← lift (NamedValue.ofJson schema raw))) :
      Traced (Option FieldValue)).Ends := by
  cases NamedValue.ofJson schema raw with
  | ok v => exact .of_ok rfl
  | error e => exact .of_fail rfl

theorem assign_ends {bindField : FieldSpec → Json → Traced (Option FieldValue)} {ref : EntityRef}
    {d : EntityDecl} {entries : List (String × Json)}
    (h : ∀ entry ∈ entries, ∀ f, (bindField f entry.2).Ends) (slots : Slots) :
    (assign bindField ref d entries slots).report.Ends := by
  induction entries generalizing slots with
  | nil => exact .of_ok rfl
  | cons entry rest ih =>
    obtain ⟨key, raw⟩ := entry
    have hrest := ih fun entry hentry => h entry (List.mem_cons_of_mem _ hentry)
    rw [assign]
    split
    · exact Traced.ends_bind_iff.2 ⟨.of_ok rfl, fun _ _ => hrest slots⟩
    split
    · exact hrest slots
    rename_i f _
    dsimp only
    split
    · rename_i e he
      intro abort habort
      cases habort
      exact h (key, raw) List.mem_cons_self f abort he
    · exact (hrest _).of_outcome_eq rfl

theorem items_ends {bindElement : Nat → Json → Traced FieldValue} {raws : List Json}
    (h : ∀ raw ∈ raws, ∀ i, (bindElement i raw).Ends) (i : Nat) :
    (items bindElement i raws).Ends := by
  induction raws generalizing i with
  | nil => exact .of_ok rfl
  | cons raw rest ih =>
    refine Traced.ends_bind_iff.2 ⟨h raw List.mem_cons_self i, fun v _ => ?_⟩
    refine Traced.ends_bind_iff.2 ⟨?_, fun _ _ => .of_ok rfl⟩
    exact ih (fun other hother => h other (List.mem_cons_of_mem raw hother)) (i + 1)

variable (hdefaults : ∀ ref, (Record.initial Δ ref).Ends)

include hdefaults

theorem element_ends {bindElement : Step → Json → Traced (Option FieldValue)} {kind : Kind}
    {raw : Json} (h : ∀ place, (bindElement place raw).Ends) (i : Nat) :
    (element Δ bindElement kind i raw).Ends := by
  unfold element
  split
  · exact Traced.ends_bind_iff.2 ⟨hdefaults _, fun _ _ => .of_ok rfl⟩
  · refine Traced.ends_bind_iff.2 ⟨h _, fun v _ => ?_⟩
    cases v with
    | none => exact .of_fail rfl
    | some v => exact .of_ok rfl

theorem entity_ends {bindField : EntityDecl → FieldSpec → Json → Traced (Option FieldValue)}
    {ref : EntityRef} {raw : Json}
    (h : ∀ part, part.depth < raw.depth → ∀ d f, (bindField d f part).Ends) :
    (entity Δ bindField ref raw).Ends := by
  unfold entity
  split
  · exact hdefaults ref
  · refine Traced.ends_bind_iff.2 ⟨?_, fun _ _ => .of_ok rfl⟩
    cases raw with
    | obj entries =>
      refine assign_ends (fun entry hentry f => h _ ?_ _ f) _
      have hdepth := Json.depth_le_depthEntries hentry
      rw [Json.depth]
      omega
    | _ => exact .of_fail rfl

theorem collection_ends {bindElement : Kind → Step → Json → Traced (Option FieldValue)}
    {ref : CollectionRef} {raw : Json}
    (h : ∀ part, part = raw ∨ part.depth < raw.depth → ∀ place,
      (bindElement (Δ.collection ref).element place part).Ends) :
    (collection Δ bindElement ref raw).Ends := by
  refine Traced.ends_bind_iff.2 ⟨?_, fun _ _ => .of_ok rfl⟩
  refine items_ends (fun part hpart => ?_) 0
  exact element_ends hdefaults (h part (depth_of_mem_elements hpart))

variable (hnested : ∀ ref, ¬HasChain (CollectionRef.Holds Δ) (Δ.collections.length + 1) ref)

include hnested

/-- A depth is enough if it allows for as many nested collections as there are for each step into
the data, and for those that the kind itself begins with. -/
theorem kindWithin_ends {depth : Nat} {place : Step} {kind : Kind} {nullable : Bool} {raw : Json}
    {left : Nat}
    (hkind : ∀ ref, kind = .collection ref → ¬HasChain (CollectionRef.Holds Δ) left ref)
    (hdepth : raw.depth * (Δ.collections.length + 2) + left + 1 ≤ depth) :
    (kindWithin Δ depth place kind nullable raw).Ends := by
  induction depth generalizing place kind nullable raw left with
  | zero => omega
  | succ depth ih =>
    -- Behind a step into the data every kind has room.
    have hpart : ∀ part, part.depth < raw.depth → ∀ place kind nullable,
        (kindWithin Δ depth place kind nullable part).Ends := by
      intro part hlt place kind nullable
      refine ih (fun ref _ => hnested ref) ?_
      have hmul := Nat.mul_le_mul_right (Δ.collections.length + 2) (Nat.succ_le_of_lt hlt)
      rw [Nat.succ_mul] at hmul
      omega
    unfold kindWithin
    split
    · apply enumeration_ends
    split
    · split
      · exact .of_ok rfl
      split
      · exact named_ends _ .null
      · exact .of_fail rfl
    split
    · apply number_ends
    · apply number_ends
    · apply number_ends
    · apply string_ends
    · apply dateTime_ends
    · apply enumeration_ends
    · exact named_ends _ raw
    · refine Traced.ends_bind_iff.2 ⟨Traced.ends_mapError_iff.2 ?_, fun _ _ => .of_ok rfl⟩
      exact entity_ends hdefaults fun part hlt d f => hpart part hlt _ _ _
    · refine Traced.ends_bind_iff.2 ⟨Traced.ends_mapError_iff.2 ?_, fun _ _ => .of_ok rfl⟩
      refine collection_ends hdefaults fun part hsub place => ?_
      rcases hsub with rfl | hlt
      · -- The same data again: one collection fewer is left in the element.
        cases left with
        | zero => exact absurd trivial (hkind _ rfl)
        | succ left =>
          refine ih (fun other helement (hchain : HasChain _ left other) => ?_) (by omega)
          exact hkind _ rfl ⟨other, .of_element_eq helement, hchain⟩
      · exact hpart part hlt _ _ _

theorem asKind_ends (place : Step) (kind : Kind) (nullable : Bool) (raw : Json) :
    (asKind Δ place kind nullable raw).Ends := by
  refine kindWithin_ends hdefaults hnested (fun ref _ => hnested ref) ?_
  rw [depthFor, Nat.succ_mul]
  omega

omit hdefaults hnested in
/-- As long as there are further collections inside, a bare value is passed on to them. -/
theorem kindWithin_endless {depth : Nat} {ref : CollectionRef}
    (hchain : HasChain (CollectionRef.Holds Δ) depth ref) {raw : Json} (hscalar : raw.IsScalar)
    (hgiven : raw ≠ .null) (place : Step) (nullable : Bool) :
    (kindWithin Δ depth place (.collection ref) nullable raw).outcome =
      .error (.abort .endlessSchema) := by
  induction depth generalizing ref place nullable with
  | zero => rfl
  | succ depth ih =>
    obtain ⟨other, hholds, hrest⟩ := hchain
    have hspells : Spells raw [raw] := .single hgiven (by rintro items rfl; exact hscalar)
    have hwhole : HasContent ref.name raw raw :=
      .whole (by rintro entries _ rfl; exact absurd hscalar id)
    have helements : [raw] = elements ref.name raw := hasElements_iff.1 ⟨raw, hwhole, hspells⟩
    have hnull : ¬raw.isNull = true := by
      cases raw with
      | null => exact absurd rfl hgiven
      | _ => exact Bool.false_ne_true
    have helement :
        (element Δ (fun place raw => kindWithin Δ depth place (.collection other) false raw)
          (.collection other) 0 raw).outcome = .error (.abort .endlessSchema) := by
      unfold element
      exact Traced.outcome_bind_eq_error_iff.2 (.inl (ih hrest (.index 0) false))
    rw [kindWithin]
    dsimp only
    rw [if_neg hnull]
    refine Traced.outcome_bind_eq_error_iff.2 (.inl (Traced.outcome_mapError_of_abort ?_))
    unfold collection
    rw [hholds.element_eq, ← helements]
    refine Traced.outcome_bind_eq_error_iff.2 (.inl ?_)
    exact Traced.outcome_bind_eq_error_iff.2 (.inl helement)

end Bind

/-! ## Catalogs -/

/-- Where no entity requires itself, defaults are made for every entity, within one step more than
there are entities, and within as many for those of a closed catalog. All data are then bound or
refused, as entities, as collections and as every other kind, under a condition of its own on the
collections: that none is among its own elements. From an entity that is led to a cycle there are no
defaults, however long they are looked for; and a collection that is led to a cycle of collections
does not bind a bare value. -/
theorem Catalog.ends_unless_cyclic (Δ : Catalog) :
    ((∀ ref, ¬TransGen (Kind.Forces Δ) (.entity ref) (.entity ref)) →
      (∀ ref, Traced.EndsWithin (Default.within Δ · ref) (Δ.entities.length + 1) ∧
        ∃ r, (Record.initial Δ ref).outcome = .ok r) ∧
      (Δ.IsClosed → ∀ ref : EntityRef, ref.key < Δ.entities.length →
        Traced.EndsWithin (Default.within Δ · ref) Δ.entities.length) ∧
      ((∀ ref, ¬TransGen (Kind.Forces Δ) (.collection ref) (.collection ref)) →
        (∀ place kind nullable raw,
          Traced.EndsWithin (Bind.kindWithin Δ · place kind nullable raw) (Bind.depthFor Δ raw)) ∧
        (∀ ref raw, (Record.ofJson Δ ref raw).Ends) ∧
        ∀ ref raw, (Collection.ofJson Δ ref raw).Ends)) ∧
    (∀ ref kind, ReflTransGen (Kind.Forces Δ) (.entity ref) kind →
      TransGen (Kind.Forces Δ) kind kind → Traced.NeverEnds (Default.within Δ · ref)) ∧
    (∀ ref other raw, ReflTransGen (Kind.Forces Δ) (.collection ref) (.collection other) →
      TransGen (Kind.Forces Δ) (.collection other) (.collection other) → raw.IsScalar →
      raw ≠ .null → ∀ place nullable,
        Traced.NeverEnds (Bind.kindWithin Δ · place (.collection ref) nullable raw)) := by
  refine ⟨fun hacyclic => ?_, fun ref kind hreach hcycle depth => ?_,
    fun ref other raw hreach hcycle hscalar hgiven place nullable depth => ?_⟩
  · have hinitial (ref : EntityRef) : ∃ r, (Record.initial Δ ref).outcome = .ok r := by
      obtain ⟨⟨values, hvalues⟩, -⟩ := (Default.within_cases Δ (Δ.entities.length + 1) ref).2
        (Kind.Forces.not_hasChain_entity hacyclic ref)
      exact ⟨_, Traced.outcome_bind_of_ok hvalues⟩
    have hdefaults (ref : EntityRef) : (Record.initial Δ ref).Ends := by
      obtain ⟨r, hr⟩ := hinitial ref
      exact .of_ok hr
    refine ⟨fun ref => ⟨?_, hinitial ref⟩, fun hclosed ref hdeclared => ?_, fun hcollections => ?_⟩
    · exact Default.endsWithin_of_not_hasChain (Kind.Forces.not_hasChain_entity hacyclic ref)
    · exact Default.endsWithin_of_not_hasChain
        (Kind.Forces.not_hasChain_of_isClosed hacyclic hclosed hdeclared)
    have hnested := Kind.Forces.not_hasChain_collection hcollections
    refine ⟨fun place kind nullable raw => ?_, fun ref raw => ?_, fun ref raw => ?_⟩
    · exact Traced.endsWithin_of_step (fun _ hends => Bind.kindWithin_mono hends)
        (Bind.asKind_ends hdefaults hnested place kind nullable raw)
    · exact Bind.entity_ends hdefaults fun _ _ _ _ => Bind.asKind_ends hdefaults hnested _ _ _ _
    · exact Bind.collection_ends hdefaults fun _ _ _ => Bind.asKind_ends hdefaults hnested _ _ _ _
  · exact (Default.within_cases Δ depth ref).1 (hasChain_of_cycle hreach hcycle depth)
  · obtain ⟨_, ⟨⟩, hholds⟩ := Kind.Forces.reflTransGen_holds hreach
    have hchain := hasChain_of_cycle hholds (Kind.Forces.transGen_holds hcycle) depth
    exact Bind.kindWithin_endless hchain hscalar hgiven place nullable

namespace Sample

def branch : EntityRef := ⟨"Branch", 0⟩

def leaf : EntityRef := ⟨"Leaf", 1⟩

def branches : CollectionRef := ⟨"Branches", 0⟩

def grove : Catalog :=
  ⟨[⟨[⟨"leaf", .entity leaf, false, none⟩, ⟨"children", .collection branches, false, none⟩,
        ⟨"origin", .entity branch, true, none⟩], none⟩, ⟨[⟨"label", .str, false, none⟩], none⟩],
    [⟨.entity branch, false⟩]⟩

def ring : EntityRef := ⟨"Ring", 0⟩

def rings : CollectionRef := ⟨"Rings", 0⟩

/-- A ring needs another ring, and rings are collections of rings. -/
def whorl : Catalog :=
  ⟨[⟨[⟨"next", .entity ring, false, none⟩], none⟩], [⟨.collection rings, false⟩]⟩

/-- A collection of itself, and no entities. -/
def nesting : Catalog := ⟨[], [⟨.collection rings, false⟩]⟩

theorem requires_grove {ref other : EntityRef} (h : ref.Requires grove other) :
    ref.key = 0 ∧ other = leaf := by
  have hkey : ref.key < 2 := h.key_lt
  obtain ⟨name, key⟩ := ref
  cases h with
  | field declared required bound =>
    match key, hkey with
    | 0, _ =>
      simp only [grove, Catalog.entity, List.getElem?_cons_zero, Option.getD_some, List.mem_cons,
        List.not_mem_nil, or_false] at declared
      rcases declared with rfl | rfl | rfl
      · cases bound
        exact ⟨rfl, rfl⟩
      · cases bound
      · cases required
    | 1, _ =>
      simp only [grove, Catalog.entity, List.getElem?_cons_succ, List.getElem?_cons_zero,
        Option.getD_some, List.mem_singleton] at declared
      cases declared
      cases bound

theorem isClosed_grove : grove.IsClosed := by
  intro ref other h
  obtain ⟨-, rfl⟩ := requires_grove h
  decide

def rank : Kind → Nat
  | .collection _ => 2
  | .entity ref => if ref.key = 0 then 1 else 0
  | _ => 0

theorem rank_lt {kind other : Kind} (h : Kind.Forces grove kind other) :
    rank other < rank kind := by
  cases h with
  | @field ref other f declared required bound =>
    obtain ⟨hkey, rfl⟩ := requires_grove (.field declared required bound)
    simp [rank, hkey, leaf]
  | element ref =>
    obtain ⟨name, key⟩ := ref
    cases key with
    | zero => exact Nat.lt_succ_self 1
    | succ key => exact Nat.zero_lt_succ 1

theorem forces_ring : Kind.Forces whorl (.entity ring) (.entity ring) :=
  .field List.mem_cons_self rfl rfl

theorem forces_rings : Kind.Forces whorl (.collection rings) (.collection rings) :=
  .element rings

theorem not_forces_nesting {ref : EntityRef} {kind : Kind} :
    ¬Kind.Forces nesting (.entity ref) kind := by
  intro h
  cases h with
  | field declared => exact absurd declared (by simp [nesting, Catalog.entity])

end Sample

open Sample in
/-- A grove ends, though its branches come from branches; a whorl does not. -/
theorem Catalog.ends_unless_cyclic_grove :
    (∀ kind, ¬TransGen (Kind.Forces grove) kind kind) ∧
      Traced.EndsWithin (Default.within grove · branch) 2 ∧
      (∀ raw, (Collection.ofJson grove branches raw).Ends) ∧
      Traced.NeverEnds (Default.within whorl · ring) ∧
      Traced.NeverEnds
        (Bind.kindWithin whorl · (.index 0) (.collection rings) false (.bool true)) := by
  have hacyclic : ∀ kind, ¬TransGen (Kind.Forces grove) kind kind :=
    Kind.Forces.not_transGen_of_rank fun _ _ => rank_lt
  obtain ⟨hgrove, -, -⟩ := ends_unless_cyclic grove
  obtain ⟨-, hring, hrings⟩ := ends_unless_cyclic whorl
  obtain ⟨-, hclosed, hbinding⟩ := hgrove fun ref => hacyclic (.entity ref)
  obtain ⟨-, -, hcollection⟩ := hbinding fun ref => hacyclic (.collection ref)
  refine ⟨hacyclic, hclosed isClosed_grove branch (by decide), hcollection branches, ?_, ?_⟩
  · exact hring ring (.entity ring) .refl (.single forces_ring)
  · exact hrings rings rings (.bool true) .refl (.single forces_rings) trivial nofun (.index 0)
      false

open Sample in
/-- A collection among its own elements does not bind a bare value, though no entity requires
itself. -/
theorem Catalog.not_ends_nesting :
    (∀ ref, ¬TransGen (Kind.Forces nesting) (.entity ref) (.entity ref)) ∧
      Traced.NeverEnds
        (Bind.kindWithin nesting · (.index 0) (.collection rings) false (.bool true)) ∧
      ¬(Collection.ofJson nesting rings (.bool true)).Ends := by
  have hcycle : TransGen (CollectionRef.Holds nesting) rings rings := .single (.element rings)
  refine ⟨fun ref h => ?_, fun depth => ?_, fun h => h .endlessSchema rfl⟩
  · obtain ⟨kind, hforces, -⟩ := TransGen.head'_iff.1 h
    exact not_forces_nesting hforces
  · have hscalar : (Json.bool true).IsScalar := trivial
    exact Bind.kindWithin_endless (hasChain_of_cycle .refl hcycle depth) hscalar nofun (.index 0)
      false

end RestRecords
