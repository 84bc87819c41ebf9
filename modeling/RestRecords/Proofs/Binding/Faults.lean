import RestRecords.Proofs.Binding.Update
import RestRecords.Proofs.Text.PathText
/-!
# Faults and their places

Data that cannot be bound have a part that cannot be bound by itself. The path in the fault leads to
that part through the fields and positions that were bound, up to its last step: a part that is to be
a named value goes by the name of its type, and one that is to be an entity but is no map gets the
name of the entity behind its own.
-/

namespace RestRecords

/-! ## Places in raw data -/

/-- What a part of raw data is bound as: a field of an entity, or an element of a collection. -/
inductive Demand where
  | field (f : FieldSpec) (kind : Kind)
  | element (i : Nat) (kind : Kind)

namespace Demand

def step : Demand → Step
  | field f _ => .field f.name
  | element i _ => .index i

def kind : Demand → Kind
  | field _ kind | element _ kind => kind

def FailsWithin (Δ : Catalog) (depth : Nat) (e : Error) : Demand → Json → Prop
  | field f kind, raw =>
    (Bind.kindWithin Δ depth (.field f.name) kind f.nullable raw).outcome = Outcome.fail e
  | element i kind, raw =>
    (Bind.element Δ (fun place => Bind.kindWithin Δ depth place kind false) kind i raw).outcome =
      Outcome.fail e

def Fails (Δ : Catalog) (e : Error) (t : Demand) (raw : Json) : Prop :=
  t.FailsWithin Δ (Bind.depthFor Δ raw) e raw

end Demand

/-- Whether raw data, bound as a kind, have a part that is bound as demanded: the entry of a field in
a map, or an element of a list, of the content, or of what stands for a list of one. -/
inductive RawPart (Δ : Catalog) : Kind → Json → Demand → Json → Prop where
  | entry {ref : EntityRef} {entries : List (String × Json)} {key : String} {raw : Json} {i : Nat}
    {f : FieldSpec} (given : (key, raw) ∈ entries) (index : (Δ.entity ref).index? key = some i)
    (declared : (Δ.entity ref).fields[i]? = some f) :
    RawPart Δ (.entity ref) (.obj entries) (.field f ((Δ.entity ref).bindingKind f)) raw
  | element {ref : CollectionRef} {whole : Json} {i : Nat} {raw : Json}
    (given : (Bind.elements ref.name whole)[i]? = some raw) :
    RawPart Δ (.collection ref) whole (.element i (Δ.collection ref).element) raw

/-- Whether the steps in `outer` lead from raw data to the container of a part, and the step of its
demand from there to the part. -/
inductive RawLeads (Δ : Catalog) : Kind → Json → Path → Demand → Json → Prop where
  | part {kind : Kind} {raw : Json} {t : Demand} {leaf : Json} (direct : RawPart Δ kind raw t leaf) :
    RawLeads Δ kind raw [] t leaf
  | inside {kind : Kind} {raw : Json} {t : Demand} {part : Json} {outer : Path} {u : Demand}
    {leaf : Json} (direct : RawPart Δ kind raw t part)
    (rest : RawLeads Δ t.kind part outer u leaf) : RawLeads Δ kind raw (t.step :: outer) u leaf

def Kind.HasParts : Kind → Prop
  | .entity _ | .collection _ => True
  | _ => False

/-- How a fault tells the place of data that cannot be bound as a kind by themselves. -/
def Kind.told (kind : Kind) (place : Step) (raw : Json) : Path :=
  match kind with
  | .value schema => [.field schema.name]
  | .entity ref => if raw.isNull then [place] else [place, .field ref.name]
  | _ => [place]

/-- Whether a part cannot be bound, and this is not due to a part of its own. -/
structure Demand.FailsItself (Δ : Catalog) (t : Demand) (raw : Json) (cause : BindingCause) :
    Prop where
  fails : t.Fails Δ (.binding ⟨t.kind.told t.step raw, t.kind.name, cause⟩) raw
  alone : ∀ u part, ¬RawPart Δ t.kind raw u part

/-- Whether a fault is that of a part which cannot be bound by itself, told as such parts are. -/
def BindingFault.IsAt (Δ : Catalog) (kind : Kind) (raw : Json) (fault : BindingFault) (outer : Path)
    (t : Demand) (leaf : Json) : Prop :=
  RawLeads Δ kind raw outer t leaf ∧ t.FailsItself Δ leaf fault.cause ∧
    fault.target = t.kind.name ∧ fault.path = outer ++ t.kind.told t.step leaf

variable {Δ : Catalog}

namespace Bind

/-! ## Scalars -/

theorem outcome_enumeration_ne_fail {schema : EnumSchema} {place : Step} {nullable : Bool}
    {raw : Json} {e : Error} :
    (enumeration schema place nullable raw).outcome ≠ Outcome.fail e := by
  unfold enumeration
  split
  · exact nofun
  split <;> exact nofun

theorem fault_of_number {kind : Kind} {place : Step} {nullable : Bool} {raw : Json}
    {value : Option FieldValue} {e : Error}
    (h : (number kind place nullable raw value).outcome = Outcome.fail e) :
    ∃ cause, e = fault place kind cause := by
  unfold number at h
  split at h
  · cases h
    exact ⟨_, rfl⟩
  · cases h
    exact ⟨_, rfl⟩
  split at h
  · cases h
  split at h
  · cases h
  · cases h
    exact ⟨_, rfl⟩

theorem fault_of_string {place : Step} {raw : Json} {e : Error}
    (h : (string place raw).outcome = Outcome.fail e) : ∃ cause, e = fault place .str cause := by
  unfold string at h
  split at h <;> cases h <;> exact ⟨_, rfl⟩

theorem fault_of_dateTime {place : Step} {raw : Json} {e : Error}
    (h : (dateTime place raw).outcome = Outcome.fail e) :
    ∃ cause, e = fault place .dateTime cause := by
  unfold dateTime at h
  split at h <;> cases h
  exact ⟨_, rfl⟩

theorem fault_of_notScalar {schema : ValueSchema} {raw : Json} {e : Error}
    (h : NamedValue.unwrap.scalar schema raw = .error e) :
    ∃ cause, e = NamedValue.fault schema cause := by
  unfold NamedValue.unwrap.scalar at h
  split at h <;> cases h
  all_goals exact ⟨_, rfl⟩

theorem fault_of_unwrap {schema : ValueSchema} {raw : Json} {e : Error}
    (h : NamedValue.unwrap schema raw = .error e) : ∃ cause, e = NamedValue.fault schema cause := by
  unfold NamedValue.unwrap at h
  split at h
  · cases h
  · split at h
    · exact fault_of_notScalar h
    · cases h
      exact ⟨_, rfl⟩
  · exact fault_of_notScalar h

theorem fault_of_ofJson {schema : ValueSchema} {raw : Json} {e : Error}
    (h : NamedValue.ofJson schema raw = .error e) : ∃ cause, e = NamedValue.fault schema cause := by
  unfold NamedValue.ofJson NamedValue.prepare at h
  cases hraw : NamedValue.unwrap schema raw with
  | error fault =>
    rw [hraw] at h
    cases h
    exact fault_of_unwrap hraw
  | ok payload =>
    simp only [hraw] at h
    cases hnormal : schema.normalize payload with
    | ok normal =>
      rw [hnormal] at h
      cases h
    | error complaint =>
      rw [hnormal] at h
      cases h
      exact ⟨_, rfl⟩

theorem fault_of_named {schema : ValueSchema} {raw : Json} {e : Error}
    (h : (do return some (.named (← lift (NamedValue.ofJson schema raw))) :
      Traced (Option FieldValue)).outcome = Outcome.fail e) :
    ∃ cause, e = NamedValue.fault schema cause := by
  cases hv : NamedValue.ofJson schema raw with
  | ok v =>
    rw [hv] at h
    cases h
  | error e' =>
    rw [hv] at h
    cases h
    exact fault_of_ofJson hv

/-! ## Entities and collections -/

theorem fault_of_items {bindElement : Nat → Json → Traced FieldValue} {i : Nat} {raws : List Json}
    {e : Error} (h : (items bindElement i raws).outcome = Outcome.fail e) :
    ∃ k raw, raws[k]? = some raw ∧ (bindElement (i + k) raw).outcome = Outcome.fail e := by
  induction raws generalizing i with
  | nil => cases h
  | cons raw raws ih =>
    rcases Traced.outcome_bind_eq_fail_iff.1 h with hfirst | ⟨v, -, h⟩
    · exact ⟨0, raw, rfl, hfirst⟩
    · rcases Traced.outcome_bind_eq_fail_iff.1 h with hrest | ⟨rest, -, h⟩
      · obtain ⟨k, raw', hraw, hfails⟩ := ih hrest
        exact ⟨k + 1, raw', hraw, by rwa [Nat.add_comm k, ← Nat.add_assoc]⟩
      · cases h

theorem part_of_collection {ref : CollectionRef} {raw : Json} {e : Error}
    {bindElement : Kind → Step → Json → Traced (Option FieldValue)}
    (h : (collection Δ bindElement ref raw).outcome = Outcome.fail e) :
    ∃ i part, RawPart Δ (.collection ref) raw (.element i (Δ.collection ref).element) part ∧
      (element Δ (bindElement (Δ.collection ref).element) (Δ.collection ref).element i
        part).outcome = Outcome.fail e := by
  rcases Traced.outcome_bind_eq_fail_iff.1 h with hitems | ⟨_, -, h⟩
  · obtain ⟨k, part, hpart, hfails⟩ := fault_of_items hitems
    rw [Nat.zero_add] at hfails
    exact ⟨k, part, .element hpart, hfails⟩
  · cases h

theorem part_of_entity {ref : EntityRef} {raw : Json} {e : Error}
    {bindField : EntityDecl → FieldSpec → Json → Traced (Option FieldValue)}
    (h : (entity Δ bindField ref raw).outcome = Outcome.fail e) :
    ((∀ entries, raw ≠ .obj entries) ∧
      e = .binding ⟨[.field ref.name], ref.name, .notAMap⟩) ∨
    ∃ f part, RawPart Δ (.entity ref) raw (.field f ((Δ.entity ref).bindingKind f)) part ∧
      (bindField (Δ.entity ref) f part).outcome = Outcome.fail e := by
  unfold entity at h
  split at h
  · exact absurd h Record.outcome_initial_ne_fail
  rename_i hnull
  rcases Traced.outcome_bind_eq_fail_iff.1 h with hreport | ⟨_, -, h⟩
  · cases raw with
    | obj entries =>
      obtain ⟨done, hstop, -⟩ := stopsAfter_of_assign hreport
      cases hstop with
      | stop _ index field fails =>
        exact .inr ⟨_, _, .entry List.mem_append_cons_self index field, fails⟩
    | null => exact absurd rfl hnull
    | _ =>
      cases hreport
      exact .inl ⟨nofun, rfl⟩
  · cases h

/-! ## The part to blame -/

/-- Whether data cannot be bound as a kind by themselves, however far the steps into them lead. -/
structure FailsAlone (Δ : Catalog) (place : Step) (kind : Kind) (nullable : Bool) (raw : Json)
    (e : Error) : Prop where
  told : ∃ cause, e = .binding ⟨kind.told place raw, kind.name, cause⟩
  steady : ∀ depth, (kindWithin Δ (depth + 1) place kind nullable raw).outcome = Outcome.fail e
  alone : ∀ u part, ¬RawPart Δ kind raw u part

theorem not_rawPart_null {kind : Kind} {u : Demand} {part : Json} :
    ¬RawPart Δ kind .null u part := by
  intro h
  cases h with
  | element given => cases given

theorem failsAlone_null {depth : Nat} {place : Step} {kind : Kind} {nullable : Bool} {e : Error}
    (h : (kindWithin Δ (depth + 1) place kind nullable .null).outcome = Outcome.fail e) :
    FailsAlone Δ place kind nullable .null e := by
  have hsteady : ∀ d, kindWithin Δ (d + 1) place kind nullable .null =
      kindWithin Δ (depth + 1) place kind nullable .null := by
    intro d
    cases kind <;> rfl
  refine ⟨?_, fun d => by rw [hsteady d, h], fun _ _ => not_rawPart_null⟩
  cases nullable with
  | true => cases kind <;> cases h
  | false =>
    cases kind with
    | enumeration schema => exact absurd h outcome_enumeration_ne_fail
    | value schema =>
      obtain ⟨cause, rfl⟩ := fault_of_named h
      exact ⟨cause, rfl⟩
    | _ =>
      cases h
      exact ⟨.nullRefused, rfl⟩

/-- A failure to bind as a kind whose data have no parts. -/
theorem failsAlone_of_scalar {depth : Nat} {place : Step} {kind : Kind} {nullable : Bool}
    {raw : Json} {e : Error} (hparts : ¬kind.HasParts)
    (h : (kindWithin Δ (depth + 1) place kind nullable raw).outcome = Outcome.fail e)
    (htold : ∃ cause, e = .binding ⟨kind.told place raw, kind.name, cause⟩) :
    FailsAlone Δ place kind nullable raw e := by
  refine ⟨htold, fun d => ?_, fun u part hpart => ?_⟩
  · rw [← h]
    cases kind with
    | entity ref => exact absurd trivial hparts
    | collection ref => exact absurd trivial hparts
    | _ => rfl
  · cases hpart with
    | entry => exact hparts trivial
    | element => exact hparts trivial

theorem failsAlone_or_part {depth : Nat} {place : Step} {kind : Kind} {nullable : Bool} {raw : Json}
    {e : Error}
    (h : (kindWithin Δ (depth + 1) place kind nullable raw).outcome = Outcome.fail e) :
    FailsAlone Δ place kind nullable raw e ∨ ∃ u part inner, RawPart Δ kind raw u part ∧
      u.FailsWithin Δ depth inner part ∧ e = nest place inner := by
  cases hnull : raw.isNull with
  | true =>
    cases raw with
    | null => exact .inl (failsAlone_null h)
    | _ => cases hnull
  | false =>
    have hbound := h
    simp only [kindWithin, hnull] at hbound
    cases kind with
    | bool => exact .inl (failsAlone_of_scalar not_false h (fault_of_number hbound))
    | int => exact .inl (failsAlone_of_scalar not_false h (fault_of_number hbound))
    | float => exact .inl (failsAlone_of_scalar not_false h (fault_of_number hbound))
    | str => exact .inl (failsAlone_of_scalar not_false h (fault_of_string hbound))
    | dateTime => exact .inl (failsAlone_of_scalar not_false h (fault_of_dateTime hbound))
    | enumeration schema => exact absurd hbound outcome_enumeration_ne_fail
    | value schema => exact .inl (failsAlone_of_scalar not_false h (fault_of_named hbound))
    | entity ref =>
      rcases Traced.outcome_bind_eq_fail_iff.1 hbound with hentity | ⟨_, -, h⟩
      · obtain ⟨inner, hinner, rfl⟩ := Traced.outcome_mapError_eq_fail_iff.1 hentity
        rcases part_of_entity hinner with ⟨hmap, rfl⟩ | ⟨f, part, hpart, hfails⟩
        · have htold : (Kind.entity ref).told place raw = [place, .field ref.name] := by
            rw [Kind.told, hnull]
            rfl
          refine .inl ⟨⟨.notAMap, by rw [htold]; rfl⟩, fun d => ?_, fun u part hpart => ?_⟩
          · rw [← h]
            cases raw with
            | obj entries => exact absurd rfl (hmap entries)
            | _ => rfl
          · cases hpart
            exact hmap _ rfl
        · exact .inr ⟨_, part, inner, hpart, hfails, rfl⟩
      · cases h
    | collection ref =>
      rcases Traced.outcome_bind_eq_fail_iff.1 hbound with hcollection | ⟨_, -, h⟩
      · obtain ⟨inner, hinner, rfl⟩ := Traced.outcome_mapError_eq_fail_iff.1 hcollection
        obtain ⟨i, part, hpart, hfails⟩ := part_of_collection hinner
        exact .inr ⟨_, part, inner, hpart, hfails, rfl⟩
      · cases h

/-- Only an enumeration may bind to nothing. -/
theorem kind_of_kindWithin_ok_none {depth : Nat} {place : Step} {kind : Kind} {nullable : Bool}
    {raw : Json} (h : (kindWithin Δ depth place kind nullable raw).outcome = .ok none) :
    ∃ schema, kind = .enumeration schema := by
  have hnumber : ∀ {value}, (number kind place nullable raw value).outcome ≠ .ok none := by
    intro value h
    unfold number at h
    split at h
    · cases h
    · cases h
    split at h
    · cases h
    split at h <;> cases h
  cases depth with
  | zero => cases h
  | succ depth =>
    unfold kindWithin at h
    split at h
    · exact ⟨_, rfl⟩
    split at h
    · split at h
      · cases h
      split at h
      · obtain ⟨_, -, h⟩ := Traced.outcome_bind_eq_ok_iff.1 h
        cases h
      · cases h
    split at h
    · exact absurd h hnumber
    · exact absurd h hnumber
    · exact absurd h hnumber
    · unfold string at h
      split at h <;> cases h
    · unfold dateTime at h
      split at h <;> cases h
    · exact ⟨_, rfl⟩
    all_goals
      obtain ⟨_, -, h⟩ := Traced.outcome_bind_eq_ok_iff.1 h
      cases h

theorem outcome_element_eq_fail_iff {kind : Kind} {i : Nat} {raw : Json} {e : Error}
    {bindElement : Step → Json → Traced (Option FieldValue)} :
    (element Δ bindElement kind i raw).outcome = Outcome.fail e ↔
      (∀ ref, kind = .entity ref → raw ≠ .null) ∧
        ((bindElement (.index i) raw).outcome = Outcome.fail e ∨
          (bindElement (.index i) raw).outcome = .ok none ∧
            e = fault (.index i) kind (.invalidValue raw)) := by
  unfold element
  split
  · rename_i ref
    refine iff_of_false (fun h => ?_) fun h => h.1 ref rfl rfl
    rcases Traced.outcome_bind_eq_fail_iff.1 h with hinitial | ⟨_, -, h⟩
    · exact Record.outcome_initial_ne_fail hinitial
    · cases h
  · rename_i hother
    rw [Traced.outcome_bind_eq_fail_iff, and_iff_right fun ref hkind => hother ref hkind]
    refine or_congr_right ⟨fun ⟨bound, hbound, h⟩ => ?_, fun ⟨hnone, he⟩ => ⟨none, hnone, ?_⟩⟩
    · cases bound with
      | none =>
        cases h
        exact ⟨hbound, rfl⟩
      | some v => cases h
    · rw [he]
      rfl

end Bind

/-- A part that cannot be bound cannot be bound by itself, or has a part that cannot. -/
theorem Demand.failsItself_or_part {depth : Nat} {t : Demand} {raw : Json} {e : Error}
    (h : t.FailsWithin Δ (depth + 1) e raw) :
    (∃ cause, e = .binding ⟨t.kind.told t.step raw, t.kind.name, cause⟩ ∧
      t.FailsItself Δ raw cause) ∨
    ∃ u part inner, RawPart Δ t.kind raw u part ∧ u.FailsWithin Δ depth inner part ∧
      e = Bind.nest t.step inner := by
  cases t with
  | field f kind =>
    rcases Bind.failsAlone_or_part h with halone | hpart
    · obtain ⟨cause, rfl⟩ := halone.told
      exact .inl ⟨cause, rfl, halone.steady _, halone.alone⟩
    · exact .inr hpart
  | element i kind =>
    obtain ⟨hnull, hfails | ⟨hnone, rfl⟩⟩ := Bind.outcome_element_eq_fail_iff.1 h
    · rcases Bind.failsAlone_or_part hfails with halone | hpart
      · obtain ⟨cause, rfl⟩ := halone.told
        exact .inl ⟨cause, rfl,
          Bind.outcome_element_eq_fail_iff.2 ⟨hnull, .inl (halone.steady _)⟩, halone.alone⟩
      · exact .inr hpart
    · obtain ⟨schema, rfl⟩ := Bind.kind_of_kindWithin_ok_none hnone
      exact .inl ⟨.invalidValue raw, rfl,
        Bind.outcome_element_eq_fail_iff.2 ⟨hnull, .inr ⟨hnone, rfl⟩⟩, fun _ _ h => nomatch h⟩

theorem Demand.not_failsWithin_zero {t : Demand} {raw : Json} {e : Error} :
    ¬t.FailsWithin Δ 0 e raw := by
  cases t with
  | field f kind => exact nofun
  | element i kind =>
    intro h
    obtain ⟨-, hfails | ⟨hnone, -⟩⟩ := Bind.outcome_element_eq_fail_iff.1 h
    · cases hfails
    · cases hnone

/-- The fault of a part that cannot be bound is at the part or inside it. -/
theorem RawPart.exists_isAt {kind : Kind} {raw part : Json} {t : Demand} {depth : Nat} {e : Error}
    (hpart : RawPart Δ kind raw t part) (h : t.FailsWithin Δ depth e part) :
    ∃ fault, e = .binding fault ∧ ∃ outer u leaf, fault.IsAt Δ kind raw outer u leaf := by
  induction depth generalizing kind raw t part e with
  | zero => exact absurd h Demand.not_failsWithin_zero
  | succ depth ih =>
    rcases Demand.failsItself_or_part h with ⟨cause, rfl, hitself⟩ |
      ⟨u, inner, e', hinner, hfails, rfl⟩
    · exact ⟨_, rfl, [], t, part, .part hpart, hitself, rfl, rfl⟩
    · obtain ⟨fault, rfl, outer, w, leaf, hleads, hitself, htarget, hpath⟩ := ih hinner hfails
      exact ⟨_, rfl, t.step :: outer, w, leaf, .inside hpart hleads, hitself, htarget,
        congrArg (t.step :: ·) hpath⟩

theorem exists_isAt_of_record {ref : EntityRef} {entries : List (String × Json)} {e : Error}
    (h : (Record.ofJson Δ ref (.obj entries)).outcome = Outcome.fail e) :
    ∃ fault, e = .binding fault ∧
      ∃ outer t leaf, fault.IsAt Δ (.entity ref) (.obj entries) outer t leaf := by
  rcases Bind.part_of_entity h with ⟨hmap, -⟩ | ⟨f, part, hpart, hfails⟩
  · exact absurd rfl (hmap entries)
  · exact hpart.exists_isAt hfails

theorem exists_isAt_of_collection {ref : CollectionRef} {raw : Json} {e : Error}
    (h : (Collection.ofJson Δ ref raw).outcome = Outcome.fail e) :
    ∃ fault, e = .binding fault ∧
      ∃ outer t leaf, fault.IsAt Δ (.collection ref) raw outer t leaf := by
  obtain ⟨i, part, hpart, hfails⟩ := Bind.part_of_collection h
  have hdemand : Demand.FailsWithin Δ (Bind.depthFor Δ part) e
      (.element i (Δ.collection ref).element) part :=
    Bind.outcome_element_eq_fail_iff.2 (Bind.outcome_element_eq_fail_iff.1 hfails)
  exact hpart.exists_isAt hdemand

/-! ## Faults read as paths -/

/-- Whether all fields that the declaration of a kind leads to have names that can stand in the text
of a path. -/
def Kind.HasPlainNames (Δ : Catalog) (kind : Kind) : Prop :=
  ∀ ref, kind.Reaches Δ (.entity ref) → ∀ f ∈ (Δ.entity ref).fields, IsPlainName f.name

/-- Whether a path leads from raw data, bound as a kind, to a part that cannot be bound as what it is
declared to be. -/
def Path.LeadsToFailure (Δ : Catalog) (kind : Kind) (raw : Json) (path : Path) : Prop :=
  ∃ outer t leaf e, path = outer ++ [t.step] ∧ RawLeads Δ kind raw outer t leaf ∧ t.Fails Δ e leaf

/-- Whether a part that cannot be bound goes by its place: a named value only in a field that has the
name of its type, an entity only if it is null. -/
def Demand.GoesByPlace (t : Demand) (leaf : Json) : Prop :=
  match t.kind with
  | .value schema => t.step = .field schema.name
  | .entity _ => leaf.isNull = true
  | _ => True

theorem Demand.told_eq_iff {t : Demand} {leaf : Json} :
    t.kind.told t.step leaf = [t.step] ↔ t.GoesByPlace leaf := by
  unfold GoesByPlace Kind.told
  split
  · rw [List.cons.injEq, and_iff_left rfl, eq_comm]
  · split <;> simp [*]
  · exact iff_of_true rfl trivial

theorem RawPart.hasPlainNames {kind : Kind} {raw leaf : Json} {t : Demand}
    (h : RawPart Δ kind raw t leaf) (hnames : kind.HasPlainNames Δ) : t.kind.HasPlainNames Δ := by
  cases h with
  | entry _ _ declared =>
    exact fun ref href => hnames ref (.field (List.mem_of_getElem? declared) href)
  | element _ => exact fun ref href => hnames ref (.element href)

theorem RawPart.isPlainName {kind : Kind} {raw leaf : Json} {t : Demand} {name : String}
    (h : RawPart Δ kind raw t leaf) (hnames : kind.HasPlainNames Δ) (hname : t.step = .field name) :
    IsPlainName name := by
  cases h with
  | entry _ _ declared =>
    cases hname
    exact hnames _ (.self _) _ (List.mem_of_getElem? declared)
  | element _ => cases hname

theorem RawLeads.isPlain {kind : Kind} {raw leaf : Json} {outer : Path} {t : Demand}
    (h : RawLeads Δ kind raw outer t leaf) (hnames : kind.HasPlainNames Δ) :
    Path.IsPlain (outer ++ [t.step]) := by
  induction h with
  | part direct =>
    intro name hname
    exact direct.isPlainName hnames (List.mem_singleton.1 hname).symm
  | inside direct _ ih =>
    intro name hname
    rcases List.mem_cons.1 hname with hname | hname
    · exact direct.isPlainName hnames hname.symm
    · exact ih (direct.hasPlainNames hnames) name hname

/-- What the path of a fault has to do with the part that cannot be bound: the part is there, and its
fault is told as it is by itself; the path is the place of the part exactly if the part goes by its
place, and is then read back from its text. -/
def BindingFault.IsTold (Δ : Catalog) (kind : Kind) (raw : Json) (fault : BindingFault) : Prop :=
  ∃ outer t leaf, fault.IsAt Δ kind raw outer t leaf ∧
    Path.LeadsToFailure Δ kind raw (outer ++ [t.step]) ∧
    (fault.path = outer ++ [t.step] ↔ t.GoesByPlace leaf) ∧
    (kind.HasPlainNames Δ → t.GoesByPlace leaf →
      Path.read fault.path.text = outer ++ [t.step])

theorem BindingFault.IsAt.isTold {kind : Kind} {raw leaf : Json} {fault : BindingFault}
    {outer : Path} {t : Demand} (h : fault.IsAt Δ kind raw outer t leaf) :
    fault.IsTold Δ kind raw := by
  obtain ⟨hleads, hitself, htarget, hpath⟩ := h
  have hplace : fault.path = outer ++ [t.step] ↔ t.GoesByPlace leaf := by
    rw [hpath, List.append_cancel_left_eq, Demand.told_eq_iff]
  refine ⟨outer, t, leaf, ⟨hleads, hitself, htarget, hpath⟩,
    ⟨outer, t, leaf, _, rfl, hleads, hitself.fails⟩, hplace, fun hnames hgoes => ?_⟩
  rw [hplace.2 hgoes]
  exact Path.read_text (hleads.isPlain hnames)

/-- Whenever a map cannot be bound as an entity, or data as a collection, the fault is that of a part
which cannot be bound by itself. Its path is the place of that part unless the part is to be a named
value or is no map for an entity. -/
theorem exists_isTold_of_fail (Δ : Catalog) :
    (∀ ref entries e, (Record.ofJson Δ ref (.obj entries)).outcome = Outcome.fail e →
      ∃ fault, e = .binding fault ∧ fault.IsTold Δ (.entity ref) (.obj entries)) ∧
    ∀ ref raw e, (Collection.ofJson Δ ref raw).outcome = Outcome.fail e →
      ∃ fault, e = .binding fault ∧ fault.IsTold Δ (.collection ref) raw := by
  refine ⟨fun ref entries e h => ?_, fun ref raw e h => ?_⟩
  · obtain ⟨fault, he, outer, t, leaf, hat⟩ := exists_isAt_of_record h
    exact ⟨fault, he, hat.isTold⟩
  · obtain ⟨fault, he, outer, t, leaf, hat⟩ := exists_isAt_of_collection h
    exact ⟨fault, he, hat.isTold⟩

namespace Sample

def sender : EntityRef := ⟨"Sender", 0⟩

def senders : Catalog where
  entities := [⟨[{ name := "mail", kind := .value Contact.emailAddress }], none⟩]
  collections := [⟨.entity sender, false⟩]

def mailFault (outer : Path) : BindingFault :=
  ⟨outer ++ [.field "emailAddress"], "emailAddress", .rejected "5 is not an e-mail address"⟩

theorem sender_fails : (Record.ofJson senders sender (.obj [("mail", .int 5)])).outcome =
    Outcome.fail (.binding (mailFault [])) :=
  rfl

theorem hasPlainNames_sender : (Kind.entity sender).HasPlainNames senders := by
  intro ref href f hf
  cases href with
  | self =>
    obtain rfl := List.mem_singleton.1 hf
    exact ⟨by decide, by decide, by decide⟩
  | field declared rest =>
    obtain rfl := List.mem_singleton.1 declared
    cases rest

end Sample

open Sample in
theorem exists_isTold_of_fail_senders :
    (mailFault []).IsTold senders (.entity sender) (.obj [("mail", .int 5)]) ∧
    (mailFault [.index 1]).IsTold senders (.collection ⟨"Senders", 0⟩)
      (.arr [.null, .obj [("mail", .int 5)]]) := by
  obtain ⟨_, ⟨⟩, hrecord⟩ := (exists_isTold_of_fail senders).1 _ _ _ sender_fails
  have hfails : (Collection.ofJson senders ⟨"Senders", 0⟩
      (.arr [.null, .obj [("mail", .int 5)]])).outcome =
        Outcome.fail (.binding (mailFault [.index 1])) := rfl
  obtain ⟨_, ⟨⟩, hcollection⟩ := (exists_isTold_of_fail senders).2 _ _ _ hfails
  exact ⟨hrecord, hcollection⟩

open Sample in
/-- The fault of a named value goes by the name of its type, which is no field here. -/
theorem not_leadsToFailure_mailFault :
    (Record.ofJson senders sender (.obj [("mail", .int 5)])).outcome =
      Outcome.fail (.binding (mailFault [])) ∧
    (Kind.entity sender).HasPlainNames senders ∧
    ¬(Path.read (mailFault []).path.text).LeadsToFailure senders (.entity sender)
      (.obj [("mail", .int 5)]) := by
  refine ⟨sender_fails, hasPlainNames_sender, ?_⟩
  rintro ⟨outer, t, leaf, e, hpath, hleads, -⟩
  have hplain : (mailFault []).path.IsPlain := by
    intro name hname
    cases List.mem_singleton.1 hname
    exact ⟨by decide, by decide, by decide⟩
  rw [Path.read_text hplain] at hpath
  cases hleads with
  | inside direct rest =>
    have hlength := congrArg List.length hpath
    simp [mailFault] at hlength
  | part direct =>
    have hstep : Step.field "emailAddress" = t.step := (List.cons.inj hpath).1
    cases direct with
    | entry given index declared =>
      rename_i i f
      have hmem : f ∈ (senders.entity sender).fields := List.mem_of_getElem? declared
      obtain rfl := List.mem_singleton.1 hmem
      exact absurd hstep (by decide)

end RestRecords
