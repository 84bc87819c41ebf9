import RestRecords.Proofs.Binding.Representation
import RestRecords.Contact
/-!
# Updates that fail

The entries of a map are bound one after the other. Where one cannot be bound, those before it have
been put into their slots and those behind it have not: an entity whose update fails is what it was
exactly if the entries before the failure held nothing new.
-/

namespace RestRecords

namespace Bind

variable {bindField : FieldSpec → Json → Traced (Option FieldValue)} {d : EntityDecl}
  {ref : EntityRef}

/-- Whether an entry does not stop the entries behind it: it is undeclared, or can be bound. -/
def Passes (bindField : FieldSpec → Json → Traced (Option FieldValue)) (d : EntityDecl)
    (entry : String × Json) : Prop :=
  ∀ i f, d.index? entry.1 = some i → d.fields[i]? = some f →
    ∃ v, (bindField f entry.2).outcome = .ok v

def boundAt? (bindField : FieldSpec → Json → Traced (Option FieldValue)) (d : EntityDecl) (i : Nat)
    (entry : String × Json) : Option FieldValue :=
  if d.index? entry.1 = some i then
    d.fields[i]?.bind fun f =>
      match (bindField f entry.2).outcome with
      | .ok v => v
      | .error _ => none
  else none

/-- The value for the slot at `i` among entries; of several the last one counts. -/
def lastBoundAt? (bindField : FieldSpec → Json → Traced (Option FieldValue)) (d : EntityDecl)
    (i : Nat) (entries : List (String × Json)) : Option FieldValue :=
  (entries.filterMap (boundAt? bindField d i)).getLast?

/-- The slots after entries have been put into them. -/
def settled (bindField : FieldSpec → Json → Traced (Option FieldValue)) (d : EntityDecl)
    (entries : List (String × Json)) (slots : Slots) : Slots :=
  slots.mapIdx fun i old => (lastBoundAt? bindField d i entries).or old

/-- Whether entries come to a stop with `x`: all in `done` pass, and the next one cannot be bound. -/
inductive StopsAfter (bindField : FieldSpec → Json → Traced (Option FieldValue)) (d : EntityDecl)
    (x : Failure) : List (String × Json) → List (String × Json) → Prop where
  | stop {done rest : List (String × Json)} {entry : String × Json} {i : Nat} {f : FieldSpec}
    (passed : ∀ entry ∈ done, Passes bindField d entry) (index : d.index? entry.1 = some i)
    (field : d.fields[i]? = some f) (fails : (bindField f entry.2).outcome = .error x) :
    StopsAfter bindField d x (done ++ entry :: rest) done

theorem lastBoundAt?_cons (i : Nat) (entry : String × Json) (rest : List (String × Json)) :
    lastBoundAt? bindField d i (entry :: rest) =
      (lastBoundAt? bindField d i rest).or (boundAt? bindField d i entry) := by
  unfold lastBoundAt?
  cases h : boundAt? bindField d i entry with
  | none => rw [List.filterMap_cons_none h, Option.or_none]
  | some v =>
    rw [List.filterMap_cons_some h, List.getLast?_cons]
    cases (rest.filterMap (boundAt? bindField d i)).getLast? <;> rfl

theorem getElem?_settled (entries : List (String × Json)) (slots : Slots) (i : Nat) :
    (settled bindField d entries slots)[i]? =
      slots[i]?.map (lastBoundAt? bindField d i entries).or :=
  List.getElem?_mapIdx

theorem map_or_none (slot : Option (Option FieldValue)) :
    slot.map (none : Option FieldValue).or = slot := by
  cases slot <;> rfl

theorem settled_nil (slots : Slots) : settled bindField d [] slots = slots := by
  apply List.ext_getElem?
  intro i
  rw [getElem?_settled]
  exact map_or_none _

theorem settled_cons {entry : String × Json} {rest : List (String × Json)} {slots next : Slots}
    (h : ∀ i : Nat, next[i]? = slots[i]?.map (boundAt? bindField d i entry).or) :
    settled bindField d rest next = settled bindField d (entry :: rest) slots := by
  apply List.ext_getElem?
  intro i
  rw [getElem?_settled, getElem?_settled, h, Option.map_map]
  congr 1
  funext old
  rw [lastBoundAt?_cons, Function.comp_apply, Option.or_assoc]

theorem boundAt?_of_undeclared {key : String} (h : d.index? key = none) (i : Nat) (raw : Json) :
    boundAt? bindField d i (key, raw) = none :=
  if_neg (by rw [h]; exact nofun)

theorem boundAt?_of_declared {key : String} {j : Nat} {f : FieldSpec} {raw : Json}
    {v : Option FieldValue} (hj : d.index? key = some j) (hf : d.fields[j]? = some f)
    (hv : (bindField f raw).outcome = .ok v) (i : Nat) :
    boundAt? bindField d i (key, raw) = if j = i then v else none := by
  unfold boundAt?
  simp only [hj, Option.some.injEq]
  split
  · subst_vars
    simp only [hf, Option.bind_some, hv]
  · rfl

theorem exists_field_of_lastBoundAt? {i : Nat} {entries : List (String × Json)} {v : FieldValue}
    (h : lastBoundAt? bindField d i entries = some v) : ∃ f, d.fields[i]? = some f := by
  obtain ⟨entry, -, hbound⟩ := List.mem_filterMap.1 (List.mem_of_getLast? h)
  unfold boundAt? at hbound
  split at hbound
  · obtain ⟨f, hf, -⟩ := Option.bind_eq_some_iff.1 hbound
    exact ⟨f, hf⟩
  · cases hbound

theorem exists_field_of_index? {key : String} {i : Nat} (h : d.index? key = some i) :
    ∃ f, d.fields[i]? = some f := by
  obtain ⟨hi, -⟩ := List.findIdx?_eq_some_iff_getElem.1 h
  exact ⟨_, List.getElem?_eq_getElem hi⟩

variable (ref) in
/-- Entries that pass are put into their slots, and the others follow. -/
theorem assign_append {done : List (String × Json)} (h : ∀ entry ∈ done, Passes bindField d entry)
    (rest : List (String × Json)) (slots : Slots) :
    (assign bindField ref d (done ++ rest) slots).slots =
        (assign bindField ref d rest (settled bindField d done slots)).slots ∧
      (assign bindField ref d (done ++ rest) slots).report.outcome =
        (assign bindField ref d rest (settled bindField d done slots)).report.outcome := by
  induction done generalizing slots with
  | nil => simp only [List.nil_append, settled_nil, and_self]
  | cons entry done ih =>
    obtain ⟨key, raw⟩ := entry
    have hrest := ih fun e he => h e (List.mem_cons_of_mem _ he)
    rw [List.cons_append, assign]
    cases hj : d.index? key with
    | none =>
      have hnext : ∀ i : Nat,
          slots[i]? = slots[i]?.map (boundAt? bindField d i (key, raw)).or := by
        intro i
        rw [boundAt?_of_undeclared hj, map_or_none]
      rw [← settled_cons hnext]
      simpa [Except.bind] using hrest slots
    | some j =>
      obtain ⟨f, hf⟩ := exists_field_of_index? hj
      obtain ⟨v, hv⟩ := h (key, raw) List.mem_cons_self j f hj hf
      have hbound := boundAt?_of_declared hj hf hv
      cases v with
      | none =>
        have hnext : ∀ i : Nat,
            slots[i]? = slots[i]?.map (boundAt? bindField d i (key, raw)).or := by
          intro i
          rw [hbound, ite_self, map_or_none]
        rw [← settled_cons hnext]
        simp only [hf, hv]
        exact hrest slots
      | some v =>
        have hnext : ∀ i : Nat, (slots.set j (some v))[i]? =
            slots[i]?.map (boundAt? bindField d i (key, raw)).or := by
          intro i
          rw [hbound, List.getElem?_set']
          split
          · rfl
          · exact (map_or_none _).symm
        rw [← settled_cons hnext]
        simp only [hf, hv]
        exact hrest _

variable (bindField d) in
theorem passes_or_fails (entry : String × Json) : Passes bindField d entry ∨
    ∃ i f x, d.index? entry.1 = some i ∧ d.fields[i]? = some f ∧
      (bindField f entry.2).outcome = .error x := by
  cases hindex : d.index? entry.1 with
  | none => exact .inl fun i f hi => absurd (hindex.symm.trans hi) nofun
  | some i =>
    obtain ⟨f, hf⟩ := exists_field_of_index? hindex
    cases hv : (bindField f entry.2).outcome with
    | error x => exact .inr ⟨i, f, x, rfl, hf, hv⟩
    | ok v =>
      refine .inl fun j g hj hg => ?_
      obtain rfl : i = j := Option.some.inj (hindex.symm.trans hj)
      obtain rfl : f = g := Option.some.inj (hf.symm.trans hg)
      exact ⟨v, hv⟩

variable (bindField d) in
theorem forall_passes_or_stopsAfter (entries : List (String × Json)) :
    (∀ entry ∈ entries, Passes bindField d entry) ∨
      ∃ x done, StopsAfter bindField d x entries done := by
  induction entries with
  | nil => exact .inl nofun
  | cons entry rest ih =>
    rcases passes_or_fails bindField d entry with
      hentry | ⟨i, f, x, hindex, hfield, hfails⟩
    · rcases ih with hall | ⟨x, done, hstop⟩
      · exact .inl (List.forall_mem_cons.2 ⟨hentry, hall⟩)
      · cases hstop with
        | stop passed index field fails =>
          exact .inr ⟨x, entry :: done,
            .stop (List.forall_mem_cons.2 ⟨hentry, passed⟩) index field fails⟩
    · exact .inr ⟨x, [], .stop (List.forall_mem_nil _) hindex hfield hfails⟩

variable (ref) in
theorem assign_of_passes {entries : List (String × Json)}
    (h : ∀ entry ∈ entries, Passes bindField d entry) (slots : Slots) :
    (assign bindField ref d entries slots).report.outcome = .ok () ∧
      (assign bindField ref d entries slots).slots = settled bindField d entries slots := by
  obtain ⟨hslots, hreport⟩ := assign_append ref h [] slots
  rw [List.append_nil] at hslots hreport
  exact ⟨hreport, hslots⟩

variable (ref) in
theorem assign_of_stopsAfter {x : Failure} {entries done : List (String × Json)}
    (h : StopsAfter bindField d x entries done) (slots : Slots) :
    (assign bindField ref d entries slots).report.outcome = .error x ∧
      (assign bindField ref d entries slots).slots = settled bindField d done slots := by
  cases h with
  | @stop _ rest entry i f passed index field fails =>
    obtain ⟨hslots, hreport⟩ := assign_append ref passed (entry :: rest) slots
    constructor
    · rw [hreport, assign]
      simp only [index, field, fails]
    · rw [hslots, assign]
      simp only [index, field, fails]

variable (bindField d ref) in
/-- What becomes of slots: either all entries are put into them, or those before the one that cannot
be bound. -/
theorem assign_cases (entries : List (String × Json)) (slots : Slots) :
    ((assign bindField ref d entries slots).report.outcome = .ok () ∧
        (∀ entry ∈ entries, Passes bindField d entry) ∧
        (assign bindField ref d entries slots).slots = settled bindField d entries slots) ∨
      ∃ x done, (assign bindField ref d entries slots).report.outcome = .error x ∧
        StopsAfter bindField d x entries done ∧
        (assign bindField ref d entries slots).slots = settled bindField d done slots := by
  rcases forall_passes_or_stopsAfter bindField d entries with hall | ⟨x, done, hstop⟩
  · obtain ⟨hreport, hslots⟩ := assign_of_passes ref hall slots
    exact .inl ⟨hreport, hall, hslots⟩
  · obtain ⟨hreport, hslots⟩ := assign_of_stopsAfter ref hstop slots
    exact .inr ⟨x, done, hreport, hstop, hslots⟩

theorem stopsAfter_of_assign {entries : List (String × Json)} {slots : Slots} {x : Failure}
    (h : (assign bindField ref d entries slots).report.outcome = .error x) :
    ∃ done, StopsAfter bindField d x entries done ∧
      (assign bindField ref d entries slots).slots = settled bindField d done slots := by
  rcases assign_cases bindField d ref entries slots with ⟨hok, -, -⟩ |
    ⟨y, done, hfails, hstop, hslots⟩
  · cases hok.symm.trans h
  · obtain rfl : y = x := Except.error.inj (hfails.symm.trans h)
    exact ⟨done, hstop, hslots⟩

/-- Slots are what they were if every value for one of them is the value it holds. -/
theorem settled_eq_self_iff {entries : List (String × Json)} {slots : Slots}
    (hlength : slots.length = d.fields.length) : settled bindField d entries slots = slots ↔
      ∀ i v, lastBoundAt? bindField d i entries = some v → slots[i]? = some (some v) := by
  have hself : settled bindField d entries slots = slots ↔
      ∀ i : Nat, slots[i]?.map (lastBoundAt? bindField d i entries).or = slots[i]? := by
    simp only [List.ext_getElem?_iff, getElem?_settled]
  rw [hself]
  refine forall_congr' fun i => ?_
  cases hlast : lastBoundAt? bindField d i entries with
  | none => exact iff_of_true (map_or_none _) nofun
  | some v =>
    obtain ⟨f, hf⟩ := exists_field_of_lastBoundAt? hlast
    have hi : i < slots.length := hlength ▸ (List.getElem?_eq_some_iff.1 hf).1
    simp [List.getElem?_eq_getElem hi, eq_comm]

end Bind

variable {Δ : Catalog}

/-- An entity whose update fails keeps its slots if the data are no map. Otherwise the entries before
the first one that cannot be bound are in their slots, and nothing else has changed; so it is what it
was exactly if each value for one of its slots is the value that was there. -/
theorem update_of_failure {r : Record} (hr : Obtainable Δ (.ofRecord r)) {raw : Json} {x : Failure}
    (h : (r.update Δ raw).2.outcome = .error x) :
    ((∀ entries, raw ≠ .obj entries) ∧ (r.update Δ raw).1 = r) ∨
    ∃ entries done, raw = .obj entries ∧
      Bind.StopsAfter (Bind.asField Δ (Δ.entity r.ref)) (Δ.entity r.ref) x entries done ∧
      (r.update Δ raw).1 =
        ⟨r.ref, Bind.settled (Bind.asField Δ (Δ.entity r.ref)) (Δ.entity r.ref) done r.slots⟩ ∧
      ((r.update Δ raw).1 = r ↔ ∀ i v,
        Bind.lastBoundAt? (Bind.asField Δ (Δ.entity r.ref)) (Δ.entity r.ref) i done = some v →
          r.slots[i]? = some (some v)) := by
  have hlength : r.slots.length = (Δ.entity r.ref).fields.length :=
    (FieldValue.wellFormed_entity_iff.1 hr.wellFormed).1.length
  cases raw with
  | obj entries =>
    obtain ⟨done, hstop, hslots⟩ := Bind.stopsAfter_of_assign h
    have hupdate : (r.update Δ (.obj entries)).1 = ⟨r.ref, _⟩ :=
      congrArg (Record.mk r.ref) hslots
    refine .inr ⟨entries, done, rfl, hstop, hupdate, ?_⟩
    rw [hupdate, ← Bind.settled_eq_self_iff hlength]
    exact ⟨congrArg Record.slots, congrArg (Record.mk r.ref)⟩
  | _ => exact .inl ⟨nofun, rfl⟩

namespace Sample

def altona : Json :=
  .obj [("city", .str "Altona"), ("street", .str "Elbchaussee 1"), ("zip", .str "22763")]

def home : Record :=
  ⟨Contact.address,
    [none, some (.str "Elbchaussee 1"), some (.str "22763"), some (.str "Altona"), none]⟩

def move : Json :=
  .obj [("city", .str "Hamburg"), ("zip", .null)]

def zipRefused : Error :=
  .binding ⟨[.field "zip"], "string", .nullRefused⟩

theorem bound_home : (Record.ofJson Contact.catalog Contact.address altona).outcome = .ok home :=
  rfl

theorem move_fails : (home.update Contact.catalog move).2.outcome = Outcome.fail zipRefused := rfl

end Sample

open Sample in
theorem update_of_failure_move :
    (home.update Contact.catalog move).2.outcome = Outcome.fail zipRefused ∧
    ∃ entries done, move = .obj entries ∧
      Bind.StopsAfter (Bind.asField Contact.catalog Contact.addressDecl) Contact.addressDecl
        (.error zipRefused) entries done ∧
      (home.update Contact.catalog move).1 = ⟨Contact.address,
        Bind.settled (Bind.asField Contact.catalog Contact.addressDecl) Contact.addressDecl done
          home.slots⟩ := by
  refine ⟨move_fails, ?_⟩
  rcases update_of_failure (.boundRecord bound_home) move_fails with ⟨hmap, -⟩ |
    ⟨entries, done, hraw, hstop, hupdate, -⟩
  · exact absurd rfl (hmap _)
  · exact ⟨entries, done, hraw, hstop, hupdate⟩

open Sample in
/-- The entry before the failure has changed the city. -/
theorem city_of_failed_move :
    Obtainable Contact.catalog (.ofRecord home) ∧
    (home.update Contact.catalog move).2.outcome = Outcome.fail zipRefused ∧
    (home.update Contact.catalog move).1.slots[3]? = some (some (.str "Hamburg")) ∧
    (home.update Contact.catalog move).1.slots ≠ home.slots := by
  have hcity : (home.update Contact.catalog move).1.str? Contact.catalog "city" = some "Hamburg" :=
    rfl
  refine ⟨.boundRecord bound_home, move_fails, rfl, fun h => ?_⟩
  have hsame : (home.update Contact.catalog move).1 = home := congrArg (Record.mk _) h
  rw [hsame] at hcity
  exact absurd hcity (by decide)

end RestRecords
