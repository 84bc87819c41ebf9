import RestRecords.Proofs.Text.Numerals
import RestRecords.Path
/-!
# Paths as text

The text of a path is read as field names between points and positions in brackets. A path whose
names are not empty and hold no point or bracket reads back from either of its texts.
-/

namespace RestRecords

open Text

namespace Path

def withName (name : List Char) (path : Path) : Path :=
  if name.isEmpty then path else .field (String.ofList name) :: path

def readFrom : List Char → List Char × Path
  | [] => ([], [])
  | c :: cs =>
    let behind := readFrom cs
    if c = '.' then ([], withName behind.1 behind.2)
    else if c = '[' then ([], .index (digitsValue (behind.1.takeWhile isDigit)) :: behind.2)
    else (c :: behind.1, behind.2)

/-- The path that a text stands for: names between points, and positions in brackets. -/
def read (s : String) : Path :=
  withName (readFrom s.toList).1 (readFrom s.toList).2

def splitName : Path → List Char × Path
  | .field name :: path => (name.toList, path)
  | path => ([], path)

end Path

def IsPlainName (name : String) : Prop :=
  name ≠ "" ∧ '.' ∉ name.toList ∧ '[' ∉ name.toList

def Path.IsPlain (path : Path) : Prop :=
  ∀ name, Step.field name ∈ path → IsPlainName name

namespace Path

theorem IsPlain.tail {s : Step} {path : Path} (h : IsPlain (s :: path)) : path.IsPlain :=
  fun name hname => h name (List.mem_cons_of_mem s hname)

theorem IsPlain.head {name : String} {path : Path} (h : IsPlain (.field name :: path)) :
    IsPlainName name :=
  h name List.mem_cons_self

theorem toList_ne_nil {name : String} (h : IsPlainName name) : name.toList ≠ [] := by
  intro hnil
  apply h.1
  rw [← String.ofList_toList (s := name), hnil]

theorem withName_splitName {path : Path} (h : path.IsPlain) :
    withName path.splitName.1 path.splitName.2 = path := by
  unfold splitName
  split
  · rename_i name path
    rw [withName, if_neg (by simpa using toList_ne_nil h.head), String.ofList_toList]
  · rfl

theorem readFrom_append {word : List Char} (hpoint : '.' ∉ word) (hbracket : '[' ∉ word)
    (cs : List Char) : readFrom (word ++ cs) = (word ++ (readFrom cs).1, (readFrom cs).2) := by
  induction word with
  | nil => rfl
  | cons c word ih =>
    rw [List.mem_cons, not_or] at hpoint hbracket
    rw [List.cons_append, readFrom, if_neg (Ne.symm hpoint.1), if_neg (Ne.symm hbracket.1),
      ih hpoint.2 hbracket.2]
    rfl

theorem readFrom_index (i : Nat) (cs : List Char) (h : (readFrom cs).1 = []) :
    readFrom ((Step.index i).text.toList ++ cs) = ([], .index i :: (readFrom cs).2) := by
  have hdigit : ∀ c ∈ natDigits i, isDigit c = true := fun c => isDigit_of_mem_natDigits
  have hword : ∀ c, isDigit c = false → c ≠ ']' → c ∉ natDigits i ++ [']'] := by
    intro c hc hne hmem
    rcases List.mem_append.1 hmem with hmem | hmem
    · simp [hdigit c hmem] at hc
    · exact hne (List.mem_singleton.1 hmem)
  have htext : (Step.index i).text.toList ++ cs = '[' :: ((natDigits i ++ [']']) ++ cs) := by
    simp [Step.text, natText]
  rw [htext, readFrom, if_neg (by decide), if_pos rfl,
    readFrom_append (hword '.' (by decide) (by decide)) (hword '[' (by decide) (by decide))]
  simp only [h, List.append_nil]
  have hspan : (natDigits i ++ [']']).takeWhile isDigit = natDigits i :=
    congrArg Prod.fst (spanDigits_append_of_all hdigit (by simp; decide))
  rw [hspan, digitsValue_natDigits]

theorem exists_toList_cons (s : Step) (path : Path) :
    ∃ cs, (textOmittingEmpty (s :: path)).toList = s.text.toList ++ cs := by
  rw [textOmittingEmpty]
  split
  · exact ⟨[], (List.append_nil _).symm⟩
  · unfold join
    split
    · exact ⟨_, String.toList_append⟩
    · exact ⟨'.' :: path.textOmittingEmpty.toList, by simp⟩

theorem head?_text_field {name : String} (h : IsPlainName name) (path : Path) :
    ∃ c, (textOmittingEmpty (.field name :: path)).toList.head? = some c ∧ c ≠ '[' := by
  obtain ⟨cs, hcs⟩ := exists_toList_cons (.field name) path
  obtain ⟨c, rest, hname⟩ := List.exists_cons_of_ne_nil (toList_ne_nil h)
  refine ⟨c, by rw [hcs, Step.text, hname]; rfl, ?_⟩
  rintro rfl
  apply h.2.2
  rw [hname]
  exact List.mem_cons_self

theorem head?_text_index (i : Nat) (path : Path) :
    (textOmittingEmpty (.index i :: path)).toList.head? = some '[' := by
  obtain ⟨cs, hcs⟩ := exists_toList_cons (.index i) path
  rw [hcs, Step.text]
  simp

theorem isEmpty_of_head? {s : String} {c : Char} (h : s.toList.head? = some c) :
    s.isEmpty = false := by
  rw [Bool.eq_false_iff]
  intro hempty
  rw [String.isEmpty_iff] at hempty
  subst hempty
  cases h

/-- What stands behind the first step in the text of a path reads as the steps behind it. -/
theorem exists_rest {path : Path} (h : path.IsPlain)
    (hread : readFrom path.textOmittingEmpty.toList = path.splitName) (s : Step) :
    ∃ cs, (textOmittingEmpty (s :: path)).toList = s.text.toList ++ cs ∧
      readFrom cs = ([], path) := by
  rw [textOmittingEmpty]
  cases path with
  | nil => exact ⟨[], (List.append_nil _).symm, rfl⟩
  | cons t path =>
    cases t with
    | field name =>
      obtain ⟨c, hhead, hc⟩ := head?_text_field h.head path
      have hempty := isEmpty_of_head? hhead
      refine ⟨'.' :: (textOmittingEmpty (.field name :: path)).toList, ?_, ?_⟩
      · rw [hempty, join, hhead, if_neg Bool.false_ne_true, if_neg (by simpa using hc)]
        simp
      · rw [readFrom, if_pos rfl, hread, withName_splitName h]
    | index i =>
      have hhead := head?_text_index i path
      have hempty := isEmpty_of_head? hhead
      refine ⟨(textOmittingEmpty (.index i :: path)).toList, ?_, hread⟩
      rw [hempty, join, hhead, if_neg Bool.false_ne_true, if_pos rfl, String.toList_append]

theorem readFrom_text {path : Path} (h : path.IsPlain) :
    readFrom path.textOmittingEmpty.toList = path.splitName := by
  -- The text is put together from the end, as it is read: a name in front is not yet a step.
  induction path with
  | nil => rfl
  | cons s path ih =>
    obtain ⟨cs, htext, hread⟩ := exists_rest h.tail (ih h.tail) s
    rw [htext]
    cases s with
    | field name =>
      rw [Step.text, readFrom_append h.head.2.1 h.head.2.2, hread, List.append_nil]
      rfl
    | index i =>
      rw [readFrom_index i cs (by rw [hread]), hread]
      rfl

theorem read_textOmittingEmpty {path : Path} (h : path.IsPlain) : read path.textOmittingEmpty = path := by
  rw [read, readFrom_text h, withName_splitName h]

theorem isEmpty_text_cons {s : Step} {path : Path} (h : IsPlain (s :: path)) :
    (textOmittingEmpty (s :: path)).isEmpty = false := by
  cases s with
  | field name =>
    obtain ⟨c, hhead, -⟩ := head?_text_field h.head path
    exact isEmpty_of_head? hhead
  | index i => exact isEmpty_of_head? (head?_text_index i path)

theorem text_eq_textOmittingEmpty {path : Path} (h : path.IsPlain) :
    path.text = path.textOmittingEmpty := by
  induction path with
  | nil => rfl
  | cons s path ih =>
    cases path with
    | nil => rfl
    | cons t path =>
      have hrest := isEmpty_text_cons h.tail
      rw [text_cons_cons, ih h.tail]
      exact (if_neg (by rw [hrest]; exact Bool.false_ne_true)).symm

theorem read_text {path : Path} (h : path.IsPlain) : read path.text = path := by
  rw [text_eq_textOmittingEmpty h, read_textOmittingEmpty h]

end Path

end RestRecords
