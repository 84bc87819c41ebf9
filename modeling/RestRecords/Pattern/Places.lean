/-!
# Places of a text

The places of a text are those before, between and behind its characters, counted from its start.
Sets of them are kept as bits, so that all that begin a match can be followed at once.
-/

namespace RestRecords.Pattern

/-- A set of places; a place is in it if the bit of its number is set. -/
abbrev Places := Nat

namespace Places

/-- The places that are marked, the first of which is the start of the text. -/
def ofMarks : List Bool → Places
  | [] => 0
  | mark :: marks => 2 * ofMarks marks + mark.toNat

def single (i : Nat) : Places := 1 <<< i

theorem testBit_ofMarks (marks : List Bool) (i : Nat) :
    (ofMarks marks).testBit i = marks.getD i false := by
  induction marks generalizing i with
  | nil => simp [ofMarks]
  | cons mark marks ih =>
    cases i with
    | zero => rw [Nat.testBit_zero]; cases mark <;> simp [ofMarks]
    | succ i =>
      have half (n : Nat) : (2 * n + mark.toNat) / 2 = n := by
        have := Bool.toNat_le mark
        omega
      rw [Nat.testBit_succ, ofMarks, half, ih, List.getD_cons_succ]

end Places

/-- What is reached in one step: the places reached from the start of a text, those from behind its
first character, and so on. -/
abbrev Steps := List Places

namespace Steps

def image : Steps → Places → Places
  | [], _ => 0
  | ends :: more, xs =>
    if xs = 0 then 0
    else (if xs % 2 = 1 then ends else 0) ||| image more (xs / 2)

def power (steps : Steps) : Nat → Places → Places
  | 0, xs => xs
  | n + 1, xs =>
    let next := steps.image xs
    if next = xs then xs else power steps n next

def within (steps : Steps) : Nat → Places → Places
  | 0, xs => xs
  | n + 1, xs =>
    let next := xs ||| steps.image xs
    if next = xs then xs else within steps n next

/-- What is reached in any number of steps, if none of them leads back. The first of the steps begin
behind `i` characters. -/
def closure (i : Nat) : Steps → Steps
  | [] => []
  | ends :: more =>
    let later := closure (i + 1) more
    (Places.single i ||| later.image (ends >>> (i + 1))) :: later

theorem testBit_image (steps : Steps) (xs j : Nat) :
    (steps.image xs).testBit j = true ↔
      ∃ i ends, steps[i]? = some ends ∧ xs.testBit i = true ∧ ends.testBit j = true := by
  induction steps generalizing xs with
  | nil => simp [image]
  | cons ends more ih =>
    unfold image
    split
    · simp_all
    · rw [Nat.testBit_or, Bool.or_eq_true, ih]
      constructor
      · rintro (h | ⟨i, later, hi, hx, hj⟩)
        · split at h
          · exact ⟨0, ends, rfl, by simp [Nat.testBit_zero, *], h⟩
          · simp at h
        · exact ⟨i + 1, later, hi, by rwa [Nat.testBit_succ], hj⟩
      · rintro ⟨i, later, hi, hx, hj⟩
        cases i with
        | zero =>
          simp only [List.getElem?_cons_zero, Option.some.injEq] at hi
          simp only [Nat.testBit_zero, decide_eq_true_eq] at hx
          exact .inl (by simp [hx, hi, hj])
        | succ i => exact .inr ⟨i, later, hi, by rwa [Nat.testBit_succ] at hx, hj⟩

end Steps

end RestRecords.Pattern
