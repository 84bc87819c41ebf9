import RestRecords.Number.Binary64
/-!
# JSON values

A value is kept as read: integers and doubles are different numbers, and the entries of an object
are listed in ascending order of their keys.
-/

namespace RestRecords

inductive Json where
  | null
  | bool (b : Bool)
  | int (i : Int)
  | float (x : FiniteDouble)
  | str (s : String)
  | arr (items : List Json)
  | obj (entries : List (String × Json))

namespace Json

instance : Inhabited Json := ⟨.null⟩

def insertEntry (key : String) (value : Json) : List (String × Json) → List (String × Json)
  | [] => [(key, value)]
  | (k, v) :: rest =>
    if key < k then (key, value) :: (k, v) :: rest
    else if key = k then (key, value) :: rest
    else (k, v) :: insertEntry key value rest

/-- The object of a list of entries; of two with one key the later counts. -/
def ofEntries (entries : List (String × Json)) : Json :=
  .obj (entries.foldl (fun acc e => insertEntry e.1 e.2 acc) [])

def entry? (entries : List (String × Json)) (key : String) : Option Json :=
  entries.lookup key

def isNull : Json → Bool
  | .null => true
  | _ => false

def str? : Json → Option String
  | .str s => some s
  | _ => none

def int64? : Json → Option Int64
  | .int i =>
    if Int64.minValue.toInt ≤ i ∧ i ≤ Int64.maxValue.toInt then some (Int64.ofInt i) else none
  | _ => none

def double? : Json → Option FiniteDouble
  | .int i => FiniteDouble.ofInt? i
  | .float x => some x
  | _ => none

mutual

/-- Equality of values: an integer differs from every double, and the two zeros are one double. -/
def equal : Json → Json → Bool
  | .null, .null => true
  | .bool a, .bool b => a == b
  | .int a, .int b => a == b
  | .float a, .float b => a.numEq b
  | .str a, .str b => a == b
  | .arr a, .arr b => equalItems a b
  | .obj a, .obj b => equalEntries a b
  | _, _ => false

def equalItems : List Json → List Json → Bool
  | [], [] => true
  | a :: as, b :: bs => equal a b && equalItems as bs
  | _, _ => false

def equalEntries : List (String × Json) → List (String × Json) → Bool
  | [], [] => true
  | (k, a) :: as, (l, b) :: bs => k == l && equal a b && equalEntries as bs
  | _, _ => false

end

instance : BEq Json := ⟨equal⟩

mutual

def depth : Json → Nat
  | .arr items => depthItems items + 1
  | .obj entries => depthEntries entries + 1
  | _ => 0

def depthItems : List Json → Nat
  | [] => 0
  | a :: as => max (depth a) (depthItems as)

def depthEntries : List (String × Json) → Nat
  | [] => 0
  | (_, a) :: as => max (depth a) (depthEntries as)

end

end Json

end RestRecords
