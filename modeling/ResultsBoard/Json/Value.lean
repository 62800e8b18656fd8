import ResultsBoard.Decimal.Shortest

/-!
# JSON values

A document is a tree of values. A number remembers how it was written: a natural number below
`2 ^ 64`, a negative integer, or a binary64 number; two numbers of different kinds are never
equal. An object is a list of members in document order with distinct names: `put` replaces the
value of a name that is there already and keeps its place. Two objects are equal when they have
the same members in any order.
-/

namespace ResultsBoard.Json

/-- A JSON number. `negative n` is the integer `-n`, where `n` is at most `2 ^ 63` and not zero. -/
inductive Number where
  | natural (n : UInt64)
  | negative (n : UInt64)
  | real (x : Float)

namespace Number

/-- Numbers are compared within their kind; zero and negative zero are equal reals. -/
protected def beq : Number → Number → Bool
  | natural m, natural n => m == n
  | negative m, negative n => m == n
  | real x, real y => x == y
  | _, _ => false

instance : BEq Number := ⟨Number.beq⟩

/-- The nearest binary64 number. -/
def toFloat : Number → Float
  | natural n => n.toFloat
  | negative n => -n.toFloat
  | real x => x

/-- Reals are positional from `1e-5` up to `1e16`. -/
def layout : Decimal.Layout := ⟨-5, 15⟩

/-- The text of a real number; JSON has none for what is not finite, so it is `null`. -/
def realText (x : Float) : List Char :=
  match Decimal.shape x with
  | .finite parts => Decimal.signText parts.negative ++ layout.text parts.shortest
  | _ => ['n', 'u', 'l', 'l']

/-- The text of a number. -/
def text : Number → List Char
  | natural n => Decimal.digits n.toNat
  | negative n => '-' :: Decimal.digits n.toNat
  | real x => realText x

end Number

/-- A JSON value. -/
inductive Value where
  | null
  | boolean (b : Bool)
  | number (n : Number)
  | text (s : String)
  | array (items : List Value)
  | object (members : List (String × Value))
  deriving Inhabited

/-- The members of an object, in document order. -/
abbrev Members := List (String × Value)

namespace Members

/-- The value of a name. -/
def get? (members : Members) (name : String) : Option Value := List.lookup name members

/-- Add a member at the end, or replace the value of a name that is there. -/
def put (name : String) (value : Value) : Members → Members
  | [] => [(name, value)]
  | (n, v) :: rest =>
    if n = name then (n, value) :: rest else (n, v) :: put name value rest

/-- The names, in document order. -/
def names (members : Members) : List String := List.map Prod.fst members

/-- A new name goes to the end; the names of a document do not move. -/
theorem names_put (name : String) (value : Value) (members : Members) :
    names (put name value members) =
      if name ∈ names members then names members else names members ++ [name] := by
  induction members with
  | nil => simp [put, names]
  | cons head rest ih =>
    obtain ⟨n, v⟩ := head
    by_cases h : n = name
    · subst h; simp [put, names]
    · have h' : ¬ name = n := fun e => h e.symm
      simp only [names] at ih
      simp only [put, h, if_false, names, List.map_cons, List.mem_cons, h', false_or, ih]
      split <;> simp [*]

/-- Distinct names stay distinct. -/
theorem nodup_names_put {members : Members} (h : (names members).Nodup) (name : String)
    (value : Value) : (names (put name value members)).Nodup := by
  rw [names_put]
  split
  · exact h
  · rename_i hn
    rw [List.nodup_append]
    refine ⟨h, by simp, ?_⟩
    intro a ha b hb
    simp only [List.mem_singleton] at hb
    rintro rfl
    exact hn (hb ▸ ha)

end Members

namespace Value

mutual

/-- Equality of values; the order of members does not count. -/
protected def beq : Value → Value → Bool
  | .null, .null => true
  | .boolean a, .boolean b => a == b
  | .number a, .number b => a == b
  | .text a, .text b => a == b
  | .array xs, .array ys => Value.beqItems xs ys
  | .object xs, .object ys => xs.length == ys.length && Value.beqMembers xs ys
  | _, _ => false

/-- Equality of arrays, item by item. -/
protected def beqItems : List Value → List Value → Bool
  | [], [] => true
  | x :: xs, y :: ys => Value.beq x y && Value.beqItems xs ys
  | _, _ => false

/-- Every member of the first object has an equal one in the second. -/
protected def beqMembers : List (String × Value) → List (String × Value) → Bool
  | [], _ => true
  | (name, x) :: xs, ys =>
    (match List.lookup name ys with
      | some y => Value.beq x y
      | none => false) && Value.beqMembers xs ys

end

instance : BEq Value := ⟨Value.beq⟩

/-- The number in a value, if it is one. -/
def toFloat? : Value → Option Float
  | .number n => some n.toFloat
  | _ => none

end Value

end ResultsBoard.Json
