import ClusterTrace.Storage.Assoc

/-!
# JSON values

Integers and floating point numbers are told apart, and the members of an object
are a list of pairs.  `Json.ofMembers` is the canonical object of a list of
pairs: sorted by key, the last value of a repeated key kept.
-/

namespace ClusterTrace

/-- A JSON number: an integer of at most 64 bits, or the bits of a finite
binary64 value. -/
inductive Number where
  | int (value : Int)
  | float (bits : UInt64)
deriving Repr, DecidableEq, Inhabited

/-- A JSON value. -/
inductive Json where
  | null
  | bool (value : Bool)
  | number (value : Number)
  | string (text : String)
  | array (items : List Json)
  | object (members : List (String × Json))
deriving Repr, Inhabited

namespace Json

/-- The values are the same. -/
def same : Json → Json → Bool
  | .null, .null => true
  | .bool a, .bool b => a == b
  | .number a, .number b => a == b
  | .string a, .string b => a == b
  | .array items, .array others => sameItems items others
  | .object members, .object others => sameMembers members others
  | _, _ => false
where
  /-- The items are the same one by one. -/
  sameItems : List Json → List Json → Bool
    | [], [] => true
    | a :: rest, b :: others => a.same b && sameItems rest others
    | _, _ => false
  /-- The members have the same keys and values one by one. -/
  sameMembers : List (String × Json) → List (String × Json) → Bool
    | [], [] => true
    | (key, a) :: rest, (other, b) :: others =>
        key == other && a.same b && sameMembers rest others
    | _, _ => false

mutual

theorem same_iff (a b : Json) : a.same b = true ↔ a = b := by
  cases a <;> cases b <;>
    simp only [same, beq_iff_eq, sameItems_iff, sameMembers_iff, reduceCtorEq,
      Bool.false_eq_true, bool.injEq, number.injEq, string.injEq, array.injEq,
      object.injEq]

theorem sameItems_iff (items others : List Json) :
    same.sameItems items others = true ↔ items = others := by
  cases items with
  | nil => cases others <;> simp [same.sameItems]
  | cons a rest =>
      cases others with
      | nil => simp [same.sameItems]
      | cons b others =>
          rw [same.sameItems, Bool.and_eq_true, same_iff, sameItems_iff,
            List.cons.injEq]

theorem sameMembers_iff (members others : List (String × Json)) :
    same.sameMembers members others = true ↔ members = others := by
  cases members with
  | nil => cases others <;> simp [same.sameMembers]
  | cons member rest =>
      obtain ⟨key, a⟩ := member
      cases others with
      | nil => simp [same.sameMembers]
      | cons other others =>
          rw [same.sameMembers, Bool.and_eq_true, Bool.and_eq_true, beq_iff_eq,
            same_iff, sameMembers_iff, List.cons.injEq, Prod.mk.injEq]

end

instance : DecidableEq Json :=
  fun a b => decidable_of_iff _ (same_iff a b)

/-- Whether the value is null. -/
def isNull : Json → Bool
  | .null => true
  | _ => false

def int (value : Int) : Json :=
  .number (.int value)

/-- The object with these members: sorted by key, of equal keys the last. -/
def ofMembers (members : List (String × Json)) : Json :=
  .object (Assoc.sorted members)

/-- The value of a member of an object. -/
def get? (key : String) : Json → Option Json
  | .object members => members.lookup key
  | _ => none

/-- The value with the members of every object sorted, of equal keys the last
kept. -/
def canonical : Json → Json
  | .array items => .array (canonicalItems items)
  | .object members => .ofMembers (canonicalMembers members)
  | other => other
where
  /-- The items in canonical form. -/
  canonicalItems : List Json → List Json
    | [] => []
    | item :: rest => item.canonical :: canonicalItems rest
  /-- The members with their values in canonical form. -/
  canonicalMembers : List (String × Json) → List (String × Json)
    | [] => []
    | (key, value) :: rest => (key, value.canonical) :: canonicalMembers rest

/-- The number of containers around the innermost value, itself included if it
is one. -/
def depth : Json → Nat
  | .array items => itemsDepth items + 1
  | .object members => membersDepth members + 1
  | _ => 0
where
  /-- The greatest depth among the items. -/
  itemsDepth : List Json → Nat
    | [] => 0
    | item :: rest => max item.depth (itemsDepth rest)
  /-- The greatest depth among the members' values. -/
  membersDepth : List (String × Json) → Nat
    | [] => 0
    | (_, value) :: rest => max value.depth (membersDepth rest)

/-- The text, or null where there is none. -/
def ofText? : Option String → Json
  | some text => .string text
  | none => .null

end Json
end ClusterTrace
