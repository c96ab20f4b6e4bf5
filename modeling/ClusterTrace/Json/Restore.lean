import ClusterTrace.Json.Printer
import ClusterTrace.Json.Reader

/-!
# What writing and reading preserve

Tables hold JSON values as text.  `Json.restore` gives what comes back: a value
that nests too deep for the reader does not, and a floating point number may
come back as one of its neighbours, because the reader scales the digits in
floating point arithmetic.
-/

namespace ClusterTrace.Json

/-- A number that was written and read again. -/
def Number.restored (number : Number) : Number :=
  match number with
  | .int _ => number
  | .float _ =>
      match readNumber (numberText number).toList with
      | .ok (again, _) => again
      | .error _ => number

/-- A value that was written and read again. -/
def restored : Json → Json
  | .number value => .number (Number.restored value)
  | .array items => .array (restoredItems items)
  | .object members => .object (restoredMembers members)
  | other => other
where
  /-- Items that were written and read again. -/
  restoredItems : List Json → List Json
    | [] => []
    | item :: rest => item.restored :: restoredItems rest
  /-- Members that were written and read again. -/
  restoredMembers : List (String × Json) → List (String × Json)
    | [] => []
    | (key, value) :: rest => (key, value.restored) :: restoredMembers rest

/-- The octets in front of the first container with this many others around it,
in the value without any blanks; none if no container lies so deep. -/
def deepAt? : Json → Nat → Option Nat
  | .array _, 0 => some 0
  | .object _, 0 => some 0
  | .array items, depth + 1 => (itemsDeepAt? items depth).map (· + 1)
  | .object members, depth + 1 => (membersDeepAt? members depth).map (· + 1)
  | _, _ => none
where
  /-- The octets in front of the container in the texts of the items. -/
  itemsDeepAt? : List Json → Nat → Option Nat
    | [], _ => none
    | item :: rest, depth =>
        let past := item.compact.utf8ByteSize + 1
        (item.deepAt? depth).or ((itemsDeepAt? rest depth).map (· + past))
  /-- The octets in front of the container in the texts of the members. -/
  membersDeepAt? : List (String × Json) → Nat → Option Nat
    | [], _ => none
    | (key, value) :: rest, depth =>
        let before := (quoted key).utf8ByteSize + 1
        let past := before + value.compact.utf8ByteSize + 1
        ((value.deepAt? depth).map (· + before)).or
          ((membersDeepAt? rest depth).map (· + past))

mutual

theorem deepAt?_eq_none_iff (value : Json) (depth : Nat) :
    value.deepAt? depth = none ↔ value.depth ≤ depth := by
  cases value with
  | null => simp [deepAt?, Json.depth]
  | bool => simp [deepAt?, Json.depth]
  | number => simp [deepAt?, Json.depth]
  | string => simp [deepAt?, Json.depth]
  | array items =>
      cases depth with
      | zero => simp [deepAt?, Json.depth]
      | succ depth =>
          rw [deepAt?, Option.map_eq_none_iff, itemsDeepAt?_eq_none_iff,
            Json.depth, Nat.add_le_add_iff_right]
  | object members =>
      cases depth with
      | zero => simp [deepAt?, Json.depth]
      | succ depth =>
          rw [deepAt?, Option.map_eq_none_iff, membersDeepAt?_eq_none_iff,
            Json.depth, Nat.add_le_add_iff_right]

theorem itemsDeepAt?_eq_none_iff (items : List Json) (depth : Nat) :
    deepAt?.itemsDeepAt? items depth = none ↔
      Json.depth.itemsDepth items ≤ depth := by
  cases items with
  | nil => simp [deepAt?.itemsDeepAt?, Json.depth.itemsDepth]
  | cons item rest =>
      rw [deepAt?.itemsDeepAt?, Option.or_eq_none_iff,
        Option.map_eq_none_iff, deepAt?_eq_none_iff, itemsDeepAt?_eq_none_iff,
        Json.depth.itemsDepth, Nat.max_le]

theorem membersDeepAt?_eq_none_iff (members : List (String × Json))
    (depth : Nat) :
    deepAt?.membersDeepAt? members depth = none ↔
      Json.depth.membersDepth members ≤ depth := by
  cases members with
  | nil => simp [deepAt?.membersDeepAt?, Json.depth.membersDepth]
  | cons member rest =>
      obtain ⟨key, value⟩ := member
      rw [deepAt?.membersDeepAt?, Option.or_eq_none_iff,
        Option.map_eq_none_iff, Option.map_eq_none_iff, deepAt?_eq_none_iff,
        membersDeepAt?_eq_none_iff, Json.depth.membersDepth, Nat.max_le]

end

/-- The value that is read from what was written.  The reader stops at the
bracket of the first container that nests too deep. -/
def restore (value : Json) : Except SyntaxFault Json :=
  match value.deepAt? maxDepth with
  | none => .ok value.restored
  | some octets => .error ⟨.nestedTooDeep, 1, octets + 1⟩

theorem restore_of_shallow {value : Json} (shallow : value.depth ≤ maxDepth) :
    value.restore = .ok value.restored := by
  rw [restore, (deepAt?_eq_none_iff value maxDepth).mpr shallow]

theorem restore_of_deep {value : Json} (deep : ¬ value.depth ≤ maxDepth) :
    ∃ column, value.restore = .error ⟨.nestedTooDeep, 1, column⟩ := by
  rw [← deepAt?_eq_none_iff] at deep
  obtain ⟨octets, found⟩ := Option.ne_none_iff_exists'.mp deep
  rw [restore, found]
  exact ⟨octets + 1, rfl⟩

end ClusterTrace.Json
