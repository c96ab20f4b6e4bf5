import ClusterTrace.Json.Printer
import ClusterTrace.Json.Reader

/-!
# Printed values

A value without numbers is read back from its text without blanks, as it is, if
it nests no deeper than is read, `parseAsWritten_compact`.
-/

namespace ClusterTrace.Json

/-! ## Text -/

theorem hexValue?_hexDigit : ∀ n < 16, hexValue? (hexDigit n) = some n := by
  decide

theorem readUnicode_controlCharacter {c : Char} (control : c.toNat < 32)
    (rest : List Char) :
    readUnicode ('0' :: '0' :: hexDigit (c.toNat / 16) ::
        hexDigit (c.toNat % 16) :: rest) = .ok (c, rest) := by
  have zero : hexValue? '0' = some 0 := by decide
  have high := hexValue?_hexDigit (c.toNat / 16) (by omega)
  have low := hexValue?_hexDigit (c.toNat % 16) (by omega)
  have whole : 0 * 4096 + 0 * 256 + c.toNat / 16 * 16 + c.toNat % 16 =
      c.toNat := by omega
  rw [readUnicode, readHex4]
  simp only [zero, high, low, whole]
  rw [if_neg (by omega), if_neg (by omega), Char.ofNat_toNat]

/-- An escaped character is read in one round. -/
theorem readQuotedFrom_escape (fuel : Nat) (acc : List Char) (c : Char)
    (text : List Char) :
    readQuotedFrom (fuel + 1) acc (escape c ++ text) =
      readQuotedFrom fuel (c :: acc) text := by
  rw [escape.eq_def]
  split
  · rfl
  · rfl
  · rfl
  · rfl
  · rfl
  · rename_i noQuote noBackslash _ _ _
    split
    · rename_i isBackspace
      rw [← Char.ofNat_toNat c, isBackspace]
      rfl
    split
    · rename_i isFormFeed
      rw [← Char.ofNat_toNat c, isFormFeed]
      rfl
    split
    · rename_i control
      have isRead := readUnicode_controlCharacter control text
      simp only [List.cons_append, List.nil_append]
      rw [readQuotedFrom, isRead]
    · rename_i noControl
      have other : readQuotedFrom (fuel + 1) acc (c :: text) =
          if c.toNat < 32 then .error .controlCharacter
          else readQuotedFrom fuel (c :: acc) text := by
        rw [readQuotedFrom.eq_def]
        simp_all
      rw [List.singleton_append, other, if_neg noControl]

theorem readQuotedFrom_escaped {fuel : Nat} {chars : List Char}
    (enough : chars.length < fuel) (acc rest : List Char) :
    readQuotedFrom fuel acc (chars.flatMap escape ++ '"' :: rest) =
      .ok (String.ofList (acc.reverse ++ chars), rest) := by
  induction chars generalizing fuel acc with
  | nil =>
      obtain ⟨fuel, rfl⟩ := Nat.exists_eq_succ_of_ne_zero (Nat.ne_of_gt enough)
      rw [List.append_nil]
      rfl
  | cons c chars induction =>
      obtain ⟨fuel, rfl⟩ := Nat.exists_eq_succ_of_ne_zero
        (Nat.ne_of_gt (Nat.zero_lt_of_lt enough))
      rw [List.flatMap_cons, List.append_assoc, readQuotedFrom_escape,
        induction (Nat.lt_of_succ_lt_succ enough), List.reverse_cons,
        List.append_assoc, List.singleton_append]

theorem length_le_length_flatMap_escape (chars : List Char) :
    chars.length ≤ (chars.flatMap escape).length := by
  induction chars with
  | nil => exact Nat.le_refl 0
  | cons c chars induction =>
      have some : 1 ≤ (escape c).length := by
        rw [escape.eq_def]
        repeat' split
        all_goals simp
      rw [List.flatMap_cons, List.length_append, List.length_cons]
      omega

theorem toList_quoted (text : String) :
    (quoted text).toList = '"' :: (text.toList.flatMap escape ++ ['"']) := by
  simp only [quoted, String.toList_append, String.toList_ofList,
    List.append_assoc]
  rfl

/-- A quoted text is read up to its closing quote. -/
theorem readQuoted_escaped (text : String) (rest : List Char) :
    readQuoted (text.toList.flatMap escape ++ '"' :: rest) =
      .ok (text, rest) := by
  have shorter := length_le_length_flatMap_escape text.toList
  rw [readQuoted, readQuotedFrom_escaped, List.reverse_nil, List.nil_append,
    String.ofList_toList]
  rw [List.length_append]
  omega

/-! ## Values without numbers -/

/-- There is a number in the value. -/
def hasNumber : Json → Bool
  | .number _ => true
  | .array items => itemsHave items
  | .object members => membersHave members
  | _ => false
where
  /-- There is a number in an item. -/
  itemsHave : List Json → Bool
    | [] => false
    | item :: rest => item.hasNumber || itemsHave rest
  /-- There is a number in a member. -/
  membersHave : List (String × Json) → Bool
    | [] => false
    | (_, value) :: rest => value.hasNumber || membersHave rest

/-- The text of a container after its opening bracket. -/
def closedBy (bracket : Char) : List String → List Char
  | [] => [bracket]
  | [text] => text.toList ++ [bracket]
  | text :: later => text.toList ++ ',' :: closedBy bracket later

theorem closedBy_cons_cons (bracket : Char) (text next : String)
    (later : List String) :
    closedBy bracket (text :: next :: later) =
      text.toList ++ ',' :: closedBy bracket (next :: later) :=
  rfl

theorem closedBy_eq (bracket : Char) (texts : List String) :
    (",".intercalate texts).toList ++ [bracket] = closedBy bracket texts := by
  induction texts with
  | nil => rfl
  | cons text texts induction =>
      cases texts with
      | nil => rw [String.intercalate_singleton, closedBy]
      | cons next later =>
          rw [String.intercalate_cons_cons, String.toList_append,
            String.toList_append, List.append_assoc, List.append_assoc,
            induction]
          rfl

theorem exists_closedBy (bracket : Char) {text : String} {c : Char}
    {chars : List Char} (isText : text.toList = c :: chars)
    (texts : List String) :
    ∃ later, closedBy bracket (text :: texts) = c :: later := by
  cases texts <;> simp [closedBy, isText]

theorem toList_compact_array (items : List Json) :
    (compact (.array items)).toList =
      '[' :: closedBy ']' (compact.items' items) := by
  rw [compact, String.toList_append, String.toList_append, List.append_assoc,
    ← closedBy_eq]
  rfl

theorem toList_compact_object (members : List (String × Json)) :
    (compact (.object members)).toList =
      '\x7b' :: closedBy '\x7d' (compact.members' members) := by
  rw [compact, String.toList_append, String.toList_append, List.append_assoc,
    ← closedBy_eq]
  rfl

/-- What a value without numbers begins with. -/
theorem exists_toList_compact {value : Json}
    (noNumber : value.hasNumber = false) :
    ∃ c text, value.compact.toList = c :: text ∧ isSpace c = false ∧
      c ≠ ']' := by
  cases value with
  | null => exact ⟨'n', _, rfl, by decide, by decide⟩
  | bool value => cases value <;> exact ⟨_, _, rfl, by decide, by decide⟩
  | number value => cases noNumber
  | string text => exact ⟨'"', _, toList_quoted text, by decide, by decide⟩
  | array items =>
      exact ⟨'[', _, toList_compact_array items, by decide, by decide⟩
  | object members =>
      exact ⟨'\x7b', _, toList_compact_object members, by decide, by decide⟩

/-! ## Reading one more -/

section

variable {depth fuel : Nat} {c : Char} {text later rest : List Char}

theorem skipSpace_cons (noSpace : isSpace c = false) (text : List Char) :
    skipSpace (c :: text) = c :: text := by
  rw [skipSpace, List.dropWhile_cons_of_neg (by simp [noSpace])]

theorem readWord_append (word : List Char) (value : Json) (rest : List Char) :
    readWord word value (word ++ rest) = .ok (value, rest) := by
  rw [readWord, if_pos (List.isPrefixOf_iff_prefix.mpr (List.prefix_append ..)),
    List.drop_left]

theorem readValue_array (noSpace : isSpace c = false) (noEnd : c ≠ ']') :
    readValue (depth + 1) (fuel + 1) ('[' :: c :: text) =
      readItems depth fuel [] (c :: text) := by
  rw [readValue, skipSpace_cons (by decide)]
  simp only [skipSpace_cons noSpace]
  split
  · rename_i same
    cases same
    exact (noEnd rfl).elim
  · rfl

theorem readValue_object (text : List Char) :
    readValue (depth + 1) (fuel + 1) ('\x7b' :: '"' :: text) =
      readMembers depth fuel [] ('"' :: text) := by
  rw [readValue, skipSpace_cons (by decide)]
  simp only [skipSpace_cons (c := '"') (by decide)]
  rfl

theorem readItems_last {acc : List Json} {item : Json}
    (isRead : readValue depth fuel text = .ok (item, ']' :: rest)) :
    readItems depth (fuel + 1) acc text =
      .ok (.array (acc.reverse ++ [item]), rest) := by
  rw [readItems, isRead]
  simp only [skipSpace_cons (c := ']') (by decide), List.reverse_cons]

theorem readItems_next {acc : List Json} {item : Json}
    (noSpace : isSpace c = false) (noEnd : c ≠ ']')
    (isRead : readValue depth fuel text = .ok (item, ',' :: c :: later)) :
    readItems depth (fuel + 1) acc text =
      readItems depth fuel (item :: acc) (c :: later) := by
  rw [readItems, isRead]
  simp only [skipSpace_cons (c := ',') (by decide), skipSpace_cons noSpace]
  split
  · rename_i same
    cases same
    exact (noEnd rfl).elim
  · rfl

theorem readMembers_last {acc : List (String × Json)} {key : String}
    {value : Json}
    (isRead : readValue depth fuel text = .ok (value, '\x7d' :: rest)) :
    readMembers depth (fuel + 1) acc
        ('"' :: (key.toList.flatMap escape ++ '"' :: ':' :: text)) =
      .ok (.object (acc.reverse ++ [(key, value)]), rest) := by
  rw [readMembers, skipSpace_cons (by decide)]
  simp only [readQuoted_escaped, skipSpace_cons (c := ':') (by decide), isRead,
    skipSpace_cons (c := '\x7d') (by decide), List.reverse_cons]

theorem readMembers_next {acc : List (String × Json)} {key : String}
    {value : Json}
    (isRead : readValue depth fuel text = .ok (value, ',' :: '"' :: later)) :
    readMembers depth (fuel + 1) acc
        ('"' :: (key.toList.flatMap escape ++ '"' :: ':' :: text)) =
      readMembers depth fuel ((key, value) :: acc) ('"' :: later) := by
  rw [readMembers, skipSpace_cons (by decide)]
  simp only [readQuoted_escaped, skipSpace_cons (c := ':') (by decide), isRead,
    skipSpace_cons (c := ',') (by decide),
    skipSpace_cons (c := '"') (by decide)]
  rfl

end

/-! ## Reading what was printed -/

/-- The text of a member. -/
theorem toList_member (key : String) (value : Json) :
    (quoted key ++ ":" ++ value.compact).toList =
      '"' :: (key.toList.flatMap escape ++ '"' :: ':' ::
        value.compact.toList) := by
  simp only [String.toList_append, toList_quoted, List.append_assoc,
    List.cons_append]
  rfl

/-- The value is read from its text, whatever follows it.  The fuel is twice
what is read, as a value and the container that it is in both take from it. -/
def IsReadBack (value : Json) : Prop :=
  ∀ depth fuel rest, value.depth ≤ depth →
    2 * value.compact.toList.length ≤ fuel →
      readValue depth fuel (value.compact.toList ++ rest) = .ok (value, rest)

/-- The induction is on the items, of which each takes one round. -/
theorem readItems_closedBy {items : List Json} (some : items ≠ [])
    (noNumber : ∀ item ∈ items, item.hasNumber = false)
    (readBack : ∀ item ∈ items, item.IsReadBack) {depth fuel : Nat}
    (shallow : Json.depth.itemsDepth items ≤ depth)
    (enough : 2 * (closedBy ']' (compact.items' items)).length ≤ fuel)
    (acc : List Json) (rest : List Char) :
    readItems depth fuel acc (closedBy ']' (compact.items' items) ++ rest) =
      .ok (.array (acc.reverse ++ items), rest) := by
  induction items generalizing fuel acc with
  | nil => exact (some rfl).elim
  | cons item items induction =>
      obtain ⟨readBackItem, readBackItems⟩ := List.forall_mem_cons.mp readBack
      have noNumberItems := (List.forall_mem_cons.mp noNumber).2
      rw [Json.depth.itemsDepth, Nat.max_le] at shallow
      rw [compact.items'] at enough ⊢
      cases items with
      | nil =>
          rw [compact.items', closedBy, List.length_append,
            List.length_singleton] at enough
          obtain ⟨fuel, rfl⟩ : ∃ less, fuel = less + 1 :=
            ⟨fuel - 1, by omega⟩
          have isRead := readBackItem depth fuel (']' :: rest) shallow.1
            (by omega)
          rw [compact.items', closedBy, List.append_assoc]
          exact readItems_last isRead
      | cons next items =>
          -- After a comma a closing bracket would be refused, and blanks would
          -- be skipped: the next item begins with neither.
          obtain ⟨c, text, isNext, noSpace, noEnd⟩ :=
            exists_toList_compact (noNumberItems next List.mem_cons_self)
          obtain ⟨later, begins⟩ := exists_closedBy ']' isNext
            (compact.items' items)
          rw [compact.items', closedBy_cons_cons, List.length_append,
            List.length_cons] at enough
          obtain ⟨fuel, rfl⟩ : ∃ less, fuel = less + 1 :=
            ⟨fuel - 1, by omega⟩
          have enoughItems : 2 * (closedBy ']'
              (compact.items' (next :: items))).length ≤ fuel := by
            rw [compact.items']
            omega
          have isRead := readBackItem depth fuel (',' :: c :: (later ++ rest))
            shallow.1 (by omega)
          have areRead := induction (List.cons_ne_nil _ _) noNumberItems
            readBackItems shallow.2 enoughItems (item :: acc)
          rw [compact.items', begins, List.cons_append, List.reverse_cons,
            List.append_assoc, List.singleton_append] at areRead
          rw [compact.items', closedBy_cons_cons, begins, List.append_assoc,
            List.cons_append, List.cons_append,
            readItems_next noSpace noEnd isRead, areRead]

theorem readMembers_closedBy {members : List (String × Json)}
    (some : members ≠ [])
    (readBack : ∀ member ∈ members, member.2.IsReadBack) {depth fuel : Nat}
    (shallow : Json.depth.membersDepth members ≤ depth)
    (enough : 2 * (closedBy '\x7d' (compact.members' members)).length ≤ fuel)
    (acc : List (String × Json)) (rest : List Char) :
    readMembers depth fuel acc
        (closedBy '\x7d' (compact.members' members) ++ rest) =
      .ok (.object (acc.reverse ++ members), rest) := by
  induction members generalizing fuel acc with
  | nil => exact (some rfl).elim
  | cons member members induction =>
      obtain ⟨key, value⟩ := member
      have readBackValue : value.IsReadBack := readBack _ List.mem_cons_self
      have readBackMembers := (List.forall_mem_cons.mp readBack).2
      rw [Json.depth.membersDepth, Nat.max_le] at shallow
      rw [compact.members'] at enough ⊢
      cases members with
      | nil =>
          rw [compact.members', closedBy, toList_member] at enough ⊢
          simp only [List.cons_append, List.length_append, List.length_cons]
            at enough
          obtain ⟨fuel, rfl⟩ : ∃ less, fuel = less + 1 :=
            ⟨fuel - 1, by omega⟩
          have isRead := readBackValue depth fuel ('\x7d' :: rest) shallow.1
            (by omega)
          simp only [List.cons_append, List.append_assoc, List.nil_append]
          exact readMembers_last isRead
      | cons next members =>
          obtain ⟨nextKey, next⟩ := next
          obtain ⟨later, begins⟩ := exists_closedBy '\x7d'
            (toList_member nextKey next) (compact.members' members)
          rw [compact.members', closedBy_cons_cons, toList_member] at enough ⊢
          simp only [List.cons_append, List.length_append, List.length_cons]
            at enough
          obtain ⟨fuel, rfl⟩ : ∃ less, fuel = less + 1 :=
            ⟨fuel - 1, by omega⟩
          have enoughMembers : 2 * (closedBy '\x7d'
              (compact.members' ((nextKey, next) :: members))).length ≤
                fuel := by
            rw [compact.members']
            omega
          have isRead := readBackValue depth fuel
            (',' :: '"' :: (later ++ rest)) shallow.1 (by omega)
          have areRead := induction (List.cons_ne_nil _ _) readBackMembers
            shallow.2 enoughMembers ((key, value) :: acc)
          rw [compact.members', begins, List.cons_append, List.reverse_cons,
            List.append_assoc, List.singleton_append] at areRead
          simp only [begins, List.cons_append, List.append_assoc]
          rw [readMembers_next isRead, areRead]

theorem isReadBack_array {items : List Json}
    (noNumber : ∀ item ∈ items, item.hasNumber = false)
    (readBack : ∀ item ∈ items, item.IsReadBack) :
    IsReadBack (.array items) := by
  intro depth fuel rest shallow enough
  rw [toList_compact_array, List.length_cons] at enough
  rw [toList_compact_array, List.cons_append]
  obtain ⟨fuel, rfl⟩ : ∃ less, fuel = less + 1 := ⟨fuel - 1, by omega⟩
  cases depth with
  | zero => cases shallow
  | succ depth =>
      cases items with
      | nil => rfl
      | cons item items =>
          have enoughItems : 2 * (closedBy ']'
              (compact.items' (item :: items))).length ≤ fuel := by omega
          have areRead := readItems_closedBy (List.cons_ne_nil _ _) noNumber
            readBack (Nat.le_of_succ_le_succ shallow) enoughItems [] rest
          obtain ⟨c, text, isItem, noSpace, noEnd⟩ :=
            exists_toList_compact (noNumber item List.mem_cons_self)
          obtain ⟨later, begins⟩ := exists_closedBy ']' isItem
            (compact.items' items)
          rw [compact.items', begins, List.cons_append] at areRead ⊢
          rw [readValue_array noSpace noEnd, areRead]
          rfl

theorem isReadBack_object {members : List (String × Json)}
    (readBack : ∀ member ∈ members, member.2.IsReadBack) :
    IsReadBack (.object members) := by
  intro depth fuel rest shallow enough
  rw [toList_compact_object, List.length_cons] at enough
  rw [toList_compact_object, List.cons_append]
  obtain ⟨fuel, rfl⟩ : ∃ less, fuel = less + 1 := ⟨fuel - 1, by omega⟩
  cases depth with
  | zero => cases shallow
  | succ depth =>
      cases members with
      | nil => rfl
      | cons member members =>
          obtain ⟨key, value⟩ := member
          have enoughMembers : 2 * (closedBy '\x7d'
              (compact.members' ((key, value) :: members))).length ≤
                fuel := by omega
          have areRead := readMembers_closedBy (List.cons_ne_nil _ _) readBack
            (Nat.le_of_succ_le_succ shallow) enoughMembers [] rest
          obtain ⟨later, begins⟩ := exists_closedBy '\x7d'
            (toList_member key value) (compact.members' members)
          rw [compact.members', begins, List.cons_append] at areRead ⊢
          rw [readValue_object, areRead]
          rfl

theorem hasNumber_of_mem_items {item : Json} {items : List Json}
    (isItem : item ∈ items) (noNumber : hasNumber.itemsHave items = false) :
    item.hasNumber = false := by
  induction items with
  | nil => cases isItem
  | cons first items induction =>
      obtain ⟨here, later⟩ := Bool.or_eq_false_iff.mp noNumber
      rcases List.mem_cons.mp isItem with rfl | isLater
      · exact here
      · exact induction isLater later

theorem hasNumber_of_mem_members {member : String × Json}
    {members : List (String × Json)} (isMember : member ∈ members)
    (noNumber : hasNumber.membersHave members = false) :
    member.2.hasNumber = false := by
  induction members with
  | nil => cases isMember
  | cons first members induction =>
      obtain ⟨here, later⟩ := Bool.or_eq_false_iff.mp noNumber
      rcases List.mem_cons.mp isMember with rfl | isLater
      · exact here
      · exact induction isLater later

theorem isReadBack_string (text : String) : IsReadBack (.string text) := by
  intro depth fuel rest _ enough
  rw [compact, toList_quoted] at enough ⊢
  rw [List.length_cons] at enough
  obtain ⟨fuel, rfl⟩ : ∃ less, fuel = less + 1 := ⟨fuel - 1, by omega⟩
  rw [List.cons_append, List.append_assoc, readValue,
    skipSpace_cons (by decide)]
  simp only [List.singleton_append, readQuoted_escaped]
  rfl

/-- A word that stands for a value. -/
theorem isReadBack_word {value : Json} {first : Char} {word : List Char}
    (isWord : value.compact.toList = first :: word)
    (isRead : ∀ depth fuel text, readValue depth (fuel + 1) (first :: text) =
      readWord word value text) : value.IsReadBack := by
  intro depth fuel rest _ enough
  rw [isWord, List.length_cons] at enough
  obtain ⟨fuel, rfl⟩ : ∃ less, fuel = less + 1 := ⟨fuel - 1, by omega⟩
  rw [isWord, List.cons_append, isRead, readWord_append]

theorem isReadBack (value : Json) (noNumber : value.hasNumber = false) :
    value.IsReadBack := by
  match value with
  | .null => exact isReadBack_word rfl fun _ _ _ => rfl
  | .bool true => exact isReadBack_word rfl fun _ _ _ => rfl
  | .bool false => exact isReadBack_word rfl fun _ _ _ => rfl
  | .number _ => cases noNumber
  | .string text => exact isReadBack_string text
  | .array items =>
      have noNumberItems : ∀ item ∈ items, item.hasNumber = false :=
        fun item isItem => hasNumber_of_mem_items isItem noNumber
      exact isReadBack_array noNumberItems fun item isItem =>
        isReadBack item (noNumberItems item isItem)
  | .object members =>
      exact isReadBack_object fun member isMember =>
        isReadBack member.2 (hasNumber_of_mem_members isMember noNumber)
termination_by sizeOf value
decreasing_by
  · have smaller := List.sizeOf_lt_of_mem isItem
    simp only [Json.array.sizeOf_spec]
    omega
  · have smaller := List.sizeOf_lt_of_mem isMember
    obtain ⟨key, value⟩ := member
    simp only [Prod.mk.sizeOf_spec, Json.object.sizeOf_spec] at smaller ⊢
    omega

/-- What is printed is read back as it is. -/
theorem parseAsWritten_compact {value : Json}
    (noNumber : value.hasNumber = false) (shallow : value.depth ≤ maxDepth) :
    parseAsWritten value.compact = .ok value := by
  have isRead := isReadBack value noNumber maxDepth
    (2 * value.compact.toList.length + 2) [] shallow (by omega)
  rw [List.append_nil] at isRead
  rw [parseAsWritten]
  simp only [isRead]
  rfl

end ClusterTrace.Json
