import ClusterTrace.Database.Listing
import Mathlib.Data.Prod.Lex
import Mathlib.Data.String.Basic
import Mathlib.Order.Compare
import Mathlib.Order.WithBot

/-!
# The order of listings

Records of every kind are listed by a place of one shape, `Record.place`: by
times as texts, the greatest first, and then by namespace, name and identity.
The identity comes last, so two records of one kind never share a place, and a
listing has only one order, `inOrder_eq_of_perm`.
-/

namespace ClusterTrace

open Listing (View compareText? compareTime? compareTime)
open OrderDual (toDual toDual_inj toDual_lt_toDual)
open Time (Instant)

/-! ## Sorted lists -/

section Sorting

variable {α κ : Type} [LinearOrder κ] {le : α → α → Bool} {key : α → κ}
  (ordered : ∀ a b, le a b = true ↔ key a ≤ key b)
include ordered

theorem pairwise_mergeSort_of_key (rows : List α) :
    (rows.mergeSort le).Pairwise fun a b => key a ≤ key b := by
  refine (List.pairwise_mergeSort ?_ ?_ rows).imp (ordered _ _).mp
  · intro a b c
    simpa only [ordered] using le_trans
  · intro a b
    simpa only [Bool.or_eq_true, ordered] using le_total (key a) (key b)

/-- Where no two rows share a key, they are sorted in only one way. -/
theorem mergeSort_eq_of_perm {rows rows' : List α} (perm : rows.Perm rows')
    (unique : ∀ a ∈ rows, ∀ b ∈ rows, key a = key b → a = b) :
    rows.mergeSort le = rows'.mergeSort le := by
  have sorted := List.mergeSort_perm rows le
  have sorted' := List.mergeSort_perm rows' le
  refine List.Perm.eq_of_pairwise ?_ (pairwise_mergeSort_of_key ordered rows)
    (pairwise_mergeSort_of_key ordered rows')
    (sorted.trans (perm.trans sorted'.symm))
  intro a b member member' before after
  rw [sorted.mem_iff] at member
  rw [sorted'.mem_iff, ← perm.mem_iff] at member'
  exact unique a member b member' (le_antisymm before after)

end Sorting

/-! ## Places -/

/-- A time in descending order of the texts, what is absent last. -/
abbrev Recency : Type :=
  (WithBot String)ᵒᵈ

def recencyOf : Option String → Recency
  | some text => toDual (text : WithBot String)
  | none => toDual ⊥

/-- Two times, a namespace, a name and an identity, in this order. -/
abbrev Place : Type :=
  Recency ×ₗ Recency ×ₗ String ×ₗ String ×ₗ String

namespace Record

/-- Where a record is listed among those of its kind.  Parts that its kind is
not listed by are the same for all. -/
def place : Record → Place
  | .pod row => at' (some row.creationTime) none "" "" row.uuid
  | .node row => at' none none "" "" row.name
  | .vm row => at' none none row.namespaceName row.name row.uuid
  | .vmi row => at' (some row.creationTime) none "" "" row.uuid
  | .migration row => at' row.startTimestamp row.creationTime "" "" row.uuid
  | .pvc row => at' none none row.namespaceName row.name row.uuid
  | .subscription row => at' none none row.namespaceName row.name row.uuid
  | .gather row => at' (some row.importTime) none "" "" row.name
where
  /-- The place of these parts. -/
  at' (first second : Option Instant) (inNamespace name id : String) : Place :=
    toLex (recencyOf (first.map (·.columnText)),
      toLex (recencyOf (second.map (·.columnText)),
        toLex (inNamespace, toLex (name, id))))

/-- The last part of a place is the identity. -/
theorem id_eq_of_place_eq {a b : Record} (same : a.place = b.place) :
    a.key.id = b.key.id := by
  have last := congrArg (fun place : Place =>
    (ofLex (ofLex (ofLex (ofLex place).2).2).2).2) same
  cases a <;> cases b <;> exact last

end Record

/-! ## Comparisons of places -/

/-- The ordering is the outcome of comparing the two values. -/
structure IsComparison {κ : Type} [LT κ] (outcome : Ordering) (a b : κ) :
    Prop where
  lt_iff : outcome = .lt ↔ a < b
  eq_iff : outcome = .eq ↔ a = b

section Comparisons

variable {α β : Type}

theorem isComparison_compare [LinearOrder α] (a b : α) :
    IsComparison (compare a b) a b :=
  ⟨compare_lt_iff_lt, compare_eq_iff_eq⟩

theorem isComparison_self [Preorder α] (a : α) : IsComparison .eq a a :=
  ⟨by simp, by simp⟩

variable {outcome outcome' : Ordering}

theorem IsComparison.isLE_iff [PartialOrder α] {a b : α}
    (compared : IsComparison outcome a b) : outcome.isLE = true ↔ a ≤ b := by
  rw [le_iff_lt_or_eq, ← compared.lt_iff, ← compared.eq_iff,
    Ordering.isLE_iff_eq_lt_or_eq_eq]

/-- A comparison is decided by a second one where the first one is even. -/
theorem IsComparison.andThen [Preorder α] [Preorder β] {a b : α} {c d : β}
    (first : IsComparison outcome a b) (second : IsComparison outcome' c d) :
    IsComparison (outcome.then outcome') (toLex (a, c)) (toLex (b, d)) := by
  constructor
  case lt_iff =>
    rw [Ordering.then_eq_lt, first.lt_iff, first.eq_iff, second.lt_iff,
      Prod.Lex.toLex_lt_toLex]
  case eq_iff =>
    rw [Ordering.then_eq_eq, first.eq_iff, second.eq_iff, toLex_inj,
      Prod.mk.injEq]

end Comparisons

theorem recencyOf_some_lt_some {a b : String} :
    recencyOf (some a) < recencyOf (some b) ↔ b < a := by
  rw [recencyOf, recencyOf, toDual_lt_toDual, WithBot.coe_lt_coe]

theorem recencyOf_some_lt_none (a : String) :
    recencyOf (some a) < recencyOf none :=
  toDual_lt_toDual.mpr (WithBot.bot_lt_coe a)

theorem recencyOf_inj {a b : Option String} :
    recencyOf a = recencyOf b ↔ a = b := by
  cases a with
  | none =>
      cases b with
      | none => simp
      | some b => simp [(recencyOf_some_lt_none b).ne']
  | some a =>
      cases b with
      | none => simp [(recencyOf_some_lt_none a).ne]
      | some b =>
          rw [recencyOf, recencyOf, toDual_inj, WithBot.coe_inj,
            Option.some_inj]

/-- Texts are compared the other way round, for the greatest to come first. -/
theorem isComparison_texts (a b : Option String) :
    IsComparison (compareText? b a) (recencyOf a) (recencyOf b) := by
  constructor
  case lt_iff =>
    cases a with
    | none =>
        cases b with
        | none => simp [compareText?]
        | some b => simp [compareText?, (recencyOf_some_lt_none b).le]
    | some a =>
        cases b with
        | none => simp [compareText?, recencyOf_some_lt_none a]
        | some b =>
            rw [compareText?, recencyOf_some_lt_some]
            exact compare_lt_iff_lt
  case eq_iff =>
    rw [recencyOf_inj]
    cases a with
    | none => cases b <;> simp [compareText?]
    | some a =>
        cases b with
        | none => simp [compareText?]
        | some b =>
            rw [compareText?, Option.some_inj]
            exact compare_eq_iff_eq.trans eq_comm

/-! ## The orders of the kinds -/

section Kinds

variable (a b : String)

/-- Rows that are listed by two times and their identities. -/
theorem isComparison_byTimes (first first' second second' : Option Instant) :
    IsComparison
      ((compareTime? first' first).then
        ((compareTime? second' second).then (compare a b)))
      (Record.place.at' first second "" "" a)
      (Record.place.at' first' second' "" "" b) :=
  (isComparison_texts _ _).andThen <| (isComparison_texts _ _).andThen <|
    (isComparison_self "").andThen <| (isComparison_self "").andThen <|
      isComparison_compare a b

/-- Rows that are listed by names and their identities. -/
theorem isComparison_byNames (inNamespace inNamespace' name name' : String) :
    IsComparison
      ((compare inNamespace inNamespace').then
        ((compare name name').then (compare a b)))
      (Record.place.at' none none inNamespace name a)
      (Record.place.at' none none inNamespace' name' b) :=
  (isComparison_self _).andThen <| (isComparison_self _).andThen <|
    (isComparison_compare _ _).andThen <| (isComparison_compare _ _).andThen <|
      isComparison_compare a b

end Kinds

theorem isComparison_byAge (time time' : Instant) (a b : String) :
    IsComparison ((compareTime time' time).then (compare a b))
      (Record.place.at' (some time) none "" "" a)
      (Record.place.at' (some time') none "" "" b) := by
  have compared := isComparison_byTimes a b (some time) (some time') none none
  have even : compareTime? none none = .eq := rfl
  have given : compareTime? (some time') (some time) = compareTime time' time :=
    rfl
  rw [even, given, Ordering.eq_then] at compared
  exact compared

theorem isComparison_pods (a b : Pod) :
    IsComparison (Listing.pods.order a b) (Record.pod a).place
      (Record.pod b).place := by
  simp only [Listing.pods, Record.place]
  exact isComparison_byAge _ _ _ _

theorem isComparison_vmis (a b : VirtualMachineInstance) :
    IsComparison (Listing.vmis.order a b) (Record.vmi a).place
      (Record.vmi b).place := by
  simp only [Listing.vmis, Record.place]
  exact isComparison_byAge _ _ _ _

theorem isComparison_nodes (a b : Node) :
    IsComparison (Listing.nodes.order a b) (Record.node a).place
      (Record.node b).place := by
  have compared := isComparison_byTimes a.name b.name none none none none
  have even : compareTime? none none = .eq := rfl
  rw [even, Ordering.eq_then, Ordering.eq_then] at compared
  exact compared

theorem isComparison_migrations (a b : Migration) :
    IsComparison (Listing.migrations.order a b) (Record.migration a).place
      (Record.migration b).place := by
  have compared := isComparison_byTimes a.uuid b.uuid a.startTimestamp
    b.startTimestamp a.creationTime b.creationTime
  rw [← Ordering.then_assoc] at compared
  exact compared

theorem isComparison_vms (a b : VirtualMachine) :
    IsComparison (Listing.vms.order a b) (Record.vm a).place
      (Record.vm b).place := by
  have compared := isComparison_byNames a.uuid b.uuid a.namespaceName
    b.namespaceName a.name b.name
  rw [← Ordering.then_assoc] at compared
  exact compared

theorem isComparison_pvcs (a b : VolumeClaim) :
    IsComparison (Listing.pvcs.order a b) (Record.pvc a).place
      (Record.pvc b).place := by
  have compared := isComparison_byNames a.uuid b.uuid a.namespaceName
    b.namespaceName a.name b.name
  rw [← Ordering.then_assoc] at compared
  exact compared

theorem isComparison_subscriptions (a b : Subscription) :
    IsComparison (Listing.subscriptions.order a b)
      (Record.subscription a).place (Record.subscription b).place := by
  have compared := isComparison_byNames a.uuid b.uuid a.namespaceName
    b.namespaceName a.name b.name
  rw [← Ordering.then_assoc] at compared
  exact compared

/-! ## Records in the order of a listing -/

/-- The text of the first time is greater, or only the second time is absent. -/
def IsLater : Option Instant → Option Instant → Prop
  | some a, some b => b.columnText < a.columnText
  | some _, none => True
  | none, _ => False

/-- The times have one text, or are both absent. -/
def IsSameTime (a b : Option Instant) : Prop :=
  a.map (·.columnText) = b.map (·.columnText)

/-- Of two records of a kind the first one is listed before the second one. -/
def Record.Precedes : Record → Record → Prop
  | .pod a, .pod b =>
      b.creationTime.columnText < a.creationTime.columnText ∨
        a.creationTime.columnText = b.creationTime.columnText ∧ a.uuid < b.uuid
  | .vmi a, .vmi b =>
      b.creationTime.columnText < a.creationTime.columnText ∨
        a.creationTime.columnText = b.creationTime.columnText ∧ a.uuid < b.uuid
  | .migration a, .migration b =>
      IsLater a.startTimestamp b.startTimestamp ∨
        IsSameTime a.startTimestamp b.startTimestamp ∧
          (IsLater a.creationTime b.creationTime ∨
            IsSameTime a.creationTime b.creationTime ∧ a.uuid < b.uuid)
  | .node a, .node b => a.name < b.name
  | .vm a, .vm b =>
      byNames a.namespaceName b.namespaceName a.name b.name a.uuid b.uuid
  | .pvc a, .pvc b =>
      byNames a.namespaceName b.namespaceName a.name b.name a.uuid b.uuid
  | .subscription a, .subscription b =>
      byNames a.namespaceName b.namespaceName a.name b.name a.uuid b.uuid
  | _, _ => False
where
  /-- By namespace, by name, and then by identity. -/
  byNames (inNamespace inNamespace' name name' id id' : String) : Prop :=
    inNamespace < inNamespace' ∨ inNamespace = inNamespace' ∧
      (name < name' ∨ name = name' ∧ id < id')

theorem recencyOf_lt_iff {a b : Option Instant} :
    recencyOf (a.map (·.columnText)) < recencyOf (b.map (·.columnText)) ↔
      IsLater a b := by
  cases a with
  | none =>
      cases b with
      | none => simp [IsLater]
      | some b => simp [IsLater, (recencyOf_some_lt_none b.columnText).le]
  | some a =>
      cases b with
      | none => simp [IsLater, recencyOf_some_lt_none a.columnText]
      | some b => exact recencyOf_some_lt_some

theorem place_at'_lt_iff {first first' second second' : Option Instant}
    {inNamespace inNamespace' name name' id id' : String} :
    Record.place.at' first second inNamespace name id <
        Record.place.at' first' second' inNamespace' name' id' ↔
      IsLater first first' ∨ IsSameTime first first' ∧
        (IsLater second second' ∨ IsSameTime second second' ∧
          Record.Precedes.byNames inNamespace inNamespace' name name' id
            id') := by
  rw [Record.place.at', Record.place.at', Prod.Lex.toLex_lt_toLex,
    Prod.Lex.toLex_lt_toLex, Prod.Lex.toLex_lt_toLex, Prod.Lex.toLex_lt_toLex,
    recencyOf_lt_iff, recencyOf_lt_iff, recencyOf_inj, recencyOf_inj]
  rfl

theorem Record.precedes_of_place_lt {a b : Record}
    (sameKind : a.key.kind = b.key.kind) (listed : a.key.kind ≠ .gather)
    (before : a.place < b.place) : a.Precedes b := by
  cases a <;> cases b <;> first
    | cases sameKind
      done
    | simpa [Record.place, place_at'_lt_iff, Record.Precedes,
        Record.Precedes.byNames, IsLater, IsSameTime] using before
    | exact (listed rfl).elim

/-- The records in the order of their places. -/
def inOrder (records : List Record) : List Record :=
  records.mergeSort fun a b => decide (a.place ≤ b.place)

theorem perm_inOrder (records : List Record) :
    (inOrder records).Perm records :=
  List.mergeSort_perm _ _

theorem pairwise_inOrder (records : List Record) :
    (inOrder records).Pairwise fun a b => a.place ≤ b.place :=
  pairwise_mergeSort_of_key (fun _ _ => decide_eq_true_iff) records

/-- Where no two records share a place, it does not matter how they were
arranged. -/
theorem inOrder_eq_of_perm {records records' : List Record}
    (perm : records.Perm records')
    (unique : ∀ a ∈ records, ∀ b ∈ records, a.place = b.place → a = b) :
    inOrder records = inOrder records' :=
  mergeSort_eq_of_perm (fun _ _ => decide_eq_true_iff) perm unique

end ClusterTrace
