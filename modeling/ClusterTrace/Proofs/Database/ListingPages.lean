import ClusterTrace.Proofs.Database.Listings
import Mathlib.Algebra.Order.Floor.Div

/-!
# Pages of listings

The pages of a listing, one after the other, are the listing without pages,
`list_pages`.  Each record has a place of its own in the order of a listing, so
that this is so even if the rows of a table come in another order for every
page.
-/

namespace ClusterTrace

namespace Listing

/-! ## Windows of a list -/

section Windows

variable {α : Type}

/-- The windows of a size, one after the other, are a beginning of the list. -/
theorem flatMap_windows (size : Nat) (rows : List α) (count : Nat) :
    ((List.range count).flatMap fun n => (rows.drop (n * size)).take size) =
      rows.take (count * size) := by
  induction count with
  | zero => simp
  | succ count induction =>
      rw [List.range_succ, List.flatMap_append, induction, Nat.succ_mul,
        List.take_add, List.flatMap_singleton]

theorem length_window (size : Nat) (rows : List α) (n : Nat) :
    ((rows.drop (n * size)).take size).length =
      min size (rows.length - n * size) := by
  rw [List.length_take, List.length_drop]

theorem pageCount_eq_ceilDiv (size total : Nat) :
    pageCount (some size) total = total ⌈/⌉ size := by
  rw [pageCount, Nat.ceilDiv_eq_add_pred_div]

/-- A number of windows is too small exactly if it leaves something out. -/
theorem lt_ceilDiv_iff {size : Nat} (positive : 0 < size) {total count : Nat} :
    count < total ⌈/⌉ size ↔ count * size < total := by
  rw [← Nat.not_le, ceilDiv_le_iff_le_mul positive, Nat.not_le, Nat.mul_comm]

end Windows

/-! ## Pages of a filter -/

/-- The filter for a page of this many rows. -/
def Filter.onPage (filter : Filter) (page size : Nat) : Filter :=
  { filter with page := page, perPage := some size }

/-- The pages of a size have the rows of the whole listing, in the same order:
every page before the last one is full, the last one has a row, and there is
nothing behind it.  Each page tells how many rows and pages there are. -/
structure IsPartition (total size : Nat) (whole : Page Record)
    (pages : Nat → Page Record) : Prop where
  joined : ((List.range (total ⌈/⌉ size)).flatMap
    fun n => (pages (n + 1)).rows) = whole.rows
  full : ∀ page, 1 ≤ page → page < total ⌈/⌉ size →
    (pages page).rows.length = size
  last : ∀ page, 1 ≤ page → page = total ⌈/⌉ size →
    1 ≤ (pages page).rows.length ∧ (pages page).rows.length ≤ size
  beyond : ∀ page, total ⌈/⌉ size < page → (pages page).rows = []
  totalRows : ∀ page, 1 ≤ page → (pages page).totalRows = total
  totalPages : ∀ page, 1 ≤ page → (pages page).totalPages = total ⌈/⌉ size

/-- A page holds this window of the rows and tells how many there are. -/
structure IsWindow (all : List Record) (size n : Nat) (page : Page Record) :
    Prop where
  rows : page.rows = (all.drop ((n - 1) * size)).take size
  totalRows : page.totalRows = all.length
  totalPages : page.totalPages = pageCount (some size) all.length

/-- The windows of rows make up a partition of them. -/
theorem isPartition_of_windows {total size : Nat} (positive : 0 < size)
    {whole : Page Record} {pages : Nat → Page Record}
    (length : whole.rows.length = total)
    (windows : ∀ page, 1 ≤ page →
      IsWindow whole.rows size page (pages page)) :
    IsPartition total size whole pages := by
  subst length
  have length : ∀ page, 1 ≤ page → (pages page).rows.length =
      min size (whole.rows.length - (page - 1) * size) := by
    intro page first
    rw [(windows page first).rows, length_window]
  have advance : ∀ page, 1 ≤ page → page * size = (page - 1) * size + size := by
    intro page first
    rw [← Nat.succ_mul, Nat.succ_eq_add_one, Nat.sub_add_cancel first]
  constructor
  case joined =>
    have covered := (lt_ceilDiv_iff positive).not.mp
      (Nat.lt_irrefl (whole.rows.length ⌈/⌉ size))
    have same : ∀ n, (pages (n + 1)).rows =
        (whole.rows.drop (n * size)).take size :=
      fun n => (windows (n + 1) (Nat.le_add_left 1 n)).rows
    simp only [same, flatMap_windows]
    exact List.take_of_length_le (Nat.not_lt.mp covered)
  case full =>
    intro page first before
    rw [lt_ceilDiv_iff positive, advance page first] at before
    rw [length page first]
    omega
  case last =>
    intro page first isLast
    have before : page - 1 < whole.rows.length ⌈/⌉ size := by omega
    rw [lt_ceilDiv_iff positive] at before
    rw [length page first]
    omega
  case beyond =>
    intro page after
    have first : 1 ≤ page := by omega
    have outside : ¬ page - 1 < whole.rows.length ⌈/⌉ size := by omega
    rw [lt_ceilDiv_iff positive, Nat.not_lt] at outside
    rw [(windows page first).rows, List.drop_of_length_le outside,
      List.take_nil]
  case totalRows => exact fun page first => (windows page first).totalRows
  case totalPages =>
    intro page first
    rw [(windows page first).totalPages, pageCount_eq_ceilDiv]

/-- Every element of a list is in a window of it. -/
theorem exists_window_of_mem {size : Nat} (positive : 0 < size) {α : Type}
    {rows : List α} {row : α} (member : row ∈ rows) :
    ∃ page, 1 ≤ page ∧ row ∈ (rows.drop ((page - 1) * size)).take size := by
  have covered : rows.length ≤ rows.length * size :=
    Nat.le_mul_of_pos_right _ positive
  have windows := flatMap_windows size rows rows.length
  rw [List.take_of_length_le covered] at windows
  rw [← windows, List.mem_flatMap] at member
  obtain ⟨n, -, member⟩ := member
  exact ⟨n + 1, Nat.le_add_left 1 n, member⟩

variable {database : Database} {kind : Kind} {filter : Filter}

/-- The records that a filter selects do not depend on the order of the rows. -/
theorem selected_eq_of_perm (keyed : database.Keyed) {records : List Record}
    (perm : records.Perm (database.records kind)) :
    selected filter records = selected filter (database.records kind) := by
  refine inOrder_eq_of_perm (perm.filter _) fun a member b member' same => ?_
  exact keyed.eq_of_place_eq (perm.mem_iff.mp (List.mem_of_mem_filter member))
    (perm.mem_iff.mp (List.mem_of_mem_filter member')) same

section Pages

variable {records : List Record} {page size : Nat}

theorem fault?_onPage_iff (listed : kind ≠ .gather) (first : 1 ≤ page)
    (positive : 0 < size) :
    (filter.onPage page size).fault? kind = none ↔ filter.Fits kind := by
  rw [fault?_eq_none_iff listed]
  constructor
  · exact fun fault => fault.2.2
  · exact fun fits => ⟨first, fun same => by cases same; omega, fits⟩

/-- A page is given exactly if its own records can be read back. -/
theorem exists_pageOf_onPage_iff (listed : kind ≠ .gather) (first : 1 ≤ page)
    (positive : 0 < size) :
    (∃ given, pageOf kind (filter.onPage page size) records = .ok given) ↔
      filter.Fits kind ∧ ∀ record ∈
        ((selected filter records).drop ((page - 1) * size)).take size,
        record.IsShallow := by
  simp only [pageOf_eq_ok_iff, fault?_onPage_iff listed first positive]
  constructor
  · rintro ⟨given, fits, shallow, -⟩
    exact ⟨fits, shallow⟩
  · rintro ⟨fits, shallow⟩
    exact ⟨_, fits, shallow, rfl⟩

theorem isWindow_of_pageOf {given : Page Record}
    (read : pageOf kind (filter.onPage page size) records = .ok given) :
    IsWindow ((selected filter records).map Record.readBack) size page
      given := by
  obtain ⟨-, -, rfl⟩ := pageOf_eq_ok_iff.mp read
  constructor
  case rows => exact (List.map_take.trans (congrArg _ List.map_drop))
  case totalRows => exact (List.length_map _).symm
  case totalPages => rw [List.length_map]; rfl

/-- All pages are given exactly if all records that the filter selects can be
read back. -/
theorem forall_exists_pageOf_iff (listed : kind ≠ .gather)
    (positive : 0 < size) :
    (∀ page, 1 ≤ page → ∃ given,
      pageOf kind (filter.onPage page size) records = .ok given) ↔
      filter.Fits kind ∧ filter.Reads records := by
  rw [reads_iff]
  constructor
  · intro given
    have each := fun page first =>
      (exists_pageOf_onPage_iff listed first positive).mp (given page first)
    refine ⟨(each 1 le_rfl).1, fun record member => ?_⟩
    obtain ⟨page, first, member⟩ := exists_window_of_mem positive member
    exact (each page first).2 record member
  · rintro ⟨fits, shallow⟩ page first
    refine (exists_pageOf_onPage_iff listed first positive).mpr
      ⟨fits, fun record member => shallow record ?_⟩
    exact List.mem_of_mem_drop (List.mem_of_mem_take member)

end Pages

/-- The listing of a filter and all of its pages are given exactly if the filter
fits the kind and the records that it selects can be read back, and then the
pages are a partition of the listing.  Each page may be taken from tables whose
rows are in another order. -/
theorem list_pages (keyed : database.Keyed) (listed : kind ≠ .gather)
    (start : 1 ≤ filter.page) (unpaged : filter.perPage = none)
    {size : Nat} (positive : 0 < size) {scans : Nat → Database}
    (rearranged : ∀ page,
      ((scans page).records kind).Perm (database.records kind)) :
    ((∃ whole, database.list kind filter = .ok whole) ↔
      filter.Fits kind ∧ filter.Reads (database.records kind)) ∧
    ((∀ page, 1 ≤ page → ∃ given,
        (scans page).list kind (filter.onPage page size) = .ok given) ↔
      filter.Fits kind ∧ filter.Reads (database.records kind)) ∧
    ∀ whole pages, database.list kind filter = .ok whole →
      (∀ page, 1 ≤ page →
        (scans page).list kind (filter.onPage page size) = .ok (pages page)) →
      IsPartition
        ((database.records kind).countP fun record => filter.Selects record)
        size whole pages := by
  have scanned : ∀ page,
      (scans page).list kind (filter.onPage page size) =
        pageOf kind (filter.onPage page size) (database.records kind) := by
    intro page
    rw [Database.list_eq _ listed, pageOf, pageOf,
      selected_eq_of_perm keyed (rearranged page)]
  simp only [database.list_eq listed, scanned]
  refine ⟨exists_pageOf_of_unpaged_iff listed start unpaged,
    forall_exists_pageOf_iff listed positive, ?_⟩
  intro whole pages wholeGiven given
  obtain ⟨-, -, rfl⟩ := pageOf_eq_ok_iff.mp wholeGiven
  rw [pageRows_of_unpaged unpaged]
  refine isPartition_of_windows positive ?_ fun page first => ?_
  · rw [List.length_map, length_selected]
  · exact isWindow_of_pageOf (given page first)

/-- The pods of one time as they come for a page, in the other order for every
second one. -/
def scanTwins (page : Nat) : Database where
  pods :=
    if page % 2 = 0 then (twins .null).pods else (twins .null).pods.reverse

theorem perm_scanTwins (page : Nat) :
    ((scanTwins page).records .pod).Perm ((twins .null).records .pod) := by
  refine List.Perm.map _ ?_
  rw [scanTwins]
  split
  · exact .refl _
  · exact List.reverse_perm _

theorem list_pages_of_twins :
    ∃ whole pages, (twins .null).list .pod {} = .ok whole ∧
      (∀ page, 1 ≤ page → (scanTwins page).list .pod
        (Filter.onPage {} page 1) = .ok (pages page)) ∧
      IsPartition 2 1 whole pages := by
  obtain ⟨whole, paged, isPartition⟩ :=
    @list_pages (twins .null) .pod {} (keyed_twins .null) (by decide)
      (Nat.le_refl 1) rfl 1 Nat.one_pos scanTwins perm_scanTwins
  have fits : Filter.Fits {} .pod := by
    rintro ⟨⟩
  obtain ⟨whole, wholeGiven⟩ := whole.mpr ⟨fits, reads_twins {}⟩
  have given := paged.mpr ⟨fits, reads_twins {}⟩
  have : Nonempty (Page Record) := ⟨whole⟩
  choose! pages pagesGiven using given
  exact ⟨whole, pages, wholeGiven, pagesGiven,
    isPartition whole pages wholeGiven pagesGiven⟩

/-- One manifest that nests too deep is enough for the page with all rows to
fail. -/
theorem list_pages_of_deep_manifest :
    (twins (Json.nested 128)).Keyed ∧
      ¬ ∃ page, (twins (Json.nested 128)).list .pod
        (Filter.onPage {} 1 2) = .ok page := by
  refine ⟨keyed_twins _, ?_⟩
  rw [Database.list_eq _ (by decide),
    exists_pageOf_onPage_iff (by decide) (by decide) (by decide)]
  have short : (selected {} ((twins (Json.nested 128)).records .pod)).length ≤
      2 := by
    rw [length_selected]
    exact List.countP_le_length
  rintro ⟨-, shallow⟩
  rw [Nat.sub_self, Nat.zero_mul, List.drop_zero,
    List.take_of_length_le short] at shallow
  exact not_reads_twins (reads_iff.mpr shallow)

end Listing
end ClusterTrace
