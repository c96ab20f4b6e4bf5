import ClusterTrace.Proofs.Database.MigrationWrites
import ClusterTrace.Proofs.Storage.Serving

/-!
# The records that a store takes

A worker stores, each time it takes a key, the record most recently added under
it.  A record that a newer one of its key replaces before that is never stored,
and neither is what it tells of a migration.  A run in which no record is added
while its key is outstanding stores all records in the order in which they were
added, however they are interleaved with the steps of the worker,
`database_of_taken`.
-/

namespace ClusterTrace

open Queue (WorkQueue)

namespace Queue.WorkQueue

variable {κ α : Type} [DecidableEq κ]

/-- The pending values, the next one first. -/
def line (queue : WorkQueue κ α) : List α :=
  queue.order.filterMap fun key => queue.pending.get? key

theorem line_enqueue (queue : WorkQueue κ α) {key : κ} (value : α)
    (absent : key ∉ queue.order) (outstanding : Nat) :
    line
        { queue with
          order := queue.order ++ [key]
          pending := queue.pending.put key value
          outstanding := outstanding } =
      queue.line ++ [value] := by
  have others : ∀ other ∈ queue.order,
      (queue.pending.put key value).get? other = queue.pending.get? other := by
    intro other member
    refine Assoc.get?_put_of_ne ?_ value queue.pending
    rintro rfl
    exact absent member
  simp only [line, List.filterMap_append, List.filterMap_cons,
    Assoc.get?_put_self, List.filterMap_nil]
  rw [List.filterMap_congr others]

theorem line_start {queue : WorkQueue κ α} {key : κ} {value : α}
    {later : List κ} (order : queue.order = key :: later)
    (distinct : queue.order.Nodup)
    (found : queue.pending.get? key = some value) (processing : List κ) :
    queue.line =
      value :: line
        { queue with
          order := later
          pending := queue.pending.erase key
          processing := processing } := by
  rw [order, List.nodup_cons] at distinct
  have others : ∀ other ∈ later,
      (queue.pending.erase key).get? other = queue.pending.get? other := by
    intro other member
    refine Assoc.get?_erase_of_ne ?_ queue.pending
    rintro rfl
    exact distinct.1 member
  simp only [line, order, List.filterMap_cons, found]
  rw [List.filterMap_congr others]

end Queue.WorkQueue

namespace Store

namespace History

/-- The records that were added, in order of time. -/
def added : History → List Record
  | [] => []
  | .added record _ :: history => added history ++ [record]
  | _ :: history => added history

/-- Each time that a key was taken, the record most recently added under it. -/
def taken : History → List Record
  | [] => []
  | .looked (.item key _) :: history =>
      taken history ++ (latest? key history).toList
  | _ :: history => taken history

/-- The records that attempts stored, in order of time. -/
def stored : History → List Record
  | [] => []
  | .tried _ record .stored :: history => stored history ++ [record]
  | _ :: history => stored history

/-- No attempt failed. -/
def Succeeds : History → Prop
  | [] => True
  | .tried _ _ attempt :: history => attempt = .stored ∧ Succeeds history
  | _ :: history => Succeeds history

/-- A record was added under the key, and none was stored under it since. -/
def isOpen (key : Key) : History → Bool
  | [] => false
  | .added record _ :: history => record.key = key || isOpen key history
  | .tried k _ _ :: history => k ≠ key && isOpen key history
  | _ :: history => isOpen key history

/-- No record was added while its key was outstanding. -/
def Undisturbed : History → Prop
  | [] => True
  | .added record _ :: history =>
      isOpen record.key history = false ∧ Undisturbed history
  | _ :: history => Undisturbed history

end History

/-! ## What is stored -/

/-- A store whose attempts all succeed has put what it stored into its
database. -/
theorem Serves.database_eq {initial : Store} {history : History}
    {held : Option (Key × Record)} {store : Store}
    (serves : Serves initial history held store)
    (succeeds : history.Succeeds) :
    store.database = initial.database.putAll history.stored := by
  induction serves with
  | start => rfl
  | add record _ ih => exact ih succeeds
  | look _ _ ih => exact ih succeeds
  | @finish history key record store success _ ih =>
      cases success with
      | true =>
          rw [database_finish, if_pos rfl, ih succeeds.2]
          exact (Database.putAll_concat _ record _).symm
      | false => exact (attempt_failed_ne_stored store key succeeds.1).elim
  | @overrun history key record store _ _ =>
      exact (attempt_failed_ne_stored store key succeeds.1).elim
  | wait span _ ih => exact ih succeeds
  | stop _ ih => exact ih succeeds

/-- What was taken is stored, or the worker holds it. -/
theorem Serves.taken_eq {initial : Store} (empty : initial.queue = {})
    (atStart : initial.clock = 0) {history : History}
    {held : Option (Key × Record)} {store : Store}
    (serves : Serves initial history held store)
    (succeeds : history.Succeeds) :
    history.taken = history.stored ++ (held.map (·.2)).toList := by
  induction serves with
  | start => rfl
  | add record _ ih => exact ih succeeds
  | @look history store handed rest serves hands ih =>
      have before : history.taken = history.stored := by
        simpa using ih succeeds
      cases handed with
      | item key record =>
          have isLatest :=
            (serves.follows empty atStart).latest_of_hands hands
          simp only [History.taken, History.stored, isLatest, before,
            WorkQueue.Handed.item?, Option.map_some, Option.toList_some]
      | nothing => simpa [History.taken, History.stored] using before
      | closed => simpa [History.taken, History.stored] using before
  | @finish history key record store success _ ih =>
      obtain ⟨isStored, earlier⟩ := succeeds
      rw [isStored]
      simpa [History.taken, History.stored] using ih earlier
  | @overrun history key record store _ _ =>
      exact (attempt_failed_ne_stored store key succeeds.1).elim
  | wait span _ ih => exact ih succeeds
  | stop _ ih => exact ih succeeds

/-! ## The order in which records are taken -/

/-- Every record that was added was taken or is pending, and the keys that are
outstanding are those that were not stored since they were added. -/
structure InLine (history : History) (store : Store) : Prop where
  conserved : history.added = history.taken ++ store.queue.line
  open_of_pending : ∀ key ∈ store.queue.pending.keys, history.isOpen key = true
  open_of_processing : ∀ key ∈ store.queue.processing,
    history.isOpen key = true
  clean : store.queue.dirty = []
  unawaited : store.queue.waiting = []

namespace InLine

variable {history : History} {store : Store}

theorem add (inLine : InLine history store)
    (accounted : store.queue.Accounted) (record : Record)
    (isNew : Bool) (closed : history.isOpen record.key = false) :
    InLine (.added record isNew :: history) (store.add record).2 := by
  have notPending : record.key ∉ store.queue.pending.keys := by
    intro member
    rw [inLine.open_of_pending _ member] at closed
    cases closed
  have notProcessing : record.key ∉ store.queue.processing := by
    intro member
    rw [inLine.open_of_processing _ member] at closed
    cases closed
  have notOrdered : record.key ∉ store.queue.order := fun member =>
    notPending ((accounted.mem_order _).mp member)
  have opened : ∀ key, history.isOpen key = true →
      History.isOpen key (.added record isNew :: history) = true := by
    intro key isOpen
    simp [History.isOpen, isOpen]
  rcases store.queue.add_cases record.key record with
    ⟨member, _⟩ | ⟨_, _, _, found, _⟩ | ⟨_, _, member, _⟩ |
    ⟨_, _, member, _⟩ | ⟨_, _, _, result⟩
  · exact (notPending member).elim
  · rw [inLine.unawaited] at found
    cases found
  · exact (notProcessing member).elim
  · exact (notProcessing member).elim
  · rw [Store.add, result]
    constructor
    case conserved =>
      change history.added ++ [record] = history.taken ++ WorkQueue.line _
      rw [WorkQueue.line_enqueue _ record notOrdered, ← List.append_assoc,
        inLine.conserved]
    case open_of_pending =>
      intro key member
      rw [Assoc.keys_put_of_not_mem notPending, List.mem_append,
        List.mem_singleton] at member
      rcases member with earlier | rfl
      · exact opened key (inLine.open_of_pending key earlier)
      · simp [History.isOpen]
    case open_of_processing =>
      intro key member
      exact opened key (inLine.open_of_processing key member)
    case clean => exact inLine.clean
    case unawaited => exact inLine.unawaited

theorem look (inLine : InLine history store)
    (follows : Follows history none store)
    {handed : WorkQueue.Handed Key Record} {rest : WorkQueue Key Record}
    (hands : store.queue.Hands store.clock handed rest) :
    InLine (.looked handed :: history) { store with queue := rest } := by
  have accounted := follows.reaches.accounted
  have nothingDue : ∀ due, store.queue.Promotable due → due = [] := by
    intro due promotable
    refine List.eq_nil_iff_forall_not_mem.mpr fun item member => ?_
    have waits := promotable.waits item member
    rw [inLine.unawaited] at waits
    cases waits
  rcases accounted.hands_cases hands with
    ⟨rfl, rfl⟩ | ⟨due, promotable, ⟨rfl, rfl⟩ |
      ⟨key, record, later, rfl, order, found, rfl⟩⟩
  · exact ⟨inLine.conserved, inLine.open_of_pending,
      inLine.open_of_processing, inLine.clean, inLine.unawaited⟩
  · cases nothingDue due promotable
    exact ⟨inLine.conserved, inLine.open_of_pending,
      inLine.open_of_processing, inLine.clean, inLine.unawaited⟩
  · cases nothingDue due promotable
    rw [WorkQueue.promote] at order found
    have isLatest := follows.latest_of_hands hands
    have member := Assoc.mem_keys_of_get? found
    constructor
    case conserved =>
      have line := WorkQueue.line_start order accounted.order_nodup found
        (key :: store.queue.processing.filter (· ≠ key))
      change history.added =
        (history.taken ++ (history.latest? key).toList) ++ WorkQueue.line _
      rw [inLine.conserved, line, isLatest, List.append_assoc]
      rfl
    case open_of_pending =>
      intro other isPending
      rw [WorkQueue.promote, Assoc.keys_erase, List.mem_filter] at isPending
      exact inLine.open_of_pending other isPending.1
    case open_of_processing =>
      intro other isProcessing
      rcases List.mem_cons.mp isProcessing with rfl | earlier
      · exact inLine.open_of_pending other member
      · exact inLine.open_of_processing other (List.mem_filter.mp earlier).1
    case clean => exact inLine.clean
    case unawaited => exact inLine.unawaited

theorem succeed (inLine : InLine history store) {key : Key} {record : Record}
    (follows : Follows history (some (key, record)) store) :
    InLine (.tried key record .stored :: history)
      (store.succeed key record) := by
  have accounted := follows.reaches.accounted
  have notPending := accounted.not_pending_of_processing follows.mem_processing
  have others : ∀ other, other ≠ key →
      History.isOpen other (.tried key record .stored :: history) =
        history.isOpen other := by
    intro other different
    simp [History.isOpen, Ne.symm different]
  have result : store.queue.done key .finished store.clock =
      { store.queue with
        processing := store.queue.processing.filter (· ≠ key)
        outstanding := store.queue.outstanding - 1 } := by
    rcases store.queue.done_cases key .finished store.clock with
      ⟨_, found, _⟩ | ⟨_, _, result⟩ | ⟨_, _, _, impossible, _⟩
    · rw [inLine.clean] at found
      cases found
    · exact result
    · cases impossible
  rw [Store.succeed, result]
  constructor
  case conserved => exact inLine.conserved
  case open_of_pending =>
    intro other member
    have different : other ≠ key := fun same => notPending (same ▸ member)
    rw [others other different]
    exact inLine.open_of_pending other member
  case open_of_processing =>
    intro other member
    obtain ⟨earlier, different⟩ := List.mem_filter.mp member
    rw [others other (by simpa using different)]
    exact inLine.open_of_processing other earlier
  case clean => exact inLine.clean
  case unawaited => exact inLine.unawaited

end InLine

/-- A store whose keys are at rest when records are added under them takes the
records in the order in which they are added. -/
theorem Serves.inLine {initial : Store} (empty : initial.queue = {})
    (atStart : initial.clock = 0) {history : History}
    {held : Option (Key × Record)} {store : Store}
    (serves : Serves initial history held store)
    (succeeds : history.Succeeds) (undisturbed : history.Undisturbed) :
    InLine history store := by
  induction serves with
  | start =>
      constructor <;> simp [empty, History.added, History.taken, WorkQueue.line]
  | add record serves ih =>
      have accounted := (serves.follows empty atStart).reaches.accounted
      exact (ih succeeds undisturbed.2).add accounted record _ undisturbed.1
  | look serves hands ih =>
      exact (ih succeeds undisturbed).look (serves.follows empty atStart) hands
  | @finish history key record store success serves ih =>
      cases success with
      | true =>
          exact (ih succeeds.2 undisturbed).succeed
            (serves.follows empty atStart)
      | false => exact (attempt_failed_ne_stored store key succeeds.1).elim
  | @overrun history key record store _ _ =>
      exact (attempt_failed_ne_stored store key succeeds.1).elim
  | wait span _ ih =>
      have before := ih succeeds undisturbed
      exact ⟨before.conserved, before.open_of_pending,
        before.open_of_processing, before.clean, before.unawaited⟩
  | stop _ ih =>
      have before := ih succeeds undisturbed
      exact ⟨before.conserved, before.open_of_pending,
        before.open_of_processing, before.clean, before.unawaited⟩

/-! ## What is left at the end -/

/-- A key that was handed out since its record was added was handed out after
that record. -/
theorem looked_of_handedSince {key : Key} {later earlier : History}
    {record : Record} {isNew : Bool} (same : record.key = key)
    (since : Queue.History.handedSince key
      (History.ofQueue (later ++ .added record isNew :: earlier)) = true) :
    ∃ taken, Event.looked (.item key taken) ∈ later := by
  induction later with
  | nil =>
      simp [History.ofQueue, Queue.History.handedSince, same] at since
  | cons event later ih =>
      cases event with
      | added other otherNew =>
          rw [List.cons_append, History.ofQueue,
            Queue.History.handedSince] at since
          split at since
          · cases since
          · obtain ⟨taken, member⟩ := ih since
            exact ⟨taken, List.mem_cons_of_mem _ member⟩
      | looked handed =>
          cases handed with
          | item other value =>
              rw [List.cons_append, History.ofQueue,
                Queue.History.handedSince] at since
              split at since
              · rename_i isKey
                exact ⟨value, by rw [isKey]; exact List.mem_cons_self⟩
              · obtain ⟨taken, member⟩ := ih since
                exact ⟨taken, List.mem_cons_of_mem _ member⟩
          | _ =>
              obtain ⟨taken, member⟩ := ih since
              exact ⟨taken, List.mem_cons_of_mem _ member⟩
      | _ =>
          obtain ⟨taken, member⟩ := ih since
          exact ⟨taken, List.mem_cons_of_mem _ member⟩

theorem exists_latest?_of_added (later earlier : History) (record : Record)
    (isNew : Bool) :
    ∃ latest, History.latest? record.key
      (later ++ .added record isNew :: earlier) = some latest := by
  induction later with
  | nil => exact ⟨record, if_pos rfl⟩
  | cons event later ih =>
      cases event with
      | added other otherNew =>
          rw [List.cons_append, History.latest?]
          split
          · exact ⟨other, rfl⟩
          · exact ih
      | _ => exact ih

/-- When nothing is outstanding and no attempt failed, the database is the one
that the taken records leave when they are stored one after the other, and every
record that was added was taken or replaced by one that was.  If no record was
added while its key was outstanding, all records were taken, in the order in
which they were added. -/
theorem database_of_taken {maxRetries base maximum : Nat}
    {database : Database} {history : History} {held : Option (Key × Record)}
    {store : Store}
    (serves : Serves { new maxRetries base maximum with database := database }
      history held store)
    (succeeds : history.Succeeds) (drained : store.outstanding = 0) :
    store.database = database.putAll history.taken ∧
    (∀ later earlier record isNew,
      history = later ++ .added record isNew :: earlier →
      ∃ taken, Event.looked (.item record.key taken) ∈ later) ∧
    (history.Undisturbed → history.taken = history.added) := by
  have follows := serves.follows rfl rfl
  have accounted := follows.reaches.accounted
  have isIdle : store.queue.isIdle = true := decide_eq_true drained
  obtain ⟨pending, processing, dirty, waiting⟩ :=
    accounted.isIdle_iff.mp isIdle
  refine ⟨?_, ?_, ?_⟩
  · have nothingHeld : held = none := by
      refine Option.eq_none_iff_forall_ne_some.mpr ?_
      rintro ⟨key, record⟩ rfl
      have member := follows.mem_processing
      rw [processing] at member
      cases member
    rw [serves.taken_eq rfl rfl succeeds, nothingHeld, Option.map_none,
      Option.toList_none, List.append_nil]
    exact serves.database_eq succeeds
  · rintro later earlier record isNew rfl
    obtain ⟨latest, isLatest⟩ :=
      exists_latest?_of_added later earlier record isNew
    rw [← History.newest?_ofQueue] at isLatest
    rcases follows.traced.awaiting _ latest isLatest with since | kept
    · exact looked_of_handedSince rfl since
    · have owes : store.queue.Owes record.key := by
        left
        rw [kept]
        exact List.cons_ne_nil latest []
      exact (accounted.not_owes_of_isIdle isIdle record.key owes).elim
  · intro undisturbed
    have inLine := serves.inLine rfl rfl succeeds undisturbed
    have noOrder : store.queue.order = [] := by
      refine List.eq_nil_iff_forall_not_mem.mpr fun key member => ?_
      rw [accounted.mem_order, pending] at member
      cases member
    rw [inLine.conserved, WorkQueue.line, noOrder, List.filterMap_nil,
      List.append_nil]

/-- An instance is stored, and its migration is added meanwhile. -/
theorem database_of_undisturbed_run :
    let vmi : VirtualMachineInstance :=
      ⟨"vmi-1", "fedora", "vms", "", "Running", "worker-2", ⟨5, 0⟩,
        some ⟨"mig-1", some "pod-2", none, none, some ⟨10, 0⟩, none, true,
          false⟩, .null⟩
    let manifest : Migration :=
      ⟨"mig-1", some "m", "vms", some "Running", "fedora", none, none, none,
        none, none, none, some false, some false, some .null⟩
    ∃ history store, Serves (new 3 5 1000000) history none store ∧
      store.outstanding = 0 ∧
      store.database =
        ({} : Database).putAll [.vmi vmi, .migration manifest] := by
  intro vmi manifest
  have initial : Serves (new 3 5 1000000) [] none _ := .start
  have held := (initial.add (.vmi vmi)).take
  have stored := (held.add (.migration manifest)).finish true
  have serves := stored.take.finish true
  obtain ⟨rows, _, inOrder⟩ :=
    database_of_taken serves ⟨rfl, rfl, trivial⟩ (by decide)
  rw [inOrder ⟨by decide, by decide, trivial⟩] at rows
  exact ⟨_, _, serves, by decide, rows⟩

/-- An instance that names a migration is replaced, before it is taken, by one
that names the next migration. -/
theorem migrations_of_replaced_instance :
    ∃ history store, Serves (new 3 5 1000000) history none store ∧
      history.Succeeds ∧ store.outstanding = 0 ∧
      (∀ record ∈ history.added,
        record.key.kind = .vmi ∨ record.key.kind = .migration) ∧
      store.database.migrations ≠
        (({} : Database).putAll history.added).migrations := by
  let early : VirtualMachineInstance :=
    ⟨"vmi-1", "fedora", "vms", "", "Running", "node-b", ⟨1709280000, 0⟩,
      some ⟨"mig-1", some "tp", some "node-a", some "node-b",
        some ⟨1709280900, 0⟩, none, true, false⟩, .object []⟩
  let late : VirtualMachineInstance :=
    ⟨"vmi-1", "fedora", "vms", "", "Running", "node-b", ⟨1709280000, 0⟩,
      some ⟨"mig-2", some "tp", some "node-a", some "node-b",
        some ⟨1709280900, 0⟩, none, true, false⟩, .object []⟩
  have initial : Serves (new 3 5 1000000) [] none _ := .start
  have added := (initial.add (.vmi early)).add (.vmi late)
  have serves := added.take.finish true
  refine ⟨_, _, serves, ⟨rfl, trivial⟩, by decide, by decide, ?_⟩
  intro equal
  have lengths := congrArg List.length equal
  revert lengths
  decide

end Store
end ClusterTrace
