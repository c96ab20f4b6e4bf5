import ClusterTrace.Proofs.Correlation.Lookups
import ClusterTrace.Proofs.Ingest.ArchiveTime
import ClusterTrace.Proofs.Ingest.DecodedKinds
import ClusterTrace.Proofs.Ingest.ImportRuns

/-!
# The ledger of imports

A name is imported once, and the ledger lists the imports that succeeded, each
with the time that its archive tells, `keepsLedger_of_imports`.
-/

namespace ClusterTrace.Ingest

open Store (IsReady Opened Tracked Works WorksOn)
open Time (Instant)

/-- What the ledger is to tell: a name is refused if an archive of that name was
imported before, and the entries are those of the archives that were imported,
one for each name.  The gather time is that of the time stamp in the archive,
where the staging directory is emptied before. -/
structure KeepsLedger (ingester : Ingester) (databasePath : String) (log : Log)
    (database : Database) : Prop where
  refused : ∀ call outcome earlier, (call, outcome) :: earlier <:+ log →
    ∀ name, outcome = .error (.alreadyImported name) ↔
      Path.fileName? call.archive = some name ∧
        ∃ past report, (past, .ok report) ∈ earlier ∧
          Path.fileName? past.archive = some name
  listed : ∀ call report, (call, .ok report) ∈ log →
    ∃ name, Path.fileName? call.archive = some name ∧
      call.entry name report ∈ database.imports
  imported : ∀ entry ∈ database.imports, ∃ call report,
    (call, .ok report) ∈ log ∧
      Path.fileName? call.archive = some entry.name ∧
      entry = call.entry entry.name report
  once : (database.imports.map Gather.name).Nodup
  stamped : ∀ call report, (call, .ok report) ∈ log →
    call.disk.IsFollowable ingester.staging →
    ¬ call.disk.place ingester.staging <+: call.disk.place databasePath →
    ∃ octets,
      call.disk.tree.fileAt? (call.disk.place call.archive) = some octets ∧
        stampTime? octets = some report.gatherTime

variable {ingester : Ingester} {databasePath : String} {initial : Store}
  {log : Log} {session : Session} {held held' : Option (Key × Record)}
  {store store' : Store} {call : Call} {name : String} {report : Report}
  {failure : Failure} {outcome : Outcome Report} {disk : Disk}

/-! ## Imports that begin -/

/-- The import was let in under the name, and this came of its ingestion. -/
def Begins (ingester : Ingester) (databasePath : String) (call : Call)
    (name : String) (outcome : Outcome Report) : Prop :=
  ∃ store store' disk,
    accept call.archive databasePath call.disk store =
        (.ok name, disk, store') ∧
      outcome = (ingester.ingest call.archive disk store').1

/-- An import is refused for its name if the ledger has it, as long as the
database of such a ledger is open. -/
theorem accept_eq_alreadyImported_iff
    (accepted : accept call.archive databasePath call.disk store =
      (.error failure, disk, store'))
    (isOpen : store.database.isImported name = true → store.isOpen = true) :
    failure = .alreadyImported name ↔
      Path.fileName? call.archive = some name ∧
        store.database.isImported name = true := by
  rcases accept_cases accepted with
    ⟨unnamed, refused, _, _⟩ | ⟨_, refused, notRejection, _⟩ |
    ⟨other, named, _, refused⟩
  · cases refused
    simp [unnamed]
  · cases refused
    constructor
    · rintro rfl
      cases notRejection
    · rintro ⟨named, isImported⟩
      rw [accept_of_isOpen (isOpen isImported) named, if_pos isImported]
        at accepted
      cases accepted
      rfl
  · rw [named]
    split at refused
    · rename_i isImported
      cases refused
      constructor
      · rintro ⟨⟩
        exact ⟨rfl, isImported⟩
      · rintro ⟨⟨⟩, _⟩
        rfl
    · cases refused

namespace Begins

variable (begins : Begins ingester databasePath call name outcome)
include begins

theorem fileName?_eq : Path.fileName? call.archive = some name := by
  obtain ⟨_, _, _, accepted, _⟩ := begins
  exact (accept_eq_ok accepted).1

theorem ne_alreadyImported (other : String) :
    outcome ≠ .error (.alreadyImported other) := by
  obtain ⟨store, store', disk, _, rfl⟩ := begins
  intro refused
  rcases result : ingester.ingest call.archive disk store' with ⟨_, _, _⟩
  rw [result] at refused
  dsimp only at refused
  subst refused
  exact (ingest_rejected rfl result).2.new other rfl

end Begins

theorem Begins.stampTime?_eq
    (begins : Begins ingester databasePath call name (.ok report))
    (followable : call.disk.IsFollowable ingester.staging)
    (outside :
      ¬ call.disk.place ingester.staging <+: call.disk.place databasePath) :
    ∃ octets,
      call.disk.tree.fileAt? (call.disk.place call.archive) = some octets ∧
        stampTime? octets = some report.gatherTime := by
  obtain ⟨_, _, _, accepted, ingested⟩ := begins
  exact stampTime?_of_ingest call.rooted followable outside
    (accept_eq_ok accepted).2.1 ingested.symm

/-! ## Entries -/

/-- The entry of an archive that was imported. -/
def entryOf? : Call × Outcome Report → Option Gather
  | (call, .ok report) =>
      (Path.fileName? call.archive).map fun name => call.entry name report
  | (_, .error _) => none

/-- The entries of the archives that were imported, the latest first. -/
def entries (log : Log) : List Gather :=
  log.filterMap entryOf?

theorem mem_entries_iff {entry : Gather} :
    entry ∈ entries log ↔
      ∃ call report, (call, .ok report) ∈ log ∧
        Path.fileName? call.archive = some entry.name ∧
        entry = call.entry entry.name report := by
  rw [entries, List.mem_filterMap]
  constructor
  · rintro ⟨⟨call, outcome⟩, answered, isEntry⟩
    cases outcome with
    | error failure => cases isEntry
    | ok report =>
        obtain ⟨name, named, rfl⟩ := Option.map_eq_some_iff.mp isEntry
        exact ⟨call, report, answered, named, rfl⟩
  · rintro ⟨call, report, answered, named, isEntry⟩
    refine ⟨(call, .ok report), answered, ?_⟩
    rw [entryOf?, named, Option.map_some, ← isEntry]

theorem exists_mem_entries_iff :
    (∃ entry ∈ entries log, entry.name = name) ↔
      ∃ past report, (past, .ok report) ∈ log ∧
        Path.fileName? past.archive = some name := by
  constructor
  · rintro ⟨entry, isEntry, rfl⟩
    obtain ⟨past, report, answered, named, _⟩ := mem_entries_iff.mp isEntry
    exact ⟨past, report, answered, named⟩
  · rintro ⟨past, report, answered, named⟩
    exact ⟨past.entry name report,
      mem_entries_iff.mpr ⟨past, report, answered, named, rfl⟩, rfl⟩

/-- The entry of the archive that is stored at present. -/
def Session.pending? : Session → Option Gather
  | .waiting call name report => some (call.entry name report)
  | _ => none

/-- The name under which an archive is imported at present. -/
def Session.running? : Session → Option String
  | .idle => none
  | .handing _ name _ _ => some name
  | .waiting _ name _ => some name

/-- The import that goes on had begun, and what is left of it are no entries. -/
def Session.IsSound (ingester : Ingester) (databasePath : String) :
    Session → Prop
  | .idle => True
  | .handing call name outcome left =>
      Begins ingester databasePath call name outcome ∧
        ∀ record ∈ left, record.key.kind ≠ .gather
  | .waiting call name report =>
      Begins ingester databasePath call name (.ok report)

/-! ## Answers -/

/-- The names that were refused are those of the archives that were imported
before. -/
def Decides (log : Log) : Prop :=
  ∀ call outcome earlier, (call, outcome) :: earlier <:+ log →
    ∀ name, outcome = .error (.alreadyImported name) ↔
      Path.fileName? call.archive = some name ∧
        ∃ entry ∈ entries earlier, entry.name = name

theorem Decides.cons (decides : Decides log)
    (decided : ∀ name, outcome = .error (.alreadyImported name) ↔
      Path.fileName? call.archive = some name ∧
        ∃ entry ∈ entries log, entry.name = name) :
    Decides ((call, outcome) :: log) := by
  intro other answer earlier isSuffix
  rcases List.suffix_cons_iff.mp isSuffix with same | inLog
  · cases same
    exact decided
  · exact decides other answer earlier inLog

/-- What is known of the answers and of the import that goes on. -/
structure Answers (ingester : Ingester) (databasePath : String) (log : Log)
    (session : Session) : Prop where
  distinct :
    (session.running?.toList ++ (entries log).map Gather.name).Nodup
  sound : session.IsSound ingester databasePath
  began : ∀ call report, (call, .ok report) ∈ log →
    ∃ name, Begins ingester databasePath call name (.ok report)
  decides : Decides log

namespace Answers

theorem start : Answers ingester databasePath [] .idle := by
  constructor
  case distinct => simp [Session.running?, entries]
  case sound => trivial
  case began => simp
  case decides =>
    intro call outcome earlier isSuffix
    simp at isSuffix

theorem not_imported_of_running
    (answers : Answers ingester databasePath log session)
    (running : session.running? = some name) :
    ¬ ∃ entry ∈ entries log, entry.name = name := by
  have distinct := answers.distinct
  rw [running] at distinct
  have isNew := (List.nodup_cons.mp distinct).1
  rintro ⟨entry, isEntry, rfl⟩
  exact isNew (List.mem_map.mpr ⟨entry, isEntry, rfl⟩)

theorem begin {left : List Record}
    (answers : Answers ingester databasePath log .idle)
    (begins : Begins ingester databasePath call name outcome)
    (noEntry : ∀ record ∈ left, record.key.kind ≠ .gather)
    (isNew : ¬ ∃ entry ∈ entries log, entry.name = name) :
    Answers ingester databasePath log (.handing call name outcome left) := by
  constructor
  case distinct =>
    refine List.nodup_cons.mpr ⟨?_, answers.distinct⟩
    intro member
    exact isNew (List.mem_map.mp member)
  case sound => exact ⟨begins, noEntry⟩
  case began => exact answers.began
  case decides => exact answers.decides

theorem hand {record : Record} {left : List Record}
    (answers : Answers ingester databasePath log
      (.handing call name outcome (record :: left))) :
    Answers ingester databasePath log (.handing call name outcome left) := by
  obtain ⟨begins, noEntry⟩ := answers.sound
  exact ⟨answers.distinct,
    ⟨begins, fun other isLeft =>
      noEntry other (List.mem_cons_of_mem _ isLeft)⟩,
    answers.began, answers.decides⟩

theorem fail (answers : Answers ingester databasePath log session)
    (decided : ∀ name, failure = .alreadyImported name ↔
      Path.fileName? call.archive = some name ∧
        ∃ entry ∈ entries log, entry.name = name) :
    Answers ingester databasePath ((call, .error failure) :: log) .idle := by
  constructor
  case distinct => exact List.Nodup.of_append_right answers.distinct
  case sound => trivial
  case began =>
    intro other report answered
    rcases List.mem_cons.mp answered with same | earlier
    · cases same
    · exact answers.began other report earlier
  case decides =>
    apply answers.decides.cons
    intro name
    rw [← decided name, Except.error.injEq]

theorem enter
    (answers : Answers ingester databasePath log
      (.handing call name (.ok report) [])) :
    Answers ingester databasePath log (.waiting call name report) :=
  ⟨answers.distinct, answers.sound.1, answers.began, answers.decides⟩

theorem decided_of_running
    (answers : Answers ingester databasePath log session)
    (running : session.running? = some name)
    (begins : Begins ingester databasePath call name outcome) (other : String) :
    outcome = .error (.alreadyImported other) ↔
      Path.fileName? call.archive = some other ∧
        ∃ entry ∈ entries log, entry.name = other := by
  constructor
  · intro refused
    exact (begins.ne_alreadyImported other refused).elim
  · rintro ⟨named, imported⟩
    rw [begins.fileName?_eq] at named
    cases named
    exact (answers.not_imported_of_running running imported).elim

theorem finish
    (answers : Answers ingester databasePath log (.waiting call name report))
    (isEntry : entries ((call, .ok report) :: log) =
      call.entry name report :: entries log) :
    Answers ingester databasePath ((call, .ok report) :: log) .idle := by
  constructor
  case distinct =>
    rw [isEntry]
    exact answers.distinct
  case sound => trivial
  case began =>
    intro other report answered
    rcases List.mem_cons.mp answered with same | earlier
    · cases same
      exact ⟨name, answers.sound⟩
    · exact answers.began other report earlier
  case decides =>
    exact answers.decides.cons (answers.decided_of_running rfl answers.sound)

end Answers

/-! ## Answers and the ledger -/

/-- What is known of the imports at a store: the entries are the latest records
of their keys, and none but that of the import that goes on is owed. -/
structure Accords (ingester : Ingester) (databasePath : String)
    (database : Database) (log : Log) (session : Session)
    (history : Store.History) (held : Option (Key × Record)) (store : Store) :
    Prop where
  answers : Answers ingester databasePath log session
  tracked : Tracked database history held store
  opened : session.running? ≠ none ∨ entries log ≠ [] → store.isOpen = true
  latest : ∀ name, history.latest? ⟨.gather, name⟩ =
    ((session.pending?.toList ++ entries log).find? (·.name = name)).map
      .gather
  owed : ∀ name, store.queue.Owes ⟨.gather, name⟩ →
    ∃ entry, session.pending? = some entry ∧ entry.name = name

theorem mem_gathers_iff {database : Database} {entry : Gather} :
    entry ∈ database.gathers ↔
      Record.gather entry ∈ database.rowsAt ⟨.gather, entry.name⟩ := by
  simp [Database.rowsAt, Database.records, Record.key]

namespace Accords

variable {database : Database} {history : Store.History}

/-- Unless an entry is on its way, the ledger lists the entries. -/
theorem mem_gathers
    (accords : Accords ingester databasePath database log session history held
      store)
    (empty : database.gathers = []) (settled : session.pending? = none)
    {entry : Gather} :
    entry ∈ store.database.gathers ↔ entry ∈ entries log := by
  have notOwed : ¬ store.queue.Owes ⟨.gather, entry.name⟩ := by
    intro owes
    obtain ⟨pending, isPending, _⟩ := accords.owed entry.name owes
    rw [settled] at isPending
    cases isPending
  have rows := accords.tracked.rowsAt_of_not_owes (by simp) notOwed
  have noRows : database.rowsAt ⟨.gather, entry.name⟩ = [] := by
    simp [Database.rowsAt, Database.records, empty]
  rw [accords.latest, settled, noRows, Option.toList_none,
    List.nil_append] at rows
  have distinct := List.Nodup.of_append_right accords.answers.distinct
  rw [mem_gathers_iff, rows]
  constructor
  · intro member
    cases found : (entries log).find? (·.name = entry.name) with
    | none =>
        rw [found] at member
        cases member
    | some first =>
        rw [found] at member
        cases List.mem_singleton.mp member
        exact List.mem_of_find?_eq_some found
  · intro isEntry
    rw [Database.find?_eq_some_of_mem distinct isEntry]
    exact List.mem_singleton_self _

theorem isImported_iff
    (accords : Accords ingester databasePath database log session history held
      store)
    (empty : database.gathers = []) (settled : session.pending? = none) :
    store.database.isImported name = true ↔
      ∃ entry ∈ entries log, entry.name = name := by
  rw [Database.isImported, List.any_eq_true]
  simp only [accords.mem_gathers empty settled, decide_eq_true_eq]

/-- When no import goes on, the ledger keeps what was answered. -/
theorem keepsLedger
    (accords : Accords ingester databasePath database log .idle history held
      store)
    (empty : database.gathers = []) :
    KeepsLedger ingester databasePath log store.database := by
  have answers := accords.answers
  have listed : ∀ entry, entry ∈ store.database.imports ↔
      entry ∈ entries log := by
    intro entry
    rw [Database.imports, List.mem_mergeSort]
    exact accords.mem_gathers empty rfl
  constructor
  case refused =>
    intro call outcome earlier isSuffix name
    rw [answers.decides call outcome earlier isSuffix, exists_mem_entries_iff]
  case listed =>
    intro call report answered
    obtain ⟨name, begins⟩ := answers.began call report answered
    refine ⟨name, begins.fileName?_eq, (listed _).mpr ?_⟩
    exact mem_entries_iff.mpr
      ⟨call, report, answered, begins.fileName?_eq, rfl⟩
  case imported =>
    intro entry isListed
    exact mem_entries_iff.mp ((listed entry).mp isListed)
  case once =>
    have sorted : store.database.imports.Perm store.database.gathers :=
      List.mergeSort_perm _ _
    have keyed := accords.tracked.written.keyed .gather
    have keys : (store.database.records .gather).map Record.key =
        (store.database.gathers.map Gather.name).map (Key.mk .gather) := by
      rw [Database.records, List.map_map, List.map_map]
      rfl
    rw [keys] at keyed
    exact ((sorted.map _).nodup_iff).mpr keyed.of_map
  case stamped =>
    intro call report answered followable outside
    obtain ⟨_, begins⟩ := answers.began call report answered
    exact begins.stampTime?_eq followable outside

/-! ### Steps -/

theorem start {initial : Store} (empty : initial.queue = {})
    (atStart : initial.clock = 0) (noDrop : initial.dropped = 0)
    (keyed : initial.database.Keyed) :
    Accords ingester databasePath initial.database [] .idle [] none
      initial := by
  constructor
  case answers => exact .start
  case tracked => exact .start empty atStart keyed noDrop
  case opened => simp [Session.running?, entries]
  case latest => simp [Store.History.latest?, Session.pending?, entries]
  case owed =>
    intro name owes
    rw [empty] at owes
    simp [Queue.WorkQueue.Owes, Queue.WorkQueue.kept, Assoc.get?] at owes

theorem reopened
    (accords : Accords ingester databasePath database log session history held
      store)
    (same : store' = store ∨ store' = { store with isOpen := true }) :
    Accords ingester databasePath database log session history held store' := by
  rcases same with rfl | rfl
  · exact accords
  · exact ⟨accords.answers, accords.tracked.congr true, fun _ => rfl,
      accords.latest, accords.owed⟩

/-- An import that failed leaves the store as it is. -/
theorem failed
    (accords : Accords ingester databasePath database log session history held
      store)
    (settled : session.pending? = none)
    (decided : ∀ name, failure = .alreadyImported name ↔
      Path.fileName? call.archive = some name ∧
        ∃ entry ∈ entries log, entry.name = name) :
    Accords ingester databasePath database ((call, .error failure) :: log) .idle
      history held store := by
  have sameEntries : entries ((call, .error failure) :: log) = entries log :=
    rfl
  constructor
  case answers => exact accords.answers.fail decided
  case tracked => exact accords.tracked
  case opened =>
    rintro (running | imported)
    · exact (running rfl).elim
    · exact accords.opened (.inr imported)
  case latest =>
    intro name
    rw [accords.latest, settled, sameEntries]
    rfl
  case owed =>
    intro name owes
    obtain ⟨entry, isPending, _⟩ := accords.owed name owes
    rw [settled] at isPending
    cases isPending

theorem refuse
    (accords : Accords ingester databasePath database log .idle history held
      store)
    (empty : database.gathers = [])
    (accepted : accept call.archive databasePath call.disk store =
      (.error failure, disk, store')) :
    Accords ingester databasePath database ((call, .error failure) :: log) .idle
      history held store' := by
  apply (accords.reopened (store_accept accepted)).failed rfl
  intro name
  have isOpen : store.database.isImported name = true →
      store.isOpen = true := by
    rw [accords.isImported_iff empty rfl]
    rintro ⟨entry, isEntry, _⟩
    exact accords.opened (.inr (List.ne_nil_of_mem isEntry))
  rw [accept_eq_alreadyImported_iff accepted isOpen,
    accords.isImported_iff empty rfl]

theorem begin
    (accords : Accords ingester databasePath database log .idle history held
      store)
    (empty : database.gathers = [])
    (accepted : accept call.archive databasePath call.disk store =
      (.ok name, disk, store')) :
    Accords ingester databasePath database log
      (.handing call name (ingester.ingest call.archive disk store').1
        (ingester.handed call.archive disk)) history held store' := by
  obtain ⟨named, opened, notImported⟩ := accept_eq_ok accepted
  have reopened := accords.reopened (store_accept accepted)
  constructor
  case answers =>
    apply accords.answers.begin ⟨store, store', disk, accepted, rfl⟩
    · intro record isHanded
      rw [Ingester.handed] at isHanded
      split at isHanded
      · cases isHanded
      · exact kind_ne_gather_of_mem_recordsOf isHanded
    · rw [← accords.isImported_iff empty rfl, notImported]
      exact Bool.false_ne_true
  case tracked => exact reopened.tracked
  case opened =>
    intro _
    rw [opened.store]
  case latest => exact reopened.latest
  case owed => exact reopened.owed

theorem hand {record : Record} {left : List Record}
    (accords : Accords ingester databasePath database log
      (.handing call name outcome (record :: left)) history held store) :
    Accords ingester databasePath database log (.handing call name outcome left)
      (.added record (store.add record).1 :: history) held
      (store.add record).2 := by
  have otherKey : ∀ name, record.key ≠ ⟨.gather, name⟩ := by
    intro name same
    apply accords.answers.sound.2 record List.mem_cons_self
    rw [same]
  constructor
  case answers => exact accords.answers.hand
  case tracked => exact accords.tracked.add record
  case opened => exact accords.opened
  case latest =>
    intro name
    rw [Store.History.latest?, if_neg (otherKey name)]
    exact accords.latest name
  case owed =>
    intro name owes
    apply accords.owed
    exact Queue.WorkQueue.owes_of_owes_add (Ne.symm (otherKey name)) owes

theorem fail
    (accords : Accords ingester databasePath database log
      (.handing call name (.error failure) []) history held store) :
    Accords ingester databasePath database ((call, .error failure) :: log) .idle
      history held store := by
  have answers := accords.answers
  apply accords.failed rfl
  intro other
  rw [← answers.decided_of_running rfl answers.sound.1, Except.error.injEq]

theorem enter
    (accords : Accords ingester databasePath database log
      (.handing call name (.ok report) []) history held store) :
    let record := Record.gather (call.entry name report)
    Accords ingester databasePath database log (.waiting call name report)
      (.added record (store.add record).1 :: history) held
      (store.add record).2 := by
  intro record
  have isKey : record.key = ⟨.gather, name⟩ := rfl
  constructor
  case answers => exact accords.answers.enter
  case tracked => exact accords.tracked.add record
  case opened => exact accords.opened
  case latest =>
    intro other
    rw [Store.History.latest?, isKey]
    by_cases same : name = other
    · subst same
      simp [record, Session.pending?, Call.entry]
    · have otherKey : (⟨.gather, name⟩ : Key) ≠ ⟨.gather, other⟩ := by
        rintro ⟨⟩
        exact same rfl
      rw [if_neg otherKey, accords.latest]
      simp [Session.pending?, Call.entry, same]
  case owed =>
    intro other owes
    by_cases same : name = other
    · exact ⟨_, rfl, same⟩
    · have otherKey : (⟨.gather, other⟩ : Key) ≠ record.key := by
        rintro ⟨⟩
        exact same rfl
      obtain ⟨entry, isPending, _⟩ := accords.owed other
        (Queue.WorkQueue.owes_of_owes_add otherKey owes)
      cases isPending

theorem finish
    (accords : Accords ingester databasePath database log
      (.waiting call name report) history held store)
    (drained : store.outstanding = 0) :
    Accords ingester databasePath database ((call, .ok report) :: log) .idle
      history held store := by
  have begins : Begins ingester databasePath call name (.ok report) :=
    accords.answers.sound
  have isEntry : entries ((call, .ok report) :: log) =
      call.entry name report :: entries log := by
    simp [entries, entryOf?, begins.fileName?_eq]
  constructor
  case answers => exact accords.answers.finish isEntry
  case tracked => exact accords.tracked
  case opened => exact fun _ => accords.opened (.inl (Option.some_ne_none name))
  case latest =>
    intro other
    rw [accords.latest, isEntry]
    rfl
  case owed =>
    intro other owes
    have isIdle : store.queue.isIdle = true := decide_eq_true drained
    exact (accords.tracked.follows.reaches.accounted.not_owes_of_isIdle isIdle _
      owes).elim

theorem work
    (accords : Accords ingester databasePath database log session history held
      store)
    (works : Works held store held' store') :
    ∃ history', Accords ingester databasePath database log session history'
      held' store' := by
  obtain ⟨sameOpen, owed, history', tracked, latest⟩ :=
    works.tracked accords.tracked
  refine ⟨history', ?_⟩
  constructor
  case answers => exact accords.answers
  case tracked => exact tracked
  case opened =>
    rw [sameOpen]
    exact accords.opened
  case latest =>
    intro name
    rw [latest]
    exact accords.latest name
  case owed => exact fun name owes => accords.owed name (owed _ owes)

end Accords

theorem Ingester.Imports.accords (empty : initial.queue = {})
    (atStart : initial.clock = 0) (noDrop : initial.dropped = 0)
    (keyed : initial.database.Keyed) (noEntry : initial.database.gathers = [])
    (imports : ingester.Imports databasePath initial log session held store) :
    ∃ history, Accords ingester databasePath initial.database log session
      history held store := by
  induction imports with
  | start => exact ⟨[], .start empty atStart noDrop keyed⟩
  | refuse _ accepted induction =>
      obtain ⟨history, accords⟩ := induction
      exact ⟨history, accords.refuse noEntry accepted⟩
  | begin _ accepted induction =>
      obtain ⟨history, accords⟩ := induction
      exact ⟨history, accords.begin noEntry accepted⟩
  | hand _ induction =>
      obtain ⟨history, accords⟩ := induction
      exact ⟨_, accords.hand⟩
  | fail _ induction =>
      obtain ⟨history, accords⟩ := induction
      exact ⟨history, accords.fail⟩
  | enter _ induction =>
      obtain ⟨history, accords⟩ := induction
      exact ⟨_, accords.enter⟩
  | finish _ drained induction =>
      obtain ⟨history, accords⟩ := induction
      exact ⟨history, accords.finish drained⟩
  | work _ works induction =>
      obtain ⟨history, accords⟩ := induction
      exact accords.work works

/-- Whenever no import goes on, a name was refused just if an archive of that
name had been imported, and the ledger lists those archives once each.  The time
listed is that which the archive tells, if the path of the staging directory
leads somewhere or does not go up. -/
theorem keepsLedger_of_imports {maxRetries base maximum : Nat}
    {database : Database} {isOpen : Bool} (keyed : database.Keyed)
    (noEntry : database.gathers = [])
    (imports : ingester.Imports databasePath
      { Store.new maxRetries base maximum with
        database := database
        isOpen := isOpen }
      log .idle held store) :
    KeepsLedger ingester databasePath log store.database := by
  obtain ⟨history, accords⟩ := imports.accords rfl rfl rfl keyed noEntry
  exact accords.keepsLedger noEntry

theorem keepsLedger_importAll {maxRetries base maximum : Nat}
    {database : Database} {isOpen : Bool} (keyed : database.Keyed)
    (noEntry : database.gathers = []) (calls : List Call) :
    let result := ingester.importAll databasePath
      { Store.new maxRetries base maximum with
        database := database
        isOpen := isOpen }
      calls
    KeepsLedger ingester databasePath result.1 result.2.database := by
  intro result
  have ready : IsReady
      { Store.new maxRetries base maximum with
        database := database
        isOpen := isOpen } :=
    ⟨Queue.WorkQueue.Accounted.empty, Queue.WorkQueue.AtRest.empty⟩
  obtain ⟨imports, _⟩ := imports_importAll ready calls
  obtain ⟨history, accords⟩ := imports.accords rfl rfl rfl keyed noEntry
  exact accords.keepsLedger noEntry

/-! ## An archive that is imported twice -/

/-- A store whose database is open and empty. -/
def stampStore : Store :=
  { Store.new 3 5 100 with
    database := {}
    isOpen := true }

/-- The import of the archive with a time stamp. -/
def stampCall (seconds : Int) : Call where
  archive := "/mg.tar.gz"
  now := ⟨seconds, 0⟩
  disk := stampDisk
  rooted := by decide

theorem fileName?_stampCall (seconds : Int) :
    Path.fileName? (stampCall seconds).archive = some "mg.tar.gz" := by
  have named : Path.fileName? "/mg.tar.gz" = some "mg.tar.gz" := by
    decide +kernel
  exact named

theorem fileAt?_stampDisk :
    stampDisk.tree.fileAt? (stampDisk.place "/mg.tar.gz") =
      some stampArchive := by
  have place : stampDisk.place "/mg.tar.gz" = ["mg.tar.gz"] := by
    decide +kernel
  rw [place]
  rfl

theorem keyed_empty : Database.Keyed {} := by
  intro kind
  cases kind <;> decide

/-- The archive is imported, whichever path the staging directory has. -/
theorem exists_imports_stampDisk {staging : String}
    (isPath : staging ∈ stampPaths) :
    ∃ report store,
      Ingester.Imports ⟨staging, "/result.json"⟩ "/lv.db" stampStore
          [(stampCall 5, .ok report)] .idle none store ∧
        IsReady store ∧
        readGatherTime staging (stagedDisk staging) =
          .ok report.gatherTime := by
  have ready : IsReady stampStore :=
    ⟨Queue.WorkQueue.Accounted.empty, Queue.WorkQueue.AtRest.empty⟩
  have accepted : accept "/mg.tar.gz" "/lv.db" stampDisk stampStore =
      (.ok "mg.tar.gz", stampDisk, stampStore) := by
    have named : Path.fileName? "/mg.tar.gz" = some "mg.tar.gz" :=
      fileName?_stampCall 5
    rw [accept_of_isOpen rfl named]
    rfl
  obtain ⟨_, report, ingested, gathered⟩ := ingest_stampDisk isPath stampStore
  rcases result : Ingester.importArchive ⟨staging, "/result.json"⟩ "/mg.tar.gz"
    "/lv.db" ⟨5, 0⟩ stampDisk stampStore with ⟨outcome, after, store⟩
  have isOk : outcome = .ok report := by
    rw [importArchive_eq, accepted] at result
    dsimp only at result
    rcases ingests : Ingester.ingest ⟨staging, "/result.json"⟩ "/mg.tar.gz"
      stampDisk stampStore with ⟨answer, _, _⟩
    rw [ingests] at ingested result
    dsimp only at ingested
    subst ingested
    cases result
    rfl
  subst isOk
  have isResult : Ingester.importArchive ⟨staging, "/result.json"⟩
      (stampCall 5).archive "/lv.db" (stampCall 5).now (stampCall 5).disk
      stampStore = (.ok report, after, store) := result
  obtain ⟨imports, stillReady⟩ :=
    Ingester.Imports.start.importArchive ready isResult
  exact ⟨report, store, imports, stillReady, gathered⟩

/-- The archive is listed with its own time, and refused when it comes again. -/
theorem keepsLedger_of_stampDisk :
    ∃ report store,
      Ingester.Imports ⟨"/space", "/result.json"⟩ "/lv.db" stampStore
          [(stampCall 7, .error (.alreadyImported "mg.tar.gz")),
            (stampCall 5, .ok report)] .idle none store ∧
        (store.database.imports.map Gather.name).Nodup ∧
        ∀ entry, entry ∈ store.database.imports ↔
          entry = ⟨"mg.tar.gz", ⟨5, 0⟩, ⟨1709280000, 0⟩⟩ := by
  have isPath : "/space" ∈ stampPaths := by decide
  obtain ⟨report, first, imports, ready, _⟩ := exists_imports_stampDisk isPath
  rcases result : Ingester.importArchive ⟨"/space", "/result.json"⟩
    (stampCall 7).archive "/lv.db" (stampCall 7).now (stampCall 7).disk
    first with ⟨outcome, after, store⟩
  have again := (imports.importArchive ready result).1
  have keeps := keepsLedger_of_imports keyed_empty rfl again
  have refused : outcome = .error (.alreadyImported "mg.tar.gz") := by
    apply (keeps.refused (stampCall 7) outcome _ List.suffix_rfl
      "mg.tar.gz").mpr
    exact ⟨fileName?_stampCall 7, stampCall 5, report, List.mem_cons_self,
      fileName?_stampCall 5⟩
  subst refused
  have isTime : report.gatherTime = ⟨1709280000, 0⟩ := by
    obtain ⟨octets, isFile, tells⟩ := keeps.stamped (stampCall 5) report
      (by simp) (by decide +kernel) (by decide +kernel)
    cases isFile.symm.trans fileAt?_stampDisk
    exact Option.some.inj (tells.symm.trans stampTime?_stampArchive)
  refine ⟨report, store, again, keeps.once, ?_⟩
  intro entry
  constructor
  · intro isListed
    obtain ⟨call, other, answered, isName, isEntry⟩ :=
      keeps.imported entry isListed
    obtain ⟨rfl, rfl⟩ : call = stampCall 5 ∧ other = report := by
      simpa using answered
    rw [fileName?_stampCall] at isName
    rw [isEntry, ← Option.some.inj isName, Call.entry, isTime]
    rfl
  · rintro rfl
    obtain ⟨name, isName, isListed⟩ :=
      keeps.listed (stampCall 5) report (by simp)
    rw [fileName?_stampCall] at isName
    cases isName
    rw [Call.entry, isTime] at isListed
    exact isListed

/-- Where the staging directory is not emptied, an archive is listed with the
time of an earlier one. -/
theorem gatherTime_of_missing_directory :
    ∃ report store,
      Ingester.Imports ⟨"/missing/../space", "/result.json"⟩ "/lv.db" stampStore
          [(stampCall 5, .ok report)] .idle none store ∧
        ¬ stampDisk.place "/missing/../space" <+: stampDisk.place "/lv.db" ∧
        ⟨"mg.tar.gz", ⟨5, 0⟩, ⟨1577836800, 0⟩⟩ ∈ store.database.imports ∧
        stampDisk.tree.fileAt? (stampDisk.place "/mg.tar.gz") =
          some stampArchive ∧
        stampTime? stampArchive = some ⟨1709280000, 0⟩ := by
  have isPath : "/missing/../space" ∈ stampPaths := by decide
  obtain ⟨report, store, imports, _, gathered⟩ :=
    exists_imports_stampDisk isPath
  have isTime : report.gatherTime = ⟨1577836800, 0⟩ := by
    have leftOver : (readGatherTime "/missing/../space"
        (stagedDisk "/missing/../space")).toOption =
          some ⟨1577836800, 0⟩ := by
      decide +kernel
    rw [gathered] at leftOver
    exact Option.some.inj leftOver
  obtain ⟨history, accords⟩ := imports.accords rfl rfl rfl keyed_empty rfl
  obtain ⟨name, isName, isListed⟩ :=
    (accords.keepsLedger rfl).listed (stampCall 5) report (by simp)
  rw [fileName?_stampCall] at isName
  cases isName
  rw [Call.entry, isTime] at isListed
  exact ⟨report, store, imports, by decide +kernel, isListed,
    fileAt?_stampDisk, stampTime?_stampArchive⟩

end ClusterTrace.Ingest
