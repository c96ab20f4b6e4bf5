import ClusterTrace.Proofs.Files.RootedTrees
import ClusterTrace.Proofs.Ingest.ImportSteps
import ClusterTrace.Proofs.Storage.Working

/-!
# Imports at one store

Imports follow one another while a worker stores what they hand over, in any
interleaving, `Ingester.Imports`.  Imports of which each waits until all of its
records are stored, as calls do, are one of the ways in which that can go,
`imports_importAll`.
-/

namespace ClusterTrace.Ingest

open Store (IsReady Opened Works WorksOn)
open Time (Instant)

/-! ## Calls -/

/-- An import that is called for: its archive, the time, and the disk that it
finds. -/
structure Call where
  archive : String
  now : Instant
  disk : Disk
  rooted : disk.tree.IsRooted

/-- The calls that were answered and the answers, the latest first. -/
abbrev Log := List (Call × Outcome Report)

/-- How far an import has come. -/
inductive Session where
  /-- None is going on. -/
  | idle
  /-- Some records are still to be handed over. -/
  | handing (call : Call) (name : String) (outcome : Outcome Report)
      (left : List Record)
  /-- All records are still to be stored, the entry of the archive among
  them. -/
  | waiting (call : Call) (name : String) (report : Report)

/-- The entry of an archive that is imported under a name. -/
def Call.entry (call : Call) (name : String) (report : Report) : Gather :=
  ⟨name, call.now, report.gatherTime⟩

/-- Imports at one store, with its worker. -/
inductive Ingester.Imports (ingester : Ingester) (databasePath : String)
    (initial : Store) :
    Log → Session → Option (Key × Record) → Store → Prop where
  | start : Imports ingester databasePath initial [] .idle none initial
  /-- An import is refused by its name, or the database cannot be opened.  Only
  one goes on at a time. -/
  | refuse {log : Log} {held : Option (Key × Record)} {store store' : Store}
      {call : Call} {failure : Failure} {disk : Disk} :
      Imports ingester databasePath initial log .idle held store →
      accept call.archive databasePath call.disk store =
        (.error failure, disk, store') →
      Imports ingester databasePath initial ((call, .error failure) :: log)
        .idle held store'
  /-- An import is let in.  What comes of it does not depend on the store, so
  the worker may go on while the records are handed over. -/
  | begin {log : Log} {held : Option (Key × Record)} {store store' : Store}
      {call : Call} {name : String} {disk : Disk} :
      Imports ingester databasePath initial log .idle held store →
      accept call.archive databasePath call.disk store =
        (.ok name, disk, store') →
      Imports ingester databasePath initial log
        (.handing call name (ingester.ingest call.archive disk store').1
          (ingester.handed call.archive disk)) held store'
  | hand {log : Log} {held : Option (Key × Record)} {store : Store}
      {call : Call} {name : String} {outcome : Outcome Report}
      {record : Record} {left : List Record} :
      Imports ingester databasePath initial log
        (.handing call name outcome (record :: left)) held store →
      Imports ingester databasePath initial log
        (.handing call name outcome left) held (store.add record).2
  /-- The records were handed over before it turned out that the import
  fails. -/
  | fail {log : Log} {held : Option (Key × Record)} {store : Store}
      {call : Call} {name : String} {failure : Failure} :
      Imports ingester databasePath initial log
        (.handing call name (.error failure) []) held store →
      Imports ingester databasePath initial ((call, .error failure) :: log)
        .idle held store
  /-- The entry of the archive comes after the records. -/
  | enter {log : Log} {held : Option (Key × Record)} {store : Store}
      {call : Call} {name : String} {report : Report} :
      Imports ingester databasePath initial log
        (.handing call name (.ok report) []) held store →
      Imports ingester databasePath initial log (.waiting call name report) held
        (store.add (.gather (call.entry name report))).2
  /-- The import is answered once nothing is outstanding. -/
  | finish {log : Log} {held : Option (Key × Record)} {store : Store}
      {call : Call} {name : String} {report : Report} :
      Imports ingester databasePath initial log (.waiting call name report) held
        store →
      store.outstanding = 0 →
      Imports ingester databasePath initial ((call, .ok report) :: log) .idle
        held store
  | work {log : Log} {session : Session} {held held' : Option (Key × Record)}
      {store store' : Store} :
      Imports ingester databasePath initial log session held store →
      Works held store held' store' →
      Imports ingester databasePath initial log session held' store'

variable {ingester : Ingester} {databasePath : String} {initial : Store}
  {log : Log} {session : Session} {held held' : Option (Key × Record)}
  {store store' : Store} {call : Call} {name : String}
  {outcome : Outcome Report} {disk : Disk}

/-! ## Imports that begin -/

/-- Letting an import in, or refusing it, at most opens the database. -/
theorem store_accept {outcome : Outcome String}
    (accepted : accept call.archive databasePath call.disk store =
      (outcome, disk, store')) :
    store' = store ∨ store' = { store with isOpen := true } := by
  rcases accept_cases accepted with
    ⟨_, _, _, same⟩ | ⟨_, _, _, same⟩ | ⟨_, _, opened, _⟩
  · exact .inl same
  · exact .inl same
  · exact .inr opened.store

/-- An import is let in under the file name of its archive, once the database is
open and unless the ledger has the name. -/
theorem accept_eq_ok
    (accepted : accept call.archive databasePath call.disk store =
      (.ok name, disk, store')) :
    Path.fileName? call.archive = some name ∧
      Opened databasePath store call.disk store' disk ∧
      store.database.isImported name = false := by
  rcases accept_cases accepted with
    ⟨_, refused, _, _⟩ | ⟨_, refused, _, _⟩ | ⟨other, named, opened, decided⟩
  · cases refused
  · cases refused
  · split at decided
    · cases decided
    · rename_i notImported
      cases decided
      exact ⟨named, opened, Bool.eq_false_iff.mpr notImported⟩

/-! ## Imports one after the other -/

/-- The answers to calls, the latest first, when each import comes to its end
before the next one begins, and the store after that. -/
def Ingester.importAll (ingester : Ingester) (databasePath : String)
    (store : Store) : List Call → Log × Store
  | [] => ([], store)
  | call :: earlier =>
      let (log, store) := ingester.importAll databasePath store earlier
      let (outcome, _, store) :=
        ingester.importArchive call.archive databasePath
        call.now call.disk store
      ((call, outcome) :: log, store)

namespace Ingester.Imports

theorem worksOn {after : Option (Key × Record) × Store}
    (imports : ingester.Imports databasePath initial log session held store)
    (works : WorksOn (held, store) after) :
    ingester.Imports databasePath initial log session after.1 after.2 := by
  induction works with
  | refl => exact imports
  | tail _ step induction => exact induction.work step

theorem handAll {left : List Record}
    (imports : ingester.Imports databasePath initial log
      (.handing call name outcome left) held store) :
    ingester.Imports databasePath initial log (.handing call name outcome [])
      held (store.addAll left).2 := by
  induction left generalizing store with
  | nil => exact imports
  | cons record left induction => exact induction imports.hand

end Ingester.Imports

/-- An import that comes to its end is one of the ways in which imports go. -/
theorem Ingester.Imports.importArchive
    (imports : ingester.Imports databasePath initial log .idle none store)
    (ready : IsReady store) {after : Disk}
    (result : ingester.importArchive call.archive databasePath call.now
      call.disk store = (outcome, after, store')) :
    ingester.Imports databasePath initial ((call, outcome) :: log) .idle none
        store' ∧
      IsReady store' := by
  rw [importArchive_eq] at result
  rcases accepted : accept call.archive databasePath call.disk store with
    ⟨_ | name, disk, between⟩
  · rw [accepted] at result
    cases result
    have sameQueue : store'.queue = store.queue := by
      rcases store_accept accepted with rfl | rfl <;> rfl
    exact ⟨imports.refuse accepted, sameQueue ▸ ready.accounted,
      sameQueue ▸ ready.atRest⟩
  · have opened := (accept_eq_ok accepted).2.1
    have stillReady : IsReady between := by
      rw [opened.store]
      exact ⟨ready.accounted, ready.atRest⟩
    obtain ⟨handedOver, sameOpen⟩ :=
      stillReady.addAll (ingester.handed call.archive disk)
    have isHanded := store_ingest ingester call.archive disk between
    have begun := imports.begin accepted
    rw [accepted] at result
    dsimp only at result
    rcases ingested : ingester.ingest call.archive disk between with
      ⟨_ | report, _, handed⟩
    · rw [ingested] at result begun isHanded
      cases result
      cases isHanded
      exact ⟨begun.handAll.fail, handedOver⟩
    · have isEntry : Gather.mk name call.now report.gatherTime =
          call.entry name report := rfl
      rw [ingested] at result begun isHanded
      dsimp only at result
      rw [isEntry] at result
      cases isHanded
      cases result
      have entered := begun.handAll.enter
      have added := handedOver.add (.gather (call.entry name report))
      have isOpen : ((between.addAll
          (ingester.handed call.archive disk)).2.add
            (.gather (call.entry name report))).2.isOpen = true := by
        rw [Store.isOpen_add, sameOpen, opened.store]
      generalize (between.addAll (ingester.handed call.archive disk)).2.add
        (.gather (call.entry name report)) = result at entered added isOpen
      obtain ⟨works, drained, stillReady⟩ := added.worksOn_drain isOpen
      exact ⟨(entered.worksOn works).finish drained, stillReady⟩

/-- Imports one after the other are one of the ways in which imports go. -/
theorem imports_importAll (ready : IsReady initial) (calls : List Call) :
    ingester.Imports databasePath initial
        (ingester.importAll databasePath initial calls).1 .idle none
        (ingester.importAll databasePath initial calls).2 ∧
      IsReady (ingester.importAll databasePath initial calls).2 := by
  induction calls with
  | nil => exact ⟨.start, ready⟩
  | cons call earlier induction =>
      rw [Ingester.importAll]
      exact induction.1.importArchive induction.2 rfl
end ClusterTrace.Ingest
