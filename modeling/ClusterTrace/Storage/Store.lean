import ClusterTrace.Database.Basic
import ClusterTrace.Files.Tree
import ClusterTrace.Failure
import ClusterTrace.Queue.Backoff
import ClusterTrace.Queue.WorkQueue

/-!
# Stores

A store takes records without delay and puts them into a database one by one.  A
record whose storing fails is tried again after a delay, a limited number of
times in a row, and dropped after that.  Times are in milliseconds of the
store's own clock.
-/

namespace ClusterTrace

open Queue (Backoff WorkQueue)

/-- Records on their way into a database. -/
structure Store where
  queue : WorkQueue Key Record := {}
  limiter : Backoff Key
  /-- How often in a row a failed record is tried again. -/
  maxRetries : Nat
  database : Database := {}
  /-- The database file is open. -/
  isOpen : Bool := false
  /-- How many attempts stored a record. -/
  stored : Nat := 0
  /-- How many records were dropped. -/
  dropped : Nat := 0
  clock : Nat := 0
deriving Repr

namespace Store

/-- A store without records. -/
def new (maxRetries backoffBase backoffMaximum : Nat) : Store where
  limiter := .new backoffBase backoffMaximum
  maxRetries := maxRetries

/-- Adds a record.  The answer tells whether this is a new unit of work. -/
def add (store : Store) (record : Record) : Bool × Store :=
  let (isNew, queue) := store.queue.add record.key record
  (isNew, { store with queue := queue })

/-- Adds records in order.  The answers tell which are new units of work. -/
def addAll (store : Store) (records : List Record) : List Bool × Store :=
  match records with
  | [] => ([], store)
  | record :: rest =>
      let (isNew, store) := store.add record
      let (answers, store) := addAll store rest
      (isNew :: answers, store)

/-- The units of work that are neither stored nor dropped. -/
def outstanding (store : Store) : Nat :=
  store.queue.outstanding

/-- Takes the next record to be stored. -/
def take (store : Store) : WorkQueue.Handed Key Record × Store :=
  let (handed, queue) := store.queue.get store.clock
  (handed, { store with queue := queue })

/-- The store after an attempt that stored a record. -/
def succeed (store : Store) (key : Key) (record : Record) : Store :=
  { store with
    queue := store.queue.done key .finished store.clock
    limiter := store.limiter.forget key
    database := store.database.put record
    stored := store.stored + 1 }

/-- The store after an attempt that failed. -/
def fail (store : Store) (key : Key) (record : Record) : Store :=
  if store.limiter.requeues key < store.maxRetries then
    let (delay, limiter) := store.limiter.fail key
    { store with
      queue := store.queue.done key (.retry record delay) store.clock
      limiter := limiter }
  else
    { store with
      queue := store.queue.done key .finished store.clock
      limiter := store.limiter.forget key
      dropped := store.dropped + 1 }

/-- The store after an attempt to store a record, which succeeds or fails. -/
def finish (store : Store) (key : Key) (record : Record) (succeeds : Bool) :
    Store :=
  if succeeds then store.succeed key record else store.fail key record

/-- Takes and stores records until none is left, waiting for retries; attempts
succeed if the database is open.  At most `limit` attempts and waits are
made. -/
def work : Nat → Store → Store
  | 0, store => store
  | limit + 1, store =>
      match store.take with
      | (.item key record, store) =>
          work limit (store.finish key record store.isOpen)
      | (.closed, store) => store
      | (.nothing, store) =>
          match store.queue.nextDue? with
          | some due => work limit { store with clock := max store.clock due }
          | none => store

/-- Stores or drops all records.  Every unit of work takes one attempt, and one
wait and one more attempt for each retry. -/
def drain (store : Store) : Store :=
  work (2 * store.outstanding * (store.maxRetries + 1) + 1) store

/-- Opens the database file at a path: makes the directories to it and an empty
file if there is none.  A file that is open stays so. -/
def openFile (store : Store) (path : String) (disk : Disk) :
    Outcome Unit × Store × Disk :=
  if store.isOpen then (.ok (), store, disk)
  else
    match disk.makeDirectories ((Path.parent? path).getD "") with
    | (.error fault, disk) => (.error (.io fault), store, disk)
    | (.ok _, disk) =>
        match disk.at? path with
        | some .directory => (.error .database, store, disk)
        | some (.file _) => (.ok (), { store with isOpen := true }, disk)
        | none =>
            match disk.write path [] with
            | .error fault => (.error (.io fault), store, disk)
            | .ok disk => (.ok (), { store with isOpen := true }, disk)

/-- Stores or drops all records, with the database opened for the first of
them. -/
def serve (store : Store) (path : String) (disk : Disk) : Store × Disk :=
  if store.queue.isIdle then (store, disk)
  else
    let (_, store, disk) := store.openFile path disk
    (store.drain, disk)

/-- Stops taking records for storing. -/
def stop (store : Store) : Store :=
  { store with queue := store.queue.shutDown }

end Store
end ClusterTrace
