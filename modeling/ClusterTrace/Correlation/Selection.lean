import ClusterTrace.Record.Basic

/-!
# Which pods belong together

No relation between records is stored.  These functions find the pods of a
virtual machine instance by the label of their creator, by node and by creation
time.
-/

namespace ClusterTrace.Correlation

open Time (Instant)

/-! ## Extremes -/

/-- The first element that no other is before. -/
def firstLeast? {α : Type} (isBefore : α → α → Bool) : List α → Option α
  | [] => none
  | a :: rest =>
      match firstLeast? isBefore rest with
      | some b => some (if isBefore b a then b else a)
      | none => some a

/-- The last element that is before no other. -/
def lastGreatest? {α : Type} (isBefore : α → α → Bool) : List α → Option α
  | [] => none
  | a :: rest =>
      match lastGreatest? isBefore rest with
      | some b => some (if isBefore b a then a else b)
      | none => some a

/-- The order of pods by age, the oldest first; pods of one age are in the order
of their UIDs. -/
def compareAge (a b : Pod) : Ordering :=
  (a.creationTime.compare b.creationTime).then (compare a.uuid b.uuid)

/-- `a` comes before `b` by age. -/
def isOlder (a b : Pod) : Bool :=
  compareAge a b == .lt

/-! ## Launchers and handlers -/

/-- How the names of the pods begin that handle the virtual machines of a
node. -/
def handlerPrefix : String := "virt-handler"

/-- The pod handles the virtual machines of the node. -/
def isHandler (node : String) (pod : Pod) : Bool :=
  pod.nodeName == node && pod.name.startsWith handlerPrefix

/-- The pod was created by the instance. -/
def isLauncher (vmi : String) (pod : Pod) : Bool :=
  pod.createdBy == some vmi

/-- The pod was created by the instance on the node. -/
def isLauncherOn (vmi node : String) (pod : Pod) : Bool :=
  isLauncher vmi pod && pod.nodeName == node

/-- Between pods from which a migration may have started, the one created later
comes first. -/
def isBetterSource (a b : Pod) : Bool :=
  ((b.creationTime.compare a.creationTime).then (compare a.uuid b.uuid)) == .lt

/-- The pod that ran on the source node when a migration started: of the
instance's pods there the one that was created last, neither before the instance
nor after the start. -/
def sourceLauncher? (pods : List Pod) (vmi node : String)
    (created started : Instant) : Option Pod :=
  firstLeast? isBetterSource
    (pods.filter fun pod =>
      isLauncherOn vmi node pod && decide (created ≤ pod.creationTime) &&
        decide (pod.creationTime ≤ started))

/-- The pod of an instance on a node: the one created first. -/
def launcher? (pods : List Pod) (vmi node : String) : Option Pod :=
  firstLeast? isOlder (pods.filter (isLauncherOn vmi node))

/-- The handler of a node at a time: the last one created by then, or the first
one ever. -/
def handler? (pods : List Pod) (node : String) (at' : Instant) : Option Pod :=
  let handlers := pods.filter (isHandler node)
  match lastGreatest? isOlder
      (handlers.filter fun pod => decide (pod.creationTime ≤ at')) with
  | some pod => some pod
  | none => firstLeast? isOlder handlers

/-! ## Nodes and claims -/

/-- The nodes among pods that are in order of age, each with the creation time
of its first pod. -/
def nodesOf : List Pod → List (String × Instant) → List (String × Instant)
  | [], found => found.reverse
  | pod :: rest, found =>
      if pod.nodeName.isEmpty || (found.lookup pod.nodeName).isSome then
        nodesOf rest found
      else nodesOf rest ((pod.nodeName, pod.creationTime) :: found)

/-- The nodes on which pods ran, in order of the first visit, each with its
time. -/
def visitedNodes (launchers : List Pod) : List (String × Instant) :=
  nodesOf (launchers.mergeSort fun a b => !isOlder b a) []

/-- The distinct names of the claims that pods mount, in order of appearance. -/
def claimNames (pods : List Pod) : List String :=
  (pods.flatMap Pod.pvcNames).foldl
    (fun names name =>
      if names.contains name then names else names ++ [name]) []

/-- How many seconds before the first event a window starts. -/
def leadTime : Nat := 30

/-- The start of the window of an event. -/
def windowStart (first : Instant) : Instant :=
  first.before leadTime

end ClusterTrace.Correlation
