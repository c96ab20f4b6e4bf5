import ClusterTrace.Files.Tree
import ClusterTrace.Ingest.Rename
import ClusterTrace.Record.Kind

/-!
# Where manifests lie

An archive holds the manifests of a kind either as one file for each object or,
for each namespace, as one file of all objects.  Copies that were renamed
because their place was taken are found by the name that they had before.
-/

namespace ClusterTrace.Ingest

/-- What a name on a route must be. -/
inductive NamePattern where
  | exactly (name : String)
  | any
  | ending (suffix : String)
deriving Repr, DecidableEq

/-- The name matches the pattern. -/
def NamePattern.accepts : NamePattern → String → Bool
  | .exactly expected, name => name = expected
  | .any, _ => true
  | .ending suffix, name => name.endsWith suffix

/-- The names on a route match patterns one by one. -/
def acceptsRoute : List NamePattern → Route → Bool
  | [], [] => true
  | pattern :: patterns, name :: names =>
      pattern.accepts name && acceptsRoute patterns names
  | _, _ => false

/-- Where the manifests of a kind lie. -/
structure Layout where
  kind : Kind
  /-- The files of one object each. -/
  perObject : List NamePattern
  /-- The files of all objects, which count where there is no file of one
  object. -/
  fallback : List NamePattern
deriving Repr

/-- The ending of a manifest's name. -/
def manifestSuffix : String := ".yaml"

/-- A group of namespaced resources: a directory of manifests, or one manifest
of that name. -/
def namespacedLayout (kind : Kind) (group resource : String) : Layout where
  kind := kind
  perObject :=
    [.exactly "namespaces", .any, .exactly group, .exactly resource,
      .ending manifestSuffix]
  fallback :=
    [.exactly "namespaces", .any, .exactly group,
      .exactly (resource ++ manifestSuffix)]

/-- The layout of pods, each of which has a directory of its own. -/
def podLayout : Layout where
  kind := .pod
  perObject :=
    [.exactly "namespaces", .any, .exactly "pods", .any, .ending manifestSuffix]
  fallback :=
    [.exactly "namespaces", .any, .exactly "core", .exactly "pods.yaml"]

/-- The layout of nodes, which live in no namespace. -/
def nodeLayout : Layout where
  kind := .node
  perObject :=
    [.exactly "cluster-scoped-resources", .exactly "core", .exactly "nodes",
      .ending manifestSuffix]
  fallback :=
    [.exactly "cluster-scoped-resources", .exactly "core",
      .exactly "nodes.yaml"]

/-- The layouts of all kinds, in the order in which they are read. -/
def layouts : List Layout :=
  [podLayout,
    namespacedLayout .migration "kubevirt.io"
      "virtualmachineinstancemigrations",
    nodeLayout,
    namespacedLayout .vm "kubevirt.io" "virtualmachines",
    namespacedLayout .vmi "kubevirt.io" "virtualmachineinstances",
    namespacedLayout .pvc "core" "persistentvolumeclaims",
    namespacedLayout .subscription "operators.coreos.com" "subscriptions"]

/-- The route of a file before it was renamed. -/
def routeBeforeRename? (route : Route) : Option Route :=
  route.getLast?.bind
    fun name => (nameBeforeRename? name).map fun old => route.dropLast ++ [old]

/-- The route matches, as it is or as it was before a renaming. -/
def acceptsCopy (patterns : List NamePattern) (route : Route) : Bool :=
  acceptsRoute patterns route ||
    (routeBeforeRename? route).any (acceptsRoute patterns)

/-- The files below a directory, by their routes from it, in order. -/
def filesBelow (tree : FileTree) (root : Route) : List Route :=
  (tree.below root).filterMap fun (route, entry) =>
    match entry with
    | .file _ => some route
    | .directory => none

/-- The manifests of a layout below a directory, by their routes from it, in
order. -/
def Layout.find (layout : Layout) (tree : FileTree) (root : Route) :
    List Route :=
  if tree.at? root = some .directory then
    let files := filesBelow tree root
    let perObject := files.filter (acceptsCopy layout.perObject)
    if perObject.isEmpty then files.filter (acceptsCopy layout.fallback)
    else perObject
  else []

end ClusterTrace.Ingest
