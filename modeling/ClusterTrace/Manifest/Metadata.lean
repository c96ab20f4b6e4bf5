import ClusterTrace.Record.Document

/-!
# Metadata of manifests

Every manifest has a block of metadata.  What is not written in it is empty, but
some records cannot do without a UID, a name or a creation time.  Beside it the
`spec` of a manifest says what is asked of an object, its `status` what was
observed of it; the `shape` of each part lists the fields that are read.
-/

namespace ClusterTrace.Manifest

open Shape Json
open Time (Instant)

/-- Reads a record whose fields all have a default. -/
def view {σ : Type} (name : String) (start : σ)
    (fields : List (Field Json Mismatch σ)) : DocumentShape σ where
  name := name
  fields := fields
  start := start
  mayEndEarly := true

/-- A reference to an owner. -/
structure Owner where
  kind : String := ""
  name : String := ""
  uid : String := ""
deriving Repr, DecidableEq

def Owner.shape : DocumentShape Owner :=
  view "OwnerReference" {}
    [.optional "kind" asText fun v owner => { owner with kind := v },
      .optional "name" asText fun v owner => { owner with name := v },
      .optional "uid" asText fun v owner => { owner with uid := v }]

structure Metadata where
  name : Option String := none
  namespaceName : Option String := none
  uid : Option String := none
  creationTimestamp : Option Instant := none
  labels : List (String × String) := []
  owners : List Owner := []
deriving Repr, DecidableEq

def Metadata.shape : DocumentShape Metadata :=
  view "ObjectMeta" {}
    [.optional "name" (asOptional asText)
        fun v meta' => { meta' with name := v },
      .optional "namespace" (asOptional asText)
        fun v meta' => { meta' with namespaceName := v },
      .optional "uid" (asOptional asText)
        fun v meta' => { meta' with uid := v },
      .optional "creationTimestamp" (asOptional asInstant)
        fun v meta' => { meta' with creationTimestamp := v },
      .optional "labels" (asMap asText)
        fun v meta' => { meta' with labels := v },
      .optional "ownerReferences" (asList (asStruct Owner.shape))
        fun v meta' => { meta' with owners := v }]

/-- A field that a record cannot do without. -/
inductive MissingField where
  | uid
  | name
  | creationTimestamp
deriving Repr, DecidableEq

def MissingField.message : MissingField → String
  | .uid => "metadata.uid is missing"
  | .name => "metadata.name is missing"
  | .creationTimestamp => "metadata.creationTimestamp is missing"

namespace Metadata

def nonEmpty (missing : MissingField) :
    Option String → Except MissingField String
  | some text => if text.isEmpty then .error missing else .ok text
  | none => .error missing

/-- The UID, which must not be empty. -/
def requireUid (metadata : Metadata) : Except MissingField String :=
  nonEmpty .uid metadata.uid

/-- The name, which must not be empty. -/
def requireName (metadata : Metadata) : Except MissingField String :=
  nonEmpty .name metadata.name

/-- The creation time, which must be there. -/
def requireCreation (metadata : Metadata) : Except MissingField Instant :=
  match metadata.creationTimestamp with
  | some instant => .ok instant
  | none => .error .creationTimestamp

/-- The namespace, empty for what lies in none. -/
def inNamespace (metadata : Metadata) : String :=
  metadata.namespaceName.getD ""

/-- The value of a label that is not empty. -/
def label? (metadata : Metadata) (name : String) : Option String :=
  (metadata.labels.lookup name).filter fun value => !value.isEmpty

end Metadata

/-- The label by which a pod names the virtual machine instance that created
it. -/
def createdByLabel : String := "kubevirt.io/created-by"

end ClusterTrace.Manifest
