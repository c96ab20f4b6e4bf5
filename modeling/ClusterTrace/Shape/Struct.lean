import ClusterTrace.Shape.Mismatch

/-!
# Records with named fields

A record is read field by field into a starting value.  Members come by name, in
the order of the document, or by position, in the order of the fields.  Of the
faults of a document the first met counts; missing fields are looked for last.
-/

namespace ClusterTrace.Shape

/-- One field of a record `σ`, read from values `ν` with errors `ε`. -/
structure Field (ν ε σ : Type) where
  name : String
  /-- A record by names without this field is refused. -/
  isRequired : Bool
  set : ν → σ → Except ε σ

/-- A field that must be there. -/
def Field.required {ν ε σ α : Type} (name : String) (read : ν → Except ε α)
    (put : α → σ → σ) : Field ν ε σ where
  name := name
  isRequired := true
  set value record := (read value).map fun a => put a record

/-- A field that keeps its starting value when it is not there. -/
def Field.optional {ν ε σ α : Type} (name : String) (read : ν → Except ε α)
    (put : α → σ → σ) : Field ν ε σ :=
  { Field.required name read put with isRequired := false }

/-- A record type: its name, its fields in order, and what unknown and missing
members mean. -/
structure Struct (ν ε σ : Type) where
  name : String
  fields : List (Field ν ε σ)
  start : σ
  /-- Members that are no field are refused. -/
  isClosed : Bool := false
  /-- A list may end before the last field. -/
  mayEndEarly : Bool := false

namespace Struct

variable {ν ε σ : Type}

def field? (struct : Struct ν ε σ) (name : String) : Option (Field ν ε σ) :=
  struct.fields.find? fun field => field.name = name

/-- The first required field that none of the names is. -/
def missing? (struct : Struct ν ε σ) (names : List String) :
    Option (Field ν ε σ) :=
  struct.fields.find?
    fun field => field.isRequired && !names.contains field.name

/-- Reads members by name into the record; `seen` are the names of the fields
read so far.  A fault of a member is `faultAt` it, one of the whole record
`fault`. -/
def readMembers (struct : Struct ν ε σ) (fault : Mismatch → ε)
    (faultAt : ν → Mismatch → ε) :
    List (String × ν) → List String → σ → Except ε σ
  | [], seen, record =>
      match struct.missing? seen with
      | some field => .error (fault (.missingField field.name))
      | none => .ok record
  | (name, value) :: rest, seen, record =>
      match struct.field? name with
      | some field =>
          if seen.contains name then .error (fault (.repeatedField name))
          else
            match field.set value record with
            | .ok record =>
                readMembers struct fault faultAt rest (name :: seen) record
            | .error e => .error e
      | none =>
          if struct.isClosed then
            .error (faultAt value
              (.unknownField name (struct.fields.map (·.name))))
          else readMembers struct fault faultAt rest seen record

/-- The record of members by name, read in the given order. -/
def ofMembers (struct : Struct ν ε σ) (fault : Mismatch → ε)
    (faultAt : ν → Mismatch → ε) (members : List (String × ν)) : Except ε σ :=
  struct.readMembers fault faultAt members [] struct.start

/-- The record of values by position. -/
def ofItems (struct : Struct ν ε σ) (fault : Mismatch → ε) (items : List ν) :
    Except ε σ :=
  match (struct.fields.zip items).foldlM
      (fun record pair => pair.1.set pair.2 record) struct.start with
  | .error e => .error e
  | .ok record =>
      let size := struct.fields.length
      if items.length < size ∧ ¬ struct.mayEndEarly then
        .error (fault (.wrongLength items.length
          ("struct " ++ struct.name ++ " with " ++ toString size ++
            if size = 1 then " element" else " elements")))
      else if size < items.length then
        .error (fault (.wrongLength items.length "fewer elements in array"))
      else .ok record

end Struct
end ClusterTrace.Shape
