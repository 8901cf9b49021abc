import Mishap.DataError
import Mishap.Record.FieldType
import Mishap.Template.Name

/-!
Records: named fields of fixed types, read from a parameter map and written back into one.
-/

namespace Mishap

/-- A field of a record. -/
structure Field where
  name : String
  type : FieldType
  deriving DecidableEq, Repr

/-- The fields of a record in the order of their declaration. Fields in `omitted` are not written into a parameter
map. -/
structure Schema where
  fields : List Field
  omitted : List String
  deriving DecidableEq, Repr

/-- What becomes of a field that the data does not hold. -/
inductive MissingData
  | isError
  | asZero
  deriving DecidableEq, Repr

/-- The value of every field of a schema, in the order of their declaration. -/
abbrev Record := List (String × Value)

namespace Field

/-- Reads one field. A value of the wrong type is a mismatch whatever `missing` says. -/
def read (field : Field) (missing : MissingData) (params : Params) : Except DataError Value :=
  match params.get? field.name, missing with
  | some v, _ =>
    match field.type.assign? v with
    | some held => .ok held
    | none => .error (.typeMismatch field.name field.type.kind v.kind)
  | none, .asZero => .ok field.type.default
  | none, .isError => .error (.missingField field.name field.type.kind)

end Field

/-- Why the fields of a schema cannot be addressed from a format string. -/
inductive SchemaFault
  | notAddressable (name : String)
  | selectsMap (name : String)
  | repeated (name : String)
  deriving DecidableEq, Repr

def SchemaFault.message : SchemaFault → String
  | notAddressable name =>
    "record field '" ++ name ++ "' is not addressable; field names must be public identifiers"
  | selectsMap name => "record field '" ++ name ++ "' collides with a whole-map selector"
  | repeated name => "record field '" ++ name ++ "' appears twice"

namespace Schema

/-- The record without fields. -/
def empty : Schema := ⟨[], []⟩

/-- Reads all fields in order; the first that fails decides. -/
def read (schema : Schema) (missing : MissingData) (params : Params) : Except DataError Record :=
  schema.fields.mapM fun field => return (field.name, ← field.read missing params)

/-- The data of a record. -/
def toParams (schema : Schema) (record : Record) : Params :=
  Params.ofList (record.filter fun entry => !schema.omitted.contains entry.1)

/-- The first fault of the names, given those before them. -/
def nameFault? (seen : List String) : List Field → Option SchemaFault
  | [] => none
  | field :: rest =>
    if !isFieldName field.name then some (.notAddressable field.name)
    else if isMapSelector field.name then some (.selectsMap field.name)
    else if seen.contains field.name then some (.repeated field.name)
    else nameFault? (field.name :: seen) rest

def fault? (schema : Schema) : Option SchemaFault := nameFault? [] schema.fields

end Schema

end Mishap
