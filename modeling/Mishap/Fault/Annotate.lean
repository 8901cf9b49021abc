import Mishap.Fault.Chain
import Mishap.UsageError

/-!
Annotating: building a fault from data, a format string and possibly a cause. The data of the cause is merged
underneath the new data, so that the new fault carries the data of the whole chain.
-/

namespace Mishap

/-- What an annotated fault is built from. -/
structure Draft where
  cause : Option Fault
  format : String
  params : Params
  flags : List Flag
  schema : Schema

/-- An annotated fault together with the record that its data was found to hold. -/
structure Handle where
  fault : Fault
  note : Note
  record : Record

namespace Fault

/-- The format that renders nothing but the cause: with the parameters passed down, if the cause can use them. -/
def defaultFormat (cause : Fault) : String :=
  if cause.voice.isInterpolatable then "$w" else "%w"

/-- The annotated fault of a note. -/
def annotate (id : Identity) (a : Note) : Fault := annotated id a.template a.params a.cause

end Fault

namespace Draft

/-- The format string to use; an empty one stands for the message of the cause. -/
def resolveFormat (draft : Draft) (caller : Caller) : Attempt String :=
  if draft.format = "" then
    match draft.cause with
    | some cause => .ok cause.defaultFormat
    | none => .error (.usage ⟨caller, .emptyFormat⟩)
  else .ok draft.format

/-- The new data with the data of the cause underneath. -/
def mergedParams (draft : Draft) (policy : Params.MergePolicy) : Except DataError Params :=
  match draft.cause.bind Fault.dataLink? with
  | none => .ok draft.params
  | some link =>
    match draft.params.merge policy link.params with
    | .ok params => .ok params
    | .error conflict => .error (.mergeConflict conflict)

/-- Checks the template against the parameters of the fault itself. -/
def checkOwn (a : Note) : Except DataError Unit :=
  match a.template.verifyOwn a.params a.voice? with
  | .ok () => .ok ()
  | .error error => .error (.template error)

/-- Builds the fault. An eager build refuses a template that its own parameters leave with a problem; any other shows
the problem in the message. -/
def build (draft : Draft) (id : Identity) (caller : Caller) (eager : Bool) : Attempt Handle := do
  Attempt.checkSchema caller draft.schema
  let policy ← Attempt.ofFlags caller (Flag.mergePolicy draft.flags)
  let format ← draft.resolveFormat caller
  let params ← Attempt.ofData (draft.mergedParams policy)
  let a : Note := ⟨Template.ofFormat format, params, draft.cause⟩
  if eager then Attempt.ofData (checkOwn a)
  let record ← Attempt.ofData (draft.schema.read .isError params)
  return ⟨Fault.annotate id a, a, record⟩

/-- Builds the fault eagerly and hands every failure of its data on. -/
def attempt (draft : Draft) (id : Identity) (caller : Caller) : Attempt Handle := draft.build id caller true

/-- Builds the fault where its data cannot fail; a failure is a usage error. -/
def insist (draft : Draft) (id : Identity) (caller : Caller) : Attempt Handle :=
  (draft.build id caller false).insist caller

end Draft

namespace Fault

/-! ### Errors with a record of their own -/

/-- A fault without a cause that carries the data of a record. -/
def ofRecord (id : Identity) (format : String) (schema : Schema) (record : Record) : Attempt Handle :=
  Draft.insist ⟨none, format, schema.toParams record, [], schema⟩ id .new

def tryOfRecord (id : Identity) (format : String) (schema : Schema) (record : Record) : Attempt Handle :=
  Draft.attempt ⟨none, format, schema.toParams record, [], schema⟩ id .tryNew

/-- A fault around a cause that carries the data of a record and of the cause. -/
def wrap (cause : Fault) (id : Identity) (format : String) (schema : Schema) (record : Record) (flags : List Flag) :
    Attempt Handle :=
  Draft.insist ⟨some cause, format, schema.toParams record, flags, schema⟩ id .wrap

def tryWrap (cause : Fault) (id : Identity) (format : String) (schema : Schema) (record : Record)
    (flags : List Flag) : Attempt Handle :=
  Draft.attempt ⟨some cause, format, schema.toParams record, flags, schema⟩ id .tryWrap

/-- Adds the data of a record and keeps the message. -/
def addData (cause : Fault) (id : Identity) (schema : Schema) (record : Record) (flags : List Flag) :
    Attempt Handle :=
  cause.wrap id "" schema record flags

def tryAddData (cause : Fault) (id : Identity) (schema : Schema) (record : Record) (flags : List Flag) :
    Attempt Handle :=
  cause.tryWrap id "" schema record flags

/-! ### Errors with parameters only -/

def ofParams (id : Identity) (format : String) (params : Params) : Attempt Handle :=
  Draft.insist ⟨none, format, params, [], .empty⟩ id .withParams

def tryOfParams (id : Identity) (format : String) (params : Params) : Attempt Handle :=
  Draft.attempt ⟨none, format, params, [], .empty⟩ id .tryWithParams

def wrapParams (cause : Fault) (id : Identity) (format : String) (params : Params) (flags : List Flag) :
    Attempt Handle :=
  Draft.insist ⟨some cause, format, params, flags, .empty⟩ id .wrapWithParams

def tryWrapParams (cause : Fault) (id : Identity) (format : String) (params : Params) (flags : List Flag) :
    Attempt Handle :=
  Draft.attempt ⟨some cause, format, params, flags, .empty⟩ id .tryWrapWithParams

/-- Adds one field and keeps the message. -/
def addParam (cause : Fault) (id : Identity) (name : String) (v : Value) : Attempt Handle :=
  cause.wrapParams id "" (.singleton name v) []

/-- Keeps the message and all data but one field. The cause keeps that field. -/
def deleteField (cause : Fault) (id : Identity) (name : String) : Handle :=
  let a : Note := ⟨Template.ofFormat cause.defaultFormat, cause.fields.erase name, some cause⟩
  ⟨annotate id a, a, []⟩

/-- A new fault with the note of a fault, through a box; any other fault stays itself. -/
def clone (f : Fault) (id : Identity) : Fault :=
  match f.note? with
  | some a => annotate id a
  | none => f

/-! ### Projection -/

/-- Reads the data of the chain as a record. -/
def project (f : Fault) (schema : Schema) (flags : List Flag) : Attempt Record := do
  let options ← Attempt.ofFlags .project (Flag.projectOptions flags)
  Attempt.checkSchema .project schema
  let result := Attempt.ofData (schema.read options.missing f.fields)
  if options.strict then result.insist .project else result

end Fault

end Mishap
