import Mishap.Flag

/-!
Usage errors: mistakes of the caller of an operation, as against failures of its data.
-/

namespace Mishap

/-- The operations that can be misused. -/
inductive Caller
  | new
  | tryNew
  | wrap
  | tryWrap
  | withParams
  | tryWithParams
  | wrapWithParams
  | tryWrapWithParams
  | project
  deriving DecidableEq, Repr

/-- An operation as a usage error names it. -/
def Caller.name : Caller → String
  | new => "ErrorWithData::new"
  | tryNew => "ErrorWithData::try_new"
  | wrap => "ErrorWithData::wrap"
  | tryWrap => "ErrorWithData::try_wrap"
  | withParams => "ErrorWithParams::with_params"
  | tryWithParams => "ErrorWithParams::try_with_params"
  | wrapWithParams => "ErrorWithParams::wrap_with_params"
  | tryWrapWithParams => "ErrorWithParams::try_wrap_with_params"
  | project => "project"

/-- A mistake in a call. A failure of the data is one where the operation was to be used only on data that cannot
fail. -/
inductive Mistake
  | schema (fault : SchemaFault)
  | flags (fault : FlagFault)
  | emptyFormat
  | failed (error : DataError)

def Mistake.message : Mistake → String
  | schema fault => fault.message
  | flags fault => fault.message
  | emptyFormat => "an empty format string requires a cause"
  | failed error => error.message

structure UsageError where
  caller : Caller
  mistake : Mistake

def UsageError.message (e : UsageError) : String := e.caller.name ++ ": " ++ e.mistake.message

/-- Why an operation gave no result: it was misused, or its data failed. -/
inductive Refusal
  | usage (error : UsageError)
  | data (error : DataError)

/-- The result of an operation that can be misused and can fail. -/
abbrev Attempt (α : Type) := Except Refusal α

namespace Attempt

def ofFlags {α : Type} (caller : Caller) : Except FlagFault α → Attempt α
  | .ok a => .ok a
  | .error fault => .error (.usage ⟨caller, .flags fault⟩)

def ofData {α : Type} : Except DataError α → Attempt α
  | .ok a => .ok a
  | .error error => .error (.data error)

/-- Takes a failure of the data for a mistake of the caller. -/
def insist {α : Type} (caller : Caller) : Attempt α → Attempt α
  | .error (.data error) => .error (.usage ⟨caller, .failed error⟩)
  | result => result

def checkSchema (caller : Caller) (schema : Schema) : Attempt Unit :=
  match schema.fault? with
  | some fault => .error (.usage ⟨caller, .schema fault⟩)
  | none => .ok ()

end Attempt

end Mishap
