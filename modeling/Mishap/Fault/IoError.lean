import Mishap.Text.Quoted

/-!
Failures of a device, by kind and with or without a message of their own.
-/

namespace Mishap

inductive IoErrorKind
  | unexpectedEof
  | writeZero
  | notFound
  | permissionDenied
  | invalidData
  | timedOut
  | interrupted
  | other
  deriving DecidableEq, Repr

namespace IoErrorKind

def name : IoErrorKind → String
  | unexpectedEof => "UnexpectedEof"
  | writeZero => "WriteZero"
  | notFound => "NotFound"
  | permissionDenied => "PermissionDenied"
  | invalidData => "InvalidData"
  | timedOut => "TimedOut"
  | interrupted => "Interrupted"
  | other => "Other"

def all : List IoErrorKind :=
  [unexpectedEof, writeZero, notFound, permissionDenied, invalidData, timedOut, interrupted, other]

def ofName? (name : String) : Option IoErrorKind := all.find? fun kind => kind.name == name

/-- The message of a failure that brings none. -/
def message : IoErrorKind → String
  | unexpectedEof => "unexpected end of file"
  | writeZero => "write zero"
  | notFound => "entity not found"
  | permissionDenied => "permission denied"
  | invalidData => "invalid data"
  | timedOut => "timed out"
  | interrupted => "operation interrupted"
  | other => "other error"

end IoErrorKind

/-- A failure of a device. -/
structure IoError where
  kind : IoErrorKind
  detail : Option String
  deriving DecidableEq, Repr

namespace IoError

def ofKind (kind : IoErrorKind) : IoError := ⟨kind, none⟩

def message (e : IoError) : String := e.detail.getD e.kind.message

def describe (e : IoError) : String :=
  match e.detail with
  | some detail =>
    "Custom \x7b kind: " ++ e.kind.name ++ ", error: " ++ Text.quoted detail ++ " \x7d"
  | none => "Kind(" ++ e.kind.name ++ ")"

end IoError

end Mishap
