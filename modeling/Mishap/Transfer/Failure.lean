import Mishap.Fault.Annotate

/-!
Transfers that break off: how far one got, and the fault that tells it.
-/

namespace Mishap

/-- Whether bytes are read or written. -/
inductive Direction
  | reading
  | writing
  deriving DecidableEq, Repr

def Direction.format : Direction → String
  | reading => "read %d\x7bbytes_done\x7d of %d\x7bexpected\x7d bytes: %w"
  | writing => "wrote %d\x7bbytes_done\x7d of %d\x7bexpected\x7d bytes: %w"

/-- A transfer of `expected` bytes that broke off after `done` of them. -/
structure TransferFailure where
  direction : Direction
  done : Nat
  expected : Nat
  cause : IoError
  deriving DecidableEq, Repr

namespace TransferFailure

/-- The record of a broken transfer. It is partial when some of the bytes were transferred, but not all. -/
def schema : Schema :=
  ⟨[⟨"bytes_done", .unsigned .bits64⟩, ⟨"partial", .bool⟩, ⟨"expected", .unsigned .bits64⟩], []⟩

def isPartial (failure : TransferFailure) : Bool := 0 < failure.done && failure.done < failure.expected

def record (failure : TransferFailure) : Record :=
  [("bytes_done", .uint (.ofNat failure.done)), ("partial", .bool failure.isPartial),
    ("expected", .uint (.ofNat failure.expected))]

/-- The fault of a broken transfer around the failure of the device. -/
def toFault (failure : TransferFailure) (causeId id : Identity) : Attempt Handle :=
  (Fault.io causeId failure.cause).wrap id failure.direction.format schema failure.record []

end TransferFailure

end Mishap
