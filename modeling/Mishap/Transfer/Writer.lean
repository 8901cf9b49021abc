import Mishap.Transfer.Failure
import Mishap.Transfer.Integer

/-!
Writing to a device that answers by a script. Each call says how many of the bytes offered the device takes; an
interrupted call is made again.
-/

namespace Mishap

/-- What a device has in store for a writer: room for some bytes, or a failure. -/
inductive WriteEvent
  | accept (most : Nat)
  | failure (error : IoError)
  deriving DecidableEq, Repr

/-- The bytes taken so far, and the answers to come. -/
structure Writer where
  script : List WriteEvent
  written : List UInt8
  deriving DecidableEq, Repr

namespace Writer

def ofScript (script : List WriteEvent) : Writer := ⟨script, []⟩

/-- One call that offers bytes: how many of them were taken. After the script none are. -/
def call (offered : List UInt8) (writer : Writer) : Except IoError Nat × Writer :=
  match writer.script with
  | [] => (.ok 0, writer)
  | .accept most :: script =>
    (.ok (min most offered.length), ⟨script, writer.written ++ offered.take most⟩)
  | .failure error :: script => (.error error, { writer with script })

theorem length_script_call_le (offered : List UInt8) (writer : Writer) :
    (writer.call offered).2.script.length ≤ writer.script.length := by
  unfold call
  split <;> simp_all

theorem length_script_call_lt {offered : List UInt8} {writer : Writer} {error : IoError}
    (h : (writer.call offered).1 = .error error) :
    (writer.call offered).2.script.length < writer.script.length := by
  unfold call at h ⊢
  split <;> simp_all

/-- Offers bytes until all of them are taken, `done` having been taken before. -/
def drain (done : Nat) (offered : List UInt8) (writer : Writer) : Except (Nat × IoError) Unit × Writer :=
  if offered = [] then (.ok (), writer)
  else
    let next := (writer.call offered).2
    match _h : (writer.call offered).1 with
    | .ok 0 => (.error (done, .ofKind .writeZero), next)
    | .ok (taken + 1) => drain (done + taken + 1) (offered.drop (taken + 1)) next
    | .error error =>
      if error.kind = .interrupted then drain done offered next else (.error (done, error), next)
termination_by offered.length + writer.script.length
decreasing_by
  · have := length_script_call_le offered writer
    have : 0 < offered.length := List.length_pos_iff.2 ‹_›
    simp only [List.length_drop]
    omega
  · have := length_script_call_lt _h
    omega

/-- Writes an integer in a format. -/
def write (format : IntegerFormat) (n : Nat) (writer : Writer) : Except TransferFailure Unit × Writer :=
  match writer.drain 0 (format.encode n) with
  | (.ok (), next) => (.ok (), next)
  | (.error (done, cause), next) => (.error ⟨.writing, done, format.size, cause⟩, next)

end Writer

end Mishap
