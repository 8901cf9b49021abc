import Mishap.Transfer.Failure
import Mishap.Transfer.Integer

/-!
Reading from a device that answers by a script. Each call takes what it can from the current chunk of data and never
crosses into the next; an interrupted call is made again.
-/

namespace Mishap

/-- What a device has in store for a reader: a chunk of data, or a failure. -/
inductive ReadEvent
  | data (chunk : List UInt8)
  | failure (error : IoError)
  deriving DecidableEq, Repr

/-- What is left of the current chunk, and what comes after it. -/
structure Reader where
  chunk : List UInt8
  script : List ReadEvent
  deriving DecidableEq, Repr

/-- The answer to one call. No bytes at all mean the end of the data. -/
inductive ReadAnswer
  | delivered (bytes : List UInt8)
  | failed (error : IoError)
  deriving DecidableEq, Repr

namespace Reader

def ofScript (script : List ReadEvent) : Reader := ⟨[], script⟩

/-- One call for at most `asked` bytes. -/
def call (asked : Nat) (reader : Reader) : ReadAnswer × Reader :=
  match reader.chunk, reader.script with
  | b :: rest, script => (.delivered ((b :: rest).take asked), ⟨(b :: rest).drop asked, script⟩)
  | [], [] => (.delivered [], reader)
  | [], .data chunk :: script => (.delivered (chunk.take asked), ⟨chunk.drop asked, script⟩)
  | [], .failure error :: script => (.failed error, ⟨[], script⟩)

theorem length_script_call_le (asked : Nat) (reader : Reader) :
    (reader.call asked).2.script.length ≤ reader.script.length := by
  unfold call
  split <;> simp_all

theorem length_script_call_lt {asked : Nat} {reader : Reader} {error : IoError}
    (h : (reader.call asked).1 = .failed error) :
    (reader.call asked).2.script.length < reader.script.length := by
  unfold call at h ⊢
  split <;> simp_all

/-- Calls for bytes until `needed` more have come after those in `got`. -/
def fill (needed : Nat) (got : List UInt8) (reader : Reader) :
    Except (Nat × IoError) (List UInt8) × Reader :=
  if needed = 0 then (.ok got, reader)
  else
    let next := (reader.call needed).2
    match _h : (reader.call needed).1 with
    | .delivered [] => (.error (got.length, .ofKind .unexpectedEof), next)
    | .delivered (b :: bytes) => fill (needed - (bytes.length + 1)) (got ++ b :: bytes) next
    | .failed error =>
      if error.kind = .interrupted then fill needed got next else (.error (got.length, error), next)
termination_by needed + reader.script.length
decreasing_by
  · have := length_script_call_le needed reader
    omega
  · have := length_script_call_lt _h
    omega

/-- Reads an integer of a format. -/
def read (format : IntegerFormat) (reader : Reader) : Except TransferFailure Nat × Reader :=
  match reader.fill format.size [] with
  | (.ok bytes, next) => (.ok (format.decode bytes), next)
  | (.error (done, cause), next) => (.error ⟨.reading, done, format.size, cause⟩, next)

end Reader

end Mishap
