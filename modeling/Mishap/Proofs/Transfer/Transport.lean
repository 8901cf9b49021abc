import Mishap.Proofs.Transfer.Bytes
import Mishap.Transfer.Reader
import Mishap.Transfer.Writer

/-!
Transport of integers through devices that take and deliver bytes as they please. Main statement: a writer that goes on
taking bytes gets the bytes of all integers and no others, and a reader that delivers these bytes in any chunks has them
read back in order and no byte more.
-/

namespace Mishap

/-! ### Writing -/

/-- A writer takes something at this call or asks to be called again. -/
def WriteEvent.Willing : WriteEvent → Prop
  | accept most => 0 < most
  | failure error => error.kind = .interrupted

/-- Whether bytes are taken at a call. -/
def WriteEvent.isAccept : WriteEvent → Bool
  | accept _ => true
  | failure _ => false

namespace Writer

/-- Writes integers one behind the other, up to the first that fails. -/
def writeAll : List FixedInteger → Writer → Except TransferFailure Unit × Writer
  | [], writer => (.ok (), writer)
  | n :: rest, writer =>
    match writer.write n.format n.value with
    | (.ok (), next) => writeAll rest next
    | (.error failure, next) => (.error failure, next)

theorem drain_nil (done : Nat) (writer : Writer) : writer.drain done [] = (.ok (), writer) := by
  rw [drain, if_pos rfl]

/-- One call, and going on after its answer. -/
theorem drain_step (done : Nat) {offered : List UInt8} (hoffered : offered ≠ []) (writer : Writer) :
    writer.drain done offered =
      match writer.call offered with
      | (.ok 0, next) => (.error (done, .ofKind .writeZero), next)
      | (.ok (taken + 1), next) => next.drain (done + taken + 1) (offered.drop (taken + 1))
      | (.error error, next) =>
        if error.kind = .interrupted then next.drain done offered else (.error (done, error), next) := by
  rw [drain, if_neg hoffered]
  rcases hcall : writer.call offered with ⟨answer, next⟩
  split <;> simp_all

theorem drain_accept {most : Nat} (hmost : 0 < most) (done : Nat) {offered : List UInt8} (hoffered : offered ≠ [])
    (script : List WriteEvent) (written : List UInt8) :
    drain done offered ⟨.accept most :: script, written⟩ =
      drain (done + min most offered.length) (offered.drop most) ⟨script, written ++ offered.take most⟩ := by
  have hlength := List.length_pos_iff.2 hoffered
  obtain ⟨taken, htaken⟩ : ∃ taken, min most offered.length = taken + 1 :=
    Nat.exists_eq_succ_of_ne_zero (by omega)
  have hdrop : offered.drop (taken + 1) = offered.drop most := by
    rw [← htaken]
    rcases Nat.le_total most offered.length with h | h
    · rw [Nat.min_eq_left h]
    · rw [Nat.min_eq_right h, List.drop_length, List.drop_of_length_le h]
  rw [drain_step done hoffered]
  simp only [call, htaken, hdrop, Nat.add_assoc]

theorem drain_interrupted {error : IoError} (h : error.kind = .interrupted) (done : Nat) {offered : List UInt8}
    (hoffered : offered ≠ []) (script : List WriteEvent) (written : List UInt8) :
    drain done offered ⟨.failure error :: script, written⟩ = drain done offered ⟨script, written⟩ := by
  rw [drain_step done hoffered]
  exact if_pos h

/-- The answers that take bytes. -/
def rounds (script : List WriteEvent) : Nat := script.countP WriteEvent.isAccept

/-- A willing writer that answers often enough takes all bytes that it is offered. The answers behind those that it
needs for this do not matter and are left. -/
theorem exists_drain {script : List WriteEvent} (hwilling : ∀ event ∈ script, event.Willing) (offered : List UInt8)
    (hrounds : offered.length ≤ rounds script) :
    ∃ used rest, script = used ++ rest ∧ rounds used ≤ offered.length ∧ ∀ done later written,
      drain done offered ⟨used ++ later, written⟩ = (.ok (), ⟨later, written ++ offered⟩) := by
  induction script generalizing offered with
  | nil =>
    obtain rfl : offered = [] := List.length_eq_zero_iff.1 (Nat.le_zero.1 hrounds)
    refine ⟨[], [], rfl, Nat.le_refl _, fun done later written => ?_⟩
    rw [drain_nil, List.append_nil, List.nil_append]
  | cons event script ih =>
    obtain ⟨hevent, hscript⟩ := List.forall_mem_cons.1 hwilling
    by_cases hoffered : offered = []
    · subst hoffered
      refine ⟨[], event :: script, rfl, Nat.le_refl _, fun done later written => ?_⟩
      rw [drain_nil, List.append_nil, List.nil_append]
    cases event with
    | accept most =>
      have hlength := List.length_pos_iff.2 hoffered
      have hmost : 0 < most := hevent
      have hround (events : List WriteEvent) : rounds (.accept most :: events) = rounds events + 1 :=
        List.countP_cons_of_pos rfl
      rw [hround] at hrounds
      obtain ⟨used, rest, rfl, hused, hdrain⟩ := ih hscript (offered.drop most) (by rw [List.length_drop]; omega)
      refine ⟨.accept most :: used, rest, rfl, ?_, fun done later written => ?_⟩
      · rw [hround]
        rw [List.length_drop] at hused
        omega
      · rw [List.cons_append, drain_accept hmost done hoffered, hdrain, List.append_assoc, List.take_append_drop]
    | failure error =>
      obtain ⟨used, rest, rfl, hused, hdrain⟩ := ih hscript offered hrounds
      refine ⟨.failure error :: used, rest, rfl, hused, fun done later written => ?_⟩
      rw [List.cons_append, drain_interrupted hevent done hoffered, hdrain]

theorem exists_writeAll {script : List WriteEvent} (hwilling : ∀ event ∈ script, event.Willing)
    (integers : List FixedInteger) (hrounds : (integers.flatMap FixedInteger.bytes).length ≤ rounds script) :
    ∃ used rest, script = used ++ rest ∧ ∀ later written,
      writeAll integers ⟨used ++ later, written⟩ =
        (.ok (), ⟨later, written ++ integers.flatMap FixedInteger.bytes⟩) := by
  induction integers generalizing script with
  | nil => exact ⟨[], script, rfl, fun later written => by simp [writeAll]⟩
  | cons n integers ih =>
    rw [List.flatMap_cons, List.length_append] at hrounds
    obtain ⟨used, rest, rfl, hused, hdrain⟩ := exists_drain hwilling n.bytes (by omega)
    have hrest : rounds (used ++ rest) = rounds used + rounds rest := List.countP_append
    obtain ⟨more, rest, rfl, hmore⟩ :=
      ih (fun event hevent => hwilling event (List.mem_append_right used hevent)) (by omega)
    refine ⟨used ++ more, rest, (List.append_assoc ..).symm, fun later written => ?_⟩
    have hwrite : write n.format n.value ⟨used ++ (more ++ later), written⟩ =
        (.ok (), ⟨more ++ later, written ++ n.bytes⟩) := by
      rw [FixedInteger.bytes] at hdrain ⊢
      rw [write, hdrain]
    rw [List.append_assoc, writeAll, hwrite]
    dsimp only
    rw [hmore, List.flatMap_cons, List.append_assoc]

/-- An endless writer has answered often enough at some time. -/
theorem exists_rounds {answers : Nat → WriteEvent} (hendless : ∀ n, ∃ m, n ≤ m ∧ (answers m).isAccept) (count : Nat) :
    ∃ calls, count ≤ rounds ((List.range calls).map answers) := by
  induction count with
  | zero => exact ⟨0, Nat.zero_le _⟩
  | succ count ih =>
    obtain ⟨calls, hcalls⟩ := ih
    obtain ⟨m, hm, haccept⟩ := hendless calls
    refine ⟨m + 1, ?_⟩
    have hsub : ((List.range calls).map answers).Sublist ((List.range m).map answers) :=
      (List.range_sublist.2 hm).map answers
    have hle := hsub.countP_le (p := WriteEvent.isAccept)
    rw [List.range_succ, List.map_append, rounds, List.countP_append]
    have hlast : List.countP WriteEvent.isAccept (List.map answers [m]) = 1 := by simp [haccept]
    rw [rounds] at hcalls
    omega

end Writer

/-! ### Reading -/

/-- A reader delivers something or asks to be called again. -/
def ReadEvent.Willing : ReadEvent → Prop
  | data chunk => chunk ≠ []
  | failure error => error.kind = .interrupted

/-- The bytes that come with an event. -/
def ReadEvent.bytes : ReadEvent → List UInt8
  | data chunk => chunk
  | failure _ => []

namespace Reader

/-- Reads integers one behind the other, up to the first that fails. -/
def readAll : List IntegerFormat → Reader → Except TransferFailure (List Nat) × Reader
  | [], reader => (.ok [], reader)
  | format :: rest, reader =>
    match reader.read format with
    | (.ok n, next) =>
      match readAll rest next with
      | (.ok numbers, last) => (.ok (n :: numbers), last)
      | (.error failure, last) => (.error failure, last)
    | (.error failure, next) => (.error failure, next)

theorem fill_zero (got : List UInt8) (reader : Reader) : reader.fill 0 got = (.ok got, reader) := by
  rw [fill, if_pos rfl]

/-- One call, and going on after its answer. -/
theorem fill_step {needed : Nat} (hneeded : needed ≠ 0) (got : List UInt8) (reader : Reader) :
    reader.fill needed got =
      match reader.call needed with
      | (.delivered [], next) => (.error (got.length, .ofKind .unexpectedEof), next)
      | (.delivered (b :: bytes), next) => next.fill (needed - (bytes.length + 1)) (got ++ b :: bytes)
      | (.failed error, next) =>
        if error.kind = .interrupted then next.fill needed got else (.error (got.length, error), next) := by
  rw [fill, if_neg hneeded]
  rcases hcall : reader.call needed with ⟨answer, next⟩
  split <;> simp_all

/-- What is left of a chunk is delivered first. -/
theorem fill_chunk (needed : Nat) (got chunk : List UInt8) (script : List ReadEvent) :
    fill needed got ⟨chunk, script⟩ =
      fill (needed - chunk.length) (got ++ chunk.take needed) ⟨chunk.drop needed, script⟩ := by
  by_cases hneeded : needed = 0
  · subst hneeded
    simp
  cases chunk with
  | nil => simp
  | cons b rest =>
    obtain ⟨k, rfl⟩ : ∃ k, needed = k + 1 := Nat.exists_eq_succ_of_ne_zero hneeded
    have hlength : k + 1 - ((rest.take k).length + 1) = k + 1 - (b :: rest).length := by
      rw [List.length_take, List.length_cons]
      omega
    rw [fill_step hneeded]
    simp only [call, List.take_succ_cons, hlength]

theorem fill_data {needed : Nat} (hneeded : needed ≠ 0) (got : List UInt8) {chunk : List UInt8} (hchunk : chunk ≠ [])
    (script : List ReadEvent) :
    fill needed got ⟨[], .data chunk :: script⟩ = fill needed got ⟨chunk, script⟩ := by
  have hcall : call needed ⟨[], .data chunk :: script⟩ = call needed ⟨chunk, script⟩ := by
    cases chunk with
    | nil => exact absurd rfl hchunk
    | cons b rest => rfl
  rw [fill_step hneeded, fill_step hneeded, hcall]

theorem fill_interrupted {error : IoError} (h : error.kind = .interrupted) {needed : Nat} (hneeded : needed ≠ 0)
    (got : List UInt8) (script : List ReadEvent) :
    fill needed got ⟨[], .failure error :: script⟩ = fill needed got ⟨[], script⟩ := by
  rw [fill_step hneeded]
  exact if_pos h

/-- A chunk that is not enough is used up, and a willing event comes next. -/
theorem fill_willing {event : ReadEvent} (hevent : event.Willing) {needed : Nat} (got : List UInt8) {chunk : List UInt8}
    (hchunk : chunk.length < needed) (script : List ReadEvent) :
    fill needed got ⟨chunk, event :: script⟩ = fill (needed - chunk.length) (got ++ chunk) ⟨event.bytes, script⟩ := by
  rw [fill_chunk, List.take_of_length_le (by omega), List.drop_of_length_le (by omega)]
  cases event with
  | data bytes => exact fill_data (by omega) _ hevent _
  | failure error => exact fill_interrupted hevent (by omega) _ _

/-- A willing reader with enough to deliver fills what is asked for, in however many chunks, and keeps the rest. -/
theorem exists_fill {events : List ReadEvent} (hwilling : ∀ event ∈ events, event.Willing) (later : List ReadEvent)
    {needed : Nat} (got chunk : List UInt8) (hneeded : needed ≤ (chunk ++ events.flatMap ReadEvent.bytes).length) :
    ∃ left rest, fill needed got ⟨chunk, events ++ later⟩ =
        (.ok (got ++ (chunk ++ events.flatMap ReadEvent.bytes).take needed), ⟨left, rest ++ later⟩) ∧
      left ++ rest.flatMap ReadEvent.bytes = (chunk ++ events.flatMap ReadEvent.bytes).drop needed ∧
      ∀ event ∈ rest, event.Willing := by
  induction events generalizing needed got chunk with
  | nil =>
    have hchunk : needed - chunk.length = 0 := by
      rw [List.flatMap_nil, List.append_nil] at hneeded
      omega
    refine ⟨chunk.drop needed, [], ?_, by simp, by simp⟩
    rw [fill_chunk, hchunk, fill_zero]
    simp
  | cons event events ih =>
    by_cases hchunk : needed ≤ chunk.length
    · refine ⟨chunk.drop needed, event :: events, ?_, ?_, hwilling⟩
      · rw [fill_chunk, Nat.sub_eq_zero_of_le hchunk, fill_zero, List.take_append_of_le_length hchunk]
      · rw [List.drop_append_of_le_length hchunk]
    obtain ⟨hevent, hevents⟩ := List.forall_mem_cons.1 hwilling
    have hdelivered : (needed - chunk.length) ≤ (event.bytes ++ events.flatMap ReadEvent.bytes).length := by
      rw [List.flatMap_cons, List.length_append] at hneeded
      omega
    obtain ⟨left, rest, hfill, hleft, hwillingRest⟩ := ih hevents (got ++ chunk) event.bytes hdelivered
    have hle : chunk.length ≤ needed := by omega
    rw [List.cons_append, fill_willing hevent got (Nat.lt_of_not_le hchunk), hfill, List.flatMap_cons]
    generalize event.bytes ++ events.flatMap ReadEvent.bytes = more at hleft ⊢
    refine ⟨left, rest, ?_, ?_, hwillingRest⟩
    · rw [List.take_append, List.take_of_length_le hle, List.append_assoc]
    · rw [hleft, List.drop_append, List.drop_of_length_le hle, List.nil_append]

/-- What is read back from a willing reader that delivers the bytes of integers. -/
theorem exists_readAll {events : List ReadEvent} (hwilling : ∀ event ∈ events, event.Willing) (later : List ReadEvent)
    (passages : List Passage) (chunk extra : List UInt8)
    (hbytes : chunk ++ events.flatMap ReadEvent.bytes = passages.flatMap (·.integer.bytes) ++ extra) :
    ∃ left rest, readAll (passages.map Passage.readFormat) ⟨chunk, events ++ later⟩ =
        (.ok (passages.map Passage.arrival), ⟨left, rest ++ later⟩) ∧
      left ++ rest.flatMap ReadEvent.bytes = extra := by
  induction passages generalizing events chunk with
  | nil => exact ⟨chunk, events, rfl, hbytes⟩
  | cons p passages ih =>
    rw [List.flatMap_cons, List.append_assoc] at hbytes
    have henough : p.integer.bytes.length ≤ (chunk ++ events.flatMap ReadEvent.bytes).length := by
      rw [hbytes, List.length_append]
      exact Nat.le_add_right ..
    obtain ⟨left, rest, hfill, hleft, hrest⟩ := exists_fill hwilling later [] chunk henough
    rw [hbytes, List.take_left, List.nil_append] at hfill
    rw [hbytes, List.drop_left] at hleft
    have hread : read p.readFormat ⟨chunk, events ++ later⟩ = (.ok p.arrival, ⟨left, rest ++ later⟩) := by
      rw [read, p.size_readFormat, hfill, ← p.decode_bytes]
    obtain ⟨last, final, hall, hextra⟩ := ih hrest left hleft
    refine ⟨last, final, ?_, hextra⟩
    rw [List.map_cons, List.map_cons, readAll, hread]
    dsimp only
    rw [hall]

end Reader

/-- Integers of any widths and orders survive their transport. They are all written to a writer that takes at least one
byte at a call or asks to be called again, but not for ever: the bytes that it takes are theirs, one integer behind the
other, and then no call is made. A reader that delivers these bytes has them read back, however it cuts them into chunks
and however often it asks to be called again, and keeps what comes behind them. Read in the other order than it was
written in, an integer has its bytes reversed. -/
theorem integers_survive_transport (passages : List Passage) (answers : Nat → WriteEvent)
    (hanswers : ∀ n, (answers n).Willing) (hendless : ∀ n, ∃ m, n ≤ m ∧ (answers m).isAccept)
    (events : List ReadEvent) (hevents : ∀ event ∈ events, event.Willing) (extra : List UInt8)
    (hbytes : events.flatMap ReadEvent.bytes = passages.flatMap (·.integer.bytes) ++ extra) :
    (∃ calls, ∀ later,
        (Writer.ofScript ((List.range calls).map answers ++ later)).writeAll (passages.map Passage.integer) =
          (.ok (), ⟨later, passages.flatMap (·.integer.bytes)⟩)) ∧
      ∀ later, ∃ left rest,
        (Reader.ofScript (events ++ later)).readAll (passages.map Passage.readFormat) =
          (.ok (passages.map Passage.arrival), ⟨left, rest ++ later⟩) ∧
        left ++ rest.flatMap ReadEvent.bytes = extra := by
  refine ⟨?_, fun later => Reader.exists_readAll hevents later passages [] extra hbytes⟩
  let integers := passages.map Passage.integer
  have hintegers : integers.flatMap FixedInteger.bytes = passages.flatMap (·.integer.bytes) := List.flatMap_map ..
  obtain ⟨enough, henough⟩ := Writer.exists_rounds hendless (integers.flatMap FixedInteger.bytes).length
  have hwilling : ∀ event ∈ (List.range enough).map answers, event.Willing := by
    intro event hevent
    obtain ⟨n, -, rfl⟩ := List.mem_map.1 hevent
    exact hanswers n
  obtain ⟨used, rest, hused, hwrite⟩ := Writer.exists_writeAll hwilling integers henough
  refine ⟨used.length, fun later => ?_⟩
  have hcalls : (List.range used.length).map answers = used := by
    have hle : used.length ≤ enough := by
      have h := congrArg List.length hused
      rw [List.length_map, List.length_range, List.length_append] at h
      omega
    have h := congrArg (List.take used.length) hused
    rwa [List.take_left, ← List.map_take, List.take_range, Nat.min_eq_left hle] at h
  rw [hcalls, Writer.ofScript, hwrite, hintegers, List.nil_append]

/-- A writer that takes up to nine bytes at every other call. -/
def everyOther (n : Nat) : WriteEvent := if n % 2 = 0 then .failure ⟨.interrupted, none⟩ else .accept 9

/-- Two bytes and one, taken and delivered across interruptions: the two are read from the other end, and a byte behind
the third is left. -/
theorem integers_survive_transport_interrupted :
    (∃ calls, ∀ later,
        (Writer.ofScript ((List.range calls).map everyOther ++ later)).writeAll
            [⟨⟨.bits16, .big⟩, 258, by decide⟩, ⟨⟨.bits8, .little⟩, 7, by decide⟩] =
          (.ok (), ⟨later, [1, 2, 7]⟩)) ∧
      ∃ left rest,
        (Reader.ofScript [.data [1], .failure ⟨.interrupted, none⟩, .data [2, 7, 9]]).readAll
            [⟨.bits16, .little⟩, ⟨.bits8, .little⟩] = (.ok [513, 7], ⟨left, rest⟩) ∧
          left ++ rest.flatMap ReadEvent.bytes = [9] := by
  have hanswers : ∀ n, (everyOther n).Willing := by
    intro n
    rw [everyOther]
    split
    · rfl
    · exact Nat.succ_pos 8
  have hendless : ∀ n, ∃ m, n ≤ m ∧ (everyOther m).isAccept := by
    intro n
    refine ⟨2 * n + 1, by omega, ?_⟩
    rw [everyOther, if_neg (by omega)]
    rfl
  have hevents : ∀ event ∈ [.data [1], .failure ⟨.interrupted, none⟩, .data [2, 7, 9]], ReadEvent.Willing event := by
    simp [ReadEvent.Willing]
  obtain ⟨hwrite, hread⟩ := integers_survive_transport
    [⟨⟨⟨.bits16, .big⟩, 258, by decide⟩, .little⟩, ⟨⟨⟨.bits8, .little⟩, 7, by decide⟩, .little⟩] everyOther
    hanswers hendless _ hevents [9] rfl
  obtain ⟨left, rest, hall, hleft⟩ := hread []
  rw [List.append_nil, List.append_nil] at hall
  exact ⟨hwrite, left, rest, hall, hleft⟩

end Mishap
