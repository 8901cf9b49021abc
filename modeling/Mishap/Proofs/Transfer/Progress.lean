import Mishap.Proofs.Transfer.Transport

/-!
How far a transfer gets. An obstacle is an event that ends it for good: the end of the data, a call that takes nothing,
or a failure that is no interruption. Main statements: a transfer that needs no more than comes before the first obstacle
succeeds and makes no further call; any other one breaks off at that obstacle, after all that was before it; and
interruptions change nothing.
-/

namespace Mishap

/-- A failure stands in the way unless it asks to be called again. -/
def IoError.obstacle? (error : IoError) : Option IoError := if error.kind = .interrupted then none else some error

theorem IoError.obstacle?_eq_none_iff {error : IoError} : error.obstacle? = none ↔ error.kind = .interrupted := by
  simp [obstacle?]

theorem IoError.obstacle?_eq_some_iff {error found : IoError} :
    error.obstacle? = some found ↔ error.kind ≠ .interrupted ∧ error = found := by
  simp [obstacle?]

/-! ### Reading -/

namespace ReadEvent

/-- What an event breaks a transfer off with, if it does. -/
def obstacle? : ReadEvent → Option IoError
  | data [] => some (.ofKind .unexpectedEof)
  | data (_ :: _) => none
  | failure error => error.obstacle?

def isInterruption : ReadEvent → Bool
  | data _ => false
  | failure error => error.kind = .interrupted

variable {event : ReadEvent}

theorem willing_of_no_obstacle (h : event.obstacle? = none) : event.Willing := by
  cases event with
  | data chunk =>
    cases chunk with
    | nil => cases h
    | cons b rest => exact List.cons_ne_nil b rest
  | failure error => exact IoError.obstacle?_eq_none_iff.1 h

theorem of_isInterruption (h : event.isInterruption = true) : event.obstacle? = none ∧ event.bytes = [] := by
  cases event with
  | data chunk => cases h
  | failure error => exact ⟨IoError.obstacle?_eq_none_iff.2 (of_decide_eq_true h), rfl⟩

end ReadEvent

namespace Reader

/-- The bytes that come before the first obstacle. -/
def arriving (script : List ReadEvent) : List UInt8 :=
  (script.takeWhile (·.obstacle?.isNone)).flatMap ReadEvent.bytes

/-- What breaks a transfer off that needs more than is arriving. -/
def obstacle (script : List ReadEvent) : IoError :=
  (script.findSome? ReadEvent.obstacle?).getD (.ofKind .unexpectedEof)

section Script

variable {event : ReadEvent} {script : List ReadEvent}

theorem of_cons_passable (h : event.obstacle? = none) :
    arriving (event :: script) = event.bytes ++ arriving script ∧ obstacle (event :: script) = obstacle script := by
  simp [arriving, obstacle, h]

theorem of_cons_obstacle {error : IoError} (h : event.obstacle? = some error) :
    arriving (event :: script) = [] ∧ obstacle (event :: script) = error := by
  simp [arriving, obstacle, h]

/-- Interruptions neither bring bytes nor stand in the way. -/
theorem filter_interruptions (script : List ReadEvent) :
    arriving (script.filter (!·.isInterruption)) = arriving script ∧
      obstacle (script.filter (!·.isInterruption)) = obstacle script := by
  induction script with
  | nil => exact ⟨rfl, rfl⟩
  | cons event script ih =>
    cases hskipped : event.isInterruption with
    | true =>
      obtain ⟨hpassable, hbytes⟩ := ReadEvent.of_isInterruption hskipped
      rw [List.filter_cons_of_neg (by simp [hskipped]), (of_cons_passable hpassable).1, (of_cons_passable hpassable).2,
        hbytes]
      exact ih
    | false =>
      rw [List.filter_cons_of_pos (by simp [hskipped])]
      cases hobstacle : event.obstacle? with
      | some error => simp [of_cons_obstacle hobstacle]
      | none => simp [of_cons_passable hobstacle, ih]

end Script

variable {needed : Nat} {chunk : List UInt8} {script : List ReadEvent}

/-- A read that finds enough makes no call for the events behind it. -/
theorem fill_of_enough (h : needed ≤ (chunk ++ arriving script).length) :
    ∃ used left rest, script = used ++ rest ∧ left ++ arriving rest = (chunk ++ arriving script).drop needed ∧
      ∀ got later, fill needed got ⟨chunk, used ++ later⟩ =
        (.ok (got ++ (chunk ++ arriving script).take needed), ⟨left, later⟩) := by
  induction script generalizing needed chunk with
  | nil =>
    rw [show arriving [] = [] from rfl, List.append_nil] at h ⊢
    refine ⟨[], chunk.drop needed, [], rfl, List.append_nil _, fun got later => ?_⟩
    rw [List.nil_append, fill_chunk, Nat.sub_eq_zero_of_le h, fill_zero]
  | cons event script ih =>
    by_cases hchunk : needed ≤ chunk.length
    · refine ⟨[], chunk.drop needed, event :: script, rfl, (List.drop_append_of_le_length hchunk).symm, fun got later => ?_⟩
      rw [List.nil_append, fill_chunk, Nat.sub_eq_zero_of_le hchunk, fill_zero, List.take_append_of_le_length hchunk]
    have hless : chunk.length < needed := Nat.lt_of_not_le hchunk
    cases hobstacle : event.obstacle? with
    | some error =>
      rw [(of_cons_obstacle hobstacle).1, List.append_nil] at h
      exact absurd h hchunk
    | none =>
      rw [(of_cons_passable hobstacle).1] at h ⊢
      have hmore : needed - chunk.length ≤ (event.bytes ++ arriving script).length := by
        rw [List.length_append] at h
        omega
      obtain ⟨used, left, rest, rfl, hleft, hfill⟩ := ih hmore
      generalize event.bytes ++ arriving (used ++ rest) = more at hleft hfill ⊢
      refine ⟨event :: used, left, rest, rfl, ?_, fun got later => ?_⟩
      · rw [hleft, List.drop_append, List.drop_of_length_le (Nat.le_of_lt hless), List.nil_append]
      · rw [List.cons_append, fill_willing (ReadEvent.willing_of_no_obstacle hobstacle) got hless, hfill, List.take_append,
          List.take_of_length_le (Nat.le_of_lt hless), List.append_assoc]

/-- Asked for more than is left of a chunk, a read comes to the next event. -/
theorem fill_obstacle {event : ReadEvent} {error : IoError} (hevent : event.obstacle? = some error)
    (h : chunk.length < needed) (got : List UInt8) (script : List ReadEvent) :
    (fill needed got ⟨chunk, event :: script⟩).1 = .error (got.length + chunk.length, error) := by
  rw [fill_chunk, List.take_of_length_le (Nat.le_of_lt h), List.drop_of_length_le (Nat.le_of_lt h),
    fill_step (by omega), ← List.length_append]
  cases event with
  | data bytes =>
    cases bytes with
    | nil =>
      obtain rfl : IoError.ofKind .unexpectedEof = error := Option.some.inj hevent
      simp only [call, List.take_nil]
    | cons b rest => cases hevent
  | failure failed =>
    obtain ⟨hkind, rfl⟩ := IoError.obstacle?_eq_some_iff.1 hevent
    simp only [call, if_neg hkind]

/-- A read that finds too little fails with what is in its way. -/
theorem fill_of_too_little (h : (chunk ++ arriving script).length < needed) (got : List UInt8) :
    (fill needed got ⟨chunk, script⟩).1 =
      .error (got.length + (chunk ++ arriving script).length, obstacle script) := by
  induction script generalizing needed chunk got with
  | nil =>
    rw [show arriving [] = [] from rfl, List.append_nil] at h ⊢
    rw [fill_chunk, List.take_of_length_le (Nat.le_of_lt h), List.drop_of_length_le (Nat.le_of_lt h),
      fill_step (by omega), call, List.length_append]
    rfl
  | cons event script ih =>
    cases hobstacle : event.obstacle? with
    | some error =>
      rw [(of_cons_obstacle hobstacle).1, List.append_nil] at h ⊢
      rw [fill_obstacle hobstacle h, (of_cons_obstacle hobstacle).2]
    | none =>
      rw [(of_cons_passable hobstacle).1] at h ⊢
      rw [List.length_append] at h
      rw [fill_willing (ReadEvent.willing_of_no_obstacle hobstacle) got (by omega), ih (by omega),
        (of_cons_passable hobstacle).2]
      simp only [List.length_append, Nat.add_assoc]

variable {format : IntegerFormat}

theorem read_of_enough (h : format.size ≤ (arriving script).length) :
    ∃ used left rest, script = used ++ rest ∧ left ++ arriving rest = (arriving script).drop format.size ∧
      ∀ later, (ofScript (used ++ later)).read format =
        (.ok (format.decode ((arriving script).take format.size)), ⟨left, later⟩) := by
  have hbuffered : format.size ≤ ([] ++ arriving script).length := h
  obtain ⟨used, left, rest, hscript, hleft, hfill⟩ := fill_of_enough hbuffered
  refine ⟨used, left, rest, hscript, hleft, fun later => ?_⟩
  rw [read, ofScript, hfill, List.nil_append, List.nil_append]

theorem read_of_too_little (h : (arriving script).length < format.size) :
    ((ofScript script).read format).1 =
      .error ⟨.reading, (arriving script).length, format.size, obstacle script⟩ := by
  have hbuffered : ([] ++ arriving script).length < format.size := h
  have hfill := fill_of_too_little hbuffered []
  rw [List.length_nil, Nat.zero_add, List.nil_append] at hfill
  rw [read, ofScript]
  rcases hresult : fill format.size [] ⟨[], script⟩ with ⟨result, next⟩
  rw [hresult] at hfill
  obtain rfl : result = .error ((arriving script).length, obstacle script) := hfill
  rfl

/-- What a read gives is decided by the bytes and the obstacle. -/
theorem fst_read (format : IntegerFormat) (script : List ReadEvent) :
    ((ofScript script).read format).1 =
      if format.size ≤ (arriving script).length then .ok (format.decode ((arriving script).take format.size))
      else .error ⟨.reading, (arriving script).length, format.size, obstacle script⟩ := by
  split
  · next henough =>
    obtain ⟨used, left, rest, hscript, -, hread⟩ := read_of_enough henough
    have hall := hread rest
    rw [← hscript] at hall
    rw [hall]
  · next hless => exact read_of_too_little (Nat.lt_of_not_le hless)

theorem fst_read_filter (format : IntegerFormat) (script : List ReadEvent) :
    ((ofScript (script.filter (!·.isInterruption))).read format).1 = ((ofScript script).read format).1 := by
  obtain ⟨harriving, hobstacle⟩ := filter_interruptions script
  rw [fst_read, fst_read, harriving, hobstacle]

end Reader

/-! ### Writing -/

namespace WriteEvent

/-- What an event breaks a transfer off with, if it does. -/
def obstacle? : WriteEvent → Option IoError
  | accept 0 => some (.ofKind .writeZero)
  | accept (_ + 1) => none
  | failure error => error.obstacle?

def isInterruption : WriteEvent → Bool
  | accept _ => false
  | failure error => error.kind = .interrupted

/-- The bytes that an event has room for. -/
def most : WriteEvent → Nat
  | accept most => most
  | failure _ => 0

variable {event : WriteEvent}

theorem willing_of_no_obstacle (h : event.obstacle? = none) : event.Willing := by
  cases event with
  | accept most =>
    cases most with
    | zero => cases h
    | succ most => exact Nat.succ_pos most
  | failure error => exact IoError.obstacle?_eq_none_iff.1 h

theorem of_isInterruption (h : event.isInterruption = true) : event.obstacle? = none ∧ event.most = 0 := by
  cases event with
  | accept most => cases h
  | failure error => exact ⟨IoError.obstacle?_eq_none_iff.2 (of_decide_eq_true h), rfl⟩

end WriteEvent

namespace Writer

/-- The bytes that there is room for before the first obstacle. -/
def room (script : List WriteEvent) : Nat :=
  (script.takeWhile (·.obstacle?.isNone)).foldr (fun event rest => event.most + rest) 0

/-- What breaks a transfer off that there is too little room for. -/
def obstacle (script : List WriteEvent) : IoError :=
  (script.findSome? WriteEvent.obstacle?).getD (.ofKind .writeZero)

section Script

variable {event : WriteEvent} {script : List WriteEvent}

theorem of_cons_passable (h : event.obstacle? = none) :
    room (event :: script) = event.most + room script ∧ obstacle (event :: script) = obstacle script := by
  simp [room, obstacle, h]

theorem of_cons_obstacle {error : IoError} (h : event.obstacle? = some error) :
    room (event :: script) = 0 ∧ obstacle (event :: script) = error := by
  simp [room, obstacle, h]

/-- Interruptions neither make room nor stand in the way. -/
theorem filter_interruptions (script : List WriteEvent) :
    room (script.filter (!·.isInterruption)) = room script ∧
      obstacle (script.filter (!·.isInterruption)) = obstacle script := by
  induction script with
  | nil => exact ⟨rfl, rfl⟩
  | cons event script ih =>
    cases hskipped : event.isInterruption with
    | true =>
      obtain ⟨hpassable, hmost⟩ := WriteEvent.of_isInterruption hskipped
      rw [List.filter_cons_of_neg (by simp [hskipped]), (of_cons_passable hpassable).1, (of_cons_passable hpassable).2,
        hmost, Nat.zero_add]
      exact ih
    | false =>
      rw [List.filter_cons_of_pos (by simp [hskipped])]
      cases hobstacle : event.obstacle? with
      | some error => simp [of_cons_obstacle hobstacle]
      | none => simp [of_cons_passable hobstacle, ih]

end Script

variable {offered : List UInt8} {script : List WriteEvent}

/-- What is offered to a willing event is taken as far as there is room for it, which is not at all at an interruption. -/
theorem drain_willing {event : WriteEvent} (hevent : event.Willing) (done : Nat) (hoffered : offered ≠ [])
    (script : List WriteEvent) (written : List UInt8) :
    drain done offered ⟨event :: script, written⟩ =
      drain (done + min event.most offered.length) (offered.drop event.most)
        ⟨script, written ++ offered.take event.most⟩ := by
  cases event with
  | accept most => exact drain_accept hevent done hoffered script written
  | failure error =>
    rw [drain_interrupted hevent done hoffered]
    simp [WriteEvent.most]

theorem drain_obstacle {event : WriteEvent} {error : IoError} (hevent : event.obstacle? = some error) (done : Nat)
    (hoffered : offered ≠ []) (script : List WriteEvent) (written : List UInt8) :
    drain done offered ⟨event :: script, written⟩ = (.error (done, error), ⟨script, written⟩) := by
  rw [drain_step done hoffered]
  cases event with
  | accept most =>
    cases most with
    | zero =>
      obtain rfl := Option.some.inj hevent
      simp [call]
    | succ most => cases hevent
  | failure failed =>
    obtain ⟨hkind, rfl⟩ := IoError.obstacle?_eq_some_iff.1 hevent
    simp only [call, if_neg hkind]

/-- A write that finds room makes no call for the answers behind it. -/
theorem drain_of_room (h : offered.length ≤ room script) :
    ∃ used rest, script = used ++ rest ∧ ∀ done later written,
      drain done offered ⟨used ++ later, written⟩ = (.ok (), ⟨later, written ++ offered⟩) := by
  induction script generalizing offered with
  | nil =>
    obtain rfl : offered = [] := List.length_eq_zero_iff.1 (Nat.le_zero.1 h)
    refine ⟨[], [], rfl, fun done later written => ?_⟩
    rw [drain_nil, List.append_nil, List.nil_append]
  | cons event script ih =>
    by_cases hoffered : offered = []
    · subst hoffered
      refine ⟨[], event :: script, rfl, fun done later written => ?_⟩
      rw [drain_nil, List.append_nil, List.nil_append]
    cases hobstacle : event.obstacle? with
    | some error =>
      rw [(of_cons_obstacle hobstacle).1] at h
      exact absurd (List.length_eq_zero_iff.1 (Nat.le_zero.1 h)) hoffered
    | none =>
      rw [(of_cons_passable hobstacle).1] at h
      have hmore : (offered.drop event.most).length ≤ room script := by
        rw [List.length_drop]
        omega
      obtain ⟨used, rest, rfl, hdrain⟩ := ih hmore
      refine ⟨event :: used, rest, rfl, fun done later written => ?_⟩
      rw [List.cons_append, drain_willing (WriteEvent.willing_of_no_obstacle hobstacle) done hoffered, hdrain,
        List.append_assoc, List.take_append_drop]

/-- A write that finds too little room fails with what is in its way, after the bytes that there was room for. -/
theorem drain_of_too_little (h : room script < offered.length) (done : Nat) (written : List UInt8) :
    ∃ rest, drain done offered ⟨script, written⟩ =
      (.error (done + room script, obstacle script), ⟨rest, written ++ offered.take (room script)⟩) := by
  have hoffered : offered ≠ [] := List.length_pos_iff.1 (Nat.lt_of_le_of_lt (Nat.zero_le _) h)
  induction script generalizing offered done written with
  | nil =>
    refine ⟨[], ?_⟩
    rw [drain_step done hoffered]
    simp [call, room, obstacle]
  | cons event script ih =>
    cases hobstacle : event.obstacle? with
    | some error =>
      rw [(of_cons_obstacle hobstacle).1, (of_cons_obstacle hobstacle).2]
      exact ⟨script, by simp [drain_obstacle hobstacle done hoffered]⟩
    | none =>
      rw [(of_cons_passable hobstacle).1] at h ⊢
      have hmore : room script < (offered.drop event.most).length := by
        rw [List.length_drop]
        omega
      obtain ⟨rest, hdrain⟩ := ih hmore (done + min event.most offered.length) (written ++ offered.take event.most)
        (List.length_pos_iff.1 (Nat.lt_of_le_of_lt (Nat.zero_le _) hmore))
      refine ⟨rest, ?_⟩
      rw [drain_willing (WriteEvent.willing_of_no_obstacle hobstacle) done hoffered, hdrain,
        (of_cons_passable hobstacle).2, Nat.min_eq_left (by omega), List.append_assoc, Nat.add_assoc, List.take_add]

variable {format : IntegerFormat} {n : Nat}

theorem write_of_room (h : format.size ≤ room script) :
    ∃ used rest, script = used ++ rest ∧
      ∀ later, (ofScript (used ++ later)).write format n = (.ok (), ⟨later, format.encode n⟩) := by
  have hroom : (format.encode n).length ≤ room script := by rwa [format.length_encode]
  obtain ⟨used, rest, hscript, hdrain⟩ := drain_of_room hroom
  refine ⟨used, rest, hscript, fun later => ?_⟩
  rw [write, ofScript, hdrain, List.nil_append]

theorem write_of_too_little (h : room script < format.size) :
    ∃ rest, (ofScript script).write format n =
      (.error ⟨.writing, room script, format.size, obstacle script⟩, ⟨rest, (format.encode n).take (room script)⟩) := by
  have hroom : room script < (format.encode n).length := by rwa [format.length_encode]
  obtain ⟨rest, hdrain⟩ := drain_of_too_little hroom 0 []
  rw [Nat.zero_add, List.nil_append] at hdrain
  refine ⟨rest, ?_⟩
  rw [write, ofScript, hdrain]

/-- What a write gives is decided by the room and the obstacle. -/
theorem fst_write (format : IntegerFormat) (n : Nat) (script : List WriteEvent) :
    ((ofScript script).write format n).1 =
      if format.size ≤ room script then .ok () else .error ⟨.writing, room script, format.size, obstacle script⟩ := by
  split
  · next henough =>
    obtain ⟨used, rest, hscript, hwrite⟩ := write_of_room (n := n) henough
    have hall := hwrite rest
    rw [← hscript] at hall
    rw [hall]
  · next hless =>
    obtain ⟨rest, hwrite⟩ := write_of_too_little (n := n) (Nat.lt_of_not_le hless)
    rw [hwrite]

theorem fst_write_filter (format : IntegerFormat) (n : Nat) (script : List WriteEvent) :
    ((ofScript (script.filter (!·.isInterruption))).write format n).1 = ((ofScript script).write format n).1 := by
  obtain ⟨hroom, hobstacle⟩ := filter_interruptions script
  rw [fst_write, fst_write, hroom, hobstacle]

end Writer

end Mishap
