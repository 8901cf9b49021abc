import Mathlib.Data.List.Nodup
import Mishap.Template.Cache

/-!
The cache of templates shared by clients that act in any order, each asking for one template after another. Main
statement: whatever the others do between two steps of a client, the template it gets is the one it would have read
itself, and the cache stays within its limit.
-/

namespace Mishap

namespace TemplateCache

/-- Each template is the one its format string reads as, none is kept twice, and there are not too many. -/
structure Sound (cache : TemplateCache) : Prop where
  fresh : ∀ entry ∈ cache.entries, entry.2 = .ofFormat entry.1
  once : (cache.entries.map Prod.fst).Nodup
  within : cache.size ≤ limit

theorem sound_empty : Sound empty := ⟨by simp [empty], by simp [empty], Nat.zero_le _⟩

theorem mem_of_lookup? {cache : TemplateCache} {format : String} {t : Template}
    (h : cache.lookup? format = some t) : (format, t) ∈ cache.entries := by
  obtain ⟨before, after, hentries, -⟩ := List.lookup_eq_some_iff.1 h
  simp [hentries]

theorem not_mem_of_lookup? {cache : TemplateCache} {format : String} (h : cache.lookup? format = none) :
    format ∉ cache.entries.map Prod.fst := by
  intro hmem
  obtain ⟨entry, hentry, rfl⟩ := List.mem_map.1 hmem
  simpa using List.lookup_eq_none_iff.1 h entry hentry

theorem Sound.of_lookup? {cache : TemplateCache} (hsound : cache.Sound) {format : String} {t : Template}
    (h : cache.lookup? format = some t) : t = .ofFormat format :=
  hsound.fresh _ (mem_of_lookup? h)

/-- The cache as a template is stored in it: emptied if it is full. -/
def room (cache : TemplateCache) : TemplateCache := if limit ≤ cache.size then empty else cache

theorem Sound.room {cache : TemplateCache} (hsound : cache.Sound) : cache.room.Sound := by
  unfold TemplateCache.room
  split
  · exact sound_empty
  · exact hsound

theorem room_size (cache : TemplateCache) : cache.room.size < limit := by
  unfold TemplateCache.room
  split
  · decide
  · exact Nat.lt_of_not_le ‹_›

theorem store_eq (cache : TemplateCache) (format : String) (t : Template) :
    cache.store format t =
      match cache.room.lookup? format with
      | some kept => (kept, cache.room)
      | none => (t, ⟨(format, t) :: cache.room.entries⟩) := rfl

/-- What is kept is the template of the format string, whether it is the one stored or an earlier one. -/
theorem Sound.store {cache : TemplateCache} (hsound : cache.Sound) (format : String) :
    (cache.store format (.ofFormat format)).1 = .ofFormat format ∧
      (cache.store format (.ofFormat format)).2.Sound := by
  rw [store_eq]
  cases hlookup : cache.room.lookup? format with
  | some kept => exact ⟨hsound.room.of_lookup? hlookup, hsound.room⟩
  | none =>
    refine ⟨rfl, ?_, ?_, cache.room_size⟩
    · simpa using hsound.room.fresh
    · exact List.nodup_cons.2 ⟨not_mem_of_lookup? hlookup, hsound.room.once⟩

theorem Sound.fetch {cache : TemplateCache} (hsound : cache.Sound) (format : String) :
    (cache.fetch format).1 = .ofFormat format ∧ (cache.fetch format).2.Sound := by
  unfold TemplateCache.fetch
  cases hlookup : cache.lookup? format with
  | some kept => exact ⟨hsound.of_lookup? hlookup, hsound⟩
  | none => exact hsound.store format

end TemplateCache

/-- How far a call for a template has come. -/
inductive CallPhase
  | begun
  | missed
  | read (t : Template)

/-- The steps that a call takes at most from here. -/
def CallPhase.left : CallPhase → Nat
  | begun => 3
  | missed => 2
  | read _ => 1

/-- A call for the template of a format string. -/
structure TemplateCall where
  format : String
  phase : CallPhase

/-- A call that is over, with the client that made it and what it got. -/
structure TemplateReply (ι : Type) where
  client : ι
  format : String
  template : Template

/-- A cache with the calls under way, and the replies so far, the last one first. -/
structure SharedCache (ι : Type) where
  cache : TemplateCache
  calls : ι → Option TemplateCall
  replies : List (TemplateReply ι)

/-- A client that has no call under way begins one, or one that has goes on with it. -/
inductive CacheMove (ι : Type)
  | ask (client : ι) (format : String)
  | advance (client : ι)
deriving DecidableEq

namespace SharedCache

variable {ι : Type} [DecidableEq ι]

def start : SharedCache ι := ⟨.empty, fun _ => none, []⟩

def put (s : SharedCache ι) (i : ι) (call : TemplateCall) : SharedCache ι :=
  { s with calls := Function.update s.calls i (some call) }

/-- The call of a client ends, leaving a cache. -/
def finish (s : SharedCache ι) (i : ι) (format : String) (t : Template) (cache : TemplateCache) : SharedCache ι :=
  ⟨cache, Function.update s.calls i none, ⟨i, format, t⟩ :: s.replies⟩

/-- One step of a call: the cache is looked up under its read lock; where it has nothing, the template is read with no
lock; then the cache is written under its write lock. -/
def proceed (s : SharedCache ι) (i : ι) (call : TemplateCall) : SharedCache ι :=
  match call.phase with
  | .begun =>
    match s.cache.lookup? call.format with
    | some kept => s.finish i call.format kept s.cache
    | none => s.put i ⟨call.format, .missed⟩
  | .missed => s.put i ⟨call.format, .read (.ofFormat call.format)⟩
  | .read t => s.finish i call.format (s.cache.store call.format t).1 (s.cache.store call.format t).2

/-- A move that its client cannot make changes nothing. -/
def step (s : SharedCache ι) : CacheMove ι → SharedCache ι
  | .ask i format => if (s.calls i).isSome then s else s.put i ⟨format, .begun⟩
  | .advance i =>
    match s.calls i with
    | some call => s.proceed i call
    | none => s

def run (s : SharedCache ι) (moves : List (CacheMove ι)) : SharedCache ι := moves.foldl step s

/-- No client can tell the cache from reading its template itself. -/
structure Transparent (s : SharedCache ι) : Prop where
  sound : s.cache.Sound
  pending : ∀ i format t, s.calls i = some ⟨format, .read t⟩ → t = .ofFormat format
  replied : ∀ reply ∈ s.replies, reply.template = .ofFormat reply.format

omit [DecidableEq ι] in
theorem transparent_start : (start : SharedCache ι).Transparent :=
  ⟨TemplateCache.sound_empty, by simp [start], by simp [start]⟩

theorem Transparent.put {s : SharedCache ι} (h : s.Transparent) (i : ι) (call : TemplateCall)
    (hcall : ∀ t, call.phase = .read t → t = .ofFormat call.format) : (s.put i call).Transparent := by
  refine ⟨h.sound, fun j format t hj => ?_, h.replied⟩
  by_cases hij : j = i
  · subst hij
    obtain rfl : call = ⟨format, .read t⟩ := by simpa [SharedCache.put] using hj
    exact hcall t rfl
  · exact h.pending j format t (by simpa [SharedCache.put, hij] using hj)

theorem Transparent.finish {s : SharedCache ι} (h : s.Transparent) (i : ι) {format : String} {t : Template}
    {cache : TemplateCache} (hnew : t = .ofFormat format ∧ cache.Sound) :
    (s.finish i format t cache).Transparent := by
  refine ⟨hnew.2, fun j wanted other hj => ?_, ?_⟩
  · by_cases hij : j = i
    · simp [SharedCache.finish, hij] at hj
    · exact h.pending j wanted other (by simpa [SharedCache.finish, hij] using hj)
  · exact List.forall_mem_cons.2 ⟨hnew.1, h.replied⟩

theorem Transparent.proceed {s : SharedCache ι} (h : s.Transparent) {i : ι} {call : TemplateCall}
    (hcall : s.calls i = some call) : (s.proceed i call).Transparent := by
  obtain ⟨format, phase⟩ := call
  unfold SharedCache.proceed
  cases phase with
  | begun =>
    cases hlookup : s.cache.lookup? format with
    | some kept =>
      simp only
      exact h.finish i ⟨h.sound.of_lookup? hlookup, h.sound⟩
    | none =>
      simp only
      exact h.put i _ (by simp)
  | missed => exact h.put i _ (by simp)
  | read t =>
    -- The cache is not the one that was looked up any more, but it is a sound one.
    obtain rfl := h.pending i format t hcall
    exact h.finish i (h.sound.store format)

theorem Transparent.step {s : SharedCache ι} (h : s.Transparent) (move : CacheMove ι) :
    (s.step move).Transparent := by
  cases move with
  | ask i format =>
    simp only [SharedCache.step]
    split
    · exact h
    · exact h.put i _ (by simp)
  | advance i =>
    simp only [SharedCache.step]
    split
    · exact h.proceed ‹_›
    · exact h

theorem Transparent.run {s : SharedCache ι} (h : s.Transparent) (moves : List (CacheMove ι)) :
    (s.run moves).Transparent := by
  induction moves generalizing s with
  | nil => exact h
  | cons move rest ih => exact ih (h.step move)

/-! ### Progress -/

theorem run_append (s : SharedCache ι) (earlier later : List (CacheMove ι)) :
    s.run (earlier ++ later) = (s.run earlier).run later := List.foldl_append

/-- A step of a call either ends it with a reply to its client or leaves it fewer steps. -/
theorem proceed_cases (s : SharedCache ι) (i : ι) (call : TemplateCall) :
    (∃ t, (s.proceed i call).replies = ⟨i, call.format, t⟩ :: s.replies) ∨
      (s.proceed i call).replies = s.replies ∧ ∃ phase : CallPhase, phase.left < call.phase.left ∧
        (s.proceed i call).calls i = some ⟨call.format, phase⟩ := by
  obtain ⟨format, phase⟩ := call
  unfold proceed
  cases phase with
  | begun =>
    cases hlookup : s.cache.lookup? format with
    | some kept => exact .inl ⟨kept, by simp [finish]⟩
    | none => exact .inr ⟨rfl, .missed, by simp [CallPhase.left], by simp [put]⟩
  | missed => exact .inr ⟨rfl, .read (.ofFormat format), by simp [CallPhase.left], by simp [put]⟩
  | read t => exact .inl ⟨_, rfl⟩

/-- The steps of a call are its client's. -/
theorem proceed_calls_of_ne (s : SharedCache ι) {i j : ι} (hne : i ≠ j) (call : TemplateCall) :
    (s.proceed j call).calls i = s.calls i := by
  unfold proceed
  split
  · split <;> simp [finish, put, hne]
  · simp [put, hne]
  · simp [finish, hne]

theorem replies_suffix_proceed (s : SharedCache ι) (i : ι) (call : TemplateCall) :
    s.replies <:+ (s.proceed i call).replies := by
  obtain ⟨t, h⟩ | ⟨h, -⟩ := s.proceed_cases i call
  · rw [h]
    exact List.suffix_cons _ _
  · exact h ▸ List.suffix_rfl

/-- No reply is taken back. -/
theorem replies_suffix_step (s : SharedCache ι) (move : CacheMove ι) : s.replies <:+ (s.step move).replies := by
  cases move with
  | ask i format =>
    simp only [step]
    split <;> exact List.suffix_rfl
  | advance i =>
    simp only [step]
    split
    · exact s.replies_suffix_proceed i _
    · exact List.suffix_rfl

theorem replies_suffix_run (s : SharedCache ι) (moves : List (CacheMove ι)) :
    s.replies <:+ (s.run moves).replies := by
  induction moves generalizing s with
  | nil => exact List.suffix_rfl
  | cons move rest ih => exact (s.replies_suffix_step move).trans (ih _)

/-- A call under way is not touched by the moves that are not steps of it. -/
theorem step_calls_of_ne {s : SharedCache ι} {i : ι} {call : TemplateCall} (hcall : s.calls i = some call)
    {move : CacheMove ι} (hmove : move ≠ .advance i) : (s.step move).calls i = some call := by
  cases move with
  | ask j format =>
    simp only [step]
    split
    · exact hcall
    · have hne : i ≠ j := by
        rintro rfl
        simp_all
      simpa [put, hne] using hcall
  | advance j =>
    have hne : i ≠ j := by
      rintro rfl
      exact hmove rfl
    simp only [step]
    split
    · rw [s.proceed_calls_of_ne hne, hcall]
    · exact hcall

/-- A client that goes on with its call often enough gets a reply to it, whatever the others do between. The induction
is on the moves; what it has left to do is bounded by the steps that its call still takes. -/
theorem exists_reply {s : SharedCache ι} {i : ι} {format : String} {phase : CallPhase}
    (hcall : s.calls i = some ⟨format, phase⟩) (moves : List (CacheMove ι))
    (hmoves : phase.left ≤ moves.count (.advance i)) :
    ∃ later t, (s.run moves).replies = later ++ s.replies ∧ ⟨i, format, t⟩ ∈ later := by
  induction moves generalizing s phase with
  | nil => exact absurd hmoves (by cases phase <;> simp [CallPhase.left])
  | cons move rest ih =>
    by_cases hmove : move = .advance i
    · subst hmove
      have hrun : s.run (.advance i :: rest) = (s.proceed i ⟨format, phase⟩).run rest := by simp [run, step, hcall]
      rw [List.count_cons_self] at hmoves
      rw [hrun]
      obtain ⟨t, hreply⟩ | ⟨hreplies, next, hleft, hnext⟩ := s.proceed_cases i ⟨format, phase⟩
      · obtain ⟨more, hmore⟩ := (s.proceed i ⟨format, phase⟩).replies_suffix_run rest
        rw [hreply] at hmore
        exact ⟨more ++ [⟨i, format, t⟩], t, by simp [← hmore], by simp⟩
      · rw [← hreplies]
        exact ih hnext (Nat.le_of_lt_succ (Nat.lt_of_lt_of_le hleft hmoves))
    · obtain ⟨later, t, hlater, hreply⟩ := ih (step_calls_of_ne hcall hmove)
        (by rwa [List.count_cons_of_ne hmove] at hmoves)
      obtain ⟨more, hmore⟩ := s.replies_suffix_step move
      exact ⟨later ++ more, t, by rw [List.append_assoc, hmore]; exact hlater, List.mem_append_left _ hreply⟩

/-- A client that is not interfered with gets what asking the cache for the template gives. -/
theorem run_alone {s : SharedCache ι} {i : ι} (hidle : s.calls i = none) (format : String) :
    s.run (.ask i format :: List.replicate 3 (.advance i)) =
      s.finish i format (s.cache.fetch format).1 (s.cache.fetch format).2 := by
  unfold TemplateCache.fetch
  cases hlookup : s.cache.lookup? format with
  | some kept => simp [run, step, proceed, put, finish, hidle, hlookup, List.replicate]
  | none => simp [run, step, proceed, put, finish, hidle, hlookup, List.replicate]

/-- The clients' view of the cache: every reply is the template that its format string reads as, so it verifies and
renders like one that was read just now, a call ends with such a reply once its client has gone on with it three times,
and what is kept stays sound all the while. -/
theorem replies_are_fresh (moves : List (CacheMove ι)) :
    (∀ reply ∈ (start.run moves).replies, reply.template = .ofFormat reply.format ∧
      (∀ level setting,
        reply.template.verify level setting = (Template.ofFormat reply.format).verify level setting) ∧
      ∀ own passed cause,
        reply.template.render own passed cause = (Template.ofFormat reply.format).render own passed cause) ∧
    (∀ entry ∈ (start.run moves).cache.entries, entry.2 = .ofFormat entry.1) ∧
    ((start.run moves).cache.entries.map Prod.fst).Nodup ∧
    (start.run moves).cache.size ≤ TemplateCache.limit ∧
    ∀ (i : ι) (format : String) (more : List (CacheMove ι)), (start.run moves).calls i = none →
      3 ≤ more.count (.advance i) →
      ∃ later, (start.run (moves ++ .ask i format :: more)).replies = later ++ (start.run moves).replies ∧
        ⟨i, format, .ofFormat format⟩ ∈ later := by
  have htransparent := (transparent_start (ι := ι)).run moves
  refine ⟨fun reply hreply => ?_, htransparent.sound.fresh, htransparent.sound.once, htransparent.sound.within,
    fun i format more hidle hmore => ?_⟩
  · have hfresh := htransparent.replied reply hreply
    exact ⟨hfresh, fun level setting => by rw [hfresh], fun own passed cause => by rw [hfresh]⟩
  · have hask : (start.run moves).step (.ask i format) = (start.run moves).put i ⟨format, .begun⟩ := by
      simp [step, hidle]
    have hrun : start.run (moves ++ .ask i format :: more) =
        ((start.run moves).put i ⟨format, .begun⟩).run more := by
      rw [run_append, ← hask]
      rfl
    have hbegun : ((start.run moves).put i ⟨format, .begun⟩).calls i = some ⟨format, .begun⟩ := by simp [put]
    rw [hrun]
    obtain ⟨later, t, hlater, hreply⟩ := exists_reply hbegun more hmore
    have hlast := ((htransparent.put i ⟨format, .begun⟩ (by simp)).run more).replied ⟨i, format, t⟩
      (by rw [hlater]; exact List.mem_append_left _ hreply)
    exact ⟨later, hlater, hlast ▸ hreply⟩

/-- Two clients that miss each other's template both read it; the second gets the one of the first. -/
theorem replies_are_fresh_race :
    let race : List (CacheMove Bool) := [.ask false "%{A}", .ask true "%{A}", .advance true, .advance false,
      .advance false, .advance true, .advance false, .advance true]
    (start.run race).replies.map TemplateReply.client = [true, false] ∧
      (start.run race).cache.entries.map Prod.fst = ["%{A}"] ∧
      (∀ reply ∈ (start.run race).replies, reply.template = .ofFormat reply.format) ∧
      ∃ later, (start.run (race ++ .ask true "" :: List.replicate 3 (.advance true))).replies =
        later ++ (start.run race).replies ∧ ⟨true, "", .ofFormat ""⟩ ∈ later := by
  intro race
  obtain ⟨hreplies, -, -, -, hprogress⟩ := replies_are_fresh race
  exact ⟨by decide, by decide, fun reply hreply => (hreplies reply hreply).1,
    hprogress true "" (List.replicate 3 (.advance true)) rfl (by decide)⟩

end SharedCache

end Mishap
