/-
What queries see in a log that comes from the disk.  A query sees of a log only its lines
(`Query.sees_eq`), and these come back at the times that were stored.  So a log that was put is seen
by every query as it was served, from whichever place it is loaded, unless one of its lines lies in
a leap second (`Store.LastPut.sees_loaded`).  Such a line has moved to the second after, and where a
period ends between the two it is missed (`Store.reloaded_leapSecond`).
-/
import Scrollback.Proofs.Store.LastPut
import Scrollback.Proofs.Store.Refusal
import Scrollback.Proofs.Time.Enumeration
import Scrollback.Query.Basic

namespace Scrollback

/-- A line as it is shown: the text of its time, its author and its message. -/
def Line.shown (l : Line) : String × String × String :=
  (String.ofList l.time.text, l.author, l.message)

/-- A line of its own that says this. -/
def Remark.line (r : Remark) : Line :=
  .make r.time r.author r.message

theorem Log.lineAt_eq (log : Log) (l : LineSpan) : log.lineAt l = (log.remarkAt l).line := rfl

/-- Nothing is in every message. -/
theorem Matcher.matchesText_nothing (message : String) :
    (ofText "" false).matchesText message = true := by
  show isWithin [] message.toList = true
  cases message.toList <;> rfl

namespace Query

variable {q : Query} {log back : Log}

/-- What a query sees of some remarks: the occurrences in the messages of those within its period, and
the lines of those of them whose messages match. -/
def seesIn (q : Query) (remarks : List Remark) : Nat × List (String × String × String) :=
  let inside := remarks.filter fun r => q.period.contains r.time
  (total (inside.map fun r => q.matcher.count r.message),
    (inside.filter fun r => q.matcher.matchesText r.message).map fun r => r.line.shown)

/-- What a query sees in a log: what the log adds to a count, and to the lines found. -/
def sees (q : Query) (log : Log) : Nat × List (String × String × String) :=
  (q.countPart log, (q.linePart log).map Line.shown)

theorem countPart_eq (q : Query) (log : Log) :
    q.countPart log = total ((log.remarks.filter fun r => q.period.contains r.time).map
      fun r => q.matcher.count r.message) := by
  simp [countPart, linesOf, Log.remarks, Log.remarkAt, List.filter_map, Function.comp_def]

theorem linePart_eq (q : Query) (log : Log) :
    q.linePart log = ((log.remarks.filter fun r => q.period.contains r.time).filter
      fun r => q.matcher.matchesText r.message).map Remark.line := by
  simp [linePart, linesOf, Log.remarks, Log.remarkAt, Log.lineAt_eq, List.filter_map,
    Function.comp_def]

/-- A query sees nothing of a log but what its lines say. -/
theorem sees_eq (q : Query) (log : Log) : q.sees log = q.seesIn log.remarks := by
  rw [sees, countPart_eq, linePart_eq, List.map_map]
  rfl

/-- What is read back is seen at the times that were stored. -/
theorem sees_of_readBack (h : log.ReadBack back) (q : Query) :
    q.sees back = q.seesIn (log.remarks.map Remark.restamped) := by
  rw [sees_eq, h.lines]

theorem restamped_of_whole (whole : ∀ l ∈ log.lines, ¬l.time.IsLeap) :
    log.remarks.map Remark.restamped = log.remarks := by
  rw [Log.remarks, List.map_map]
  refine List.map_congr_left fun l hl => ?_
  have same := Instant.ofMillis_epochMillis.mpr (whole l (Array.mem_def.mpr hl))
  simp only [Function.comp_apply, Remark.restamped, Log.remarkAt, same]

/-- A query for all lines before the end of a leap second. -/
def before (t : Instant) (h : t.Representable) : Query where
  matcher := .ofText "" false
  channels := []
  users := .everyone
  period := ⟨Instant.minMillis, t.epochMillis, h.1, Int.le_refl _, h.2⟩
  service := .gempir

/-- All lines of the period are found. -/
theorem length_seesIn_before {t : Instant} (h : t.Representable) (lines : List Remark) :
    ((before t h).seesIn lines).2.length =
      (lines.filter fun l => (before t h).period.contains l.time).length := by
  have all : ∀ r : Remark, (before t h).matcher.matchesText r.message = true :=
    fun r => Matcher.matchesText_nothing r.message
  simp only [seesIn, all, List.filter_true, List.length_map]

/-- The leap second is not among the lines that are read back, and there is no line instead. -/
theorem sees_before_ne {lines : List Remark} {l : Remark} (h : l.time.Representable) (hl : l ∈ lines)
    (leap : l.time.IsLeap) (clock : ∀ l ∈ lines, l.time.OnClock) :
    (before l.time h).seesIn (lines.map Remark.restamped) ≠ (before l.time h).seesIn lines := by
  -- only lines that were in the period are still in it
  have fewer : ∀ k ∈ lines, (before l.time h).period.contains k.restamped.time = true →
      (before l.time h).period.contains k.time = true := by
    intro k hk inside
    obtain ⟨-, early⟩ := Period.contains_iff.mp inside
    exact Period.contains_iff.mpr ⟨(clock k hk).min_le, Instant.lt_of_restamped_lt early⟩
  have inside : (before l.time h).period.contains l.time = true :=
    Period.contains_iff.mpr ⟨(clock l hl).min_le, leap.lt_restamped⟩
  have outside : (before l.time h).period.contains l.restamped.time = false := by
    rw [Bool.eq_false_iff, ne_eq, Period.contains_iff]
    exact fun both => Instant.lt_irrefl _ both.2
  intro same
  have length := congrArg (fun seen => seen.2.length) same
  simp only [length_seesIn_before] at length
  rw [List.filter_map, List.length_map] at length
  have narrowed : lines.filter ((fun k => (before l.time h).period.contains k.time) ∘
      Remark.restamped) =
      (lines.filter fun k => (before l.time h).period.contains k.time).filter
        fun k => (before l.time h).period.contains k.restamped.time := by
    rw [List.filter_filter]
    refine List.filter_congr fun k hk => ?_
    have := fewer k hk
    simp only [Function.comp_apply]
    rcases kept : (before l.time h).period.contains k.restamped.time
    · rfl
    · rw [this kept]
      rfl
  rw [narrowed, List.length_filter_eq_length_iff] at length
  have := length l (List.mem_filter.mpr ⟨hl, inside⟩)
  rw [outside] at this
  cases this

end Query

namespace Store

variable {s : Store} {d : Disk} {log : Log} {id : LogId} {service : Service} {body : String}

/-- A log that a service served and that was put last is seen, whenever it is loaded, as it was
served, if it has no line in a leap second.  If it has one, and is no longer in memory, then it
cannot be loaded at all, as the calendar ends with the leap second, or it is seen with its lines at
the times that were stored, and there is a query that misses the line. -/
theorem LastPut.sees_loaded (h : LastPut log s d) (served : service.parse id body = log) :
    ((∀ l ∈ log.lines, ¬l.time.IsLeap) →
      ∃ back, (s.load d log.id).1 = .ok (some back) ∧ ∀ q : Query, q.sees back = q.sees log) ∧
    ((∃ l ∈ log.lines, l.time.IsLeap) → (s.get d log.id).1 = none →
      (∃ path millis, (s.load d log.id).1 = .error (.codec path (.time (.outOfRange millis)))) ∨
      ∃ back, (s.load d log.id).1 = .ok (some back) ∧
        (∀ q : Query, q.sees back = q.seesIn (log.remarks.map Remark.restamped)) ∧
        ∃ q : Query, q.matcher = .ofText "" false ∧ q.sees back ≠ q.sees log) := by
  have clock : ∀ l ∈ log.lines, l.time.OnClock := by
    subst served
    exact fun l hl => Service.onClock_of_parse hl
  have obtained : log.Obtained := served ▸ .parsed service id body
  obtain ⟨loads, refuses⟩ := h.load obtained
  constructor
  · intro whole
    obtain ⟨back, loaded, same, -⟩ := loads fun l hl => (clock l hl).representable (whole l hl)
    refine ⟨back, loaded, fun q => ?_⟩
    rcases same with rfl | same
    · rfl
    · rw [Query.sees_of_readBack same, Query.restamped_of_whole whole, Query.sees_eq]
  · rintro ⟨l, hl, leap⟩ absent
    by_cases times : ∀ l ∈ log.lines, l.time.Representable
    · obtain ⟨back, loaded, -, same⟩ := loads times
      refine .inr ⟨back, loaded, Query.sees_of_readBack (same absent),
        .before l.time (times l hl), rfl, ?_⟩
      rw [Query.sees_of_readBack (same absent), Query.sees_eq]
      refine @Query.sees_before_ne _ (log.remarkAt l) (times l hl) ?_ leap ?_
      · exact List.mem_map_of_mem (Array.mem_def.mp hl)
      · intro k hk
        obtain ⟨l, hl, rfl⟩ := List.mem_map.mp hk
        exact clock l (Array.mem_def.mpr hl)
    · simp only [not_forall] at times
      obtain ⟨l, hl, bad⟩ := times
      exact .inl (refuses ⟨l, hl, bad⟩ absent)

/-! ### Two logs, put and read again -/

/-- A log of the identifier of `greeting` is put, and the store is opened anew. -/
theorem exists_reopened (keepable : log.Keepable) (valid : log.valid = true)
    (same : log.id = greeting.id) : ∃ s d, LastPut log s d ∧ (s.get d log.id).1 = none := by
  obtain ⟨d, opened, directory, ⟨list, unlisted⟩, file, free⟩ := exists_emptyLogs
  have founded : Founded ⟨"logs", .empty 1, .empty, none⟩ d :=
    .opened (fun bytes => Disk.node?_nil_ne_file _ bytes) opened none
  generalize empty : (⟨"logs", .empty 1, .empty, none⟩ : Store) = s₀ at founded
  have dir_eq : s₀.dir = "logs" := by rw [← empty]
  have mode_eq : s₀.mode = none := by rw [← empty]
  have made := makeDirectories_greeting directory
  rw [← same] at file free made
  obtain ⟨s, d', put, kept⟩ := put_of_reaches dir_eq mode_eq keepable valid made file
    (by simp [free]) list (by simp [unlisted])
  have last := LastPut.put founded (congrArg Prod.fst put)
  have stays := (Stays.put s₀ d log).dir_eq.trans dir_eq
  rw [put] at last stays
  -- the store that is opened finds its list, and nothing is in memory
  obtain ⟨dir, m, out, -, knows, filed⟩ := last.kept
  obtain ⟨bytes, x, found, parsed, -⟩ := filed.listed _ rfl
  rw [knows.dir_eq.symm.trans stays] at found
  have reopened : openAt d' s.dir 1 = (.ok ⟨"logs", .empty 1, x, none⟩, d') := by
    rw [stays, openAt_eq (makeDirectories_logs (kept _ directory)),
      @loadIndex_of_find "logs" (bare "logs" 1 none) d' bytes x rfl found parsed]
    rfl
  refine ⟨_, _, last.run (.reopen 1) List.not_mem_nil, ?_⟩
  show (((openAt d' s.dir 1).1.toOption.getD s).get (openAt d' s.dir 1).2 log.id).1 = none
  rw [reopened]
  rfl

/-- A log without a leap second is seen as it was. -/
theorem sees_loaded_greeting :
    ∃ s d back, LastPut greeting s d ∧ (s.get d greeting.id).1 = none ∧
      (s.load d greeting.id).1 = .ok (some back) ∧ ∀ q : Query, q.sees back = q.sees greeting := by
  obtain ⟨s, d, last, absent⟩ := exists_reopened keepable_greeting (by rw [greeting_eq]) rfl
  obtain ⟨whole, -⟩ := last.sees_loaded rfl
  obtain ⟨back, loaded, seen⟩ := whole (by
    rw [greeting_eq]
    simp [Instant.IsLeap])
  exact ⟨s, d, back, last, absent, loaded, seen⟩

/-- How often a letter occurs in what was said in December 2016. -/
def decemberQuery : Query where
  matcher := .ofText "é" false
  channels := ["a"]
  users := .everyone
  period := ⟨1480550400000, 1483228800000, by decide, by decide, by decide⟩
  service := .gempir

theorem keepable_leapSecond : Codec.leapSecond.Keepable := by
  have obtained : Codec.leapSecond.Obtained := .parsed ..
  refine ⟨obtained, ?_, fun valid => obtained.exists_encode .native valid ?_⟩
  · rw [Codec.leapSecond_eq]
    decide
  · have names : Codec.leapSecond.nameTexts = ["bö"] := by
      rw [Codec.leapSecond_eq]
      cbv
    rw [Codec.sizeBound, names, Codec.leapSecond_eq]
    decide

/-- A line in the leap second that ends a month is seen as long as the log is in memory, but not
when it has been read from its file. -/
theorem reloaded_leapSecond :
    ∃ s d back, LastPut Codec.leapSecond s d ∧ (s.get d Codec.leapSecond.id).1 = none ∧
      (s.load d Codec.leapSecond.id).1 = .ok (some back) ∧
      decemberQuery.sees Codec.leapSecond = (1, [("2016-12-31 23:59:60", "bö", "é")]) ∧
      decemberQuery.sees back = (0, []) := by
  obtain ⟨s, d, last, absent⟩ := exists_reopened keepable_leapSecond
    (by rw [Codec.leapSecond_eq]) (by rw [Codec.leapSecond_eq, greeting_eq]; rfl)
  obtain ⟨back, loaded, -, same⟩ := (last.load keepable_leapSecond.obtained).1
    keepable_leapSecond.times
  have remarks : Codec.leapSecond.remarks = [⟨⟨1483228799, 1000⟩, "bö", "é"⟩] := by
    rw [Codec.leapSecond_eq]
    cbv
  refine ⟨s, d, back, last, absent, loaded, ?_, ?_⟩
  · rw [Query.sees_eq, remarks]
    decide
  · rw [Query.sees_of_readBack (same absent), remarks]
    decide

end Store

end Scrollback
