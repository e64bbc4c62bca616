/-
What a search delivers.  From each log it takes the lines that lie within the period and whose messages
match, and each of them is remarks with its time and with the bytes of its words (`Query.copies_linePart`).
The lines delivered are those of all logs, sorted by time alone (`Query.stablySorts_gathered`), which
leaves only one order for them (`Line.StablySorts.unique`), and in the transcript each has a line of text
(`splitOn_transcript`).  So nothing is lost, doubled or misplaced on the way (`Query.delivers`).
-/
import Scrollback.Proofs.Log.Lines
import Scrollback.Proofs.Query.Order
import Scrollback.Proofs.Time.Written

namespace Scrollback

/-! ### Sorting by time -/

namespace Line

/-- Some lines have been put in the order of their times; those of one time have stayed in the order in
which they came. -/
structure StablySorts (lines sorted : List Line) : Prop where
  perm : sorted.Perm lines
  ordered : Ordered sorted
  stable : ∀ t, linesAt t sorted = linesAt t lines

theorem StablySorts.unique {lines xs ys : List Line} (hx : StablySorts lines xs)
    (hy : StablySorts lines ys) : xs = ys :=
  eq_of_linesAt hx.ordered hy.ordered fun t => (hx.stable t).trans (hy.stable t).symm

/-! ### Text -/

/-- A line of text has no line break in it if the words that it is made of have none. -/
theorem newline_notMem_text {l : Line} (author : '\n' ∉ l.author.toList)
    (message : '\n' ∉ l.message.toList) : '\n' ∉ l.text.toList := by
  have time := Instant.notMem_text (by decide : isDigit '\n' = false) (by decide) l.time
  simp [text, time, author, message]

end Line

theorem transcript_cons (l : Line) (lines : List Line) :
    transcript (l :: lines) = l.text ++ "\n" ++ transcript lines := by
  rcases lines with - | ⟨next, lines⟩
  · simp [transcript]
  · simp only [transcript, List.map_cons, String.intercalate_cons_cons, String.append_empty]

/-- A transcript has a line of text for each line, each of them ended, and nothing more. -/
theorem splitOn_transcript {lines : List Line} (plain : ∀ l ∈ lines, '\n' ∉ l.text.toList) :
    (transcript lines).toList.splitOn '\n' = lines.map (fun l => l.text.toList) ++ [[]] := by
  induction lines with
  | nil => rfl
  | cons l lines ih =>
    rw [transcript_cons, toList_splitOn_append, List.splitOn_eq_singleton (plain l List.mem_cons_self),
      ih fun l hl => plain l (List.mem_cons_of_mem _ hl)]
    rfl

/-! ### Copying lines -/

/-- A line is a copy of a line of a log: it has its time, and its words have the bytes of the log's text that
the spans mark.  It owns its words and nothing else. -/
structure Log.Copies (log : Log) (l : LineSpan) (line : Line) : Prop where
  time : line.time = l.time
  buffer : line.buffer = line.author ++ line.message
  author : utf8 line.author = ((utf8 log.data).drop l.author.offset).take l.author.length
  message : utf8 line.message = ((utf8 log.data).drop l.message.offset).take l.message.length

theorem Log.WellFormed.copies_lineAt {log : Log} (h : log.WellFormed) {l : LineSpan}
    (hl : l ∈ log.lines) : log.Copies l (log.lineAt l) where
  time := rfl
  buffer := by
    rw [Log.lineAt, Line.author_make, Line.message_make]
    rfl
  author := by
    rw [Log.lineAt, Line.author_make]
    exact Span.utf8_textIn (h.authors_fit l hl)
  message := by
    rw [Log.lineAt, Line.message_make]
    exact Span.utf8_textIn (h.messages_fit l hl)

namespace Query

/-- Whether a line of a log is searched for: it lies within the period, and its message matches. -/
def wants (q : Query) (log : Log) (l : LineSpan) : Bool :=
  q.period.contains l.time && q.matcher.matchesText (log.textOf l.message)

/-- The lines that come of the parts of some logs, when one after another is taken in. -/
def gathered (q : Query) (logs : List Log) : List Line :=
  Collector.lines.finish ((logs.map q.linePart).foldl Collector.lines.fold Collector.lines.start)

variable {q : Query} {logs : List Log}

/-- The part of a log has a copy of every line that is searched for. -/
theorem copies_linePart {log : Log} (h : log.WellFormed) :
    List.Forall₂ log.Copies (log.lines.toList.filter (q.wants log)) (q.linePart log) := by
  have taken : q.linePart log = (log.lines.toList.filter (q.wants log)).map log.lineAt := by
    have both : q.wants log = fun l =>
        q.matcher.matchesText (log.textOf l.message) && q.period.contains l.time :=
      funext fun l => Bool.and_comm _ _
    rw [linePart, linesOf, List.filter_filter, both]
  rw [taken, List.forall₂_map_right_iff, List.forall₂_same]
  intro l hl
  exact h.copies_lineAt (Array.mem_toList_iff.mp (List.mem_of_mem_filter hl))

theorem stablySorts_gathered (q : Query) (logs : List Log) :
    Line.StablySorts (logs.flatMap q.linePart) (q.gathered logs) := by
  rw [gathered, finish_linePart]
  refine ⟨q.linesIn_perm logs, q.ordered_linesIn logs, ?_⟩
  intro t
  rw [linesAt_linesIn]
  exact List.filter_flatMap.symm

/-- Nothing is lost, doubled or misplaced in a search.  The part of a log has a copy of each line that is
searched for, in the order of the log; what is delivered are the lines of the parts as they were folded in,
stably sorted by their times; and if no word has a line break in it, the transcript has one line of text for
each of them, in the same order. -/
theorem delivers (q : Query) {logs : List Log} (formed : ∀ log ∈ logs, log.WellFormed) :
    (∀ log ∈ logs,
      List.Forall₂ log.Copies (log.lines.toList.filter (q.wants log)) (q.linePart log)) ∧
    Line.StablySorts (logs.flatMap q.linePart) (q.gathered logs) ∧
    ((∀ l ∈ q.gathered logs, '\n' ∉ l.author.toList ∧ '\n' ∉ l.message.toList) →
      (transcript (q.gathered logs)).toList.splitOn '\n' =
        (q.gathered logs).map (fun l => l.text.toList) ++ [[]]) := by
  refine ⟨?_, q.stablySorts_gathered logs, ?_⟩
  · intro log hlog
    exact copies_linePart (formed log hlog)
  · intro plain
    apply splitOn_transcript
    intro l hl
    obtain ⟨author, message⟩ := plain l hl
    exact Line.newline_notMem_text author message

/-! ### Around a leap second -/

/-- A search for a letter in what was said around the end of a year. -/
def yearEnd : Query where
  matcher := .ofText "o" false
  channels := ["a"]
  users := .everyone
  period := ⟨1483228799000, 1483228801000, by decide, by decide, by decide⟩
  service := .gempir

/-- What was said in the first second of the new year. -/
def firstLog : Log :=
  Service.gempir.parse ⟨"a", .day ⟨2017, 1, 1⟩, ""⟩
    "[2017-01-01 00:00:00] #a b: one\n[2017-01-01 00:00:00] #a c: and"

/-- What was said in the last seconds of the old one, of which the very last is a leap second. -/
def lastLog : Log :=
  Service.gempir.parse ⟨"a", .day ⟨2016, 12, 31⟩, ""⟩
    "[2016-12-31 23:59:60] #a d: two\n[2016-12-31 23:59:59] #a b: so"

theorem linePart_firstLog : yearEnd.linePart firstLog = [.make ⟨1483228800, 0⟩ "b" "one"] := by
  cbv

set_option maxRecDepth 10000 in
theorem linePart_lastLog :
    yearEnd.linePart lastLog =
      [.make ⟨1483228799, 1000⟩ "d" "two", .make ⟨1483228799, 0⟩ "b" "so"] := by
  cbv

/-- The lines of both logs, in the order of their times. -/
def yearEndLines : List Line :=
  [.make ⟨1483228799, 0⟩ "b" "so", .make ⟨1483228799, 1000⟩ "d" "two",
    .make ⟨1483228800, 0⟩ "b" "one"]

theorem stablySorts_yearEndLines :
    Line.StablySorts ([firstLog, lastLog].flatMap yearEnd.linePart) yearEndLines := by
  have all : [firstLog, lastLog].flatMap yearEnd.linePart = [.make ⟨1483228800, 0⟩ "b" "one",
      .make ⟨1483228799, 1000⟩ "d" "two", .make ⟨1483228799, 0⟩ "b" "so"] := by
    simp [linePart_firstLog, linePart_lastLog]
  rw [all]
  refine ⟨by decide, ?_, fun t => ?_⟩
  · unfold Line.Ordered
    decide
  · -- no two of them have one time
    obtain ⟨second, milli⟩ := t
    simp only [Line.linesAt, yearEndLines, List.filter_cons, Line.time_make, decide_eq_true_eq,
      Instant.mk.injEq]
    split_ifs <;> first | rfl | omega

/-- A leap second is between the seconds around it, and lines that do not match are left out. -/
theorem delivers_yearEnd :
    yearEnd.gathered [firstLog, lastLog] = yearEndLines ∧
    (transcript (yearEnd.gathered [firstLog, lastLog])).toList.splitOn '\n' =
      ["2016-12-31 23:59:59 b: so".toList, "2016-12-31 23:59:60 d: two".toList,
        "2017-01-01 00:00:00 b: one".toList, []] := by
  have formed : ∀ log ∈ [firstLog, lastLog], log.WellFormed := by
    intro log hlog
    rcases List.mem_pair.mp hlog with rfl | rfl
    · exact (Log.Obtained.parsed ..).wellFormed
    · exact (Log.Obtained.parsed ..).wellFormed
  obtain ⟨-, sorted, text⟩ := delivers yearEnd formed
  have lines := sorted.unique stablySorts_yearEndLines
  rw [lines] at text ⊢
  refine ⟨rfl, ?_⟩
  rw [text (by decide)]
  rfl

end Query

end Scrollback
