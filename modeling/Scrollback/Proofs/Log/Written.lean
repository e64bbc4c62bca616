/-
Logs as the services write them.  Neither form tells how long its words are: an author or a message may
itself hold brackets, colons and spaces, or be empty.  Each word is read up to the first of the marks that
end it, and these are the marks that must not occur in it (`Entry.Plain`), so the body that a service
writes for some entries says just these entries (`Service.parse_writes`).
-/
import Scrollback.Proofs.Log.Lines
import Scrollback.Proofs.Time.Written

namespace Scrollback

/-- A line of a chat, and the channel that it stands in. -/
structure Entry extends Remark where
  channel : String

namespace Entry

/-- `[time] #channel author: message`, or `[time UTC] author: message`. -/
def text (e : Entry) : Service → String
  | .gempir => "[" ++ String.ofList e.time.text ++ "] #" ++ e.channel ++ " " ++ e.author ++ ": " ++
      e.message
  | .overrustle => "[" ++ String.ofList e.time.text ++ " UTC] " ++ e.author ++ ": " ++ e.message

/-- The names of an entry have none of the marks in them that end a name.  Only the one service writes the
channel. -/
def NamesPlain (e : Entry) : Service → Prop
  | .gempir => (∀ c ∈ [' ', '\n'], c ∉ e.channel.toList) ∧ ∀ c ∈ [':', '\n'], c ∉ e.author.toList
  | .overrustle => ∀ c ∈ [' ', '\n'], c ∉ e.author.toList

/-- An entry can be written on a line and told apart there. -/
structure Plain (e : Entry) (s : Service) : Prop where
  time : e.time.OnClock
  names : e.NamesPlain s
  message : '\n' ∉ e.message.toList
  message_end : e.message.toList.getLast? ≠ some '\r'

end Entry

/-- A body that a service writes for some entries: one to a line, and each line but perhaps the last
ends with a line break, in front of which a carriage return may stand. -/
inductive Service.Writes (s : Service) : List Entry → String → Prop
  | nothing : s.Writes [] ""
  | last (e : Entry) : s.Writes [e] (e.text s)
  | line (e : Entry) {ending body : String} {rest : List Entry}
      (break_ : ending = "\n" ∨ ending = "\r\n") (later : s.Writes rest body) :
      s.Writes (e :: rest) (e.text s ++ ending ++ body)

namespace Grammar

/-! ### Reading a line -/

theorem cutBracketFrom_append {inside : List Char} (free : ']' ∉ inside) (passed rest : List Char) :
    cutBracketFrom passed (inside ++ ']' :: ' ' :: rest) = some (passed.reverse ++ inside, rest) := by
  induction inside generalizing passed with
  | nil =>
    rw [List.append_nil]
    rfl
  | cons c inside ih =>
    have other : c ≠ ']' := (List.ne_of_not_mem_cons free).symm
    rw [List.cons_append, cutBracketFrom, ih (List.not_mem_of_not_mem_cons free)]
    · simp
    · exact fun _ same => absurd same other

theorem cutBracket_append {inside : List Char} (free : ']' ∉ inside) (rest : List Char) :
    cutBracket (inside ++ ']' :: ' ' :: rest) = some (inside, rest) :=
  cutBracketFrom_append free [] rest

/-- The time of an entry is read back, with what stands behind it in the brackets. -/
theorem head_text {t : Instant} (clock : t.OnClock) {tail : List Char → Bool} {more : List Char}
    (followed : tail more = true) (free : ']' ∉ more) (rest : List Char) :
    ∃ before, head tail ('[' :: (t.text ++ more ++ ']' :: ' ' :: rest)) = some (t, before, rest) := by
  have inside : ']' ∉ t.text ++ more := by
    simp [free, Instant.notMem_text (by decide : isDigit ']' = false) (by decide) t]
  exact ⟨_, head_eq (cutBracket_append inside rest) (Stamp.read_text clock more) followed⟩

theorem cut_append {c : Char} {front : List Char} (free : c ∉ front) (rest : List Char) :
    cut c (front ++ c :: rest) = some (front, rest) :=
  cut_eq_some.mpr ⟨rfl, free⟩

variable {e : Entry} {s : Service}

theorem lineOf_gempir_text (plain : e.Plain .gempir) :
    (lineOf .gempir (e.text .gempir).toList).map Parts.remark = some e.toRemark := by
  -- the first space ends the channel, and then the first colon the author
  have channel : ' ' ∉ '#' :: e.channel.toList :=
    List.not_mem_cons_of_ne_of_not_mem (by decide) (plain.names.1 ' ' (by simp))
  have author : ':' ∉ e.author.toList := plain.names.2 ':' (by simp)
  have form : (e.text .gempir).toList = '[' :: (e.time.text ++ [] ++ ']' :: ' ' ::
      ('#' :: e.channel.toList ++ ' ' :: (e.author.toList ++ ':' :: ' ' :: e.message.toList))) := by
    simp [Entry.text]
  obtain ⟨before, time⟩ := head_text plain.time List.isEmpty_nil List.not_mem_nil
    ('#' :: e.channel.toList ++ ' ' :: (e.author.toList ++ ':' :: ' ' :: e.message.toList))
  rw [lineOf, gempirLine, form, time]
  simp only [Option.bind_eq_bind, Option.bind_some, cut_append channel, cut_append author]
  simp [Parts.remark]

theorem lineOf_overrustle_text (plain : e.Plain .overrustle) :
    (lineOf .overrustle (e.text .overrustle).toList).map Parts.remark = some e.toRemark := by
  -- the first space ends the author's word, whatever colons are in it
  have author : ' ' ∉ e.author.toList ++ [':'] := by
    simp [plain.names ' ' (by simp)]
  have form : (e.text .overrustle).toList = '[' :: (e.time.text ++ [' ', 'U', 'T', 'C'] ++ ']' :: ' ' ::
      (e.author.toList ++ [':'] ++ ' ' :: e.message.toList)) := by
    simp [Entry.text]
  have zone : (trimStart [' ', 'U', 'T', 'C'] == ['U', 'T', 'C']) = true := rfl
  obtain ⟨before, time⟩ := @head_text e.time plain.time (fun more => trimStart more == ['U', 'T', 'C']) _
    zone (by decide) (e.author.toList ++ [':'] ++ ' ' :: e.message.toList)
  rw [lineOf, overrustleLine, form, time]
  simp only [Option.bind_eq_bind, Option.bind_some, cut_append author]
  simp [Parts.remark]

theorem lineOf_text (plain : e.Plain s) :
    (lineOf s (e.text s).toList).map Parts.remark = some e.toRemark := by
  cases s with
  | gempir => exact lineOf_gempir_text plain
  | overrustle => exact lineOf_overrustle_text plain

/-! ### Lines of a body -/

theorem newline_notMem_text (plain : e.Plain s) : '\n' ∉ (e.text s).toList := by
  have time := Instant.notMem_text (by decide : isDigit '\n' = false) (by decide) e.time
  have message := plain.message
  have names := plain.names
  cases s with
  | gempir => simp [Entry.text, time, message, names.1 '\n', names.2 '\n']
  | overrustle => simp [Entry.text, time, message, names '\n']

/-- A message ends its line, or the space in front of it does if there is none. -/
theorem getLast?_text (plain : e.Plain s) : (e.text s).toList.getLast? ≠ some '\r' := by
  have space : ": ".toList.getLast? = some ' ' := rfl
  have whole : (e.text s).toList.getLast? = e.message.toList.getLast?.or (some ' ') := by
    cases s <;> simp only [Entry.text, String.toList_append, List.getLast?_append, space, Option.some_or]
  rw [whole, ne_eq, Option.or_eq_some_iff]
  rintro (message | ⟨-, ⟨⟩⟩)
  exact plain.message_end message

/-- The carriage return is no part of what is said. -/
theorem said_text (plain : e.Plain s) :
    said s (e.text s).toList = some e.toRemark ∧ said s (e.text s ++ "\r").toList = some e.toRemark := by
  have bare : dropReturn (e.text s).toList = (e.text s).toList := if_neg (getLast?_text plain)
  have ended : dropReturn (e.text s ++ "\r").toList = (e.text s).toList := by
    simp [dropReturn]
  rw [said, bare, said, ended, lineOf_text plain]
  exact ⟨rfl, rfl⟩

/-- The lines of a body that is written for some entries say the entries. -/
theorem filterMap_said_of_writes {entries : List Entry} {body : String} (h : s.Writes entries body)
    (plain : ∀ e ∈ entries, e.Plain s) :
    (body.toList.splitOn '\n').filterMap (said s) = entries.map Entry.toRemark := by
  induction h with
  | nothing => cases s <;> rfl
  | last e =>
    have plain := plain e List.mem_cons_self
    rw [List.splitOn_eq_singleton (newline_notMem_text plain), List.filterMap_cons_some (said_text plain).1]
    rfl
  | @line e ending body rest break_ later ih =>
    have one := plain e List.mem_cons_self
    have others := ih fun e he => plain e (List.mem_cons_of_mem _ he)
    -- the carriage return belongs to the line that it ends
    obtain ⟨line, whole, unbroken, told⟩ : ∃ line, e.text s ++ ending ++ body = line ++ "\n" ++ body ∧
        '\n' ∉ line.toList ∧ said s line.toList = some e.toRemark := by
      rcases break_ with rfl | rfl
      · exact ⟨_, rfl, newline_notMem_text one, (said_text one).1⟩
      · refine ⟨e.text s ++ "\r", ?_, ?_, (said_text one).2⟩
        · simp [String.append_assoc]
        · simp [newline_notMem_text one]
    rw [whole, toList_splitOn_append, List.filterMap_append, others, List.splitOn_eq_singleton unbroken,
      List.filterMap_cons_some told]
    rfl

end Grammar

namespace Service

open Grammar

variable {s : Service} {id : LogId} {body : String}

theorem valid_of_remarks_ne_nil (h : (s.parse id body).remarks ≠ []) :
    (s.parse id body).valid = true := by
  rw [parse] at h ⊢
  split
  · next notice =>
    rw [if_pos notice] at h
    exact absurd rfl h
  · rfl

/-- Parsing undoes writing.  The body that a service writes for some entries is read as a valid log, and
its lines are the entries: each with its time, its author and its message, in this order. -/
theorem parse_writes (id : LogId) {entries : List Entry} (h : s.Writes entries body)
    (plain : ∀ e ∈ entries, e.Plain s) :
    (s.parse id body).valid = true ∧ (s.parse id body).remarks = entries.map Entry.toRemark := by
  have lines : (s.parse id body).remarks = entries.map Entry.toRemark := by
    rw [remarks_parse, filterMap_said_of_writes h plain]
  refine ⟨?_, lines⟩
  rcases entries with - | ⟨e, rest⟩
  · cases h
    have other : trimText "" ≠ notice s := by
      cases s <;> decide
    rw [parse, if_neg other]
    rfl
  · exact valid_of_remarks_ne_nil (by simp [lines])

/-- A leap second and words with brackets and colons in them, a year of five digits and words that are
empty, and a year before the first. -/
theorem parse_writes_marks :
    (gempir.parse ⟨"a:b", ⟨0, 1000, by decide, by decide, by decide⟩, ""⟩
        "[2016-12-31 23:59:60] #a:b [x] y: z: ]\r\n[+12345-01-02 03:04:05] # : ").remarks =
      [⟨.ofClock ⟨2016, 12, 31⟩ 23 59 60, "[x] y", "z: ]"⟩,
        ⟨.ofClock ⟨12345, 1, 2⟩ 3 4 5, "", ""⟩] ∧
    (overrustle.parse ⟨"", ⟨0, 1000, by decide, by decide, by decide⟩, ""⟩
        "[-0044-03-15 12:00:00 UTC] a:b]: : c\n").remarks =
      [⟨.ofClock ⟨-44, 3, 15⟩ 12 0 0, "a:b]", ": c"⟩] := by
  constructor
  · have first : (Entry.mk ⟨.ofClock ⟨2016, 12, 31⟩ 23 59 60, "[x] y", "z: ]"⟩ "a:b").Plain .gempir :=
      ⟨⟨⟨2016, 12, 31⟩, 23, 59, 60, by decide, by decide, by decide, by decide, rfl⟩,
        by simp [Entry.NamesPlain], by simp, by simp⟩
    have second : (Entry.mk ⟨.ofClock ⟨12345, 1, 2⟩ 3 4 5, "", ""⟩ "").Plain .gempir :=
      ⟨⟨⟨12345, 1, 2⟩, 3, 4, 5, by decide, by decide, by decide, by decide, rfl⟩,
        by simp [Entry.NamesPlain], by simp, by simp⟩
    have body : "[2016-12-31 23:59:60] #a:b [x] y: z: ]\r\n[+12345-01-02 03:04:05] # : " =
        (Entry.mk ⟨.ofClock ⟨2016, 12, 31⟩ 23 59 60, "[x] y", "z: ]"⟩ "a:b").text .gempir ++
          "\r\n" ++ (Entry.mk ⟨.ofClock ⟨12345, 1, 2⟩ 3 4 5, "", ""⟩ "").text .gempir := by
      rfl
    rw [body]
    exact (parse_writes _ (.line _ (.inr rfl) (.last _)) (by simp [first, second])).2
  · have only : (Entry.mk ⟨.ofClock ⟨-44, 3, 15⟩ 12 0 0, "a:b]", ": c"⟩ "").Plain .overrustle :=
      ⟨⟨⟨-44, 3, 15⟩, 12, 0, 0, by decide, by decide, by decide, by decide, rfl⟩,
        by simp [Entry.NamesPlain], by simp, by simp⟩
    have body : "[-0044-03-15 12:00:00 UTC] a:b]: : c\n" =
        (Entry.mk ⟨.ofClock ⟨-44, 3, 15⟩ 12 0 0, "a:b]", ": c"⟩ "").text .overrustle ++ "\n" ++ "" := by
      rfl
    rw [body]
    exact (parse_writes _ (.line _ (.inl rfl) .nothing) (by simp [only])).2

end Service

end Scrollback
