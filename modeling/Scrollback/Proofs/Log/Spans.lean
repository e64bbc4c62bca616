/-
Where the words of a parsed log stand.  A chat line lies within one line of the body, and so do the
words cut out of it; the lines of the body follow one another, and so do the chat lines
(`Grammar.pairwise_spansFrom`).  The names are the authors of the lines, in order and once each, and
nothing else is found by name (`Service.parse_sound`).
-/
import Scrollback.Proofs.Log.Parsed

namespace Scrollback

/-- A span cuts a piece out of a single line of a text. -/
structure Span.OnOneLine (s : Span) (text : String) : Prop where
  fits : s.Fits text
  unbroken : '\n' ∉ (s.textIn text).toList

/-- A line of spans lies between two places of its text, the message behind the author and apart
from it. -/
structure LineSpan.Between (l : LineSpan) (start stop : Nat) : Prop where
  starts : start ≤ l.author.offset
  apart : l.author.stop < l.message.offset
  stops : l.message.stop ≤ stop

/-- The words of a log stand in its text as on a page: each on one line, the message behind its
author, and every line behind the lines before it. -/
structure Log.Legible (log : Log) : Prop where
  names : ∀ n ∈ log.names, n.OnOneLine log.data
  authors : ∀ l ∈ log.lines, l.author.OnOneLine log.data
  messages : ∀ l ∈ log.lines, l.message.OnOneLine log.data
  apart : ∀ l ∈ log.lines, l.author.stop < l.message.offset
  onward : log.lines.toList.Pairwise fun a b => a.message.stop < b.author.offset

namespace Grammar

/-! ### The lines of a body -/

/-- No line of a text has a line break in it. -/
theorem newline_notMem_of_mem_splitOn {text line : List Char} (h : line ∈ text.splitOn '\n') :
    '\n' ∉ line := by
  induction text generalizing line with
  | nil =>
    obtain rfl : line = [] := by simpa using h
    exact List.not_mem_nil
  | cons c text ih =>
    rw [List.splitOn_cons_eq_if_modifyHead] at h
    split at h
    · rcases List.mem_cons.mp h with rfl | h
      · exact List.not_mem_nil
      · exact ih h
    · next other =>
      -- the character that is read goes to the first of the lines behind it
      rcases lines : text.splitOn '\n' with - | ⟨first, rest⟩
      · exact absurd lines (List.splitOn_ne_nil '\n' text)
      · rw [lines, List.modifyHead_cons] at h
        rcases List.mem_cons.mp h with rfl | h
        · have first_free := ih (lines ▸ List.mem_cons_self)
          have differs : '\n' ≠ c := by
            rintro rfl
            exact other (beq_self_eq_true _)
          exact List.not_mem_cons_of_ne_of_not_mem differs first_free
        · exact ih (lines ▸ List.mem_cons_of_mem _ h)

/-! ### The words of a line -/

variable {s : Service} {line : List Char} {p : Parts}

theorem Parts.Within.author_subset (h : p.Within line) : p.author ⊆ line := by
  obtain ⟨front, middle, back, rfl, -, -⟩ := h
  intro c hc
  simp [hc]

theorem Parts.Within.message_subset (h : p.Within line) : p.message ⊆ line := by
  obtain ⟨front, middle, back, rfl, -, -⟩ := h
  intro c hc
  simp [hc]

/-- The parts of a line take no more bytes than the line. -/
theorem Parts.Within.size_le (h : p.Within line) :
    p.before + utf8Size p.author + p.between + utf8Size p.message ≤ utf8Size line := by
  obtain ⟨front, middle, back, rfl, hbefore, hbetween⟩ := h
  simp only [utf8Size_append]
  omega

/-- There is a colon at least between an author and the message. -/
theorem between_pos (h : lineOf s line = some p) : 0 < p.between := by
  cases s with
  | gempir =>
    obtain ⟨_, _, _, _, _, -, -, -, -, ⟨two, -⟩ | ⟨one, -⟩⟩ := gempirLine_cases h
    · omega
    · omega
  | overrustle =>
    obtain ⟨_, _, -, -, two⟩ := overrustleLine_cases h
    omega

/-- What is read off a line without its carriage return stands in the line. -/
theorem within_of_dropReturn (h : lineOf s (dropReturn line) = some p) : p.Within line := by
  obtain ⟨ending, split⟩ := exists_dropReturn line
  have within := (within_of_lineOf h).append ending
  rwa [← split] at within

/-- The spans of a chat line lie within the line. -/
theorem between_spans (h : lineOf s (dropReturn line) = some p) (start : Nat) :
    (p.spans start).Between start (start + utf8Size line) := by
  have gap := between_pos h
  have size := (within_of_dropReturn h).size_le
  constructor <;> simp only [Parts.spans, Span.stop] <;> omega

/-! ### The words of a body -/

/-- Every chat line lies behind the place where the first of the lines starts, and its message
behind its author. -/
theorem between_of_mem_spansFrom {start : Nat} {lines : List (List Char)} {l : LineSpan}
    (hl : l ∈ spansFrom s start lines) : ∃ stop, l.Between start stop := by
  induction lines generalizing start with
  | nil => cases hl
  | cons line rest ih =>
    have later (h : l ∈ spansFrom s (start + utf8Size line + 1) rest) :
        ∃ stop, l.Between start stop := by
      obtain ⟨stop, between⟩ := ih h
      exact ⟨stop, by have := between.starts; omega, between.apart, between.stops⟩
    rw [spansFrom] at hl
    split at hl
    · next p hp =>
      rcases List.mem_cons.mp hl with rfl | hl
      · exact ⟨_, between_spans hp start⟩
      · exact later hl
    · exact later hl

/-- Every chat line lies behind those before it. -/
theorem pairwise_spansFrom (s : Service) (start : Nat) (lines : List (List Char)) :
    (spansFrom s start lines).Pairwise fun a b => a.message.stop < b.author.offset := by
  induction lines generalizing start with
  | nil => exact .nil
  | cons line rest ih =>
    rw [spansFrom]
    split
    · next p hp =>
      refine List.pairwise_cons.mpr ⟨fun l hl => ?_, ih _⟩
      -- the line break stands between the end of this line and whatever comes later
      obtain ⟨stop, later⟩ := between_of_mem_spansFrom hl
      have here := (between_spans hp start).stops
      have := later.starts
      omega
    · exact ih _

/-- The author and the message of every chat line are pieces of one line of the body. -/
theorem onOneLine_of_mem_spans {body : String} {l : LineSpan} (hl : l ∈ spans s body) :
    l.author.OnOneLine body ∧ l.message.OnOneLine body := by
  obtain ⟨i, hi, rfl⟩ := List.getElem_of_mem hl
  have all := forall₂_spans s body
  have hi' := all.length_eq ▸ hi
  have cuts := all.get hi hi'
  obtain ⟨line, hline, read⟩ := List.mem_filterMap.mp (List.getElem_mem hi')
  have within := within_of_dropReturn read
  have free := newline_notMem_of_mem_splitOn hline
  refine ⟨⟨cuts.author_fits, ?_⟩, ⟨cuts.message_fits, ?_⟩⟩
  · rw [List.get_eq_getElem, List.get_eq_getElem] at cuts
    rw [cuts.author, String.toList_ofList]
    exact fun mem => free (within.author_subset mem)
  · rw [List.get_eq_getElem, List.get_eq_getElem] at cuts
    rw [cuts.message, String.toList_ofList]
    exact fun mem => free (within.message_subset mem)

end Grammar

/-! ### The words of a log -/

namespace Log

theorem legible_missing (id : LogId) (data : String) : (missing id data).Legible where
  names := by rintro _ ⟨⟨⟩⟩
  authors := by rintro _ ⟨⟨⟩⟩
  messages := by rintro _ ⟨⟨⟩⟩
  apart := by rintro _ ⟨⟨⟩⟩
  onward := .nil

theorem legible_ofLines (id : LogId) (s : Service) (body : String) :
    (ofLines id body (Grammar.spans s body)).Legible where
  names := by
    intro n hn
    obtain ⟨l, hl, rfl⟩ := exists_of_mem_distinctAuthors (List.mem_toArray.mp hn)
    exact (Grammar.onOneLine_of_mem_spans hl).1
  authors := fun l hl => (Grammar.onOneLine_of_mem_spans (List.mem_toArray.mp hl)).1
  messages := fun l hl => (Grammar.onOneLine_of_mem_spans (List.mem_toArray.mp hl)).2
  apart := by
    intro l hl
    obtain ⟨stop, between⟩ := Grammar.between_of_mem_spansFrom (List.mem_toArray.mp hl)
    exact between.apart
  onward := Grammar.pairwise_spansFrom s 0 _

/-- The names collected from lines are the authors of the lines. -/
theorem mem_nameTexts_ofLines (id : LogId) (data : String) (lines : List LineSpan) (name : String) :
    name ∈ (ofLines id data lines).nameTexts ↔
      ∃ l ∈ (ofLines id data lines).remarks, l.author = name := by
  constructor
  · intro h
    obtain ⟨n, hn, rfl⟩ := List.mem_map.mp h
    obtain ⟨l, hl, rfl⟩ := exists_of_mem_distinctAuthors hn
    exact ⟨_, List.mem_map.mpr ⟨l, hl, rfl⟩, rfl⟩
  · rintro ⟨line, hline, rfl⟩
    obtain ⟨l, hl, rfl⟩ := List.mem_map.mp hline
    exact author_mem_ofLines id data hl

end Log

namespace Service

theorem legible_parse (s : Service) (id : LogId) (body : String) : (s.parse id body).Legible := by
  rw [parse]
  split
  · exact Log.legible_missing id body
  · exact Log.legible_ofLines id s body

/-- The names of a parsed log are the authors of its lines. -/
theorem mem_nameTexts_parse (s : Service) (id : LogId) (body name : String) :
    name ∈ (s.parse id body).nameTexts ↔ ∃ l ∈ (s.parse id body).remarks, l.author = name := by
  rw [parse]
  split
  · simp [Log.missing, Log.nameTexts, Log.remarks]
  · exact Log.mem_nameTexts_ofLines id body _ name

/-- A parsed log is not valid exactly if the body is, but for white space around it, the notice that
there is no such log. -/
theorem valid_parse_eq_false (s : Service) (id : LogId) (body : String) :
    (s.parse id body).valid = false ↔ trimText body = Grammar.notice s := by
  rw [parse]
  split
  · next notice => exact iff_of_true rfl notice
  · next other => exact iff_of_false Bool.true_eq_false.mp other

/-- What a service's body is read as keeps the body and the identity asked for, and its words stand
in the body line by line.  Its names are the authors of its lines, strictly increasing by their
bytes; looking one up gives its place among them, and nothing just if no line has that author.  It
is not valid just for the notice that there is no such log, and then it says nothing. -/
theorem parse_sound (s : Service) (id : LogId) (body : String) :
    (s.parse id body).id = id ∧ (s.parse id body).data = body ∧
    (s.parse id body).Legible ∧
    (s.parse id body).NamesIncrease ∧
    (∀ name, name ∈ (s.parse id body).nameTexts ↔
      ∃ l ∈ (s.parse id body).remarks, l.author = name) ∧
    (∀ name i, (s.parse id body).nameIndex? name = some i ↔
      (s.parse id body).nameTexts[i]? = some name) ∧
    (∀ name, (s.parse id body).nameIndex? name = none ↔
      ∀ l ∈ (s.parse id body).remarks, l.author ≠ name) ∧
    ((s.parse id body).valid = false ↔ trimText body = Grammar.notice s) ∧
    ((s.parse id body).valid = false →
      (s.parse id body).lines = #[] ∧ (s.parse id body).names = #[]) := by
  have obtained : (s.parse id body).Obtained := .parsed ..
  have increase := obtained.wellFormed.names_increase
  refine ⟨?_, ?_, legible_parse s id body, increase, mem_nameTexts_parse s id body,
    fun name i => Log.nameIndex?_eq_some increase, fun name => ?_,
    valid_parse_eq_false s id body, ?_⟩
  · rw [parse]
    split <;> rfl
  · rw [parse]
    split <;> rfl
  · -- a name that is not found at any place is the author of no line
    rw [Option.eq_none_iff_forall_ne_some, ← not_exists, Log.exists_nameIndex? increase,
      mem_nameTexts_parse]
    simp
  · rw [parse]
    split
    · exact fun _ => ⟨rfl, rfl⟩
    · exact fun h => (Bool.true_eq_false.mp h).elim

end Service

end Scrollback
