/-
What is read off a body stands in the body.  A line is taken apart at the first places where its
form allows it, so each of its parts is a piece of it (`Grammar.within_of_lineOf`), and the places
that are added up over the lines are those of the pieces in the whole text
(`Grammar.forall₂_spansFrom`).  The spans of a parsed log therefore cut out just what the chat lines
say, and every log that the library comes by is well formed (`Log.Obtained.wellFormed`).
-/
import Scrollback.Proofs.Log.Obtained

namespace Scrollback

namespace Grammar

/-! ### Taking a line apart -/

/-- The parts of a line stand in it: the author after the bytes before it, the message after those
between the two. -/
def Parts.Within (p : Parts) (line : List Char) : Prop :=
  ∃ front middle back, line = front ++ p.author ++ middle ++ p.message ++ back ∧
    utf8Size front = p.before ∧ utf8Size middle = p.between

variable {line : List Char} {p : Parts}

theorem Parts.Within.append (h : p.Within line) (more : List Char) : p.Within (line ++ more) := by
  obtain ⟨front, middle, back, rfl, before, between⟩ := h
  exact ⟨front, middle, back ++ more, by simp, before, between⟩

/-- What is cut at a character is put together by it, and the front does not have it. -/
theorem cut_eq_some {c : Char} {cs front rest : List Char} :
    cut c cs = some (front, rest) ↔ cs = front ++ c :: rest ∧ c ∉ front := by
  have whole := List.takeWhile_append_dropWhile (p := (· != c)) (l := cs)
  have front_free : c ∉ cs.takeWhile (· != c) := fun mem => by
    simpa using List.mem_takeWhile_imp mem
  have dropped : cs.drop (cs.takeWhile (· != c)).length = cs.dropWhile (· != c) := by
    have := @List.drop_left _ (cs.takeWhile (· != c)) (cs.dropWhile (· != c))
    rwa [whole] at this
  rw [cut, dropped]
  constructor
  · intro h
    rcases back : cs.dropWhile (· != c) with - | ⟨d, back'⟩
    · rw [back] at h
      cases h
    · -- the first character that is not passed over is the one sought
      have stops : ¬(d != c) = true := by
        have := List.head_dropWhile_not (p := (· != c)) (l := cs) (by simp [back])
        simpa [back] using this
      obtain rfl : d = c := by simpa using stops
      rw [back] at h
      cases h
      exact ⟨by rw [← back, whole], front_free⟩
  · rintro ⟨rfl, free⟩
    have taken : ∀ d ∈ front, (d != c) = true := by
      intro d hd
      simpa using fun same : d = c => free (same ▸ hd)
    rw [List.dropWhile_append_of_pos taken, List.takeWhile_append_of_pos taken]
    simp

theorem cutBracketFrom_eq_some {passed cs inside rest : List Char}
    (h : cutBracketFrom passed cs = some (inside, rest)) :
    passed.reverse ++ cs = inside ++ ']' :: ' ' :: rest := by
  fun_induction cutBracketFrom passed cs with
  | case1 => cases h
  | case2 passed rest =>
    cases h
    rfl
  | case3 passed d rest other ih =>
    rw [← ih h]
    simp

/-- What is cut at a closing bracket is put together by it and the space behind it. -/
theorem cutBracket_eq_some {cs inside rest : List Char}
    (h : cutBracket cs = some (inside, rest)) : cs = inside ++ ']' :: ' ' :: rest := by
  simpa using cutBracketFrom_eq_some h

/-- The time at the head of a line takes the bytes that are counted for it. -/
theorem head_eq_some {tail : List Char → Bool} {t : Instant} {before : Nat} {rest : List Char}
    (h : head tail line = some (t, before, rest)) :
    ∃ front, line = front ++ rest ∧ utf8Size front = before := by
  unfold head at h
  split at h
  · next line =>
    simp only [Option.bind_eq_bind, Option.bind_eq_some_iff] at h
    obtain ⟨⟨inside, more⟩, brackets, ⟨t', after⟩, -, taken⟩ := h
    split at taken
    · cases taken
      refine ⟨'[' :: inside ++ [']', ' '], ?_, ?_⟩
      · simp [cutBracket_eq_some brackets]
      · have sizes : '['.utf8Size = 1 ∧ ']'.utf8Size = 1 ∧ ' '.utf8Size = 1 := by decide
        simp [sizes]
        omega
    · cases taken
  · cases h

theorem within_of_gempirLine (h : gempirLine line = some p) : p.Within line := by
  obtain ⟨before, rest, channel, named, message, time, space, colon, hbefore, gap⟩ := gempirLine_cases h
  obtain ⟨front, rfl, rfl⟩ := head_eq_some time
  obtain ⟨rfl, -⟩ := cut_eq_some.mp space
  obtain ⟨rfl, -⟩ := cut_eq_some.mp colon
  have sizes : ':'.utf8Size = 1 ∧ ' '.utf8Size = 1 := by decide
  have size : utf8Size (front ++ channel ++ [' ']) = p.before := by
    simp [hbefore, sizes, Nat.add_assoc]
  rcases gap with ⟨two, rfl⟩ | ⟨one, rfl⟩
  · exact ⟨front ++ channel ++ [' '], [':', ' '], [], by simp, size, by simp [sizes, two]⟩
  · exact ⟨front ++ channel ++ [' '], [':'], [], by simp, size, by simp [sizes, one]⟩

theorem within_of_overrustleLine (h : overrustleLine line = some p) : p.Within line := by
  obtain ⟨tail, rest, time, space, two⟩ := overrustleLine_cases h
  obtain ⟨front, rfl, before⟩ := head_eq_some time
  obtain ⟨rfl, -⟩ := cut_eq_some.mp space
  have sizes : ':'.utf8Size = 1 ∧ ' '.utf8Size = 1 := by decide
  exact ⟨front, [':', ' '], [], by simp, before, by simp [sizes, two]⟩

/-- The parts of a line stand in it, whatever the service. -/
theorem within_of_lineOf {s : Service} (h : lineOf s line = some p) : p.Within line := by
  cases s with
  | gempir => exact within_of_gempirLine h
  | overrustle => exact within_of_overrustleLine h

theorem exists_dropReturn (line : List Char) : ∃ ending, line = dropReturn line ++ ending := by
  rw [dropReturn]
  split
  · next h => exact ⟨['\r'], (List.dropLast_append_getLast? '\r' h).symm⟩
  · exact ⟨[], (List.append_nil _).symm⟩

/-! ### The spans of the parts -/

/-- A line of spans cuts the parts of a chat line out of a text. -/
structure Cuts (text : String) (l : LineSpan) (p : Parts) : Prop where
  time : l.time = p.time
  author_fits : l.author.Fits text
  author : l.author.textIn text = String.ofList p.author
  message_fits : l.message.Fits text
  message : l.message.textIn text = String.ofList p.message

/-- The spans of a line that stands in a text cut out its parts. -/
theorem cuts_spans (h : p.Within line) (before after : List Char) :
    Cuts (String.ofList (before ++ line ++ after)) (p.spans (utf8Size before)) p := by
  obtain ⟨front, middle, back, rfl, hbefore, hbetween⟩ := h
  generalize whole : String.ofList (before ++ (front ++ p.author ++ middle ++ p.message ++ back) ++
    after) = text
  -- the text around the author, and around the message
  have author : text = String.ofList (before ++ front) ++ String.ofList p.author ++
      String.ofList (middle ++ p.message ++ back ++ after) := by
    simp [← whole, String.append_assoc]
  have message : text = String.ofList (before ++ front ++ p.author ++ middle) ++
      String.ofList p.message ++ String.ofList (back ++ after) := by
    simp [← whole, String.append_assoc]
  have author_span : (p.spans (utf8Size before)).author =
      ⟨(String.ofList (before ++ front)).utf8ByteSize, (String.ofList p.author).utf8ByteSize⟩ := by
    simp [Parts.spans, utf8ByteSize_ofList, hbefore]
  have message_span : (p.spans (utf8Size before)).message =
      ⟨(String.ofList (before ++ front ++ p.author ++ middle)).utf8ByteSize,
        (String.ofList p.message).utf8ByteSize⟩ := by
    simp only [utf8ByteSize_ofList, utf8Size_append, hbefore, hbetween]
    rfl
  refine ⟨rfl, ?_, ?_, ?_, ?_⟩
  · rw [author, author_span]
    exact Span.fits_append ..
  · rw [author, author_span]
    exact Span.textIn_append ..
  · rw [message, message_span]
    exact Span.fits_append ..
  · rw [message, message_span]
    exact Span.textIn_append ..

/-- The lines of spans of several lines, one for each of them that has the form of the service, cut
out its parts. -/
theorem forall₂_spansFrom (s : Service) (front : List Char) (lines : List (List Char)) :
    List.Forall₂ (Cuts (String.ofList (front ++ ['\n'].intercalate lines)))
      (spansFrom s (utf8Size front) lines)
      (lines.filterMap fun line => lineOf s (dropReturn line)) := by
  induction lines generalizing front with
  | nil => exact .nil
  | cons line rest ih =>
    -- the text goes on behind the line with the break and the lines that follow, if any do
    obtain ⟨after, whole, later⟩ : ∃ after,
        String.ofList (front ++ ['\n'].intercalate (line :: rest)) =
          String.ofList (front ++ line ++ after) ∧
        List.Forall₂ (Cuts (String.ofList (front ++ line ++ after)))
          (spansFrom s (utf8Size front + utf8Size line + 1) rest)
          (rest.filterMap fun line => lineOf s (dropReturn line)) := by
      rcases rest with - | ⟨next, rest⟩
      · exact ⟨[], by simp, .nil⟩
      · refine ⟨'\n' :: ['\n'].intercalate (next :: rest), ?_, ?_⟩
        · simp [List.intercalate]
        · have moved := ih (front ++ line ++ ['\n'])
          have size : '\n'.utf8Size = 1 := by decide
          simpa [size, Nat.add_assoc] using moved
    rw [whole, spansFrom, List.filterMap_cons]
    rcases form : lineOf s (dropReturn line) with - | p
    · exact later
    · obtain ⟨ending, split⟩ := exists_dropReturn line
      have within := (within_of_lineOf form).append ending
      rw [← split] at within
      exact .cons (cuts_spans within front after) later

/-- The lines of spans of a body cut the parts of its chat lines out of it. -/
theorem forall₂_spans (s : Service) (body : String) :
    List.Forall₂ (Cuts body) (spans s body)
      ((body.toList.splitOn '\n').filterMap fun line => lineOf s (dropReturn line)) := by
  have all := forall₂_spansFrom s [] (body.toList.splitOn '\n')
  rwa [List.intercalate_splitOn, List.nil_append, String.ofList_toList] at all

/-- Every line of a body has spans that fit it. -/
theorem fits_of_mem_spans {s : Service} {body : String} {l : LineSpan} (hl : l ∈ spans s body) :
    l.author.Fits body ∧ l.message.Fits body := by
  obtain ⟨i, hi, rfl⟩ := List.getElem_of_mem hl
  have all := forall₂_spans s body
  have cuts := all.get hi (all.length_eq ▸ hi)
  exact ⟨cuts.author_fits, cuts.message_fits⟩

end Grammar

/-! ### Well-formed logs -/

namespace Log

theorem wellFormed_missing (id : LogId) (data : String) : (missing id data).WellFormed where
  names_fit := by rintro _ ⟨⟨⟩⟩
  authors_fit := by rintro _ ⟨⟨⟩⟩
  messages_fit := by rintro _ ⟨⟨⟩⟩
  names_increase := (storable_missing id data).names_increase
  authors_named := (storable_missing id data).authors_named

/-- Every name is the author of a line. -/
theorem exists_of_mem_distinctAuthors {data : String} {lines : List LineSpan} {n : Span}
    (h : n ∈ distinctAuthors data lines) : ∃ l ∈ lines, l.author = n := by
  obtain ⟨e, he, rfl⟩ := List.mem_map.mp h
  obtain ⟨l, hl, rfl⟩ := List.mem_map.mp (List.mem_mergeSort.mp ((dropRepeats_sublist _).subset he))
  exact ⟨l, hl, rfl⟩

theorem wellFormed_ofLines (id : LogId) {data : String} {lines : List LineSpan}
    (fit : ∀ l ∈ lines, l.author.Fits data ∧ l.message.Fits data) :
    (ofLines id data lines).WellFormed where
  names_fit := by
    intro n hn
    obtain ⟨l, hl, rfl⟩ := exists_of_mem_distinctAuthors (List.mem_toArray.mp hn)
    exact (fit l hl).1
  authors_fit := fun l hl => (fit l (List.mem_toArray.mp hl)).1
  messages_fit := fun l hl => (fit l (List.mem_toArray.mp hl)).2
  names_increase := ofLines_increase id data lines
  authors_named := by
    intro line hline
    obtain ⟨l, hl, rfl⟩ := List.mem_map.mp hline
    exact author_mem_ofLines id data hl

/-- A log is well formed, whether it has been read off an answer or decoded. -/
theorem Obtained.wellFormed {log : Log} (h : log.Obtained) : log.WellFormed := by
  cases h with
  | parsed s id body =>
    rw [Service.parse]
    split
    · exact wellFormed_missing id body
    · exact wellFormed_ofLines id fun l hl => Grammar.fits_of_mem_spans hl
  | decoded h =>
    obtain ⟨r, lines, read, rfl⟩ := Codec.decode_eq_ok.mp h
    exact r.logWith_wellFormed read

end Log

end Scrollback
