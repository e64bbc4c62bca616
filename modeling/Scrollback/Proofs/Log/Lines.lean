/-
A body is read line by line.  What a log says is what the lines of its body say, each by itself
(`Service.remarks_parse`); this holds of the notice that there is no such log too, as nothing in it has
the form of a chat line.  A body that is put together from two with a line break between them therefore
says what the one says and then what the other says, with the places of the second moved behind the
first, and a line that says nothing can be put in or left out (`Service.parse_append`).
-/
import Scrollback.Proofs.Log.Parsed

namespace Scrollback

/-! ### Lines of a text -/

/-- The lines of a text are those before a line break and those behind it. -/
theorem splitOn_append_newline (a b : List Char) :
    (a ++ '\n' :: b).splitOn '\n' = a.splitOn '\n' ++ b.splitOn '\n' := by
  simp only [List.splitOn_eq_splitOnP]
  exact List.splitOnP_append_cons a b (beq_self_eq_true '\n')

theorem toList_splitOn_append (a b : String) : (a ++ "\n" ++ b).toList.splitOn '\n' =
    a.toList.splitOn '\n' ++ b.toList.splitOn '\n' := by
  rw [← splitOn_append_newline]
  simp

/-- The characters of a line are characters of the text. -/
theorem mem_of_mem_splitOn {text line : List Char} {c : Char} (h : line ∈ text.splitOn '\n')
    (hc : c ∈ line) : c ∈ text := by
  have whole : ['\n'].intercalate (text.splitOn '\n') = text := List.intercalate_splitOn '\n'
  rw [← whole]
  generalize text.splitOn '\n' = lines at h
  induction lines with
  | nil => cases h
  | cons first rest ih =>
    rcases rest with - | ⟨next, rest⟩
    · obtain rfl := List.mem_singleton.mp h
      simpa [List.intercalate] using hc
    · have whole : ['\n'].intercalate (first :: next :: rest) =
          first ++ '\n' :: ['\n'].intercalate (next :: rest) := by
        simp [List.intercalate]
      rw [whole]
      rcases List.mem_cons.mp h with rfl | h
      · exact List.mem_append_left _ hc
      · exact List.mem_append_right _ (List.mem_cons_of_mem _ (ih h))

theorem mem_trimStart {cs : List Char} {c : Char} (h : c ∈ cs) (seen : isBlank c = false) :
    c ∈ trimStart cs := by
  rw [← List.takeWhile_append_dropWhile (p := isBlank) (l := cs)] at h
  refine (List.mem_append.mp h).resolve_left fun dropped => ?_
  rw [List.mem_takeWhile_imp dropped] at seen
  cases seen

/-- Only white space is trimmed. -/
theorem mem_trim {cs : List Char} {c : Char} (h : c ∈ cs) (seen : isBlank c = false) :
    c ∈ trim cs := by
  have first := List.mem_reverse.mpr (mem_trimStart h seen)
  exact List.mem_reverse.mpr (mem_trimStart first seen)

/-- The spans of a line in a text to which something has been put in front. -/
def LineSpan.moved (base : Nat) (l : LineSpan) : LineSpan :=
  ⟨l.time, l.author.moved base, l.message.moved base⟩

namespace Grammar

/-- What the parts of a line say. -/
def Parts.remark (p : Parts) : Remark :=
  ⟨p.time, String.ofList p.author, String.ofList p.message⟩

/-- What a line of a body says, if it has the form of the service. -/
def said (s : Service) (line : List Char) : Option Remark :=
  (lineOf s (dropReturn line)).map Parts.remark

variable {s : Service} {line : List Char} {p : Parts}

/-! ### Lines that say nothing -/

theorem bracket_mem_of_head {tail : List Char → Bool} {found : Instant × Nat × List Char}
    (h : head tail line = some found) : '[' ∈ line := by
  unfold head at h
  split at h
  · exact List.mem_cons_self
  · cases h

/-- Every chat line has a bracket. -/
theorem bracket_mem_of_lineOf (h : lineOf s line = some p) : '[' ∈ line := by
  obtain ⟨_, _, _, time⟩ := head_of_lineOf h
  exact bracket_mem_of_head time

/-- The notice that there is no such log has no chat line, however much white space is around it. -/
theorem lineOf_of_notice {body : String} (notice : trimText body = notice s)
    (h : line ∈ body.toList.splitOn '\n') : lineOf s (dropReturn line) = none := by
  rw [Option.eq_none_iff_forall_ne_some]
  intro p form
  obtain ⟨ending, split⟩ := exists_dropReturn line
  have bracket : '[' ∈ line := by
    rw [split]
    exact List.mem_append_left _ (bracket_mem_of_lineOf form)
  have trimmed := mem_trim (mem_of_mem_splitOn h bracket) (by decide)
  rw [← String.toList_ofList (l := trim _), ← trimText, notice] at trimmed
  revert trimmed
  cases s <;> decide

/-! ### Places in a text -/

theorem Parts.spans_add (p : Parts) (base start : Nat) :
    p.spans (base + start) = (p.spans start).moved base := by
  simp only [Parts.spans, LineSpan.moved, Span.moved, Span.stop, Nat.add_assoc]

/-- Chat lines further on are the same lines, moved. -/
theorem spansFrom_add (s : Service) (base start : Nat) (lines : List (List Char)) :
    spansFrom s (base + start) lines = (spansFrom s start lines).map (LineSpan.moved base) := by
  induction lines generalizing start with
  | nil => rfl
  | cons line rest ih =>
    have later := ih (start + utf8Size line + 1)
    rw [show base + (start + utf8Size line + 1) = base + start + utf8Size line + 1 by omega] at later
    rw [spansFrom, spansFrom, later]
    split
    · rw [List.map_cons, Parts.spans_add]
    · rfl

/-- How many bytes some lines take, each with its line break. -/
def linesSize (lines : List (List Char)) : Nat :=
  total (lines.map fun line => utf8Size line + 1)

theorem spansFrom_append (s : Service) (start : Nat) (xs ys : List (List Char)) :
    spansFrom s start (xs ++ ys) = spansFrom s start xs ++ spansFrom s (start + linesSize xs) ys := by
  induction xs generalizing start with
  | nil => rfl
  | cons line rest ih =>
    have size : start + linesSize (line :: rest) = start + utf8Size line + 1 + linesSize rest := by
      simp only [linesSize, List.map_cons, total_cons]
      omega
    rw [List.cons_append, spansFrom, spansFrom, ih, size]
    split <;> rfl

/-- The lines of a text take as many bytes as the text, and one for the break behind the last. -/
theorem linesSize_splitOn (text : List Char) :
    linesSize (text.splitOn '\n') = utf8Size text + 1 := by
  induction text with
  | nil => rfl
  | cons c text ih =>
    rw [List.splitOn_cons_eq_if_modifyHead]
    rcases lines : text.splitOn '\n' with - | ⟨first, rest⟩
    · exact absurd lines (List.splitOn_ne_nil '\n' text)
    · rw [lines] at ih
      simp only [linesSize, List.map_cons, total_cons] at ih
      split
      · next break_ =>
        have size : c.utf8Size = 1 := by
          rw [beq_iff_eq.mp break_]
          decide
        simp only [linesSize, List.map_cons, total_cons, utf8Size_nil, utf8Size_cons]
        omega
      · simp only [linesSize, List.modifyHead_cons, List.map_cons, total_cons, utf8Size_cons]
        omega

theorem spans_append (s : Service) (a b : String) : spans s (a ++ "\n" ++ b) =
    spans s a ++ (spans s b).map (LineSpan.moved (a.utf8ByteSize + 1)) := by
  have size : linesSize (a.toList.splitOn '\n') = a.utf8ByteSize + 1 := by
    rw [linesSize_splitOn, ← utf8ByteSize_ofList, String.ofList_toList]
  rw [spans, toList_splitOn_append, spansFrom_append, size, Nat.zero_add]
  exact congrArg (spans s a ++ ·) (spansFrom_add s (a.utf8ByteSize + 1) 0 _)

/-- The chat lines of a body say what is said in its lines. -/
theorem map_remarkAt_spans (s : Service) (id : LogId) (body : String) :
    (spans s body).map (Log.ofLines id body (spans s body)).remarkAt =
      (body.toList.splitOn '\n').filterMap (said s) := by
  have parts : (body.toList.splitOn '\n').filterMap (said s) =
      ((body.toList.splitOn '\n').filterMap fun line => lineOf s (dropReturn line)).map
        Parts.remark := by
    rw [List.map_filterMap]
    rfl
  rw [parts, ← List.forall₂_eq_eq_eq, List.forall₂_map_left_iff, List.forall₂_map_right_iff]
  refine (forall₂_spans s body).imp fun l p cuts => ?_
  show Remark.mk l.time (l.author.textIn body) (l.message.textIn body) = p.remark
  rw [cuts.time, cuts.author, cuts.message, Parts.remark]

theorem spans_of_notice {body : String} (notice : trimText body = notice s) :
    spans s body = [] := by
  have all := forall₂_spans s body
  rw [List.filterMap_eq_nil_iff.mpr fun line hline => lineOf_of_notice notice hline] at all
  exact List.forall₂_nil_right_iff.mp all

end Grammar

namespace Service

open Grammar

/-- What a log says is what the lines of its body say. -/
theorem remarks_parse (s : Service) (id : LogId) (body : String) :
    (s.parse id body).remarks = (body.toList.splitOn '\n').filterMap (said s) := by
  rw [parse]
  split
  · next notice =>
    have silent : ∀ line ∈ body.toList.splitOn '\n', said s line = none := by
      intro line hline
      rw [said, lineOf_of_notice notice hline, Option.map_none]
    rw [List.filterMap_eq_nil_iff.mpr silent]
    rfl
  · exact map_remarkAt_spans s id body

/-- Where the chat lines of a log are is where they are in its body. -/
theorem lines_parse (s : Service) (id : LogId) (body : String) :
    (s.parse id body).lines.toList = spans s body := by
  rw [parse]
  split
  · next notice => exact (spans_of_notice notice).symm
  · rfl

theorem remarks_append (s : Service) (id : LogId) (a b : String) :
    (s.parse id (a ++ "\n" ++ b)).remarks = (s.parse id a).remarks ++ (s.parse id b).remarks := by
  rw [remarks_parse, remarks_parse, remarks_parse, toList_splitOn_append, List.filterMap_append]

/-- A body is read line by line.  Two bodies with a line break between them say what the one says and
then what the other says; the chat lines of the first are where they were, and those of the second
have moved behind it.  So a text that says nothing, such as a line that does not have the form of the
service, can be put between two bodies, before one or behind one, and nothing else is said. -/
theorem parse_append (s : Service) (id : LogId) (a b : String) :
    (s.parse id (a ++ "\n" ++ b)).remarks = (s.parse id a).remarks ++ (s.parse id b).remarks ∧
    (s.parse id (a ++ "\n" ++ b)).lines.toList = (s.parse id a).lines.toList ++
      (s.parse id b).lines.toList.map (LineSpan.moved (a.utf8ByteSize + 1)) ∧
    ∀ x, (s.parse id x).remarks = [] →
      (s.parse id (a ++ "\n" ++ x ++ "\n" ++ b)).remarks = (s.parse id (a ++ "\n" ++ b)).remarks ∧
      (s.parse id (x ++ "\n" ++ b)).remarks = (s.parse id b).remarks ∧
      (s.parse id (a ++ "\n" ++ x)).remarks = (s.parse id a).remarks := by
  refine ⟨remarks_append s id a b, ?_, fun x silent => ⟨?_, ?_, ?_⟩⟩
  · rw [lines_parse, lines_parse, lines_parse, spans_append]
  · rw [remarks_append, remarks_append, remarks_append, silent, List.append_nil]
  · rw [remarks_append, silent, List.nil_append]
  · rw [remarks_append, silent, List.append_nil]

end Service

end Scrollback
