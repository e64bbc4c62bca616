/-
Every query is answered once.  A query that would have to look at too many logs is refused, whatever
the shelf and the service have.  Any other query is answered by what these supply for its targets
(`Surroundings.Supplies.answersOnce`): by the reason why a log is missing, and then by nothing else,
or from the logs of all targets, and these alone.
-/
import Scrollback.Proofs.Query.Gathering

namespace Scrollback

namespace Query

variable (q : Query)

/-! ### Targets -/

/-- The logs that a query is about, as many as they may be. -/
def wanted : List Target :=
  q.service.targets q.channels q.users q.period

variable {q}

theorem exists_targets_of_lt (many : maxTargets < q.targetCount) :
    ∃ reason, q.targets = .error reason := by
  rw [targets, if_pos many]
  exact ⟨_, rfl⟩

theorem targets_of_le (few : q.targetCount ≤ maxTargets) : q.targets = .ok q.wanted := by
  rw [targets, if_neg (Nat.not_lt.mpr few)]
  rfl

/-! ### Parts of an answer -/

variable (q)

/-- How often what is searched for occurs in some logs, as a word. -/
def countIn (logs : List Log) : Nat :=
  total (logs.map q.countPart) % (wordMax + 1)

/-- The matching lines of some logs, in the order of their times. -/
def linesIn (logs : List Log) : List Line :=
  (logs.flatMap q.linePart).mergeSort fun a b => decide (a.time ≤ b.time)

variable {q}

theorem finish_countPart (logs : List Log) :
    Collector.sum.finish ((logs.map q.countPart).foldl Collector.sum.fold Collector.sum.start) =
      q.countIn logs := by
  show (logs.map q.countPart).foldl Collector.sum.fold 0 = _
  rw [Batch.foldl_sum _ 0 (Nat.zero_le _), Nat.zero_add]
  rfl

theorem finish_linePart (logs : List Log) :
    Collector.lines.finish
      ((logs.map q.linePart).foldl Collector.lines.fold Collector.lines.start) =
      q.linesIn logs := by
  have all : ∀ lines, (logs.map q.linePart).foldl Collector.lines.fold lines =
      lines ++ logs.flatMap q.linePart := by
    induction logs with
    | nil => exact fun lines => (List.append_nil lines).symm
    | cons log logs ih =>
      intro lines
      rw [List.map_cons, List.foldl_cons, ih, List.flatMap_cons]
      exact List.append_assoc ..
  rw [all]
  rfl

end Query

namespace Surroundings

variable {w : Surroundings} {q : Query} {shelf : Shelf} {r : Except String (List Log)}

/-! ### Answers -/

/-- By what is supplied for its targets a query is answered once: by a failure that says nothing
but its reason, or from all logs. -/
structure AnswersOnce (w : Surroundings) (q : Query) (shelf : Shelf)
    (r : Except String (List Log)) : Prop where
  failed : ∀ reason, r = .error reason →
    (w.count q shelf).answers = [.failed reason] ∧
    (w.find q shelf).answers = [.failed reason] ∧ (w.find q shelf).pastes = []
  counted : ∀ logs, r = .ok logs → (w.count q shelf).answers = [.count (q.countIn logs)]
  unmatched : ∀ logs, r = .ok logs → q.linesIn logs = [] →
    (w.find q shelf).answers = [.noMatch] ∧ (w.find q shelf).pastes = []
  found : ∀ logs location, r = .ok logs → q.linesIn logs ≠ [] →
    w.paste (transcript (q.linesIn logs)) = .ok location →
    (w.find q shelf).answers = [.found location] ∧
    (w.find q shelf).pastes = [transcript (q.linesIn logs)]
  unpasted : ∀ logs e, r = .ok logs → q.linesIn logs ≠ [] →
    w.paste (transcript (q.linesIn logs)) = .error e →
    (w.find q shelf).answers = [.failed e.message] ∧
    (w.find q shelf).pastes = [transcript (q.linesIn logs)]
  /-- Only matching lines are pasted. -/
  quiet : (w.count q shelf).pastes = []

/-- The answer that the outcome of a count comes to. -/
def countAnswer : Outcome Nat → Answer
  | .done n => .count n
  | .failed reason => .failed reason

theorem outcomeOf_countPart (logs : List Log) :
    outcomeOf .sum q.countPart (.ok logs) = .done (q.countIn logs) := by
  rw [outcomeOf, Query.finish_countPart]

theorem outcomeOf_linePart (logs : List Log) :
    outcomeOf .lines q.linePart (.ok logs) = .done (q.linesIn logs) := by
  rw [outcomeOf, Query.finish_linePart]

theorem Supplies.count_eq (h : w.Supplies q.service q.wanted shelf r)
    (few : q.targetCount ≤ Query.maxTargets) :
    (w.count q shelf).answers = [countAnswer (outcomeOf .sum q.countPart r)] ∧
      (w.count q shelf).pastes = [] := by
  rw [count, q.targets_of_le few]
  dsimp only
  rw [outcomes_gather h]
  exact ⟨rfl, rfl⟩

theorem Supplies.find_eq (h : w.Supplies q.service q.wanted shelf r)
    (few : q.targetCount ≤ Query.maxTargets) :
    (w.find q shelf).answers = [w.findAnswer (outcomeOf .lines q.linePart r)] ∧
      (w.find q shelf).pastes = [outcomeOf .lines q.linePart r].filterMap pasteOf := by
  rw [find, q.targets_of_le few]
  dsimp only
  rw [outcomes_gather h]
  exact ⟨rfl, rfl⟩

theorem pasteOf_done {lines : List Line} (some : lines ≠ []) :
    pasteOf (.done lines) = .some (transcript lines) := by
  rw [pasteOf, if_neg (mt List.isEmpty_iff.mp some)]

/-- Matching lines are pasted, and the answer is what comes of it. -/
theorem findAnswer_done (w : Surroundings) {lines : List Line} (some : lines ≠ []) :
    w.findAnswer (.done lines) =
      match w.paste (transcript lines) with
      | .ok location => .found location
      | .error e => .failed e.message := by
  rcases pasted : w.paste (transcript lines) with e | location
  · simp only [findAnswer, pasteOf_done some, pasted]
  · simp only [findAnswer, pasteOf_done some, pasted]

theorem Supplies.answersOnce (h : w.Supplies q.service q.wanted shelf r)
    (few : q.targetCount ≤ Query.maxTargets) : w.AnswersOnce q shelf r := by
  obtain ⟨counted, quiet⟩ := h.count_eq few
  obtain ⟨found, pastes⟩ := h.find_eq few
  constructor
  case quiet => exact quiet
  case failed =>
    rintro reason rfl
    exact ⟨counted, found, pastes⟩
  case counted =>
    rintro logs rfl
    rw [counted, outcomeOf_countPart]
    rfl
  case unmatched =>
    rintro logs rfl none
    rw [found, pastes, outcomeOf_linePart, none]
    exact ⟨rfl, rfl⟩
  case found =>
    rintro logs location rfl some pasted
    rw [found, pastes, outcomeOf_linePart, w.findAnswer_done some, pasted, List.filterMap_cons,
      pasteOf_done some]
    exact ⟨rfl, rfl⟩
  case unpasted =>
    rintro logs e rfl some unpasted
    rw [found, pastes, outcomeOf_linePart, w.findAnswer_done some, unpasted, List.filterMap_cons,
      pasteOf_done some]
    exact ⟨rfl, rfl⟩

/-- A query for too many logs fails, and nothing is looked up, fetched or stored for it.  Of any
other query the shelf and the service supply all logs or a reason for failing, and it is answered
once, by that.  A fetch that fails when it is shutting down has handed over all that it should. -/
theorem answers_once (w : Surroundings) (q : Query) (shelf : Shelf) :
    (Query.maxTargets < q.targetCount → ∃ reason, ∀ (w : Surroundings) (shelf : Shelf),
      w.count q shelf = ⟨[.failed reason], [], shelf⟩ ∧
      w.find q shelf = ⟨[.failed reason], [], shelf⟩) ∧
    (q.targetCount ≤ Query.maxTargets →
      (∃ r, w.Supplies q.service q.wanted shelf r) ∧
      ∀ r, w.Supplies q.service q.wanted shelf r → w.AnswersOnce q shelf r) ∧
    ∀ (service : Service) (e : Endpoint) (targets : List Target),
      (w.fetch service e targets).stage = .shuttingDown →
      (w.fetch service e targets).logs.length = targets.length := by
  refine ⟨fun many => ?_, fun few => ⟨w.exists_supplies .., fun r h => h.answersOnce few⟩, ?_⟩
  · obtain ⟨reason, refused⟩ := Query.exists_targets_of_lt many
    refine ⟨reason, fun w shelf => ⟨?_, ?_⟩⟩
    · rw [count, refused]
    · rw [find, refused]
  · exact fun _ _ _ late => Fetch.length_logs_run (.inr late)

end Surroundings

end Scrollback
