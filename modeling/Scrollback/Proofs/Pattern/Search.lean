/-
Running a machine finds a match wherever there is one.

The threads at a spot are kept in order of preference, and those behind a thread that accepts are
given up.  Neither matters to whether there is a match at all: giving up happens only when there is.
So a place speaks for its threads (`Place.Accepts`), and `accepts_place_iff` says that it does so
truly.  One half is an induction on the visits; for the other half the instructions that have been
visited are closed under steps that consume nothing, up to those that still wait to be visited
(`Explored`), and as every instruction is visited once only, the visits end before they are cut off.

Main statement: `found_program_iff`.
-/
import Scrollback.Pattern.Search
import Scrollback.Proofs.Pattern.Meaning

namespace Scrollback.Pattern

variable {code : Code} {p : Spot} {i next : Nat} {set : CharSet}

/-! ### Accepting somewhere -/

/-- From an instruction and a spot, the machine can accept somewhere. -/
def Code.Accepts (code : Code) (i : Nat) (p : Spot) : Prop :=
  ∃ n q, code.Leads n i p q

/-- A waiting thread can accept, given the text in front of which it waits. -/
def Waiting.Accepts (code : Code) (rest : List Char) (w : Waiting) : Prop :=
  ∃ c more, rest = c :: more ∧ w.1.has c = true ∧ code.Accepts w.2 ⟨some c, more⟩

/-- One of the threads of a place accepts there or can accept further on. -/
def Place.Accepts (code : Code) (rest : List Char) (here : Place) : Prop :=
  here.accepted = true ∨ ∃ w ∈ here.waiting, w.Accepts code rest

namespace Code

theorem accepts_one (at' : code[i]? = some (.one set next)) :
    code.Accepts i p ↔ Waiting.Accepts code p.rest (set, next) := by
  constructor
  · rintro ⟨n, r, on⟩
    obtain ⟨m, ⟨before, rest⟩, -, ⟨c, has, text, rfl⟩, on⟩ := (leads_one at').mp on
    exact ⟨c, rest, text, has, m, r, on⟩
  · rintro ⟨c, rest, text, has, m, r, on⟩
    exact ⟨m + 1, r, (leads_one at').mpr ⟨m, _, rfl, ⟨c, has, text, rfl⟩, on⟩⟩

theorem accepts_look {l : Look} (at' : code[i]? = some (.look l next)) :
    code.Accepts i p ↔ l.holds p.before p.rest.head? = true ∧ code.Accepts next p := by
  constructor
  · rintro ⟨n, r, on⟩
    obtain ⟨m, -, holds, on⟩ := (leads_look at').mp on
    exact ⟨holds, m, r, on⟩
  · rintro ⟨holds, m, r, on⟩
    exact ⟨m + 1, r, (leads_look at').mpr ⟨m, rfl, holds, on⟩⟩

theorem accepts_fork {a b : Nat} (at' : code[i]? = some (.fork a b)) :
    code.Accepts i p ↔ code.Accepts a p ∨ code.Accepts b p := by
  constructor
  · rintro ⟨n, r, on⟩
    obtain ⟨m, -, on | on⟩ := (leads_fork at').mp on
    · exact .inl ⟨m, r, on⟩
    · exact .inr ⟨m, r, on⟩
  · rintro (⟨m, r, on⟩ | ⟨m, r, on⟩)
    · exact ⟨m + 1, r, (leads_fork at').mpr ⟨m, rfl, .inl on⟩⟩
    · exact ⟨m + 1, r, (leads_fork at').mpr ⟨m, rfl, .inr on⟩⟩

end Code

namespace Program

/-! ### Visits -/

variable {fuel : Nat} {stack : List Nat} {seen : Array Bool} {found : List Waiting}

theorem getElem?_of_getD (inside : i < code.size) {instr : Instr}
    (h : code.getD i .accept = instr) : code[i]? = some instr := by
  rw [Array.getD_eq_getD_getElem?, Array.getElem?_eq_getElem inside] at h
  rw [Array.getElem?_eq_getElem inside]
  exact congrArg some h

theorem lt_of_unseen (size : seen.size = code.size) (unseen : ¬ seen.getD i true = true) :
    i < code.size := by
  by_contra beyond
  rw [Array.getD_eq_getD_getElem?, Array.getElem?_eq_none (by omega)] at unseen
  exact unseen rfl

/-- What a place promises, one of the threads that lead to it can keep. -/
theorem accepts_of_follow (size : seen.size = code.size)
    (h : (follow code p.before p.rest.head? fuel stack seen found).Accepts code p.rest) :
    (∃ w ∈ found, w.Accepts code p.rest) ∨ ∃ i ∈ stack, code.Accepts i p := by
  induction fuel generalizing stack seen found with
  | zero =>
    obtain bad | ⟨w, hw, accepts⟩ := h
    · cases bad
    · exact .inl ⟨w, List.mem_reverse.mp hw, accepts⟩
  | succ fuel ih =>
    rcases stack with - | ⟨i, stack⟩
    · obtain bad | ⟨w, hw, accepts⟩ := h
      · cases bad
      · exact .inl ⟨w, List.mem_reverse.mp hw, accepts⟩
    · rw [follow] at h
      split at h
      · -- visited before
        obtain fromFound | ⟨j, hj, accepts⟩ := ih size h
        · exact .inl fromFound
        · exact .inr ⟨j, List.mem_cons_of_mem _ hj, accepts⟩
      · next unseen =>
        have inside := lt_of_unseen size unseen
        have size' : (seen.set! i true).size = code.size := by simpa using size
        split at h
        · next at' =>
          exact .inr ⟨i, List.mem_cons_self, 0, p, .accept (getElem?_of_getD inside at')⟩
        · next set next at' =>
          have at' := getElem?_of_getD inside at'
          obtain ⟨w, hw, accepts⟩ | ⟨j, hj, accepts⟩ := ih size' h
          · rcases List.mem_cons.mp hw with rfl | hw
            · exact .inr ⟨i, List.mem_cons_self, (Code.accepts_one at').mpr accepts⟩
            · exact .inl ⟨w, hw, accepts⟩
          · exact .inr ⟨j, List.mem_cons_of_mem _ hj, accepts⟩
        · next l next at' =>
          have at' := getElem?_of_getD inside at'
          split at h
          · next holds =>
            obtain fromFound | ⟨j, hj, accepts⟩ := ih size' h
            · exact .inl fromFound
            · rcases List.mem_cons.mp hj with rfl | hj
              · exact .inr ⟨i, List.mem_cons_self, (Code.accepts_look at').mpr ⟨holds, accepts⟩⟩
              · exact .inr ⟨j, List.mem_cons_of_mem _ hj, accepts⟩
          · obtain fromFound | ⟨j, hj, accepts⟩ := ih size' h
            · exact .inl fromFound
            · exact .inr ⟨j, List.mem_cons_of_mem _ hj, accepts⟩
        · next first second at' =>
          have at' := getElem?_of_getD inside at'
          obtain fromFound | ⟨j, hj, accepts⟩ := ih size' h
          · exact .inl fromFound
          · rcases List.mem_cons.mp hj with rfl | hj
            · exact .inr ⟨i, List.mem_cons_self, (Code.accepts_fork at').mpr (.inl accepts)⟩
            · rcases List.mem_cons.mp hj with rfl | hj
              · exact .inr ⟨i, List.mem_cons_self, (Code.accepts_fork at').mpr (.inr accepts)⟩
              · exact .inr ⟨j, List.mem_cons_of_mem _ hj, accepts⟩

/-- An instruction has been visited, if there is such a one, or is going to be. -/
def Reached (stack : List Nat) (seen : Array Bool) (i : Nat) : Prop :=
  seen.getD i true = true ∨ i ∈ stack

/-- Wherever an instruction that has been visited leads without consuming anything is reached, and
it neither accepts nor waits without having been noted. -/
def Explored (code : Code) (p : Spot) (stack : List Nat) (seen : Array Bool)
    (found : List Waiting) (i : Nat) : Prop :=
  match code.getD i .accept with
  | .accept => False
  | .one set next => (set, next) ∈ found
  | .look l next => l.holds p.before p.rest.head? = true → Reached stack seen next
  | .fork first second => Reached stack seen first ∧ Reached stack seen second

theorem Explored.mono {stack' : List Nat} {seen' : Array Bool} {found' : List Waiting}
    (h : Explored code p stack seen found i)
    (reached : ∀ j, Reached stack seen j → Reached stack' seen' j)
    (noted : ∀ w ∈ found, w ∈ found') : Explored code p stack' seen' found' i := by
  unfold Explored at h ⊢
  split at h
  · exact h
  · exact noted _ h
  · exact fun holds => reached _ (h holds)
  · exact ⟨reached _ h.1, reached _ h.2⟩

/-- Once nothing is left to be visited, a thread that can accept has been noted. -/
theorem exists_of_explored (explored : ∀ j < code.size, seen.getD j true = true →
      Explored code p [] seen found j) (visited : seen.getD i true = true)
    (accepts : code.Accepts i p) : ∃ w ∈ found, w.Accepts code p.rest := by
  obtain ⟨n, q, on⟩ := accepts
  induction n generalizing i with
  | zero =>
    cases on with
    | accept at' =>
      obtain ⟨inside, eq⟩ := Array.getElem?_eq_some_iff.mp at'
      have done := explored i inside visited
      simp [Explored, at'] at done
  | succ n ih =>
    have reached : ∀ {j}, Reached [] seen j → seen.getD j true = true :=
      fun h => h.resolve_right List.not_mem_nil
    have inside : i < code.size := by
      by_contra beyond
      exact Code.leads_of_none (Array.getElem?_eq_none (not_lt.mp beyond)) on
    have done := explored i inside visited
    rcases instr : code.getD i .accept with - | ⟨set, next⟩ | ⟨l, next⟩ | ⟨first, second⟩
    · simp [Explored, instr] at done
    · have at' := getElem?_of_getD inside instr
      simp only [Explored, instr] at done
      exact ⟨_, done, (Code.accepts_one at').mp ⟨_, _, on⟩⟩
    · have at' := getElem?_of_getD inside instr
      simp only [Explored, instr] at done
      obtain ⟨m, steps, holds, on⟩ := (Code.leads_look at').mp on
      obtain rfl : n = m := Nat.succ.inj steps
      exact ih (reached (done holds)) on
    · have at' := getElem?_of_getD inside instr
      simp only [Explored, instr] at done
      obtain ⟨m, steps, on | on⟩ := (Code.leads_fork at').mp on
      · obtain rfl : n = m := Nat.succ.inj steps
        exact ih (reached done.1) on
      · obtain rfl : n = m := Nat.succ.inj steps
        exact ih (reached done.2) on

theorem getD_set_true (inside : i < seen.size) (j : Nat) :
    (seen.set! i true).getD j true = true ↔ seen.getD j true = true ∨ j = i := by
  by_cases same : j = i
  · subst same
    simp [inside]
  · simp [Ne.symm same, same]

/-- A visit leaves one instruction less to be visited. -/
theorem count_set_true (inside : i < seen.size) (unseen : ¬ seen.getD i true = true) :
    (seen.set! i true).count false + 1 = seen.count false := by
  rw [Array.getD_eq_getD_getElem?, Array.getElem?_eq_getElem inside] at unseen
  have old : seen[i] = false := by simpa using unseen
  have some : 0 < seen.count false :=
    Array.count_pos_iff.mpr (old ▸ Array.getElem_mem inside)
  rw [Array.set!_eq_setIfInBounds, Array.setIfInBounds_def, dif_pos inside, Array.count_set]
  simp only [old, beq_self_eq_true, if_true, Bool.true_beq, Bool.false_eq_true, if_false]
  omega

/-- A thread that can accept is not lost, as long as there is room for every visit. -/
theorem accepts_follow (size : seen.size = code.size)
    (room : stack.length + 3 * seen.count false < fuel)
    (explored : ∀ j < code.size, seen.getD j true = true → Explored code p stack seen found j)
    (reached : Reached stack seen i) (accepts : code.Accepts i p) :
    (follow code p.before p.rest.head? fuel stack seen found).Accepts code p.rest := by
  induction fuel generalizing stack seen found with
  | zero => omega
  | succ fuel ih =>
    rcases stack with - | ⟨k, stack⟩
    · obtain ⟨w, hw, on⟩ :=
        exists_of_explored explored (reached.resolve_right List.not_mem_nil) accepts
      exact .inr ⟨w, List.mem_reverse.mpr hw, on⟩
    · rw [follow]
      split
      · next visited =>
        -- nothing new is reached
        have same : ∀ j, Reached (k :: stack) seen j → Reached stack seen j := by
          rintro j (h | h)
          · exact .inl h
          · rcases List.mem_cons.mp h with rfl | h
            · exact .inl visited
            · exact .inr h
        refine ih size ?_ (fun j inside h => (explored j inside h).mono same fun _ => id)
          (same i reached)
        rw [List.length_cons] at room
        omega
      · next unseen =>
        have inside := lt_of_unseen size unseen
        have size' : (seen.set! k true).size = code.size := by simpa using size
        have visited := getD_set_true (size ▸ inside : k < seen.size)
        have fewer := count_set_true (size ▸ inside : k < seen.size) unseen
        -- whatever is put on the stack in place of `k`, everything reached stays so
        have go : ∀ front found', front.length ≤ 2 → (∀ w ∈ found, w ∈ found') →
            Explored code p (front ++ stack) (seen.set! k true) found' k →
            (follow code p.before p.rest.head? fuel (front ++ stack) (seen.set! k true)
              found').Accepts code p.rest := by
          intro front found' short noted here
          have kept : ∀ j, Reached (k :: stack) seen j →
              Reached (front ++ stack) (seen.set! k true) j := by
            rintro j (h | h)
            · exact .inl ((visited j).mpr (.inl h))
            · rcases List.mem_cons.mp h with rfl | h
              · exact .inl ((visited j).mpr (.inr rfl))
              · exact .inr (List.mem_append_right _ h)
          refine ih size' ?_ (fun j inside h => ?_) (kept i reached)
          · rw [List.length_cons] at room
            rw [List.length_append]
            omega
          · rcases (visited j).mp h with h | rfl
            · exact (explored j inside h).mono kept noted
            · exact here
        have top : ∀ {j front}, j ∈ front → Reached (front ++ stack) (seen.set! k true) j :=
          fun h => .inr (List.mem_append_left _ h)
        rcases instr : code.getD k .accept with - | ⟨set, next⟩ | ⟨l, next⟩ | ⟨first, second⟩
        · exact .inl rfl
        · refine go [] _ (by simp) (fun w => List.mem_cons_of_mem _) ?_
          simp [Explored, instr]
        · dsimp only
          split
          · refine go [next] _ (by simp) (fun w => id) ?_
            simp only [Explored, instr]
            exact fun _ => top List.mem_cons_self
          · next fails =>
            refine go [] _ (by simp) (fun w => id) ?_
            simp only [Explored, instr]
            exact fun holds => absurd holds fails
        · refine go [first, second] _ (by simp) (fun w => id) ?_
          simp only [Explored, instr]
          exact ⟨top List.mem_cons_self, top (List.mem_cons_of_mem _ List.mem_cons_self)⟩

/-- A place accepts if and only if one of the threads that begin there does. -/
theorem accepts_place_iff {machine : Program} {starts : List Nat} :
    (machine.place p.before p.rest.head? starts).Accepts machine.code p.rest ↔
      ∃ i ∈ starts, machine.code.Accepts i p := by
  have size : (Array.replicate machine.code.size false).size = machine.code.size := by simp
  constructor
  · intro h
    obtain ⟨w, hw, -⟩ | accepts := accepts_of_follow size h
    · cases hw
    · exact accepts
  · rintro ⟨i, hi, accepts⟩
    refine accepts_follow size ?_ (fun j inside visited => ?_) (.inr hi) accepts
    · rw [Array.count_replicate_self]
      omega
    · simp [inside] at visited

/-! ### Runs -/

/-- A run ends with a match if it had one, or if one of its threads can accept. -/
theorem isSome_run_iff {machine : Program} {before : Option Char} {rest : List Char}
    {starts : List Nat} {n : Nat} {best : Option Nat} :
    (machine.run before rest starts n best).isSome = true ↔
      best.isSome = true ∨ ∃ i ∈ starts, machine.code.Accepts i ⟨before, rest⟩ := by
  induction rest generalizing before starts n best with
  | nil =>
    have here := @accepts_place_iff ⟨before, []⟩ machine starts
    rw [← here, run]
    simp only [Place.Accepts, Waiting.Accepts, List.head?_nil, List.nil_eq, reduceCtorEq, false_and,
      exists_false, and_false, or_false]
    split
    · next accepted => simp [accepted]
    · next accepted => simp [accepted]
  | cons c rest ih =>
    have here := @accepts_place_iff ⟨before, c :: rest⟩ machine starts
    rw [← here, run]
    simp only [Place.Accepts, List.head?_cons]
    generalize machine.place before (some c) starts = place
    have waiting : (∃ w ∈ place.waiting, Waiting.Accepts machine.code (c :: rest) w) ↔
        ∃ i ∈ advance c place.waiting, machine.code.Accepts i ⟨some c, rest⟩ := by
      simp only [Waiting.Accepts, advance, List.mem_filterMap, Option.ite_none_right_eq_some,
        Option.some_inj]
      constructor
      · rintro ⟨w, hw, c', more, text, has, accepts⟩
        obtain ⟨rfl, rfl⟩ := List.cons.inj text
        exact ⟨w.2, ⟨w, hw, has, rfl⟩, accepts⟩
      · rintro ⟨_, ⟨w, hw, has, rfl⟩, accepts⟩
        exact ⟨w, hw, c, rest, rfl, has, accepts⟩
    have best' : (if place.accepted then some n else best).isSome = true ↔
        best.isSome = true ∨ place.accepted = true := by
      cases place.accepted <;> simp
    split
    · next none =>
      rw [best', List.isEmpty_iff.mp none]
      simp
    · rw [ih, best', waiting, or_assoc]

/-- There is a match at a spot where the machine can accept. -/
theorem isSome_matchLength?_iff {machine : Program} :
    (machine.matchLength? p.before p.rest).isSome = true ↔
      machine.code.Accepts machine.start p := by
  rw [matchLength?, isSome_run_iff]
  simp

theorem getLast?_cons_orElse (c : Char) (front : List Char) (before : Option Char) :
    ((c :: front).getLast? <|> before) = (front.getLast? <|> some c) := by
  rw [List.getLast?_cons]
  cases front.getLast? <;> rfl

/-- A match is found in a text that has one, wherever it begins. -/
theorem foundFrom_iff {machine : Program} {before : Option Char} {rest : List Char} :
    machine.foundFrom before rest = true ↔ ∃ front back, rest = front ++ back ∧
      machine.code.Accepts machine.start ⟨front.getLast? <|> before, back⟩ := by
  induction rest generalizing before with
  | nil =>
    rw [foundFrom, isSome_matchLength?_iff (p := ⟨before, []⟩)]
    constructor
    · exact fun here => ⟨[], [], rfl, here⟩
    · rintro ⟨front, back, text, accepts⟩
      obtain ⟨rfl, rfl⟩ := List.nil_eq_append_iff.mp text
      exact accepts
  | cons c rest ih =>
    rw [foundFrom, Bool.or_eq_true, isSome_matchLength?_iff (p := ⟨before, c :: rest⟩), ih]
    constructor
    · rintro (here | ⟨front, back, rfl, later⟩)
      · exact ⟨[], c :: rest, rfl, here⟩
      · refine ⟨c :: front, back, rfl, ?_⟩
        rwa [getLast?_cons_orElse]
    · rintro ⟨front, back, text, accepts⟩
      rcases front with - | ⟨c', front⟩
      · obtain rfl : c :: rest = back := text
        exact .inl accepts
      · obtain ⟨rfl, rfl⟩ := List.cons.inj text
        refine .inr ⟨front, back, rfl, ?_⟩
        rwa [getLast?_cons_orElse] at accepts

end Program

/-- The machine of an expression finds a match in a text if and only if the expression can match
some of it, from one of its spots on. -/
theorem Expr.found_program_iff {e : Expr} {text : List Char} :
    e.program.found text = true ↔ ∃ front back, text = front ++ back ∧
      ∃ q, e.Matches ⟨front.getLast?, back⟩ q := by
  have accepts : ∀ p, e.program.code.Accepts e.program.start p ↔ ∃ q, e.Matches p q := by
    intro p
    simp only [Code.Accepts, ← leads_program_iff]
    exact exists_comm
  rw [Program.found, Program.foundFrom_iff]
  simp only [accepts, Option.orElse_eq_orElse, Option.orElse_eq_or, Option.or_none]

/-- What can only match from the start of a text to its end. -/
def Expr.whole (e : Expr) : Expr :=
  .seq (.look .textStart) (.seq e (.look .textEnd))

/-- The machine of a whole expression finds a match if and only if the expression can match the
whole of the text. -/
theorem Expr.found_whole_iff {e : Expr} {text : List Char} :
    e.whole.program.found text = true ↔ e.MatchesAll text := by
  rw [found_program_iff]
  simp only [whole, Matches, MatchesAll, Look.holds, Option.isNone_iff_eq_none]
  constructor
  · rintro ⟨front, back, rfl, q, p, ⟨start, rfl⟩, ⟨last, rest⟩, matched, stop, rfl⟩
    obtain rfl : front = [] := List.getLast?_eq_none_iff.mp start
    obtain rfl : rest = [] := List.head?_eq_none_iff.mp stop
    exact ⟨last, matched⟩
  · rintro ⟨last, matched⟩
    exact ⟨[], text, rfl, ⟨last, []⟩, _, ⟨rfl, rfl⟩, _, matched, rfl, rfl⟩

end Scrollback.Pattern
