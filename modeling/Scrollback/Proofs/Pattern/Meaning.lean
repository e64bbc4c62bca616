/-
What an expression means, and that its machine means the same.

A `Spot` of a text is the character before it and the text behind it, which is all that conditions
look at.  `Expr.Matches` says which spots an expression can lead to from which; it is said over the
expression alone.  A machine is read the other way round: `Code.Leads` follows instructions from a
spot until one accepts.

Code grows at its end, but a loop changes an instruction that has been put before.  So what
`Expr.emit` adds is described by what it does within any larger code that has just the new
instructions (`Code.Joins`): from its start, the ways on are the stretches that the expression
matches, followed by the ways on from `next`.  Main statement: `Expr.leads_program_iff`.
-/
import Mathlib
import Scrollback.Pattern.Program

namespace Scrollback.Pattern

/-- A spot in a text: the character before it, if any, and the text behind it. -/
structure Spot where
  before : Option Char
  rest : List Char

/-! ### Repeated stretches -/

/-- One stretch after another, so many of them. -/
inductive Times (R : Spot → Spot → Prop) : Nat → Spot → Spot → Prop
  | zero {p} : Times R 0 p p
  | succ {n p q r} (one : R p q) (more : Times R n q r) : Times R (n + 1) p r

variable {R S : Spot → Spot → Prop} {p q r : Spot} {m n : Nat}

theorem times_zero : Times R 0 p q ↔ p = q := by
  constructor
  · rintro ⟨⟩
    rfl
  · rintro rfl
    exact .zero

theorem times_succ : Times R (n + 1) p r ↔ ∃ q, R p q ∧ Times R n q r := by
  constructor
  · rintro (_ | ⟨one, more⟩)
    exact ⟨_, one, more⟩
  · rintro ⟨q, one, more⟩
    exact .succ one more

theorem times_add : Times R (m + n) p r ↔ ∃ q, Times R m p q ∧ Times R n q r := by
  induction m generalizing p with
  | zero => simp [times_zero]
  | succ m ih =>
    rw [Nat.succ_add, times_succ]
    simp only [times_succ, ih]
    constructor
    · rintro ⟨q, one, q', front, back⟩
      exact ⟨q', ⟨q, one, front⟩, back⟩
    · rintro ⟨q', ⟨q, one, front⟩, back⟩
      exact ⟨q, one, q', front, back⟩

theorem times_one : Times R 1 p q ↔ R p q := by
  simp [times_succ, times_zero]

/-- Any number of stretches. -/
def Star (R : Spot → Spot → Prop) (p q : Spot) : Prop :=
  ∃ n, Times R n p q

/-- At most so many stretches. -/
def UpTo (most : Nat) (R : Spot → Spot → Prop) (p q : Spot) : Prop :=
  ∃ n ≤ most, Times R n p q

/-- A stretch of one kind and then one of the other. -/
def Then (R S : Spot → Spot → Prop) (p r : Spot) : Prop :=
  ∃ q, R p q ∧ S q r

theorem star_iff : Star R p q ↔ Then R (Star R) p q ∨ p = q := by
  constructor
  · rintro ⟨n, h⟩
    rcases n with - | n
    · exact .inr (times_zero.mp h)
    · obtain ⟨m, one, more⟩ := times_succ.mp h
      exact .inl ⟨m, one, n, more⟩
  · rintro (⟨m, one, n, more⟩ | rfl)
    · exact ⟨n + 1, .succ one more⟩
    · exact ⟨0, .zero⟩

/-! ### Expressions -/

/-- From one spot, an expression can match the text up to another one.  A repetition matches its
body as often as it must, and then up to as many times more as it may. -/
def Expr.Matches : Expr → Spot → Spot → Prop
  | .empty, p, q => p = q
  | .one set, p, q => ∃ c, set.has c = true ∧ p.rest = c :: q.rest ∧ q.before = some c
  | .look l, p, q => l.holds p.before p.rest.head? = true ∧ p = q
  | .seq a b, p, q => ∃ m, a.Matches p m ∧ b.Matches m q
  | .alt a b, p, q => a.Matches p q ∨ b.Matches p q
  | .repeats body least most _, p, q =>
    ∃ more, (∀ m ∈ most, more ≤ m - least) ∧ Times body.Matches (least + more) p q
  | .group body, p, q => body.Matches p q

/-- An expression can match the whole of a text. -/
def Expr.MatchesAll (e : Expr) (text : List Char) : Prop :=
  ∃ last, e.Matches ⟨none, text⟩ ⟨last, []⟩

/-! ### Following instructions -/

namespace Code

/-- From an instruction and a spot, the machine can accept at another spot, in so many steps. -/
inductive Leads (code : Code) : Nat → Nat → Spot → Spot → Prop
  | accept {i p} (at' : code[i]? = some .accept) : Leads code 0 i p p
  | one {n i set next before c rest q} (at' : code[i]? = some (.one set next))
      (has : set.has c = true) (on : Leads code n next ⟨some c, rest⟩ q) :
      Leads code (n + 1) i ⟨before, c :: rest⟩ q
  | look {n i l next p q} (at' : code[i]? = some (.look l next))
      (holds : l.holds p.before p.rest.head? = true) (on : Leads code n next p q) :
      Leads code (n + 1) i p q
  | first {n i a b p q} (at' : code[i]? = some (.fork a b)) (on : Leads code n a p q) :
      Leads code (n + 1) i p q
  | second {n i a b p q} (at' : code[i]? = some (.fork a b)) (on : Leads code n b p q) :
      Leads code (n + 1) i p q

variable {code big : Code} {i next start again : Nat} {set : CharSet} {l : Look}

theorem leads_accept (at' : code[i]? = some .accept) : code.Leads n i p q ↔ n = 0 ∧ p = q := by
  constructor
  · intro h
    cases h <;> simp_all
  · rintro ⟨rfl, rfl⟩
    exact .accept at'

theorem leads_one (at' : code[i]? = some (.one set next)) : code.Leads n i p r ↔
    ∃ m q, n = m + 1 ∧ (Expr.one set).Matches p q ∧ code.Leads m next q r := by
  constructor
  · intro h
    cases h with
    | one at'' has on =>
      obtain ⟨rfl, rfl⟩ : _ = set ∧ _ = next := by simpa [at'] using at''.symm
      exact ⟨_, _, rfl, ⟨_, has, rfl, rfl⟩, on⟩
    | _ => simp_all
  · rintro ⟨m, ⟨before, rest⟩, rfl, ⟨c, has, text, rfl⟩, on⟩
    obtain ⟨before', text'⟩ := p
    obtain rfl : text' = c :: rest := text
    exact .one at' has on

theorem leads_look (at' : code[i]? = some (.look l next)) : code.Leads n i p r ↔
    ∃ m, n = m + 1 ∧ l.holds p.before p.rest.head? = true ∧ code.Leads m next p r := by
  constructor
  · intro h
    cases h with
    | look at'' holds on =>
      obtain ⟨rfl, rfl⟩ : _ = l ∧ _ = next := by simpa [at'] using at''.symm
      exact ⟨_, rfl, holds, on⟩
    | _ => simp_all
  · rintro ⟨m, rfl, holds, on⟩
    exact .look at' holds on

theorem leads_fork {a b : Nat} (at' : code[i]? = some (.fork a b)) : code.Leads n i p r ↔
    ∃ m, n = m + 1 ∧ (code.Leads m a p r ∨ code.Leads m b p r) := by
  constructor
  · intro h
    cases h with
    | first at'' on =>
      obtain ⟨rfl, rfl⟩ : _ = a ∧ _ = b := by simpa [at'] using at''.symm
      exact ⟨_, rfl, .inl on⟩
    | second at'' on =>
      obtain ⟨rfl, rfl⟩ : _ = a ∧ _ = b := by simpa [at'] using at''.symm
      exact ⟨_, rfl, .inr on⟩
    | _ => simp_all
  · rintro ⟨m, rfl, on | on⟩
    · exact .first at' on
    · exact .second at' on

/-- Whichever way the branch of a repetition prefers, it leads the same two ways. -/
theorem leads_loopFork {greedy : Bool} (at' : code[i]? = some (loopFork greedy again next)) :
    code.Leads n i p r ↔ ∃ m, n = m + 1 ∧ (code.Leads m again p r ∨ code.Leads m next p r) := by
  cases greedy with
  | true => exact leads_fork at'
  | false =>
    rw [leads_fork at']
    simp only [or_comm]

theorem leads_of_none (beyond : code[i]? = none) : ¬ code.Leads n i p q := by
  intro h
  cases h <;> simp_all

/-! ### Code within larger code -/

/-- What there was before is still there. -/
structure Grows (code part : Code) : Prop where
  size_le : code.size ≤ part.size
  kept : ∀ i < code.size, part[i]? = code[i]?

theorem Grows.refl (code : Code) : Grows code code :=
  ⟨Nat.le_refl _, fun _ _ => rfl⟩

theorem Grows.trans {a b c : Code} (front : Grows a b) (back : Grows b c) : Grows a c where
  size_le := front.size_le.trans back.size_le
  kept := fun i low => (back.kept i (low.trans_le front.size_le)).trans (front.kept i low)

theorem grows_push (code : Code) (instr : Instr) : Grows code (code.push instr) where
  size_le := by simp
  kept := by
    intro i low
    rw [Array.getElem?_push, if_neg low.ne]

/-- A code has the instructions of another one from a number on. -/
def Has (big : Code) (low : Nat) (part : Code) : Prop :=
  ∀ i, low ≤ i → i < part.size → big[i]? = part[i]?

/-- The larger code also has what there was after an earlier step. -/
theorem Has.of_grows {low : Nat} {mid part : Code} (has : big.Has low part) (h : Grows mid part) :
    big.Has low mid := by
  intro i above high
  rw [has i above (high.trans_le h.size_le), h.kept i high]

theorem Has.mono {low high : Nat} {part : Code} (has : big.Has low part) (le : low ≤ high) :
    big.Has high part :=
  fun i above => has i (le.trans above)

theorem Has.last {low : Nat} {instr : Instr} (has : big.Has low (code.push instr))
    (le : low ≤ code.size) : big[code.size]? = some instr := by
  rw [has _ le (by simp), Array.getElem?_push_size]

/-- Code has been added that leads from its start just along stretches of a kind and then on from
`next`. -/
structure Joins (R : Spot → Spot → Prop) (next : Nat) (code : Code) (out : Nat × Code) : Prop
    extends Grows code out.2 where
  sound : ∀ {big n p r}, big.Has code.size out.2 → Leads big n out.1 p r →
    ∃ m ≤ n, ∃ q, R p q ∧ Leads big m next q r
  complete : ∀ {big m p q r}, big.Has code.size out.2 → R p q → Leads big m next q r →
    ∃ n, Leads big n out.1 p r

variable {out mid : Nat × Code}

theorem Joins.congr (h : Joins R next code out) (same : ∀ p q, R p q ↔ S p q) :
    Joins S next code out := by
  obtain rfl : R = S := funext fun p => funext fun q => propext (same p q)
  exact h

theorem joins_nothing (next : Nat) (code : Code) : Joins (· = ·) next code (next, code) where
  toGrows := .refl code
  sound := fun _ on => ⟨_, Nat.le_refl _, _, rfl, on⟩
  complete := by
    rintro big m p q r - rfl on
    exact ⟨m, on⟩

/-- What is put in front of code that has been put in front. -/
theorem Joins.comp (back : Joins S next code mid) (front : Joins R mid.1 mid.2 out) :
    Joins (Then R S) next code out where
  toGrows := back.toGrows.trans front.toGrows
  sound := by
    intro big n p r has on
    obtain ⟨m, hm, q, hR, on⟩ := front.sound (has.mono back.size_le) on
    obtain ⟨m', hm', q', hS, on⟩ := back.sound (has.of_grows front.toGrows) on
    exact ⟨m', hm'.trans hm, q', ⟨q, hR, hS⟩, on⟩
  complete := by
    rintro big m p q r has ⟨q', hR, hS⟩ on
    obtain ⟨n, on⟩ := back.complete (has.of_grows front.toGrows) hS on
    exact front.complete (has.mono back.size_le) hR on

theorem joins_one (set : CharSet) (next : Nat) (code : Code) :
    Joins (Expr.one set).Matches next code (code.put (.one set next)) where
  toGrows := grows_push code _
  sound := by
    intro big n p r has on
    obtain ⟨m, q, rfl, one, on⟩ := (leads_one (has.last (Nat.le_refl _))).mp on
    exact ⟨m, Nat.le_succ m, q, one, on⟩
  complete := by
    intro big m p q r has one on
    exact ⟨m + 1, (leads_one (has.last (Nat.le_refl _))).mpr ⟨m, q, rfl, one, on⟩⟩

theorem joins_look (l : Look) (next : Nat) (code : Code) :
    Joins (Expr.look l).Matches next code (code.put (.look l next)) where
  toGrows := grows_push code _
  sound := by
    intro big n p r has on
    obtain ⟨m, rfl, holds, on⟩ := (leads_look (has.last (Nat.le_refl _))).mp on
    exact ⟨m, Nat.le_succ m, p, ⟨holds, rfl⟩, on⟩
  complete := by
    rintro big m p q r has ⟨holds, rfl⟩ on
    exact ⟨m + 1, (leads_look (has.last (Nat.le_refl _))).mpr ⟨m, rfl, holds, on⟩⟩

/-- A branch in front of two ways to one end. -/
theorem Joins.fork {second first : Nat × Code} (b : Joins S next code second)
    (a : Joins R next second.2 first) :
    Joins (fun p q => R p q ∨ S p q) next code (first.2.put (.fork first.1 second.1)) where
  toGrows := (b.toGrows.trans a.toGrows).trans (grows_push _ _)
  sound := by
    intro big n p r has on
    have at' := has.last (b.size_le.trans a.size_le)
    have has := has.of_grows (grows_push _ _)
    obtain ⟨m, rfl, on | on⟩ := (leads_fork at').mp on
    · obtain ⟨k, hk, q, hR, on⟩ := a.sound (has.mono b.size_le) on
      exact ⟨k, hk.trans (Nat.le_succ m), q, .inl hR, on⟩
    · obtain ⟨k, hk, q, hS, on⟩ := b.sound (has.of_grows a.toGrows) on
      exact ⟨k, hk.trans (Nat.le_succ m), q, .inr hS, on⟩
  complete := by
    intro big m p q r has either on
    have at' := has.last (b.size_le.trans a.size_le)
    have has := has.of_grows (grows_push _ _)
    rcases either with hR | hS
    · obtain ⟨n, on⟩ := a.complete (has.mono b.size_le) hR on
      exact ⟨n + 1, (leads_fork at').mpr ⟨n, rfl, .inl on⟩⟩
    · obtain ⟨n, on⟩ := b.complete (has.of_grows a.toGrows) hS on
      exact ⟨n + 1, (leads_fork at').mpr ⟨n, rfl, .inr on⟩⟩

/-- A branch in front of code: into it, or past it. -/
theorem Joins.loopFork (h : Joins R next code out) (greedy : Bool) :
    Joins (fun p q => R p q ∨ p = q) next code (out.2.put (loopFork greedy out.1 next)) where
  toGrows := h.toGrows.trans (grows_push _ _)
  sound := by
    intro big n p r has on
    have at' := has.last h.size_le
    obtain ⟨m, rfl, on | on⟩ := (leads_loopFork at').mp on
    · obtain ⟨k, hk, q, hR, on⟩ := h.sound (has.of_grows (grows_push _ _)) on
      exact ⟨k, hk.trans (Nat.le_succ m), q, .inl hR, on⟩
    · exact ⟨m, Nat.le_succ m, p, .inr rfl, on⟩
  complete := by
    intro big m p q r has either on
    have at' := has.last h.size_le
    rcases either with hR | rfl
    · obtain ⟨n, on⟩ := h.complete (has.of_grows (grows_push _ _)) hR on
      exact ⟨n + 1, (leads_loopFork at').mpr ⟨n, rfl, .inl on⟩⟩
    · exact ⟨m + 1, (leads_loopFork at').mpr ⟨m, rfl, .inr on⟩⟩

/-! ### Repetitions -/

section Repetitions

variable {emitBody : Nat → Code → Nat × Code} {greedy : Bool}

/-- So many copies in front of code. -/
theorem Joins.times (body : ∀ next code, Joins R next code (emitBody next code)) (count : Nat)
    (h : Joins S next code out) :
    Joins (Then (Times R count) S) next code
      (Pattern.times (fun (next, code) => emitBody next code) count out) := by
  induction count generalizing S out with
  | zero =>
    refine h.congr fun p q => ?_
    simp [Then, times_zero]
  | succ count ih =>
    refine (ih (h.comp (body out.1 out.2))).congr fun p q => ?_
    simp only [Then, times_add, times_one]
    constructor
    · rintro ⟨a, front, b, one, back⟩
      exact ⟨b, ⟨a, front, one⟩, back⟩
    · rintro ⟨b, ⟨a, front, one⟩, back⟩
      exact ⟨a, front, b, one, back⟩

/-- So many copies, each of which may be passed by together with those after it. -/
theorem joins_optional (body : ∀ next code, Joins R next code (emitBody next code))
    (greedy : Bool) (count next : Nat) (code : Code) :
    Joins (UpTo count R) next code
      (Pattern.times (fun at' => (emitBody at'.1 at'.2).2.put
        (Pattern.loopFork greedy (emitBody at'.1 at'.2).1 next)) count (next, code)) := by
  -- the copy that is put last is the one that is entered first
  have iterate : ∀ (f : Nat × Code → Nat × Code) (n : Nat) (a : Nat × Code),
      Pattern.times f n a = f^[n] a := by
    intro f n
    induction n with
    | zero => exact fun _ => rfl
    | succ n ih => exact fun a => ih (f a)
  rw [iterate]
  induction count with
  | zero =>
    refine (joins_nothing next code).congr fun p q => ?_
    simp [UpTo, times_zero]
  | succ count ih =>
    rw [Function.iterate_succ_apply']
    refine ((ih.comp (body _ _)).loopFork greedy).congr fun p q => ?_
    constructor
    · rintro (⟨m, one, n, le, more⟩ | rfl)
      · exact ⟨n + 1, Nat.succ_le_succ le, .succ one more⟩
      · exact ⟨0, Nat.zero_le _, .zero⟩
    · rintro ⟨n, le, h⟩
      rcases n with - | n
      · exact .inr (times_zero.mp h)
      · obtain ⟨m, one, more⟩ := times_succ.mp h
        exact .inl ⟨m, one, n, Nat.le_of_succ_le_succ le, more⟩

/-- The branch of a loop leads any number of times through the body; behind it, the start of the
body leads at least once through it. -/
theorem joins_emitLoop (body : ∀ next code, Joins R next code (emitBody next code))
    (greedy : Bool) (next : Nat) (code : Code) :
    let out := emitLoop emitBody greedy next code
    Joins (Star R) next code (out.2.1, out.2.2) ∧
      Joins (Then R (Star R)) next code (out.1, out.2.2) := by
  have inner := body code.size (code.push .accept)
  set start := (emitBody code.size (code.push .accept)).1
  set part := (emitBody code.size (code.push .accept)).2
  set whole := part.set! code.size (Pattern.loopFork greedy start next)
  have size : whole.size = part.size := by simp [whole]
  have room : code.size < part.size := by
    have := inner.size_le
    rwa [Array.size_push] at this
  have other : ∀ i, i ≠ code.size → whole[i]? = part[i]? := by
    intro i ne
    simp [whole, ne.symm]
  have grows : Grows code whole := by
    constructor
    · rw [size]
      exact room.le
    · intro i low
      rw [other i low.ne, inner.kept i (by simp; omega), (grows_push code .accept).kept i low]
  -- the body is found behind the branch, which is the only instruction that has been changed
  have hasBody : ∀ {big : Code}, big.Has code.size whole →
      big.Has (code.push .accept).size part := by
    intro big has i low high
    rw [Array.size_push] at low
    rw [has i (by omega) (by omega), other i (by omega)]
  have atBranch : ∀ {big : Code}, big.Has code.size whole →
      big[code.size]? = some (Pattern.loopFork greedy start next) := by
    intro big has
    rw [has _ (Nat.le_refl _) (by omega)]
    simp [whole, room]
  have sound : ∀ {big n p r}, big.Has code.size whole → Leads big n code.size p r →
      ∃ m ≤ n, ∃ q, Star R p q ∧ Leads big m next q r := by
    intro big n p r has on
    induction n using Nat.strong_induction_on generalizing p with
    | _ n ih =>
      obtain ⟨m, rfl, on | on⟩ := (leads_loopFork (atBranch has)).mp on
      · -- once through the body, and back at the branch with fewer steps to go
        obtain ⟨k, hk, q, one, on⟩ := inner.sound (hasBody has) on
        obtain ⟨k', hk', q', more, on⟩ := ih k (by omega) on
        exact ⟨k', by omega, q', star_iff.mpr (.inl ⟨q, one, more⟩), on⟩
      · exact ⟨m, Nat.le_succ m, p, star_iff.mpr (.inr rfl), on⟩
  have complete : ∀ {big m p q r}, big.Has code.size whole → Star R p q → Leads big m next q r →
      ∃ n, Leads big n code.size p r := by
    rintro big m p q r has ⟨count, h⟩ on
    induction h with
    | zero => exact ⟨m + 1, (leads_loopFork (atBranch has)).mpr ⟨m, rfl, .inr on⟩⟩
    | succ one _ ih =>
      obtain ⟨k, on⟩ := ih on
      obtain ⟨n, on⟩ := inner.complete (hasBody has) one on
      exact ⟨n + 1, (leads_loopFork (atBranch has)).mpr ⟨n, rfl, .inl on⟩⟩
  refine ⟨⟨grows, sound, complete⟩, ⟨grows, ?_, ?_⟩⟩
  · intro big n p r has on
    obtain ⟨k, hk, q, one, on⟩ := inner.sound (hasBody has) on
    obtain ⟨k', hk', q', more, on⟩ := sound has on
    exact ⟨k', hk'.trans hk, q', ⟨q, one, more⟩, on⟩
  · rintro big m p q r has ⟨q', one, more⟩ on
    obtain ⟨k, on⟩ := complete has more on
    exact inner.complete (hasBody has) one on

end Repetitions

end Code

/-! ### Machines of expressions -/

open Code

/-- What is emitted for an expression leads along what the expression matches. -/
theorem Expr.joins_emit (e : Expr) (next : Nat) (code : Code) :
    Joins e.Matches next code (e.emit next code) := by
  induction e generalizing next code with
  | empty => exact joins_nothing next code
  | one set => exact joins_one set next code
  | look l => exact joins_look l next code
  | seq a b iha ihb => exact (ihb next code).comp (iha _ _)
  | alt a b iha ihb => exact (ihb next code).fork (iha _ _)
  | group body ih => exact ih next code
  | repeats body least most greedy ih =>
    cases most with
    | some most =>
      refine ((joins_optional ih greedy (most - least) next code).times ih least).congr
        fun p q => ?_
      simp only [Matches, Then, UpTo, times_add, Option.mem_some_iff, forall_eq']
      constructor
      · rintro ⟨m, front, more, le, back⟩
        exact ⟨more, le, m, front, back⟩
      · rintro ⟨more, le, m, front, back⟩
        exact ⟨m, front, more, le, back⟩
    | none =>
      obtain ⟨fromBranch, fromStart⟩ := joins_emitLoop ih greedy next code
      have unbounded : ∀ {p q}, (Expr.repeats body 0 none greedy).Matches p q ↔
          Star body.Matches p q := by
        simp [Matches, Star]
      rcases least with - | least
      · rcases looped : emitLoop body.emit greedy next code with ⟨start, branch, code'⟩
        rw [looped] at fromBranch fromStart
        simp only [emit, looped, if_true]
        split
        · -- the way past the body is a branch of its own
          refine (fromStart.loopFork greedy).congr fun p q => ?_
          rw [unbounded, star_iff]
        · exact fromBranch.congr fun p q => unbounded.symm
      · refine (fromStart.times ih least).congr fun p q => ?_
        simp only [Matches, Then, Star, times_add, times_one, Option.mem_def, reduceCtorEq,
          false_imp_iff, implies_true, true_and]
        constructor
        · rintro ⟨m, front, m', one, more, back⟩
          exact ⟨more, m', ⟨m, front, one⟩, back⟩
        · rintro ⟨more, m', ⟨m, front, one⟩, back⟩
          exact ⟨m, front, m', one, more, back⟩

/-- The machine of an expression can accept just where the expression can match to. -/
theorem Expr.leads_program_iff {e : Expr} :
    (∃ n, e.program.code.Leads n e.program.start p q) ↔ e.Matches p q := by
  have whole := e.joins_emit 0 #[.accept]
  have accepts : e.program.code[0]? = some .accept := whole.kept 0 (by simp)
  have has : e.program.code.Has 1 e.program.code := fun _ _ _ => rfl
  constructor
  · rintro ⟨n, on⟩
    obtain ⟨m, -, q', matched, on⟩ := whole.sound has on
    obtain ⟨-, rfl⟩ := (leads_accept accepts).mp on
    exact matched
  · intro matched
    exact whole.complete has matched ((leads_accept accepts).mpr ⟨rfl, rfl⟩)

end Scrollback.Pattern
