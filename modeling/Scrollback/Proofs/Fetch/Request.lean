/-
Questions as requests.  Which library makes the requests is left open; `Question.Documented` is what
is documented of it, and `Question.framed` is a library of which this is true.

A question whose path has no `#` and no `?` in it is sent as it is or not at all
(`Question.Documented.eq_of_ok`).
-/
import Mathlib
import Scrollback.Fetch.Question
import Scrollback.Proofs.Decimal

namespace Scrollback.Question

variable {q r : Question} {frame : Question → Except String Question}

/-- The path starts at the root. -/
def IsRooted (q : Question) : Prop :=
  q.path.toList.head? = some '/'

/-- A character that every path may have in it, where it stands for itself.  On the character DEL
libraries differ. -/
def isPlain (c : Char) : Bool :=
  !isForbidden c && c != '#' && c != '?' && c != '\x7f'

theorem isPlain_iff {c : Char} :
    isPlain c = true ↔ isForbidden c = false ∧ c ≠ '#' ∧ c ≠ '?' ∧ c ≠ '\x7f' := by
  simp [isPlain, and_assoc]

/-- What is documented of a library that makes requests, for paths from the root. -/
structure Documented (frame : Question → Except String Question) : Prop where
  /-- What follows a `#` is left out, and nothing is changed. -/
  keeps : ∀ {q r}, q.IsRooted → frame q = .ok r → r = { q with path := String.ofList q.sentPath }
  refuses : ∀ {q c}, q.IsRooted → c ∈ q.beforeMark → isForbidden c = true →
    ∃ why, frame q = .error why
  accepts : ∀ {q}, q.IsRooted → q.path.utf8ByteSize ≤ maxPath →
    (∀ c ∈ q.path.toList, isPlain c = true) →
    (∀ c ∈ q.host.toList ++ q.agent.toList, isVisible c = true) → ∃ r, frame q = .ok r

/-! ### Paths without marks -/

theorem sentPath_eq (hash : '#' ∉ q.path.toList) : q.sentPath = q.path.toList :=
  List.takeWhile_eq_self_iff.mpr fun _ mem => bne_iff_ne.mpr fun is => hash (is ▸ mem)

theorem beforeMark_eq (hash : '#' ∉ q.path.toList) (mark : '?' ∉ q.path.toList) :
    q.beforeMark = q.path.toList := by
  rw [beforeMark, sentPath_eq hash]
  exact List.takeWhile_eq_self_iff.mpr fun _ mem => bne_iff_ne.mpr fun is => mark (is ▸ mem)

/-- Without a `#` in its path a question is sent as it is, if it is. -/
theorem Documented.eq_of_ok (documented : Documented frame) (rooted : q.IsRooted)
    (hash : '#' ∉ q.path.toList) (sent : frame q = .ok r) : r = q := by
  rw [documented.keeps rooted sent, sentPath_eq hash, String.ofList_toList]

/-! ### One library -/

theorem framed_of_ok (made : q.framed = .ok r) :
    r = { q with path := String.ofList q.sentPath } := by
  simp only [framed] at made
  split at made
  · cases made
  split at made
  · cases made
  split at made
  · cases made
  split at made
  · cases made
  split at made
  · cases made
  exact (Except.ok.inj made).symm

theorem framed_of_isForbidden {c : Char} (mem : c ∈ q.beforeMark) (forbidden : isForbidden c = true) :
    ∃ why, q.framed = .error why := by
  have found : q.beforeMark.any isForbidden = true := List.any_eq_true.mpr ⟨c, mem, forbidden⟩
  simp only [framed, found, Bool.true_or, if_true]
  split
  · exact ⟨_, rfl⟩
  split
  · exact ⟨_, rfl⟩
  split <;> exact ⟨_, rfl⟩

theorem framed_of_isPlain (rooted : q.IsRooted) (short : q.path.utf8ByteSize ≤ maxPath)
    (plain : ∀ c ∈ q.path.toList, isPlain c = true)
    (visible : ∀ c ∈ q.host.toList ++ q.agent.toList, isVisible c = true) :
    q.framed = .ok q := by
  have hash : '#' ∉ q.path.toList := fun mem => absurd (plain _ mem) (by decide)
  have mark : '?' ∉ q.path.toList := fun mem => absurd (plain _ mem) (by decide)
  have nonempty : ¬q.path.isEmpty = true := by
    intro empty
    rw [IsRooted, String.isEmpty_iff.mp empty] at rooted
    cases rooted
  have root : ¬q.path.toList.head? ≠ some '/' := not_not.mpr rooted
  have free : q.path.toList.any isForbidden = false := by
    rw [List.any_eq_false]
    intro c mem
    rw [(isPlain_iff.mp (plain c mem)).1]
    exact Bool.false_ne_true
  have headers : (q.host.toList.all isVisible && q.agent.toList.all isVisible) = true := by
    rw [← List.all_append]
    exact List.all_eq_true.mpr visible
  have rest : q.path.toList.drop (q.path.toList.length + 1) = [] :=
    List.drop_eq_nil_of_le (Nat.le_succ _)
  rw [framed, if_neg nonempty, if_neg (Nat.not_lt.mpr short), if_neg root,
    beforeMark_eq hash mark, sentPath_eq hash, free, rest, headers]
  simp

theorem documented_framed : Documented framed where
  keeps := fun _ => framed_of_ok
  refuses := fun _ => framed_of_isForbidden
  accepts := fun rooted short plain visible => ⟨_, framed_of_isPlain rooted short plain visible⟩

/-! ### Digits and hosts -/

theorem bounds_of_isDigit {c : Char} (h : c.isDigit = true) : '0' ≤ c ∧ c ≤ '9' := by
  simpa [Char.isDigit, Char.le_def] using h

theorem isPlain_of_isDigit {c : Char} (h : c.isDigit = true) : isPlain c = true := by
  obtain ⟨low, high⟩ := bounds_of_isDigit h
  have beyond : ∀ d : Char, '9' < d → c ≠ d := fun d hd => (high.trans_lt hd).ne
  have below : ∀ d : Char, d < '0' → c ≠ d := fun d hd => (hd.trans_le low).ne'
  have blank : ¬c ≤ ' ' := not_le.mpr (lt_of_lt_of_le (by decide) low)
  simp [isPlain, isForbidden, blank, beyond '<' (by decide), beyond '>' (by decide),
    beyond '\x60' (by decide), below '#' (by decide), beyond '?' (by decide),
    beyond '\x7f' (by decide)]

theorem isVisible_of_isDigit {c : Char} (h : c.isDigit = true) : isVisible c = true := by
  obtain ⟨low, high⟩ := bounds_of_isDigit h
  simp only [isVisible, Bool.and_eq_true, decide_eq_true_eq]
  exact ⟨le_trans (by decide) low, le_trans high (by decide)⟩

/-- A host that can stand in a header can stand there with its port. -/
theorem isVisible_of_mem_make {host path : String} {port : Nat}
    (visible : ∀ c ∈ host.toList, isVisible c = true) :
    ∀ c ∈ (make host port path).host.toList ++ (make host port path).agent.toList,
      isVisible c = true := by
  have agent : ownName.toList.all isVisible = true := by decide +kernel
  intro c mem
  rcases List.mem_append.mp mem with mem | mem
  · change c ∈ (hostName host port).toList at mem
    rw [hostName] at mem
    split at mem
    · exact visible c mem
    · simp only [String.toList_append, List.mem_append] at mem
      rcases mem with (mem | mem) | mem
      · exact visible c mem
      · obtain rfl := List.mem_singleton.mp mem
        decide
      · rw [decimal, String.toList_ofList] at mem
        exact isVisible_of_isDigit (isDigit_of_mem_digits mem)
  · exact List.all_eq_true.mp agent c mem

end Scrollback.Question
