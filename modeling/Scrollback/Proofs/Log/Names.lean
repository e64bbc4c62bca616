/-
The distinct names of a log.  Names are ordered by their bytes, so a log whose name texts strictly
increase has each name once, and halving finds exactly the names that are there
(`Log.nameIndex?_eq_some`).  The names collected from lines are such (`Log.ofLines_increase`), and
no author is left out (`Log.author_mem_ofLines`).
-/
import Scrollback.Log.Grammar
import Scrollback.Proofs.Text

namespace Scrollback

namespace Log

/-- The names are in the order of their bytes, each once. -/
def NamesIncrease (log : Log) : Prop :=
  (log.nameTexts.map utf8).Pairwise (· < ·)

/-- Every author of a line is among the names. -/
def AuthorsNamed (log : Log) : Prop :=
  ∀ l ∈ log.remarks, l.author ∈ log.nameTexts

/-- The parts of the log fit together: every span cuts out whole characters of the text, the names
are in order, and they are all the names that occur. -/
structure WellFormed (log : Log) : Prop where
  names_fit : ∀ n ∈ log.names, n.Fits log.data
  authors_fit : ∀ l ∈ log.lines, l.author.Fits log.data
  messages_fit : ∀ l ∈ log.lines, l.message.Fits log.data
  names_increase : log.NamesIncrease
  authors_named : log.AuthorsNamed

end Log

/-- The decoder's test of neighbours says that all names are in order. -/
theorem Codec.increasing_iff {keys : List (List UInt8)} :
    Codec.increasing keys = true ↔ keys.Pairwise (· < ·) := by
  rw [← List.isChain_iff_pairwise]
  fun_induction Codec.increasing keys with
  | case1 => simp
  | case2 => simp
  | case3 a b rest ih => simp [ih]

namespace Log

/-! ### Halving -/

/-- Among strictly increasing keys, halving finds exactly the place of the key sought. -/
theorem search_eq_some {key : Nat → List UInt8} {target : List UInt8} {low high i : Nat}
    (mono : ∀ a b, low ≤ a → a < b → b < high → key a < key b) :
    search key target low high = some i ↔ low ≤ i ∧ i < high ∧ key i = target := by
  fun_induction search key target low high with
  | case1 low high h middle k found =>
    have hm : low ≤ middle ∧ middle < high := by omega
    rw [Option.some_inj]
    constructor
    · rintro rfl
      exact ⟨hm.1, hm.2, found⟩
    · rintro ⟨hl, hh, hk⟩
      rcases Nat.lt_trichotomy middle i with lt | eq | gt
      · have := mono middle i hm.1 lt hh
        exact absurd (found.trans hk.symm) (Std.ne_of_lt this)
      · exact eq
      · have := mono i middle hl gt hm.2
        exact absurd (hk.trans found.symm) (Std.ne_of_lt this)
  | case2 low high h middle k missed before ih =>
    have hm : low ≤ middle ∧ middle < high := by omega
    rw [ih fun a b ha => mono a b (by omega)]
    refine ⟨fun ⟨hl, hh, hk⟩ => ⟨by omega, hh, hk⟩, fun ⟨hl, hh, hk⟩ => ⟨?_, hh, hk⟩⟩
    -- the keys up to the middle one are too small
    rcases Nat.lt_or_ge middle i with gt | le
    · exact gt
    · rcases Nat.eq_or_lt_of_le le with rfl | lt
      · exact absurd hk missed
      · have := mono i middle hl lt hm.2
        exact absurd (Std.lt_trans this before) (hk ▸ Std.lt_irrefl)
  | case3 low high h middle k missed after ih =>
    have hm : low ≤ middle ∧ middle < high := by omega
    rw [ih fun a b ha hab hb => mono a b ha hab (by omega)]
    refine ⟨fun ⟨hl, hh, hk⟩ => ⟨hl, by omega, hk⟩, fun ⟨hl, hh, hk⟩ => ⟨hl, ?_, hk⟩⟩
    -- the keys from the middle one on are too large
    rcases Nat.lt_or_ge i middle with lt | ge
    · exact lt
    · rcases Nat.eq_or_lt_of_le ge with rfl | gt
      · exact absurd hk missed
      · have := mono middle i hm.1 gt hh
        exact absurd (hk ▸ this) after
  | case4 low high h =>
    refine iff_of_false (by simp) ?_
    rintro ⟨hl, hh, -⟩
    omega

/-- A name is found at the place where it stands, and only there. -/
theorem nameIndex?_eq_some {log : Log} (h : log.NamesIncrease) {name : String} {i : Nat} :
    log.nameIndex? name = some i ↔ log.nameTexts[i]? = some name := by
  have key : ∀ a (ha : a < log.names.size) (hb : a < (log.nameTexts.map utf8).length),
      utf8 (log.textOf (log.names.getD a ⟨0, 0⟩)) = (log.nameTexts.map utf8)[a] := by
    intro a ha hb
    simp [nameTexts, Array.getD, ha]
  have size : (log.nameTexts.map utf8).length = log.names.size := by
    simp [nameTexts]
  rw [nameIndex?, search_eq_some]
  · constructor
    · rintro ⟨-, hi, hk⟩
      rw [key i hi (by omega), List.getElem_map, utf8_inj] at hk
      rw [← hk]
      exact List.getElem?_eq_getElem _
    · intro hi
      obtain ⟨hlt, hname⟩ := List.getElem?_eq_some_iff.mp hi
      rw [List.length_map] at size
      refine ⟨Nat.zero_le _, by omega, ?_⟩
      rw [key i (by omega) (by rwa [List.length_map]), List.getElem_map, hname]
  · intro a b _ hab hb
    rw [key a (by omega) (by omega), key b hb (by omega)]
    exact List.pairwise_iff_getElem.mp h a b _ _ hab

/-- Exactly the names of a log are found. -/
theorem exists_nameIndex? {log : Log} (h : log.NamesIncrease) {name : String} :
    (∃ i, log.nameIndex? name = some i) ↔ name ∈ log.nameTexts := by
  rw [List.mem_iff_getElem?]
  exact exists_congr fun i => nameIndex?_eq_some h

/-! ### Names collected from lines -/

theorem dropRepeatsOf_sublist {key : List UInt8} (xs : List (List UInt8 × Span)) :
    (dropRepeatsOf key xs).Sublist xs := by
  fun_induction dropRepeatsOf key xs with
  | case1 => exact .slnil
  | case2 a rest ih => exact ih.cons a
  | case3 key a rest h ih => exact ih.cons_cons a

/-- Of sorted keys that are not before `key`, those kept strictly increase beyond it. -/
theorem pairwise_dropRepeatsOf {key : List UInt8} {xs : List (List UInt8 × Span)}
    (sorted : (key :: xs.map Prod.fst).Pairwise (· ≤ ·)) :
    (key :: (dropRepeatsOf key xs).map Prod.fst).Pairwise (· < ·) := by
  fun_induction dropRepeatsOf key xs with
  | case1 => simp
  | case2 a rest ih => exact ih (List.pairwise_cons.mp sorted).2
  | case3 key a rest h ih =>
    obtain ⟨first, later⟩ := List.pairwise_cons.mp sorted
    have kept := ih later
    -- a key that is not a repeat lies beyond the last one kept
    have above : key < a.1 := Std.lt_of_le_of_ne (first _ (by simp)) (Ne.symm h)
    refine List.pairwise_cons.mpr ⟨?_, kept⟩
    intro k hk
    rcases List.mem_cons.mp hk with rfl | hk
    · exact above
    · exact Std.lt_trans above ((List.pairwise_cons.mp kept).1 k hk)

/-- No key is lost. -/
theorem mem_dropRepeatsOf (key : List UInt8) {k : List UInt8} {xs : List (List UInt8 × Span)}
    (h : k ∈ xs.map Prod.fst) : k = key ∨ k ∈ (dropRepeatsOf key xs).map Prod.fst := by
  fun_induction dropRepeatsOf key xs with
  | case1 => simp at h
  | case2 a rest ih =>
    rcases List.mem_cons.mp h with rfl | h
    · exact .inl rfl
    · exact ih h
  | case3 key a rest other ih =>
    right
    rcases List.mem_cons.mp h with rfl | h
    · exact List.mem_cons_self
    · rcases ih h with rfl | h
      · exact List.mem_cons_self
      · exact List.mem_cons_of_mem _ h

/-- The authors of lines under the keys that they are sorted by. -/
def keyedAuthors (data : String) (lines : List LineSpan) : List (List UInt8 × Span) :=
  (lines.map fun l => (utf8 (l.author.textIn data), l.author)).mergeSort fun a b =>
    decide (a.1 ≤ b.1)

theorem pairwise_keyedAuthors (data : String) (lines : List LineSpan) :
    ((keyedAuthors data lines).map Prod.fst).Pairwise (· ≤ ·) := by
  rw [List.pairwise_map]
  have le_trans : ∀ a b c : List UInt8 × Span,
      decide (a.1 ≤ b.1) = true → decide (b.1 ≤ c.1) = true → decide (a.1 ≤ c.1) = true := by
    intro a b c hab hbc
    rw [decide_eq_true_eq] at *
    exact List.le_trans hab hbc
  have le_total : ∀ a b : List UInt8 × Span,
      (decide (a.1 ≤ b.1) || decide (b.1 ≤ a.1)) = true := by
    intro a b
    simpa using List.le_total a.1 b.1
  exact (List.pairwise_mergeSort le_trans le_total _).imp fun h => of_decide_eq_true h

/-- Every key is the text of its span. -/
theorem key_of_mem_keyedAuthors {data : String} {lines : List LineSpan} {e : List UInt8 × Span}
    (h : e ∈ keyedAuthors data lines) : e.1 = utf8 (e.2.textIn data) := by
  obtain ⟨l, -, rfl⟩ := List.mem_map.mp (List.mem_mergeSort.mp h)
  rfl

theorem dropRepeats_sublist (xs : List (List UInt8 × Span)) : (dropRepeats xs).Sublist xs := by
  rcases xs with - | ⟨a, rest⟩
  · exact .slnil
  · exact (dropRepeatsOf_sublist rest).cons_cons a

/-- The keys of the distinct authors are the texts of the names. -/
theorem nameTexts_ofLines (id : LogId) (data : String) (lines : List LineSpan) :
    (ofLines id data lines).nameTexts.map utf8 =
      (dropRepeats (keyedAuthors data lines)).map Prod.fst := by
  simp only [ofLines, nameTexts, distinctAuthors, List.map_map]
  refine List.map_congr_left fun e he => ?_
  exact (key_of_mem_keyedAuthors ((dropRepeats_sublist _).subset he)).symm

theorem ofLines_increase (id : LogId) (data : String) (lines : List LineSpan) :
    (ofLines id data lines).NamesIncrease := by
  rw [NamesIncrease, nameTexts_ofLines]
  have sorted := pairwise_keyedAuthors data lines
  generalize keyedAuthors data lines = keyed at sorted ⊢
  rcases keyed with - | ⟨a, rest⟩
  · exact .nil
  · exact pairwise_dropRepeatsOf sorted

/-- Every author is among the names. -/
theorem author_mem_ofLines (id : LogId) (data : String) {lines : List LineSpan} {l : LineSpan}
    (hl : l ∈ lines) : l.author.textIn data ∈ (ofLines id data lines).nameTexts := by
  have keyed : utf8 (l.author.textIn data) ∈ (keyedAuthors data lines).map Prod.fst :=
    List.mem_map.mpr ⟨(_, l.author), List.mem_mergeSort.mpr (List.mem_map.mpr ⟨l, hl, rfl⟩), rfl⟩
  have kept : utf8 (l.author.textIn data) ∈ (ofLines id data lines).nameTexts.map utf8 := by
    rw [nameTexts_ofLines]
    generalize keyedAuthors data lines = pairs at keyed ⊢
    rcases pairs with - | ⟨a, rest⟩
    · simp at keyed
    · rcases List.mem_cons.mp keyed with h | h
      · rw [h]
        exact List.mem_cons_self
      · rcases mem_dropRepeatsOf a.1 h with h | h
        · rw [h]
          exact List.mem_cons_self
        · exact List.mem_cons_of_mem _ h
  obtain ⟨name, hname, hutf⟩ := List.mem_map.mp kept
  rwa [← utf8_inj.mp hutf]

end Log

end Scrollback
