/-
Searching for a regular expression as a whole text.

The pattern for whole texts is written around the given one, as text.  `ofPattern_accepted` says
what comes of that for every pattern which is accepted by itself: the expression is kept, and
matches just the texts that the pattern can match from end to end; but the new pattern is refused if
the given one ends in a comment, or nests almost as deep as a pattern may.
-/
import Scrollback.Matcher
import Scrollback.Proofs.Pattern.Enclosed

namespace Scrollback.Matcher

open Pattern

variable {tables : Unicode.Tables} {pattern : String} {caseless : Bool} {e : Expr}

theorem toList_wholePattern (pattern : String) : (wholePattern pattern).toList =
    '^' :: '(' :: '?' :: ':' :: (pattern.toList ++ [')', '$']) := by
  simp [wholePattern]

theorem compile_accepted (h : parse tables caseless pattern.toList = some e) :
    compile tables caseless pattern = if e.fits then .ok e.program else .error .tooBig := by
  simp only [compile, h]

theorem compile_wholePattern (h : parse tables caseless pattern.toList = some e) :
    compile tables caseless (wholePattern pattern) =
      if endsInComment tables caseless pattern.toList = true ∨
          nestLimit < nesting tables caseless pattern.toList + 2 then .error .malformed
      else if e.whole.fits then .ok e.whole.program
      else .error .tooBig := by
  have enclosed := parse_enclosed h
  rw [← toList_wholePattern] at enclosed
  split
  · next lost =>
    rw [if_pos lost] at enclosed
    simp only [compile, enclosed]
  · next kept =>
    rw [if_neg kept] at enclosed
    exact compile_accepted enclosed

/-- Two machines are made of a pattern that is accepted by itself, unless one of them is too big, or
the pattern ends in a comment, which takes a hash in its last line, or leaves no room for two more
levels.  The second one finds just the texts that the pattern can match as a whole.  This holds
whatever the tables say of characters and which properties they know. -/
theorem ofPattern_accepted (h : parse tables caseless pattern.toList = some e) :
    ofPattern tables pattern caseless =
        (if e.fits = false then .error .tooBig
        else if endsInComment tables caseless pattern.toList = true ∨
            nestLimit < nesting tables caseless pattern.toList + 2 then .error .malformed
        else if e.whole.fits = false then .error .tooBig
        else .ok (.expression e.program e.whole.program)) ∧
      (endsInComment tables caseless pattern.toList = true → HashAtEnd pattern.toList) ∧
      ∀ m, ofPattern tables pattern caseless = .ok m →
        ∀ text, m.matchesText text = true ↔ e.MatchesAll text.toList := by
  have made : ofPattern tables pattern caseless = (if e.fits = false then .error .tooBig
      else if endsInComment tables caseless pattern.toList = true ∨
          nestLimit < nesting tables caseless pattern.toList + 2 then .error .malformed
      else if e.whole.fits = false then .error .tooBig
      else .ok (.expression e.program e.whole.program)) := by
    rw [ofPattern, compile_accepted h, compile_wholePattern h]
    cases e.fits with
    | false => rfl
    | true =>
      rw [if_neg (by decide : ¬ true = false)]
      by_cases lost : endsInComment tables caseless pattern.toList = true ∨
          nestLimit < nesting tables caseless pattern.toList + 2
      · rw [if_pos lost, if_pos lost]
        rfl
      · rw [if_neg lost, if_neg lost]
        cases e.whole.fits <;> rfl
  refine ⟨made, hashAtEnd_of_endsInComment h, fun m ok text => ?_⟩
  rw [made] at ok
  split at ok
  · cases ok
  · split at ok
    · cases ok
    · split at ok
      · cases ok
      · cases ok
        exact Expr.found_whole_iff

/-- Either of two words. -/
def eitherWord : Expr :=
  .alt (.one (.single 'a')) (.seq (.one (.single 'b')) (.one (.single 'c')))

theorem ofPattern_accepted_eitherWord : parse .standard false "a|bc".toList = some eitherWord ∧
    ∃ m, ofPattern .standard "a|bc" false = .ok m ∧
      ∀ text, m.matchesText text = true ↔ eitherWord.MatchesAll text.toList := by
  have parsed : parse .standard false "a|bc".toList = some eitherWord := rfl
  obtain ⟨made, -, whole⟩ := ofPattern_accepted parsed
  have ok : ofPattern .standard "a|bc" false =
      .ok (.expression eitherWord.program eitherWord.whole.program) := by
    rw [made]
    rfl
  exact ⟨parsed, _, ok, whole _ ok⟩

/-- A verbose pattern with a comment at its end is accepted by itself and can match a text as a
whole, but it cannot be searched for, whatever the tables are. -/
theorem refused_commentAtEnd (tables : Unicode.Tables) : ∃ e,
    parse tables false "(?x)a # c".toList = some e ∧ e.fits = true ∧ e.MatchesAll "a".toList ∧
      ofPattern tables "(?x)a # c" false = .error .malformed :=
  ⟨.seq .empty (.one (.single 'a')), rfl, rfl,
    ⟨some 'a', ⟨none, ['a']⟩, rfl, 'a', rfl, rfl, rfl⟩, rfl⟩

theorem ofPattern_commentAtEnd : ∃ e,
    parse .standard false "(?x)a # c".toList = some e ∧ e.fits = true ∧ e.MatchesAll "a".toList ∧
      ofPattern .standard "(?x)a # c" false = .error .malformed :=
  refused_commentAtEnd .standard

end Scrollback.Matcher
