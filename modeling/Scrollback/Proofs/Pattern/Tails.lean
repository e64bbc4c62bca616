/-
What is read from the front of a pattern does not depend on what stands behind it, if that begins by
closing a group.

There is one way in which it can: a comment of a verbose pattern runs to the end of its line, and so
it may swallow what has been put behind the pattern.  So each reader here leaves either the text
that it left before with the tail behind it, or, the tail being gone, just that text (`tailed`);
which of the two it is does not depend on the tail, and it can only be gone if there is a hash in
the last line (`Leaves`).  There is one lemma for each reader, and it is also allowed more fuel,
because the text is longer.
-/
import Mathlib
import Scrollback.Pattern.Parser

namespace Scrollback.Pattern

/-- A tail that closes a group, with nothing in it that ends a comment or the name of a class. -/
def Closes (t : List Char) : Prop :=
  ∃ more, t = ')' :: more ∧ '\n' ∉ more ∧ ':' ∉ more

/-- A text with a tail behind it, unless the tail is gone. -/
def tailed (gone : Bool) (cs t : List Char) : List Char :=
  if gone then cs else cs ++ t

@[simp] theorem tailed_cons (gone : Bool) (c : Char) (cs t : List Char) :
    tailed gone (c :: cs) t = c :: tailed gone cs t := by
  cases gone <;> rfl

theorem tailed_ne_nil {gone : Bool} {cs t : List Char} (h : cs ≠ []) : tailed gone cs t ≠ [] := by
  cases cs with
  | nil => exact absurd rfl h
  | cons c cs => simp

/-- A tail that closes a group is not taken for anything else. -/
theorem cons_of_tailed {gone : Bool} {c : Char} {cs xs t : List Char} (ht : Closes t) (ne : c ≠ ')')
    (h : tailed gone cs t = c :: xs) : ∃ cs', cs = c :: cs' ∧ xs = tailed gone cs' t := by
  obtain ⟨more, rfl, -⟩ := ht
  rcases cs with - | ⟨d, cs⟩
  · cases gone with
    | true => cases h
    | false => exact absurd (List.cons.inj h).1.symm ne
  · rw [tailed_cons] at h
    obtain ⟨rfl, rfl⟩ := List.cons.inj h
    exact ⟨cs, rfl, rfl⟩

/-- What does not begin with a sign does not begin with it when a tail has been put behind. -/
theorem ne_cons_tailed {gone : Bool} {c : Char} {cs t : List Char} (ht : Closes t) (ne : c ≠ ')')
    (other : ∀ back, cs = c :: back → False) : ∀ back, tailed gone cs t = c :: back → False := by
  intro back same
  obtain ⟨cs, rfl, -⟩ := cons_of_tailed ht ne same
  exact other cs rfl

theorem ne_cons_cons_tailed {gone : Bool} {c d : Char} {cs t : List Char} (ht : Closes t)
    (ne : c ≠ ')') (ne' : d ≠ ')') (other : ∀ back, cs = c :: d :: back → False) :
    ∀ back, tailed gone cs t = c :: d :: back → False := by
  intro back same
  obtain ⟨cs, rfl, behind⟩ := cons_of_tailed ht ne same
  obtain ⟨cs, rfl, -⟩ := cons_of_tailed ht ne' behind.symm
  exact other cs rfl

theorem length_le_tailed (gone : Bool) (cs t : List Char) :
    cs.length ≤ (tailed gone cs t).length := by
  cases gone <;> simp [tailed]

/-- There is a hash in the last line of a text. -/
def HashAtEnd (cs : List Char) : Prop :=
  ∃ front comment, cs = front ++ '#' :: comment ∧ '\n' ∉ comment

/-- What is left of a text is its end, and a tail behind that is not gone but for a hash in the last
line. -/
structure Leaves (gone : Bool) (cs : List Char) (gone' : Bool) (rest : List Char) : Prop where
  suffix : rest <:+ cs
  lost : gone' = true → gone = true ∨ HashAtEnd cs

theorem HashAtEnd.of_suffix {cs rest : List Char} (h : HashAtEnd rest) (suffix : rest <:+ cs) :
    HashAtEnd cs := by
  obtain ⟨before, rfl⟩ := suffix
  obtain ⟨front, comment, rfl, line⟩ := h
  exact ⟨before ++ front, comment, (List.append_assoc _ _ _).symm, line⟩

namespace Leaves

variable {gone gone' gone'' : Bool} {cs mid rest : List Char} {c : Char}

theorem refl (gone : Bool) (cs : List Char) : Leaves gone cs gone cs :=
  ⟨List.suffix_refl cs, .inl⟩

theorem trans (front : Leaves gone cs gone' mid) (back : Leaves gone' mid gone'' rest) :
    Leaves gone cs gone'' rest where
  suffix := back.suffix.trans front.suffix
  lost := by
    intro gone
    obtain gone | hash := back.lost gone
    · exact front.lost gone
    · exact .inr (hash.of_suffix front.suffix)

theorem drop (h : Leaves gone cs gone' rest) (suffix : cs <:+ mid) :
    Leaves gone mid gone' rest :=
  ⟨h.suffix.trans suffix, fun gone => (h.lost gone).imp_right (·.of_suffix suffix)⟩

theorem shorten (h : Leaves gone cs gone' mid) (suffix : rest <:+ mid) :
    Leaves gone cs gone' rest :=
  ⟨suffix.trans h.suffix, h.lost⟩

theorem cons (h : Leaves gone cs gone' rest) : Leaves gone (c :: cs) gone' rest :=
  h.drop (List.suffix_cons c cs)

end Leaves

variable {f : Flags} {cs rest : List Char}

/-! ### Blanks and comments -/

namespace Flags

theorem passBlank_of_notMem {cs : List Char} (h : '\n' ∉ cs) : passBlank true cs = [] := by
  induction cs with
  | nil => rfl
  | cons c cs ih =>
    obtain ⟨ne, h⟩ := not_or.mp (List.mem_cons.not.mp h)
    rw [passBlank, bne_iff_ne.mpr (Ne.symm ne)]
    exact ih h

theorem passBlank_suffix (inside : Bool) (cs : List Char) : passBlank inside cs <:+ cs := by
  induction cs generalizing inside with
  | nil => cases inside <;> exact List.suffix_refl _
  | cons c cs ih =>
    have on : ∀ inside, passBlank inside cs <:+ c :: cs := fun inside =>
      (ih inside).trans (List.suffix_cons c cs)
    cases inside with
    | true => exact on _
    | false =>
      simp only [passBlank]
      split
      · exact on false
      · split
        · exact on true
        · exact List.suffix_refl _

/-- A tail is lost in the comment that a text ends in, or that it begins and ends in. -/
theorem passBlank_append (inside : Bool) (cs : List Char) :
    ∃ gone, (gone = true → inside = true ∧ '\n' ∉ cs ∨ HashAtEnd cs) ∧ ∀ t, Closes t →
      passBlank inside (cs ++ t) = tailed gone (passBlank inside cs) t := by
  induction cs generalizing inside with
  | nil =>
    cases inside with
    | true =>
      refine ⟨true, fun _ => .inl ⟨rfl, List.not_mem_nil⟩, ?_⟩
      rintro _ ⟨more, rfl, line, -⟩
      have unbroken : '\n' ∉ ')' :: more := by simpa using line
      exact passBlank_of_notMem unbroken
    | false =>
      refine ⟨false, nofun, ?_⟩
      rintro _ ⟨more, rfl, -⟩
      rfl
  | cons c cs ih =>
    have later : HashAtEnd cs → HashAtEnd (c :: cs) := (·.of_suffix (List.suffix_cons c cs))
    cases inside with
    | true =>
      obtain ⟨gone, lost, passes⟩ := ih (c != '\n')
      refine ⟨gone, fun h => ?_, passes⟩
      obtain ⟨other, line⟩ | hash := lost h
      · exact .inl ⟨rfl, List.not_mem_cons_of_ne_of_not_mem (bne_iff_ne.mp other).symm line⟩
      · exact .inr (later hash)
    | false =>
      simp only [List.cons_append, passBlank]
      split
      · obtain ⟨gone, lost, passes⟩ := ih false
        exact ⟨gone, fun h => .inr (later ((lost h).resolve_left nofun)), passes⟩
      · split
        · next hash =>
          obtain ⟨gone, lost, passes⟩ := ih true
          refine ⟨gone, fun h => .inr ?_, passes⟩
          obtain ⟨-, line⟩ | hash' := lost h
          · exact ⟨[], cs, by rw [hash]; rfl, line⟩
          · exact later hash'
        · exact ⟨false, nofun, fun _ _ => rfl⟩

theorem skip_suffix (f : Flags) (cs : List Char) : f.skip cs <:+ cs := by
  unfold skip
  split
  · exact passBlank_suffix false cs
  · exact List.suffix_refl cs

theorem skip_tailed (f : Flags) (gone : Bool) (cs : List Char) :
    ∃ gone', Leaves gone cs gone' (f.skip cs) ∧ ∀ t, Closes t →
      f.skip (tailed gone cs t) = tailed gone' (f.skip cs) t := by
  have suffix := f.skip_suffix cs
  cases gone with
  | true => exact ⟨true, ⟨suffix, .inl⟩, fun _ _ => rfl⟩
  | false =>
    unfold skip at suffix ⊢
    split
    · next verbose =>
      rw [if_pos verbose] at suffix
      obtain ⟨gone', lost, passes⟩ := passBlank_append false cs
      exact ⟨gone', ⟨suffix, fun h => .inr ((lost h).resolve_left nofun)⟩, passes⟩
    · exact ⟨false, .refl false cs, fun _ _ => rfl⟩

theorem enter_eq_some : f.enter cs = some rest ↔ f.skip cs = rest ∧ rest ≠ [] := by
  unfold enter
  split
  · next none =>
    rw [none]
    simp [eq_comm]
  · next some =>
    constructor
    · rintro ⟨⟩
      exact ⟨rfl, some⟩
    · rintro ⟨rfl, -⟩
      rfl

theorem enter_suffix (h : f.enter cs = some rest) : rest <:+ cs := by
  obtain ⟨rfl, -⟩ := enter_eq_some.mp h
  exact f.skip_suffix cs

theorem enter_tailed (gone : Bool) (h : f.enter cs = some rest) :
    ∃ gone', Leaves gone cs gone' rest ∧ ∀ t, Closes t →
      f.enter (tailed gone cs t) = some (tailed gone' rest t) := by
  obtain ⟨rfl, some⟩ := enter_eq_some.mp h
  obtain ⟨gone', left, skip⟩ := skip_tailed f gone cs
  exact ⟨gone', left, fun t ht => enter_eq_some.mpr ⟨skip t ht, tailed_ne_nil some⟩⟩

/-- What comes next stays so, and where nothing does, the tail comes next. -/
theorem sightAfterHash_append (hash : Bool) (cs more : List Char) :
    sightAfterHash hash (cs ++ ')' :: more) = (sightAfterHash hash cs).getD ')' := by
  induction cs generalizing hash with
  | nil => cases hash <;> rfl
  | cons c cs ih =>
    rw [List.cons_append, sightAfterHash, sightAfterHash]
    split
    · exact ih hash
    · split
      · exact ih true
      · rfl

theorem blank_of_sightAfterHash {hash : Bool} {c : Char}
    (h : sightAfterHash hash (c :: cs) = none) : isBlank c = true ∨ c = '#' := by
  rw [sightAfterHash] at h
  split at h
  · next blank => exact .inl blank
  · split at h
    · next mark => exact .inr (by simpa using (Bool.and_eq_true_iff.mp mark).1)
    · cases h

/-- A sign that looks out for a bracket or a hyphen does not take the tail for one. -/
theorem sight_tailed (gone : Bool) {t : List Char} {mark : Char} (ht : Closes t)
    (h : mark = ']' ∨ mark = '-') :
    f.sight (tailed gone cs t) = some mark ↔ f.sight cs = some mark := by
  cases gone with
  | true => exact Iff.rfl
  | false =>
    obtain ⟨more, rfl, -⟩ := ht
    have other : mark ≠ ')' ∧ isBlank mark = false ∧ mark ≠ '#' := by
      rcases h with rfl | rfl <;> decide
    show f.sight (cs ++ ')' :: more) = some mark ↔ _
    unfold sight
    split
    · rw [sightAfterHash_append]
      rcases next : sightAfterHash false cs with - | d
      · -- only blanks are left, and none of them is the mark
        have first : cs.head? ≠ some mark := by
          rcases cs with - | ⟨c, cs⟩
          · simp
          · rintro ⟨⟩
            rcases blank_of_sightAfterHash next with blank | rfl
            · rw [other.2.1] at blank
              cases blank
            · exact other.2.2 rfl
        simp [first, other.1.symm]
      · simp
    · rcases cs with - | ⟨c, cs⟩
      · simp [other.1.symm]
      · simp

end Flags

/-! ### Escapes -/

namespace Escape

variable {fuel count n : Nat} {found : Bool}

theorem hexFixed_tailed {a : Nat} (gone : Bool) (h : hexFixed f count n cs = some (a, rest)) :
    ∃ gone', Leaves gone cs gone' rest ∧ ∀ t, Closes t →
      hexFixed f count n (tailed gone cs t) = some (a, tailed gone' rest t) := by
  induction count generalizing n cs gone with
  | zero =>
    rw [hexFixed] at h
    obtain ⟨rfl, rfl⟩ := Prod.mk.inj (Option.some.inj h)
    exact ⟨gone, .refl gone cs, fun t _ => by rw [hexFixed]⟩
  | succ count ih =>
    rcases cs with - | ⟨c, cs⟩
    · cases h
    · rw [hexFixed] at h
      obtain ⟨d, digit, h⟩ := Option.bind_eq_some_iff.mp h
      obtain ⟨gone₁, left₁, skip⟩ := f.skip_tailed gone cs
      obtain ⟨gone₂, left₂, more⟩ := ih gone₁ h
      refine ⟨gone₂, (left₁.trans left₂).cons, fun t ht => ?_⟩
      rw [tailed_cons, hexFixed, digit, skip t ht]
      exact more t ht

theorem hexBraced_tailed {a : Nat} (gone : Bool)
    (h : hexBraced f fuel found n cs = some (a, rest)) :
    ∃ gone', Leaves gone cs gone' rest ∧ ∀ t, Closes t → ∀ fuel' ≥ fuel,
      hexBraced f fuel' found n (tailed gone cs t) = some (a, tailed gone' rest t) := by
  induction fuel generalizing found n cs gone with
  | zero => cases h
  | succ fuel ih =>
    rcases cs with - | ⟨c, cs⟩
    · cases h
    · obtain ⟨gone₁, left₁, skip⟩ := f.skip_tailed gone cs
      rw [hexBraced] at h
      split at h
      · next closes =>
        split at h
        · next some =>
          obtain ⟨rfl, rfl⟩ := Prod.mk.inj (Option.some.inj h)
          refine ⟨gone₁, left₁.cons, fun t ht fuel' le => ?_⟩
          obtain ⟨fuel', rfl⟩ := Nat.exists_eq_add_of_le' le
          rw [tailed_cons, ← Nat.add_assoc, hexBraced, if_pos closes, if_pos some, skip t ht]
        · cases h
      · next more =>
        obtain ⟨d, digit, h⟩ := Option.bind_eq_some_iff.mp h
        obtain ⟨gone₂, left₂, on⟩ := ih gone₁ h
        refine ⟨gone₂, (left₁.trans left₂).cons, fun t ht fuel' le => ?_⟩
        obtain ⟨fuel', rfl⟩ := Nat.exists_eq_add_of_le' le
        rw [tailed_cons, ← Nat.add_assoc, hexBraced, if_neg more, digit, skip t ht]
        exact on t ht _ (Nat.le_add_left _ _)

theorem numbered_tailed {letter : Char} {a : Atom} (gone : Bool)
    (h : numbered f letter cs = some (a, rest)) :
    ∃ gone', Leaves gone cs gone' rest ∧ ∀ t, Closes t →
      numbered f letter (tailed gone cs t) = some (a, tailed gone' rest t) := by
  obtain ⟨entered, enter, h⟩ := Option.bind_eq_some_iff.mp h
  obtain ⟨gone₁, left₁, enters⟩ := Flags.enter_tailed gone enter
  simp only [numbered, Option.bind_eq_bind] at h ⊢
  split at h
  · next cs =>
    obtain ⟨gone₂, left₂, skip⟩ := f.skip_tailed gone₁ cs
    obtain ⟨⟨n, rest⟩, digits, h⟩ := Option.bind_eq_some_iff.mp h
    obtain ⟨gone₃, left₃, braced⟩ := hexBraced_tailed gone₂ digits
    obtain ⟨c, char, h⟩ := Option.bind_eq_some_iff.mp h
    obtain ⟨rfl, rfl⟩ := Prod.mk.inj (Option.some.inj h)
    refine ⟨gone₃, left₁.trans (left₂.trans left₃).cons, fun t ht => ?_⟩
    have long := Nat.succ_le_succ (length_le_tailed gone₁ cs t)
    simp [enters t ht, skip t ht, braced t ht _ long, char]
  · next open' =>
    obtain ⟨⟨n, rest⟩, digits, h⟩ := Option.bind_eq_some_iff.mp h
    obtain ⟨gone₂, left₂, fixed⟩ := hexFixed_tailed gone₁ digits
    obtain ⟨c, char, h⟩ := Option.bind_eq_some_iff.mp h
    obtain ⟨rfl, rfl⟩ := Prod.mk.inj (Option.some.inj h)
    obtain ⟨d, cs, rfl⟩ := List.exists_cons_of_ne_nil (Flags.enter_eq_some.mp enter).2
    refine ⟨gone₂, left₁.trans left₂, fun t ht => ?_⟩
    simp only [enters t ht, Option.bind_some, tailed_cons]
    split
    · -- no brace has come to stand in front
      next same => exact absurd (List.cons.inj same).1 (fun eq => open' cs (by rw [eq]))
    · rw [← tailed_cons, fixed t ht]
      simp [char]

theorem braced_tailed {name : List Char} (gone : Bool) (h : braced f fuel cs = some (name, rest)) :
    ∃ gone', Leaves gone cs gone' rest ∧ ∀ t, Closes t → ∀ fuel' ≥ fuel,
      braced f fuel' (tailed gone cs t) = some (name, tailed gone' rest t) := by
  induction fuel generalizing cs name gone with
  | zero => cases h
  | succ fuel ih =>
    rcases cs with - | ⟨c, cs⟩
    · cases h
    · rw [braced] at h
      split at h
      · next closes =>
        obtain ⟨rfl, rfl⟩ := Prod.mk.inj (Option.some.inj h)
        refine ⟨gone, (Leaves.refl gone _).cons, fun t ht fuel' le => ?_⟩
        obtain ⟨fuel', rfl⟩ := Nat.exists_eq_add_of_le' le
        rw [tailed_cons, ← Nat.add_assoc, braced, if_pos closes]
      · next more =>
        obtain ⟨gone₁, left₁, skip⟩ := f.skip_tailed gone cs
        obtain ⟨⟨name, rest⟩, inner, eq⟩ := Option.map_eq_some_iff.mp h
        obtain ⟨rfl, rfl⟩ := Prod.mk.inj eq
        obtain ⟨gone₂, left₂, on⟩ := ih gone₁ inner
        refine ⟨gone₂, (left₁.trans left₂).cons, fun t ht fuel' le => ?_⟩
        obtain ⟨fuel', rfl⟩ := Nat.exists_eq_add_of_le' le
        rw [tailed_cons, ← Nat.add_assoc, braced, if_neg more, skip t ht,
          on t ht _ (Nat.le_add_left _ _)]
        rfl

theorem propertyClass_tailed {negated : Bool} {a : Atom} (gone : Bool)
    (h : propertyClass f negated cs = some (a, rest)) :
    ∃ gone', Leaves gone cs gone' rest ∧ ∀ t, Closes t →
      propertyClass f negated (tailed gone cs t) = some (a, tailed gone' rest t) := by
  simp only [propertyClass, Option.bind_eq_bind] at h ⊢
  obtain ⟨entered, enter, h⟩ := Option.bind_eq_some_iff.mp h
  obtain ⟨gone₁, left₁, enters⟩ := Flags.enter_tailed gone enter
  split at h
  · next cs =>
    obtain ⟨⟨name, back⟩, read, h⟩ := Option.bind_eq_some_iff.mp h
    obtain ⟨gone₂, left₂, skip⟩ := f.skip_tailed gone₁ cs
    obtain ⟨gone₃, left₃, braces⟩ := braced_tailed gone₂ read
    simp only [Option.pure_def, Option.bind_some] at h
    obtain ⟨set, named, h⟩ := Option.bind_eq_some_iff.mp h
    split at h
    · next wide =>
      obtain ⟨closed, close, h⟩ := Option.bind_eq_some_iff.mp h
      obtain ⟨rfl, rfl⟩ := Prod.mk.inj (Option.some.inj h)
      refine ⟨gone₃, left₁.trans (left₂.trans left₃).cons, fun t ht => ?_⟩
      have long := Nat.succ_le_succ (length_le_tailed gone₁ cs t)
      simp [enters t ht, skip t ht, braces t ht _ long, named, close, wide]
    · cases h
  · cases h
  · next c cs open' escape =>
    obtain ⟨gone₂, left₂, skip⟩ := f.skip_tailed gone₁ cs
    simp only [Option.pure_def, Option.bind_some] at h
    obtain ⟨set, named, h⟩ := Option.bind_eq_some_iff.mp h
    split at h
    · next wide =>
      obtain ⟨closed, close, h⟩ := Option.bind_eq_some_iff.mp h
      obtain ⟨rfl, rfl⟩ := Prod.mk.inj (Option.some.inj h)
      refine ⟨gone₂, left₁.trans left₂.cons, fun t ht => ?_⟩
      simp [enters t ht, skip t ht, named, close, wide]
    · cases h
  · cases h

theorem edgeName_tailed {name : List Char} (gone : Bool)
    (h : edgeName f fuel cs = some (name, rest)) :
    ∃ gone', Leaves gone cs gone' rest ∧ ∀ t, Closes t → ∀ fuel' ≥ fuel,
      edgeName f fuel' (tailed gone cs t) = some (name, tailed gone' rest t) := by
  induction fuel generalizing cs name gone with
  | zero => cases h
  | succ fuel ih =>
    rcases cs with - | ⟨c, cs⟩
    · cases h
    · rw [edgeName] at h
      split at h
      · next more =>
        obtain ⟨gone₁, left₁, skip⟩ := f.skip_tailed gone cs
        obtain ⟨⟨name, rest⟩, inner, eq⟩ := Option.map_eq_some_iff.mp h
        obtain ⟨rfl, rfl⟩ := Prod.mk.inj eq
        obtain ⟨gone₂, left₂, on⟩ := ih gone₁ inner
        refine ⟨gone₂, (left₁.trans left₂).cons, fun t ht fuel' le => ?_⟩
        obtain ⟨fuel', rfl⟩ := Nat.exists_eq_add_of_le' le
        rw [tailed_cons, ← Nat.add_assoc, edgeName, if_pos more, skip t ht,
          on t ht _ (Nat.le_add_left _ _)]
        rfl
      · next more =>
        split at h
        · next closes =>
          obtain ⟨rfl, rfl⟩ := Prod.mk.inj (Option.some.inj h)
          refine ⟨gone, (Leaves.refl gone _).cons, fun t ht fuel' le => ?_⟩
          obtain ⟨fuel', rfl⟩ := Nat.exists_eq_add_of_le' le
          rw [tailed_cons, ← Nat.add_assoc, edgeName, if_neg more, if_pos closes]
        · cases h

theorem wordEdge_tailed {a : Atom} (gone : Bool) (h : wordEdge f cs = some (a, rest)) :
    ∃ gone', Leaves gone cs gone' rest ∧ ∀ t, Closes t →
      wordEdge f (tailed gone cs t) = some (a, tailed gone' rest t) := by
  unfold wordEdge at h
  split at h
  · next cs =>
    obtain ⟨gone₁, left₁, skip⟩ := f.skip_tailed gone cs
    split at h
    · cases h
    · next c more sight =>
      rw [sight] at skip left₁
      split at h
      · next named =>
        obtain ⟨⟨name, rest⟩, read, h⟩ := Option.bind_eq_some_iff.mp h
        obtain ⟨edge, known, h⟩ := Option.bind_eq_some_iff.mp h
        obtain ⟨rfl, rfl⟩ := Prod.mk.inj (Option.some.inj h)
        obtain ⟨gone₂, left₂, reads⟩ := edgeName_tailed gone₁ read
        refine ⟨gone₂, (left₁.trans left₂).cons, fun t ht => ?_⟩
        have long := Nat.add_le_add_right (length_le_tailed gone₁ more t) 2
        have reads := reads t ht _ long
        rw [tailed_cons] at reads
        simp [wordEdge, skip t ht, named, reads, known]
      · next named =>
        obtain ⟨rfl, rfl⟩ := Prod.mk.inj (Option.some.inj h)
        refine ⟨gone, .refl gone _, fun t ht => ?_⟩
        simp [wordEdge, skip t ht, named]
  · next open' =>
    obtain ⟨rfl, rfl⟩ := Prod.mk.inj (Option.some.inj h)
    refine ⟨gone, .refl gone _, fun t ht => ?_⟩
    unfold wordEdge
    split
    · next same => exact (ne_cons_tailed ht (by decide) open' _ same).elim
    · rfl

theorem read_tailed {a : Atom} (gone : Bool) (h : read f cs = some (a, rest)) :
    ∃ gone', Leaves gone cs gone' rest ∧ ∀ t, Closes t →
      read f (tailed gone cs t) = some (a, tailed gone' rest t) := by
  rcases cs with - | ⟨c, cs⟩
  · cases h
  simp only [tailed_cons, read] at h ⊢
  by_cases number : (c = 'x' || c = 'u' || c = 'U') = true
  · rw [if_pos number] at h
    obtain ⟨gone', left', reads⟩ := numbered_tailed gone h
    exact ⟨gone', left'.cons, fun t ht => by rw [if_pos number, reads t ht]⟩
  by_cases property : (c = 'p' || c = 'P') = true
  · rw [if_neg number, if_pos property] at h
    obtain ⟨gone', left', reads⟩ := propertyClass_tailed gone h
    exact ⟨gone', left'.cons, fun t ht => by rw [if_neg number, if_pos property, reads t ht]⟩
  -- what is read of one letter leaves the text behind it
  have plain : ∀ made : Option Atom, made.map (·, cs) = some (a, rest) →
      rest = cs ∧ ∀ t, made.map (·, tailed gone cs t) = some (a, tailed gone rest t) := by
    intro made h
    obtain ⟨atom, rfl, eq⟩ := Option.map_eq_some_iff.mp h
    obtain ⟨rfl, rfl⟩ := Prod.mk.inj eq
    exact ⟨rfl, fun _ => rfl⟩
  simp only [if_neg number, if_neg property] at h ⊢
  split at h
  · next small =>
    obtain ⟨rfl, same⟩ := plain _ h
    exact ⟨gone, (Leaves.refl gone rest).cons, fun t _ => by rw [if_pos small, same t]⟩
  · next small =>
    split at h
    · next large =>
      obtain ⟨rfl, same⟩ := plain _ h
      refine ⟨gone, (Leaves.refl gone rest).cons, fun t _ => ?_⟩
      rw [if_neg small, if_pos large, same t]
    · next large =>
      simp only [if_neg small, if_neg large]
      split at h
      · next itself =>
        obtain ⟨rfl, same⟩ := plain (some _) h
        exact ⟨gone, (Leaves.refl gone rest).cons, fun t _ => by rw [if_pos itself]; exact same t⟩
      · next itself =>
        simp only [if_neg itself]
        split at h
        case h_3 =>
          obtain ⟨gone', left', reads⟩ := wordEdge_tailed gone h
          exact ⟨gone', left'.cons, reads⟩
        case h_7 =>
          obtain ⟨made, control, eq⟩ := Option.map_eq_some_iff.mp h
          obtain ⟨rfl, rfl⟩ := Prod.mk.inj eq
          refine ⟨gone, (Leaves.refl gone _).cons, fun t _ => ?_⟩
          simp [*]
        all_goals
          obtain ⟨rfl, same⟩ := plain (some _) h
          exact ⟨gone, (Leaves.refl gone rest).cons, fun t _ => same t⟩

end Escape

/-! ### Classes in brackets -/

namespace Class

variable {fuel : Nat}

theorem atom_tailed {a : Atom} (gone : Bool) (h : atom f cs = some (a, rest)) :
    ∃ gone', Leaves gone cs gone' rest ∧ ∀ t, Closes t →
      atom f (tailed gone cs t) = some (a, tailed gone' rest t) := by
  unfold atom at h
  split at h
  · cases h
  · next cs =>
    obtain ⟨gone', left', reads⟩ := Escape.read_tailed gone h
    exact ⟨gone', left'.cons, fun t ht => by rw [tailed_cons]; exact reads t ht⟩
  · next c cs plain =>
    obtain ⟨rfl, rfl⟩ := Prod.mk.inj (Option.some.inj h)
    refine ⟨gone, (Leaves.refl gone _).cons, fun t _ => ?_⟩
    rw [tailed_cons, atom]
    exact plain

theorem memberOrRange_tailed {set : CharSet} (gone : Bool)
    (h : memberOrRange f cs = some (set, rest)) :
    ∃ gone', Leaves gone cs gone' rest ∧ ∀ t, Closes t →
      memberOrRange f (tailed gone cs t) = some (set, tailed gone' rest t) := by
  simp only [memberOrRange, Option.bind_eq_bind] at h ⊢
  obtain ⟨⟨first, rest₁⟩, readFirst, h⟩ := Option.bind_eq_some_iff.mp h
  obtain ⟨entered, enter, h⟩ := Option.bind_eq_some_iff.mp h
  obtain ⟨gone₁, left₁, reads⟩ := atom_tailed gone readFirst
  obtain ⟨gone₂, left₂, enters⟩ := Flags.enter_tailed gone₁ enter
  split at h
  · next more =>
    split at h
    · next mark =>
      -- the hyphen stands for itself
      obtain ⟨set, made, h⟩ := Option.bind_eq_some_iff.mp h
      obtain ⟨rfl, rfl⟩ := Prod.mk.inj (Option.some.inj h)
      refine ⟨gone₂, left₁.trans left₂, fun t ht => ?_⟩
      simp only [reads t ht, Option.bind_some, enters t ht, tailed_cons]
      rw [if_pos (by simpa [Flags.sight_tailed gone₂ ht] using mark), made]
      rfl
    · next mark =>
      obtain ⟨⟨last, rest₂⟩, readLast, h⟩ := Option.bind_eq_some_iff.mp h
      obtain ⟨entered', enter', readLast⟩ := Option.bind_eq_some_iff.mp readLast
      obtain ⟨low, boundLow, h⟩ := Option.bind_eq_some_iff.mp h
      obtain ⟨high, boundHigh, h⟩ := Option.bind_eq_some_iff.mp h
      split at h
      · next ordered =>
        obtain ⟨rfl, rfl⟩ := Prod.mk.inj (Option.some.inj h)
        obtain ⟨gone₃, left₃, enters'⟩ := Flags.enter_tailed gone₂ enter'
        obtain ⟨gone₄, left₄, reads'⟩ := atom_tailed gone₃ readLast
        refine ⟨gone₄, (left₁.trans left₂).trans (left₃.trans left₄).cons, fun t ht => ?_⟩
        simp only [reads t ht, Option.bind_some, enters t ht, tailed_cons]
        rw [if_neg (by simpa [Flags.sight_tailed gone₂ ht] using mark)]
        simp [enters' t ht, reads' t ht, boundLow, boundHigh, ordered]
      · cases h
  · next hyphen =>
    obtain ⟨set, made, h⟩ := Option.bind_eq_some_iff.mp h
    obtain ⟨rfl, rfl⟩ := Prod.mk.inj (Option.some.inj h)
    refine ⟨gone₂, left₁.trans left₂, fun t ht => ?_⟩
    simp only [reads t ht, Option.bind_some, enters t ht]
    split
    · next same => exact (ne_cons_tailed ht (by decide) hyphen _ same).elim
    · rw [made]
      rfl

theorem leadingHyphens_tailed {l l' : Level} (gone : Bool) (room : cs.length < fuel)
    (h : leadingHyphens f fuel l cs = some (l', rest)) :
    ∃ gone', Leaves gone cs gone' rest ∧ ∀ t, Closes t → ∀ fuel', (tailed gone cs t).length < fuel' →
      leadingHyphens f fuel' l (tailed gone cs t) = some (l', tailed gone' rest t) := by
  induction fuel generalizing cs l gone with
  | zero => exact absurd room (Nat.not_lt_zero _)
  | succ fuel ih =>
    by_cases hyphen : ∃ more, cs = '-' :: more
    · obtain ⟨more, rfl⟩ := hyphen
      rw [leadingHyphens] at h
      obtain ⟨entered, enter, h⟩ := Option.bind_eq_some_iff.mp h
      obtain ⟨gone₁, left₁, enters⟩ := Flags.enter_tailed gone enter
      have short := (Flags.enter_suffix enter).length_le
      rw [List.length_cons] at room
      obtain ⟨gone₂, left₂, on⟩ := ih gone₁ (by omega) h
      refine ⟨gone₂, (left₁.trans left₂).cons, fun t ht fuel' room => ?_⟩
      have short := (Flags.enter_suffix (enters t ht)).length_le
      rw [tailed_cons, List.length_cons] at room
      obtain ⟨fuel', rfl⟩ := Nat.exists_eq_add_of_lt (Nat.zero_lt_of_lt room)
      rw [tailed_cons, Nat.zero_add, leadingHyphens, enters t ht]
      exact on t ht _ (by omega)
    · rw [leadingHyphens] at h
      · obtain ⟨rfl, rfl⟩ := Prod.mk.inj (Option.some.inj h)
        refine ⟨gone, .refl gone _, fun t ht fuel' _ => ?_⟩
        rw [leadingHyphens]
        intro n more _ same
        obtain ⟨cs, rfl, -⟩ := cons_of_tailed ht (by decide) same
        exact hyphen ⟨cs, rfl⟩
      · exact fun n more _ same => hyphen ⟨more, same⟩

/-- The start of a class, once it is known whether the class is negated. -/
def opening (f : Flags) (negated : Bool) (cs : List Char) : Option (Level × List Char) := do
  let (l, cs) ← leadingHyphens f (cs.length + 1) ⟨negated, none, [], 0, 0⟩ cs
  match cs with
  | ']' :: rest =>
    if l.count = 0 then (f.enter rest).map fun cs => (l.add ⟨.single ']', 0⟩, cs)
    else some (l, cs)
  | cs => some (l, cs)

theorem start_eq (f : Flags) (cs : List Char) : start f cs = (f.enter cs).bind fun cs =>
    match cs with
    | '^' :: rest => (f.enter rest).bind (opening f true)
    | cs => opening f false cs := by
  unfold start
  rcases f.enter cs with - | cs
  · rfl
  by_cases caret : ∃ rest, cs = '^' :: rest
  · obtain ⟨cs, rfl⟩ := caret
    show ((f.enter cs).map _).bind _ = (f.enter cs).bind _
    rcases f.enter cs with - | cs <;> rfl
  · have caret := not_exists.mp caret
    simp only [Option.bind_eq_bind, Option.bind_some]
    rfl

theorem opening_tailed {negated : Bool} {l : Level} (gone : Bool)
    (h : opening f negated cs = some (l, rest)) :
    ∃ gone', Leaves gone cs gone' rest ∧ ∀ t, Closes t →
      opening f negated (tailed gone cs t) = some (l, tailed gone' rest t) := by
  simp only [opening, Option.bind_eq_bind] at h ⊢
  obtain ⟨⟨l₁, rest₁⟩, hyphens, h⟩ := Option.bind_eq_some_iff.mp h
  obtain ⟨gone₁, left₁, skips⟩ := leadingHyphens_tailed gone (Nat.lt_succ_self _) hyphens
  have skips := fun t ht => skips t ht _ (Nat.lt_succ_self _)
  dsimp only at h
  split at h
  · next cs =>
    split at h
    · next none =>
      obtain ⟨inner, enter, eq⟩ := Option.map_eq_some_iff.mp h
      obtain ⟨rfl, rfl⟩ := Prod.mk.inj eq
      obtain ⟨gone₂, left₂, enters⟩ := Flags.enter_tailed gone₁ enter
      refine ⟨gone₂, left₁.trans left₂.cons, fun t ht => ?_⟩
      simp [skips t ht, none, enters t ht]
    · next some =>
      obtain ⟨rfl, rfl⟩ := Prod.mk.inj (Option.some.inj h)
      refine ⟨gone₁, left₁, fun t ht => ?_⟩
      simp [skips t ht, some]
  · next bracket =>
    obtain ⟨rfl, rfl⟩ := Prod.mk.inj (Option.some.inj h)
    refine ⟨gone₁, left₁, fun t ht => ?_⟩
    simp only [skips t ht, Option.bind_some]
    split
    · next same => exact (ne_cons_tailed ht (by decide) bracket _ same).elim
    · rfl

theorem start_tailed {l : Level} (gone : Bool) (h : start f cs = some (l, rest)) :
    ∃ gone', Leaves gone cs gone' rest ∧ ∀ t, Closes t →
      start f (tailed gone cs t) = some (l, tailed gone' rest t) := by
  rw [start_eq] at h
  obtain ⟨entered, enter, h⟩ := Option.bind_eq_some_iff.mp h
  obtain ⟨gone₁, left₁, enters⟩ := Flags.enter_tailed gone enter
  split at h
  · next cs =>
    obtain ⟨inner, enter', h⟩ := Option.bind_eq_some_iff.mp h
    obtain ⟨gone₂, left₂, enters'⟩ := Flags.enter_tailed gone₁ enter'
    obtain ⟨gone₃, left₃, opens⟩ := opening_tailed gone₂ h
    refine ⟨gone₃, left₁.trans (left₂.trans left₃).cons, fun t ht => ?_⟩
    simp [start_eq, enters t ht, enters' t ht, opens t ht]
  · next caret =>
    obtain ⟨gone₂, left₂, opens⟩ := opening_tailed gone₁ h
    refine ⟨gone₂, left₁.trans left₂, fun t ht => ?_⟩
    rw [start_eq, enters t ht, Option.bind_some]
    split
    · next same => exact (ne_cons_tailed ht (by decide) caret _ same).elim
    · exact opens t ht

/-- A name up to a colon and a closing bracket, and what follows it. -/
def asciiName (negated : Bool) (cs : List Char) : Option (Bool × CharSet × List Char) :=
  let name := cs.takeWhile (· != ':')
  match cs.drop name.length with
  | ':' :: ']' :: rest => (asciiRanges? name).map fun r => (negated, .ofRanges r, rest)
  | _ => none

theorem ascii?_colon {cs : List Char} (caret : ∀ rest, cs ≠ '^' :: rest) :
    ascii? (':' :: cs) = asciiName false cs := by
  simp only [ascii?]
  rfl

theorem ascii?_other (colon : ∀ rest, cs ≠ ':' :: rest) : ascii? cs = none := by
  unfold ascii?
  split
  · exact absurd rfl (colon _)
  · rfl

theorem asciiName_colon {name : List Char} (negated : Bool) (colon : ':' ∉ name)
    (back : List Char) : asciiName negated (name ++ ':' :: back) =
      match back with
      | ']' :: rest => (asciiRanges? name).map fun r => (negated, .ofRanges r, rest)
      | _ => none := by
  have taken : (name ++ ':' :: back).takeWhile (· != ':') = name := by
    rw [List.takeWhile_append_of_pos, List.takeWhile_cons_of_neg (by decide), List.append_nil]
    exact fun c hc => bne_iff_ne.mpr (fun eq => colon (eq ▸ hc))
  simp only [asciiName, taken, List.drop_left]
  rcases back with - | ⟨c, back⟩
  · rfl
  · by_cases bracket : c = ']'
    · subst bracket
      rfl
    · simp [bracket]

theorem asciiName_notMem (negated : Bool) (colon : ':' ∉ cs) : asciiName negated cs = none := by
  have all : cs.takeWhile (· != ':') = cs :=
    List.takeWhile_eq_self_iff.mpr fun c hc => bne_iff_ne.mpr (fun eq => colon (eq ▸ hc))
  simp [asciiName, all]

/-- The name of a class ends where it ended; what is no name does not become one. -/
theorem asciiName_append (negated : Bool) (cs : List Char) {t : List Char} (ht : Closes t) :
    asciiName negated (cs ++ t) =
      (asciiName negated cs).map fun found => (found.1, found.2.1, found.2.2 ++ t) := by
  obtain ⟨more, rfl, -, noColon⟩ := ht
  by_cases colon : ':' ∈ cs
  · obtain ⟨name, back, rfl, first⟩ := List.eq_append_cons_of_mem colon
    rw [List.append_assoc, List.cons_append, asciiName_colon negated first,
      asciiName_colon negated first]
    rcases back with - | ⟨c, back⟩
    · rfl
    · by_cases bracket : c = ']'
      · subst bracket
        simp [Function.comp_def]
      · simp [bracket]
  · rw [asciiName_notMem negated colon, asciiName_notMem negated (by simp [colon, noColon])]
    rfl

theorem asciiName_suffix {negated negated' : Bool} {set : CharSet}
    (h : asciiName negated cs = some (negated', set, rest)) : rest <:+ cs := by
  simp only [asciiName] at h
  split at h
  · next back dropped =>
    obtain ⟨ranges, -, eq⟩ := Option.map_eq_some_iff.mp h
    cases eq
    exact ((List.suffix_cons _ _).trans (List.suffix_cons _ _)).trans
      (dropped ▸ List.drop_suffix _ cs)
  · cases h

theorem ascii?_suffix {negated : Bool} {set : CharSet}
    (h : ascii? cs = some (negated, set, rest)) : rest <:+ cs := by
  by_cases colon : ∃ rest, cs = ':' :: rest
  · obtain ⟨cs, rfl⟩ := colon
    by_cases caret : ∃ rest, cs = '^' :: rest
    · obtain ⟨cs, rfl⟩ := caret
      have named : asciiName true cs = some (negated, set, rest) := h
      exact ((asciiName_suffix named).trans (List.suffix_cons _ _)).trans (List.suffix_cons _ _)
    · rw [ascii?_colon (not_exists.mp caret)] at h
      exact (asciiName_suffix h).trans (List.suffix_cons _ _)
  · rw [ascii?_other (not_exists.mp colon)] at h
    cases h

theorem ascii?_tailed (gone : Bool) (cs : List Char) {t : List Char} (ht : Closes t) :
    ascii? (tailed gone cs t) =
      (ascii? cs).map fun found => (found.1, found.2.1, tailed gone found.2.2 t) := by
  cases gone with
  | true =>
    show ascii? cs = (ascii? cs).map id
    rw [Option.map_id_fun]
    rfl
  | false =>
    show ascii? (cs ++ t) = (ascii? cs).map fun found => (found.1, found.2.1, found.2.2 ++ t)
    have front : ∀ {c xs}, c ≠ ')' → (∀ rest, xs ≠ c :: rest) → ∀ rest, xs ++ t ≠ c :: rest :=
      fun ne other => @ne_cons_tailed false _ _ _ ht ne other
    by_cases colon : ∃ rest, cs = ':' :: rest
    · obtain ⟨cs, rfl⟩ := colon
      by_cases caret : ∃ rest, cs = '^' :: rest
      · obtain ⟨cs, rfl⟩ := caret
        exact asciiName_append true cs ht
      · have caret := not_exists.mp caret
        rw [List.cons_append, ascii?_colon caret, ascii?_colon (front (by decide) caret),
          asciiName_append false cs ht]
    · have colon := not_exists.mp colon
      rw [ascii?_other colon, ascii?_other (front (by decide) colon)]
      rfl

theorem body_tailed {l : Level} {s : Sized} (gone : Bool) (h : body f fuel l cs = some (s, rest)) :
    ∃ gone', Leaves gone cs gone' rest ∧ ∀ t, Closes t → ∀ fuel' ≥ fuel,
      body f fuel' l (tailed gone cs t) = some (s, tailed gone' rest t) := by
  induction fuel generalizing cs rest l s gone with
  | zero => cases h
  | succ fuel ih =>
    obtain ⟨gone₁, left₁, skip⟩ := f.skip_tailed gone cs
    rw [body] at h
    -- it is enough to look at what one sign does
    suffices step : ∃ gone', Leaves gone cs gone' rest ∧ ∀ t, Closes t → ∀ fuel' ≥ fuel,
        body f (fuel' + 1) l (tailed gone cs t) = some (s, tailed gone' rest t) by
      obtain ⟨gone', left', step⟩ := step
      refine ⟨gone', left', fun t ht fuel' le => ?_⟩
      obtain ⟨fuel', rfl⟩ := Nat.exists_eq_add_of_le' le
      exact step t ht _ (Nat.le_add_left _ _)
    split at h
    · cases h
    · next cs first =>
      rw [first] at skip left₁
      split at h
      · -- a class with a name
        next negated set back named =>
        obtain ⟨set', close, h⟩ := Option.bind_eq_some_iff.mp h
        obtain ⟨gone₂, left₂, on⟩ := ih gone₁ h
        refine ⟨gone₂, left₁.trans (left₂.drop (ascii?_suffix named)).cons, fun t ht fuel' le => ?_⟩
        rw [body, skip t ht, tailed_cons]
        simp [ascii?_tailed gone₁ cs ht, named, close, on t ht fuel' le]
      · -- a class within this one
        next unnamed =>
        obtain ⟨⟨inner, rest₁⟩, begin', h⟩ := Option.bind_eq_some_iff.mp h
        obtain ⟨⟨s', rest₂⟩, nested, h⟩ := Option.bind_eq_some_iff.mp h
        obtain ⟨gone₂, left₂, starts⟩ := start_tailed gone₁ begin'
        obtain ⟨gone₃, left₃, nests⟩ := ih gone₂ nested
        obtain ⟨gone₄, left₄, on⟩ := ih gone₃ h
        refine ⟨gone₄, left₁.trans (left₂.trans (left₃.trans left₄)).cons, fun t ht fuel' le => ?_⟩
        rw [body, skip t ht, tailed_cons]
        simp [ascii?_tailed gone₁ cs ht, unnamed, starts t ht, nests t ht fuel' le,
          on t ht fuel' le]
    · -- the end of the class
      next cs first =>
      rw [first] at skip left₁
      obtain ⟨made, close, eq⟩ := Option.map_eq_some_iff.mp h
      obtain ⟨rfl, rfl⟩ := Prod.mk.inj eq
      refine ⟨gone₁, left₁.trans (Leaves.refl gone₁ _).cons, fun t ht fuel' le => ?_⟩
      rw [body, skip t ht, tailed_cons]
      simp [close]
    · -- `&&`
      next cs first =>
      rw [first] at skip left₁
      obtain ⟨gone₂, left₂, on⟩ := ih gone₁ h
      refine ⟨gone₂, left₁.trans left₂.cons.cons, fun t ht fuel' le => ?_⟩
      rw [body, skip t ht, tailed_cons, tailed_cons]
      exact on t ht fuel' le
    · -- `--`
      next cs first =>
      rw [first] at skip left₁
      obtain ⟨gone₂, left₂, on⟩ := ih gone₁ h
      refine ⟨gone₂, left₁.trans left₂.cons.cons, fun t ht fuel' le => ?_⟩
      rw [body, skip t ht, tailed_cons, tailed_cons]
      exact on t ht fuel' le
    · -- `~~`
      next cs first =>
      rw [first] at skip left₁
      obtain ⟨gone₂, left₂, on⟩ := ih gone₁ h
      refine ⟨gone₂, left₁.trans left₂.cons.cons, fun t ht fuel' le => ?_⟩
      rw [body, skip t ht, tailed_cons, tailed_cons]
      exact on t ht fuel' le
    · -- a character or a range, as no other sign stands in front
      next some bracket closing both less tilde =>
      obtain ⟨⟨set, rest₁⟩, member, h⟩ := Option.bind_eq_some_iff.mp h
      obtain ⟨gone₂, left₂, reads⟩ := memberOrRange_tailed gone₁ member
      obtain ⟨gone₃, left₃, on⟩ := ih gone₂ h
      refine ⟨gone₃, left₁.trans (left₂.trans left₃), fun t ht fuel' le => ?_⟩
      -- nor does one with the tail
      rw [body, skip t ht]
      split
      · next same => exact absurd same (tailed_ne_nil some)
      · next same => exact (ne_cons_tailed ht (by decide) bracket _ same).elim
      · next same => exact (ne_cons_tailed ht (by decide) closing _ same).elim
      · next same => exact (ne_cons_cons_tailed ht (by decide) (by decide) both _ same).elim
      · next same => exact (ne_cons_cons_tailed ht (by decide) (by decide) less _ same).elim
      · next same => exact (ne_cons_cons_tailed ht (by decide) (by decide) tilde _ same).elim
      · simp [reads t ht, on t ht fuel' le]

theorem read_tailed {s : Sized} (gone : Bool) (h : read f cs = some (s, rest)) :
    ∃ gone', Leaves gone cs gone' rest ∧ ∀ t, Closes t →
      read f (tailed gone cs t) = some (s, tailed gone' rest t) := by
  obtain ⟨⟨l, rest₁⟩, begin', h⟩ := Option.bind_eq_some_iff.mp h
  obtain ⟨gone₁, left₁, starts⟩ := start_tailed gone begin'
  obtain ⟨gone₂, left₂, reads⟩ := body_tailed gone₁ h
  refine ⟨gone₂, left₁.trans left₂, fun t ht => ?_⟩
  simp only [read, Option.bind_eq_bind, starts t ht, Option.bind_some]
  exact reads t ht _ (Nat.succ_le_succ (length_le_tailed gone cs t))

end Class

end Scrollback.Pattern
