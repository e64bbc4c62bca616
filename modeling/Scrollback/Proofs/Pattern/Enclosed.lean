/-
What becomes of a pattern when it is put inside a group.

A reader that stands inside further groups and has more text behind it does what it does without
them (`Reader.within`), step by step and so over the whole pattern (`run_within`), until its own text
is read.  What then follows is either the tail or, the pattern ending in a comment that has swallowed
it, nothing; a pattern that has no hash in its last line does not end in a comment
(`hashAtEnd_of_endsInComment`).
-/
import Scrollback.Proofs.Pattern.Search
import Scrollback.Proofs.Pattern.Tails

namespace Scrollback.Pattern

variable {f : Flags} {cs rest : List Char} {r r' : Reader}

/-- What ends a stretch of characters still ends it with a tail behind. -/
theorem takeWhile_tailed {p : Char → Bool} {c : Char} (gone : Bool) (t : List Char)
    (h : cs.drop (cs.takeWhile p).length = c :: rest) :
    (tailed gone cs t).takeWhile p = cs.takeWhile p ∧
      (tailed gone cs t).drop (cs.takeWhile p).length = c :: tailed gone rest t := by
  induction cs with
  | nil => cases h
  | cons d cs ih =>
    rw [tailed_cons]
    by_cases pass : p d = true
    · rw [List.takeWhile_cons_of_pos pass, List.length_cons, List.drop_succ_cons] at h
      obtain ⟨taken, dropped⟩ := ih h
      rw [List.takeWhile_cons_of_pos pass, List.takeWhile_cons_of_pos pass, taken]
      exact ⟨rfl, dropped⟩
    · rw [List.takeWhile_cons_of_neg pass] at h
      rw [List.takeWhile_cons_of_neg pass, List.takeWhile_cons_of_neg pass]
      obtain ⟨rfl, rfl⟩ := List.cons.inj h
      exact ⟨rfl, rfl⟩

/-- What is dropped at the front ends before a tail that is not dropped itself. -/
theorem dropWhile_tailed {p : Char → Bool} (gone : Bool) (cs : List Char) {t : List Char}
    (ht : Closes t) (stop : p ')' = false) :
    (tailed gone cs t).dropWhile p = tailed gone (cs.dropWhile p) t := by
  induction cs with
  | nil =>
    obtain ⟨more, rfl, -⟩ := ht
    cases gone with
    | true => rfl
    | false => exact List.dropWhile_cons_of_neg (by rw [stop]; decide)
  | cons c cs ih =>
    rw [tailed_cons]
    by_cases pass : p c = true
    · rw [List.dropWhile_cons_of_pos pass, List.dropWhile_cons_of_pos pass, ih]
    · rw [List.dropWhile_cons_of_neg pass, List.dropWhile_cons_of_neg pass, tailed_cons]

namespace Reader

/-! ### Repetitions -/

variable {fuel : Nat}

theorem lazyMark_tailed (gone : Bool) (cs : List Char) {t : List Char} (ht : Closes t) :
    lazyMark (tailed gone cs t) = ((lazyMark cs).1, tailed gone (lazyMark cs).2 t) := by
  by_cases mark : ∃ rest, cs = '?' :: rest
  · obtain ⟨rest, rfl⟩ := mark
    rw [tailed_cons]
    rfl
  · have plain : ∀ {cs : List Char}, (∀ rest, cs ≠ '?' :: rest) → lazyMark cs = (false, cs) := by
      intro cs mark
      unfold lazyMark
      split
      · exact absurd rfl (mark _)
      · rfl
    have mark := not_exists.mp mark
    rw [plain mark, plain (ne_cons_tailed ht (by decide) mark)]

theorem lazyMark_suffix (cs : List Char) : (lazyMark cs).2 <:+ cs := by
  unfold lazyMark
  split
  · exact List.suffix_cons _ _
  · exact List.suffix_refl _

theorem numberDigits_tailed (gone : Bool) {ds : List Char} (room : cs.length < fuel)
    (h : numberDigits f fuel cs = (ds, rest)) :
    ∃ gone', Leaves gone cs gone' rest ∧ ∀ t, Closes t → ∀ fuel', (tailed gone cs t).length < fuel' →
      numberDigits f fuel' (tailed gone cs t) = (ds, tailed gone' rest t) := by
  induction fuel generalizing cs ds rest gone with
  | zero => exact absurd room (Nat.not_lt_zero _)
  | succ fuel ih =>
    rcases cs with - | ⟨c, cs⟩
    · obtain ⟨rfl, rfl⟩ := Prod.mk.inj h
      refine ⟨gone, .refl gone [], ?_⟩
      rintro _ ⟨more, rfl, -⟩ (- | fuel') room
      · cases room
      · cases gone <;> rfl
    · rw [numberDigits] at h
      rw [List.length_cons] at room
      split at h
      · next digit =>
        obtain ⟨rfl, rfl⟩ := Prod.mk.inj h
        obtain ⟨gone₁, left₁, skip⟩ := f.skip_tailed gone cs
        have short := Nat.lt_of_le_of_lt left₁.suffix.length_le (Nat.lt_of_succ_lt_succ room)
        obtain ⟨gone₂, left₂, on⟩ := ih gone₁ short rfl
        refine ⟨gone₂, (left₁.trans left₂).cons, fun t ht fuel' room => ?_⟩
        have short := (f.skip_suffix (tailed gone cs t)).length_le
        rw [tailed_cons, List.length_cons] at room
        obtain ⟨fuel', rfl⟩ := Nat.exists_eq_add_of_lt (Nat.zero_lt_of_lt room)
        rw [tailed_cons, Nat.zero_add, numberDigits, if_pos digit, skip t ht,
          on t ht _ (by rw [← skip t ht]; omega)]
      · next other =>
        obtain ⟨rfl, rfl⟩ := Prod.mk.inj h
        refine ⟨gone, .refl gone _, fun t ht fuel' room => ?_⟩
        obtain ⟨fuel', rfl⟩ := Nat.exists_eq_add_of_lt (Nat.zero_lt_of_lt room)
        rw [tailed_cons, Nat.zero_add, numberDigits, if_neg other]

theorem afterNumber_tailed (gone : Bool) (room : cs.length < fuel) :
    ∃ gone', Leaves gone cs gone' (afterNumber f fuel cs) ∧ ∀ t, Closes t →
      ∀ fuel', (tailed gone cs t).length < fuel' →
      afterNumber f fuel' (tailed gone cs t) = tailed gone' (afterNumber f fuel cs) t := by
  induction fuel generalizing cs gone with
  | zero => exact absurd room (Nat.not_lt_zero _)
  | succ fuel ih =>
    rcases cs with - | ⟨c, cs⟩
    · refine ⟨gone, .refl gone [], ?_⟩
      rintro _ ⟨more, rfl, -⟩ (- | fuel') room
      · cases room
      · cases gone <;> rfl
    · rw [List.length_cons] at room
      rw [afterNumber]
      split
      · next blank =>
        obtain ⟨gone₁, left₁, skip⟩ := f.skip_tailed gone cs
        have short := Nat.lt_of_le_of_lt left₁.suffix.length_le (Nat.lt_of_succ_lt_succ room)
        obtain ⟨gone₂, left₂, on⟩ := ih gone₁ short
        refine ⟨gone₂, (left₁.trans left₂).cons, fun t ht fuel' room => ?_⟩
        have short := (f.skip_suffix (tailed gone cs t)).length_le
        rw [tailed_cons, List.length_cons] at room
        obtain ⟨fuel', rfl⟩ := Nat.exists_eq_add_of_lt (Nat.zero_lt_of_lt room)
        rw [tailed_cons, Nat.zero_add, afterNumber, if_pos blank, skip t ht,
          on t ht _ (by rw [← skip t ht]; omega)]
      · next other =>
        refine ⟨gone, .refl gone _, fun t ht fuel' room => ?_⟩
        obtain ⟨fuel', rfl⟩ := Nat.exists_eq_add_of_lt (Nat.zero_lt_of_lt room)
        rw [tailed_cons, Nat.zero_add, afterNumber, if_neg other]

theorem length_numberDigits_le (f : Flags) (fuel : Nat) (cs : List Char) :
    (numberDigits f fuel cs).2.length ≤ cs.length := by
  induction fuel generalizing cs with
  | zero => exact Nat.le_refl _
  | succ fuel ih =>
    rcases cs with - | ⟨c, cs⟩
    · exact Nat.le_refl _
    · rw [numberDigits]
      split
      · exact Nat.le_succ_of_le ((ih _).trans (f.skip_suffix cs).length_le)
      · exact Nat.le_refl _

theorem number_tailed (f : Flags) (gone : Bool) (cs : List Char) :
    ∃ gone', Leaves gone cs gone' (number f cs).2 ∧ ∀ t, Closes t →
      number f (tailed gone cs t) = ((number f cs).1, tailed gone' (number f cs).2 t) := by
  have trimmed : ∀ cs : List Char, (trimStart cs).length < cs.length + 1 := fun cs =>
    Nat.lt_succ_of_le (List.dropWhile_sublist isBlank).length_le
  have rest : ∀ cs : List Char,
      (numberDigits f (cs.length + 1) (trimStart cs)).2.length < cs.length + 1 := fun cs =>
    Nat.lt_of_le_of_lt (length_numberDigits_le f _ _) (trimmed cs)
  obtain ⟨gone₁, left₁, digits⟩ := numberDigits_tailed (f := f) gone (trimmed cs) rfl
  obtain ⟨gone₂, left₂, after⟩ := afterNumber_tailed (f := f) gone₁ (rest cs)
  have left := (left₁.trans left₂).drop (List.dropWhile_suffix isBlank)
  refine ⟨gone₂, left, fun t ht => ?_⟩
  have trim : trimStart (tailed gone cs t) = tailed gone (trimStart cs) t :=
    dropWhile_tailed gone cs ht rfl
  have digits := digits t ht _ (trim ▸ trimmed (tailed gone cs t))
  have shorter := rest (tailed gone cs t)
  rw [trim, digits] at shorter
  rw [number, trim, digits]
  simp only
  rw [after t ht _ shorter]
  rfl

theorem bounds_tailed {least : Nat} {most : Option Nat} (gone : Bool)
    (h : bounds f cs = some (least, most, rest)) :
    ∃ gone', Leaves gone cs gone' rest ∧ ∀ t, Closes t →
      bounds f (tailed gone cs t) = some (least, most, tailed gone' rest t) := by
  simp only [bounds, Option.bind_eq_bind] at h ⊢
  obtain ⟨entered, enter, h⟩ := Option.bind_eq_some_iff.mp h
  obtain ⟨least', first, h⟩ := Option.bind_eq_some_iff.mp h
  obtain ⟨gone₁, left₁, enters⟩ := Flags.enter_tailed gone enter
  obtain ⟨gone₂, left₂, numbers⟩ := number_tailed f gone₁ entered
  split at h
  · next cs comma =>
    rw [comma] at left₂
    obtain ⟨entered', enter', h⟩ := Option.bind_eq_some_iff.mp h
    obtain ⟨gone₃, left₃, enters'⟩ := Flags.enter_tailed gone₂ enter'
    have left₃ := (left₁.trans left₂).trans left₃.cons
    split at h
    · next cs =>
      -- no upper bound
      obtain ⟨rfl, rfl, rfl⟩ := by simpa using h
      refine ⟨gone₃, left₃.trans (Leaves.refl gone₃ _).cons, fun t ht => ?_⟩
      simp [enters t ht, numbers t ht, first, comma, enters' t ht]
    · next brace =>
      obtain ⟨gone₄, left₄, numbers'⟩ := number_tailed f gone₃ entered'
      split at h
      · next cs second =>
        rw [second] at left₄
        split at h
        · next ordered =>
          obtain ⟨rfl, rfl, rfl⟩ := by simpa using h
          refine ⟨gone₄, left₃.trans (left₄.trans (Leaves.refl gone₄ _).cons), fun t ht => ?_⟩
          simp only [enters t ht, Option.bind_some, numbers t ht, first, comma, tailed_cons,
            enters' t ht]
          split
          · next same => exact (ne_cons_tailed ht (by decide) brace _ same).elim
          · simp [numbers' t ht, second, ordered]
        · cases h
      · cases h
  · next cs close =>
    rw [close] at left₂
    obtain ⟨rfl, rfl, rfl⟩ := by simpa using h
    refine ⟨gone₂, left₁.trans (left₂.trans (Leaves.refl gone₂ _).cons), fun t ht => ?_⟩
    simp [enters t ht, numbers t ht, first, close]
  · cases h

/-! ### Groups -/

theorem groupName_tailed {tables : Unicode.Tables} {name : List Char} (gone : Bool) (t : List Char)
    (h : groupName tables cs = some (name, rest)) :
    groupName tables (tailed gone cs t) = some (name, tailed gone rest t) := by
  unfold groupName at h
  simp only at h
  split at h
  · next c more d rest' taken dropped =>
    obtain ⟨taken', dropped'⟩ := takeWhile_tailed gone t dropped
    split at h
    · next good =>
      obtain ⟨rfl, rfl⟩ := Prod.mk.inj (Option.some.inj h)
      rw [taken] at taken' dropped' ⊢
      simp only [groupName, taken', dropped', if_pos good]
    · cases h
  · cases h

theorem groupName_suffix {tables : Unicode.Tables} {name : List Char}
    (h : groupName tables cs = some (name, rest)) : rest <:+ cs := by
  unfold groupName at h
  simp only at h
  split at h
  · next dropped =>
    split at h
    · obtain ⟨rfl, rfl⟩ := Prod.mk.inj (Option.some.inj h)
      exact (List.suffix_cons _ _).trans (dropped ▸ List.drop_suffix _ cs)
    · cases h
  · cases h

theorem openNamed_suffix (h : r.openNamed cs = some r') : r'.rest <:+ cs := by
  simp only [openNamed, Option.bind_eq_bind] at h
  obtain ⟨⟨name, rest⟩, named, h⟩ := Option.bind_eq_some_iff.mp h
  split at h
  · cases h
  · cases h
    exact groupName_suffix named

theorem flagGroup_suffix (h : r.flagGroup cs = some r') : r'.rest <:+ cs := by
  simp only [flagGroup] at h
  split at h
  · cases h
  · split at h
    · next dropped =>
      cases h
      exact (List.suffix_cons _ _).trans (dropped ▸ List.drop_suffix _ cs)
    · next dropped =>
      split at h
      · cases h
      · cases h
        exact (List.suffix_cons _ _).trans (dropped ▸ List.drop_suffix _ cs)
    · cases h

theorem group_suffix (h : r.group cs = some r') : r'.rest <:+ r.flags.skip cs := by
  unfold group at h
  split at h
  · cases h
  · cases h
  · cases h
  · cases h
  · next first =>
    rw [first]
    exact (openNamed_suffix h).trans (List.suffix_append ['?', 'P', '<'] _)
  · next first =>
    rw [first]
    exact (openNamed_suffix h).trans (List.suffix_append ['?', '<'] _)
  · next first =>
    rw [first]
    exact (flagGroup_suffix h).trans (List.suffix_cons _ _)
  · cases h
    exact List.suffix_refl _

/-- A reader inside further groups that is to read another text. -/
def within (r : Reader) (os : List Opened) (rest : List Char) : Reader :=
  { r with opened := r.opened ++ os, rest := rest }

@[simp] theorem within_flags (r : Reader) (os : List Opened) (rest : List Char) :
    (r.within os rest).flags = r.flags := rfl

@[simp] theorem within_rest (r : Reader) (os : List Opened) (rest : List Char) :
    (r.within os rest).rest = rest := rfl

variable {t : List Char} {os : List Opened}

theorem openNamed_within (gone : Bool) (os : List Opened) (t rest' : List Char)
    (h : r.openNamed cs = some r') :
    (r.within os rest').openNamed (tailed gone cs t) =
      some (r'.within os (tailed gone r'.rest t)) := by
  simp only [openNamed, Option.bind_eq_bind] at h ⊢
  obtain ⟨⟨name, rest⟩, named, h⟩ := Option.bind_eq_some_iff.mp h
  rw [within_flags, groupName_tailed gone t named, Option.bind_some]
  split at h
  · cases h
  · next new =>
    cases h
    exact if_neg new

theorem flagGroup_within (gone : Bool) (os : List Opened) (t rest' : List Char)
    (h : r.flagGroup cs = some r') :
    (r.within os rest').flagGroup (tailed gone cs t) =
      some (r'.within os (tailed gone r'.rest t)) := by
  simp only [flagGroup] at h
  split at h
  · cases h
  · next good =>
    split at h
    · next back dropped =>
      obtain ⟨taken, dropped'⟩ := takeWhile_tailed gone t dropped
      cases h
      simp only [flagGroup, taken, if_neg good, dropped']
      rfl
    · next back dropped =>
      obtain ⟨taken, dropped'⟩ := takeWhile_tailed gone t dropped
      split at h
      · cases h
      · next some =>
        cases h
        simp only [flagGroup, taken, if_neg good, dropped', if_neg some]
        rfl
    · cases h

theorem group_within (gone : Bool) (h : r.group cs = some r') :
    ∃ gone', Leaves gone cs gone' r'.rest ∧ ∀ t, Closes t →
      ∀ os rest', (r.within os rest').group (tailed gone cs t) =
        some (r'.within os (tailed gone' r'.rest t)) := by
  obtain ⟨gone', left, skip⟩ := r.flags.skip_tailed gone cs
  refine ⟨gone', left.shorten (group_suffix h), fun t ht os rest' => ?_⟩
  unfold group at h ⊢
  rw [within_flags, skip t ht]
  split at h
  · cases h
  · cases h
  · cases h
  · cases h
  · next rest first =>
    rw [first]
    simp only [tailed_cons]
    exact openNamed_within gone' os t rest' h
  · next rest equal bang first =>
    rw [first, tailed_cons, tailed_cons]
    -- neither mark of a look behind has come to stand there
    have equal := @ne_cons_tailed gone' _ _ _ ht (by decide) equal
    have bang := @ne_cons_tailed gone' _ _ _ ht (by decide) bang
    simp only [openNamed_within gone' os t rest' h]
  · next rest equal bang _ _ named plain first =>
    rw [first, tailed_cons]
    have equal := @ne_cons_tailed gone' _ _ _ ht (by decide) equal
    have bang := @ne_cons_tailed gone' _ _ _ ht (by decide) bang
    have named := @ne_cons_cons_tailed gone' _ _ _ _ ht (by decide) (by decide) named
    have plain := @ne_cons_tailed gone' _ _ _ ht (by decide) plain
    have lessEqual := fun back => plain ('=' :: back)
    have lessBang := fun back => plain ('!' :: back)
    simp only [flagGroup_within gone' os t rest' h]
  · next other =>
    cases h
    have other := @ne_cons_tailed gone' _ _ _ ht (by decide) other
    split
    all_goals try
      next same => exact (other _ same).elim
    rfl

theorem closeGroup_within (os : List Opened) (rest' rest'' : List Char)
    (h : r.closeGroup rest = some r') :
    (r.within os rest').closeGroup rest'' = some (r'.within os rest'') ∧ r'.rest = rest := by
  unfold closeGroup at h
  split at h
  · cases h
  · next o opened first =>
    cases h
    refine ⟨?_, rfl⟩
    simp only [closeGroup, within, first, List.cons_append]
    rfl

theorem repeatLatest_within {least : Nat} {most : Option Nat} {lazy : Bool} (os : List Opened)
    (rest' rest'' : List Char) (h : r.repeatLatest least most lazy rest = some r') :
    (r.within os rest').repeatLatest least most lazy rest'' = some (r'.within os rest'') ∧
      r'.rest = rest := by
  unfold repeatLatest at h
  split at h
  · next p before latest =>
    split at h
    · next repeatable =>
      cases h
      refine ⟨?_, rfl⟩
      simp only [repeatLatest, within, latest, if_pos repeatable]
    · cases h
  · cases h

/-! ### Steps -/

/-- A repetition is read with its mark, if it has one. -/
theorem repeatLatest_lazyMark_within {least : Nat} {most : Option Nat} (gone : Bool)
    (ht : Closes t) (rest' : List Char)
    (h : (r.repeatLatest least most (lazyMark rest).1 (lazyMark rest).2).map Sum.inl =
      some (Sum.inl r' : Reader ⊕ Reader)) :
    ((r.within os rest').repeatLatest least most (lazyMark (tailed gone rest t)).1
        (lazyMark (tailed gone rest t)).2).map Sum.inl =
      some (Sum.inl (r'.within os (tailed gone r'.rest t)) : Reader ⊕ Reader) := by
  obtain ⟨made, latest, eq⟩ := Option.map_eq_some_iff.mp h
  cases eq
  obtain ⟨same, rest⟩ :=
    repeatLatest_within os rest' (tailed gone (lazyMark rest).2 t) latest
  rw [lazyMark_tailed gone _ ht, same, rest]
  rfl

theorem repeatLatest_lazyMark_suffix {least : Nat} {most : Option Nat}
    (h : (r.repeatLatest least most (lazyMark rest).1 (lazyMark rest).2).map Sum.inl =
      some (Sum.inl r' : Reader ⊕ Reader)) : r'.rest <:+ rest := by
  obtain ⟨made, latest, eq⟩ := Option.map_eq_some_iff.mp h
  cases eq
  rw [(repeatLatest_within [] [] [] latest).2]
  exact lazyMark_suffix rest

/-- One sign is read as it was, inside more groups and with a tail behind it. -/
theorem step_within (gone : Bool) (h : r.step = some (.inl r')) :
    ∃ gone', Leaves gone r.rest gone' r'.rest ∧ ∀ t, Closes t → ∀ os,
      (r.within os (tailed gone r.rest t)).step =
        some (.inl (r'.within os (tailed gone' r'.rest t))) := by
  obtain ⟨gone₁, left, skip⟩ := r.flags.skip_tailed gone r.rest
  have here : ∀ {c back}, r.flags.skip r.rest = c :: back → Leaves gone r.rest gone₁ back ∧
      ∀ t, Closes t → ∀ os, (r.within os (tailed gone r.rest t)).flags.skip
        (r.within os (tailed gone r.rest t)).rest = c :: tailed gone₁ back t := by
    intro c back first
    refine ⟨left.shorten (first ▸ List.suffix_cons c back), fun t ht os => ?_⟩
    rw [within_flags, within_rest, skip t ht, first, tailed_cons]
  unfold step at h
  simp only [Option.bind_eq_bind, Option.pure_def] at h
  split at h
  · cases h
  · -- a group opens
    next back first =>
    obtain ⟨left₁, here⟩ := here first
    obtain ⟨made, opens, eq⟩ := Option.map_eq_some_iff.mp h
    cases eq
    obtain ⟨gone₂, left₂, opens'⟩ := group_within gone₁ opens
    refine ⟨gone₂, left₁.trans left₂, fun t ht os => ?_⟩
    simp only [step, here t ht os, opens' t ht, Option.map_some]
  · -- a group closes
    next back first =>
    obtain ⟨left₁, here⟩ := here first
    obtain ⟨made, closes, eq⟩ := Option.map_eq_some_iff.mp h
    cases eq
    have rest := (closeGroup_within [] [] [] closes).2
    refine ⟨gone₁, rest ▸ left₁, fun t ht os => ?_⟩
    obtain ⟨same, -⟩ := closeGroup_within os (tailed gone r.rest t) (tailed gone₁ back t) closes
    simp only [step, here t ht os, same, rest, Option.map_some]
  · -- another alternative
    next back first =>
    obtain ⟨left₁, here⟩ := here first
    cases h
    refine ⟨gone₁, left₁, fun t ht os => ?_⟩
    simp only [step, here t ht os]
    rfl
  · -- a class in brackets
    next back first =>
    obtain ⟨left₁, here⟩ := here first
    obtain ⟨⟨s, rest⟩, reads, h⟩ := Option.bind_eq_some_iff.mp h
    cases h
    obtain ⟨gone₂, left₂, reads'⟩ := Class.read_tailed gone₁ reads
    refine ⟨gone₂, left₁.trans left₂, fun t ht os => ?_⟩
    simp only [step, here t ht os]
    rw [within_flags, reads' t ht]
    rfl
  · -- `?`
    next back first =>
    obtain ⟨left₁, here⟩ := here first
    refine ⟨gone₁, left₁.shorten (repeatLatest_lazyMark_suffix h), fun t ht os => ?_⟩
    simp only [step, here t ht os]
    exact repeatLatest_lazyMark_within gone₁ ht _ h
  · -- `*`
    next back first =>
    obtain ⟨left₁, here⟩ := here first
    refine ⟨gone₁, left₁.shorten (repeatLatest_lazyMark_suffix h), fun t ht os => ?_⟩
    simp only [step, here t ht os]
    exact repeatLatest_lazyMark_within gone₁ ht _ h
  · -- `+`
    next back first =>
    obtain ⟨left₁, here⟩ := here first
    refine ⟨gone₁, left₁.shorten (repeatLatest_lazyMark_suffix h), fun t ht os => ?_⟩
    simp only [step, here t ht os]
    exact repeatLatest_lazyMark_within gone₁ ht _ h
  · -- a repetition with bounds
    next back first =>
    obtain ⟨left₁, here⟩ := here first
    obtain ⟨⟨least, most, rest⟩, reads, h⟩ := Option.bind_eq_some_iff.mp h
    obtain ⟨gone₂, left₂, reads'⟩ := bounds_tailed gone₁ reads
    obtain ⟨gone₃, left₃, skip'⟩ := r.flags.skip_tailed gone₂ rest
    have left₃ := left₃.shorten (repeatLatest_lazyMark_suffix h)
    refine ⟨gone₃, left₁.trans (left₂.trans left₃), fun t ht os => ?_⟩
    simp only [step, here t ht os]
    rw [within_flags, reads' t ht]
    simp only [Option.bind_eq_bind, Option.bind_some, skip' t ht]
    exact repeatLatest_lazyMark_within gone₃ ht _ h
  · -- an escape
    next back first =>
    obtain ⟨left₁, here⟩ := here first
    obtain ⟨⟨a, rest⟩, reads, h⟩ := Option.bind_eq_some_iff.mp h
    obtain ⟨p, made, h⟩ := Option.bind_eq_some_iff.mp h
    cases h
    obtain ⟨gone₂, left₂, reads'⟩ := Escape.read_tailed gone₁ reads
    refine ⟨gone₂, left₁.trans left₂, fun t ht os => ?_⟩
    simp only [step, here t ht os]
    rw [within_flags, reads' t ht]
    simp only [Option.bind_eq_bind, Option.bind_some, made]
    rfl
  · -- the dot
    next back first =>
    obtain ⟨left₁, here⟩ := here first
    obtain ⟨p, made, h⟩ := Option.bind_eq_some_iff.mp h
    cases h
    refine ⟨gone₁, left₁, fun t ht os => ?_⟩
    simp only [step, here t ht os]
    rw [within_flags, made]
    rfl
  · -- `^`
    next back first =>
    obtain ⟨left₁, here⟩ := here first
    cases h
    refine ⟨gone₁, left₁, fun t ht os => ?_⟩
    simp only [step, here t ht os]
    rfl
  · -- `$`
    next back first =>
    obtain ⟨left₁, here⟩ := here first
    cases h
    refine ⟨gone₁, left₁, fun t ht os => ?_⟩
    simp only [step, here t ht os]
    rfl
  · -- any other character stands for itself
    next c back _ _ _ _ _ _ _ _ _ _ _ _ first =>
    obtain ⟨left₁, here⟩ := here first
    cases h
    refine ⟨gone₁, left₁, fun t ht os => ?_⟩
    simp only [step, here t ht os]
    rfl

theorem step_of_skip_eq_nil (h : r.flags.skip r.rest = []) :
    r.step = some (.inr { r with rest := [] }) := by
  simp only [step, h]

theorem step_of_close (h : r.flags.skip r.rest = ')' :: rest) :
    r.step = (r.closeGroup rest).map .inl := by
  simp only [step, h]

theorem step_eq_inr (h : r.step = some (.inr r')) :
    r.flags.skip r.rest = [] ∧ r' = { r with rest := [] } := by
  rcases first : r.flags.skip r.rest with - | ⟨c, back⟩
  · rw [step_of_skip_eq_nil first] at h
    cases h
    exact ⟨rfl, rfl⟩
  · -- any sign has another to follow
    unfold step at h
    simp only [first, Option.bind_eq_bind, Option.pure_def] at h
    split at h
    · next none => cases none
    all_goals simp [Option.bind_eq_some_iff] at h

theorem run_of_skip_eq_nil (h : r.flags.skip r.rest = []) :
    run (fuel + 1) r = some { r with rest := [] } := by
  rw [run, step_of_skip_eq_nil h]

theorem run_of_step (h : r.step = some (.inl r')) : run (fuel + 1) r = run fuel r' := by
  rw [run, h]

/-- What a reader does to its own text it does inside further groups and with a tail behind.  Then
the tail follows, or nothing. -/
theorem run_within (gone : Bool) (h : run fuel r = some r') :
    ∃ gone', (gone' = true → gone = true ∨ HashAtEnd r.rest) ∧ ∀ t, Closes t →
      ∀ os extra, ∃ x more, extra ≤ more ∧ r'.flags.skip x = tailed gone' [] t ∧
        run (fuel + extra) (r.within os (tailed gone r.rest t)) =
          run (more + 1) (r'.within os x) := by
  induction fuel generalizing r gone with
  | zero => cases h
  | succ fuel ih =>
    rw [run] at h
    split at h
    · cases h
    · next last =>
      -- its own text is read, and what `skip` leaves of the rest is the tail or nothing
      cases h
      obtain ⟨nothing, rfl⟩ := step_eq_inr last
      obtain ⟨gone', left, skip⟩ := r.flags.skip_tailed gone r.rest
      refine ⟨gone', left.lost, fun t ht os extra =>
        ⟨tailed gone r.rest t, fuel + extra, Nat.le_add_left _ _, ?_, ?_⟩⟩
      · rw [← nothing]
        exact skip t ht
      · rw [Nat.succ_add_eq_add_succ]
        rfl
    · next next' one =>
      obtain ⟨gone₁, left₁, steps⟩ := step_within gone one
      obtain ⟨gone₂, lost, runs⟩ := ih gone₁ h
      have lost : gone₂ = true → gone = true ∨ HashAtEnd r.rest := by
        intro gone
        obtain gone | hash := lost gone
        · exact left₁.lost gone
        · exact .inr (hash.of_suffix left₁.suffix)
      refine ⟨gone₂, lost, fun t ht os extra => ?_⟩
      obtain ⟨x, more, le, skip, eq⟩ := runs t ht os extra
      refine ⟨x, more, le, skip, ?_⟩
      rw [Nat.succ_add, run, steps t ht os]
      exact eq

/-! ### Whole patterns -/

/-- Where the reading of a pattern begins. -/
def start (tables : Unicode.Tables) (caseless : Bool) (source : List Char) : Reader :=
  { rest := source, flags := { tables := tables, caseless := caseless } }

/-- The group that is put around a pattern, an anchor being in front of it. -/
def enclosing (tables : Unicode.Tables) (caseless : Bool) : Opened :=
  ⟨[lineStart { tables := tables, caseless := caseless }], [], { tables := tables, caseless := caseless }, false⟩

/-- The signs in front of an enclosed pattern open the group. -/
theorem run_start_enclosed (tables : Unicode.Tables) (caseless : Bool) (cs t : List Char) :
    run (fuel + 2) (start tables caseless ('^' :: '(' :: '?' :: ':' :: (cs ++ t))) =
      run fuel ((start tables caseless cs).within [enclosing tables caseless] (cs ++ t)) := by
  rfl

/-- A reader that has gone through a pattern and the signs behind it. -/
def enclosed (tables : Unicode.Tables) (caseless : Bool) (r : Reader) : Reader :=
  { r with
    rest := [], opened := [], alternatives := [], flags := { tables := tables, caseless := caseless }
    parts := [lineEnd { tables := tables, caseless := caseless }, ⟨r.content.expr, r.content.depth + 1, true⟩,
      lineStart { tables := tables, caseless := caseless }] }

theorem content_enclosed (tables : Unicode.Tables) (caseless : Bool) (r : Reader) :
    (r.enclosed tables caseless).content = ⟨r.content.expr.whole, r.content.depth + 2, true⟩ := by
  have depth : max (max (max 0 0) (r.content.depth + 1)) 0 + 1 = r.content.depth + 2 := by omega
  exact congrArg (Part.mk r.content.expr.whole · true) depth

/-- The signs behind it close the group, if they are still there. -/
theorem run_end_enclosed {x : List Char} {tables : Unicode.Tables} {caseless : Bool} (none : r.opened = [])
    (skip : r.flags.skip x = [')', '$']) :
    run (fuel + 3) (r.within [enclosing tables caseless] x) = some (r.enclosed tables caseless) := by
  have closes : (r.within [enclosing tables caseless] x).step = some (.inl { r with
      rest := ['$'], opened := [], alternatives := [], flags := { tables := tables, caseless := caseless }
      parts := [⟨r.content.expr, r.content.depth + 1, true⟩,
        lineStart { tables := tables, caseless := caseless }] }) := by
    rw [step_of_close (r := r.within [enclosing tables caseless] x) skip]
    simp only [closeGroup, within, none]
    rfl
  rw [run_of_step closes]
  rfl

end Reader

variable {tables : Unicode.Tables} {caseless : Bool} {e : Expr}

/-- Whether a pattern ends in a comment, so that a parenthesis behind it closes nothing. -/
def endsInComment (tables : Unicode.Tables) (caseless : Bool) (source : List Char) : Bool :=
  (parse tables caseless (source ++ [')'])).isSome

/-- How deep a pattern nests. -/
def nesting (tables : Unicode.Tables) (caseless : Bool) (source : List Char) : Nat :=
  ((Reader.run (source.length + 1) (.start tables caseless source)).map fun r => r.content.depth).getD 0

theorem parse_eq_some : parse tables caseless cs = some e ↔ ∃ r,
    Reader.run (cs.length + 1) (.start tables caseless cs) = some r ∧
      r.opened = [] ∧ r.content.depth ≤ nestLimit ∧ r.content.expr = e := by
  simp only [parse, Option.bind_eq_bind, Option.bind_eq_some_iff]
  refine exists_congr fun r => and_congr_right fun _ => ?_
  split
  · next good =>
    obtain ⟨opened, depth⟩ := Bool.and_eq_true_iff.mp good
    simp [List.isEmpty_iff.mp opened, of_decide_eq_true depth]
  · next bad =>
    simp only [reduceCtorEq, false_iff]
    rintro ⟨opened, depth, -⟩
    exact bad (by simp [opened, depth])

theorem parse_of_run (h : Reader.run (cs.length + 1) (.start tables caseless cs) = some r) :
    parse tables caseless cs =
      if r.opened.isEmpty && r.content.depth ≤ nestLimit then some r.content.expr else none :=
  congrArg (Option.bind · _) h

theorem parse_of_run_eq_none (h : Reader.run (cs.length + 1) (.start tables caseless cs) = none) :
    parse tables caseless cs = none :=
  congrArg (Option.bind · _) h

/-- Whether a pattern ends in a comment is what decides about every tail. -/
theorem run_before_tail (reads : Reader.run (cs.length + 1) (.start tables caseless cs) = some r)
    (none : r.opened = []) (depth : r.content.depth ≤ nestLimit) :
    (endsInComment tables caseless cs = true → HashAtEnd cs) ∧ ∀ {t}, Closes t → ∀ os extra,
      ∃ x more, extra ≤ more ∧ r.flags.skip x = tailed (endsInComment tables caseless cs) [] t ∧
        Reader.run (cs.length + 1 + extra) ((Reader.start tables caseless cs).within os (cs ++ t)) =
          Reader.run (more + 1) (r.within os x) := by
  obtain ⟨gone, lost, within⟩ := Reader.run_within false reads
  suffices comment : endsInComment tables caseless cs = gone by
    rw [comment]
    exact ⟨fun h => (lost h).resolve_left nofun, fun {t} ht => within t ht⟩
  -- the parenthesis by itself tells which of the two it is
  obtain ⟨x, more, -, skip, eq⟩ := within [')'] ⟨[], rfl, by decide, by decide⟩ [] 1
  have eq : Reader.run ((cs ++ [')']).length + 1) (.start tables caseless (cs ++ [')'])) =
      Reader.run (more + 1) (r.within [] x) := by
    rw [List.length_append]
    exact eq
  cases gone with
  | true =>
    rw [Reader.run_of_skip_eq_nil (r := r.within [] x) skip] at eq
    rw [endsInComment, parse_of_run eq, if_pos]
    · rfl
    · simpa [Reader.within, none, Reader.content, Reader.branch] using depth
  | false =>
    have refused : Reader.run (more + 1) (r.within [] x) = .none := by
      rw [Reader.run, Reader.step_of_close (r := r.within [] x) skip]
      simp only [Reader.closeGroup, Reader.within, none]
      rfl
    rw [endsInComment, parse_of_run_eq_none (eq.trans refused)]
    rfl

/-- A pattern that ends in a comment has a hash in its last line. -/
theorem hashAtEnd_of_endsInComment (h : parse tables caseless cs = some e)
    (comment : endsInComment tables caseless cs = true) : HashAtEnd cs := by
  obtain ⟨r, reads, none, depth, -⟩ := parse_eq_some.mp h
  exact (run_before_tail reads none depth).1 comment

/-- A pattern inside a group, with anchors around it, is refused if the end of the group is lost in
a comment, or if it nests too deep by then; else it is what it was, between the anchors. -/
theorem parse_enclosed (h : parse tables caseless cs = some e) :
    parse tables caseless ('^' :: '(' :: '?' :: ':' :: (cs ++ [')', '$'])) =
      if endsInComment tables caseless cs = true ∨ nestLimit < nesting tables caseless cs + 2 then none
      else some e.whole := by
  obtain ⟨r, reads, none, depth, rfl⟩ := parse_eq_some.mp h
  obtain ⟨x, more, le, skip, eq⟩ := (run_before_tail reads none depth).2
    ⟨['$'], rfl, by decide, by decide⟩ [Reader.enclosing tables caseless] 4
  have eq : Reader.run (('^' :: '(' :: '?' :: ':' :: (cs ++ [')', '$'])).length + 1)
      (.start tables caseless ('^' :: '(' :: '?' :: ':' :: (cs ++ [')', '$']))) =
        Reader.run (more + 1) (r.within [Reader.enclosing tables caseless] x) := by
    rw [← eq]
    simp only [List.length_cons, List.length_append, List.length_nil]
    exact Reader.run_start_enclosed tables caseless cs [')', '$']
  have deep : nesting tables caseless cs = r.content.depth := by
    rw [nesting, reads]
    rfl
  rcases comment : endsInComment tables caseless cs with - | -
  · -- the group is closed, so only the depth can be too much
    rw [comment] at skip
    obtain ⟨more, rfl⟩ := Nat.exists_eq_add_of_le' (Nat.le_trans (by decide : 2 ≤ 4) le)
    rw [Reader.run_end_enclosed none skip] at eq
    rw [parse_of_run eq, Reader.content_enclosed, deep]
    simp only [Reader.enclosed, List.isEmpty_nil, Bool.true_and, decide_eq_true_eq,
      Bool.false_eq_true, false_or, ← Nat.not_lt, ite_not]
  · -- the text ends while the group is still open
    rw [comment] at skip
    rw [Reader.run_of_skip_eq_nil (r := r.within [Reader.enclosing tables caseless] x) skip] at eq
    rw [if_pos (.inl rfl), parse_of_run eq, if_neg]
    simp [Reader.within, Reader.enclosing]

end Scrollback.Pattern
