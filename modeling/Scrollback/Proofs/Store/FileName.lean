/-
Names of log files.  A channel and a user are written byte by byte, each byte as one sign or as a
percent sign and two digits, so they can be read back (`namePart_inj`); none of these signs is an
underscore, so neither can be mistaken for another part of the name.  All of it still holds where
capital and small letters are not told apart: no two logs have names of which that is the only
difference (`folded_fileName_inj`), so each has a file of its own (`fileNames_apart`).
-/
import Scrollback.Proofs.Decimal
import Scrollback.Proofs.Disk.Path
import Scrollback.Proofs.Text
import Scrollback.Store.Basic

namespace Scrollback.Store

/-- Characters with capital letters made small. -/
def folded (cs : List Char) : List Char :=
  cs.map Char.toLower

@[simp] theorem folded_append (a b : List Char) : folded (a ++ b) = folded a ++ folded b :=
  List.map_append

@[simp] theorem folded_cons (c : Char) (cs : List Char) :
    folded (c :: cs) = c.toLower :: folded cs := rfl

@[simp] theorem folded_nil : folded [] = [] := rfl

/-! ### Bytes -/

/-- The byte in front of some characters of a folded name, and the rest of them. -/
def byteOf? : List Char → Option (UInt8 × List Char)
  | [] => none
  | c :: cs =>
    if c = '%' then
      match cs with
      | high :: low :: rest => do
        some (UInt8.ofNat ((← hexValue? high) * 16 + (← hexValue? low)), rest)
      | _ => none
    else some (UInt8.ofNat c.toNat, cs)

/-- A byte is written as itself, or as a percent sign and its two digits. -/
theorem folded_nameByte (b : UInt8) :
    (∃ c, folded (nameByte b) = [c] ∧ c ≠ '%' ∧ UInt8.ofNat c.toNat = b) ∨
      ∃ high low h l, folded (nameByte b) = ['%', high, low] ∧ hexValue? high = some h ∧
        hexValue? low = some l ∧ UInt8.ofNat (h * 16 + l) = b := by
  have table : ∀ n : Fin 256,
      (folded (nameByte (UInt8.ofNat n)) = [Char.ofNat n] ∧ Char.ofNat n ≠ '%' ∧
        (Char.ofNat n).toNat = n) ∨
      folded (nameByte (UInt8.ofNat n)) =
          ['%', Nat.digitChar (n / 16), Nat.digitChar (n % 16)] ∧
        hexValue? (Nat.digitChar (n / 16)) = some (n / 16) ∧
        hexValue? (Nat.digitChar (n % 16)) = some (n % 16) := by
    decide +kernel
  have number : UInt8.ofNat b.toNat = b := UInt8.ofNat_toNat
  rcases table ⟨b.toNat, b.toNat_lt⟩ with ⟨self, plain, same⟩ | ⟨digits, high, low⟩
  · rw [number] at self
    exact .inl ⟨_, self, plain, by rw [same]; exact number⟩
  · rw [number] at digits
    refine .inr ⟨_, _, _, _, digits, high, low, ?_⟩
    show UInt8.ofNat (b.toNat / 16 * 16 + b.toNat % 16) = b
    rw [Nat.div_add_mod', number]

theorem byteOf?_nameByte (b : UInt8) (rest : List Char) :
    byteOf? (folded (nameByte b) ++ rest) = some (b, rest) := by
  rcases folded_nameByte b with ⟨c, self, plain, same⟩ | ⟨high, low, h, l, digits, hh, hl, same⟩
  · rw [self]
    show (if c = '%' then _ else some (UInt8.ofNat c.toNat, rest)) = _
    rw [if_neg plain, same]
  · rw [digits]
    simp only [List.cons_append, List.nil_append, byteOf?, if_true, hh, hl, ← same]
    rfl

theorem folded_nameBytes_inj {a b : List UInt8}
    (h : folded (a.flatMap nameByte) = folded (b.flatMap nameByte)) : a = b := by
  have nonempty : ∀ (x : UInt8) (rest : List Char), folded (nameByte x) ++ rest ≠ [] := by
    intro x rest nil
    have := byteOf?_nameByte x rest
    rw [nil] at this
    cases this
  induction a generalizing b with
  | nil =>
    cases b with
    | nil => rfl
    | cons y b =>
      rw [List.flatMap_cons, folded_append] at h
      exact absurd h.symm (nonempty y _)
  | cons x a ih =>
    rw [List.flatMap_cons, folded_append] at h
    cases b with
    | nil => exact absurd h (nonempty x _)
    | cons y b =>
      rw [List.flatMap_cons, folded_append] at h
      have first := congrArg byteOf? h
      rw [byteOf?_nameByte, byteOf?_nameByte, Option.some_inj, Prod.mk.injEq] at first
      rw [first.1, ih first.2]

/-- Channels and users are told apart by how they stand in names. -/
theorem namePart_inj {a b : String} (h : folded (namePart a) = folded (namePart b)) : a = b :=
  utf8_inj.mp (folded_nameBytes_inj h)

/-- A sign that parts of a name are made of. -/
def IsSign (c : Char) : Prop := c ≠ '_' ∧ c ≠ '/'

theorem isSign_of_mem_namePart {s : String} {c : Char} (h : c ∈ folded (namePart s)) :
    IsSign c := by
  have table : ∀ n : Fin 256, '_' ∉ folded (nameByte (UInt8.ofNat n)) ∧
      '/' ∉ folded (nameByte (UInt8.ofNat n)) := by
    decide +kernel
  obtain ⟨d, hd, rfl⟩ := List.mem_map.mp h
  obtain ⟨b, -, hd⟩ := List.mem_flatMap.mp hd
  have number : UInt8.ofNat b.toNat = b := UInt8.ofNat_toNat
  have none := table ⟨b.toNat, b.toNat_lt⟩
  rw [number] at none
  have mem : d.toLower ∈ folded (nameByte b) := List.mem_map_of_mem hd
  exact ⟨fun hd => none.1 (hd ▸ mem), fun hd => none.2 (hd ▸ mem)⟩

/-! ### Numbers -/

theorem toLower_of_isDigit {c : Char} (h : c.isDigit = true) : c.toLower = c := by
  have bounds : c.val ≥ '0'.val ∧ c.val ≤ '9'.val := by
    simpa [Char.isDigit] using h
  rw [Char.toLower, dif_neg]
  rintro ⟨upper, -⟩
  exact absurd (UInt32.le_trans upper bounds.2) (by decide)

theorem isSign_of_isDigit {c : Char} (h : c.isDigit = true) : IsSign c := by
  constructor
  · rintro rfl
    cases h
  · rintro rfl
    cases h

theorem folded_signedDecimal (i : Int) :
    folded (signedDecimal i).toList = (signedDecimal i).toList := by
  have same : ∀ c ∈ (signedDecimal i).toList, c.toLower = id c := by
    intro c hc
    rcases mem_signedDecimal hc with digit | rfl
    · exact toLower_of_isDigit digit
    · decide
  rw [folded, List.map_congr_left same, List.map_id]

theorem isSign_of_mem_signedDecimal {i : Int} {c : Char} (h : c ∈ (signedDecimal i).toList) :
    IsSign c := by
  rcases mem_signedDecimal h with digit | rfl
  · exact isSign_of_isDigit digit
  · exact ⟨by decide, by decide⟩

/-! ### Whole names -/

/-- The part of a name that stands for the user, empty if there is none. -/
def userPart (id : LogId) : List Char :=
  if id.isUserLog then '_' :: namePart id.user else []

theorem userPart_of_eq {id : LogId} (h : id.user = "") : userPart id = [] := by
  simp [userPart, LogId.isUserLog, h]

theorem userPart_of_ne {id : LogId} (h : id.user ≠ "") :
    userPart id = '_' :: namePart id.user := by
  simp [userPart, LogId.isUserLog, h]

theorem toList_fileName (id : LogId) :
    (fileName id).toList = namePart id.channel ++ '_' :: ((signedDecimal id.period.start).toList ++
      '_' :: ((signedDecimal id.period.stop).toList ++ userPart id ++ ".bin".toList)) := by
  simp [fileName, userPart, LogId.isUserLog]

/-- What stands before the first of some separators, and what stands after it. -/
theorem split_inj {sep : Char} {a b x y : List Char} (ha : sep ∉ a) (hb : sep ∉ b)
    (h : a ++ sep :: x = b ++ sep :: y) : a = b ∧ x = y := by
  induction a generalizing b with
  | nil =>
    cases b with
    | nil => exact ⟨rfl, (List.cons.inj h).2⟩
    | cons d b => exact absurd (List.cons.inj h).1 (List.ne_of_not_mem_cons hb)
  | cons c a ih =>
    cases b with
    | nil => exact absurd (List.cons.inj h).1.symm (List.ne_of_not_mem_cons ha)
    | cons d b =>
      rw [List.cons_append, List.cons_append] at h
      obtain ⟨rfl, tails⟩ := List.cons.inj h
      obtain ⟨rfl, rest⟩ :=
        ih (List.not_mem_of_not_mem_cons ha) (List.not_mem_of_not_mem_cons hb) tails
      exact ⟨rfl, rest⟩

/-- Logs are told apart by their names, and that although letters are folded. -/
theorem folded_fileName_inj {a b : LogId}
    (h : folded (fileName a).toList = folded (fileName b).toList) : a = b := by
  have part : ∀ s : String, '_' ∉ folded (namePart s) := fun s hs =>
    (isSign_of_mem_namePart hs).1 rfl
  have number : ∀ i : Int, '_' ∉ (signedDecimal i).toList := fun i hi =>
    (isSign_of_mem_signedDecimal hi).1 rfl
  have underscore : ('_' : Char).toLower = '_' := by decide
  simp only [toList_fileName, folded_append, folded_cons, folded_signedDecimal, underscore] at h
  obtain ⟨channel, h⟩ := split_inj (part a.channel) (part b.channel) h
  obtain ⟨start, h⟩ := split_inj (number a.period.start) (number b.period.start) h
  have h := List.append_cancel_right h
  have channels := namePart_inj channel
  have starts := signedDecimal_inj (String.toList_inj.mp start)
  -- with a user on one side alone there is an underscore on that side alone
  have alone : ∀ (i j : Int) (cs : List Char),
      (signedDecimal i).toList ++ '_' :: cs ≠ (signedDecimal j).toList := fun i j cs same =>
    number j (same ▸ List.mem_append_right _ List.mem_cons_self)
  have users : (signedDecimal a.period.stop).toList = (signedDecimal b.period.stop).toList ∧
      a.user = b.user := by
    by_cases ha : a.user = ""
    · by_cases hb : b.user = ""
      · rw [userPart_of_eq ha, userPart_of_eq hb] at h
        exact ⟨by simpa using h, ha.trans hb.symm⟩
      · rw [userPart_of_eq ha, userPart_of_ne hb] at h
        exact absurd (by simpa [underscore] using h.symm) (alone _ _ _)
    · by_cases hb : b.user = ""
      · rw [userPart_of_ne ha, userPart_of_eq hb] at h
        exact absurd (by simpa [underscore] using h) (alone _ _ _)
      · rw [userPart_of_ne ha, userPart_of_ne hb, folded_cons, folded_cons, underscore] at h
        obtain ⟨stop, user⟩ := split_inj (number a.period.stop) (number b.period.stop) h
        exact ⟨stop, namePart_inj user⟩
  have stops := signedDecimal_inj (String.toList_inj.mp users.1)
  -- the bounds of a period make up the whole of it
  obtain ⟨c, ⟨first, last, _, _, _⟩, u⟩ := a
  obtain ⟨c', ⟨first', last', _, _, _⟩, u'⟩ := b
  obtain rfl : c = c' := channels
  obtain rfl : first = first' := starts
  obtain rfl : last = last' := stops
  obtain rfl : u = u' := users.2
  rfl

theorem fileName_inj {a b : LogId} (h : fileName a = fileName b) : a = b :=
  folded_fileName_inj (by rw [h])

/-- Every log's file has the same extension. -/
theorem suffix_fileName (id : LogId) : ".bin".toList <:+ (fileName id).toList := by
  rw [toList_fileName]
  simp only [← List.append_assoc, ← List.cons_append]
  exact List.suffix_append _ _

/-- A log's file lies in the directory of the store. -/
theorem isName_fileName (id : LogId) : Path.IsName (fileName id) := by
  have part : ∀ s : String, '/' ∉ namePart s := fun s hs =>
    (isSign_of_mem_namePart (List.mem_map_of_mem hs)).2 rfl
  have number : ∀ i : Int, '/' ∉ (signedDecimal i).toList := fun i hi =>
    (isSign_of_mem_signedDecimal hi).2 rfl
  have user : '/' ∉ userPart id := by
    by_cases h : id.user = ""
    · simp [userPart_of_eq h]
    · simp [userPart_of_ne h, part]
  have slash : '/' ∉ (fileName id).toList := by
    simp [toList_fileName, part, number, user]
  have long := (suffix_fileName id).length_le
  refine ⟨slash, fun empty => ?_, fun dot => ?_⟩
  · rw [empty] at long
    exact absurd long (by decide)
  · rw [dot] at long
    exact absurd long (by decide)

/-- A name that does not end as the names of logs do is none of them, in whichever letters. -/
theorem folded_fileName_ne (id : LogId) {cs : List Char} (other : ¬".bin".toList <:+ folded cs) :
    folded (fileName id).toList ≠ folded cs := by
  intro same
  obtain ⟨front, whole⟩ := suffix_fileName id
  refine other ⟨folded front, ?_⟩
  rw [← same, ← whole, folded_append]
  rfl

/-- Every log has a file of its own: the names of two logs differ, and not only in capital and small
letters.  The file lies in the directory of the store, under a name that is a single component of
the path, and it is neither the list of all logs nor the directory itself or the one above. -/
theorem fileNames_apart (s : Store) :
    (∀ a b : LogId, folded (fileName a).toList = folded (fileName b).toList ↔ a = b) ∧
    ∀ id : LogId,
      Path.fileName? (s.pathOf id) = some (fileName id) ∧
      Path.components (s.pathOf id) = Path.components s.dir ++ [fileName id] ∧
      '/' ∉ (fileName id).toList ∧
      folded (fileName id).toList ≠ folded "index.json".toList ∧
      fileName id ≠ "." ∧ fileName id ≠ ".." := by
  refine ⟨fun a b => ⟨folded_fileName_inj, fun same => by rw [same]⟩, fun id => ?_⟩
  have name := isName_fileName id
  have list : folded (fileName id).toList ≠ folded "index.json".toList :=
    folded_fileName_ne id (by decide)
  have up : folded (fileName id).toList ≠ folded "..".toList := folded_fileName_ne id (by decide)
  have down : fileName id ≠ ".." := fun same => up (by rw [same])
  exact ⟨Path.fileName?_join s.dir name down, Path.components_join s.dir name, name.slash, list,
    name.ne_dot, down⟩

end Scrollback.Store
