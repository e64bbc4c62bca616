/-
What the writer puts, said in fields.  `Puts put fields` says that an action fails with the first number
among the fields that the mode cannot hold, and otherwise appends their bytes.  Each routine of the writer
has one lemma that names its fields, and what is put in a row are the fields of each (`Puts.bind`,
`puts_foldlM`).  Parts in a row begin where `offsets` says, and their places are read off from the buffer
(`putParts_eq`).

`encode_eq` is the writer as a whole.  The numbers of the header are checked like all others, but once the
size of the log fits the mode they fit it too, so that their check never fails.
-/
import Scrollback.Proofs.Codec.Fields
import Scrollback.Proofs.Outcome
import Scrollback.Proofs.Text

namespace Scrollback.Codec

/-! ### Fields that are put -/

namespace Encoder

/-- Append the bytes of some fields. -/
def append (e : Encoder) (fields : List Field) : Encoder :=
  e.putRaw (fields.flatMap (Field.bytes e.mode e.order))

@[simp] theorem mode_new (m : Mode) (o : ByteOrder) : (new m o).mode = m := rfl

@[simp] theorem mode_append (e : Encoder) (fields : List Field) : (e.append fields).mode = e.mode :=
  rfl

@[simp] theorem append_nil (e : Encoder) : e.append [] = e := by
  simp [append, putRaw]

@[simp] theorem append_append (e : Encoder) (fields more : List Field) :
    (e.append fields).append more = e.append (fields ++ more) := by
  simp only [append, putRaw, List.flatMap_append]
  congr 1
  exact Array.toList_inj.mp (by simp [Array.toList_appendList])

theorem here_append (e : Encoder) (fields : List Field) :
    (e.append fields).here = e.here + Field.sizes e.mode fields := by
  have size : (e.append fields).buffer.size = e.buffer.size + Field.sizes e.mode fields := by
    rw [append, putRaw, ← Array.length_toList, Array.toList_appendList, List.length_append,
      Field.length_flatMap_bytes, Array.length_toList]
  rw [here, here, size, mode_append, Nat.add_assoc]

theorem putStamp_eq (e : Encoder) (millis : Int) : e.putStamp millis = e.append [.stamp millis] := by
  simp [append, putStamp, Field.bytes]

theorem putRaw_eq (e : Encoder) (bytes : List UInt8) : e.putRaw bytes = e.append [.raw bytes] := by
  simp [append, Field.bytes]

end Encoder

/-- An action puts some fields: the first number that does not fit is its failure, and otherwise their
bytes are appended. -/
def Puts (put : Encoder → Except CodecError Encoder) (fields : List Field) : Prop :=
  ∀ e, put e = (Field.check e.mode fields).map fun _ => e.append fields

variable {put next : Encoder → Except CodecError Encoder} {fields more : List Field}

/-- Two actions in a row put the fields of the one and those of the other. -/
theorem Puts.bind (h : Puts put fields) (h' : Puts next more) :
    Puts (fun e => put e >>= next) (fields ++ more) := by
  intro e
  show put e >>= next = _
  rw [h e, Field.check_append]
  rcases Field.check e.mode fields with failure | -
  · rfl
  · show next (e.append fields) = _
    rw [h' (e.append fields), Encoder.mode_append, Encoder.append_append]
    rfl

theorem puts_word (n : Nat) : Puts (·.putWord n) [.word n] := by
  intro e
  by_cases fits : n ≤ e.mode.max
  · simp [Encoder.putWord, Encoder.append, Field.check, Field.overflow?, Field.bytes, fits,
      Nat.not_lt.mpr fits, Except.map]
  · simp [Encoder.putWord, Field.check, Field.overflow?, fits, Nat.not_le.mp fits, Except.map]

theorem puts_raw (bytes : List UInt8) : Puts (fun e => pure (e.putRaw bytes)) [.raw bytes] :=
  fun e => congrArg Except.ok (e.putRaw_eq bytes)

theorem puts_stamp (millis : Int) : Puts (fun e => pure (e.putStamp millis)) [.stamp millis] :=
  fun e => congrArg Except.ok (e.putStamp_eq millis)

theorem puts_sized (bytes : List UInt8) : Puts (·.putSized bytes) (sized bytes) :=
  (puts_word bytes.length).bind (puts_raw bytes)

theorem puts_span (s : Span) : Puts (·.putSpan s) [.word s.offset, .word s.length] :=
  (puts_word s.offset).bind (puts_word s.length)

/-- What is put for each of some items in a row. -/
theorem puts_foldlM {α : Type} {each : Encoder → α → Except CodecError Encoder}
    {fieldsOf : α → List Field} (h : ∀ a, Puts (each · a) (fieldsOf a)) (xs : List α) :
    Puts (xs.foldlM each) (xs.flatMap fieldsOf) := by
  induction xs with
  | nil => exact fun e => congrArg Except.ok e.append_nil.symm
  | cons a xs ih =>
    simp only [List.foldlM_cons, List.flatMap_cons]
    exact (h a).bind ih

theorem puts_words (ns : List Nat) : Puts (ns.foldlM Encoder.putWord) (ns.map .word) := by
  have fields : ns.map Field.word = ns.flatMap fun n => [.word n] := by
    rw [List.map_eq_flatMap]
  rw [fields]
  exact puts_foldlM puts_word ns

theorem puts_stamps {α : Type} (millis : α → Int) (xs : List α) :
    Puts (fun e => pure (xs.foldl (fun e x => e.putStamp (millis x)) e))
      ((xs.map millis).map .stamp) := by
  have fields : (xs.map millis).map Field.stamp = xs.flatMap fun x => [.stamp (millis x)] := by
    rw [List.map_map, List.map_eq_flatMap]
    rfl
  rw [fields]
  intro e
  rw [← puts_foldlM (fun x => puts_stamp (millis x)) xs e]
  exact (List.foldlM_pure ..).symm

/-! ### Pools -/

/-- Further texts stand behind those that are there already. -/
theorem foldl_add (texts : List String) (p : Pool) :
    (texts.foldl Pool.add p).table.toList =
        p.table.toList ++ stretches p.blob.utf8ByteSize (texts.map utf8) ∧
      utf8 (texts.foldl Pool.add p).blob = utf8 p.blob ++ (texts.map utf8).flatten := by
  induction texts generalizing p with
  | nil => simp [stretches]
  | cons text texts ih => simp [ih, Pool.add, stretches]

theorem table_ofTexts (texts : List String) :
    (Pool.ofTexts texts).table.toList = stretches 0 (texts.map utf8) :=
  (foldl_add texts {}).1

theorem utf8_ofTexts (texts : List String) :
    utf8 (Pool.ofTexts texts).blob = (texts.map utf8).flatten :=
  (foldl_add texts {}).2

/-- The table of a pool is put as offsets and sizes. -/
theorem flatMap_stretches (start : Nat) (pieces : List (List UInt8)) :
    (stretches start pieces).flatMap (fun s => [.word s.offset, .word s.length]) =
      extents start pieces := by
  induction pieces generalizing start with
  | nil => rfl
  | cons b rest ih => simp [stretches, extents, ih]

/-! ### Authors -/

/-- The number of an author. -/
def authorNumber (log : Log) (name : String) : Except CodecError Nat :=
  match log.nameIndex? name with
  | some i => .ok i
  | none => .error (.unknownAuthor name)

/-- The numbers of the lines' authors. -/
def authorNumbers (log : Log) : Except CodecError (List Nat) :=
  log.remarks.mapM fun l => authorNumber log l.author

theorem authorNumber_eq_ok {log : Log} {name : String} {i : Nat} :
    authorNumber log name = .ok i ↔ log.nameIndex? name = some i := by
  rw [authorNumber]
  rcases log.nameIndex? name with - | j <;> simp

theorem authorNumbers_eq_ok {log : Log} {authors : List Nat} :
    authorNumbers log = .ok authors ↔
      List.Forall₂ (fun (l : Remark) i => log.nameIndex? l.author = some i) log.remarks authors := by
  simp only [authorNumbers, Except.mapM_eq_ok, authorNumber_eq_ok]

/-- Every line has an author. -/
theorem length_authorNumbers {log : Log} {authors : List Nat}
    (h : authorNumbers log = .ok authors) : authors.length = log.lines.size := by
  rw [← (authorNumbers_eq_ok.mp h).length_eq, length_remarks]

/-- What is gathered about lines whose authors have the given numbers. -/
def rollOf (log : Log) (authors : List Nat) : Roll :=
  ⟨authors.toArray, .ofTexts (log.remarks.map Remark.message)⟩

/-- The author of each line is looked up, and its message goes into the pool. -/
theorem foldlM_add (log : Log) (ls : List LineSpan) (r : Roll) :
    ls.foldlM (Roll.add log) r =
      ((ls.map log.remarkAt).mapM fun l => authorNumber log l.author).map fun authors =>
        ⟨r.authors ++ authors, ((ls.map log.remarkAt).map Remark.message).foldl Pool.add r.messages⟩ := by
  induction ls generalizing r with
  | nil => simp [Except.map, pure, Except.pure]
  | cons l ls ih =>
    rw [List.foldlM_cons, List.map_cons, List.mapM_cons, Roll.add]
    show _ = Except.map _ (authorNumber log (log.textOf l.author) >>= _)
    rw [authorNumber]
    rcases log.nameIndex? (log.textOf l.author) with - | i
    · rfl
    · show ls.foldlM (Roll.add log) _ = _
      rw [ih]
      generalize (ls.map log.remarkAt).mapM (fun l => authorNumber log l.author) = rest
      rcases rest with failure | authors
      · rfl
      · simp [Except.map, pure, Except.pure, bind, Except.bind, Log.remarkAt]

theorem foldlM_add_lines (log : Log) :
    log.lines.toList.foldlM (Roll.add log) {} = (authorNumbers log).map (rollOf log) := by
  rw [foldlM_add, ← Log.remarks, ← authorNumbers]
  congr 1
  funext authors
  simp [rollOf, Pool.ofTexts]

/-! ### Parts -/

/-- A part that puts some fields, and is left out if there are none. -/
structure Part.Has (part : Part) (fields : List Field) : Prop where
  present : part.present = !fields.isEmpty
  puts : part.present = true → Puts part.put fields

/-- Parts in a row begin where their offsets say. -/
theorem putParts_eq {parts : List Part} {fields : List (List Field)}
    (h : List.Forall₂ Part.Has parts fields) (e : Encoder) :
    putParts parts e = (Field.check e.mode fields.flatten).map fun _ =>
      (offsets e.mode e.here fields, e.append fields.flatten) := by
  induction h generalizing e with
  | nil => exact congrArg (fun last => Except.ok ([], last)) e.append_nil.symm
  | @cons part own parts fields has _ ih =>
    rw [putParts, List.flatten_cons, Field.check_append, offsets]
    rcases empty : own.isEmpty with - | -
    · -- the part is there, and the next one begins behind it
      have present : part.present = true := by rw [has.present, empty]; rfl
      rw [if_pos present, has.puts present e]
      rcases Field.check e.mode own with failure | -
      · rfl
      · show putParts parts (e.append own) >>= _ = _
        rw [ih, Encoder.mode_append, Encoder.here_append, Encoder.append_append]
        rcases Field.check e.mode fields.flatten with failure | -
        · rfl
        · rfl
    · have absent : ¬part.present = true := by simp [has.present, empty]
      obtain rfl := List.isEmpty_iff.mp empty
      rw [if_neg absent, ih]
      rcases Field.check e.mode fields.flatten with failure | -
      · rfl
      · rfl

/-- A part that is left out under a condition. -/
theorem Part.has_unless {none : Bool} (h : Puts put fields) (nonempty : fields ≠ []) :
    Part.Has ⟨!none, put⟩ (if none then [] else fields) := by
  cases none with
  | true => exact ⟨rfl, fun present => nomatch present⟩
  | false => exact ⟨by simp [nonempty], fun _ => h⟩

theorem forall₂_identityParts (id : LogId) :
    List.Forall₂ Part.Has (identityParts id) [channelPart id, userPart id] := by
  refine .cons ⟨rfl, fun _ => puts_sized _⟩ (.cons ?_ .nil)
  have user : (id.user != "") = !(id.user == "") := rfl
  rw [user, userPart]
  have has := @Part.has_unless _ _ (id.user == "") (puts_sized (utf8 id.user)) (by simp [sized])
  simpa using has

/-- The table of a pool is put as the offsets and sizes of its texts. -/
theorem puts_table (texts : List String) :
    Puts (fun e => (Pool.ofTexts texts).table.toList.foldlM Encoder.putSpan e)
      (extents 0 (texts.map utf8)) := by
  rw [table_ofTexts, ← flatMap_stretches]
  exact puts_foldlM puts_span _

theorem isEmpty_extents (pieces : List (List UInt8)) : (extents 0 pieces).isEmpty = pieces.isEmpty := by
  cases pieces <;> rfl

theorem forall₂_contentParts {log : Log} {authors : List Nat}
    (numbered : authors.length = log.lines.size) :
    List.Forall₂ Part.Has (contentParts log (.ofTexts log.nameTexts) (rollOf log authors))
      (textParts (log.nameTexts.map utf8) (log.lines.toList.map fun l => l.time.epochMillis) authors
        (log.remarks.map fun l => utf8 l.message)) := by
  have messages : (log.remarks.map fun l => utf8 l.message) = (log.remarks.map Remark.message).map utf8 := by
    rw [List.map_map]
    rfl
  have hasNames : (Pool.ofTexts log.nameTexts).table.isEmpty = (log.nameTexts.map utf8).isEmpty := by
    rw [← Array.isEmpty_toList, table_ofTexts]
    cases log.nameTexts <;> rfl
  have hasLines : log.lines.isEmpty = ((log.remarks.map Remark.message).map utf8).isEmpty := by
    simp [Log.remarks]
  simp only [contentParts, textParts, messages, hasNames, hasLines, utf8_ofTexts, rollOf]
  refine .cons ?names (.cons ?messages (.cons ?nameTable (.cons ?times (.cons ?authors
    (.cons ?messageTable .nil)))))
  case names => exact Part.has_unless (puts_sized _) (by simp [sized])
  case messages => exact Part.has_unless (puts_sized _) (by simp [sized])
  case nameTable =>
    have size : (Pool.ofTexts log.nameTexts).table.size = (log.nameTexts.map utf8).length := by
      rw [← Array.length_toList, table_ofTexts, length_stretches]
    rw [size]
    exact Part.has_unless ((puts_word _).bind (puts_table _)) (by simp)
  case times => exact ⟨by simp [Log.remarks], fun _ => puts_stamps _ _⟩
  case authors =>
    have none : log.lines.isEmpty = authors.isEmpty := by
      rw [Bool.eq_iff_iff, Array.isEmpty_iff_size_eq_zero, List.isEmpty_iff_length_eq_zero, numbered]
    exact ⟨by simp [Log.remarks, none], fun _ => puts_words _⟩
  case messageTable => exact ⟨by simp [isEmpty_extents], fun _ => puts_table _⟩

/-! ### Whole logs -/

/-- The tags are put, and behind them the fields of the header. -/
theorem putHeader_eq (log : Log) (parts : List (List Field)) (e : Encoder) :
    putHeader log (offsets e.mode (headerSize e.mode) parts) e =
      (Field.check e.mode (headerFields e.mode log parts)).map fun _ =>
        (e.putRaw ([e.mode.tag, e.order.tag] ++ List.replicate (preambleSize - 2) 0)).append
          (headerFields e.mode log parts) :=
  ((puts_words (log.lines.size :: offsets e.mode (headerSize e.mode) parts)).bind
    ((puts_stamp log.id.period.start).bind (puts_stamp log.id.period.stop))) (e.putRaw _)

/-- Once the size of a log fits the mode, so do the numbers in its header. -/
theorem finish_eq (log : Log) (m : Mode) (o : ByteOrder) (authors : List Nat) :
    finish log (offsets m (headerSize m) (partsOf log authors))
        ((Encoder.new m o).append (partsOf log authors).flatten) =
      if m.max < writtenSize log m authors then .error (.overflow (writtenSize log m authors) m)
      else .ok (writtenBytes log m o authors) := by
  have here : ((Encoder.new m o).append (partsOf log authors).flatten).here =
      writtenSize log m authors := Encoder.here_append ..
  rw [finish, here]
  by_cases large : m.max < writtenSize log m authors
  · rw [if_pos large]
    exact if_pos large
  · have fits := (bounded_headerFields log m authors).mono (Nat.not_lt.mp large)
    have passed : Field.check m (headerFields m log (partsOf log authors)) = .ok () :=
      Field.check_eq_ok.mpr fits
    have header : putHeader log (offsets m (headerSize m) (partsOf log authors)) (.new m o) =
        (Field.check m (headerFields m log (partsOf log authors))).map _ := putHeader_eq ..
    rw [if_neg large]
    refine (if_neg large).trans ?_
    show putHeader log (offsets m (headerSize m) (partsOf log authors)) (.new m o) >>= _ = _
    rw [header, passed]
    refine congrArg Except.ok ?_
    simp [writtenBytes, Encoder.append, Encoder.putRaw, Encoder.new]

/-- Behind the identifier the other parts are put.  Its own numbers have been checked by then. -/
theorem putParts_content {log : Log} {m : Mode} (o : ByteOrder) {authors : List Nat}
    (numbered : authors.length = log.lines.size)
    (passed : Field.check m [channelPart log.id, userPart log.id].flatten = .ok ()) :
    putParts (contentParts log (.ofTexts log.nameTexts) (rollOf log authors))
        ((Encoder.new m o).append [channelPart log.id, userPart log.id].flatten) =
      (Field.check m (partsOf log authors).flatten).map fun _ =>
        ((offsets m (headerSize m) (partsOf log authors)).drop 2,
          (Encoder.new m o).append (partsOf log authors).flatten) := by
  have places : ∀ parts, (offsets m (headerSize m)
      ([channelPart log.id, userPart log.id] ++ parts)).drop 2 = offsets m
        ((Encoder.new m o).append [channelPart log.id, userPart log.id].flatten).here parts := by
    intro parts
    rw [offsets_append, Encoder.here_append]
    rfl
  have whole : ∀ parts, Field.check m ([channelPart log.id, userPart log.id] ++ parts).flatten =
      Field.check m parts.flatten := by
    intro parts
    rw [List.flatten_append, Field.check_append, passed]
    rfl
  rw [putParts_eq (forall₂_contentParts numbered), Encoder.mode_append, Encoder.mode_new,
    Encoder.append_append, ← List.flatten_append, partsOf, places, whole]

/-- Writing a log.  The numbers of the identifier are checked before any author is looked up.  Those of the
header are no greater than the size of the log, so that their check never fails. -/
theorem encode_eq (log : Log) (m : Mode) (o : ByteOrder) :
    encode log m o = (do
      if !log.valid then throw .invalidLog
      Field.check m [channelPart log.id, userPart log.id].flatten
      let authors ← authorNumbers log
      Field.check m (partsOf log authors).flatten
      if m.max < writtenSize log m authors then throw (.overflow (writtenSize log m authors) m)
      pure (writtenBytes log m o authors)) := by
  have identity := putParts_eq (forall₂_identityParts log.id) (.new m o)
  rw [Encoder.mode_new] at identity
  rw [encode, foldlM_add_lines, identity]
  rcases log.valid with - | -
  · rfl
  rcases passed : Field.check m [channelPart log.id, userPart log.id].flatten with failure | ⟨⟩
  · rfl
  rcases hauthors : authorNumbers log with failure | authors
  · rfl
  have numbered := length_authorNumbers hauthors
  show putParts (contentParts log (.ofTexts log.nameTexts) (rollOf log authors))
      ((Encoder.new m o).append [channelPart log.id, userPart log.id].flatten) >>= _ = (do
    Field.check m (partsOf log authors).flatten
    if m.max < writtenSize log m authors then throw (.overflow (writtenSize log m authors) m)
    pure (writtenBytes log m o authors))
  rw [putParts_content o numbered passed]
  rcases Field.check m (partsOf log authors).flatten with failure | ⟨⟩
  · rfl
  · show finish log (offsets m (headerSize m) (partsOf log authors)) _ = _
    rw [finish_eq]
    by_cases large : m.max < writtenSize log m authors
    · rw [if_pos large]
      exact (if_pos large).symm
    · rw [if_neg large]
      exact (if_neg large).symm

end Scrollback.Codec
