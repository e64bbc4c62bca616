/-
The list of the logs on the disk.  As long as no log is listed twice (`StoreIndex.Distinct`), the
list says the same after it has been written and read (`StoreIndex.exists_ofBytes?_toBytes`),
although the entries are written in the order of their paths and come back in reverse.  Whatever is
read lists no log twice (`StoreIndex.distinct_of_ofBytes?`).
-/
import Scrollback.Proofs.Json.RoundTrip
import Scrollback.Proofs.Outcome
import Scrollback.Proofs.Text
import Scrollback.Proofs.Time.Millis
import Scrollback.Store.Index

namespace Scrollback

/-! ### Identifiers as JSON -/

namespace JsonValue

@[simp] theorem asText?_ofText (s : String) : (ofText s).asText? = some s :=
  text?_utf8 s

@[simp] theorem asInt?_ofInt (i : Int) : (ofInt i).asInt? = some i := by
  simp only [ofInt, asInt?, Bool.not_true, Bool.false_or, Bool.and_eq_true, decide_eq_true_eq,
    beq_iff_eq]
  rw [if_neg (by omega)]
  congr 1
  split <;> omega

/-- Among members whose names differ, one has the name of a given one. -/
theorem filter_name {members : List (String × JsonValue)}
    (distinct : (members.map Prod.fst).Nodup) {m : String × JsonValue} (hm : m ∈ members) :
    members.filter (fun n => n.1 == m.1) = [m] := by
  induction members with
  | nil => cases hm
  | cons n members ih =>
    rw [List.map_cons, List.nodup_cons] at distinct
    obtain ⟨unique, distinct⟩ := distinct
    rcases List.mem_cons.mp hm with rfl | hm
    · -- the first member, and none of the others has its name
      rw [List.filter_cons_of_pos (by simp), List.filter_eq_nil_iff.mpr]
      intro k hk same
      exact unique (beq_iff_eq.mp same ▸ List.mem_map_of_mem hk)
    · rw [List.filter_cons_of_neg, ih distinct hm]
      intro same
      exact unique (beq_iff_eq.mp same ▸ List.mem_map_of_mem hm)

/-- An object has the fields it was made of. -/
theorem fields?_ofMembers {members : List (String × JsonValue)}
    (distinct : (members.map Prod.fst).Nodup) :
    (ofMembers members).fields? (members.map Prod.fst) =
      some (members.map fun m => some m.2) := by
  have known : (members.map fun m => (utf8 m.1, m.2)).mapM
      (fun m => (text? m.1).map fun name => (name, m.2)) = some members := by
    rw [List.mapM_map_eq_some (k := id) (by simp), List.map_id]
  rw [ofMembers, fields?, known]
  apply List.mapM_map_eq_some
  intro m hm
  rw [filter_name distinct hm]

theorem Whole.ofText (s : String) : (ofText s).Whole := .string _

theorem Whole.ofInt (i : Int) : (ofInt i).Whole := .number _ _

theorem Whole.ofMembers {members : List (String × JsonValue)} (h : ∀ m ∈ members, m.2.Whole) :
    (ofMembers members).Whole := by
  refine .object fun m hm => ?_
  obtain ⟨n, hn, rfl⟩ := List.mem_map.mp hm
  exact h n hn

end JsonValue

open JsonValue

theorem Period.whole_toJson (p : Period) : p.toJson.Whole := by
  refine .ofMembers ?_
  simp [Whole.ofInt]

@[simp] theorem Period.ofJson?_toJson (p : Period) : Period.ofJson? p.toJson = some p := by
  have fields : p.toJson.fields? ["begin", "end"] =
      some [some (.ofInt p.start), some (.ofInt p.stop)] :=
    @fields?_ofMembers [("begin", _), ("end", _)] (by simp)
  rw [Period.ofJson?, fields]
  simp [Except.toOption]

theorem LogId.whole_toJson (id : LogId) : id.toJson.Whole := by
  refine .ofMembers ?_
  simp [Whole.ofText, Period.whole_toJson]

@[simp] theorem LogId.ofJson?_toJson (id : LogId) : LogId.ofJson? id.toJson = some id := by
  have fields : id.toJson.fields? ["channel", "period", "user"] =
      some [some (.ofText id.channel), some id.period.toJson, some (.ofText id.user)] :=
    @fields?_ofMembers [("channel", _), ("period", _), ("user", _)] (by simp)
  rw [LogId.ofJson?, fields]
  simp

namespace StoreIndex

/-! ### Entries -/

/-- No log is listed twice. -/
def Distinct (x : StoreIndex) : Prop :=
  (x.entries.map Prod.fst).Nodup

theorem distinct_empty : empty.Distinct := List.nodup_nil

theorem Distinct.erase {x : StoreIndex} (h : x.Distinct) (id : LogId) : (x.erase id).Distinct :=
  h.sublist (List.filter_sublist.map _)

theorem mem_erase {x : StoreIndex} {id : LogId} {e : LogId × String} :
    e ∈ (x.erase id).entries ↔ e ∈ x.entries ∧ e.1 ≠ id := by
  simp [StoreIndex.erase]

theorem Distinct.insert {x : StoreIndex} (h : x.Distinct) (id : LogId) (path : String) :
    (x.insert id path).Distinct := by
  refine List.nodup_cons.mpr ⟨?_, h.erase id⟩
  intro mem
  obtain ⟨e, he, same⟩ := List.mem_map.mp mem
  exact (mem_erase.mp he).2 same

/-- The entry of a log says where its file is. -/
theorem path?_eq_some {x : StoreIndex} (h : x.Distinct) {id : LogId} {path : String} :
    x.path? id = some path ↔ (id, path) ∈ x.entries := by
  rw [path?, List.lookup_eq_some_iff]
  constructor
  · rintro ⟨before, after, list, -⟩
    rw [list]
    exact List.mem_append_right _ List.mem_cons_self
  · intro mem
    obtain ⟨before, after, list⟩ := List.append_of_mem mem
    refine ⟨before, after, list, fun e he => ?_⟩
    rw [Distinct, list, List.map_append, List.map_cons] at h
    rw [bne_iff_ne]
    exact ((List.nodup_append.mp h).2.2 _ (List.mem_map_of_mem he) _ List.mem_cons_self).symm

@[simp] theorem path?_erase_self (x : StoreIndex) (id : LogId) : (x.erase id).path? id = none :=
  List.lookup_filter_self x.entries id

@[simp] theorem path?_erase_of_ne (x : StoreIndex) {id other : LogId} (h : other ≠ id) :
    (x.erase id).path? other = x.path? other :=
  List.lookup_filter_ne h

@[simp] theorem path?_insert_self (x : StoreIndex) (id : LogId) (path : String) :
    (x.insert id path).path? id = some path :=
  List.lookup_cons_self

@[simp] theorem path?_insert_of_ne (x : StoreIndex) {id other : LogId} (path : String)
    (h : other ≠ id) : (x.insert id path).path? other = x.path? other := by
  rw [path?, StoreIndex.insert, List.lookup_cons, beq_eq_false_iff_ne.mpr h]
  exact path?_erase_of_ne x h

/-- Lists that say the same of every log have the same entries. -/
theorem perm_of_same {x y : StoreIndex} (hx : x.Distinct) (hy : y.Distinct)
    (same : ∀ id, y.path? id = x.path? id) : x.entries.Perm y.entries := by
  rw [List.perm_ext_iff_of_nodup (.of_map Prod.fst hx) (.of_map Prod.fst hy)]
  rintro ⟨id, path⟩
  rw [← path?_eq_some hx, ← path?_eq_some hy, same]

/-! ### The file of the list -/

theorem whole_toJson (x : StoreIndex) : x.toJson.Whole := by
  refine .list fun v hv => ?_
  obtain ⟨e, -, rfl⟩ := List.mem_map.mp hv
  refine .ofMembers ?_
  simp [Whole.ofText, LogId.whole_toJson]

theorem entryOfJson?_toJson (e : LogId × String) :
    entryOfJson? (.ofMembers [("id", e.1.toJson), ("path", .ofText e.2)]) = some e := by
  have fields := @fields?_ofMembers [("id", e.1.toJson), ("path", .ofText e.2)] (by simp)
  change JsonValue.fields? ["id", "path"] _ = _ at fields
  rw [entryOfJson?, fields]
  simp

/-- Entries of distinct logs come in one by one. -/
theorem foldl_insert {entries : List (LogId × String)} (x : StoreIndex)
    (h : ((entries ++ x.entries).map Prod.fst).Nodup) :
    entries.foldl (fun x e => x.insert e.1 e.2) x = ⟨entries.reverse ++ x.entries⟩ := by
  induction entries generalizing x with
  | nil => rfl
  | cons e entries ih =>
    have unlisted : e.1 ∉ x.entries.map Prod.fst := by
      rw [List.cons_append, List.map_cons, List.nodup_cons, List.map_append, List.mem_append,
        not_or] at h
      exact h.1.2
    -- so there is no older entry to take out
    have inserted : x.insert e.1 e.2 = ⟨e :: x.entries⟩ := by
      rw [StoreIndex.insert, StoreIndex.erase, List.filter_eq_self.mpr]
      intro k hk
      rw [decide_eq_true_iff]
      rintro same
      exact unlisted (same ▸ List.mem_map_of_mem hk)
    rw [List.foldl_cons, inserted, ih]
    · rw [List.reverse_cons, List.append_assoc]
      rfl
    · exact (List.perm_middle.map Prod.fst).nodup_iff.mpr h

theorem sorted_perm (x : StoreIndex) : x.sorted.Perm x.entries :=
  List.mergeSort_perm _ _

/-- The entries are written in the order of their paths. -/
theorem pairwise_sorted (x : StoreIndex) :
    x.sorted.Pairwise fun a b => Path.key a.2 ≤ Path.key b.2 := by
  refine (List.pairwise_mergeSort ?_ ?_ x.entries).imp of_decide_eq_true
  · intro a b c ab bc
    exact decide_eq_true (List.le_trans (of_decide_eq_true ab) (of_decide_eq_true bc))
  · intro a b
    simp only [Bool.or_eq_true, decide_eq_true_iff]
    exact List.le_total _ _

/-- The list that is read back has the same entries. -/
theorem ofBytes?_toBytes {x : StoreIndex} (h : x.Distinct) :
    ofBytes? x.toBytes = some ⟨x.sorted.reverse⟩ := by
  have distinct : (x.sorted.map Prod.fst).Nodup := (x.sorted_perm.map _).nodup_iff.mpr h
  have items : (x.sorted.map fun e =>
      JsonValue.ofMembers [("id", e.1.toJson), ("path", .ofText e.2)]).mapM entryOfJson? =
      some x.sorted := by
    rw [List.mapM_map_eq_some (k := id) fun e _ => entryOfJson?_toJson e, List.map_id]
  have bytes : x.toBytes.data.toList = x.toJson.indented := by
    simp [toBytes]
  rw [ofBytes?, bytes, parse?_indented x.whole_toJson]
  show (x.sorted.map _).mapM entryOfJson? >>= _ = _
  rw [items]
  show some (x.sorted.foldl _ empty) = _
  rw [foldl_insert empty (by simpa [empty] using distinct)]
  simp [empty]

/-- The list that is read back says the same of every log. -/
theorem exists_ofBytes?_toBytes {x : StoreIndex} (h : x.Distinct) :
    ∃ y, ofBytes? x.toBytes = some y ∧ y.Distinct ∧ ∀ id, y.path? id = x.path? id := by
  have perm : x.sorted.reverse.Perm x.entries := (List.reverse_perm _).trans x.sorted_perm
  have distinct : (⟨x.sorted.reverse⟩ : StoreIndex).Distinct := (perm.map _).nodup_iff.mpr h
  refine ⟨_, ofBytes?_toBytes h, distinct, fun id => Option.ext fun path => ?_⟩
  rw [path?_eq_some distinct, path?_eq_some h, perm.mem_iff]

theorem Distinct.foldl_insert {x : StoreIndex} (h : x.Distinct) (entries : List (LogId × String)) :
    (entries.foldl (fun x e => x.insert e.1 e.2) x).Distinct := by
  induction entries generalizing x with
  | nil => exact h
  | cons e entries ih => exact ih (h.insert e.1 e.2)

/-- A list that is read has no log twice, whatever is in the file. -/
theorem distinct_of_ofBytes? {x : StoreIndex} {bytes : ByteArray}
    (read : ofBytes? bytes = some x) : x.Distinct := by
  rw [ofBytes?] at read
  obtain ⟨v, -, read⟩ := Option.bind_eq_some_iff.mp read
  split at read
  · obtain ⟨entries, -, read⟩ := Option.bind_eq_some_iff.mp read
    obtain rfl := Option.some.inj read
    exact distinct_empty.foldl_insert entries
  · cases read

end StoreIndex

end Scrollback
