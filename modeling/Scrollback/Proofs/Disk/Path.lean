/-
Paths of names within a directory.  Whatever a directory's path looks like, with a slash at its end
or without, the path of a name in it has the components of the directory and then the name
(`Path.components_join`).
-/
import Mathlib
import Scrollback.Disk.Path

namespace Scrollback.Path

/-- A text that names something within a directory. -/
structure IsName (name : String) : Prop where
  slash : '/' ∉ name.toList
  ne_empty : name ≠ ""
  ne_dot : name ≠ "."

theorem IsName.ne_root {name : String} (h : IsName name) : name ≠ "/" := by
  rintro rfl
  exact h.slash (by decide)

/-- The names among the pieces between slashes. -/
def names (cs : List Char) : List String :=
  ((cs.splitOn '/').map String.ofList).filter fun n => n != "" && n != "."

theorem startsWith_slash (path : String) :
    path.startsWith "/" = true ↔ path.toList.head? = some '/' := by
  rw [String.startsWith_string_iff]
  show ['/'] <+: path.toList ↔ _
  rcases path.toList with - | ⟨c, cs⟩
  · simp
  · simp [eq_comm]

theorem components_eq (path : String) :
    components path =
      if path.toList.head? = some '/' then "/" :: names path.toList else names path.toList := by
  simp only [components, startsWith_slash]
  rfl

theorem names_append (front back : List Char) :
    names (front ++ '/' :: back) = names front ++ names back := by
  rw [names, List.splitOn_append_cons_self, List.map_append, List.filter_append]
  rfl

theorem names_of_isName {name : String} (h : IsName name) : names name.toList = [name] := by
  rw [names, List.splitOn_eq_singleton h.slash]
  simp [h.ne_empty, h.ne_dot]

theorem not_startsWith_of_isName {name : String} (h : IsName name) :
    ¬name.startsWith "/" = true := by
  rw [startsWith_slash]
  intro head
  exact h.slash (List.mem_of_mem_head? head)

theorem join_empty (name : String) : join "" name = name := by
  rw [join, if_pos]
  rfl

/-- The path of a name begins with the path of its directory. -/
theorem exists_join_eq (dir : String) {name : String} (h : IsName name) :
    ∃ rest, join dir name = dir ++ rest := by
  rw [join]
  split
  · next whole =>
    have empty : dir = "" := by
      simpa [not_startsWith_of_isName h] using whole
    exact ⟨name, by rw [empty, String.empty_append]⟩
  · split
    · exact ⟨name, rfl⟩
    · exact ⟨"/" ++ name, String.append_assoc⟩

/-- A name is joined to a directory with a slash in between, however it comes there. -/
theorem exists_join {dir : String} (some : dir ≠ "") {name : String} (h : IsName name) :
    ∃ front, (join dir name).toList = front ++ '/' :: name.toList ∧
      names front = names dir.toList ∧ (front ++ ['/']).head? = dir.toList.head? := by
  have inside : ¬(dir.isEmpty || name.startsWith "/") = true := by
    simpa [some] using not_startsWith_of_isName h
  rw [join, if_neg inside]
  split
  · next slash =>
    have suffixed : "/".toList <:+ dir.toSlice.copy.toList := String.Slice.endsWith_string_iff.mp slash
    rw [String.copy_toSlice] at suffixed
    obtain ⟨front, hfront⟩ : ['/'] <:+ dir.toList := suffixed
    refine ⟨front, ?_, ?_, ?_⟩
    · rw [String.toList_append, ← hfront]
      simp
    · rw [← hfront, names_append]
      simp [names]
    · rw [hfront]
  · refine ⟨dir.toList, ?_, rfl, ?_⟩
    · simp
    · rcases hd : dir.toList with - | ⟨c, cs⟩
      · exact absurd (String.toList_eq_nil_iff.mp hd) some
      · rfl

theorem head?_join {dir name : String} {front : List Char}
    (joined : (join dir name).toList = front ++ '/' :: name.toList)
    (head : (front ++ ['/']).head? = dir.toList.head?) :
    (join dir name).toList.head? = dir.toList.head? := by
  rw [joined, ← head]
  cases front <;> rfl

/-- The components of a name within a directory. -/
theorem components_join (dir : String) {name : String} (h : IsName name) :
    components (join dir name) = components dir ++ [name] := by
  by_cases empty : dir = ""
  · subst empty
    have relative := not_startsWith_of_isName h
    rw [startsWith_slash] at relative
    rw [join_empty, components_eq, if_neg relative, names_of_isName h]
    rfl
  · obtain ⟨front, joined, same, head⟩ := exists_join empty h
    rw [components_eq, components_eq, head?_join joined head, joined, names_append, same,
      names_of_isName h]
    split
    · rfl
    · rfl

/-- The last component of a name's path is the name, unless it is a step upwards. -/
theorem fileName?_join (dir : String) {name : String} (h : IsName name) (down : name ≠ "..") :
    fileName? (join dir name) = some name := by
  rw [fileName?, components_join dir h, List.getLast?_concat]
  split
  · next same => exact absurd (Option.some.inj same) h.ne_root
  · next same => exact absurd (Option.some.inj same) down
  · rfl

/-! ### The order of paths -/

/-- A name counts for its bytes in the order of paths. -/
theorem rank_of_isName {name : String} (h : IsName name) (down : name ≠ "..") :
    rank name = 3 :: utf8 name := by
  rw [rank, if_neg h.ne_root, if_neg h.ne_dot, if_neg down]

/-- The last component counts last. -/
theorem getLast?_key_join (dir : String) {name : String} (h : IsName name) (down : name ≠ "..") :
    (key (join dir name)).getLast? = some (3 :: utf8 name) := by
  rw [key, components_join dir h, ← List.append_assoc, List.map_append, List.map_singleton,
    List.getLast?_concat, rank_of_isName h down]

/-! ### Directories above -/

/-- What is dropped from the end of a path names nothing. -/
theorem names_dropIdle (back : List Char) : names (dropIdle back).reverse = names back.reverse := by
  fun_induction dropIdle back with
  | case1 back ih =>
    rw [ih, List.reverse_cons, names_append]
    exact (List.append_nil _).symm
  | case2 back ih =>
    rw [ih, List.reverse_cons, List.reverse_cons, List.reverse_cons, List.append_assoc,
      List.singleton_append, names_append, names_append]
    rfl
  | case3 back => rfl

theorem dropIdle_suffix (back : List Char) : dropIdle back <:+ back := by
  fun_induction dropIdle back with
  | case1 back ih => exact ih.trans (List.suffix_cons ..)
  | case2 back ih => exact ih.trans (List.suffix_cons ..)
  | case3 back => exact List.suffix_refl _

/-- A name is not dropped from the end of a path. -/
theorem dropIdle_of_isName {name : String} (h : IsName name) (rest : List Char) :
    dropIdle (name.toList.reverse ++ rest) = name.toList.reverse ++ rest := by
  have nonempty : name.toList.reverse ≠ [] := by
    intro none
    exact h.ne_empty (String.toList_eq_nil_iff.mp (List.reverse_eq_nil_iff.mp none))
  obtain ⟨c, cs, back⟩ := List.exists_cons_of_ne_nil nonempty
  have slash : '/' ∉ c :: cs := by
    rw [← back, List.mem_reverse]
    exact h.slash
  rw [back, List.cons_append]
  unfold dropIdle
  split
  · next same =>
    obtain ⟨rfl, -⟩ := List.cons_eq_cons.mp same
    exact absurd List.mem_cons_self slash
  · next same =>
    -- a single dot is no name, and no slash stands behind a dot in one
    obtain ⟨rfl, after⟩ := List.cons_eq_cons.mp same
    rcases cs with - | ⟨d, ds⟩
    · refine absurd (String.toList_injective ?_) h.ne_dot
      rw [← List.reverse_reverse name.toList, back]
      rfl
    · obtain ⟨rfl, -⟩ := List.cons_eq_cons.mp after
      exact absurd (List.mem_cons_of_mem _ List.mem_cons_self) slash
  · rfl

/-- The path above a name in a directory: what is left when the name is dropped. -/
theorem parent?_of_toList {path name : String} {rest : List Char} (h : IsName name)
    (split : path.toList.reverse = name.toList.reverse ++ rest)
    (slash : rest = [] ∨ ∃ more, rest = '/' :: more) :
    parent? path = some
      (if (dropIdle rest).isEmpty && path.startsWith "/" then "/"
        else String.ofList (dropIdle rest).reverse) := by
  have nonempty : ¬(name.toList.reverse ++ rest).isEmpty = true := by
    intro none
    have nothing := List.append_eq_nil_iff.mp (List.isEmpty_iff.mp none)
    exact h.ne_empty (String.toList_eq_nil_iff.mp (List.reverse_eq_nil_iff.mp nothing.1))
  have dropped : (name.toList.reverse ++ rest).dropWhile (· != '/') = rest := by
    rw [List.dropWhile_append_of_pos]
    · rcases slash with rfl | ⟨more, rfl⟩
      · rfl
      · rfl
    · intro c hc
      have ne : c ≠ '/' := by
        rintro rfl
        exact h.slash (List.mem_reverse.mp hc)
      simpa using ne
  rw [parent?, split, dropIdle_of_isName h]
  dsimp only
  rw [if_neg nonempty, dropped]

/-- Above a name within a directory lies that directory. -/
theorem components_parent_join (dir : String) {name : String} (h : IsName name) :
    components ((parent? (join dir name)).getD "") = components dir := by
  by_cases empty : dir = ""
  · subst empty
    have relative := not_startsWith_of_isName h
    have outside : ¬((dropIdle []).isEmpty && name.startsWith "/") = true := by
      rw [Bool.and_eq_true]
      exact fun both => relative both.2
    rw [join_empty, parent?_of_toList h (List.append_nil _).symm (.inl rfl), if_neg outside]
    rfl
  · obtain ⟨front, joined, same, head⟩ := exists_join empty h
    have split : (join dir name).toList.reverse = name.toList.reverse ++ '/' :: front.reverse := by
      rw [joined, List.reverse_append, List.reverse_cons, List.append_assoc]
      rfl
    have left : dropIdle ('/' :: front.reverse) = dropIdle front.reverse := by
      rw [dropIdle]
    have above : names (dropIdle front.reverse).reverse = names dir.toList := by
      rw [names_dropIdle, List.reverse_reverse, same]
    rw [parent?_of_toList h split (.inr ⟨_, rfl⟩), Option.getD_some, left, components_eq dir]
    rcases top : dropIdle front.reverse with - | ⟨c, cs⟩
    · -- nothing is left but the root, if the path starts there
      rw [top] at above
      rw [← above]
      by_cases root : dir.toList.head? = some '/'
      · have rooted : (join dir name).startsWith "/" = true := by
          rw [startsWith_slash, head?_join joined head, root]
        rw [rooted, if_pos root]
        show components "/" = ["/"]
        decide +kernel
      · have relative : (join dir name).startsWith "/" = false := by
          rw [Bool.eq_false_iff, Ne, startsWith_slash, head?_join joined head]
          exact root
        rw [relative, if_neg root]
        rfl
    · have first : (String.ofList (c :: cs).reverse).toList.head? = dir.toList.head? := by
        obtain ⟨rest, back⟩ := dropIdle_suffix front.reverse
        have forward : (c :: cs).reverse ++ rest.reverse = front := by
          rw [← List.reverse_append, ← top, back, List.reverse_reverse]
        rw [← head, ← forward, String.toList_ofList, List.reverse_cons]
        rcases cs.reverse with - | ⟨e, es⟩
        · rfl
        · rfl
      rw [top] at above
      show components (String.ofList (c :: cs).reverse) = _
      rw [components_eq, first, String.toList_ofList, above]

end Scrollback.Path
