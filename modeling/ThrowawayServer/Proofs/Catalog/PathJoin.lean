import ThrowawayServer.Catalog.FilePath
import ThrowawayServer.Proofs.Text.Cutting

/-!
# Paths below a path

A path put below another denotes what the other denotes, followed by its own names, provided that it
is relative. The first piece of a path tells how it begins, and joining keeps the first piece.
-/

set_option autoImplicit false

namespace ThrowawayServer.FilePath

open Text

/-- The names among pieces: what is neither empty nor a single dot. -/
def namesOf (pieces : List (List Char)) : List Component :=
  (pieces.filter fun part => !part.isEmpty && part ≠ ['.']).map .name

/-- How a path with these pieces begins. -/
def beginning : List (List Char) → List Component
  | [] :: _ :: _ => [.root]
  | ['.'] :: _ => [.currentDir]
  | _ => []

theorem components_eq (path : String) :
    components path =
      beginning (splitAll '/' path.toList) ++ namesOf (splitAll '/' path.toList) := by
  have listed : names path.toList = namesOf (splitAll '/' path.toList) := rfl
  rw [components, listed]
  generalize splitAll '/' path.toList = pieces
  unfold beginning
  split <;> simp

theorem namesOf_append (left right : List (List Char)) :
    namesOf (left ++ right) = namesOf left ++ namesOf right := by
  rw [namesOf, List.filter_append, List.map_append]
  rfl

/-- If there are at least two pieces, only the first one counts. -/
theorem beginning_append {left right other : List (List Char)} (first : left ≠ [])
    (more : right ≠ []) (others : other ≠ []) :
    beginning (left ++ right) = beginning (left ++ other) := by
  obtain ⟨piece, pieces, rfl⟩ := List.exists_cons_of_ne_nil first
  obtain ⟨next, rest, joined⟩ :=
    List.exists_cons_of_ne_nil (List.append_ne_nil_of_right_ne_nil pieces more)
  obtain ⟨next', rest', joined'⟩ :=
    List.exists_cons_of_ne_nil (List.append_ne_nil_of_right_ne_nil pieces others)
  rw [List.cons_append, List.cons_append, joined, joined']
  unfold beginning
  split <;> split <;> simp_all

theorem beginning_of_nonempty {text : List Char} (nonempty : text ≠ []) {right : List (List Char)} :
    beginning (splitAll '/' text ++ right) = beginning (splitAll '/' text) := by
  cases text with
  | nil => exact absurd rfl nonempty
  | cons c rest =>
      by_cases slash : c = '/'
      · subst slash
        obtain ⟨piece, pieces, cut⟩ := List.exists_cons_of_ne_nil (splitAll_ne_nil '/' rest)
        rw [splitAll_mark, cut]
        rfl
      · obtain ⟨piece, pieces, cut⟩ := List.exists_cons_of_ne_nil (splitAll_ne_nil '/' rest)
        rw [splitAll_cons slash, cut, List.modifyHead_cons, List.cons_append]
        unfold beginning
        split <;> split <;> simp_all

/-- What is written behind a slash adds its names, whatever it begins with. -/
theorem components_append_slash {base : String} (nonempty : base ≠ "") (path : String) :
    components (base ++ "/" ++ path) = components base ++ names path.toList := by
  have text : base.toList ≠ [] := fun empty => nonempty (String.toList_eq_nil_iff.mp empty)
  have names_eq : names path.toList = namesOf (splitAll '/' path.toList) := rfl
  have cut : (base ++ "/" ++ path).toList = base.toList ++ '/' :: path.toList := by simp
  rw [components_eq, components_eq, cut, splitAll_append, namesOf_append,
    beginning_of_nonempty text, names_eq, List.append_assoc]

theorem components_join {base path : String} (nonempty : base ≠ "")
    (relative : isAbsolute path = false) :
    components (join base path) = components base ++ names path.toList := by
  have filled : base.isEmpty = false := by
    rw [Bool.eq_false_iff]
    exact fun empty => nonempty (String.isEmpty_iff.mp empty)
  have names_eq : names path.toList = namesOf (splitAll '/' path.toList) := rfl
  rw [join, relative, if_neg Bool.false_ne_true, filled, Bool.false_or]
  by_cases slash : base.toList.getLast? = some '/'
  · obtain ⟨start, split⟩ := List.getLast?_eq_some_iff.mp slash
    rw [if_pos (decide_eq_true slash), names_eq, components_eq, components_eq,
      String.toList_append, split, List.append_assoc, List.singleton_append, splitAll_append,
      splitAll_append, namesOf_append, namesOf_append,
      beginning_append (splitAll_ne_nil '/' start) (splitAll_ne_nil '/' path.toList)
        (splitAll_ne_nil '/' [])]
    simp [namesOf, splitAll]
  · rw [if_neg (by simpa using slash), components_append_slash nonempty]

/-- A path that denotes just its names adds them to any other, the empty one included. -/
theorem components_join_of_plain {path : String} (plain : components path = names path.toList)
    (relative : isAbsolute path = false) (base : String) :
    components (join base path) = components base ++ names path.toList := by
  by_cases empty : base = ""
  · subst empty
    have alone : join "" path = path := by simp [join, relative]
    rw [alone, plain]
    rfl
  · exact components_join empty relative

theorem isAbsolute_append {path : String} (nonempty : path ≠ "") (rest : String) :
    isAbsolute (path ++ rest) = isAbsolute path := by
  obtain ⟨first, letters, text⟩ := List.exists_cons_of_ne_nil
    fun empty => nonempty (String.toList_eq_nil_iff.mp empty)
  rw [isAbsolute, isAbsolute, String.toList_append, text]
  rfl

/-- What follows a path has no say in how it is put below another. -/
theorem join_append (base : String) {path : String} (nonempty : path ≠ "") (rest : String) :
    join base (path ++ rest) = join base path ++ rest := by
  rw [join, join, isAbsolute_append nonempty]
  split
  · rfl
  · split
    · rw [String.append_assoc]
    · rw [String.append_assoc, String.append_assoc, String.append_assoc]

/-- A text that denotes a single name. -/
structure IsName (name : String) : Prop where
  nonempty : name ≠ ""
  no_slash : '/' ∉ name.toList
  no_dot : name ≠ "."

theorem IsName.relative {name : String} (plain : IsName name) : isAbsolute name = false := by
  rw [isAbsolute, decide_eq_false_iff_not]
  exact fun slash => plain.no_slash (List.mem_of_mem_head? slash)

theorem IsName.join_eq {name : String} (plain : IsName name) (base : String) :
    ∃ separator, (separator = "" ∨ separator = "/") ∧
      join base name = base ++ separator ++ name := by
  rw [join, plain.relative, if_neg Bool.false_ne_true]
  split
  · exact ⟨"", .inl rfl, by rw [String.append_empty]⟩
  · exact ⟨"/", .inr rfl, rfl⟩

/-- A name never ends in a slash, so that the next one is put after a slash. -/
theorem IsName.join_after {name next : String} (plain : IsName name) (later : IsName next)
    (start : String) : join (start ++ name) next = start ++ name ++ "/" ++ next := by
  obtain ⟨letters, last, text⟩ := (List.eq_nil_or_concat name.toList).resolve_left
    fun empty => plain.nonempty (String.toList_eq_nil_iff.mp empty)
  rw [List.concat_eq_append] at text
  have noSlash : last ≠ '/' := by
    rintro rfl
    exact plain.no_slash (text ▸ List.mem_append_right _ List.mem_cons_self)
  have filled : (start ++ name).isEmpty = false := by
    rw [Bool.eq_false_iff]
    intro empty
    exact plain.nonempty (String.append_eq_empty_iff.mp (String.isEmpty_iff.mp empty)).2
  have ends : (start ++ name).toList.getLast? = some last := by
    rw [String.toList_append, text, ← List.append_assoc, List.getLast?_concat]
  rw [join, later.relative, if_neg Bool.false_ne_true, filled, ends,
        if_neg (by simpa using noSlash)]

theorem IsName.names_eq {name : String} (plain : IsName name) :
    names name.toList = [.name name.toList] := by
  have filled : name.toList ≠ [] := fun empty => plain.nonempty (String.toList_eq_nil_iff.mp empty)
  have dotless : name.toList ≠ ['.'] := fun dot => plain.no_dot (String.toList_inj.mp dot)
  simp [names, splitAll_of_not_mem plain.no_slash, filled, dotless]

theorem IsName.components_eq {name : String} (plain : IsName name) :
    components name = names name.toList := by
  have dotless : name.toList ≠ ['.'] := fun dot => plain.no_dot (String.toList_inj.mp dot)
  have first : beginning [name.toList] = [] := by
    unfold beginning
    split <;> simp_all
  rw [FilePath.components_eq, splitAll_of_not_mem plain.no_slash, first,
    ← splitAll_of_not_mem plain.no_slash]
  rfl

theorem components_join_name (base : String) {name : String} (plain : IsName name) :
    components (join base name) = components base ++ [.name name.toList] := by
  rw [components_join_of_plain plain.components_eq plain.relative, plain.names_eq]

end ThrowawayServer.FilePath
