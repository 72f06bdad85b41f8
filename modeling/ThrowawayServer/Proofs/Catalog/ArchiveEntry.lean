import ThrowawayServer.Catalog.ArchiveStore
import ThrowawayServer.Proofs.Catalog.PathJoin

/-!
# Entries of archives and executables on disk

An archive names an executable by its entry below the top folder, a store looks for it by joining the
parts one by one. Both lead to the same place if the archive names a directory for its executables.
Without one the entry begins with its slash, so that it is taken for an absolute path and stands at
the root of the file system.
-/

set_option autoImplicit false

namespace ThrowawayServer

namespace FilePath

open Text

/-- Both paths denote the same, part by part. -/
def SamePath (left right : String) : Prop := components left = components right

instance (left right : String) : Decidable (SamePath left right) :=
  inferInstanceAs (Decidable (components left = components right))

theorem components_of_letter {path : String} {first : Char} {rest : List Char}
    (text : path.toList = first :: rest) (noSlash : first ≠ '/') (noDot : first ≠ '.') :
    components path = names path.toList := by
  obtain ⟨piece, pieces, cut⟩ := List.exists_cons_of_ne_nil (splitAll_ne_nil '/' rest)
  have start : beginning (splitAll '/' path.toList) = [] := by
    rw [text, splitAll_cons noSlash, cut, List.modifyHead_cons]
    unfold beginning
    split <;> simp_all
  rw [components_eq, start]
  rfl

theorem components_slash (path : String) :
    components ("/" ++ path) = .root :: names path.toList := by
  obtain ⟨piece, pieces, cut⟩ := List.exists_cons_of_ne_nil (splitAll_ne_nil '/' path.toList)
  have text : ("/" ++ path).toList = '/' :: path.toList := by simp
  have names_eq : names path.toList = namesOf (splitAll '/' path.toList) := rfl
  rw [components_eq, text, splitAll_mark, names_eq, cut]
  rfl

theorem join_slash (base path : String) : join base ("/" ++ path) = "/" ++ path := by
  have absolute : isAbsolute ("/" ++ path) = true := isAbsolute_append (by decide) path
  rw [join, if_pos absolute]

/-- The empty path adds a slash at most. -/
theorem components_join_empty (base : String) : components (join base "") = components base := by
  rw [components_join_of_plain rfl rfl]
  exact List.append_nil _

theorem join_ne_empty (base : String) {path : String} (nonempty : path ≠ "") :
    join base path ≠ "" := by
  intro empty
  rw [join] at empty
  split at empty
  · exact nonempty empty
  · split at empty
    · exact nonempty (String.append_eq_empty_iff.mp empty).2
    · exact nonempty (String.append_eq_empty_iff.mp empty).2

end FilePath

namespace ArchiveStore

open FilePath

/-- The folder of an extracted archive. -/
def folder (store : ArchiveStore) (artifact : Artifact) : String :=
  join store.root artifact.stem

/-- The entry of an executable put below the folder of its archive. -/
def entryPath (store : ArchiveStore) (artifact : Artifact) (program : Program) : String :=
  join (store.folder artifact) (artifact.executableEntry program.baseName)

/-- The names of programs begin with a letter, so that an executable is never an absolute path. -/
theorem executable_plain (program : Program) (suffix : String) :
    components (program.baseName ++ suffix) = names (program.baseName ++ suffix).toList ∧
      isAbsolute (program.baseName ++ suffix) = false := by
  have named : program.baseName ≠ "" ∧ isAbsolute program.baseName = false ∧
      ∃ letters, program.baseName.toList = 'm' :: letters := by
    cases program <;> exact ⟨by decide, rfl, _, rfl⟩
  obtain ⟨nonempty, relative, letters, text⟩ := named
  have begins : (program.baseName ++ suffix).toList = 'm' :: (letters ++ suffix.toList) := by
    rw [String.toList_append, text, List.cons_append]
  constructor
  · exact components_of_letter begins (by decide) (by decide)
  · rw [isAbsolute_append nonempty, relative]

theorem components_expectedPath (store : ArchiveStore) (artifact : Artifact) (program : Program) :
    components (store.expectedPath artifact program) =
      components (join (store.folder artifact) artifact.binDir) ++
        names (program.baseName ++ artifact.executableSuffix).toList := by
  obtain ⟨plain, relative⟩ := executable_plain program artifact.executableSuffix
  exact components_join_of_plain plain relative _

theorem executableEntry_eq (artifact : Artifact) (executable : String) :
    artifact.executableEntry executable =
      artifact.binDir ++ ("/" ++ (executable ++ artifact.executableSuffix)) := by
  rw [Artifact.executableEntry, ← String.toList_inj]
  simp [ToString.toString]

variable {store : ArchiveStore} {artifact : Artifact} {program : Program}

theorem components_entryPath (named : artifact.binDir ≠ "") :
    components (store.entryPath artifact program) =
      components (join (store.folder artifact) artifact.binDir) ++
        names (program.baseName ++ artifact.executableSuffix).toList := by
  have filled := join_ne_empty (store.folder artifact) named
  rw [entryPath, executableEntry_eq, join_append _ named, ← String.append_assoc,
    components_append_slash filled]

theorem entryPath_of_no_directory (unnamed : artifact.binDir = "") :
    store.entryPath artifact program =
      "/" ++ (program.baseName ++ artifact.executableSuffix) := by
  rw [entryPath, executableEntry_eq, unnamed, String.empty_append, join_slash]

/-- Where the entry of an executable leads to, beside the place where a store looks for it. -/
structure EntryPlaced (store : ArchiveStore) (artifact : Artifact) (program : Program) : Prop where
  same_iff : SamePath (store.expectedPath artifact program) (store.entryPath artifact program) ↔
    artifact.binDir ≠ "" ∨ components (store.folder artifact) = [.root]
  outside : artifact.binDir = "" →
    store.entryPath artifact program = "/" ++ (program.baseName ++ artifact.executableSuffix)

theorem entryPath_placed (store : ArchiveStore) (artifact : Artifact) (program : Program) :
    store.EntryPlaced artifact program := by
  constructor
  case outside => exact entryPath_of_no_directory
  case same_iff =>
    by_cases unnamed : artifact.binDir = ""
    · rw [SamePath, components_expectedPath, entryPath_of_no_directory unnamed, components_slash,
        unnamed, components_join_empty, ← List.singleton_append, List.append_left_inj]
      simp
    · rw [SamePath, components_expectedPath, components_entryPath unnamed]
      simp [unnamed]

/-- The executable of an archive without a directory for it is looked for in the archive's folder,
and its entry leads out of it. -/
theorem entryPath_leaves_folder :
    let store : ArchiveStore := ⟨"/opt/mongo"⟩
    let artifact : Artifact := ⟨.tgz, "a.tar.tgz", "", ""⟩
    store.expectedPath artifact .mongod = "/opt/mongo/a.tar/mongod" ∧
      artifact.executableEntry Program.mongod.baseName = "/mongod" ∧
      store.entryPath artifact .mongod = "/mongod" ∧
      ¬ SamePath (store.expectedPath artifact .mongod) (store.entryPath artifact .mongod) := by
  refine ⟨by decide +kernel, by decide +kernel, by decide +kernel, by decide +kernel⟩

end ArchiveStore

end ThrowawayServer
