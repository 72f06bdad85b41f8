import ThrowawayServer.Catalog.ArchiveStore
import ThrowawayServer.Proofs.Catalog.PathJoin
import ThrowawayServer.Proofs.Catalog.Resolution

/-!
# Folders of extracted archives

The words of a folder's name that are words of a label end where the version begins, so the name
gives back the package and the version. Two downloads therefore never share a folder, and their
executables never share a path.
-/

set_option autoImplicit false

namespace ThrowawayServer

namespace Catalog

variable {os os' : Os} {directory directory' label label' : String} {version version' : Version}

theorem words_packageStem (label : String) (version : Version) :
    Text.splitAll '-' (packageStem label version).toList =
      "mongodb".toList :: (labelWords label ++ Text.splitAll '-' version.canonical.toList) := by
  have text : (packageStem label version).toList =
      "mongodb".toList ++ '-' :: (label.toList ++ '-' :: version.canonical.toList) := by
    simp [packageStem]
  rw [text, Text.splitAll_append, Text.splitAll_append,
    Text.splitAll_of_not_mem (show '-' ∉ "mongodb".toList by decide), labelWords]
  rfl

/-- The words of a label end where the version begins. -/
theorem span_words_packageStem (plain : IsPackage os directory label) {input : String}
    (parsed : Version.parse input = .ok version) :
    (Text.splitAll '-' (packageStem label version).toList).takeWhile Version.isWord =
        "mongodb".toList :: labelWords label ∧
      (Text.splitAll '-' (packageStem label version).toList).dropWhile Version.isWord =
        Text.splitAll '-' version.canonical.toList := by
  obtain ⟨first, rest, cut, noWord⟩ := (Version.spells_of_parse parsed).first_not_word
  have words : ∀ word ∈ "mongodb".toList :: labelWords label, Version.isWord word := by
    intro word member
    rcases List.mem_cons.mp member with rfl | member
    · decide
    · exact plain.words word member
  rw [words_packageStem, ← List.cons_append, cut]
  constructor
  · rw [List.takeWhile_append_of_pos words, List.takeWhile_cons_of_neg (by simp [noWord]),
      List.append_nil]
  · rw [List.dropWhile_append_of_pos words, List.dropWhile_cons_of_neg (by simp [noWord])]

theorem packageStem_inj (plain : IsPackage os directory label)
    (plain' : IsPackage os' directory' label') {input input' : String}
    (parsed : Version.parse input = .ok version) (parsed' : Version.parse input' = .ok version')
    (same : packageStem label version = packageStem label' version') :
    os = os' ∧ directory = directory' ∧ label = label' ∧
      version.canonical = version'.canonical := by
  obtain ⟨words, rest⟩ := span_words_packageStem plain parsed
  obtain ⟨words', rest'⟩ := span_words_packageStem plain' parsed'
  rw [same] at words rest
  have sameWords : labelWords label = labelWords label' :=
    (List.cons.inj (words.symm.trans words')).2
  have sameFamily := plain.family
  rw [sameWords, plain'.family] at sameFamily
  obtain ⟨rfl, rfl⟩ := Prod.mk.inj (Option.some.inj sameFamily)
  exact ⟨rfl, rfl, String.toList_inj.mp (Text.splitAll_injective '-' sameWords),
    String.toList_inj.mp (Text.splitAll_injective '-' (rest.symm.trans rest'))⟩

theorem isName_packageStem (plain : IsPackage os directory label)
    (chars : ∀ c ∈ version.canonical.toList, isNameChar c) :
    FilePath.IsName (packageStem label version) ∧ packageStem label version ≠ ".." := by
  have text : (packageStem label version).toList =
      'm' :: ("ongodb-".toList ++ (label.toList ++ '-' :: version.canonical.toList)) := by
    simp [packageStem]
  have first : ∀ other : String,
      other.toList.head? ≠ some 'm' → packageStem label version ≠ other := by
    rintro other head rfl
    rw [text] at head
    exact head rfl
  refine ⟨⟨first _ (by decide), fun slash => ?_, first _ (by decide)⟩, first _ (by decide)⟩
  exact Bool.false_ne_true (isNameChar_packageStem plain chars _ slash)

end Catalog

theorem Program.isName_executableName (program : Program) (os : Os) :
    FilePath.IsName (program.executableName os) ∧ program.executableName os ≠ ".." := by
  cases program <;> cases os <;> exact ⟨⟨by decide, by decide, by decide⟩, by decide⟩

/-- The names in an archive for an operating system: none of them leads out of its folder. -/
structure Artifact.PlainlyNamed (os : Os) (artifact : Artifact) : Prop where
  bin_dir : artifact.binDir = "bin"
  suffix : artifact.executableSuffix = os.executableSuffix
  stem : FilePath.IsName artifact.stem
  no_parent : artifact.stem ≠ ".."

/-- The executables of an archive stand below the root, in the archive's own folder. -/
structure Artifact.StoredInOwnFolder (os : Os) (artifact : Artifact) : Prop where
  below_root : ∀ (store : ArchiveStore) (program : Program),
    FilePath.components (store.expectedPath artifact program) =
      FilePath.components store.root ++
        [.name artifact.stem.toList, .name "bin".toList, .name (program.executableName os).toList]
  after_root : ∀ (store : ArchiveStore) (program : Program),
    ∃ separator, (separator = "" ∨ separator = "/") ∧
      store.expectedPath artifact program =
        store.root ++ separator ++ artifact.stem ++ "/" ++ "bin" ++ "/" ++ program.executableName os
  no_parent : artifact.stem ≠ ".." ∧ ∀ program : Program, program.executableName os ≠ ".."

namespace ArchiveStore

theorem isName_bin : FilePath.IsName "bin" := ⟨by decide, by decide, by decide⟩

theorem expectedPath_eq {os : Os} {artifact : Artifact} (bin : artifact.binDir = "bin")
    (suffix : artifact.executableSuffix = os.executableSuffix) (store : ArchiveStore)
    (program : Program) :
    store.expectedPath artifact program =
      FilePath.join (FilePath.join (FilePath.join store.root artifact.stem) "bin")
        (program.executableName os) := by
  rw [expectedPath, bin, suffix, Program.executableName]

/-- The folder and the names below it stand after the root with a slash between each. -/
theorem expectedPath_eq_append {os : Os} {artifact : Artifact} (plain : artifact.PlainlyNamed os)
    (store : ArchiveStore) (program : Program) :
    store.expectedPath artifact program =
      FilePath.join store.root artifact.stem ++ "/" ++ "bin" ++ "/" ++
        program.executableName os := by
  obtain ⟨separator, -, joined⟩ := plain.stem.join_eq store.root
  rw [expectedPath_eq plain.bin_dir plain.suffix, joined, plain.stem.join_after isName_bin,
    isName_bin.join_after (program.isName_executableName os).1]

theorem storedInOwnFolder {os : Os} {artifact : Artifact} (plain : artifact.PlainlyNamed os) :
    artifact.StoredInOwnFolder os := by
  constructor
  case below_root =>
    intro store program
    rw [expectedPath_eq plain.bin_dir plain.suffix,
      FilePath.components_join_name _ (program.isName_executableName os).1,
      FilePath.components_join_name _ isName_bin, FilePath.components_join_name _ plain.stem]
    simp
  case after_root =>
    intro store program
    obtain ⟨separator, kind, joined⟩ := plain.stem.join_eq store.root
    exact ⟨separator, kind, by rw [expectedPath_eq_append plain, joined]⟩
  case no_parent => exact ⟨plain.no_parent, fun program => (program.isName_executableName os).2⟩

end ArchiveStore

/-- Two archives share a folder only if they are the same download, and else they share no path. -/
structure Artifact.KeptApart (version version' : Version) (artifact artifact' : Artifact) :
    Prop where
  same_download : artifact.stem = artifact'.stem →
    artifact.url = artifact'.url ∧ version.canonical = version'.canonical
  no_shared_path : artifact.url ≠ artifact'.url →
    ∀ (store : ArchiveStore) (program program' : Program),
      FilePath.components (store.expectedPath artifact program) ≠
        FilePath.components (store.expectedPath artifact' program')

namespace Resolver

variable {resolver : Resolver} {input input' : String} {version version' : Version}
  {platform platform' : Platform} {artifact artifact' : Artifact}

theorem plainlyNamed_of_resolve (builtin : resolver.overrideFinder = none)
    (parsed : Version.parse input = .ok version)
    (resolved : resolver.resolve ⟨version, platform⟩ = .ok artifact) :
    artifact.PlainlyNamed platform.os := by
  obtain ⟨directory, label, package, rfl⟩ := exists_package_of_resolve builtin resolved
  have chars := Version.isNameChar_of_parse parsed
  have stem := (Catalog.publishes_package package chars resolver.baseUrl).stem
  obtain ⟨name, no_parent⟩ := Catalog.isName_packageStem package chars
  refine ⟨Artifact.withBaseUrl_binDir _ _, Artifact.withBaseUrl_executableSuffix _ _, ?_, ?_⟩
  · rw [stem]
    exact name
  · rw [stem]
    exact no_parent

theorem stored_of_resolve (builtin : resolver.overrideFinder = none)
    (parsed : Version.parse input = .ok version)
    (resolved : resolver.resolve ⟨version, platform⟩ = .ok artifact) :
    artifact.StoredInOwnFolder platform.os :=
  ArchiveStore.storedInOwnFolder (plainlyNamed_of_resolve builtin parsed resolved)

theorem same_download_of_stem_eq (builtin : resolver.overrideFinder = none)
    (parsed : Version.parse input = .ok version) (parsed' : Version.parse input' = .ok version')
    (resolved : resolver.resolve ⟨version, platform⟩ = .ok artifact)
    (resolved' : resolver.resolve ⟨version', platform'⟩ = .ok artifact')
    (same : artifact.stem = artifact'.stem) :
    artifact.url = artifact'.url ∧ version.canonical = version'.canonical := by
  obtain ⟨directory, label, package, rfl⟩ := exists_package_of_resolve builtin resolved
  obtain ⟨directory', label', package', rfl⟩ := exists_package_of_resolve builtin resolved'
  have chars := Version.isNameChar_of_parse parsed
  have chars' := Version.isNameChar_of_parse parsed'
  have stems : Catalog.packageStem label version = Catalog.packageStem label' version' :=
    ((Catalog.publishes_package package chars resolver.baseUrl).stem.symm.trans same).trans
      (Catalog.publishes_package package' chars' resolver.baseUrl).stem
  obtain ⟨os, rfl, rfl, canonical⟩ := Catalog.packageStem_inj package package' parsed parsed' stems
  refine ⟨?_, canonical⟩
  rw [← String.toList_inj, Catalog.toList_url_package package chars,
    Catalog.toList_url_package package' chars', Catalog.packagePath, Catalog.packagePath, stems,
    show platform.os = platform'.os from os]

theorem resolved_archives_apart (builtin : resolver.overrideFinder = none)
    (parsed : Version.parse input = .ok version) (parsed' : Version.parse input' = .ok version')
    (resolved : resolver.resolve ⟨version, platform⟩ = .ok artifact)
    (resolved' : resolver.resolve ⟨version', platform'⟩ = .ok artifact') :
    Artifact.KeptApart version version' artifact artifact' ∧
      artifact.StoredInOwnFolder platform.os ∧ artifact'.StoredInOwnFolder platform'.os := by
  have stored := stored_of_resolve builtin parsed resolved
  have stored' := stored_of_resolve builtin parsed' resolved'
  have same_download := same_download_of_stem_eq builtin parsed parsed' resolved resolved'
  refine ⟨⟨same_download, ?_⟩, stored, stored'⟩
  intro different store program program' shared
  rw [stored.below_root, stored'.below_root] at shared
  have folders := (List.cons.inj (List.append_cancel_left shared)).1
  exact different (same_download (String.toList_inj.mp (FilePath.Component.name.inj folders))).1

/-- A version with words of a label in it. -/
theorem resolved_archives_apart_on_windows :
    let resolver : Resolver := {}
    let version : Version := ⟨"3.4.0-ssl-3.4.0", ⟨3, 4, 0⟩⟩
    let version' : Version := ⟨"3.4.0", ⟨3, 4, 0⟩⟩
    let platform : Platform := ⟨.windows, .x86, .b64, some .windowsLegacy⟩
    let platform' : Platform := ⟨.windows, .x86, .b64, none⟩
    let artifact : Artifact := ⟨.zip,
      "https://fastdl.mongodb.org/win32/mongodb-win32-x86_64-3.4.0-ssl-3.4.0.zip", "bin", ".exe"⟩
    let artifact' : Artifact := ⟨.zip,
      "https://fastdl.mongodb.org/win32/mongodb-win32-x86_64-2008plus-ssl-3.4.0.zip", "bin", ".exe"⟩
    resolver.overrideFinder = none ∧
      Version.parse "3.4.0-ssl-3.4.0" = .ok version ∧ Version.parse "3.4.0" = .ok version' ∧
      resolver.resolve ⟨version, platform⟩ = .ok artifact ∧
      resolver.resolve ⟨version', platform'⟩ = .ok artifact' ∧
      Artifact.KeptApart version version' artifact artifact' ∧
      artifact.StoredInOwnFolder platform.os ∧ artifact'.StoredInOwnFolder platform'.os := by
  intro resolver version version' platform platform' artifact artifact'
  have parsed : Version.parse "3.4.0-ssl-3.4.0" = .ok version := by rfl
  have parsed' : Version.parse "3.4.0" = .ok version' := by rfl
  have resolved : resolver.resolve ⟨version, platform⟩ = .ok artifact :=
    eq_ok_of_toOption (by decide +kernel)
  have resolved' : resolver.resolve ⟨version', platform'⟩ = .ok artifact' :=
    eq_ok_of_toOption (by decide +kernel)
  exact ⟨rfl, parsed, parsed', resolved, resolved',
    resolved_archives_apart rfl parsed parsed' resolved resolved'⟩

end Resolver

end ThrowawayServer
