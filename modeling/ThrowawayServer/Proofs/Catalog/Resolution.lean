import ThrowawayServer.Catalog.Resolver
import ThrowawayServer.Proofs.Catalog.Package
import ThrowawayServer.Proofs.Text.Tokens

/-!
# What resolving comes to

Resolving a parsed version by the rules of an operating system either fails with the reason of the
first match, or gives an archive whose URL and names follow from the package and the version alone.
-/

set_option autoImplicit false

namespace ThrowawayServer

theorem eq_ok_of_toOption {α ε : Type} {answer : Except ε α} {value : α}
    (answered : answer.toOption = some value) : answer = .ok value := by
  cases answer with
  | error error => cases answered
  | ok found => exact congrArg Except.ok (Option.some.inj answered)

@[simp] theorem Rule.decide_reject (label : String) (matcher : Match) (d : Distribution) :
    Rule.decide ⟨label, matcher, .reject⟩ d = .error (.unsupported d.toText label) := rfl

@[simp] theorem Rule.decide_template (label : String) (matcher : Match) (template : UrlTemplate)
    (d : Distribution) :
    Rule.decide ⟨label, matcher, .find (.template template)⟩ d =
      .ok (template.artifact d.version) := rfl

/-!
## Parts of a URL
-/

namespace Artifact

variable {artifact : Artifact}

/-- What stands before a slash has no say in what follows the last one. -/
theorem lastSegment_append (before after : List Char) :
    lastSegment (before ++ '/' :: after) = lastSegment after := by
  have taken (letters rest : List Char) :
      (letters ++ '/' :: rest).takeWhile (· ≠ '/') = letters.takeWhile (· ≠ '/') := by
    induction letters with
    | nil => rfl
    | cons c letters ih =>
        rw [List.cons_append, List.takeWhile_cons, List.takeWhile_cons, ih]
  rw [lastSegment, List.reverse_append, List.reverse_cons, List.append_assoc,
    List.singleton_append, taken, lastSegment]

theorem lastSegment_of_not_mem {name : List Char} (plain : '/' ∉ name) :
    lastSegment name = name := by
  have taken : ∀ c ∈ name.reverse, decide (c ≠ '/') = true := by
    intro c member
    have inside := List.mem_reverse.mp member
    exact decide_eq_true fun slash => plain (slash ▸ inside)
  rw [lastSegment, List.takeWhile_eq_self_iff.mpr taken, List.reverse_reverse]

@[simp] theorem withBaseUrl_archive (artifact : Artifact) (baseUrl : String) :
    (artifact.withBaseUrl baseUrl).archive = artifact.archive := by
  unfold withBaseUrl
  split <;> rfl

@[simp] theorem withBaseUrl_binDir (artifact : Artifact) (baseUrl : String) :
    (artifact.withBaseUrl baseUrl).binDir = artifact.binDir := by
  unfold withBaseUrl
  split <;> rfl

@[simp] theorem withBaseUrl_executableSuffix (artifact : Artifact) (baseUrl : String) :
    (artifact.withBaseUrl baseUrl).executableSuffix = artifact.executableSuffix := by
  unfold withBaseUrl
  split <;> rfl

theorem isAbsolute_of_no_colon (plain : ':' ∉ artifact.url.toList) :
    artifact.isAbsolute = false := by
  have colon : ∀ scheme ∈ schemes, ':' ∈ scheme.toList := by decide
  rw [isAbsolute, List.any_eq_false]
  intro scheme listed starts
  exact plain ((List.isPrefixOf_iff_prefix.mp starts).subset (colon scheme listed))

end Artifact

theorem Version.isNameChar_of_parse {input : String} {version : Version}
    (parsed : Version.parse input = .ok version) :
    ∀ c ∈ version.canonical.toList, isNameChar c := by
  intro c inside
  have char := (spells_of_parse parsed).chars c inside
  simp only [isSuffixChar, Bool.or_eq_true, decide_eq_true_eq] at char
  simp only [isNameChar, Bool.or_eq_true, decide_eq_true_eq]
  tauto

/-!
## Packages for a version
-/

namespace Catalog

/-- The name of the folder in a package for a version. -/
def packageStem (label : String) (version : Version) : String :=
  "mongodb-" ++ label ++ "-" ++ version.canonical

/-- Where a package for a version is found below a base URL. -/
def packagePath (os : Os) (directory label : String) (version : Version) : String :=
  directory ++ "/" ++ packageStem label version ++ (package os directory label).archive.extension

variable {os : Os} {directory label : String} {version : Version}

theorem toList_packageTemplate (os : Os) (directory label : String) :
    (package os directory label).template.toList =
      (directory.toList ++ "/mongodb-".toList ++ label.toList ++ ['-']) ++
        ('\x7b' :: "version\x7d".toList ++
          (package os directory label).archive.extension.toList) := by
  simp [package, UrlTemplate.placeholder, ToString.toString]

/-- The only brace of a template opens its placeholder. -/
theorem render_package (plain : IsPackage os directory label) (version : Version) :
    (package os directory label).render version = packagePath os directory label version := by
  have beforePlain : '\x7b' ∉ directory.toList ++ "/mongodb-".toList ++ label.toList ++ ['-'] := by
    simp only [List.mem_append, not_or]
    refine ⟨⟨⟨fun inside => ?_, by decide⟩, fun inside => ?_⟩, by decide⟩
    · exact Bool.false_ne_true (plain.directory_chars _ inside)
    · exact Bool.false_ne_true (plain.label_chars _ inside)
  have afterPlain : '\x7b' ∉ (package os directory label).archive.extension.toList := by
    cases (package os directory label).archive <;> decide
  have rendered := Text.replaceAll_once "version\x7d".toList version.canonical.toList
    beforePlain afterPlain
  rw [← toList_packageTemplate] at rendered
  rw [UrlTemplate.render, ← String.toList_inj, String.toList_ofList]
  refine Eq.trans rendered ?_
  simp [packagePath, packageStem]

theorem isNameChar_packageStem (plain : IsPackage os directory label)
    (chars : ∀ c ∈ version.canonical.toList, isNameChar c) :
    ∀ c ∈ (packageStem label version).toList, isNameChar c := by
  have product : ∀ c ∈ "mongodb-".toList, isNameChar c := List.all_eq_true.mp (by decide)
  intro c inside
  simp only [packageStem, String.toList_append, List.mem_append] at inside
  rcases inside with ((inside | inside) | inside) | inside
  · exact product c inside
  · exact plain.label_chars c inside
  · rw [List.mem_singleton.mp inside]
    rfl
  · exact chars c inside

theorem isNameChar_extension (archive : ArchiveType) :
    ∀ c ∈ archive.extension.toList, isNameChar c :=
  List.all_eq_true.mp (by cases archive <;> decide)

/-- Besides the characters of names a path has only its slash. -/
theorem packagePath_chars (plain : IsPackage os directory label)
    (chars : ∀ c ∈ version.canonical.toList, isNameChar c) :
    ∀ c ∈ (packagePath os directory label version).toList, isNameChar c ∨ c = '/' := by
  intro c inside
  simp only [packagePath, String.toList_append, List.mem_append] at inside
  rcases inside with ((inside | inside) | inside) | inside
  · exact .inl (plain.directory_chars c inside)
  · exact .inr (List.mem_singleton.mp inside)
  · exact .inl (isNameChar_packageStem plain chars c inside)
  · exact .inl (isNameChar_extension _ c inside)

end Catalog

/-!
## Published archives
-/

/-- An archive that stands for a package and a version below a base URL. -/
structure Artifact.Publishes (baseUrl : String) (os : Os) (directory label : String)
    (version : Version) (artifact : Artifact) : Prop where
  url : artifact.url = String.ofList (Text.trimEndBy (· = '/') baseUrl.toList) ++ "/" ++
    directory ++ "/" ++ artifact.fileName
  one_directory : directory ≠ "" ∧ '/' ∉ directory.toList
  file_name : artifact.fileName =
    "mongodb-" ++ label ++ "-" ++ version.canonical ++ artifact.archive.extension
  no_placeholder : Text.contains UrlTemplate.placeholder.toList
    ("/" ++ directory ++ "/" ++ artifact.fileName).toList = false
  on_windows : os = .windows →
    artifact.archive = .zip ∧ artifact.archive.extension = ".zip" ∧
      artifact.executableSuffix = ".exe"
  elsewhere : os ≠ .windows →
    artifact.archive = .tgz ∧ artifact.archive.extension = ".tgz" ∧ artifact.executableSuffix = ""
  stem : artifact.stem = "mongodb-" ++ label ++ "-" ++ version.canonical
  bin_dir : artifact.binDir = "bin"

/-- What resolving by the rules of an operating system comes to. -/
inductive Catalog.Answers (baseUrl : String) (d : Distribution) :
    Except ResolveError Artifact → Prop where
  | unsupported {rule : Rule} (first : (builtinTable d.platform.os).firstMatch? d = some rule)
      (rejects : rule.action = .reject)
      (worded : rule.label ≠ s!"no rule in the {(builtinTable d.platform.os).name} table matched") :
      Answers baseUrl d (.error (.unsupported d.toText rule.label))
  | published {rule : Rule} {directory label : String} {artifact : Artifact}
      (first : (builtinTable d.platform.os).firstMatch? d = some rule)
      (names : rule.action = .find (.template (package d.platform.os directory label)))
      (publishes : artifact.Publishes baseUrl d.platform.os directory label d.version) :
      Answers baseUrl d (.ok artifact)

namespace Catalog

variable {os : Os} {directory label : String} {version : Version}

theorem slash_not_mem_file (plain : IsPackage os directory label)
    (chars : ∀ c ∈ version.canonical.toList, isNameChar c) (archive : ArchiveType) :
    '/' ∉ (packageStem label version ++ archive.extension).toList := by
  rw [String.toList_append, List.mem_append]
  rintro (inside | inside)
  · exact Bool.false_ne_true (isNameChar_packageStem plain chars _ inside)
  · exact Bool.false_ne_true (isNameChar_extension archive _ inside)

theorem toList_url_package (plain : IsPackage os directory label)
    (chars : ∀ c ∈ version.canonical.toList, isNameChar c) (baseUrl : String) :
    (((package os directory label).artifact version).withBaseUrl baseUrl).url.toList =
      Text.trimEndBy (· = '/') baseUrl.toList ++
        '/' :: (packagePath os directory label version).toList := by
  have relative : ((package os directory label).artifact version).isAbsolute = false := by
    apply Artifact.isAbsolute_of_no_colon
    rw [UrlTemplate.artifact, Artifact.new, render_package plain]
    intro colon
    rcases packagePath_chars plain chars _ colon with name | slash
    · exact Bool.false_ne_true name
    · cases slash
  have first : ∀ c ∈ (packagePath os directory label version).toList.head?,
      decide (c = '/') = false := by
    obtain ⟨c, rest, start⟩ := List.exists_cons_of_ne_nil
      (fun empty => plain.directory_nonempty (String.toList_eq_nil_iff.mp empty))
    intro c' head
    simp only [packagePath, String.toList_append, start, List.cons_append, List.head?_cons,
      Option.mem_some_iff] at head
    subst head
    have name := plain.directory_chars c (start ▸ List.mem_cons_self)
    rw [decide_eq_false_iff_not]
    rintro rfl
    exact Bool.false_ne_true name
  rw [Artifact.withBaseUrl, relative, if_neg Bool.false_ne_true, String.toList_ofList,
    Artifact.joinUrl, UrlTemplate.artifact, Artifact.new, render_package plain,
    Text.trimStartBy_of_head first]

theorem lastSegment_url_package (plain : IsPackage os directory label)
    (chars : ∀ c ∈ version.canonical.toList, isNameChar c) (baseUrl : String) :
    Artifact.lastSegment
        (((package os directory label).artifact version).withBaseUrl baseUrl).url.toList =
      (packageStem label version ++ (package os directory label).archive.extension).toList := by
  rw [toList_url_package plain chars]
  have cut : Text.trimEndBy (· = '/') baseUrl.toList ++
      '/' :: (packagePath os directory label version).toList =
        (Text.trimEndBy (· = '/') baseUrl.toList ++ '/' :: directory.toList) ++
          '/' :: (packageStem label version ++
            (package os directory label).archive.extension).toList := by
    simp [packagePath]
  rw [cut, Artifact.lastSegment_append,
    Artifact.lastSegment_of_not_mem (slash_not_mem_file plain chars _)]

theorem publishes_package (plain : IsPackage os directory label)
    (chars : ∀ c ∈ version.canonical.toList, isNameChar c) (baseUrl : String) :
    (((package os directory label).artifact version).withBaseUrl baseUrl).Publishes baseUrl os
      directory label version := by
  have url := toList_url_package plain chars baseUrl
  have segment := lastSegment_url_package plain chars baseUrl
  have archive : (((package os directory label).artifact version).withBaseUrl baseUrl).archive =
      (package os directory label).archive := Artifact.withBaseUrl_archive _ _
  generalize resolved :
    ((package os directory label).artifact version).withBaseUrl baseUrl = artifact at *
  have file : artifact.fileName =
      packageStem label version ++ (package os directory label).archive.extension := by
    rw [Artifact.fileName, segment, String.ofList_toList]
  constructor
  case url =>
    rw [file, ← String.toList_inj, url]
    simp [packagePath]
  case one_directory =>
    exact ⟨plain.directory_nonempty,
      fun inside => Bool.false_ne_true (plain.directory_chars _ inside)⟩
  case file_name => rw [file, archive, packageStem]
  case no_placeholder =>
    have path : ("/" ++ directory ++ "/" ++ artifact.fileName).toList =
        '/' :: (packagePath os directory label version).toList := by
      simp [file, packagePath]
    rw [path]
    apply Text.contains_eq_false (show '\x7b' ∈ UrlTemplate.placeholder.toList by decide)
    apply List.not_mem_cons_of_ne_of_not_mem (by decide)
    intro brace
    rcases packagePath_chars plain chars _ brace with name | slash
    · exact Bool.false_ne_true name
    · cases slash
  case on_windows =>
    rintro rfl
    subst resolved
    simp [package, UrlTemplate.artifact, Artifact.new, ArchiveType.extension, Os.executableSuffix]
  case elsewhere =>
    intro other
    subst resolved
    cases os with
    | windows => exact absurd rfl other
    | linux | macOs | solaris | freeBsd =>
        simp [package, UrlTemplate.artifact, Artifact.new, ArchiveType.extension,
          Os.executableSuffix]
  case stem =>
    rw [Artifact.stem, segment, archive, String.toList_append, Text.stripEnd?_append,
      Option.getD_some, String.ofList_toList, packageStem]
  case bin_dir =>
    subst resolved
    exact Artifact.withBaseUrl_binDir _ _

end Catalog

theorem Resolver.exists_package_of_resolve {resolver : Resolver}
    (builtin : resolver.overrideFinder = none) {d : Distribution} {artifact : Artifact}
    (resolved : resolver.resolve d = .ok artifact) :
    ∃ directory label, Catalog.IsPackage d.platform.os directory label ∧
      ((Catalog.package d.platform.os directory label).artifact d.version).withBaseUrl
        resolver.baseUrl = artifact := by
  obtain ⟨rule, first, serves, decided⟩ := Catalog.resolve_builtinTable d.platform.os d
  rw [resolve, lookUp, builtin] at resolved
  simp only [decided] at resolved
  cases serves with
  | rejects worded =>
      rw [Rule.decide_reject] at resolved
      cases resolved
  | @names _ directory label _ package =>
      rw [Rule.decide_template] at resolved
      exact ⟨directory, label, package, Except.ok.inj resolved⟩

theorem Resolver.resolve_answers {input : String} {version : Version}
    (parsed : Version.parse input = .ok version) (platform : Platform) (baseUrl : String) :
    Catalog.Answers baseUrl ⟨version, platform⟩
      (({ baseUrl } : Resolver).resolve ⟨version, platform⟩) := by
  obtain ⟨rule, first, serves, decided⟩ :=
    Catalog.resolve_builtinTable platform.os ⟨version, platform⟩
  rw [resolve, lookUp, decided]
  cases serves with
  | @rejects reason matcher worded =>
      refine .unsupported first rfl fun same => ?_
      have starts : unmatchedStart <+: reason.toList := by
        rw [show reason = _ from same, String.toList_append, String.toList_append,
          List.append_assoc]
        exact List.prefix_append _ _
      rw [List.isPrefixOf_iff_prefix.mpr starts] at worded
      cases worded
  | names package =>
      exact .published first rfl
        (Catalog.publishes_package package (Version.isNameChar_of_parse parsed) baseUrl)

/-- A release tag of another operating system and a base URL with slashes at its end. -/
theorem Resolver.resolve_answers_on_windows :
    let version : Version := ⟨"4.0.0-rc0", ⟨4, 0, 0⟩⟩
    let platform : Platform := ⟨.windows, .x86, .b64, some .ubuntu1804⟩
    let baseUrl := "http://localhost:8080/mirror//"
    Version.parse " 4.0.0-rc0" = .ok version ∧
      Catalog.Answers baseUrl ⟨version, platform⟩
        (({ baseUrl } : Resolver).resolve ⟨version, platform⟩) := by
  intro version platform baseUrl
  have parsed : Version.parse " 4.0.0-rc0" = .ok version := by rfl
  exact ⟨parsed, Resolver.resolve_answers parsed platform baseUrl⟩

end ThrowawayServer
