import ThrowawayServer.Catalog.ArchiveStore
import ThrowawayServer.Proofs.Catalog.Resolution

/-!
# Archives below a mirror

A relative URL is put behind a mirror's base URL with one slash between them. It is absolute then
only if the base is, because a scheme ends in two slashes, and the one between the base and the path
has no slash beside it. What follows the last slash stays, and with it the folder of the archive.
-/

set_option autoImplicit false

namespace ThrowawayServer

namespace Text

variable {mark : Char} {text core : List Char}

/-- What is left of a text without the marks at its end. -/
structure WithoutEnd (mark : Char) (text core : List Char) : Prop where
  cut : ∃ count, text = core ++ List.replicate count mark
  last_stays : core.getLast? ≠ some mark

/-- What is left of a text without the marks at its start. -/
structure WithoutStart (mark : Char) (text core : List Char) : Prop where
  cut : ∃ count, text = List.replicate count mark ++ core
  first_stays : core.head? ≠ some mark

theorem withoutStart_trimStartBy (mark : Char) (text : List Char) :
    WithoutStart mark text (trimStartBy (· = mark) text) := by
  constructor
  case cut =>
    have marks : ∀ c ∈ text.takeWhile (· = mark), c = mark := by
      intro c member
      have satisfies := List.mem_takeWhile_imp member
      exact of_decide_eq_true satisfies
    refine ⟨(text.takeWhile (· = mark)).length, ?_⟩
    rw [← List.eq_replicate_of_mem marks]
    exact List.takeWhile_append_dropWhile.symm
  case first_stays =>
    intro first
    have stays := dropWhile_head_stays (· = mark) text mark first
    exact of_decide_eq_false stays rfl

theorem WithoutStart.reverse (cut : WithoutStart mark text.reverse core) :
    WithoutEnd mark text core.reverse := by
  obtain ⟨⟨count, joined⟩, first_stays⟩ := cut
  constructor
  case cut =>
    refine ⟨count, ?_⟩
    rw [← List.reverse_reverse text, joined, List.reverse_append, List.reverse_replicate]
  case last_stays =>
    rw [List.getLast?_reverse]
    exact first_stays

theorem withoutEnd_trimEndBy (mark : Char) (text : List Char) :
    WithoutEnd mark text (trimEndBy (· = mark) text) :=
  (withoutStart_trimStartBy mark text.reverse).reverse

end Text

namespace Artifact

variable {artifact : Artifact} {mirror path : List Char}

theorem lastSegment_replicate_append (count : Nat) (path : List Char) :
    lastSegment (List.replicate count '/' ++ path) = lastSegment path := by
  cases count with
  | zero => rfl
  | succ count =>
      rw [List.replicate_succ', List.append_assoc, List.singleton_append, lastSegment_append]

/-!
## Schemes
-/

/-- The URL begins with one of the schemes of downloads. -/
def NamesScheme (url : List Char) : Prop :=
  "http://".toList <+: url ∨ "https://".toList <+: url ∨ "file://".toList <+: url

theorem isAbsolute_iff : artifact.isAbsolute = true ↔ NamesScheme artifact.url.toList := by
  simp only [isAbsolute, schemes, NamesScheme, List.any_cons, List.any_nil, Bool.or_false,
    Bool.or_eq_true, List.isPrefixOf_iff_prefix]

theorem isAbsolute_eq_false_iff :
    artifact.isAbsolute = false ↔ ¬ NamesScheme artifact.url.toList := by
  rw [← isAbsolute_iff, Bool.not_eq_true]

/-- The two slashes of a scheme are its last characters, so that a cut before one of them leaves the
other at the cut. -/
theorem cut_beside_slash {name start rest : List Char} (plain : '/' ∉ name)
    (cut : name ++ ['/', '/'] = start ++ '/' :: rest) :
    start.getLast? = some '/' ∨ rest.head? = some '/' := by
  rcases List.append_eq_append_iff.mp cut with ⟨letters, started, left⟩ | ⟨letters, named, left⟩
  · match letters, left with
    | [], left =>
        cases left
        exact .inr rfl
    | [c], left =>
        cases left
        rw [started, List.getLast?_concat]
        exact .inl rfl
    | _ :: _ :: letters, left => simp at left
  · cases letters with
    | nil =>
        cases left
        exact .inr rfl
    | cons c letters =>
        obtain ⟨rfl, -⟩ := List.cons.inj left
        exact absurd (named ▸ List.mem_append_right start List.mem_cons_self) plain

theorem scheme_prefix_of_join (name : List Char) (plain : '/' ∉ name)
    (unended : mirror.getLast? ≠ some '/') (unbegun : path.head? ≠ some '/')
    (starts : name ++ ['/', '/'] <+: mirror ++ '/' :: path) : name ++ ['/', '/'] <+: mirror := by
  rcases List.prefix_or_prefix_of_prefix starts (List.prefix_append _ _) with within | ⟨rest, cut⟩
  · exact within
  · rw [← cut, List.prefix_append_right_inj, List.prefix_cons_iff] at starts
    rcases starts with rfl | ⟨letters, rfl, ⟨others, rfl⟩⟩
    · exact ⟨[], by rw [← cut, List.append_nil, List.append_nil]⟩
    · rcases cut_beside_slash plain cut.symm with ended | begun
      · exact absurd ended unended
      · refine absurd ?_ unbegun
        rw [List.head?_append, begun]
        rfl

/-- No scheme comes about where a path is put behind a base. -/
theorem namesScheme_join_iff (unended : mirror.getLast? ≠ some '/')
    (unbegun : path.head? ≠ some '/') :
    NamesScheme (mirror ++ '/' :: path) ↔ NamesScheme mirror := by
  constructor
  · intro names
    rcases names with http | https | file
    · left
      exact scheme_prefix_of_join "http:".toList (by decide) unended unbegun http
    · right; left
      exact scheme_prefix_of_join "https:".toList (by decide) unended unbegun https
    · right; right
      exact scheme_prefix_of_join "file:".toList (by decide) unended unbegun file
  · intro names
    have grows {scheme : List Char} (starts : scheme <+: mirror) :
        scheme <+: mirror ++ '/' :: path :=
      starts.trans (List.prefix_append mirror ('/' :: path))
    exact names.imp grows (Or.imp grows grows)

/-!
## Relative URLs
-/

/-- What putting an archive below a base URL comes to. `mirror` is the base without the slashes at
its end, `path` the archive's URL without those at its start. -/
structure PutBelow (artifact : Artifact) (base : String) (mirror path : List Char) : Prop where
  base_cut : Text.WithoutEnd '/' base.toList mirror
  url_cut : Text.WithoutStart '/' artifact.url.toList path
  kept : NamesScheme artifact.url.toList → artifact.withBaseUrl base = artifact
  joined : ¬ NamesScheme artifact.url.toList →
    artifact.withBaseUrl base = { artifact with url := String.ofList (mirror ++ '/' :: path) }
  absolute_iff : ¬ NamesScheme artifact.url.toList →
    ((artifact.withBaseUrl base).isAbsolute = true ↔ NamesScheme mirror)
  settled : ¬ NamesScheme artifact.url.toList → NamesScheme mirror →
    ∀ again, (artifact.withBaseUrl base).withBaseUrl again = artifact.withBaseUrl base
  file_name : (artifact.withBaseUrl base).fileName = artifact.fileName
  stem : (artifact.withBaseUrl base).stem = artifact.stem
  place : ∀ (store : ArchiveStore) (program : Program),
    store.expectedPath (artifact.withBaseUrl base) program = store.expectedPath artifact program

theorem withBaseUrl_of_isAbsolute (absolute : artifact.isAbsolute = true) (base : String) :
    artifact.withBaseUrl base = artifact := by
  rw [withBaseUrl, if_pos absolute]

theorem withBaseUrl_of_relative (relative : artifact.isAbsolute = false) (base : String) :
    artifact.withBaseUrl base =
      { artifact with url := String.ofList (joinUrl base.toList artifact.url.toList) } := by
  rw [withBaseUrl, relative, if_neg Bool.false_ne_true]

theorem lastSegment_withBaseUrl (artifact : Artifact) (base : String) :
    lastSegment (artifact.withBaseUrl base).url.toList = lastSegment artifact.url.toList := by
  cases absolute : artifact.isAbsolute with
  | true => rw [withBaseUrl_of_isAbsolute absolute]
  | false =>
      obtain ⟨count, cut⟩ := (Text.withoutStart_trimStartBy '/' artifact.url.toList).cut
      rw [withBaseUrl_of_relative absolute, String.toList_ofList, joinUrl, lastSegment_append]
      conv_rhs => rw [cut, lastSegment_replicate_append]

theorem fileName_withBaseUrl (artifact : Artifact) (base : String) :
    (artifact.withBaseUrl base).fileName = artifact.fileName := by
  rw [fileName, fileName, lastSegment_withBaseUrl]

theorem stem_withBaseUrl (artifact : Artifact) (base : String) :
    (artifact.withBaseUrl base).stem = artifact.stem := by
  rw [stem, stem, lastSegment_withBaseUrl, withBaseUrl_archive]

theorem exists_putBelow (artifact : Artifact) (base : String) :
    ∃ mirror path, artifact.PutBelow base mirror path := by
  have base_cut := Text.withoutEnd_trimEndBy '/' base.toList
  have url_cut := Text.withoutStart_trimStartBy '/' artifact.url.toList
  have absolute_iff (relative : ¬ NamesScheme artifact.url.toList) :
      (artifact.withBaseUrl base).isAbsolute = true ↔
        NamesScheme (Text.trimEndBy (· = '/') base.toList) := by
    rw [isAbsolute_iff, withBaseUrl_of_relative (isAbsolute_eq_false_iff.mpr relative),
      String.toList_ofList]
    exact namesScheme_join_iff base_cut.last_stays url_cut.first_stays
  refine ⟨Text.trimEndBy (· = '/') base.toList, Text.trimStartBy (· = '/') artifact.url.toList, ?_⟩
  constructor
  case base_cut => exact base_cut
  case url_cut => exact url_cut
  case kept => exact fun absolute => withBaseUrl_of_isAbsolute (isAbsolute_iff.mpr absolute) base
  case joined =>
    exact fun relative => withBaseUrl_of_relative (isAbsolute_eq_false_iff.mpr relative) base
  case absolute_iff => exact absolute_iff
  case settled =>
    intro relative named again
    exact withBaseUrl_of_isAbsolute ((absolute_iff relative).mpr named) again
  case file_name => exact fileName_withBaseUrl artifact base
  case stem => exact stem_withBaseUrl artifact base
  case place =>
    intro store program
    rw [ArchiveStore.expectedPath, ArchiveStore.expectedPath, stem_withBaseUrl, withBaseUrl_binDir,
      withBaseUrl_executableSuffix]

/-- Slashes are cut out of the scheme itself if nothing follows it. -/
example :
    (⟨.tgz, "//linux/a.tgz", "bin", ""⟩ : Artifact).withBaseUrl "file:///" =
      ⟨.tgz, "file:/linux/a.tgz", "bin", ""⟩ := by
  decide +kernel

end Artifact

end ThrowawayServer
