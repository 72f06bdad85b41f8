import ThrowawayServer.Catalog.Rule
import ThrowawayServer.Proofs.Text.Tokens
import ThrowawayServer.Proofs.Version.Canonical

/-!
# Templates filled in

A template falls into the pieces between its placeholders, and a version is put between them. The
text of a version lacks the braces of a placeholder and has a character that the word in them lacks,
so that nothing is left to fill in. The pieces are the same for all versions, and so a template with
a placeholder tells versions apart.
-/

set_option autoImplicit false

namespace ThrowawayServer

namespace Version

theorem exists_foreign_char {text : List Char} {numeric : NumericVersion}
    (spells : Spells text numeric) : ∃ c ∈ text, c ∉ UrlTemplate.placeholder.toList := by
  have dot : '.' ∉ UrlTemplate.placeholder.toList := by decide
  cases spells with
  | latest => exact ⟨'l', by decide, by decide⟩
  | plain read => exact ⟨'.', (readCore?_eq_some_iff.mp read).dot_mem, dot⟩
  | suffixed read =>
      have inside := (readCore?_eq_some_iff.mp read).dot_mem
      exact ⟨'.', List.mem_append_left _ inside, dot⟩

theorem unlike_placeholder {input : String} {version : Version}
    (parsed : parse input = .ok version) :
    Text.Unlike UrlTemplate.placeholder.toList version.canonical.toList := by
  have spells := spells_of_parse parsed
  constructor
  case filled => decide
  case foreign => exact exists_foreign_char spells
  case first_absent =>
    intro c first inside
    cases first
    exact Bool.false_ne_true (spells.chars _ inside)
  case last_absent =>
    intro c last inside
    cases last
    exact Bool.false_ne_true (spells.chars _ inside)

end Version

namespace UrlTemplate

variable {t : UrlTemplate} {pieces : List (List Char)}

theorem placeholder_filled : placeholder.toList ≠ [] := by decide

theorem toList_render (cut : Text.CutAt placeholder.toList t.template.toList pieces)
    (version : Version) :
    (t.render version).toList = version.canonical.toList.intercalate pieces := by
  rw [render, String.toList_ofList, cut.replaceAll_eq placeholder_filled]

theorem not_infix_render {input : String} {version : Version}
    (parsed : Version.parse input = .ok version) (t : UrlTemplate) :
    ¬ placeholder.toList <:+: (t.render version).toList := by
  obtain ⟨pieces, cut⟩ := Text.exists_cutAt placeholder_filled t.template.toList
  rw [toList_render cut]
  exact (Version.unlike_placeholder parsed).not_infix_intercalate cut.nonempty
    (cut.not_infix_of_mem placeholder_filled)

theorem render_of_no_placeholder (t : UrlTemplate)
    (absent : ¬ placeholder.toList <:+: t.template.toList) (version : Version) :
    t.render version = t.template := by
  rw [← String.toList_inj, toList_render (.last absent), List.intercalate_singleton]

theorem canonical_eq_of_render_eq (occurs : placeholder.toList <:+: t.template.toList)
    {version other : Version} (same : t.render version = t.render other) :
    version.canonical = other.canonical := by
  obtain ⟨pieces, cut⟩ := Text.exists_cutAt placeholder_filled t.template.toList
  obtain ⟨first, second, rest, rfl⟩ := cut.two_pieces occurs
  have joined := congrArg String.toList same
  rw [toList_render cut, toList_render cut] at joined
  exact String.toList_inj.mp (Text.eq_of_intercalate_eq joined)

/-- How a template with these pieces between its placeholders is filled in. -/
structure FilledIn (t : UrlTemplate) (pieces : List (List Char)) : Prop where
  cut : Text.CutAt placeholder.toList t.template.toList pieces
  no_other_cut : ∀ others, Text.CutAt placeholder.toList t.template.toList others → others = pieces
  template : placeholder.toList.intercalate pieces = t.template.toList
  rendered : ∀ version,
    (t.render version).toList = version.canonical.toList.intercalate pieces
  none_left : ∀ input version, Version.parse input = .ok version →
    ¬ placeholder.toList <:+: (t.render version).toList
  settled : ∀ input version, Version.parse input = .ok version →
    ∀ again, ({ t with template := t.render version } : UrlTemplate).render again =
      t.render version
  versions_apart : placeholder.toList <:+: t.template.toList →
    ∀ version other, t.render version = t.render other → version.canonical = other.canonical

theorem exists_filledIn (t : UrlTemplate) : ∃ pieces, t.FilledIn pieces := by
  obtain ⟨pieces, cut⟩ := Text.exists_cutAt placeholder_filled t.template.toList
  refine ⟨pieces, ?_⟩
  constructor
  case cut => exact cut
  case no_other_cut => exact fun others other => cut.unique other
  case template => exact cut.intercalate_eq
  case rendered => exact toList_render cut
  case none_left => exact fun input version parsed => not_infix_render parsed t
  case settled =>
    intro input version parsed again
    have absent := not_infix_render parsed t
    exact render_of_no_placeholder { t with template := t.render version } absent again
  case versions_apart =>
    intro occurs version other same
    exact canonical_eq_of_render_eq occurs same

/-- Braces that would close around a version of the word `version` stay as they are. -/
example :
    (⟨.tgz, .linux, "\x7bver\x7bversion\x7dsion\x7d/\x7b\x7d"⟩ : UrlTemplate).render
      ⟨"4.0.0-rc0", ⟨4, 0, 0⟩⟩ = "\x7bver4.0.0-rc0sion\x7d/\x7b\x7d" := by
  decide +kernel

end UrlTemplate

end ThrowawayServer
