import ThrowawayServer.CommandLine.Session

/-!
# Reading what is printed about an archive

An archive is printed on four lines or as one JSON text. What stands between the quotes of such a text
can be read in one way only, and so whoever reads the lines learns the archive and the place of
the server that they were printed for.
-/

set_option autoImplicit false

namespace ThrowawayServer

namespace Json

/-- What a letter after a backslash stands for. -/
def shortForms : List (Char × Char) :=
  [('\x22', '\x22'), ('\\', '\\'), ('/', '/'), ('n', '\n'), ('r', '\r'), ('t', '\t'),
    ('b', '\x08'), ('f', '\x0C')]

def hexDigit? (c : Char) : Option Nat :=
  if c.isDigit then some (c.toNat - '0'.toNat)
  else if 'a' ≤ c ∧ c ≤ 'f' then some (c.toNat - 'a'.toNat + 10)
  else if 'A' ≤ c ∧ c ≤ 'F' then some (c.toNat - 'A'.toNat + 10)
  else none

def hexNumber? (digits : List Char) : Option Nat :=
  digits.foldlM (fun number digit => (hexDigit? digit).map (16 * number + ·)) 0

/-- What stands between quotes for a character. -/
inductive StandsFor : Char → List Char → Prop where
  | itself {c : Char} (printable : 0x20 ≤ c.toNat) (unquoted : c ≠ '\x22') (plain : c ≠ '\\') :
      StandsFor c [c]
  | short {c letter : Char} (known : shortForms.lookup letter = some c) :
      StandsFor c ['\\', letter]
  | numbered {c : Char} {digits : List Char} (four : digits.length = 4)
      (number : hexNumber? digits = some c.toNat) : StandsFor c ('\\' :: 'u' :: digits)

/-- What stands between quotes for a text. -/
inductive InsideQuotes : List Char → List Char → Prop where
  | nil : InsideQuotes [] []
  | cons {c : Char} {text part body : List Char} (first : StandsFor c part)
      (rest : InsideQuotes text body) : InsideQuotes (c :: text) (part ++ body)

inductive Quotes (text : String) : String → Prop where
  | intro {body : List Char} (inside : InsideQuotes text.toList body) :
      Quotes text ("\"" ++ String.ofList body ++ "\"")

variable {c d : Char} {part other text text' body body' rest rest' : List Char}

theorem StandsFor.append_inj (first : StandsFor c part) (second : StandsFor d other)
    (same : part ++ rest = other ++ rest') : c = d ∧ rest = rest' := by
  cases first with
  | itself _ _ plain =>
      cases second with
      | itself => simpa using same
      | short | numbered => simp [plain] at same
  | short known =>
      cases second with
      | itself _ _ plain => simp [plain.symm] at same
      | short known' =>
          simp only [List.cons_append, List.nil_append, List.cons.injEq, true_and] at same
          obtain ⟨rfl, rfl⟩ := same
          rw [known, Option.some.injEq] at known'
          exact ⟨known', rfl⟩
      | numbered =>
          simp only [List.cons_append, List.nil_append, List.cons.injEq, true_and] at same
          rw [same.1] at known
          cases known
  | numbered four number =>
      cases second with
      | itself _ _ plain => simp [plain.symm] at same
      | short known =>
          simp only [List.cons_append, List.nil_append, List.cons.injEq, true_and] at same
          rw [← same.1] at known
          cases known
      | numbered four' number' =>
          simp only [List.cons_append, List.cons.injEq, true_and] at same
          obtain ⟨rfl, rfl⟩ := List.append_inj same (four.trans four'.symm)
          rw [number, Option.some.injEq] at number'
          exact ⟨Char.toNat_inj.mp number', rfl⟩

theorem StandsFor.append_ne_quote (first : StandsFor c part) :
    part ++ body ≠ '\x22' :: rest := by
  cases first with
  | itself _ unquoted _ => simp [unquoted]
  | short | numbered => simp

/-- The quote at the end of a text is the first one that stands for itself. -/
theorem InsideQuotes.append_inj (first : InsideQuotes text body) (second : InsideQuotes text' body')
    (same : body ++ '\x22' :: rest = body' ++ '\x22' :: rest') : text = text' ∧ rest = rest' := by
  induction first generalizing text' body' with
  | nil =>
      cases second with
      | nil => simpa using same
      | cons first' rest' =>
          rw [List.append_assoc] at same
          exact absurd same.symm first'.append_ne_quote
  | cons first _ ih =>
      rw [List.append_assoc] at same
      cases second with
      | nil => exact absurd same first.append_ne_quote
      | cons first' second =>
          rw [List.append_assoc] at same
          obtain ⟨rfl, same⟩ := first.append_inj first' same
          obtain ⟨rfl, same⟩ := ih second same
          exact ⟨rfl, same⟩

theorem Quotes.append_inj {text text' quoted quoted' rest rest' : String}
    (first : Quotes text quoted) (second : Quotes text' quoted')
    (same : quoted ++ rest = quoted' ++ rest') : text = text' ∧ rest = rest' := by
  obtain ⟨inside⟩ := first
  obtain ⟨inside'⟩ := second
  rw [← String.toList_inj] at same
  simp only [String.toList_append, String.toList_ofList, List.append_assoc] at same
  have bodies := List.append_cancel_left same
  obtain ⟨texts, rests⟩ := inside.append_inj inside' bodies
  exact ⟨String.toList_inj.mp texts, String.toList_inj.mp rests⟩

/-!
## What is printed
-/

theorem hexNumber?_control : ∀ n < 0x20,
    let digits := List.replicate (4 - (Nat.toDigits 16 n).length) '0' ++ Nat.toDigits 16 n
    digits.length = 4 ∧ hexNumber? digits = some n := by
  decide

theorem standsFor_escape (c : Char) : StandsFor c (escape c).toList := by
  unfold escape
  iterate 7
    split
    · next same => subst same; exact .short rfl
  next unquoted plain _ _ _ _ _ =>
    split
    · next control =>
      obtain ⟨four, number⟩ := hexNumber?_control c.toNat control
      simpa using StandsFor.numbered four number
    · next printable =>
      simpa using StandsFor.itself (Nat.le_of_not_lt printable) unquoted plain

theorem quotes_quote (text : String) : Quotes text (quote text) := by
  have inside (chars : List Char) :
      InsideQuotes chars (chars.flatMap fun c => (escape c).toList) := by
    induction chars with
    | nil => exact .nil
    | cons c chars ih => exact .cons (standsFor_escape c) ih
  have quoted : quote text =
      "\"" ++ String.ofList (text.toList.flatMap fun c => (escape c).toList) ++ "\"" := by
    rw [quote, ← String.toList_inj]
    simp [String.toList_join, List.flatMap_map]
  rw [quoted]
  exact .intro (inside _)

end Json

theorem ArchiveType.eq_of_name_eq {left right : ArchiveType} (same : left.name = right.name) :
    left = right := by
  cases left <;> cases right <;> first | rfl | exact absurd same (by decide)

namespace Resolution

/-- Lines that show an archive and where the server is in it, as plain lines or as a JSON text. -/
inductive ShownBy (resolution : Resolution) (path : String) : Bool → List String → Prop where
  | plain :
      ShownBy resolution path false
        [resolution.distribution.toText, "  url:        " ++ resolution.artifact.url,
          "  archive:    " ++ resolution.artifact.archive.name, "  executable: " ++ path]
  | json {archive binDir suffix url distribution executable : String}
      (archives : Json.Quotes resolution.artifact.archive.name archive)
      (binDirs : Json.Quotes resolution.artifact.binDir binDir)
      (suffixes : Json.Quotes resolution.artifact.executableSuffix suffix)
      (urls : Json.Quotes resolution.artifact.url url)
      (distributions : Json.Quotes resolution.distribution.toText distribution)
      (paths : Json.Quotes path executable) :
      ShownBy resolution path true
        ["\x7b\n  \"artifact\": \x7b\n    \"archive\": " ++ archive ++
          ",\n    \"bin_dir\": " ++ binDir ++
          ",\n    \"executable_suffix\": " ++ suffix ++
          ",\n    \"url\": " ++ url ++
          "\n  \x7d,\n  \"distribution\": " ++ distribution ++
          ",\n  \"executable\": " ++ executable ++ "\n\x7d"]

theorem pretty_object_eq (archive binDir suffix url distribution path : String) :
    (Json.object [("artifact", .object [("archive", .text archive), ("bin_dir", .text binDir),
        ("executable_suffix", .text suffix), ("url", .text url)]),
      ("distribution", .text distribution), ("executable", .text path)]).pretty =
      "\x7b\n  \"artifact\": \x7b\n    \"archive\": " ++ Json.quote archive ++
        ",\n    \"bin_dir\": " ++ Json.quote binDir ++
        ",\n    \"executable_suffix\": " ++ Json.quote suffix ++
        ",\n    \"url\": " ++ Json.quote url ++
        "\n  \x7d,\n  \"distribution\": " ++ Json.quote distribution ++
        ",\n  \"executable\": " ++ Json.quote path ++ "\n\x7d" := by
  have breaks : Json.newLine 0 = "\n" ∧ Json.newLine 1 = "\n  " ∧ Json.newLine 2 = "\n    " := by
    decide
  have names : ∀ name ∈ ["artifact", "archive", "bin_dir", "executable_suffix", "url",
      "distribution", "executable"], Json.quote name = "\"" ++ name ++ "\"" := by
    decide
  simp only [List.forall_mem_cons] at names
  rw [← String.toList_inj]
  simp [Json.pretty, Json.prettyAt, Json.prettyFields, breaks, names]

theorem lines_shownBy (resolution : Resolution) (json : Bool) :
    resolution.ShownBy resolution.executable json (resolution.lines json) := by
  cases json with
  | false => exact .plain
  | true =>
      rw [lines, if_pos rfl, artifactJson, pretty_object_eq]
      exact .json (Json.quotes_quote _) (Json.quotes_quote _) (Json.quotes_quote _)
        (Json.quotes_quote _) (Json.quotes_quote _) (Json.quotes_quote _)

/-- The same lines do not show another archive, nor another place of the server. -/
theorem ShownBy.read_alike {resolution other : Resolution} {path otherPath : String} {json : Bool}
    {lines lines' : List String} (first : resolution.ShownBy path json lines)
    (second : other.ShownBy otherPath json lines') (same : lines = lines') :
    other.artifact.archive = resolution.artifact.archive ∧
      other.artifact.url = resolution.artifact.url ∧ otherPath = path ∧
        (json = true → other.artifact = resolution.artifact) := by
  cases first with
  | plain =>
      cases second with
      | plain =>
          simp only [List.cons.injEq, String.append_right_inj, and_true] at same
          obtain ⟨-, urls, archives, paths⟩ := same
          exact ⟨(ArchiveType.eq_of_name_eq archives).symm, urls.symm, paths.symm, nofun⟩
  | json archives binDirs suffixes urls distributions paths =>
      cases second with
      | json archives' binDirs' suffixes' urls' distributions' paths' =>
          simp only [List.cons.injEq, and_true, String.append_assoc, String.append_right_inj] at same
          obtain ⟨name, same⟩ := archives.append_inj archives' same
          obtain ⟨binDir, same⟩ := binDirs.append_inj binDirs' ((String.append_right_inj _).mp same)
          obtain ⟨suffix, same⟩ :=
            suffixes.append_inj suffixes' ((String.append_right_inj _).mp same)
          obtain ⟨url, same⟩ := urls.append_inj urls' ((String.append_right_inj _).mp same)
          obtain ⟨-, same⟩ :=
            distributions.append_inj distributions' ((String.append_right_inj _).mp same)
          obtain ⟨place, -⟩ := paths.append_inj paths' ((String.append_right_inj _).mp same)
          have archive := ArchiveType.eq_of_name_eq name
          refine ⟨archive.symm, url.symm, place.symm, fun _ => ?_⟩
          rw [Artifact.mk.injEq]
          exact ⟨archive.symm, url.symm, binDir.symm, suffix.symm⟩

end Resolution

end ThrowawayServer
