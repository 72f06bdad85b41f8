import ThrowawayServer.Proofs.Version.Grammar

/-!
# The text of a version

A parsed version is `latest` or begins with a core of numerals. Few characters occur in its text, and
the text up to the first hyphen is never a word with a letter of its own other than `latest`: this
is what keeps a version apart from the words before it in a file name.
-/

set_option autoImplicit false

namespace ThrowawayServer

/-- A character of numerals with dots between them. -/
def Text.isCoreChar (c : Char) : Bool := c.isDigit || c = '.' || c = '+'

namespace Version

variable {text core suffix : List Char} {numeric : NumericVersion}

theorem isCoreChar_of_readCore? (read : readCore? core = some numeric) :
    ∀ c ∈ core, Text.isCoreChar c := by
  intro c inside
  rcases (readCore?_eq_some_iff.mp read).char c inside with digit | rfl | rfl
  · simp [Text.isCoreChar, digit]
  · rfl
  · rfl

/-- What the text of a parsed version can be, with its triple. -/
inductive Spells : List Char → NumericVersion → Prop where
  | latest : Spells "latest".toList .latest
  | plain {core : List Char} {numeric : NumericVersion} (read : readCore? core = some numeric) :
      Spells core numeric
  | suffixed {core suffix : List Char} {numeric : NumericVersion}
      (read : readCore? core = some numeric) (nonempty : suffix ≠ [])
      (chars : ∀ c ∈ suffix, isSuffixChar c) : Spells (core ++ '-' :: suffix) numeric

theorem Numbered.spells (numbered : Numbered text numeric) : Spells text numeric := by
  cases numbered with
  | plain read => exact .plain (readCore?_eq_some_iff.mpr read)
  | suffixed read nonempty chars =>
      exact .suffixed (readCore?_eq_some_iff.mpr read) nonempty chars

theorem spells_of_parse {input : String} {version : Version} (parsed : parse input = .ok version) :
    Spells version.canonical.toList version.numeric := by
  have read := parse_eq_iff.mp parsed
  generalize Text.trim input.toList = text at read
  cases read with
  | latest word => exact .latest
  | numbered numbered => simpa using numbered.spells

/-- Whether a text between hyphens can be told from the start of a version. -/
def isWord (text : List Char) : Bool := text ≠ "latest".toList && !text.all Text.isCoreChar

theorem isWord_of_readCore? (read : readCore? core = some numeric) : isWord core = false := by
  have digits : core.all Text.isCoreChar := List.all_eq_true.mpr (isCoreChar_of_readCore? read)
  rw [isWord, digits, Bool.not_true, Bool.and_false]

namespace Spells

theorem chars (spells : Spells text numeric) : ∀ c ∈ text, isSuffixChar c || c = '+' := by
  have core_char : ∀ c, Text.isCoreChar c → isSuffixChar c || c = '+' := by
    intro c core
    simp only [Text.isCoreChar, Bool.or_eq_true, decide_eq_true_eq] at core
    rcases core with (digit | rfl) | rfl
    · simp [isSuffixChar, Char.isAlphanum, digit]
    · rfl
    · rfl
  cases spells with
  | latest => exact List.all_eq_true.mp (by decide)
  | plain read => exact fun c inside => core_char c (isCoreChar_of_readCore? read c inside)
  | suffixed read nonempty chars =>
      intro c inside
      rcases List.mem_append.mp inside with inside | inside
      · exact core_char c (isCoreChar_of_readCore? read c inside)
      · rcases List.mem_cons.mp inside with rfl | inside
        · rfl
        · simp [chars c inside]

theorem first_not_word (spells : Spells text numeric) :
    ∃ first rest, Text.splitAll '-' text = first :: rest ∧ isWord first = false := by
  cases spells with
  | latest => exact ⟨_, _, rfl, by decide⟩
  | plain read =>
      have unhyphenated := (readCore?_eq_some_iff.mp read).hyphen_not_mem
      exact ⟨text, [], Text.splitAll_of_not_mem unhyphenated, isWord_of_readCore? read⟩
  | @suffixed core suffix _ read =>
      have unhyphenated := (readCore?_eq_some_iff.mp read).hyphen_not_mem
      refine ⟨core, Text.splitAll '-' suffix, ?_, isWord_of_readCore? read⟩
      rw [Text.splitAll_append, Text.splitAll_of_not_mem unhyphenated]
      rfl

end Spells

end Version

end ThrowawayServer
