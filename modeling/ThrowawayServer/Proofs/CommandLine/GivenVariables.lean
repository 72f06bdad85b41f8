import Mathlib.Data.List.Forall2
import ThrowawayServer.CommandLine.Parse
import ThrowawayServer.Proofs.Platform.Override
import ThrowawayServer.Proofs.Text.Cutting

/-!
# The variables that a command line gives

Which arguments give variables can be told without reading anything else: they are the values of one
option, and every option takes the argument after it, whatever that looks like. A command line that
is accepted gives one variable for each of them, in their order.
-/

set_option autoImplicit false

namespace ThrowawayServer

theorem OptionSpec.eq_of_put_value {α β ε : Type} {spellings : List String}
    {read : String → Except ε β} {message : ε → String} {get : α → Option β} {put : β → α → α}
    {text : String} {given next : α}
    (taken : (OptionSpec.value spellings read message get put).put text given = .ok next) :
    ∃ value, next = put value given := by
  dsimp only [OptionSpec.value] at taken
  cases answer : read text with
  | error error =>
      rw [answer] at taken
      cases taken
  | ok value =>
      rw [answer] at taken
      cases taken
      exact ⟨value, rfl⟩

namespace CommandSpec

variable {α : Type} {spec : CommandSpec α} {option : OptionSpec α} {argument value : String}
  {arguments : List String} {reading next last : ArgumentReading α}
  {command : Option ReachedCommand}

theorem takeOption_ok (taken : takeOption option argument value reading = .ok next) :
    ∃ given, option.put value reading.given = .ok given ∧ next = { reading with given } := by
  rw [takeOption] at taken
  split at taken
  · rename_i given put
    cases taken
    split at put
    · cases put
    · exact ⟨given, put, rfl⟩
  · cases taken

theorem takePositional_ok (taken : takePositional value reading = .ok next) :
    ∃ positional ∈ reading.positionals, positional.put value reading.given = .ok next.given ∧
      next.wantsHelp = reading.wantsHelp ∧ next.optionsEnded = reading.optionsEnded ∧
        next.positionals ⊆ reading.positionals := by
  rw [takePositional] at taken
  cases left : reading.positionals with
  | nil =>
      rw [left] at taken
      cases taken
  | cons positional rest =>
      rw [left] at taken
      dsimp only at taken
      cases put : positional.put value reading.given with
      | error reason =>
          rw [put] at taken
          cases taken
      | ok given =>
          rw [put] at taken
          cases taken
          refine ⟨positional, List.mem_cons_self, put, rfl, rfl, ?_⟩
          by_cases repeats : positional.repeats <;> simp [repeats]

/-- Without commands that could take the help, asking for it is never forgotten. -/
theorem readFrom_wantsHelp (commandless : spec.commands = [])
    (read : spec.readFrom arguments reading = .ok (last, command)) (asked : reading.wantsHelp) :
    last.wantsHelp := by
  fun_induction readFrom spec arguments reading with
  | case1 =>
      cases read
      exact asked
  | case2 _ _ _ _ ih => exact ih read rfl
  | case3 _ _ _ _ ih => exact ih read asked
  | case4 | case7 | case8 | case11 => cases read
  | case5 _ _ _ _ _ _ unasked | case6 _ _ _ _ _ unasked => exact absurd asked unasked
  | case9 _ _ _ _ _ reached => simp [commandless] at reached
  | case10 _ _ _ _ _ _ _ taken ih =>
      obtain ⟨-, -, -, help, -, -⟩ := takePositional_ok taken
      exact ih read (help.trans asked)

end CommandSpec

namespace RunArguments

theorem readVariable_eq_ok_iff {text name value : String} :
    readVariable text = .ok (name, value) ↔
      name ≠ "" ∧ '=' ∉ name.toList ∧ text = name ++ "=" ++ value := by
  have joined : text = name ++ "=" ++ value ↔
      text.toList = name.toList ++ '=' :: value.toList := by
    rw [← String.toList_inj]
    simp
  rw [joined, and_comm (a := '=' ∉ _), ← Text.splitFirst_eq_some_iff, readVariable]
  cases Text.splitFirst '=' text.toList with
  | none => simp
  | some pieces =>
      obtain ⟨before, after⟩ := pieces
      dsimp only
      constructor
      · intro read
        split at read
        · cases read
        · cases read
          simp_all
      · rintro ⟨named, cut⟩
        cases cut
        rw [if_neg (by simpa using named), String.ofList_toList, String.ofList_toList]

/-- The texts that a command line gives for variables. -/
def variableTexts : List String → List String
  | [] => []
  | [_] => []
  | argument :: value :: rest =>
    if argument = "--" then []
    else if argument.startsWith "-" then
      if argument ∈ ["-e", "--env"] then value :: variableTexts rest else variableTexts rest
    else variableTexts (value :: rest)

theorem variableTexts_word {argument : String} (plain : ¬ argument.startsWith "-")
    (rest : List String) : variableTexts (argument :: rest) = variableTexts rest := by
  cases rest with
  | nil => rfl
  | cons value rest =>
      have unending : argument ≠ "--" := by
        rintro rfl
        exact plain (by decide +kernel)
      rw [variableTexts, if_neg unending, if_neg plain]

theorem variableTexts_option {argument : String} (unending : argument ≠ "--")
    (dashed : argument.startsWith "-") (value : String) (rest : List String) :
    variableTexts (argument :: value :: rest) =
      (if argument ∈ ["-e", "--env"] then [value] else []) ++ variableTexts rest := by
  rw [variableTexts, if_neg unending, if_pos dashed]
  split <;> rfl

theorem variableTexts_end (rest : List String) : variableTexts ("--" :: rest) = [] := by
  cases rest <;> rfl

/-- Each of some texts gives a binding. -/
def GiveBindings : List String → List (String × String) → Prop :=
  List.Forall₂ fun text binding => readVariable text = .ok binding

theorem env_of_put {option : OptionSpec RunArguments} {argument text : String}
    {given next : RunArguments} (known : option ∈ spec.options)
    (spelled : argument ∈ option.spellings) (put : option.put text given = .ok next) :
    ∃ bindings, GiveBindings (if argument ∈ ["-e", "--env"] then [text] else []) bindings ∧
      next.env = given.env ++ bindings := by
  have elsewhere {spellings : List String}
      (apart : ∀ spelling ∈ spellings, spelling ∉ ["-e", "--env"])
      (spelled : argument ∈ spellings) (same : next.env = given.env) :
      ∃ bindings, GiveBindings (if argument ∈ ["-e", "--env"] then [text] else []) bindings ∧
        next.env = given.env ++ bindings := by
    rw [if_neg (apart argument spelled), same]
    exact ⟨[], .nil, (List.append_nil _).symm⟩
  simp only [spec, List.mem_cons, List.not_mem_nil, or_false] at known
  rcases known with rfl | rfl | rfl | rfl | rfl | rfl | rfl
  case inr.inr.inr.inr.inr.inl =>
    obtain ⟨binding, read, put⟩ := exists_of_bind_ok put
    cases put
    rw [if_pos spelled]
    exact ⟨[binding], .cons read .nil, rfl⟩
  case inl | inr.inr.inr.inl | inr.inr.inr.inr.inl =>
    cases put
    exact elsewhere (by decide) spelled rfl
  case inr.inl | inr.inr.inl | inr.inr.inr.inr.inr.inr =>
    obtain ⟨value, rfl⟩ := OptionSpec.eq_of_put_value put
    exact elsewhere (by decide) spelled rfl

theorem env_of_positional {positional : PositionalSpec RunArguments} {text : String}
    {given next : RunArguments} (known : positional ∈ spec.positionals)
    (put : positional.put text given = .ok next) : next.env = given.env := by
  simp only [spec, List.mem_singleton] at known
  subst known
  obtain ⟨version, -, put⟩ := exists_of_bind_ok put
  cases put
  rfl

theorem env_of_readFrom {line : List String} {reading last : ArgumentReading RunArguments}
    {command : Option ReachedCommand} (known : reading.positionals ⊆ spec.positionals)
    (read : spec.readFrom line reading = .ok (last, command)) (unhelped : ¬ last.wantsHelp) :
    ∃ bindings, GiveBindings (if reading.optionsEnded then [] else variableTexts line) bindings ∧
      last.given.env = reading.given.env ++ bindings := by
  -- By the steps of the reader. Nothing but the arguments of the command is left to be taken for one
  -- that is no option, so that none of them can touch the variables.
  fun_induction CommandSpec.readFrom spec line reading with
  | case1 reading =>
      cases read
      exact ⟨[], by simp [variableTexts, GiveBindings], (List.append_nil _).symm⟩
  | case2 =>
      exact absurd (CommandSpec.readFrom_wantsHelp rfl read rfl) unhelped
  | case3 rest reading _ _ ih =>
      obtain ⟨bindings, give, env⟩ := ih known read
      refine ⟨bindings, ?_, env⟩
      rw [variableTexts_end]
      simpa using give
  | case4 | case7 | case8 | case11 => cases read
  | case5 _ _ _ _ _ _ _ _ switched => cases switched
  | case6 argument reading _ dashed unending _ _ option value rest found next taken ih =>
      obtain ⟨given, put, rfl⟩ := CommandSpec.takeOption_ok taken
      have spelled : argument ∈ option.spellings := by simpa using List.find?_some found
      obtain ⟨first, giveFirst, envFirst⟩ :=
        env_of_put (List.mem_of_find?_eq_some found) spelled put
      obtain ⟨more, giveMore, envMore⟩ := ih known read
      rw [Bool.and_eq_true, Bool.not_eq_true'] at dashed
      rw [dashed.1, if_neg Bool.false_ne_true] at giveMore ⊢
      rw [variableTexts_option unending dashed.2]
      refine ⟨first ++ more, List.rel_append giveFirst giveMore, ?_⟩
      rw [envMore, envFirst, List.append_assoc]
  | case9 _ _ _ _ _ reached => simp [spec] at reached
  | case10 argument rest reading _ undashed _ next taken ih =>
      obtain ⟨positional, member, put, -, ended, left⟩ := CommandSpec.takePositional_ok taken
      obtain ⟨bindings, give, env⟩ := ih (List.Subset.trans left known) read
      refine ⟨bindings, ?_, ?_⟩
      · rw [ended] at give
        cases noOptions : reading.optionsEnded with
        | true => simpa [noOptions] using give
        | false =>
            have plain : ¬ argument.startsWith "-" := by simpa [noOptions] using undashed
            rw [variableTexts_word plain]
            simpa [noOptions] using give
      · rw [env, env_of_positional (known member) put]

theorem env_of_parse {line : List String} {arguments : RunArguments}
    (parsed : RunArguments.parse line = .ok arguments) :
    GiveBindings (variableTexts line) arguments.env := by
  rw [RunArguments.parse, CommandSpec.read] at parsed
  cases read : spec.readFrom line { given := {}, positionals := spec.positionals } with
  | error unread =>
      rw [read] at parsed
      cases parsed
  | ok result =>
      obtain ⟨last, command⟩ := result
      rw [read] at parsed
      dsimp only at parsed
      by_cases asked : last.wantsHelp
      · rw [if_pos asked] at parsed
        cases parsed
      · rw [if_neg asked] at parsed
        cases parsed
        obtain ⟨bindings, give, env⟩ := env_of_readFrom (List.Subset.refl _) read asked
        rw [env]
        exact give

end RunArguments

end ThrowawayServer
