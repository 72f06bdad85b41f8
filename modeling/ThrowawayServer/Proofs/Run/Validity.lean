import Mathlib.Data.List.Induction
import Mathlib.Data.List.Nodup
import ThrowawayServer.Proofs.Platform.Override
import ThrowawayServer.Proofs.Text.Cutting
import ThrowawayServer.Run.ConfigFile

/-!
# What a loaded configuration can be relied on for

A configuration that comes from a file has been checked, so a run can count on its port, its times,
its address for downloads and its platform. Its variables are a list, and what matters about the list
is the value that it gives to a name: the one that was put last.
-/

set_option autoImplicit false

namespace ThrowawayServer

namespace Variables

variable {bindings others : Variables}

/-- No name has two values. -/
def Distinct (bindings : Variables) : Prop := (bindings.map Prod.fst).Nodup

theorem lookup_cons (name value other : String) (bindings : Variables) :
    List.lookup other ((name, value) :: bindings) =
      if other = name then some value else bindings.lookup other := by
  by_cases same : other = name
  · simp [same]
  · rw [List.lookup_cons, beq_false_of_ne same, if_neg same]

theorem lookup_filter_ne (bindings : Variables) {name other : String} (different : other ≠ name) :
    (bindings.filter (·.1 ≠ name)).lookup other = bindings.lookup other := by
  induction bindings with
  | nil => rfl
  | cons binding bindings ih =>
      obtain ⟨key, value⟩ := binding
      rw [lookup_cons, ← ih]
      by_cases same : key = name
      · subst same
        simp [different]
      · simp [same, lookup_cons]

theorem lookup_filter_self (bindings : Variables) (name : String) :
    (bindings.filter (·.1 ≠ name)).lookup name = none := by
  rw [List.lookup_eq_none_iff]
  intro binding member
  have different := (List.mem_filter.mp member).2
  simpa using Ne.symm (of_decide_eq_true different)

theorem lookup_put (bindings : Variables) (name value other : String) :
    (bindings.put name value).lookup other =
      if other = name then some value else bindings.lookup other := by
  rw [put, List.lookup_append, lookup_cons]
  by_cases same : other = name
  · subst same
    rw [lookup_filter_self, if_pos rfl, if_pos rfl, Option.none_or]
  · rw [lookup_filter_ne bindings same, if_neg same, if_neg same, List.lookup_nil, Option.or_none]

theorem putAll_concat (bindings others : Variables) (name value : String) :
    bindings.putAll (others ++ [(name, value)]) = (bindings.putAll others).put name value := by
  rw [putAll, List.foldl_append]
  rfl

/-- Of several values for a name the last one counts, and one that was there before only if none is
put. -/
theorem lookup_putAll (bindings others : Variables) (name : String) :
    (bindings.putAll others).lookup name =
      (others.reverse.lookup name).or (bindings.lookup name) := by
  induction others using List.reverseRecOn with
  | nil => rfl
  | append_singleton others binding ih =>
      obtain ⟨key, value⟩ := binding
      rw [putAll_concat, lookup_put, ih, List.reverse_concat, lookup_cons]
      by_cases same : name = key <;> simp [same]

theorem Distinct.put (distinct : bindings.Distinct) (name value : String) :
    (bindings.put name value).Distinct := by
  rw [Distinct, Variables.put, List.map_append, List.nodup_append]
  refine ⟨distinct.sublist (List.filter_sublist.map _), by simp, ?_⟩
  simp

theorem Distinct.putAll (distinct : bindings.Distinct) (others : Variables) :
    (bindings.putAll others).Distinct := by
  induction others using List.reverseRecOn with
  | nil => exact distinct
  | append_singleton others binding ih =>
      rw [putAll_concat]
      exact ih.put _ _

theorem distinct_nil : Distinct [] := List.nodup_nil

end Variables

namespace RunConfig

open Yaml (Document Fault Node)

variable {config : RunConfig}

/-- What a run needs of its configuration. -/
structure Runnable (config : RunConfig) : Prop where
  port : config.port ≠ 0
  startup_timeout : config.startupTimeoutMs ≠ 0
  step_timeout : config.stepTimeoutMs ≠ 0
  base_url : ∃ c ∈ config.baseUrl.toList, Text.isBlank c = false
  platform : ∀ o, config.platform = some o → o.validate = .ok ()

theorem invalid?_eq_none_iff :
    config.invalid? = none ↔ config.port ≠ 0 ∧ config.startupTimeoutMs ≠ 0 ∧
      config.stepTimeoutMs ≠ 0 ∧ ∃ c ∈ config.baseUrl.toList, Text.isBlank c = false := by
  have blank_iff : (Text.trim config.baseUrl.toList).isEmpty ↔
      ∀ c ∈ config.baseUrl.toList, Text.isBlank c := by
    rw [List.isEmpty_iff, Text.trim, Text.trimBy_eq_nil_iff]
  have never {cause : InvalidConfig} {met : Prop} [Decidable met] {rest : Option InvalidConfig} :
      (if met then some cause else rest) = none ↔ ¬ met ∧ rest = none := by
    by_cases holds : met <;> simp [holds]
  rw [invalid?, never, never, never, never, blank_iff]
  simp

theorem validate_eq_ok_iff : config.validate = .ok () ↔ config.Runnable := by
  rw [validate]
  cases invalid : config.invalid? with
  | some cause =>
      have unmet : config.invalid? ≠ none := by simp [invalid]
      constructor
      · intro accepted
        cases accepted
      · rintro ⟨port, startup, step, url, -⟩
        exact absurd (invalid?_eq_none_iff.mpr ⟨port, startup, step, url⟩) unmet
  | none =>
      obtain ⟨port, startup, step, url⟩ := invalid?_eq_none_iff.mp invalid
      cases replaced : config.platform with
      | none =>
          refine ⟨fun _ => ⟨port, startup, step, url, ?_⟩, fun _ => rfl⟩
          intro o given
          rw [replaced] at given
          cases given
      | some o =>
          constructor
          · intro accepted
            refine ⟨port, startup, step, url, ?_⟩
            intro other given
            rw [replaced] at given
            cases given
            exact ok_of_mapError accepted
          · intro runnable
            dsimp only
            rw [runnable.platform o replaced]
            rfl

theorem validated_eq_ok_iff {checked : RunConfig} :
    config.validated = .ok checked ↔ config.Runnable ∧ checked = config := by
  rw [validated, ← validate_eq_ok_iff]
  cases config.validate with
  | error error => simp [Except.map]
  | ok => simp [Except.map, eq_comm]

theorem runnable_of_parse {text : String} (parsed : RunConfig.parse text = .ok config) :
    config.Runnable := by
  obtain ⟨read, -, accepted⟩ := exists_of_bind_ok parsed
  obtain ⟨runnable, rfl⟩ := validated_eq_ok_iff.mp accepted
  exact runnable

theorem parse_of_ofFile {path : String} {content : Except OsError (List UInt8)}
    (loaded : RunConfig.ofFile path content = .ok config) :
    ∃ text, RunConfig.parse text = .ok config := by
  cases content with
  | error error => cases loaded
  | ok bytes =>
      dsimp only [ofFile] at loaded
      cases decoded : Text.decodeUtf8? bytes with
      | none =>
          rw [decoded] at loaded
          cases loaded
      | some text =>
          rw [decoded] at loaded
          exact ⟨_, loaded⟩

/-!
## The variables of a file
-/

theorem distinct_of_readVariables {document : Document} {node : Node} {env : Variables}
    (read : readVariables document node = .ok env) : env.Distinct := by
  obtain ⟨entries, -, read⟩ := exists_of_bind_ok read
  obtain ⟨bindings, -, read⟩ := exists_of_bind_ok read
  cases read
  exact Variables.distinct_nil.putAll bindings

theorem field_holds {α : Type} {fields : List (String × Node)} {name : String}
    {read : Node → Except Fault α} {default value : α} {good : α → Prop} (usual : good default)
    (each : ∀ node value, read node = .ok value → good value)
    (found : Document.field fields name read default = .ok value) : good value := by
  obtain ⟨node?, -, found⟩ := exists_of_bind_ok found
  cases node? with
  | none =>
      cases found
      exact usual
  | some node => exact each node value found

theorem distinct_of_ofDocument {document : Document} (read : ofDocument document = .ok config) :
    config.env.Distinct := by
  obtain ⟨fields, -, read⟩ := exists_of_bind_ok read
  obtain ⟨version, -, read⟩ := exists_of_bind_ok read
  obtain ⟨platform, -, read⟩ := exists_of_bind_ok read
  obtain ⟨program, -, read⟩ := exists_of_bind_ok read
  obtain ⟨ip, -, read⟩ := exists_of_bind_ok read
  obtain ⟨port, -, read⟩ := exists_of_bind_ok read
  obtain ⟨dbPath, -, read⟩ := exists_of_bind_ok read
  obtain ⟨extraArgs, -, read⟩ := exists_of_bind_ok read
  obtain ⟨env, env_read, read⟩ := exists_of_bind_ok read
  obtain ⟨startup, -, read⟩ := exists_of_bind_ok read
  obtain ⟨step, -, read⟩ := exists_of_bind_ok read
  obtain ⟨baseUrl, -, read⟩ := exists_of_bind_ok read
  obtain ⟨artifactDir, -, read⟩ := exists_of_bind_ok read
  cases read
  exact field_holds Variables.distinct_nil (fun _ _ => distinct_of_readVariables) env_read

theorem distinct_of_parse {text : String} (parsed : RunConfig.parse text = .ok config) :
    config.env.Distinct := by
  obtain ⟨read, loaded, accepted⟩ := exists_of_bind_ok parsed
  obtain ⟨-, rfl⟩ := validated_eq_ok_iff.mp accepted
  obtain ⟨document, -, read⟩ := exists_of_bind_ok (ok_of_mapError loaded)
  exact distinct_of_ofDocument read

end RunConfig

end ThrowawayServer
