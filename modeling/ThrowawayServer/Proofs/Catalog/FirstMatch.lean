import ThrowawayServer.Catalog.Resolver

/-!
# The first match is final

A table is what its declarations make of it, and rules are tried in the order in which they were
declared. `Decides` says what comes of that without searching: the first rule whose predicate holds
is asked and nothing else, also if it finds no archive. What tables do when they are put together,
cut off or reordered follows from where their first match stands.
-/

set_option autoImplicit false

namespace ThrowawayServer

/-- One way of adding rules to the end of a table. -/
inductive RuleDeclaration where
  | rule (label : String) (matcher : Match) (finder : Finder)
  | reject (reason : String) (matcher : Match)
  | otherwiseReject (reason : String)
  | extend (other : RuleTable)

namespace RuleDeclaration

def rules : RuleDeclaration → List Rule
  | .rule label matcher finder => [⟨label, matcher, .find finder⟩]
  | .reject reason matcher => [⟨reason, matcher, .reject⟩]
  | .otherwiseReject reason => [⟨reason, .always, .reject⟩]
  | .extend other => other.rules

def addTo (table : RuleTable) : RuleDeclaration → RuleTable
  | .rule label matcher finder => table.rule label matcher finder
  | .reject reason matcher => table.reject reason matcher
  | .otherwiseReject reason => table.otherwiseReject reason
  | .extend other => table.extend other

theorem addTo_eq (table : RuleTable) (declaration : RuleDeclaration) :
    declaration.addTo table = ⟨table.name, table.rules ++ declaration.rules⟩ := by
  cases declaration <;> rfl

end RuleDeclaration

/-- The rule is the first one that matches. -/
def Rule.IsFirst (rules : List Rule) (d : Distribution) (rule : Rule) : Prop :=
  ∃ earlier later, rules = earlier ++ rule :: later ∧
    (∀ other ∈ earlier, other.matcher.holds d = false) ∧ rule.matcher.holds d = true

/-- What rules that are tried in their order decide about a distribution. -/
inductive Rule.Decides (name : String) (rules : List Rule) (d : Distribution) :
    Except ResolveError Artifact → Prop where
  | found {rule : Rule} {finder : Finder} {artifact : Artifact} (first : rule.IsFirst rules d)
      (asks : rule.action = .find finder) (finds : finder.find d = some artifact) :
      Decides name rules d (.ok artifact)
  | declined {rule : Rule} {finder : Finder} (first : rule.IsFirst rules d)
      (asks : rule.action = .find finder) (declines : finder.find d = none) :
      Decides name rules d (.error (.noArtifact d.toText rule.label))
  | rejected {rule : Rule} (first : rule.IsFirst rules d) (rejects : rule.action = .reject) :
      Decides name rules d (.error (.unsupported d.toText rule.label))
  | unmatched (misses : ∀ rule ∈ rules, rule.matcher.holds d = false) :
      Decides name rules d
        (.error (.unsupported d.toText s!"no rule in the {name} table matched"))

namespace RuleTable

/-- The table that a list of declarations makes. -/
def declare (name : String) (declarations : List RuleDeclaration) : RuleTable :=
  declarations.foldl RuleDeclaration.addTo (.empty name)

/-- Some rule of the table matches. -/
def Matches (table : RuleTable) (d : Distribution) : Prop :=
  ∃ rule ∈ table.rules, rule.matcher.holds d = true

variable {table other : RuleTable} {d : Distribution} {rule : Rule}
  {answer : Except ResolveError Artifact}

theorem foldl_addTo (table : RuleTable) (declarations : List RuleDeclaration) :
    declarations.foldl RuleDeclaration.addTo table =
      ⟨table.name, table.rules ++ declarations.flatMap RuleDeclaration.rules⟩ := by
  induction declarations generalizing table with
  | nil => simp
  | cons declaration declarations ih =>
      rw [List.foldl_cons, ih, RuleDeclaration.addTo_eq, List.flatMap_cons, List.append_assoc]

/-- Declared rules stand in a table in the order of their declaration. -/
theorem declare_eq (name : String) (declarations : List RuleDeclaration) :
    declare name declarations = ⟨name, declarations.flatMap RuleDeclaration.rules⟩ :=
  foldl_addTo (.empty name) declarations

theorem firstMatch?_eq_some_iff :
    table.firstMatch? d = some rule ↔ rule.IsFirst table.rules d := by
  rw [firstMatch?, List.find?_eq_some_iff_append]
  constructor
  · rintro ⟨holds, earlier, later, split, misses⟩
    refine ⟨earlier, later, split, fun other member => ?_, holds⟩
    simpa using misses other member
  · rintro ⟨earlier, later, split, misses, holds⟩
    refine ⟨holds, earlier, later, split, fun other member => ?_⟩
    simpa using misses other member

theorem firstMatch?_eq_none_iff :
    table.firstMatch? d = none ↔ ∀ rule ∈ table.rules, rule.matcher.holds d = false := by
  rw [firstMatch?, List.find?_eq_none]
  simp only [Bool.not_eq_true]

theorem firstMatch?_eq_none_of_not_matches (misses : ¬ table.Matches d) :
    table.firstMatch? d = none := by
  rw [firstMatch?_eq_none_iff]
  intro rule member
  rw [← Bool.not_eq_true]
  exact fun holds => misses ⟨rule, member, holds⟩

theorem exists_firstMatch?_of_matches (hit : table.Matches d) :
    ∃ rule, table.firstMatch? d = some rule := by
  rw [← Option.isSome_iff_exists, firstMatch?, List.find?_isSome]
  exact hit

theorem resolve_of_firstMatch? (first : table.firstMatch? d = some rule) :
    table.resolve d = rule.decide d := by
  rw [resolve, first]

theorem resolve_of_unmatched (misses : table.firstMatch? d = none) :
    table.resolve d =
      .error (.unsupported d.toText s!"no rule in the {table.name} table matched") := by
  rw [resolve, misses]

/-- A table answers by its name and its first match alone. -/
theorem resolve_congr (name : table.name = other.name)
    (first : table.firstMatch? d = other.firstMatch? d) : table.resolve d = other.resolve d := by
  rw [resolve, resolve, name, first]

theorem decides_resolve (table : RuleTable) (d : Distribution) :
    Rule.Decides table.name table.rules d (table.resolve d) := by
  cases first : table.firstMatch? d with
  | none =>
      rw [resolve_of_unmatched first]
      exact .unmatched (firstMatch?_eq_none_iff.mp first)
  | some rule =>
      have isFirst := firstMatch?_eq_some_iff.mp first
      rw [resolve_of_firstMatch? first, Rule.decide]
      cases action : rule.action with
      | reject => exact .rejected isFirst action
      | find finder =>
          dsimp only
          rw [Finder.resolve]
          cases found : finder.find d with
          | none => exact .declined isFirst action found
          | some artifact => exact .found isFirst action found

theorem resolve_eq_of_decides (decided : Rule.Decides table.name table.rules d answer) :
    table.resolve d = answer := by
  cases decided with
  | found first asks finds =>
      rw [resolve_of_firstMatch? (firstMatch?_eq_some_iff.mpr first), Rule.decide, asks]
      dsimp only
      rw [Finder.resolve, finds]
  | declined first asks declines =>
      rw [resolve_of_firstMatch? (firstMatch?_eq_some_iff.mpr first), Rule.decide, asks]
      dsimp only
      rw [Finder.resolve, declines]
  | rejected first rejects =>
      rw [resolve_of_firstMatch? (firstMatch?_eq_some_iff.mpr first), Rule.decide, rejects]
  | unmatched misses => exact resolve_of_unmatched (firstMatch?_eq_none_iff.mpr misses)

theorem resolve_eq_iff :
    table.resolve d = answer ↔ Rule.Decides table.name table.rules d answer :=
  ⟨fun same => same ▸ table.decides_resolve d, resolve_eq_of_decides⟩

/-!
## Tables put together
-/

theorem firstMatch?_extend (table other : RuleTable) (d : Distribution) :
    (table.extend other).firstMatch? d = (table.firstMatch? d).or (other.firstMatch? d) :=
  List.find?_append

theorem resolve_extend_of_matches (other : RuleTable) (hit : table.Matches d) :
    (table.extend other).resolve d = table.resolve d := by
  obtain ⟨rule, first⟩ := exists_firstMatch?_of_matches hit
  exact resolve_congr rfl (by rw [firstMatch?_extend, first, Option.some_or])

theorem firstMatch?_extend_of_not_matches (other : RuleTable) (misses : ¬ table.Matches d) :
    (table.extend other).firstMatch? d = other.firstMatch? d := by
  rw [firstMatch?_extend, firstMatch?_eq_none_of_not_matches misses, Option.none_or]

theorem resolve_extend_of_matches_later (misses : ¬ table.Matches d) (later : other.Matches d) :
    (table.extend other).resolve d = other.resolve d := by
  obtain ⟨rule, first⟩ := exists_firstMatch?_of_matches later
  have firstOfBoth := (firstMatch?_extend_of_not_matches other misses).trans first
  rw [resolve_of_firstMatch? firstOfBoth, resolve_of_firstMatch? first]

theorem resolve_extend_of_not_matches (misses : ¬ table.Matches d) (later : ¬ other.Matches d) :
    (table.extend other).resolve d =
      .error (.unsupported d.toText s!"no rule in the {table.name} table matched") := by
  apply resolve_of_unmatched
  rw [firstMatch?_extend_of_not_matches other misses, firstMatch?_eq_none_of_not_matches later]

theorem extend_assoc (first second third : RuleTable) :
    (first.extend second).extend third = first.extend (second.extend third) := by
  simp only [extend, List.append_assoc]

theorem matches_of_always (member : rule ∈ table.rules) (always : rule.matcher = .always) :
    table.Matches d :=
  ⟨rule, member, by rw [always, Match.holds]⟩

/-- Only if both of two neighbours match can it matter which of them is tried first. -/
theorem find?_swap {before after : List Rule} {left right : Rule}
    (apart : ¬ (left.matcher.holds d = true ∧ right.matcher.holds d = true)) :
    (before ++ left :: right :: after).find? (fun rule => rule.matcher.holds d) =
      (before ++ right :: left :: after).find? (fun rule => rule.matcher.holds d) := by
  rw [List.find?_append, List.find?_append]
  congr 1
  cases leftHolds : left.matcher.holds d with
  | false => simp [List.find?_cons, leftHolds]
  | true =>
      cases rightHolds : right.matcher.holds d with
      | false => simp [List.find?_cons, rightHolds]
      | true => exact absurd ⟨leftHolds, rightHolds⟩ apart

end RuleTable

/-- Nothing but the first match decides about a distribution. -/
structure FirstMatchIsFinal (d : Distribution) : Prop where
  decided : ∀ name declarations answer,
    (RuleTable.declare name declarations).resolve d = answer ↔
      Rule.Decides name (declarations.flatMap RuleDeclaration.rules) d answer
  extended : ∀ table other : RuleTable, table.Matches d →
    (table.extend other).resolve d = table.resolve d
  extended_later : ∀ table other : RuleTable, ¬ table.Matches d → other.Matches d →
    (table.extend other).resolve d = other.resolve d
  extended_unmatched : ∀ table other : RuleTable, ¬ table.Matches d → ¬ other.Matches d →
    (table.extend other).resolve d =
      .error (.unsupported d.toText s!"no rule in the {table.name} table matched")
  associative : ∀ first second third : RuleTable,
    (first.extend second).extend third = first.extend (second.extend third)
  after_always : ∀ name before rule after later, rule.matcher = Match.always →
    (RuleTable.mk name (before ++ rule :: after)).resolve d =
      (RuleTable.mk name (before ++ rule :: later)).resolve d
  swapped : ∀ name before left right after,
    (RuleTable.mk name (before ++ left :: right :: after)).resolve d ≠
      (RuleTable.mk name (before ++ right :: left :: after)).resolve d →
        left.matcher.holds d = true ∧ right.matcher.holds d = true
  override_found : ∀ (resolver : Resolver) finder artifact,
    resolver.overrideFinder = some finder → finder.find d = some artifact →
      resolver.resolve d = .ok (artifact.withBaseUrl resolver.baseUrl)
  override_declined : ∀ (resolver : Resolver) finder,
    resolver.overrideFinder = some finder → finder.find d = none →
      resolver.resolve d = .error (.noArtifact d.toText "override")

theorem RuleTable.firstMatchIsFinal (d : Distribution) : FirstMatchIsFinal d := by
  constructor
  case decided =>
    intro name declarations answer
    rw [declare_eq]
    exact resolve_eq_iff
  case extended => exact fun _ other => resolve_extend_of_matches other
  case extended_later => exact fun _ _ => resolve_extend_of_matches_later
  case extended_unmatched => exact fun _ _ => resolve_extend_of_not_matches
  case associative => exact extend_assoc
  case after_always =>
    intro name before rule after later always
    have known : (RuleTable.mk name (before ++ [rule])).Matches d :=
      matches_of_always (List.mem_append_right _ List.mem_cons_self) always
    have cut : ∀ rest, (RuleTable.mk name (before ++ rule :: rest)).resolve d =
        (RuleTable.mk name (before ++ [rule])).resolve d := by
      intro rest
      rw [← resolve_extend_of_matches ⟨name, rest⟩ known, extend, List.append_assoc]
      rfl
    rw [cut after, cut later]
  case swapped =>
    intro name before left right after differ
    exact Decidable.byContradiction fun apart => differ (resolve_congr rfl (find?_swap apart))
  case override_found =>
    intro resolver finder artifact asks finds
    rw [Resolver.resolve, Resolver.lookUp, asks]
    dsimp only
    rw [Finder.resolve, finds]
    rfl
  case override_declined =>
    intro resolver finder asks declines
    rw [Resolver.resolve, Resolver.lookUp, asks]
    dsimp only
    rw [Finder.resolve, declines]
    rfl

end ThrowawayServer
