import ThrowawayServer.Catalog.Match

/-!
# Chains of predicates

A conjunction of two predicates holds the parts of both in order, where a predicate that is no
conjunction is its own single part; a disjunction does the same with the parts of disjunctions. So
a chain of operands has one value, wherever the brackets stand in it.
-/

set_option autoImplicit false

namespace ThrowawayServer

namespace Match

variable {d : Distribution}

def conjuncts : Match → List Match
  | .all parts => parts
  | m => [m]

def disjuncts : Match → List Match
  | .any parts => parts
  | m => [m]

theorem conjuncts_of_ne {m : Match} (other : ∀ parts, m = .all parts → False) :
    m.conjuncts = [m] := by
  unfold conjuncts
  split
  · exact (other _ rfl).elim
  · rfl

theorem disjuncts_of_ne {m : Match} (other : ∀ parts, m = .any parts → False) :
    m.disjuncts = [m] := by
  unfold disjuncts
  split
  · exact (other _ rfl).elim
  · rfl

theorem and_eq (a b : Match) : a.and b = .all (a.conjuncts ++ b.conjuncts) := by
  unfold Match.and
  split
  · rfl
  · next left right other => rw [conjuncts_of_ne other, conjuncts]
  · next left right other => rw [conjuncts_of_ne other, conjuncts, List.singleton_append]
  · next noLeft noRight _ =>
    rw [conjuncts_of_ne noLeft, conjuncts_of_ne noRight, List.singleton_append]

theorem or_eq (a b : Match) : a.or b = .any (a.disjuncts ++ b.disjuncts) := by
  unfold Match.or
  split
  · rfl
  · next left right other => rw [disjuncts_of_ne other, disjuncts]
  · next left right other => rw [disjuncts_of_ne other, disjuncts, List.singleton_append]
  · next noLeft noRight _ =>
    rw [disjuncts_of_ne noLeft, disjuncts_of_ne noRight, List.singleton_append]

theorem allHold_eq_all (parts : List Match) : allHold d parts = parts.all (holds d) := by
  induction parts with
  | nil => rfl
  | cons m rest ih => rw [allHold, ih, List.all_cons]

theorem anyHolds_eq_any (parts : List Match) : anyHolds d parts = parts.any (holds d) := by
  induction parts with
  | nil => rfl
  | cons m rest ih => rw [anyHolds, ih, List.any_cons]

theorem allHold_conjuncts (m : Match) : allHold d m.conjuncts = m.holds d := by
  unfold conjuncts
  split
  · rw [holds]
  · rw [allHold, allHold, Bool.and_true]

theorem anyHolds_disjuncts (m : Match) : anyHolds d m.disjuncts = m.holds d := by
  unfold disjuncts
  split
  · rw [holds]
  · rw [anyHolds, anyHolds, Bool.or_false]

theorem holds_and (a b : Match) : (a.and b).holds d = (a.holds d && b.holds d) := by
  rw [and_eq, holds, allHold_eq_all, List.all_append, ← allHold_eq_all, ← allHold_eq_all,
    allHold_conjuncts, allHold_conjuncts]

theorem holds_or (a b : Match) : (a.or b).holds d = (a.holds d || b.holds d) := by
  rw [or_eq, holds, anyHolds_eq_any, List.any_append, ← anyHolds_eq_any, ← anyHolds_eq_any,
    anyHolds_disjuncts, anyHolds_disjuncts]

/-!
## Brackets
-/

/-- Operands in order, with brackets around every two sides that are joined. -/
inductive Chain where
  | operand (m : Match)
  | joined (left right : Chain)

namespace Chain

def operands : Chain → List Match
  | .operand m => [m]
  | .joined left right => left.operands ++ right.operands

/-- The predicate that a chain comes to by one connective. -/
def value (connective : Match → Match → Match) : Chain → Match
  | .operand m => m
  | .joined left right => connective (left.value connective) (right.value connective)

theorem operands_ne_nil (chain : Chain) : chain.operands ≠ [] := by
  induction chain with
  | operand m => exact List.cons_ne_nil _ _
  | joined left right leftIH rightIH => exact List.append_ne_nil_of_left_ne_nil leftIH _

/-- An operand by itself is never the operands of two sides. -/
theorem operand_ne_joined {m : Match} {left right : Chain} :
    operands (.operand m) ≠ operands (.joined left right) := by
  intro same
  have lengths := congrArg List.length same
  have leftSome := List.length_pos_iff.mpr left.operands_ne_nil
  have rightSome := List.length_pos_iff.mpr right.operands_ne_nil
  rw [operands, operands, List.length_append, List.length_singleton] at lengths
  omega

end Chain

/-- A connective that joins the parts of its sides. -/
structure Flattens (connective : Match → Match → Match) (whole : List Match → Match)
    (parts : Match → List Match) : Prop where
  connective_eq : ∀ a b, connective a b = whole (parts a ++ parts b)
  parts_whole : ∀ list, parts (whole list) = list

theorem flattens_and : Flattens Match.and .all conjuncts := ⟨and_eq, fun _ => rfl⟩

theorem flattens_or : Flattens Match.or .any disjuncts := ⟨or_eq, fun _ => rfl⟩

namespace Flattens

variable {connective : Match → Match → Match} {whole : List Match → Match}
  {parts : Match → List Match}

theorem assoc (flat : Flattens connective whole parts) (a b c : Match) :
    connective (connective a b) c = connective a (connective b c) := by
  simp only [flat.connective_eq, flat.parts_whole, List.append_assoc]

theorem parts_value (flat : Flattens connective whole parts) (chain : Chain) :
    parts (chain.value connective) = chain.operands.flatMap parts := by
  induction chain with
  | operand m => rw [Chain.value, Chain.operands, List.flatMap_singleton]
  | joined left right leftIH rightIH =>
      rw [Chain.value, Chain.operands, flat.connective_eq, flat.parts_whole, leftIH, rightIH,
        List.flatMap_append]

theorem value_joined (flat : Flattens connective whole parts) (left right : Chain) :
    (Chain.joined left right).value connective =
      whole ((left.operands ++ right.operands).flatMap parts) := by
  rw [Chain.value, flat.connective_eq, flat.parts_value, flat.parts_value, List.flatMap_append]

theorem value_congr (flat : Flattens connective whole parts) {chain other : Chain}
    (same : chain.operands = other.operands) : chain.value connective = other.value connective := by
  cases chain with
  | operand m =>
      cases other with
      | operand n => exact List.singleton_inj.mp same
      | joined left right => exact absurd same Chain.operand_ne_joined
  | joined left right =>
      cases other with
      | operand n => exact absurd same.symm Chain.operand_ne_joined
      | joined left' right' =>
          rw [Chain.operands, Chain.operands] at same
          rw [flat.value_joined, flat.value_joined, same]

end Flattens

/-- How a connective combines predicates: in meaning, and in the value that a chain comes to. -/
structure Combines (connective : Match → Match → Match) (whole : List Match → Match)
    (parts : Match → List Match) (meaning : Prop → Prop → Prop) : Prop where
  holds_iff : ∀ a b d,
    (connective a b).holds d = true ↔ meaning (a.holds d = true) (b.holds d = true)
  associative : ∀ a b c, connective (connective a b) c = connective a (connective b c)
  bracketed_alike : ∀ chain other : Chain, chain.operands = other.operands →
    chain.value connective = other.value connective
  in_order : ∀ left right : Chain, (Chain.joined left right).value connective =
    whole ((left.operands ++ right.operands).flatMap parts)

theorem connectives_combine :
    Combines Match.and .all conjuncts And ∧ Combines Match.or .any disjuncts Or := by
  constructor
  · constructor
    case holds_iff =>
      intro a b d
      rw [holds_and, Bool.and_eq_true]
    case associative => exact flattens_and.assoc
    case bracketed_alike => exact fun _ _ => flattens_and.value_congr
    case in_order => exact flattens_and.value_joined
  · constructor
    case holds_iff =>
      intro a b d
      rw [holds_or, Bool.or_eq_true]
    case associative => exact flattens_or.assoc
    case bracketed_alike => exact fun _ _ => flattens_or.value_congr
    case in_order => exact flattens_or.value_joined

/-- An empty conjunction leaves no part, and a disjunction is one part of a conjunction. -/
example :
    ((Match.all []).and (.any [.always])).and (.all [.os .linux, .all []]) =
      .all [.any [.always], .os .linux, .all []] :=
  rfl

end Match

end ThrowawayServer
