import SingBox.Adapter.InboundContext
import SingBox.Route.Group

/-! # Rule trees

The rule kinds of the program share one shape. `default` is
`abstractDefaultRule`: its own items by the list they are kept in, and the
rule-sets it refers to, each with the rules it was loaded with. `logical` is
`abstractLogicalRule`. The response binding of `DefaultDNSRule` is part of the
default rule; route rules and headless rules never set it.
-/

namespace SingBox.Route

inductive LogicalMode
  | and
  | or
  deriving DecidableEq

structure DefaultItems (Item : Type) where
  items : List Item := []
  sourceAddressItems : List Item := []
  sourcePortItems : List Item := []
  destinationAddressItems : List Item := []
  destinationIPCIDRItems : List Item := []
  destinationPortItems : List Item := []

mutual
inductive Rule (Item : Type) where
  | default (own : DefaultItems Item) (ruleSetItem : Option (RuleSetItem Item))
      (invert : Bool) (matchResponse : Bool) (matchResponseTag : String)
  | logical (mode : LogicalMode) (rules : List (Rule Item)) (invert : Bool)

inductive RuleSetItem (Item : Type) where
  | mk (setList : List (List (Rule Item))) (ipCidrMatchSource ipCidrAcceptEmpty : Bool)
end

abbrev RuleSet (Item : Type) := List (Rule Item)

namespace RuleSetItem

variable {Item : Type}

def setList : RuleSetItem Item → List (RuleSet Item)
  | .mk setList _ _ => setList

def ipCidrMatchSource : RuleSetItem Item → Bool
  | .mk _ ipCidrMatchSource _ => ipCidrMatchSource

def ipCidrAcceptEmpty : RuleSetItem Item → Bool
  | .mk _ _ ipCidrAcceptEmpty => ipCidrAcceptEmpty

end RuleSetItem

namespace Rule

variable {Item : Type}

/-- The rules a rule refers to directly: the children of a logical rule, and
the members of the rule-sets of a default rule. -/
def Refers : Rule Item → Rule Item → Prop
  | .default _ none _ _ _, _ => False
  | .default _ (some ruleSetItem) _ _ _, child => ∃ ruleSet ∈ ruleSetItem.setList, child ∈ ruleSet
  | .logical _ rules _, child => child ∈ rules

/-- A property of a rule and of every rule below it. -/
def Everywhere (property : Rule Item → Prop) (rule : Rule Item) : Prop :=
  ∀ below, Relation.ReflTransGen Refers rule below → property below

variable {property : Rule Item → Prop} {rule : Rule Item}

theorem Everywhere.here (everywhere : rule.Everywhere property) : property rule :=
  everywhere rule .refl

theorem Everywhere.child {child : Rule Item} (everywhere : rule.Everywhere property)
    (refers : rule.Refers child) : child.Everywhere property :=
  fun below path => everywhere below (.head refers path)

theorem everywhere_iff : rule.Everywhere property ↔
    property rule ∧ ∀ child, rule.Refers child → child.Everywhere property := by
  constructor
  · intro everywhere
    exact ⟨everywhere.here, fun _ => everywhere.child⟩
  · rintro ⟨here, children⟩ below path
    rcases Relation.ReflTransGen.cases_head path with rfl | ⟨child, refers, path⟩
    · exact here
    · exact children child refers below path

mutual
variable {motive : Rule Item → Prop}

/-- Structural induction over rule trees. A property holds of every rule when
it holds of a rule whose children and rule-set members all have it. -/
theorem induct (step : ∀ rule, (∀ child, rule.Refers child → motive child) → motive rule) :
    ∀ rule, motive rule
  | .default _ none _ _ _ => step _ fun _ refers => refers.elim
  | .default _ (some (.mk setList _ _)) _ _ _ =>
    step _ fun child ⟨ruleSet, setMember, member⟩ =>
      induct_sets step setList ruleSet setMember child member
  | .logical _ rules _ => step _ fun child member => induct_rules step rules child member

private theorem induct_rules
    (step : ∀ rule, (∀ child, rule.Refers child → motive child) → motive rule) :
    ∀ (rules : List (Rule Item)) (child), child ∈ rules → motive child
  | [], _, member => by cases member
  | rule :: rules, child, member => by
    rcases List.mem_cons.mp member with _ | member
    · subst child
      exact induct step rule
    · exact induct_rules step rules child member

private theorem induct_sets
    (step : ∀ rule, (∀ child, rule.Refers child → motive child) → motive rule) :
    ∀ (sets : List (List (Rule Item))) (rules), rules ∈ sets →
      ∀ child, child ∈ rules → motive child
  | [], _, member, _, _ => by cases member
  | rules :: sets, other, setMember, child, member => by
    rcases List.mem_cons.mp setMember with _ | setMember
    · subst other
      exact induct_rules step rules child member
    · exact induct_sets step sets other setMember child member
end

end Rule

end SingBox.Route
