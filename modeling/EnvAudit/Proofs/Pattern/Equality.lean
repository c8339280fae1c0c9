import EnvAudit.Pattern.Node

namespace EnvAudit.Pattern

mutual

def Node.same : Node → Node → Bool
  | .char code, .char code' => code == code'
  | .notChar code, .notChar code' => code == code'
  | .any, .any => true
  | .set negated items, .set negated' items' => negated == negated' && items == items'
  | .place kind, .place kind' => kind == kind'
  | .branch alternatives, .branch alternatives' => branchSame alternatives alternatives'
  | .group index added removed body, .group index' added' removed' body' =>
    index == index' && added == added' && removed == removed' && sequenceSame body body'
  | .atomic body, .atomic body' => sequenceSame body body'
  | .ahead negated body, .ahead negated' body' => negated == negated' && sequenceSame body body'
  | .behind negated width body, .behind negated' width' body' =>
    negated == negated' && width == width' && sequenceSame body body'
  | .backref index, .backref index' => index == index'
  | .conditional index yes no, .conditional index' yes' no' =>
    index == index' && sequenceSame yes yes' && optionSame no no'
  | .repetition greed least most body, .repetition greed' least' most' body' =>
    greed == greed' && least == least' && most == most' && sequenceSame body body'
  | _, _ => false
termination_by structural x => x

def sequenceSame : List Node → List Node → Bool
  | [], [] => true
  | node :: nodes, node' :: nodes' => node.same node' && sequenceSame nodes nodes'
  | _, _ => false
termination_by structural x => x

def optionSame : Option (List Node) → Option (List Node) → Bool
  | none, none => true
  | some nodes, some nodes' => sequenceSame nodes nodes'
  | _, _ => false
termination_by structural x => x

def branchSame : List (List Node) → List (List Node) → Bool
  | [], [] => true
  | first :: others, first' :: others' => sequenceSame first first' && branchSame others others'
  | _, _ => false
termination_by structural x => x

end

mutual

theorem Node.eq_of_same {node node' : Node} (same : node.same node' = true) : node = node' := by
  cases node <;> cases node' <;> simp only [Node.same, Bool.and_eq_true, beq_iff_eq, Bool.false_eq_true] at same
  case char | notChar | backref | place => rw [same]
  case any => rfl
  case set => rw [same.1, same.2]
  case branch => rw [branchSame_eq same]
  case group => rw [same.1.1.1, same.1.1.2, same.1.2, sequenceSame_eq same.2]
  case atomic => rw [sequenceSame_eq same]
  case ahead => rw [same.1, sequenceSame_eq same.2]
  case behind => rw [same.1.1, same.1.2, sequenceSame_eq same.2]
  case conditional => rw [same.1.1, sequenceSame_eq same.1.2, optionSame_eq same.2]
  case repetition => rw [same.1.1.1, same.1.1.2, same.1.2, sequenceSame_eq same.2]

theorem sequenceSame_eq {nodes nodes' : List Node} (same : sequenceSame nodes nodes' = true) :
    nodes = nodes' := by
  cases nodes <;> cases nodes' <;> simp only [sequenceSame, Bool.and_eq_true, Bool.false_eq_true] at same
  case nil => rfl
  case cons => rw [Node.eq_of_same same.1, sequenceSame_eq same.2]

theorem optionSame_eq {nodes nodes' : Option (List Node)} (same : optionSame nodes nodes' = true) :
    nodes = nodes' := by
  cases nodes <;> cases nodes' <;> simp only [optionSame, Bool.false_eq_true] at same
  case none => rfl
  case some => rw [sequenceSame_eq same]

theorem branchSame_eq {alternatives alternatives' : List (List Node)}
    (same : branchSame alternatives alternatives' = true) : alternatives = alternatives' := by
  cases alternatives <;> cases alternatives' <;>
    simp only [branchSame, Bool.and_eq_true, Bool.false_eq_true] at same
  case nil => rfl
  case cons => rw [sequenceSame_eq same.1, branchSame_eq same.2]

end

mutual

theorem Node.same_self (node : Node) : node.same node = true := by
  cases node <;> simp only [Node.same, BEq.rfl, Bool.true_and]
  case branch => exact branchSame_self _
  case conditional => rw [sequenceSame_self, optionSame_self, Bool.and_true]
  all_goals exact sequenceSame_self _

theorem sequenceSame_self (nodes : List Node) : sequenceSame nodes nodes = true := by
  cases nodes with
  | nil => rfl
  | cons node nodes => rw [sequenceSame, Node.same_self, sequenceSame_self, Bool.and_true]

theorem optionSame_self (nodes : Option (List Node)) : optionSame nodes nodes = true := by
  cases nodes with
  | none => rfl
  | some nodes => exact sequenceSame_self nodes

theorem branchSame_self (alternatives : List (List Node)) : branchSame alternatives alternatives = true := by
  cases alternatives with
  | nil => rfl
  | cons first others => rw [branchSame, sequenceSame_self, branchSame_self, Bool.and_true]

end

instance : DecidableEq Node := fun node node' =>
  decidable_of_iff (node.same node' = true) ⟨Node.eq_of_same, fun equal => equal ▸ node.same_self⟩

instance : DecidableEq Tree := fun tree tree' =>
  decidable_of_iff (tree.flags = tree'.flags ∧ tree.nodes = tree'.nodes) (by cases tree; cases tree'; simp)

end EnvAudit.Pattern
