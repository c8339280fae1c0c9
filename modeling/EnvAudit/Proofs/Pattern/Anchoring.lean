import EnvAudit.Proofs.EnvFile.LinePattern

namespace EnvAudit.Pattern
theorem searchFrom_anchored {f : Flags} (single : f.multiLine = false) (nodes : List Node) {before : List Char}
    (inside : before ≠ []) (position : Nat) (text : List Char) :
    searchFrom f (.place .lineStart :: nodes) before position text = none := by
  have stuck (cursor : Cursor) (h : cursor.before ≠ []) :
      runSequence f (.place .lineStart :: nodes) cursor some = none := by
    simp [runSequence_cons, Node.run, Cursor.isAt, single, h]
  induction text generalizing before position with
  | nil => exact stuck _ inside
  | cons c text ih => rw [searchFrom, stuck _ inside, ih (List.cons_ne_nil c before)]

theorem Tree.search_anchored {tree : Tree} {nodes : List Node} (anchored : tree.nodes = .place .lineStart :: nodes)
    (single : tree.flags.multiLine = false) (noLiterals : literalTests tree.flags nodes = []) (value : String) :
    tree.search value = (tree.matchStart? value.toList).isSome := by
  have tried : mayMatch tree.flags tree.nodes value.toList = true := by
    rw [mayMatch, anchored, literalTests, noLiterals]
    · rfl
    · exact fun code => Node.noConfusion
  rw [search, find?, if_pos tried, matchStart?, anchored]
  cases value.toList with
  | nil => rfl
  | cons c text =>
      rw [searchFrom, searchFrom_anchored single nodes (List.cons_ne_nil c [])]
      split
      · rename_i found
        exact (congrArg Option.isSome found).symm
      · rename_i missed
        exact (congrArg Option.isSome missed).symm

end EnvAudit.Pattern
