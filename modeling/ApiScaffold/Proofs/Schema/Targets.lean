/-
What is read of a document's root. Schemas and operations consult the root only to find what a reference names, so
that two roots in which every reference names the same node (`SameTargets`) are as good as one.
-/
import ApiScaffold.Proofs.Schema.Chain

namespace ApiScaffold

/-- Every reference names the same node in both roots, or none in either. -/
def Json.SameTargets (root root' : Json) : Prop := ∀ r : Reference, r.find? root = r.find? root'

section

variable {root root' : Json} (same : root.SameTargets root')

include same

namespace Reference

theorem resolve_congr : resolve root = resolve root' := by
  funext text loc
  unfold resolve
  simp only [same _]

theorem targetName_congr : targetName root = targetName root' := by
  funext text loc
  unfold targetName
  rw [resolve_congr same]

theorem deref_congr : deref root = deref root' := by
  funext node loc
  unfold deref
  rw [resolve_congr same]

end Reference

namespace Schema

theorem chainTarget_congr : chainTarget root = chainTarget root' := by
  funext node loc
  -- a chain ends in one reference or in none, whatever the root
  rcases chainTarget_cases root node loc with ⟨text, only, h⟩ | ⟨never, h⟩ <;>
    rcases chainTarget_cases root' node loc with ⟨text', only', h'⟩ | ⟨never', h'⟩
  · rw [h, h', (only text').1 ((only' text').2 rfl), Reference.targetName_congr same]
  · exact absurd ((only text).2 rfl) (never' text)
  · exact absurd ((only' text').2 rfl) (never text')
  · rw [h, h']

theorem contentTargets_congr : contentTargets root = contentTargets root' := by
  funext loc entries found
  induction entries generalizing found with
  | nil => rfl
  | cons entry rest ih =>
    unfold contentTargets
    simp only [chainTarget_congr same, ih]

theorem bodyDependencies_congr : bodyDependencies root = bodyDependencies root' := by
  funext node loc found
  unfold bodyDependencies contentDependencies
  rw [Reference.deref_congr same, contentTargets_congr same]

theorem operationDependencies_congr : operationDependencies root = operationDependencies root' := by
  funext operation loc
  unfold operationDependencies
  rw [bodyDependencies_congr same]

theorem propertyDependencies_congr : propertyDependencies root = propertyDependencies root' := by
  funext n hint loc
  unfold propertyDependencies
  rw [chainTarget_congr same]

theorem aliasSchema_congr : aliasSchema root = aliasSchema root' := by
  funext name node text loc
  unfold aliasSchema
  rw [Reference.targetName_congr same]

theorem referenceArraySchema_congr : referenceArraySchema root = referenceArraySchema root' := by
  funext name node loc
  unfold referenceArraySchema
  rw [chainTarget_congr same]

end Schema

end

end ApiScaffold
