import PrefixLint.Proofs.UnitMeaning

/-!
# Verdicts

A check of a tree ends with its verdict: the diagnostics or the fault of the operations of the tree.
It depends neither on the name of the unit nor on the journal.
-/

namespace PrefixLint

open Ast Operation

/-- How the check of a tree ends, by the operations of the tree alone. -/
def verdict (convention : Option Convention) (tree : Value) : Except Ast.Fault (List Diagnostic) :=
  if tree.isNode then
    match (effects convention {} (operations tree)).fault with
    | none => .ok (effects convention {} (operations tree)).found
    | some f => .error f
  else
    .error (.notNode tree.kind)

theorem lintTree_of_not_isNode (convention : Option Convention) (unit : String) {tree : Value}
    (h : tree.isNode = false) (journal : Journal) :
    ∃ after, lintTree convention unit tree journal = .error (.notNode tree.kind) after := by
  obtain ⟨finish, hl⟩ := lintTree_eq convention unit tree journal
  rw [hl, inspect, walk_of_not_isNode Visitor.handlers id h]
  exact ⟨_, rfl⟩

theorem lintTree_verdict (convention : Option Convention) (unit : String) (tree : Value)
    (journal : Journal) :
    ∃ after, lintTree convention unit tree journal =
      match verdict convention tree with
      | .ok found => .ok found after
      | .error f => .error f after := by
  cases h : tree.isNode with
  | true =>
    obtain ⟨after, hl⟩ := lintTree_realises convention unit h journal
    refine ⟨after, hl.trans ?_⟩
    rw [verdict, h, if_pos rfl]
    cases (effects convention {} (operations tree)).fault <;> rfl
  | false =>
    obtain ⟨after, hl⟩ := lintTree_of_not_isNode convention unit h journal
    refine ⟨after, hl.trans ?_⟩
    rw [verdict, h]
    rfl

theorem lintTree_eq_ok_iff {convention : Option Convention} {unit : String} {tree : Value}
    {journal : Journal} {found : List Diagnostic} :
    (∃ after, lintTree convention unit tree journal = .ok found after) ↔
      verdict convention tree = .ok found := by
  obtain ⟨after, hl⟩ := lintTree_verdict convention unit tree journal
  rw [hl]
  cases verdict convention tree <;> simp

theorem lintTree_of_verdict_map {α : Type} {convention : Option Convention} {tree : Value}
    {view : List Diagnostic → α} {seen : α} (h : (verdict convention tree).map view = .ok seen)
    (unit : String) (journal : Journal) :
    ∃ found after, lintTree convention unit tree journal = .ok found after ∧ view found = seen := by
  obtain ⟨found, hverdict, hfound⟩ := map_eq_ok.mp h
  obtain ⟨after, hl⟩ : ∃ after, lintTree convention unit tree journal = .ok found after :=
    lintTree_eq_ok_iff.mpr hverdict
  exact ⟨found, after, hl, hfound⟩

theorem walk_eq_ok_iff {convention : Option Convention} {unit : String} {journal : Journal}
    {tree : Value} {found : List Diagnostic} :
    (∃ v, walk Visitor.handlers id tree { convention, unit, journal } = .ok () v ∧
      v.diagnostics.toList = found) ↔ verdict convention tree = .ok found := by
  cases hnode : tree.isNode with
  | false =>
    rw [walk_of_not_isNode Visitor.handlers id hnode, verdict, hnode]
    constructor
    · rintro ⟨v, hwalk, -⟩
      cases hwalk
    · intro hverdict
      cases hverdict
  | true =>
    obtain ⟨j, hj⟩ := forM_perform_realises (operations tree) { convention, unit, journal }
    rw [walk_handlers id hnode, hj, verdict, if_pos hnode, Effect.result]
    cases (effects convention {} (operations tree)).fault <;> simp

end PrefixLint
