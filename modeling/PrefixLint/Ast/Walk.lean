import PrefixLint.Ast.Node

/-!
# The walk over a tree

Handlers are keyed by event: a node type names the event of entering a node of that type, and the
type followed by `:exit` names the event of leaving it. The walk keeps the pending events on a stack
of its own, each node's leaving beneath its children, so that no nesting is too deep for it; `visit`
is the same walk by recursion. Both end because a node outweighs its children together.
-/

namespace PrefixLint.Ast

/-- A handler changes the state and may fail; a failure keeps the state reached so far. -/
abbrev Handler (ε σ : Type) := Value → EStateM ε σ Unit

abbrev Handlers (ε σ : Type) := String → Option (Handler ε σ)

def exitMark : String := ":exit"

inductive Task where
  | enter (node : Value)
  | leave (node : Value)

namespace Value

noncomputable def total : List Value → Nat
  | [] => 0
  | v :: rest => sizeOf v + total rest

theorem total_append (vs ws : List Value) : total (vs ++ ws) = total vs + total ws := by
  induction vs with
  | nil => simp [total]
  | cons v rest ih => simp only [List.cons_append, total, ih]; omega

theorem total_perm {vs ws : List Value} (h : vs.Perm ws) : total vs = total ws := by
  induction h with
  | nil => rfl
  | cons v _ ih => simp only [total, ih]
  | swap v w rest => simp only [total]; omega
  | trans _ _ ih₁ ih₂ => exact ih₁.trans ih₂

theorem sizeOf_le_total {v : Value} {vs : List Value} (h : v ∈ vs) : sizeOf v ≤ total vs := by
  induction h with
  | head rest => simp only [total]; omega
  | tail w _ ih => simp only [total]; omega

theorem sizeOf_pos (v : Value) : 0 < sizeOf v := by
  cases v <;> simp only [null.sizeOf_spec, bool.sizeOf_spec, int.sizeOf_spec, float.sizeOf_spec,
    text.sizeOf_spec, list.sizeOf_spec, object.sizeOf_spec] <;> omega

theorem total_filter_le (p : Value → Bool) (vs : List Value) :
    total (vs.filter p) ≤ sizeOf vs := by
  induction vs with
  | nil => simp [total]
  | cons v rest ih =>
    simp only [List.filter_cons, List.cons.sizeOf_spec]
    split
    · simp only [total]; omega
    · omega

theorem total_nodesOf_le (v : Value) : total v.nodesOf ≤ sizeOf v := by
  unfold nodesOf
  split
  · simp [total]
  · cases v with
    | list vs =>
      have := total_filter_le isNode vs
      simp only [items?, Option.getD_some, list.sizeOf_spec]
      omega
    | _ => simp [items?, total]

theorem total_childrenOf_le (ms : List (String × Value)) : total (childrenOf ms) ≤ sizeOf ms := by
  induction ms with
  | nil => simp [childrenOf, total]
  | cons m rest ih =>
    obtain ⟨key, v⟩ := m
    have hv := total_nodesOf_le v
    have hm : total (if metadataKeys.contains key then [] else v.nodesOf) ≤ sizeOf v := by
      split
      · exact Nat.zero_le _
      · exact hv
    simp only [childrenOf, List.flatMap_cons, total_append] at ih ⊢
    simp only [List.cons.sizeOf_spec, Prod.mk.sizeOf_spec]
    omega

theorem byOffset_perm (vs : List Value) : (byOffset vs).Perm vs := by
  unfold byOffset
  split
  · exact List.mergeSort_perm vs _
  · exact List.Perm.refl vs

theorem total_children_lt (v : Value) : total v.children < sizeOf v := by
  have hle := total_childrenOf_le v.members
  rw [children, total_perm (byOffset_perm _)]
  cases v with
  | object ms => simp only [members, object.sizeOf_spec] at hle ⊢; omega
  | _ => exact sizeOf_pos _

theorem sizeOf_lt_of_mem_children {v c : Value} (h : c ∈ v.children) : sizeOf c < sizeOf v :=
  Nat.lt_of_le_of_lt (sizeOf_le_total h) (total_children_lt v)

end Value

def enterAll (nodes : List Value) : List Task := nodes.map .enter

noncomputable def pending : List Task → Nat
  | [] => 0
  | .enter v :: rest => 2 * sizeOf v + pending rest
  | .leave _ :: rest => 1 + pending rest

theorem pending_enterAll (nodes : List Value) (rest : List Task) :
    pending (enterAll nodes ++ rest) = 2 * Value.total nodes + pending rest := by
  induction nodes with
  | nil => simp [enterAll, Value.total]
  | cons v vs ih =>
    simp only [enterAll, List.map_cons, List.cons_append, pending, Value.total] at ih ⊢
    omega

def fire {ε σ : Type} (handlers : Handlers ε σ) (event : String) (node : Value) :
    EStateM ε σ Unit :=
  match handlers event with
  | some handler => handler node
  | none => pure ()

def perform {ε σ : Type} (handlers : Handlers ε σ) : List Task → EStateM ε σ Unit
  | [] => pure ()
  | .enter v :: rest => do
    fire handlers v.nodeType v
    perform handlers (enterAll v.children ++ .leave v :: rest)
  | .leave v :: rest => do
    fire handlers (v.nodeType ++ exitMark) v
    perform handlers rest
termination_by tasks => pending tasks
decreasing_by
  · have := Value.total_children_lt v
    rw [pending_enterAll]
    simp only [pending]
    omega
  · simp only [pending]
    omega

def walk {ε σ : Type} (handlers : Handlers ε σ) (refuse : Fault → ε) (tree : Value) :
    EStateM ε σ Unit :=
  if tree.isNode then perform handlers [.enter tree] else throw (refuse (.notNode tree.kind))

/-- The walk by recursion on the tree. -/
def visit {ε σ : Type} (handlers : Handlers ε σ) (v : Value) : EStateM ε σ Unit := do
  fire handlers v.nodeType v
  v.children.attach.forM fun c => visit handlers c.val
  fire handlers (v.nodeType ++ exitMark) v
termination_by sizeOf v
decreasing_by exact Value.sizeOf_lt_of_mem_children c.property

def preorder (v : Value) : List Value :=
  v :: v.children.attach.flatMap fun c => preorder c.val
termination_by sizeOf v
decreasing_by exact Value.sizeOf_lt_of_mem_children c.property

end PrefixLint.Ast
