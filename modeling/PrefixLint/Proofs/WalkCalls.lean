import PrefixLint.Proofs.Timeline

/-!
# The calls of a walk

Handlers can be made to record every call before its outcome is known. A recorded walk tells which
calls were made: those of the timeline whose events have a handler, all of them when none fails and
otherwise those up to the first failure. The walk with a stack and the walk by recursion make the
same calls and end alike, for all handlers and all trees.
-/

namespace PrefixLint.Ast

structure Call where
  event : String
  node : Value

section

variable {ε σ : Type}

def recording (handlers : Handlers ε σ) : Handlers ε (σ × List Call) := fun event =>
  (handlers event).map fun handler node state =>
    match handler node state.1 with
    | .ok _ s => .ok () (s, state.2 ++ [⟨event, node⟩])
    | .error e s => .error e (s, state.2 ++ [⟨event, node⟩])

def Turn.call? (handlers : Handlers ε σ) (t : Turn) : Option Call :=
  (handlers t.event).map fun _ => ⟨t.event, t.node⟩

def calls (handlers : Handlers ε σ) (turns : List Turn) : List Call :=
  turns.filterMap (Turn.call? handlers)

theorem calls_cons (handlers : Handlers ε σ) (t : Turn) (turns : List Turn) :
    calls handlers (t :: turns) = (t.call? handlers).toList ++ calls handlers turns := by
  simp only [calls, List.filterMap_cons]
  cases t.call? handlers <;> rfl

theorem fire_recording (handlers : Handlers ε σ) (t : Turn) (s : σ) (made : List Call) :
    t.fire (recording handlers) (s, made) =
      match t.fire handlers s with
      | .ok _ after => .ok () (after, made ++ (t.call? handlers).toList)
      | .error e after => .error e (after, made ++ (t.call? handlers).toList) := by
  simp only [Turn.fire, fire, recording, Turn.call?]
  cases handlers t.event with
  | none =>
    change EStateM.Result.ok () (s, made) = .ok () (s, made ++ [])
    rw [List.append_nil]
  | some handler => rfl

/-- The outcome of a recorded run tells the calls of some turns: the state is that of the run without
a record, and the calls are all of them or, after a failure, those up to the turn that failed. -/
def Tells (handlers : Handlers ε σ) (turns : List Turn) (s : σ) (made : List Call) :
    EStateM.Result ε (σ × List Call) Unit → Prop
  | .ok _ last =>
    turns.forM (Turn.fire handlers) s = .ok () last.1 ∧ last.2 = made ++ calls handlers turns
  | .error e last =>
    turns.forM (Turn.fire handlers) s = .error e last.1 ∧
      ∃ before t after reached, turns = before ++ t :: after ∧
        before.forM (Turn.fire handlers) s = .ok () reached ∧
        t.fire handlers reached = .error e last.1 ∧
        last.2 = made ++ calls handlers (before ++ [t])

theorem tells_forM_recording (handlers : Handlers ε σ) (turns : List Turn) (s : σ)
    (made : List Call) :
    Tells handlers turns s made (turns.forM (Turn.fire (recording handlers)) (s, made)) := by
  induction turns generalizing s made with
  | nil => exact ⟨rfl, (List.append_nil made).symm⟩
  | cons t turns ih =>
    have ht := fire_recording handlers t s made
    cases hf : t.fire handlers s with
    | error e after =>
      rw [hf] at ht
      rw [forM_cons_error ht]
      refine ⟨forM_cons_error hf turns, [], t, turns, s, rfl, rfl, hf, ?_⟩
      rw [List.nil_append, calls_cons]
      simp [calls]
    | ok u after =>
      rw [hf] at ht
      rw [forM_cons_ok ht]
      have hrest := ih after (made ++ (t.call? handlers).toList)
      generalize turns.forM (Turn.fire (recording handlers)) _ = result at hrest
      cases result with
      | ok u last =>
        obtain ⟨hrun, hmade⟩ := hrest
        refine ⟨(forM_cons_ok hf turns).trans hrun, ?_⟩
        rw [hmade, calls_cons, List.append_assoc]
      | error e last =>
        obtain ⟨hrun, before, u, later, reached, rfl, hbefore, hu, hmade⟩ := hrest
        refine ⟨(forM_cons_ok hf _).trans hrun, t :: before, u, later, reached, rfl,
          (forM_cons_ok hf before).trans hbefore, hu, ?_⟩
        rw [hmade, List.cons_append, calls_cons, List.append_assoc]

end

/-- What a list of turns must be to go through a tree: every turn is at a place of the tree, every
place is entered once and left once, and what lies below a place comes between the two. -/
structure Traverses (tree : Value) (turns : List Turn) : Prop where
  sound : ∀ t ∈ turns, tree.at? t.place = some t.node
  once : ∀ place node leaving, tree.at? place = some node →
    turns.filter (Turn.isAt place leaving) = [⟨place, node, leaving⟩]
  nested : ∀ place outer i rest inner, tree.at? place = some outer →
    outer.at? (i :: rest) = some inner →
      [⟨place, outer, false⟩, ⟨place ++ i :: rest, inner, false⟩,
        ⟨place ++ i :: rest, inner, true⟩, ⟨place, outer, true⟩].Sublist turns

theorem traverses_timeline (tree : Value) : Traverses tree (timeline tree) where
  sound _ ht := at?_of_mem_timeline ht
  once _ _ leaving h := filter_timeline h leaving
  nested _ _ _ _ _ ho hi := nested_sublist ho hi

/-- On a node the walk with a stack is the walk by recursion: it makes the same calls, which follow
the timeline of the tree up to the first failure, and it ends in the same state or with the same
failure. Any other value is refused before a handler is called. -/
theorem walk_refines_visit {ε σ : Type} (handlers : Handlers ε σ) (refuse : Fault → ε)
    (tree : Value) :
    (tree.isNode = true →
      walk handlers refuse tree = visit handlers tree ∧
      walk (recording handlers) refuse tree = visit (recording handlers) tree ∧
      (∀ s, Tells handlers (timeline tree) s [] (walk (recording handlers) refuse tree (s, []))) ∧
      Traverses tree (timeline tree)) ∧
    (tree.isNode = false → ∀ s,
      walk handlers refuse tree s = .error (refuse (.notNode tree.kind)) s ∧
      walk (recording handlers) refuse tree (s, []) =
        .error (refuse (.notNode tree.kind)) (s, [])) := by
  refine ⟨fun h => ⟨walk_of_isNode handlers refuse h, walk_of_isNode _ refuse h, ?_,
    traverses_timeline tree⟩, fun h s => ?_⟩
  · intro s
    rw [walk_of_isNode _ refuse h, visit_eq_forM_timeline]
    exact tells_forM_recording handlers (timeline tree) s []
  · rw [walk_of_not_isNode handlers refuse h, walk_of_not_isNode _ refuse h]
    exact ⟨rfl, rfl⟩

def nestedStatements : Value :=
  .object [("type", .text "Program"), ("body", .list [
    .object [("type", .text "IfStatement"), ("consequent", .object [("type", .text "Stop")])],
    .object [("type", .text "EmptyStatement")]])]

def countUntilStop : Handlers Fault Nat
  | "IfStatement" | "EmptyStatement" | "Program:exit" => some fun _ => modify (· + 1)
  | "Stop" => some fun v => throw (.notNode v.kind)
  | _ => none

theorem walk_refines_visit_nestedStatements :
    (nestedStatements.isNode = true ∧
      walk countUntilStop id nestedStatements = visit countUntilStop nestedStatements ∧
      Tells countUntilStop (timeline nestedStatements) 0 []
        (walk (recording countUntilStop) id nestedStatements (0, []))) ∧
    (Value.isNode (.list [nestedStatements]) = false ∧
      walk countUntilStop id (.list [nestedStatements]) 0 = .error (.notNode .list) 0) := by
  have hnode : nestedStatements.isNode = true := by decide
  have hlist : Value.isNode (.list [nestedStatements]) = false := by decide
  obtain ⟨hwalk, -, htells, -⟩ := (walk_refines_visit countUntilStop id nestedStatements).1 hnode
  have hrefused := (walk_refines_visit countUntilStop id (.list [nestedStatements])).2 hlist 0
  exact ⟨⟨hnode, hwalk, htells 0⟩, hlist, hrefused.1⟩

end PrefixLint.Ast
