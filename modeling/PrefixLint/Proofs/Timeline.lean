import Mathlib.Data.List.Basic
import PrefixLint.Ast.Walk

/-!
# The timeline of a walk

The turns of a walk over a tree, in order: each node is entered, its children follow, and it is left.
A turn carries the place of its node, which is the list of child indices that lead to it, so that
equal nodes at different places stay apart. The walk by recursion is the timeline fired turn by turn.
Every place of the tree is entered once and left once, and the turns of everything below a place lie
between the two.
-/

namespace PrefixLint.Ast

structure Turn where
  place : List Nat
  node : Value
  leaving : Bool

namespace Turn

def event (t : Turn) : String :=
  if t.leaving then t.node.nodeType ++ exitMark else t.node.nodeType

def fire {ε σ : Type} (handlers : Handlers ε σ) (t : Turn) : EStateM ε σ Unit :=
  Ast.fire handlers t.event t.node

def below (i : Nat) (t : Turn) : Turn := { t with place := i :: t.place }

end Turn

def timeline (v : Value) : List Turn :=
  ⟨[], v, false⟩ ::
    (v.children.attach.zipIdx.flatMap fun c => (timeline c.1.val).map (Turn.below c.2)) ++
      [⟨[], v, true⟩]
termination_by sizeOf v
decreasing_by exact Value.sizeOf_lt_of_mem_children c.1.property

def timelines (vs : List Value) (k : Nat) : List Turn :=
  (vs.zipIdx k).flatMap fun c => (timeline c.1).map (Turn.below c.2)

theorem timeline_eq (v : Value) :
    timeline v = ⟨[], v, false⟩ :: (timelines v.children 0 ++ [⟨[], v, true⟩]) := by
  have h : v.children.zipIdx = v.children.attach.zipIdx.map (Prod.map Subtype.val id) := by
    rw [← List.zipIdx_map, List.attach_map_subtype_val]
  rw [timeline, timelines, h, List.flatMap_map]
  rfl

theorem timelines_cons (v : Value) (vs : List Value) (k : Nat) :
    timelines (v :: vs) k = (timeline v).map (Turn.below k) ++ timelines vs (k + 1) := by
  simp only [timelines, List.zipIdx_cons, List.flatMap_cons]

theorem isNode_of_nodeType {v : Value} {type : String} (h : v.nodeType = type) (hne : type ≠ "") :
    v.isNode = true := by
  unfold Value.nodeType at h
  unfold Value.isNode
  cases ht : v.nodeType? with
  | none =>
    rw [ht] at h
    exact absurd h.symm hne
  | some t => rfl

theorem preorder_eq (v : Value) : preorder v = v :: v.children.flatMap preorder := by
  rw [preorder, List.flatMap_subtype, List.unattach_attach]
  intro c hc
  rfl

theorem self_mem_preorder (v : Value) : v ∈ preorder v := by
  rw [preorder_eq]
  exact List.mem_cons_self

theorem mem_preorder_of_child {v c u : Value} (hc : c ∈ v.children) (hu : u ∈ preorder c) :
    u ∈ preorder v := by
  rw [preorder_eq]
  exact List.mem_cons_of_mem v (List.mem_flatMap.mpr ⟨c, hc, hu⟩)

theorem filterMap_timelines {α : Type} {f : Turn → Option α} (hf : ∀ i t, f (Turn.below i t) = f t)
    (vs : List Value) (k : Nat) :
    (timelines vs k).filterMap f = vs.flatMap fun v => (timeline v).filterMap f := by
  induction vs generalizing k with
  | nil => rfl
  | cons v vs ih =>
    have hv : f ∘ Turn.below k = f := funext fun t => hf k t
    rw [timelines_cons, List.filterMap_append, List.filterMap_map, hv, ih, List.flatMap_cons]

theorem children_induction {P : Value → Prop} (h : ∀ v, (∀ c ∈ v.children, P c) → P v) (v : Value) :
    P v :=
  h v fun c _hc => children_induction h c
termination_by sizeOf v
decreasing_by exact Value.sizeOf_lt_of_mem_children _hc

section Walk

variable {ε σ : Type}

theorem forM_cons_ok {α : Type} {f : α → EStateM ε σ Unit} {a : α} {s s' : σ}
    (h : f a s = .ok () s') (as : List α) : (a :: as).forM f s = as.forM f s' := by
  simp only [List.forM, bind, EStateM.bind, h]

theorem forM_cons_error {α : Type} {f : α → EStateM ε σ Unit} {a : α} {s s' : σ} {e : ε}
    (h : f a s = .error e s') (as : List α) : (a :: as).forM f s = .error e s' := by
  simp only [List.forM, bind, EStateM.bind, h]

variable (handlers : Handlers ε σ)

theorem visit_eq (v : Value) :
    visit handlers v = (do
      fire handlers v.nodeType v
      v.children.forM (visit handlers)
      fire handlers (v.nodeType ++ exitMark) v) := by
  have h : (v.children.attach.forM fun c => visit handlers c.val) =
      v.children.forM (visit handlers) := by
    conv_rhs => rw [← List.attach_map_subtype_val v.children]
    simp only [List.forM_eq_forM, List.forM_map]
  rw [visit, h]

theorem forM_timelines (vs : List Value) (k : Nat)
    (h : ∀ v ∈ vs, visit handlers v = (timeline v).forM (Turn.fire handlers)) :
    (timelines vs k).forM (Turn.fire handlers) = vs.forM (visit handlers) := by
  induction vs generalizing k with
  | nil => rfl
  | cons v vs ih =>
    have hv := h v List.mem_cons_self
    have hvs := ih (k + 1) fun w hw => h w (List.mem_cons_of_mem v hw)
    simp only [List.forM_eq_forM] at hv hvs ⊢
    rw [timelines_cons, List.forM_append, List.forM_map, List.forM_cons, hvs, hv]
    rfl

theorem visit_eq_forM_timeline (v : Value) :
    visit handlers v = (timeline v).forM (Turn.fire handlers) := by
  induction v using children_induction with
  | h v ih =>
    have hc := forM_timelines handlers v.children 0 ih
    simp only [List.forM_eq_forM] at hc ⊢
    rw [visit_eq, timeline_eq, List.forM_cons, List.forM_append, hc]
    simp only [List.forM_eq_forM, List.forM_cons, List.forM_nil, bind_pure_unit]
    rfl

def Task.complete : Task → EStateM ε σ Unit
  | .enter v => visit handlers v
  | .leave v => fire handlers (v.nodeType ++ exitMark) v

/-- A stack of tasks stands for the rest of the walk by recursion: every task on it is completed
before the one beneath it. -/
theorem perform_eq_forM (tasks : List Task) :
    perform handlers tasks = tasks.forM (Task.complete handlers) := by
  induction tasks using perform.induct with
  | case1 => rw [perform]; rfl
  | case2 v rest ih =>
    -- The leaving of `v` lies under its children, so completing them all is visiting `v`.
    simp only [List.forM_eq_forM, enterAll, List.forM_append, List.forM_map,
      List.forM_cons] at ih ⊢
    rw [perform, enterAll, ih, Task.complete, visit_eq]
    simp only [List.forM_eq_forM, Task.complete, bind_assoc]
  | case3 v rest ih =>
    simp only [List.forM_eq_forM, List.forM_cons] at ih ⊢
    rw [perform, ih, Task.complete]

theorem walk_of_isNode (refuse : Fault → ε) {tree : Value} (h : tree.isNode = true) :
    walk handlers refuse tree = visit handlers tree := by
  rw [walk, if_pos h, perform_eq_forM]
  simp only [List.forM_eq_forM, List.forM_cons, List.forM_nil, bind_pure_unit, Task.complete]

theorem walk_of_not_isNode (refuse : Fault → ε) {tree : Value} (h : tree.isNode = false) :
    walk handlers refuse tree = throw (refuse (.notNode tree.kind)) := by
  rw [walk, h]
  rfl

end Walk

section Places

def Value.at? (v : Value) : List Nat → Option Value
  | [] => some v
  | i :: rest => v.children[i]?.bind fun c => c.at? rest

def Turn.isAt (place : List Nat) (leaving : Bool) (t : Turn) : Bool :=
  decide (t.place = place ∧ t.leaving = leaving)

theorem mem_timelines {t : Turn} {vs : List Value} :
    t ∈ timelines vs 0 ↔ ∃ i c u, vs[i]? = some c ∧ u ∈ timeline c ∧ t = u.below i := by
  simp only [timelines, List.mem_flatMap, List.mem_map, Prod.exists, List.mk_mem_zipIdx_iff_getElem?]
  constructor
  · rintro ⟨c, i, hc, u, hu, rfl⟩
    exact ⟨i, c, u, hc, hu, rfl⟩
  · rintro ⟨i, c, u, hc, hu, rfl⟩
    exact ⟨c, i, hc, u, hu, rfl⟩

theorem at?_of_mem_timeline {v : Value} {t : Turn} (h : t ∈ timeline v) :
    v.at? t.place = some t.node := by
  induction v using children_induction generalizing t with
  | h v ih =>
    rw [timeline_eq, List.mem_cons, List.mem_append, List.mem_singleton] at h
    rcases h with rfl | h | rfl
    · rfl
    · obtain ⟨i, c, u, hc, hu, rfl⟩ := mem_timelines.mp h
      have hu' := ih c (List.mem_of_getElem? hc) hu
      simpa only [Turn.below, Value.at?, hc, Option.bind_some] using hu'
    · rfl

theorem filter_map_below_self (turns : List Turn) (i : Nat) (rest : List Nat) (leaving : Bool) :
    (turns.map (Turn.below i)).filter (Turn.isAt (i :: rest) leaving) =
      (turns.filter (Turn.isAt rest leaving)).map (Turn.below i) := by
  rw [List.filter_map]
  congr 2
  funext t
  simp only [Function.comp_apply, Turn.isAt, Turn.below, List.cons.injEq, true_and]

theorem filter_map_below_ne (turns : List Turn) {i j : Nat} (h : i ≠ j) (rest : List Nat)
    (leaving : Bool) : (turns.map (Turn.below i)).filter (Turn.isAt (j :: rest) leaving) = [] := by
  rw [List.filter_eq_nil_iff]
  intro t ht
  obtain ⟨u, -, rfl⟩ := List.mem_map.mp ht
  simp [Turn.isAt, Turn.below, h]

theorem filter_timelines_of_lt (vs : List Value) {i k : Nat} (h : i < k) (rest : List Nat)
    (leaving : Bool) : (timelines vs k).filter (Turn.isAt (i :: rest) leaving) = [] := by
  induction vs generalizing k with
  | nil => rfl
  | cons v vs ih =>
    rw [timelines_cons, List.filter_append, filter_map_below_ne _ (by omega), ih (by omega)]
    rfl

theorem filter_timelines {vs : List Value} {i : Nat} {c : Value} (h : vs[i]? = some c) (k : Nat)
    (rest : List Nat) (leaving : Bool) :
    (timelines vs k).filter (Turn.isAt ((k + i) :: rest) leaving) =
      ((timeline c).filter (Turn.isAt rest leaving)).map (Turn.below (k + i)) := by
  induction vs generalizing i k with
  | nil => simp at h
  | cons v vs ih =>
    rw [timelines_cons, List.filter_append]
    cases i with
    | zero =>
      obtain rfl : v = c := by simpa using h
      rw [Nat.add_zero, filter_map_below_self, filter_timelines_of_lt vs (Nat.lt_succ_self k),
        List.append_nil]
    | succ i =>
      have hk : k + (i + 1) = k + 1 + i := by omega
      rw [hk, filter_map_below_ne _ (by omega), List.nil_append]
      exact ih (by simpa using h) (k + 1)

theorem filter_timeline {v node : Value} {place : List Nat} (h : v.at? place = some node)
    (leaving : Bool) :
    (timeline v).filter (Turn.isAt place leaving) = [⟨place, node, leaving⟩] := by
  induction place generalizing v with
  | nil =>
    obtain rfl : v = node := by simpa [Value.at?] using h
    have hc : (timelines v.children 0).filter (Turn.isAt [] leaving) = [] := by
      rw [List.filter_eq_nil_iff]
      intro t ht
      obtain ⟨i, c, u, -, -, rfl⟩ := mem_timelines.mp ht
      simp [Turn.isAt, Turn.below]
    rw [timeline_eq, List.filter_cons, List.filter_append, hc]
    cases leaving <;> rfl
  | cons i rest ih =>
    obtain ⟨c, hc, hrest⟩ := Option.bind_eq_some_iff.mp h
    have hi := filter_timelines hc 0 rest leaving
    rw [Nat.zero_add, ih hrest] at hi
    rw [timeline_eq, List.filter_cons, List.filter_append, hi]
    simp [Turn.isAt, Turn.below]

theorem map_below_sublist_timelines {v c : Value} {i : Nat} (h : v.children[i]? = some c)
    {turns : List Turn} (hs : turns.Sublist (timeline c)) :
    (turns.map (Turn.below i)).Sublist (timelines v.children 0) := by
  have hm : (timeline c).map (Turn.below i) ∈
      v.children.zipIdx.map fun c => (timeline c.1).map (Turn.below c.2) :=
    List.mem_map.mpr ⟨(c, i), List.mk_mem_zipIdx_iff_getElem?.mpr h, rfl⟩
  rw [timelines, List.flatMap_def]
  exact (hs.map _).trans (List.sublist_flatten_of_mem hm)

theorem timelines_sublist_timeline (v : Value) :
    (timelines v.children 0).Sublist (timeline v) := by
  rw [timeline_eq]
  exact (List.sublist_append_left _ _).cons _

theorem enter_leave_sublist {v node : Value} {place : List Nat} (h : v.at? place = some node) :
    [⟨place, node, false⟩, ⟨place, node, true⟩].Sublist (timeline v) := by
  induction place generalizing v with
  | nil =>
    obtain rfl : v = node := by simpa [Value.at?] using h
    rw [timeline_eq]
    exact (List.sublist_append_right _ _).cons_cons _
  | cons i rest ih =>
    obtain ⟨c, hc, hrest⟩ := Option.bind_eq_some_iff.mp h
    exact (map_below_sublist_timelines hc (ih hrest)).trans (timelines_sublist_timeline v)

/-- The turns of a place below another lie between the entering and the leaving of the other. -/
theorem nested_sublist {v outer inner : Value} {place : List Nat} {i : Nat} {rest : List Nat}
    (ho : v.at? place = some outer) (hi : outer.at? (i :: rest) = some inner) :
    [⟨place, outer, false⟩, ⟨place ++ i :: rest, inner, false⟩, ⟨place ++ i :: rest, inner, true⟩,
      ⟨place, outer, true⟩].Sublist (timeline v) := by
  induction place generalizing v with
  | nil =>
    obtain rfl : v = outer := by simpa [Value.at?] using ho
    obtain ⟨c, hc, hrest⟩ := Option.bind_eq_some_iff.mp hi
    have hs := map_below_sublist_timelines hc (enter_leave_sublist hrest)
    rw [timeline_eq]
    exact (hs.append (List.Sublist.refl [⟨[], v, true⟩])).cons_cons _
  | cons j place ih =>
    obtain ⟨c, hc, hplace⟩ := Option.bind_eq_some_iff.mp ho
    exact (map_below_sublist_timelines hc (ih hplace)).trans (timelines_sublist_timeline v)

end Places

end PrefixLint.Ast
