import PrefixLint.Visitor
import PrefixLint.Proofs.Timeline

/-!
# The operations of the visitor

What can be done to a visitor: note an export, a class or an element, resolve, reset, report. An
operation has an effect that is read off the convention and the notes alone: the notes it leaves, the
diagnostics it adds and the fault it ends with. The visitor realises exactly this effect, and apart
from it only the journal changes. Operations performed one after another stop at the first fault, and
the walk of a tree by the visitor's handlers performs the operations of the tree in this way.
-/

namespace PrefixLint

open Ast

inductive Operation where
  | noteExport (name : Option String)
  | noteClass (name : Option String)
  | noteElement (element : Value)
  | resolve (node : Value)
  | reset
  | report (node : Value) (message : String)

/-- The diagnostics due when a unit ends at a node with some component name and pending elements. -/
def judge (convention : Option Convention) (node : Value) (component : Option String) :
    List Value → Except Ast.Fault (List Diagnostic)
  | [] => .ok []
  | element :: rest =>
    match component with
    | none => .ok [.ofNode node missingPrefixMessage ruleId]
    | some name => Markup.validate (transform convention name ++ separator) (element :: rest)

structure Effect where
  fault : Option Ast.Fault := none
  notes : Notes
  found : List Diagnostic := []

def Effect.result (e : Effect) (v : Visitor) (journal : Journal) :
    EStateM.Result Ast.Fault Visitor Unit :=
  let after := { v with notes := e.notes, diagnostics := v.diagnostics ++ e.found, journal }
  match e.fault with
  | none => .ok () after
  | some f => .error f after

theorem Effect.result_quiet (notes : Notes) (v : Visitor) :
    ({ notes } : Effect).result v v.journal = .ok () { v with notes } := by
  simp only [Effect.result, Array.appendList_nil]

theorem Effect.result_fault (notes : Notes) (f : Ast.Fault) (v : Visitor) (journal : Journal) :
    ({ notes, fault := some f } : Effect).result v journal = .error f { v with notes, journal } := by
  simp only [Effect.result, Array.appendList_nil]

def Effect.after (later first : Effect) : Effect :=
  { later with found := first.found ++ later.found }

@[simp] theorem Effect.after_fault (later first : Effect) :
    (later.after first).fault = later.fault := rfl

@[simp] theorem Effect.after_notes (later first : Effect) :
    (later.after first).notes = later.notes := rfl

theorem Effect.after_after (last later first : Effect) :
    (last.after later).after first = last.after (later.after first) := by
  simp only [Effect.after, List.append_assoc]

theorem Effect.result_after (later first : Effect) (v : Visitor) (j journal : Journal) :
    later.result { v with
      notes := first.notes, diagnostics := v.diagnostics ++ first.found, journal := j } journal =
      (later.after first).result v journal := by
  have h : v.diagnostics ++ first.found ++ later.found =
      v.diagnostics ++ (first.found ++ later.found) := by
    apply Array.ext'
    simp only [Array.toList_appendList, List.append_assoc]
  simp only [Effect.result, Effect.after, h]

namespace Operation

def perform : Operation → EStateM Ast.Fault Visitor Unit
  | noteExport name => modify (Visitor.onExport name)
  | noteClass name => modify (Visitor.onClass name)
  | noteElement element => modify (Visitor.onElement element)
  | resolve node => Visitor.resolve node
  | reset => modify Visitor.reset
  | report node message => modify (Visitor.report node message)

def effect (convention : Option Convention) (notes : Notes) : Operation → Effect
  | noteExport name => { notes := notes.recordExport name }
  | noteClass name => { notes := notes.recordClass name }
  | noteElement element => { notes := notes.recordElement element }
  | resolve node =>
    match judge convention node notes.component notes.pending.toList with
    | .ok found => { notes := {}, found }
    | .error f => { notes := {}, fault := some f }
  | reset => { notes := {} }
  | report node message => { notes, found := [.ofNode node message ruleId] }

theorem resolve_realises (node : Value) (v : Visitor) :
    ∃ journal, Visitor.resolve node v =
      ((resolve node).effect v.convention v.notes).result v journal := by
  obtain ⟨convention, unit, ⟨exported, defined, ⟨pending⟩⟩, diagnostics, journal⟩ := v
  cases pending with
  | nil =>
    exact ⟨journal, (Effect.result_quiet {} _).symm⟩
  | cons element rest =>
    cases hc : exported.or defined with
    | none =>
      apply Exists.intro
      simp only [Visitor.resolve, Visitor.resolvePrefix?, Notes.component, hc, Visitor.log,
        effect, judge, Option.map_none]
      rfl
    | some name =>
      apply Exists.intro
      simp only [Visitor.resolve, Visitor.resolvePrefix?, Notes.component, hc, Visitor.log,
        effect, judge, Option.map_some]
      cases Markup.validate (transform convention name ++ separator) (element :: rest) with
      | ok found => rfl
      | error f => exact (Effect.result_fault {} f _ _).symm

theorem perform_realises (op : Operation) (v : Visitor) :
    ∃ journal, op.perform v = (op.effect v.convention v.notes).result v journal := by
  cases op with
  | noteExport name => exact ⟨v.journal, (Effect.result_quiet _ v).symm⟩
  | noteClass name => exact ⟨v.journal, (Effect.result_quiet _ v).symm⟩
  | noteElement element => exact ⟨v.journal, (Effect.result_quiet _ v).symm⟩
  | resolve node => exact resolve_realises node v
  | reset => exact ⟨v.journal, (Effect.result_quiet {} v).symm⟩
  | report node message => exact ⟨v.journal, rfl⟩

def effects (convention : Option Convention) (notes : Notes) : List Operation → Effect
  | [] => { notes }
  | op :: rest =>
    let first := op.effect convention notes
    match first.fault with
    | some _ => first
    | none =>
      (effects convention first.notes rest).after first

theorem forM_perform_realises (ops : List Operation) (v : Visitor) :
    ∃ journal, ops.forM perform v = (effects v.convention v.notes ops).result v journal := by
  induction ops generalizing v with
  | nil => exact ⟨v.journal, (Effect.result_quiet v.notes v).symm⟩
  | cons op rest ih =>
    obtain ⟨j, hj⟩ := perform_realises op v
    cases hf : (op.effect v.convention v.notes).fault with
    | some f =>
      refine ⟨j, ?_⟩
      simp only [Effect.result, hf] at hj
      rw [forM_cons_error hj]
      simp only [effects, hf, Effect.result]
    | none =>
      simp only [Effect.result, hf] at hj
      obtain ⟨k, hk⟩ := ih { v with
        notes := (op.effect v.convention v.notes).notes
        diagnostics := v.diagnostics ++ (op.effect v.convention v.notes).found
        journal := j }
      refine ⟨k, ?_⟩
      rw [forM_cons_ok hj, hk]
      simp only [effects, hf, Effect.result_after]

theorem effects_append (convention : Option Convention) (notes : Notes) (xs ys : List Operation) :
    effects convention notes (xs ++ ys) =
      match (effects convention notes xs).fault with
      | some _ => effects convention notes xs
      | none =>
        (effects convention (effects convention notes xs).notes ys).after
          (effects convention notes xs) := by
  induction xs generalizing notes with
  | nil => rfl
  | cons op rest ih =>
    simp only [List.cons_append, effects]
    cases hf : (op.effect convention notes).fault with
    | some f => simp only [hf]
    | none =>
      simp only [ih, Effect.after_fault, Effect.after_notes]
      cases (effects convention (op.effect convention notes).notes rest).fault with
      | some f => rfl
      | none => simp only [Effect.after_after]

def clears : Operation → Bool
  | resolve _ | reset => true
  | _ => false

theorem effect_notes_of_clears (convention : Option Convention) (notes : Notes) {op : Operation}
    (h : op.clears = true) : (op.effect convention notes).notes = {} := by
  cases op with
  | resolve node =>
    simp only [effect]
    cases judge convention node notes.component notes.pending.toList <;> rfl
  | reset => rfl
  | _ => cases h

theorem effect_fault_of_not_clears (convention : Option Convention) (notes : Notes) {op : Operation}
    (h : op.clears = false) : (op.effect convention notes).fault = none := by
  cases op with
  | resolve node => cases h
  | _ => rfl

theorem effects_notes_of_fault {convention : Option Convention} {notes : Notes}
    {ops : List Operation} (h : (effects convention notes ops).fault ≠ none) :
    (effects convention notes ops).notes = {} := by
  induction ops generalizing notes with
  | nil => exact absurd rfl h
  | cons op rest ih =>
    cases hf : (op.effect convention notes).fault with
    | some f =>
      -- A fault can only come from resolving, which clears the notes before it passes the fault on.
      have hc : op.clears = true := by
        by_contra hc
        rw [effect_fault_of_not_clears convention notes (Bool.eq_false_iff.mpr hc)] at hf
        cases hf
      simp only [effects, hf]
      exact effect_notes_of_clears convention notes hc
    | none =>
      simp only [effects, hf, Effect.after_fault] at h ⊢
      exact ih h

theorem effects_notes_of_clears_last (convention : Option Convention) (notes : Notes)
    (ops : List Operation) {last : Operation} (h : last.clears = true) :
    (effects convention notes (ops ++ [last])).notes = {} := by
  rw [effects_append]
  cases hf : (effects convention notes ops).fault with
  | some f => exact effects_notes_of_fault (by simp [hf])
  | none =>
    have hl := effect_notes_of_clears convention (effects convention notes ops).notes h
    simp only [Effect.after_notes, effects]
    split
    · exact hl
    · exact hl

def ofEvent? (event : String) (node : Value) : Option Operation :=
  match event with
  | "ExportDefaultDeclaration" => some (noteExport (exportName? node))
  | "ClassDeclaration" => some (noteClass (className? node))
  | "JSXElement" => if Markup.hasClassAttribute node then some (noteElement node) else none
  | "Program:exit" => some (resolve node)
  | _ => none

theorem forM_perform_singleton (op : Operation) : [op].forM perform = op.perform := by
  simp only [List.forM_eq_forM, List.forM_cons, List.forM_nil, bind_pure_unit]

theorem modify_onNode (node : Value) :
    (modify (Visitor.onNode node) : EStateM Ast.Fault Visitor Unit) =
      (if Markup.hasClassAttribute node then some (noteElement node) else none).toList.forM
        perform := by
  cases h : Markup.hasClassAttribute node with
  | true =>
    have hv : Visitor.onNode node = Visitor.onElement node := by
      funext v
      simp only [Visitor.onNode, h, if_true]
    rw [hv]
    exact (forM_perform_singleton (noteElement node)).symm
  | false =>
    funext v
    change EStateM.Result.ok () (Visitor.onNode node v) = .ok () v
    simp only [Visitor.onNode, h, Bool.false_eq_true, if_false]

theorem fire_handlers (event : String) (node : Value) :
    fire Visitor.handlers event node = (ofEvent? event node).toList.forM perform := by
  unfold fire Visitor.handlers ofEvent?
  split <;> rename_i hh <;> split at hh <;> cases hh
  · exact (forM_perform_singleton (noteExport _)).symm
  · exact (forM_perform_singleton (noteClass _)).symm
  · exact modify_onNode node
  · exact (forM_perform_singleton (resolve node)).symm
  · simp

end Operation

open Operation

def operations (tree : Value) : List Operation :=
  (timeline tree).filterMap fun t => ofEvent? t.event t.node

theorem walk_handlers (refuse : Ast.Fault → Ast.Fault) {tree : Value} (h : tree.isNode = true) :
    walk Visitor.handlers refuse tree = (operations tree).forM perform := by
  rw [walk_of_isNode _ refuse h, visit_eq_forM_timeline, operations]
  induction timeline tree with
  | nil => rfl
  | cons t turns ih =>
    have ht : t.fire Visitor.handlers = (ofEvent? t.event t.node).toList.forM perform :=
      fire_handlers t.event t.node
    simp only [List.forM_eq_forM] at ih ht ⊢
    rw [List.forM_cons, ht, ih, List.filterMap_cons]
    cases ofEvent? t.event t.node with
    | none => simp
    | some op => simp

def entering (v : Value) : Option Operation := ofEvent? v.nodeType v

theorem operations_eq (v : Value) :
    operations v = (entering v).toList ++ v.children.flatMap operations ++
      (ofEvent? (v.nodeType ++ exitMark) v).toList := by
  have hc := filterMap_timelines (f := fun t : Turn => ofEvent? t.event t.node) (fun _ _ => rfl)
    v.children 0
  have hs (t : Turn) : [t].filterMap (fun t : Turn => ofEvent? t.event t.node) =
      (ofEvent? t.event t.node).toList := by
    cases h : ofEvent? t.event t.node <;> simp [h]
  rw [operations, timeline_eq, ← List.singleton_append, List.filterMap_append,
    List.filterMap_append, hc, hs, hs, ← List.append_assoc]
  rfl

theorem eq_program_of_append_exitMark {type : String} (h : type ++ exitMark = "Program:exit") :
    type = "Program" := by
  have hl : type.toList ++ exitMark.toList = "Program".toList ++ exitMark.toList := by
    rw [← String.toList_append, h]
    decide
  exact String.toList_inj.mp (List.append_cancel_right hl)

theorem append_exitMark_ne {type event : String} (h : ¬ exitMark.toList <:+ event.toList) :
    type ++ exitMark ≠ event := by
  rintro rfl
  rw [String.toList_append] at h
  exact h (List.suffix_append _ _)

theorem leaving_of_ne_program {type : String} (h : type ≠ "Program") (v : Value) :
    ofEvent? (type ++ exitMark) v = none := by
  unfold ofEvent?
  split
  · next he => exact absurd he (append_exitMark_ne (by decide))
  · next he => exact absurd he (append_exitMark_ne (by decide))
  · next he => exact absurd he (append_exitMark_ne (by decide))
  · next he => exact absurd (eq_program_of_append_exitMark he) h
  · rfl

theorem operations_of_no_program {v : Value} (h : ∀ u ∈ preorder v, u.nodeType ≠ "Program") :
    operations v = (preorder v).filterMap entering := by
  induction v using children_induction with
  | h v ih =>
    rw [preorder_eq] at h
    have hv := h v List.mem_cons_self
    -- Leaving `v` fires nothing, so only what the children contribute is left to compare.
    have hc : v.children.flatMap operations =
        v.children.flatMap fun c => (preorder c).filterMap entering := by
      apply List.flatMap_congr
      intro c hc
      exact ih c hc fun u hu =>
        h u (List.mem_cons_of_mem v (List.mem_flatMap.mpr ⟨c, hc, hu⟩))
    rw [operations_eq, leaving_of_ne_program hv, hc, preorder_eq, List.filterMap_cons,
      List.filterMap_flatMap]
    cases entering v <;> simp

theorem operations_children {v : Value}
    (h : ∀ u ∈ v.children.flatMap preorder, u.nodeType ≠ "Program") :
    v.children.flatMap operations = (v.children.flatMap preorder).filterMap entering := by
  rw [List.filterMap_flatMap]
  apply List.flatMap_congr
  intro c hc
  exact operations_of_no_program fun u hu => h u (List.mem_flatMap.mpr ⟨c, hc, hu⟩)

theorem entering_program {v : Value} (h : v.nodeType = "Program") : entering v = none := by
  rw [entering, h]
  rfl

theorem operations_program {tree : Value} (h : tree.nodeType = "Program") :
    operations tree = tree.children.flatMap operations ++ [resolve tree] := by
  have hleave : ofEvent? (tree.nodeType ++ exitMark) tree = some (resolve tree) := by
    rw [h]
    rfl
  rw [operations_eq, entering_program h, hleave]
  rfl

end PrefixLint
