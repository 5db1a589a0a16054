import PrefixLint.Proofs.Operations

/-!
# Units through one visitor

A visitor can be walked over one program after another, whether or not a walk fails. Leaving a
program clears the notes on every path and a fault comes from nowhere else, so each walk of a program
starts and ends without notes. What it adds is then the same as for a visitor that saw nothing before.
-/

namespace PrefixLint

open Ast Operation

structure Stage where
  before : Visitor
  fault : Option Ast.Fault
  after : Visitor

def Stage.added (s : Stage) : List Diagnostic :=
  s.after.diagnostics.toList.drop s.before.diagnostics.size

def Stage.of (tree : Value) (v : Visitor) : Stage :=
  match walk Visitor.handlers id tree v with
  | .ok _ after => ⟨v, none, after⟩
  | .error f after => ⟨v, some f, after⟩

def series : List Value → Visitor → List Stage
  | [], _ => []
  | tree :: rest, v => Stage.of tree v :: series rest (Stage.of tree v).after

theorem stage_eq {tree : Value} (h : tree.isNode = true) (v : Visitor) :
    ∃ journal, Stage.of tree v =
      let e := effects v.convention v.notes (operations tree)
      { before := v
        fault := e.fault
        after := { v with
          notes := e.notes, diagnostics := v.diagnostics ++ e.found, journal } } := by
  obtain ⟨journal, hj⟩ := forM_perform_realises (operations tree) v
  refine ⟨journal, ?_⟩
  rw [Stage.of, walk_handlers id h, hj]
  simp only [Effect.result]
  cases (effects v.convention v.notes (operations tree)).fault <;> rfl

theorem stage_added {tree : Value} (h : tree.isNode = true) (v : Visitor) :
    (Stage.of tree v).before.diagnostics.toList ++ (Stage.of tree v).added =
        (Stage.of tree v).after.diagnostics.toList ∧
      (Stage.of tree v).added = (effects v.convention v.notes (operations tree)).found := by
  obtain ⟨journal, hs⟩ := stage_eq h v
  rw [hs]
  simp [Stage.added]

theorem stage_program {tree : Value} (h : tree.nodeType = "Program") (v : Visitor) :
    (Stage.of tree v).after.notes = {} ∧ (Stage.of tree v).after.convention = v.convention := by
  obtain ⟨journal, hs⟩ := stage_eq (isNode_of_nodeType h (by decide)) v
  rw [hs, operations_program h]
  exact ⟨effects_notes_of_clears_last v.convention v.notes _ rfl, rfl⟩

theorem stage_congr {tree : Value} (h : tree.isNode = true) {v w : Visitor}
    (hc : v.convention = w.convention) (hn : v.notes = w.notes) :
    ((Stage.of tree v).fault, (Stage.of tree v).added) =
      ((Stage.of tree w).fault, (Stage.of tree w).added) := by
  rw [(stage_added h v).2, (stage_added h w).2, hc, hn]
  obtain ⟨j, hv⟩ := stage_eq h v
  obtain ⟨k, hw⟩ := stage_eq h w
  rw [hv, hw, hc, hn]

theorem series_of_empty_notes (v fresh : Visitor) {trees : List Value}
    (h : ∀ t ∈ trees, t.nodeType = "Program") (hc : v.convention = fresh.convention)
    (hv : v.notes = {}) (hf : fresh.notes = {}) :
    (series trees v).map (fun s => (s.fault, s.added)) =
        trees.map (fun t => ((Stage.of t fresh).fault, (Stage.of t fresh).added)) ∧
      ∀ s ∈ series trees v, s.after.notes = {} ∧
        s.before.diagnostics.toList ++ s.added = s.after.diagnostics.toList := by
  induction trees generalizing v with
  | nil => exact ⟨rfl, fun s hs => absurd hs List.not_mem_nil⟩
  | cons tree rest ih =>
    have htype := h tree List.mem_cons_self
    have hnode := isNode_of_nodeType htype (by decide)
    obtain ⟨hnotes, hkept⟩ := stage_program htype v
    obtain ⟨hrest, hall⟩ := ih (Stage.of tree v).after
      (fun t ht => h t (List.mem_cons_of_mem tree ht)) (hkept.trans hc) hnotes
    constructor
    · simp only [series, List.map_cons, hrest, stage_congr hnode hc (hv.trans hf.symm)]
    · intro s hs
      rcases List.mem_cons.mp hs with rfl | hs
      · exact ⟨hnotes, (stage_added hnode v).1⟩
      · exact hall s hs

/-- Programs walked one after another through one visitor end as they do alone and add the same
diagnostics, and the visitor has no notes after any of them. -/
theorem series_isolated (convention : Option Convention) (unit unit' : String)
    (journal journal' : Journal) (trees : List Value) (h : ∀ t ∈ trees, t.nodeType = "Program") :
    (series trees { convention, unit, journal }).map (fun s => (s.fault, s.added)) =
        trees.map (fun t =>
          let alone := Stage.of t { convention, unit := unit', journal := journal' }
          (alone.fault, alone.added)) ∧
      ∀ s ∈ series trees { convention, unit, journal },
        s.after.notes.exported = none ∧ s.after.notes.defined = none ∧
        s.after.notes.pending = #[] ∧
        s.before.diagnostics.toList ++ s.added = s.after.diagnostics.toList := by
  obtain ⟨hmap, hall⟩ := series_of_empty_notes { convention, unit, journal }
    { convention, unit := unit', journal := journal' } h rfl rfl rfl
  refine ⟨hmap, fun s hs => ?_⟩
  obtain ⟨hnotes, hadded⟩ := hall s hs
  rw [hnotes]
  exact ⟨rfl, rfl, rfl, hadded⟩

def unjudgeableProgram : Value :=
  .object [("type", .text "Program"), ("body", .list [
    .object [("type", .text "ClassDeclaration"),
      ("id", .object [("type", .text "Identifier"), ("name", .text "Card")])],
    .object [("type", .text "JSXElement"), ("openingElement", .object [("attributes", .list [
      .object [("name", .object [("name", .text "className")]),
        ("value", .object [("type", .list [])])]])])]])]

def namelessProgram : Value :=
  .object [("type", .text "Program"), ("body", .list [
    .object [("type", .text "JSXElement"), ("openingElement", .object [("attributes", .list [
      .object [("name", .object [("name", .text "className")]),
        ("value", .object [("type", .text "Literal"), ("value", .text "card__title")])]])])]])]

theorem series_isolated_after_fault :
    (∀ t ∈ [unjudgeableProgram, namelessProgram], t.nodeType = "Program") ∧
      (series [unjudgeableProgram, namelessProgram] { convention := none, unit := "a" }).map
          (fun s => (s.fault, s.added)) =
        [unjudgeableProgram, namelessProgram].map (fun t =>
          let alone := Stage.of t { convention := none, unit := "b" }
          (alone.fault, alone.added)) ∧
      (series [unjudgeableProgram, namelessProgram] { convention := none, unit := "a" }).map
          (fun s => (s.fault, s.added.map (·.message))) =
        [(some (.compositeType .list), []), (none, [missingPrefixMessage])] := by
  have h : ∀ t ∈ [unjudgeableProgram, namelessProgram], t.nodeType = "Program" := by
    intro t ht
    rcases List.mem_cons.mp ht with rfl | ht
    · decide
    · rw [List.mem_singleton.mp ht]
      decide
  exact ⟨h, (series_isolated none "a" "b" {} {} _ h).1, by decide +kernel⟩

end PrefixLint
