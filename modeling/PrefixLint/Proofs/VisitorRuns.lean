import Mathlib.Data.List.DropRight
import Mathlib.Data.List.Infix
import PrefixLint.Proofs.Operations

/-!
# Runs of the visitor

A run performs operations in any order; one that fails is recorded and the run goes on. The state of
the visitor is a function of the operations so far: its names are the first ones that are not empty
since the notes were last cleared, its pending elements are those noted since then, and its
diagnostics are what each operation found in the light of the operations before it.
-/

namespace PrefixLint

open Ast

namespace Operation

def exportName : Operation → Option String
  | noteExport name => name
  | _ => none

def className : Operation → Option String
  | noteClass name => name
  | _ => none

def element? : Operation → Option Value
  | noteElement element => some element
  | _ => none

/-- The operations since the notes were last cleared. -/
def recent (ops : List Operation) : List Operation := ops.rtakeWhile fun op => !op.clears

def firstExport (ops : List Operation) : Option String :=
  (ops.filterMap exportName).find? (· ≠ "")

def firstClass (ops : List Operation) : Option String :=
  (ops.filterMap className).find? (· ≠ "")

def elements (ops : List Operation) : List Value := ops.filterMap element?

def outcome (convention : Option Convention) (earlier : List Operation) :
    Operation → Except Ast.Fault (List Diagnostic)
  | report node message => .ok [.ofNode node message ruleId]
  | resolve node =>
    judge convention node ((firstExport (recent earlier)).or (firstClass (recent earlier)))
      (elements (recent earlier))
  | _ => .ok []

def found (convention : Option Convention) (earlier : List Operation) (op : Operation) :
    List Diagnostic :=
  match op.outcome convention earlier with
  | .ok diagnostics => diagnostics
  | .error _ => []

def fault? (convention : Option Convention) (earlier : List Operation) (op : Operation) :
    Option Ast.Fault :=
  match op.outcome convention earlier with
  | .ok _ => none
  | .error f => some f

end Operation

open Operation

structure Run where
  visitor : Visitor
  faults : List (Option Ast.Fault) := []

def Run.extend (r : Run) (op : Operation) : Run :=
  match op.perform r.visitor with
  | .ok _ v => ⟨v, r.faults ++ [none]⟩
  | .error f v => ⟨v, r.faults ++ [some f]⟩

def Run.of (v : Visitor) (ops : List Operation) : Run := ops.foldl Run.extend ⟨v, []⟩

def withEarlier (ops : List Operation) : List (List Operation × Operation) := ops.inits.zip ops

theorem withEarlier_concat (ops : List Operation) (op : Operation) :
    withEarlier (ops ++ [op]) = withEarlier ops ++ [(ops, op)] := by
  unfold withEarlier
  induction ops with
  | nil => rfl
  | cons first rest ih =>
    rw [List.cons_append, List.inits_cons, List.inits_cons, List.zip_cons_cons,
      List.zip_cons_cons, List.zip_map_left, List.zip_map_left, ih, List.map_append]
    rfl

theorem recent_concat_of_clears (ops : List Operation) {op : Operation} (h : op.clears = true) :
    recent (ops ++ [op]) = [] := by
  apply List.rtakeWhile_concat_neg
  simp [h]

theorem recent_concat_of_not_clears (ops : List Operation) {op : Operation}
    (h : op.clears = false) : recent (ops ++ [op]) = recent ops ++ [op] := by
  apply List.rtakeWhile_concat_pos
  simp [h]

theorem firstName_none (held : Option String) : Notes.firstName held none = held := by
  cases held <;> rfl

theorem firstName_find? (names : List String) (name : Option String) :
    Notes.firstName (names.find? (· ≠ "")) name = (names ++ name.toList).find? (· ≠ "") := by
  rw [Notes.firstName, List.find?_append]
  cases name with
  | none => rfl
  | some name => by_cases h : name = "" <;> simp [h, Option.filter]

theorem filterMap_concat {α : Type} (f : Operation → Option α) (ops : List Operation)
    (op : Operation) : (ops ++ [op]).filterMap f = ops.filterMap f ++ (f op).toList := by
  rw [List.filterMap_append]
  cases h : f op <;> simp [h]

theorem firstExport_concat (ops : List Operation) (op : Operation) :
    firstExport (ops ++ [op]) = Notes.firstName (firstExport ops) op.exportName := by
  rw [firstExport, firstExport, filterMap_concat, firstName_find?]

theorem firstClass_concat (ops : List Operation) (op : Operation) :
    firstClass (ops ++ [op]) = Notes.firstName (firstClass ops) op.className := by
  rw [firstClass, firstClass, filterMap_concat, firstName_find?]

theorem elements_concat (ops : List Operation) (op : Operation) :
    elements (ops ++ [op]) = elements ops ++ op.element?.toList :=
  filterMap_concat element? ops op

structure Notes.Reflect (notes : Notes) (ops : List Operation) : Prop where
  exported : notes.exported = firstExport ops
  defined : notes.defined = firstClass ops
  pending : notes.pending.toList = elements ops

theorem reflect_nil : ({} : Notes).Reflect [] := ⟨rfl, rfl, rfl⟩

theorem reflect_concat {notes : Notes} {ops : List Operation} (h : notes.Reflect ops)
    (convention : Option Convention) {op : Operation} (hop : op.clears = false) :
    (op.effect convention notes).notes.Reflect (ops ++ [op]) := by
  have he := firstExport_concat ops op
  have hd := firstClass_concat ops op
  have hp := elements_concat ops op
  rw [← h.exported] at he
  rw [← h.defined] at hd
  rw [← h.pending] at hp
  cases op with
  | noteExport name =>
    exact ⟨he.symm, (hd.trans (firstName_none _)).symm, (hp.trans (List.append_nil _)).symm⟩
  | noteClass name =>
    exact ⟨(he.trans (firstName_none _)).symm, hd.symm, (hp.trans (List.append_nil _)).symm⟩
  | noteElement element =>
    refine ⟨(he.trans (firstName_none _)).symm, (hd.trans (firstName_none _)).symm, ?_⟩
    rw [hp]
    exact Array.toList_push
  | report node message =>
    exact ⟨(he.trans (firstName_none _)).symm, (hd.trans (firstName_none _)).symm,
      (hp.trans (List.append_nil _)).symm⟩
  | resolve node => cases hop
  | reset => cases hop

theorem reflect_recent_concat {notes : Notes} {history : List Operation}
    (h : notes.Reflect (recent history)) (convention : Option Convention) (op : Operation) :
    (op.effect convention notes).notes.Reflect (recent (history ++ [op])) := by
  cases hop : op.clears with
  | true =>
    rw [recent_concat_of_clears history hop, effect_notes_of_clears convention notes hop]
    exact reflect_nil
  | false =>
    rw [recent_concat_of_not_clears history hop]
    exact reflect_concat h convention hop

theorem effect_of_reflect {notes : Notes} {history : List Operation}
    (h : notes.Reflect (recent history)) (convention : Option Convention) (op : Operation) :
    (op.effect convention notes).found = op.found convention history ∧
      (op.effect convention notes).fault = op.fault? convention history := by
  cases op with
  | resolve node =>
    simp only [effect, found, fault?, outcome, Notes.component, h.exported, h.defined, h.pending]
    cases judge convention node _ (elements (recent history)) <;> exact ⟨rfl, rfl⟩
  | _ => exact ⟨rfl, rfl⟩

structure Run.Accounts (convention : Option Convention) (history : List Operation) (r : Run) :
    Prop where
  kept : r.visitor.convention = convention
  notes : r.visitor.notes.Reflect (recent history)
  diagnostics : r.visitor.diagnostics.toList =
    (withEarlier history).flatMap fun p => p.2.found convention p.1
  faults : r.faults = (withEarlier history).map fun p => p.2.fault? convention p.1

theorem extend_eq (r : Run) (op : Operation) :
    ∃ journal, r.extend op =
      let e := op.effect r.visitor.convention r.visitor.notes
      { visitor := { r.visitor with
          notes := e.notes, diagnostics := r.visitor.diagnostics ++ e.found, journal }
        faults := r.faults ++ [e.fault] } := by
  obtain ⟨journal, hj⟩ := perform_realises op r.visitor
  refine ⟨journal, ?_⟩
  rw [Run.extend, hj]
  simp only [Effect.result]
  cases (op.effect r.visitor.convention r.visitor.notes).fault <;> rfl

theorem accounts_extend {convention : Option Convention} {history : List Operation} {r : Run}
    (h : r.Accounts convention history) (op : Operation) :
    (r.extend op).Accounts convention (history ++ [op]) := by
  obtain ⟨journal, hj⟩ := extend_eq r op
  obtain ⟨hfound, hfault⟩ := effect_of_reflect h.notes convention op
  rw [hj, h.kept]
  refine ⟨h.kept, reflect_recent_concat h.notes convention op, ?_, ?_⟩
  · rw [withEarlier_concat, List.flatMap_append, ← h.diagnostics]
    simp [hfound]
  · rw [withEarlier_concat, List.map_append, ← h.faults]
    simp [hfault]

theorem accounts_of (convention : Option Convention) (unit : String) (journal : Journal)
    (ops : List Operation) :
    (Run.of { convention, unit, journal } ops).Accounts convention ops := by
  induction ops using List.reverseRecOn with
  | nil => exact ⟨rfl, reflect_nil, rfl, rfl⟩
  | append_singleton ops op ih =>
    rw [Run.of, List.foldl_append]
    exact accounts_extend ih op

/-- After any operations the names of a visitor are the first ones since the last clearing, its
pending elements are those since then, and its diagnostics and faults are what each operation found
in the light of the earlier ones. -/
theorem run_reflects_operations (convention : Option Convention) (unit : String) (journal : Journal)
    (ops : List Operation) :
    let last := Run.of { convention, unit, journal } ops
    last.visitor.notes.exported = firstExport (recent ops) ∧
    last.visitor.notes.defined = firstClass (recent ops) ∧
    last.visitor.notes.pending.toList = elements (recent ops) ∧
    last.visitor.diagnostics.toList =
      (withEarlier ops).flatMap (fun p => p.2.found convention p.1) ∧
    last.faults = (withEarlier ops).map fun p => p.2.fault? convention p.1 := by
  have h := accounts_of convention unit journal ops
  exact ⟨h.notes.exported, h.notes.defined, h.notes.pending, h.diagnostics, h.faults⟩

end PrefixLint
