import PrefixLint.Visitor
import PrefixLint.Proofs.VisitorRuns
import PrefixLint.Proofs.Violations

/-!
# The meaning of a unit

A tree with one program is checked as follows. The nodes are taken in the order in which the walk
enters them. The markup with class attributes is judged by the name of the first default export that
has one or else of the first class declaration that has one, wherever in the tree these stand. No
markup gives no report, and markup without a name gives one report at the program.
-/

namespace PrefixLint

open Ast Operation

/-- The nodes at which the visitor resolves: a program when it is left, and a node that is called
like this event when it is entered. -/
def endsUnit (v : Value) : Bool :=
  decide (v.nodeType = "Program" ∨ v.nodeType = "Program:exit")

structure SoleProgram (tree program : Value) : Prop where
  root : tree = program ∨ (tree.nodeType = "File" ∧ tree.children = [program])
  type : program.nodeType = "Program"
  sole : (preorder tree).countP endsUnit = 1

def markup (tree : Value) : List Value :=
  (preorder tree).filter fun v =>
    decide (v.nodeType = "JSXElement") && Markup.hasClassAttribute v

def exportedName (tree : Value) : Option String :=
  (((preorder tree).filter fun v => decide (v.nodeType = "ExportDefaultDeclaration")).filterMap
    exportName?).find? (· ≠ "")

def declaredName (tree : Value) : Option String :=
  (((preorder tree).filter fun v => decide (v.nodeType = "ClassDeclaration")).filterMap
    className?).find? (· ≠ "")

def componentName (tree : Value) : Option String := (exportedName tree).or (declaredName tree)

def meaning (convention : Option Convention) (tree program : Value) : List Diagnostic :=
  match markup tree, componentName tree with
  | [], _ => []
  | _ :: _, none => [.ofNode program missingPrefixMessage ruleId]
  | elements, some name => Markup.reports (transform convention name) elements

theorem endsUnit_below {program : Value} (htype : program.nodeType = "Program")
    (hsole : (preorder program).countP endsUnit = 1) :
    ∀ u ∈ program.children.flatMap preorder, endsUnit u = false := by
  have hp : endsUnit program = true := by simp [endsUnit, htype]
  rw [preorder_eq, List.countP_cons_of_pos hp] at hsole
  have hzero : (program.children.flatMap preorder).countP endsUnit = 0 := by omega
  intro u hu
  exact Bool.eq_false_iff.mpr (List.countP_eq_zero.mp hzero u hu)

theorem type_of_not_endsUnit {v : Value} (h : endsUnit v = false) :
    v.nodeType ≠ "Program" ∧ v.nodeType ≠ "Program:exit" := by
  simpa [endsUnit] using h

theorem operations_of_program {program : Value} (htype : program.nodeType = "Program")
    (hsole : (preorder program).countP endsUnit = 1) :
    operations program = (preorder program).filterMap entering ++ [resolve program] := by
  have hbelow := endsUnit_below htype hsole
  have hc := operations_children fun u hu => (type_of_not_endsUnit (hbelow u hu)).1
  rw [operations_program htype, hc, preorder_eq, List.filterMap_cons, entering_program htype]

namespace SoleProgram

variable {tree program : Value}

theorem isNode (h : SoleProgram tree program) : tree.isNode = true := by
  rcases h.root with rfl | ⟨hfile, -⟩
  · exact isNode_of_nodeType h.type (by decide)
  · exact isNode_of_nodeType hfile (by decide)

theorem preorder_file (hfile : tree.children = [program]) :
    preorder tree = tree :: preorder program := by
  rw [preorder_eq, hfile, List.flatMap_singleton]

theorem sole_program (h : SoleProgram tree program) : (preorder program).countP endsUnit = 1 := by
  rcases h.root with rfl | ⟨hfile, hc⟩
  · exact h.sole
  · have ht : ¬ endsUnit tree = true := by simp [endsUnit, hfile]
    have hs := h.sole
    rw [preorder_file hc, List.countP_cons_of_neg ht] at hs
    exact hs

theorem operations (h : SoleProgram tree program) :
    operations tree = (preorder tree).filterMap entering ++ [resolve program] := by
  have hp := operations_of_program h.type h.sole_program
  rcases h.root with rfl | ⟨hfile, hc⟩
  · exact hp
  · have henter : entering tree = none := by
      rw [entering, hfile]
      rfl
    have hleave : ofEvent? (tree.nodeType ++ exitMark) tree = none :=
      leaving_of_ne_program (by rw [hfile]; decide) tree
    rw [operations_eq, henter, hleave, hc, List.flatMap_singleton, hp, preorder_file hc,
      List.filterMap_cons, henter]
    simp

theorem no_exit (h : SoleProgram tree program) :
    ∀ u ∈ preorder tree, u.nodeType ≠ "Program:exit" := by
  have hp : ∀ u ∈ preorder program, u.nodeType ≠ "Program:exit" := by
    intro u hu
    rw [preorder_eq] at hu
    rcases List.mem_cons.mp hu with rfl | hu
    · rw [h.type]
      decide
    · exact (type_of_not_endsUnit (endsUnit_below h.type h.sole_program u hu)).2
  rcases h.root with rfl | ⟨hfile, hc⟩
  · exact hp
  · intro u hu
    rw [preorder_file hc] at hu
    rcases List.mem_cons.mp hu with rfl | hu
    · rw [hfile]
      decide
    · exact hp u hu

end SoleProgram

def Operation.isNote : Operation → Bool
  | noteExport _ | noteClass _ | noteElement _ => true
  | _ => false

theorem isNote_of_entering {v : Value} {op : Operation} (h : v.nodeType ≠ "Program:exit")
    (hop : entering v = some op) : op.isNote = true := by
  unfold entering ofEvent? at hop
  split at hop
  · cases hop
    rfl
  · cases hop
    rfl
  · split at hop
    · cases hop
      rfl
    · cases hop
  · next he => exact absurd he h
  · cases hop

theorem clears_of_isNote {op : Operation} (h : op.isNote = true) : op.clears = false := by
  cases op with
  | noteExport name | noteClass name | noteElement element => rfl
  | resolve node | reset | report node message => cases h

theorem found_of_isNote (convention : Option Convention) (notes : Notes) {op : Operation}
    (h : op.isNote = true) : (op.effect convention notes).found = [] := by
  cases op with
  | noteExport name | noteClass name | noteElement element => rfl
  | resolve node | reset | report node message => cases h

theorem effects_of_notes (convention : Option Convention) {notes : Notes} {earlier : List Operation}
    (hr : notes.Reflect earlier) {ops : List Operation} (h : ∀ op ∈ ops, op.isNote = true) :
    (effects convention notes ops).fault = none ∧ (effects convention notes ops).found = [] ∧
      (effects convention notes ops).notes.Reflect (earlier ++ ops) := by
  induction ops generalizing notes earlier with
  | nil =>
    rw [List.append_nil]
    exact ⟨rfl, rfl, hr⟩
  | cons op rest ih =>
    have hop := h op List.mem_cons_self
    have hclears := clears_of_isNote hop
    have hfault := effect_fault_of_not_clears convention notes hclears
    have hfound := found_of_isNote convention notes hop
    obtain ⟨hf, hd, hn⟩ := ih (reflect_concat hr convention hclears)
      fun op' hop' => h op' (List.mem_cons_of_mem op hop')
    rw [List.append_assoc, List.singleton_append] at hn
    simp only [effects, hfault]
    refine ⟨hf, ?_, hn⟩
    simp only [Effect.after, hfound, hd, List.append_nil]

theorem effects_notes_resolve (convention : Option Convention) (node : Value)
    {ops : List Operation} (h : ∀ op ∈ ops, op.isNote = true) :
    effects convention {} (ops ++ [resolve node]) =
      match judge convention node ((firstExport ops).or (firstClass ops)) (elements ops) with
      | .ok found => { notes := {}, found }
      | .error f => { notes := {}, fault := some f } := by
  obtain ⟨hfault, hfound, hn⟩ := effects_of_notes convention reflect_nil h
  rw [List.nil_append] at hn
  rw [effects_append, hfault]
  simp only [effects, effect, Notes.component, hn.exported, hn.defined, hn.pending]
  cases judge convention node _ (elements ops) <;>
    simp [Effect.after, hfound]

theorem bind_entering_element (v : Value) :
    (entering v).bind element? =
      Option.guard (fun v => decide (v.nodeType = "JSXElement") && Markup.hasClassAttribute v) v := by
  unfold entering ofEvent? Option.guard
  split
  · next he => simp [element?, he]
  · next he => simp [element?, he]
  · next he => cases hc : Markup.hasClassAttribute v <;> simp [element?, he, hc]
  · next he => simp [element?, he]
  · next h _ => simp [show v.nodeType ≠ "JSXElement" from h]

theorem bind_entering_exportName (v : Value) :
    (entering v).bind exportName =
      if decide (v.nodeType = "ExportDefaultDeclaration") then exportName? v else none := by
  unfold entering ofEvent?
  split
  · next he => simp [exportName, he]
  · next he => simp [exportName, he]
  · next he => cases Markup.hasClassAttribute v <;> simp [exportName, he]
  · next he => simp [exportName, he]
  · next h _ _ _ => simp [show v.nodeType ≠ "ExportDefaultDeclaration" from h]

theorem bind_entering_className (v : Value) :
    (entering v).bind className =
      if decide (v.nodeType = "ClassDeclaration") then className? v else none := by
  unfold entering ofEvent?
  split
  · next he => simp [className, he]
  · next he => simp [className, he]
  · next he => cases Markup.hasClassAttribute v <;> simp [className, he]
  · next he => simp [className, he]
  · next h _ _ => simp [show v.nodeType ≠ "ClassDeclaration" from h]

theorem elements_entering (tree : Value) :
    elements ((preorder tree).filterMap entering) = markup tree := by
  rw [elements, List.filterMap_filterMap, markup, ← List.filterMap_eq_filter]
  exact congrArg (List.filterMap · _) (funext bind_entering_element)

theorem firstExport_entering (tree : Value) :
    firstExport ((preorder tree).filterMap entering) = exportedName tree := by
  rw [firstExport, exportedName, List.filterMap_filterMap, List.filterMap_filter]
  exact congrArg (fun f => List.find? _ (List.filterMap f _)) (funext bind_entering_exportName)

theorem firstClass_entering (tree : Value) :
    firstClass ((preorder tree).filterMap entering) = declaredName tree := by
  rw [firstClass, declaredName, List.filterMap_filterMap, List.filterMap_filter]
  exact congrArg (fun f => List.find? _ (List.filterMap f _)) (funext bind_entering_className)

def checkStart (unit : String) (journal : Journal) : Journal :=
  (journal.enter (some unit)).write .debug .units "checking unit"

theorem lintTree_eq (convention : Option Convention) (unit : String) (tree : Value)
    (journal : Journal) :
    ∃ finish : List Diagnostic → Journal → Journal,
      lintTree convention unit tree journal =
        match inspect convention unit tree (checkStart unit journal) with
        | .ok found j => .ok found (finish found j)
        | .error f j => .error f j.leave := by
  refine ⟨fun found j =>
    (j.write .debug .units s!"finished unit with {found.length} diagnostic(s)").leave, ?_⟩
  have hs : (modify (·.write .debug .units "checking unit") : EStateM Ast.Fault Journal Unit)
      (journal.enter (some unit)) = .ok () (checkStart unit journal) := rfl
  simp only [lintTree, Journal.within, bind, EStateM.bind, hs]
  cases inspect convention unit tree (checkStart unit journal) <;> rfl

theorem lintTree_realises (convention : Option Convention) (unit : String) {tree : Value}
    (h : tree.isNode = true) (journal : Journal) :
    ∃ after, lintTree convention unit tree journal =
      match (effects convention {} (operations tree)).fault with
      | none => .ok (effects convention {} (operations tree)).found after
      | some f => .error f after := by
  obtain ⟨finish, hl⟩ := lintTree_eq convention unit tree journal
  obtain ⟨j, hj⟩ := forM_perform_realises (operations tree)
    { convention, unit, journal := checkStart unit journal }
  rw [hl, inspect, walk_handlers id h, hj]
  cases hf : (effects convention {} (operations tree)).fault with
  | none =>
    refine ⟨finish (effects convention {} (operations tree)).found j, ?_⟩
    simp [Effect.result, hf]
  | some f =>
    refine ⟨j.leave, ?_⟩
    simp [Effect.result, hf]

theorem effects_of_soleProgram {tree program : Value} (h : SoleProgram tree program)
    (convention : Option Convention) :
    effects convention {} (operations tree) =
      match judge convention program (componentName tree) (markup tree) with
      | .ok found => { notes := {}, found }
      | .error f => { notes := {}, fault := some f } := by
  have hnotes : ∀ op ∈ (preorder tree).filterMap entering, op.isNote = true := by
    intro op hop
    obtain ⟨v, hv, hop⟩ := List.mem_filterMap.mp hop
    exact isNote_of_entering (h.no_exit v hv) hop
  rw [h.operations, effects_notes_resolve convention program hnotes, elements_entering,
    firstExport_entering, firstClass_entering, componentName]

def obstacle? (tree : Value) : Option Kind :=
  (componentName tree).bind fun _ => Markup.firstComposite? (markup tree)

theorem judge_eq (convention : Option Convention) (tree program : Value) :
    judge convention program (componentName tree) (markup tree) =
      (obstacle? tree).elim (.ok (meaning convention tree program)) fun kind =>
        .error (.compositeType kind) := by
  unfold judge obstacle? meaning
  cases markup tree with
  | nil => cases componentName tree <;> rfl
  | cons element rest =>
    cases componentName tree with
    | none => rfl
    | some name => exact Markup.validate_eq _ _

theorem judge_eq_ok {convention : Option Convention} {tree program : Value}
    {found : List Diagnostic}
    (h : judge convention program (componentName tree) (markup tree) = .ok found) :
    found = meaning convention tree program := by
  rw [judge_eq] at h
  cases hk : obstacle? tree with
  | some kind => simp [hk] at h
  | none => simpa [hk] using h.symm

theorem judge_eq_error {convention : Option Convention} {tree program : Value} {f : Ast.Fault}
    (h : judge convention program (componentName tree) (markup tree) = .error f) :
    (componentName tree).isSome = true ∧
      ∃ element ∈ markup tree, ∃ attr ∈ Markup.classAttributes element,
        ∃ kind, Markup.compositeKind? attr = some kind ∧ f = .compositeType kind := by
  rw [judge_eq] at h
  cases hk : obstacle? tree with
  | none => simp [hk] at h
  | some kind =>
    obtain rfl : .compositeType kind = f := by simpa [hk] using h
    obtain ⟨name, hname, hfirst⟩ := Option.bind_eq_some_iff.mp hk
    obtain ⟨element, he, attr, ha, hattr⟩ := Markup.exists_of_firstComposite? hfirst
    exact ⟨by simp [hname], element, he, attr, ha, kind, hattr, rfl⟩

/-- A tree with one program gets the diagnostics that it deserves, unless it has a name and the
literal of one of its class attributes has a composite type: then the check fails with its kind. -/
theorem lintTree_meaning {tree program : Value} (h : SoleProgram tree program)
    (convention : Option Convention) (unit : String) (journal : Journal) :
    (∃ after, lintTree convention unit tree journal =
      .ok (meaning convention tree program) after) ∨
    ∃ f after, lintTree convention unit tree journal = .error f after ∧
      (componentName tree).isSome = true ∧
      ∃ element ∈ markup tree, ∃ attr ∈ Markup.classAttributes element,
        ∃ kind, Markup.compositeKind? attr = some kind ∧ f = .compositeType kind := by
  obtain ⟨after, hl⟩ := lintTree_realises convention unit h.isNode journal
  rw [effects_of_soleProgram h] at hl
  cases hj : judge convention program (componentName tree) (markup tree) with
  | ok found =>
    rw [hj] at hl
    rw [← judge_eq_ok hj]
    exact Or.inl ⟨after, hl⟩
  | error f =>
    rw [hj] at hl
    exact Or.inr ⟨f, after, hl, judge_eq_error hj⟩

def exportedCard : Value :=
  .object [("type", .text "Program"), ("body", .list [
    .object [("type", .text "JSXElement"), ("openingElement", .object [("attributes", .list [
      .object [("name", .object [("name", .text "className")]),
        ("value", .object [("type", .text "Literal"),
          ("value", .text "card__title card Card")])]])])],
    .object [("type", .text "ExportDefaultDeclaration"),
      ("declaration", .object [("type", .text "Identifier"), ("name", .text "Card")])]])]

def exportedCardFile : Value := .object [("type", .text "File"), ("program", exportedCard)]

theorem lintTree_meaning_exportedCard :
    SoleProgram exportedCardFile exportedCard ∧
    (∃ after, lintTree (some .dash) "card.json" exportedCardFile {} =
      .ok (meaning (some .dash) exportedCardFile exportedCard) after) ∧
    (meaning (some .dash) exportedCardFile exportedCard).map (·.message) =
      ["Class \"Card\" name should starts with \"card__\""] := by
  have h : SoleProgram exportedCardFile exportedCard :=
    ⟨Or.inr ⟨by decide, rfl⟩, by decide, by decide +kernel⟩
  have hplain : (markup exportedCardFile).all (fun element =>
      (Markup.classAttributes element).all fun attr =>
        (Markup.compositeKind? attr).isNone) = true := by decide +kernel
  rcases lintTree_meaning h (some .dash) "card.json" {} with hok | hfault
  · exact ⟨h, hok, by decide +kernel⟩
  · obtain ⟨f, after, -, -, element, he, attr, ha, kind, hk, -⟩ := hfault
    have hnone := List.all_eq_true.mp (List.all_eq_true.mp hplain element he) attr ha
    rw [hk] at hnone
    cases hnone

end PrefixLint
