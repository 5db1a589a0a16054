import PrefixLint.Proofs.UnitAccount

/-!
# Markup after the last program

Markup is judged when a program ends after it. Every element with a class attribute that a walk
enters is judged at exactly one such end or is entered after the last of them, and then it is still
pending when the walk is over. In a program nothing can be late; in a file, everything outside its
programs can be, and a file of late markup gets no diagnostic although nothing names a component.
-/

namespace PrefixLint

open Ast Disk Operation

def operationAt? (t : Turn) : Option Operation := ofEvent? t.event t.node

def isLateTurn (t : Turn) : Bool := decide (t.event ≠ "Program:exit")

/-- The markup that is entered after the last end of a program. -/
def lateMarkup (tree : Value) : List Value :=
  (((timeline tree).rtakeWhile isLateTurn).filter fun t =>
    decide (t.event = "JSXElement") && Markup.hasClassAttribute t.node).map (·.node)

def ownMarkup (v : Value) : List Value :=
  if v.nodeType = "JSXElement" ∧ Markup.hasClassAttribute v = true then [v] else []

/-- The markup that stands in no program. -/
def looseMarkup (v : Value) : List Value :=
  if v.nodeType = "Program" then []
  else ownMarkup v ++ v.children.attach.flatMap fun c => looseMarkup c.val
termination_by sizeOf v
decreasing_by exact Value.sizeOf_lt_of_mem_children c.property

theorem looseMarkup_program {v : Value} (h : v.nodeType = "Program") : looseMarkup v = [] := by
  rw [looseMarkup, if_pos h]

theorem looseMarkup_eq {v : Value} (h : v.nodeType ≠ "Program") :
    looseMarkup v = ownMarkup v ++ v.children.flatMap looseMarkup := by
  rw [looseMarkup, if_neg h, List.flatMap_subtype, List.unattach_attach]
  intro c hc
  rfl

def Operation.fromWalk : Operation → Bool
  | reset | report _ _ => false
  | _ => true

structure Judgement where
  node : Value
  component : Option String
  elements : List Value

def judgement? (earlier : List Operation) : Operation → Option Judgement
  | resolve node => some
      ⟨node, (firstExport (recent earlier)).or (firstClass (recent earlier)),
        elements (recent earlier)⟩
  | _ => none

def judgements (ops : List Operation) : List Judgement :=
  (withEarlier ops).filterMap fun p => judgement? p.1 p.2

theorem judgements_concat (ops : List Operation) (op : Operation) :
    judgements (ops ++ [op]) = judgements ops ++ (judgement? ops op).toList := by
  rw [judgements, withEarlier_concat, List.filterMap_append]
  cases h : judgement? ops op <;> simp [judgements, h]

theorem operationAt?_clears_iff (t : Turn) :
    (∃ op, operationAt? t = some op ∧ op.clears = true) ↔ t.event = "Program:exit" := by
  unfold operationAt? ofEvent?
  split
  · next he => simp [clears, he]
  · next he => simp [clears, he]
  · next he => split <;> simp [clears, he]
  · next he => simp [clears, he]
  · next h => simp [show t.event ≠ "Program:exit" from h]

theorem fromWalk_of_mem_operations {tree : Value} {op : Operation} (h : op ∈ operations tree) :
    op.fromWalk = true := by
  obtain ⟨t, -, ht⟩ := List.mem_filterMap.mp h
  unfold ofEvent? at ht
  split at ht
  · cases ht
    rfl
  · cases ht
    rfl
  · split at ht <;> cases ht
    rfl
  · cases ht
    rfl
  · cases ht

theorem recent_filterMap_operationAt? (turns : List Turn) :
    recent (turns.filterMap operationAt?) =
      (turns.rtakeWhile isLateTurn).filterMap operationAt? := by
  induction turns using List.reverseRecOn with
  | nil => rfl
  | append_singleton turns t ih =>
    -- The last turn either clears the notes, and then nothing is recent, or it is late itself.
    have hclears := operationAt?_clears_iff t
    by_cases hend : t.event = "Program:exit"
    · obtain ⟨op, hop, hc⟩ := hclears.mpr hend
      have hlate : ¬ isLateTurn t = true := by simp [isLateTurn, hend]
      rw [filterMap_concat_some hop, recent_concat_of_clears _ hc,
        List.rtakeWhile_concat_neg _ _ _ hlate, List.filterMap_nil]
    · have hlate : isLateTurn t = true := by simp [isLateTurn, hend]
      rw [List.rtakeWhile_concat_pos _ _ _ hlate]
      cases hop : operationAt? t with
      | none => rw [filterMap_concat_none hop, filterMap_concat_none hop, ih]
      | some op =>
        have hc : op.clears = false := by
          by_contra hc
          exact hend (hclears.mp ⟨op, hop, Bool.not_eq_false _ ▸ hc⟩)
        rw [filterMap_concat_some hop, filterMap_concat_some hop,
          recent_concat_of_not_clears _ hc, ih]

theorem bind_operationAt?_element (t : Turn) :
    (operationAt? t).bind element? =
      if t.event = "JSXElement" ∧ Markup.hasClassAttribute t.node = true then some t.node
      else none := by
  unfold operationAt? ofEvent?
  split
  · next he => simp [element?, he]
  · next he => simp [element?, he]
  · next he => cases hc : Markup.hasClassAttribute t.node <;> simp [element?, he]
  · next he => simp [element?, he]
  · next h _ => simp [show t.event ≠ "JSXElement" from h]

theorem elements_recent_operations (tree : Value) :
    elements (recent (operations tree)) = lateMarkup tree := by
  have h : operations tree = (timeline tree).filterMap operationAt? := rfl
  rw [h, recent_filterMap_operationAt?, elements, List.filterMap_filterMap, lateMarkup,
    ← List.filterMap_eq_map, List.filterMap_filter]
  apply List.filterMap_congr
  intro t ht
  rw [bind_operationAt?_element]
  simp

theorem filterMap_operations {α : Type} {f : Operation → Option α}
    (hf : ∀ node, f (resolve node) = none) (tree : Value) :
    (operations tree).filterMap f = ((preorder tree).filterMap entering).filterMap f := by
  induction tree using children_induction with
  | h v ih =>
    -- Leaving a node can only resolve, so all that is noted is noted on entering.
    have hleave : (ofEvent? (v.nodeType ++ exitMark) v).toList.filterMap f = [] := by
      by_cases hv : v.nodeType = "Program"
      · rw [hv]
        exact List.filterMap_cons_none (hf v)
      · rw [leaving_of_ne_program hv]
        rfl
    have hc : (v.children.flatMap operations).filterMap f =
        ((v.children.flatMap preorder).filterMap entering).filterMap f := by
      rw [List.filterMap_flatMap, List.filterMap_flatMap, List.filterMap_flatMap]
      exact List.flatMap_congr ih
    rw [operations_eq, preorder_eq, List.filterMap_append, List.filterMap_append, hleave, hc,
      List.append_nil, List.filterMap_cons]
    cases entering v with
    | none => rfl
    | some op => rw [Option.toList_some, ← List.filterMap_append, List.singleton_append]

theorem elements_operations (tree : Value) : elements (operations tree) = markup tree := by
  rw [elements, filterMap_operations fun _ => rfl]
  exact elements_entering tree

theorem firstExport_operations (tree : Value) :
    firstExport (operations tree) = exportedName tree := by
  rw [firstExport, filterMap_operations fun _ => rfl]
  exact firstExport_entering tree

theorem firstClass_operations (tree : Value) :
    firstClass (operations tree) = declaredName tree := by
  rw [firstClass, filterMap_operations fun _ => rfl]
  exact firstClass_entering tree

/-- A walk loses no element: each is judged once or still pending. -/
theorem judged_append_pending {ops : List Operation} (h : ∀ op ∈ ops, op.fromWalk = true) :
    (judgements ops).flatMap (·.elements) ++ elements (recent ops) = elements ops := by
  induction ops using List.reverseRecOn with
  | nil => rfl
  | append_singleton ops op ih =>
    have hops := ih fun op' hmem => h op' (List.mem_append_left _ hmem)
    have hop := h op (List.mem_append_right _ List.mem_cons_self)
    rw [judgements_concat, List.flatMap_append, elements_concat ops op, ← hops]
    cases op with
    | reset => cases hop
    | resolve node =>
      -- What was pending moves into the new judgement, and nothing is pending after it.
      rw [recent_concat_of_clears ops rfl]
      simp [judgement?, element?, elements]
    | noteExport name | noteClass name | noteElement element | report node message =>
      rw [recent_concat_of_not_clears ops rfl, elements_concat]
      simp [judgement?]

theorem pending_concat_suffix (earlier : List Operation) (op : Operation) :
    elements (recent (earlier ++ [op])) <:+ elements (recent earlier) ++ op.element?.toList := by
  cases hop : op.clears with
  | true =>
    rw [recent_concat_of_clears earlier hop]
    exact List.nil_suffix
  | false =>
    rw [recent_concat_of_not_clears earlier hop, elements_concat]

theorem pending_flatMap_suffix {vs : List Value}
    (h : ∀ v ∈ vs, ∀ earlier, elements (recent (earlier ++ operations v)) <:+
      elements (recent earlier) ++ looseMarkup v) (earlier : List Operation) :
    elements (recent (earlier ++ vs.flatMap operations)) <:+
      elements (recent earlier) ++ vs.flatMap looseMarkup := by
  induction vs generalizing earlier with
  | nil => simp
  | cons v rest ih =>
    have hv := h v List.mem_cons_self earlier
    have hrest := ih (fun w hw => h w (List.mem_cons_of_mem v hw)) (earlier ++ operations v)
    rw [List.flatMap_cons, List.flatMap_cons, ← List.append_assoc, ← List.append_assoc]
    exact hrest.trans (List.suffix_append_self_iff.mpr hv)

theorem element?_entering (v : Value) :
    ((entering v).bind element?).toList = ownMarkup v := by
  rw [bind_entering_element, ownMarkup]
  cases hm : Markup.hasClassAttribute v <;> by_cases ht : v.nodeType = "JSXElement" <;>
    simp [Option.guard, hm, ht]

theorem pending_operations_suffix (v : Value) (earlier : List Operation) :
    elements (recent (earlier ++ operations v)) <:+
      elements (recent earlier) ++ looseMarkup v := by
  induction v using children_induction generalizing earlier with
  | h v ih =>
    -- What a program collects is judged when it is left; any other node passes it on.
    by_cases hv : v.nodeType = "Program"
    · rw [operations_program hv, ← List.append_assoc, recent_concat_of_clears _ rfl]
      exact List.nil_suffix
    · have hchildren := pending_flatMap_suffix ih (earlier ++ (entering v).toList)
      have henter : elements (recent (earlier ++ (entering v).toList)) <:+
          elements (recent earlier) ++ ownMarkup v := by
        rw [← element?_entering]
        cases entering v with
        | none => simp
        | some op => exact pending_concat_suffix earlier op
      rw [operations_eq, leaving_of_ne_program hv, Option.toList_none, List.append_nil,
        looseMarkup_eq hv, ← List.append_assoc, ← List.append_assoc]
      exact hchildren.trans (List.suffix_append_self_iff.mpr henter)

theorem lateMarkup_suffix (tree : Value) : lateMarkup tree <:+ looseMarkup tree := by
  rw [← elements_recent_operations]
  exact pending_operations_suffix tree []

theorem foldl_extend_of_forM {ops : List Operation} {v w : Visitor}
    (h : ops.forM perform v = .ok () w) (faults : List (Option Ast.Fault)) :
    ops.foldl Run.extend ⟨v, faults⟩ = ⟨w, faults ++ List.replicate ops.length none⟩ := by
  induction ops generalizing v faults with
  | nil =>
    cases h
    simp
  | cons op rest ih =>
    cases hop : op.perform v with
    | error f v₁ =>
      rw [forM_cons_error hop] at h
      cases h
    | ok u v₁ =>
      rw [forM_cons_ok hop] at h
      have hstep : Run.extend ⟨v, faults⟩ op = ⟨v₁, faults ++ [none]⟩ := by
        simp only [Run.extend, hop]
      rw [List.foldl_cons, hstep, ih h, List.append_assoc]
      rfl

theorem run_of_forM {convention : Option Convention} {unit : String} {journal : Journal}
    {ops : List Operation} {v : Visitor}
    (h : ops.forM perform { convention, unit, journal } = .ok () v) :
    Run.Accounts convention ops ⟨v, List.replicate ops.length none⟩ := by
  have haccounts := accounts_of convention unit journal ops
  rw [Run.of, foldl_extend_of_forM h, List.nil_append] at haccounts
  exact haccounts

theorem no_fault_of_forM {convention : Option Convention} {unit : String} {journal : Journal}
    {ops : List Operation} {v : Visitor}
    (h : ops.forM perform { convention, unit, journal } = .ok () v) :
    ∀ p ∈ withEarlier ops, p.2.fault? convention p.1 = none := by
  intro p hp
  have hfaults : List.replicate ops.length none =
      (withEarlier ops).map fun p => p.2.fault? convention p.1 := (run_of_forM h).faults
  apply List.eq_of_mem_replicate
  rw [hfaults]
  exact List.mem_map.mpr ⟨p, hp, rfl⟩

theorem isNode_of_walk {tree : Value} {v w : Visitor}
    (h : walk Visitor.handlers id tree v = .ok () w) : tree.isNode = true := by
  by_contra hnode
  rw [walk_of_not_isNode Visitor.handlers id (Bool.eq_false_iff.mpr hnode)] at h
  cases h

theorem prefix_of_mem_withEarlier {ops : List Operation} {p : List Operation × Operation}
    (h : p ∈ withEarlier ops) : p.1 <+: ops ∧ p.2 ∈ ops :=
  (List.of_mem_zip h).imp (List.mem_inits _ _).mp id

def Judgement.Finds (convention : Option Convention) (j : Judgement) (found : List Diagnostic) :
    Prop :=
  judge convention j.node j.component j.elements = .ok found

theorem finds_of_no_faults (convention : Option Convention)
    {steps : List (List Operation × Operation)} (hwalk : ∀ p ∈ steps, p.2.fromWalk = true)
    (hfault : ∀ p ∈ steps, p.2.fault? convention p.1 = none) :
    ∃ founds, List.Forall₂ (Judgement.Finds convention)
        (steps.filterMap fun p => judgement? p.1 p.2) founds ∧
      steps.flatMap (fun p => p.2.found convention p.1) = founds.flatten := by
  induction steps with
  | nil => exact ⟨[], .nil, rfl⟩
  | cons p rest ih =>
    obtain ⟨founds, hfinds, hfound⟩ := ih (fun q hq => hwalk q (List.mem_cons_of_mem p hq))
      fun q hq => hfault q (List.mem_cons_of_mem p hq)
    have hp := hwalk p List.mem_cons_self
    have hpf := hfault p List.mem_cons_self
    obtain ⟨earlier, op⟩ := p
    rw [List.flatMap_cons, hfound]
    -- Notes find nothing, so each found list is that of one judgement.
    cases op with
    | reset | report node message => cases hp
    | noteExport name | noteClass name | noteElement element => exact ⟨founds, hfinds, rfl⟩
    | resolve node =>
      cases hj : (resolve node).outcome convention earlier with
      | error f =>
        simp only [fault?, hj] at hpf
        cases hpf
      | ok found =>
        refine ⟨found :: founds, .cons hj hfinds, ?_⟩
        simp only [Operation.found, hj, List.flatten_cons]

section Nameless

theorem find?_none_of_subset {names part : List String} (h : names.find? (· ≠ "") = none)
    (hsub : part ⊆ names) : part.find? (· ≠ "") = none := by
  rw [List.find?_eq_none] at h ⊢
  exact fun name hname => h name (hsub hname)

theorem component_of_mem_judgements {ops : List Operation} (hexport : firstExport ops = none)
    (hclass : firstClass ops = none) {j : Judgement} (h : j ∈ judgements ops) :
    j.component = none := by
  obtain ⟨⟨earlier, op⟩, hmem, hj⟩ := List.mem_filterMap.mp h
  have hsub : recent earlier ⊆ ops :=
    List.Subset.trans (List.rtakeWhile_suffix _ _).subset (prefix_of_mem_withEarlier hmem).1.subset
  have he : firstExport (recent earlier) = none :=
    find?_none_of_subset hexport (List.filterMap_subset _ hsub)
  have hc : firstClass (recent earlier) = none :=
    find?_none_of_subset hclass (List.filterMap_subset _ hsub)
  cases op with
  | resolve node =>
    cases hj
    rw [he, hc]
    rfl
  | noteExport name | noteClass name | noteElement element | reset | report node message =>
    cases hj

theorem component_of_nameless {tree : Value} (h : componentName tree = none) :
    ∀ j ∈ judgements (operations tree), j.component = none := by
  rw [componentName, Option.or_eq_none_iff] at h
  intro j hj
  exact component_of_mem_judgements ((firstExport_operations tree).trans h.1)
    ((firstClass_operations tree).trans h.2) hj

theorem finds_eq_nil_iff {convention : Option Convention} {j : Judgement}
    {found : List Diagnostic} (hnone : j.component = none) (h : j.Finds convention found) :
    found = [] ↔ j.elements = [] := by
  obtain ⟨node, component, elements⟩ := j
  cases hnone
  cases elements <;> cases h <;> simp

theorem flatten_finds_eq_nil_iff {convention : Option Convention} {js : List Judgement}
    {founds : List (List Diagnostic)} (h : List.Forall₂ (Judgement.Finds convention) js founds)
    (hnone : ∀ j ∈ js, j.component = none) :
    founds.flatten = [] ↔ js.flatMap (·.elements) = [] := by
  induction h with
  | nil => simp
  | @cons j found js founds hj hrest ih =>
    rw [List.flatten_cons, List.flatMap_cons, List.append_eq_nil_iff, List.append_eq_nil_iff,
      finds_eq_nil_iff (hnone j List.mem_cons_self) hj,
      ih fun k hk => hnone k (List.mem_cons_of_mem j hk)]

end Nameless

theorem rootType_of_loadTree {room : Nat} {disk : Disk} {path : Path} {tree : Value}
    (h : loadTree room disk path = .ok tree) :
    tree.nodeType = "Program" ∨ tree.nodeType = "File" := by
  simp only [loadTree] at h
  split at h
  · cases h
  · cases h
  · cases h
  · simp only [treeOf] at h
    split at h
    · cases h
    · cases h
    · cases h
    · split at h
      · next hroot =>
        cases h
        cases ht : tree.nodeType? with
        | none =>
          rw [ht] at hroot
          cases hroot
        | some type =>
          rw [ht] at hroot
          simpa [rootTypes, Value.nodeType, ht] using hroot
      · cases h

/-- When the walk of a loaded tree ends well, its markup is what was judged followed by the late
markup, which is still pending; there is none of it in a program, and in a file it is the end of the
loose markup. The diagnostics are those of the judgements. A tree without a name gets none of them
exactly if all its markup is late, so without loose markup it is never silent. -/
theorem walk_leaves_late_markup {room : Nat} {disk : Disk} {path : Path} {tree : Value}
    (hload : loadTree room disk path = .ok tree) (convention : Option Convention) (unit : String)
    (journal : Journal) {v : Visitor}
    (hwalk : walk Visitor.handlers id tree { convention, unit, journal } = .ok () v) :
    (∃ after, lintTree convention unit tree journal = .ok v.diagnostics.toList after) ∧
    v.notes.pending.toList = lateMarkup tree ∧
    ((tree.nodeType = "Program" ∧ lateMarkup tree = []) ∨
      (tree.nodeType = "File" ∧ lateMarkup tree <:+ looseMarkup tree)) ∧
    (judgements (operations tree)).flatMap (·.elements) ++ lateMarkup tree = markup tree ∧
    (∃ founds, List.Forall₂ (Judgement.Finds convention) (judgements (operations tree)) founds ∧
      v.diagnostics.toList = founds.flatten) ∧
    (componentName tree = none → (v.diagnostics = #[] ↔ lateMarkup tree = markup tree)) ∧
    (looseMarkup tree = [] → v.notes.pending = #[] ∧
      (markup tree ≠ [] → componentName tree = none → v.diagnostics ≠ #[])) := by
  have hops : (operations tree).forM perform { convention, unit, journal } = .ok () v := by
    rw [← walk_handlers id (isNode_of_walk hwalk)]
    exact hwalk
  have hrun := run_of_forM hops
  have hfrom : ∀ op ∈ operations tree, op.fromWalk = true := fun op => fromWalk_of_mem_operations
  have hconserved := judged_append_pending hfrom
  rw [elements_recent_operations, elements_operations] at hconserved
  obtain ⟨founds, hfinds, hflat⟩ := finds_of_no_faults convention
    (fun p hp => hfrom p.2 (prefix_of_mem_withEarlier hp).2) (no_fault_of_forM hops)
  have hdiagnostics : v.diagnostics.toList = founds.flatten := hrun.diagnostics.trans hflat
  have hpending : v.notes.pending.toList = lateMarkup tree := by
    rw [← elements_recent_operations]
    exact hrun.notes.pending
  have hlate := lateMarkup_suffix tree
  have hsilent : componentName tree = none →
      (v.diagnostics = #[] ↔ lateMarkup tree = markup tree) := by
    intro hnone
    rw [← Array.toList_eq_nil_iff, hdiagnostics,
      flatten_finds_eq_nil_iff hfinds (component_of_nameless hnone), ← hconserved]
    exact List.self_eq_append_left.symm
  refine ⟨lintTree_eq_ok_iff.mpr (walk_eq_ok_iff.mp ⟨v, hwalk, rfl⟩), hpending, ?_, hconserved,
    ⟨founds, hfinds, hdiagnostics⟩, hsilent, ?_⟩
  · rcases rootType_of_loadTree hload with hroot | hroot
    · rw [looseMarkup_program hroot, List.suffix_nil] at hlate
      exact Or.inl ⟨hroot, hlate⟩
    · exact Or.inr ⟨hroot, hlate⟩
  · intro hloose
    rw [hloose, List.suffix_nil] at hlate
    refine ⟨Array.toList_eq_nil_iff.mp (hpending.trans hlate), fun hmarkup hnone hempty => ?_⟩
    exact hmarkup (((hsilent hnone).mp hempty).symm.trans hlate)

theorem walk_leaves_late_markup_cardTree :
    loadTree unitRoom cardDisk cardPath = .ok cardTree ∧ componentName cardTree = none ∧
    ∃ v, walk Visitor.handlers id cardTree { convention := none, unit := "card" } = .ok () v ∧
      v.notes.pending = #[] ∧ v.diagnostics ≠ #[] := by
  have hload := loadTree_cardPath unitRoom (by decide)
  have hok : (verdict none cardTree).toBool = true := by decide +kernel
  have hname : componentName cardTree = none := by decide +kernel
  have hmarkup : (markup cardTree).isEmpty = false := by decide +kernel
  cases hv : verdict none cardTree with
  | error f =>
    rw [hv] at hok
    cases hok
  | ok found =>
    obtain ⟨v, hwalk, -⟩ := walk_eq_ok_iff.mpr hv
    obtain ⟨-, -, -, -, -, -, hwithoutLoose⟩ :=
      walk_leaves_late_markup hload none "card" {} hwalk
    obtain ⟨hpending, hreported⟩ := hwithoutLoose (looseMarkup_program (by decide))
    refine ⟨hload, hname, v, hwalk, hpending, hreported ?_ hname⟩
    intro hm
    rw [hm] at hmarkup
    cases hmarkup

def strayText : String :=
  "\x7b\"type\":\"File\",\"program\":\x7b\"type\":\"Module\",\"body\":[" ++
    "\x7b\"type\":\"JSXElement\",\"openingElement\":\x7b\"attributes\":[" ++
    "\x7b\"name\":\x7b\"name\":\"className\"\x7d\x7d]\x7d\x7d]\x7d\x7d"

def strayTree : Value :=
  .object [("type", .text "File"), ("program", .object [("type", .text "Module"),
    ("body", .list [.object [("type", .text "JSXElement"),
      ("openingElement", .object [("attributes", .list [
        .object [("name", .object [("name", .text "className")])]])])]])])]

def strayDisk : Disk where
  top := .directory [("unit.json", .file (asciiBytes strayText))]
  working := []

def strayPath : Path := ⟨.relative, ["unit.json"]⟩

theorem loadTree_strayPath : loadTree unitRoom strayDisk strayPath = .ok strayTree := by
  have htext : strayDisk.readText strayPath = .ok strayText.toList := by decide +kernel
  have hparse : Json.parse unitRoom strayText.toList = .ok strayTree := by cbv
  have hroot : (strayTree.nodeType?.map rootTypes.contains).getD false = true := by decide
  simp only [loadTree, htext, treeOf, hparse, hroot, if_true]

/-- Not every loaded tree with markup and no name is reported, and not all markup is judged. -/
theorem not_all_markup_judged :
    ¬ ∀ (disk : Disk) (path : Path) (tree : Value) (convention : Option Convention)
        (unit : String) (journal : Journal) (v : Visitor),
      loadTree unitRoom disk path = .ok tree →
      walk Visitor.handlers id tree { convention, unit, journal } = .ok () v →
      v.notes.pending = #[] ∧
        (markup tree ≠ [] → componentName tree = none → v.diagnostics ≠ #[]) := by
  intro hall
  have hsilent : (verdict none strayTree).map List.isEmpty = .ok true := by decide +kernel
  obtain ⟨found, hverdict, hempty⟩ := map_eq_ok.mp hsilent
  obtain ⟨v, hwalk, rfl⟩ := walk_eq_ok_iff.mpr hverdict
  have hmarkup : (markup strayTree).isEmpty = false := by decide +kernel
  obtain ⟨-, hreported⟩ := hall strayDisk strayPath strayTree none "unit.json" {} v
    loadTree_strayPath hwalk
  refine hreported ?_ (by decide +kernel) (Array.toList_eq_nil_iff.mp (List.isEmpty_iff.mp hempty))
  intro hm
  rw [hm] at hmarkup
  cases hmarkup

end PrefixLint
