import PrefixLint.Proofs.BodyEdits
import PrefixLint.Proofs.Likeness

/-!
# Statements without effect

A check takes notice of exports, class declarations, elements and programs. A statement with none of
them in it leads to no operation, and where it is put among the children the others keep their order.
So a program is checked alike with the statement and without it; a diagnostic at the program itself
stands at the longer program then, which has the same place.
-/

namespace PrefixLint

open Ast Operation

def noticedTypes : List String :=
  ["ExportDefaultDeclaration", "ClassDeclaration", "JSXElement", "Program", "Program:exit"]

/-- No node of a noticed type can be reached. -/
def Inert (s : Value) : Prop := ∀ u ∈ preorder s, u.nodeType ∉ noticedTypes

theorem entering_of_not_noticed {u : Value} (h : u.nodeType ∉ noticedTypes) :
    entering u = none := by
  simp only [noticedTypes, List.mem_cons, List.not_mem_nil, or_false, not_or] at h
  obtain ⟨hexport, hclass, helement, -, hexit⟩ := h
  unfold entering ofEvent?
  split
  · next he => exact absurd he hexport
  · next he => exact absurd he hclass
  · next he => exact absurd he helement
  · next he => exact absurd he hexit
  · rfl

theorem operations_of_inert {s : Value} (h : Inert s) : operations s = [] := by
  have hprogram : ∀ u ∈ preorder s, u.nodeType ≠ "Program" := by
    intro u hu htype
    exact h u hu (by simp [htype, noticedTypes])
  rw [operations_of_no_program hprogram, List.filterMap_eq_nil_iff]
  intro u hu
  exact entering_of_not_noticed (h u hu)

/-- The same node in two programs that may differ in their bodies only. -/
inductive SameNode (tree tree' : Value) : Value → Value → Prop where
  | root : SameNode tree tree' tree tree'
  | below {v : Value} (h : v ∈ tree.children.flatMap preorder) : SameNode tree tree' v v

theorem violations_withBody (pre : String) (v : Value) (items : List Value) :
    Markup.violations pre (v.withBody items) = Markup.violations pre v := by
  have hopening : (v.withBody items).get? "openingElement" = v.get? "openingElement" :=
    Value.get?_withBody v items (by decide)
  rw [Markup.violations, Markup.violations, Markup.attributes, Markup.attributes, Value.object?,
    Value.object?, hopening]

theorem coordinate?_withBody (v : Value) (items : List Value) (key : String) :
    Diagnostic.coordinate? (v.withBody items) key = Diagnostic.coordinate? v key := by
  have hloc : (v.withBody items).get? "loc" = v.get? "loc" :=
    Value.get?_withBody v items (by decide)
  rw [Diagnostic.coordinate?, Diagnostic.coordinate?, Diagnostic.startOf, Diagnostic.startOf,
    Value.object?, Value.object?, hloc]

theorem sameNode_judgedAlike (tree : Value) (items : List Value) :
    JudgedAlike (SameNode tree (tree.withBody items)) where
  violations h pre := by
    cases h with
    | root => exact (violations_withBody pre tree items).symm
    | below _ => rfl
  line h := by
    cases h with
    | root => exact (coordinate?_withBody tree items "line").symm
    | below _ => rfl
  column h := by
    cases h with
    | root => exact (coordinate?_withBody tree items "column").symm
    | below _ => rfl

theorem alike_of_ofEvent? {r : Value → Value → Prop} {event : String} {v : Value} {op : Operation}
    (hv : r v v) (h : ofEvent? event v = some op) : op.Alike r op := by
  unfold ofEvent? at h
  split at h
  · cases h
    exact .noteExport _
  · cases h
    exact .noteClass _
  · split at h
    · cases h
      exact .noteElement hv
    · cases h
  · cases h
    exact .resolve hv
  · cases h

theorem alike_of_mem_operations {r : Value → Value → Prop} {v : Value} {op : Operation}
    (hr : ∀ u ∈ preorder v, r u u) (h : op ∈ operations v) : op.Alike r op := by
  induction v using children_induction with
  | h v ih =>
    have hv := hr v (self_mem_preorder v)
    rw [operations_eq, List.mem_append, List.mem_append, List.mem_flatMap] at h
    rcases h with (henter | ⟨c, hc, hop⟩) | hleave
    · exact alike_of_ofEvent? hv (Option.mem_toList.mp henter)
    · exact ih c hc (fun u hu => hr u (mem_preorder_of_child hc hu)) hop
    · exact alike_of_ofEvent? hv (Option.mem_toList.mp hleave)

theorem operations_insert {tree s : Value} {items : List Value} {k : Nat}
    (htype : tree.nodeType = "Program") (hbody : tree.get? "body" = some (.list items))
    (hk : k ≤ items.length) (hnode : s.isNode = true) (hoffset : s.offset?.isSome = true)
    (hinert : Inert s) :
    operations (tree.withBody (items.insertIdx k s)) =
      tree.children.flatMap operations ++ [resolve (tree.withBody (items.insertIdx k s))] := by
  obtain ⟨front, back, hchildren, hchildren'⟩ := Value.children_insert hbody hk hnode hoffset
  have htype' := (Value.nodeType_withBody tree (items.insertIdx k s)).trans htype
  rw [operations_program htype', hchildren', hchildren]
  simp [operations_of_inert hinert]

/-- An inert statement that starts somewhere can be put into the body of a program: the check fails in
the same way, or finds the same at the same nodes. -/
theorem lintTree_statement_inserted {tree s : Value} {items : List Value} {k : Nat}
    (htype : tree.nodeType = "Program") (hbody : tree.get? "body" = some (.list items))
    (hk : k ≤ items.length) (hnode : s.isNode = true) (hoffset : s.offset?.isSome = true)
    (hinert : Inert s) (convention : Option Convention) (unit : String)
    (journal journal' : Journal) :
    (∃ f after after', lintTree convention unit tree journal = .error f after ∧
      lintTree convention unit (tree.withBody (items.insertIdx k s)) journal' =
        .error f after') ∨
    ∃ found found' after after', lintTree convention unit tree journal = .ok found after ∧
      lintTree convention unit (tree.withBody (items.insertIdx k s)) journal' =
        .ok found' after' ∧
      List.Forall₂ (Diagnostic.Alike (SameNode tree (tree.withBody (items.insertIdx k s))))
        found found' := by
  have hops : List.Forall₂
      (Operation.Alike (SameNode tree (tree.withBody (items.insertIdx k s))))
      (operations tree) (operations (tree.withBody (items.insertIdx k s))) := by
    rw [operations_program htype, operations_insert htype hbody hk hnode hoffset hinert]
    refine List.rel_append (List.forall₂_same.mpr fun op hop => ?_) (.cons (.resolve .root) .nil)
    obtain ⟨c, hc, hop⟩ := List.mem_flatMap.mp hop
    exact alike_of_mem_operations (fun u hu => .below (List.mem_flatMap.mpr ⟨c, hc, hu⟩)) hop
  have hroot : tree.isNode = (tree.withBody (items.insertIdx k s)).isNode := by
    rw [Value.isNode, Value.isNode, Value.nodeType?_withBody]
  exact (sameNode_judgedAlike tree _).lintTree convention unit (Value.kind_withBody hbody _).symm
    hroot hops journal journal'

def nameless (statements : List Value) : Value :=
  .object [("type", .text "Program"),
    ("loc", .object [("start", .object [("line", .int 1), ("column", .int 0)])]),
    ("body", .list statements)]

def classedElement : Value :=
  .object [("type", .text "JSXElement"), ("start", .int 40),
    ("openingElement", .object [("attributes", .list [.object [
      ("name", .object [("name", .text "className")])]])])]

def sideImport : Value :=
  .object [("type", .text "ImportDeclaration"), ("range", .list [.int 3, .int 20]),
    ("source", .object [("type", .text "Literal"), ("value", .text "JSXElement")])]

theorem lintTree_statement_inserted_sideImport :
    ∃ found found' after after',
      lintTree none "card" (nameless [classedElement]) {} = .ok found after ∧
      lintTree none "card" (nameless [classedElement, sideImport]) {} = .ok found' after' ∧
      List.Forall₂ (Diagnostic.Alike (SameNode (nameless [classedElement])
        (nameless [classedElement, sideImport]))) found found' ∧
      found.map (fun d => (d.message, d.line)) = [(missingPrefixMessage, some (.number 1))] := by
  have hchildren : (nameless [classedElement]).children = [classedElement] :=
    Value.byOffset_of_ascending (by decide)
  have hmessages : ((verdict none (nameless [classedElement])).map fun found =>
      found.map fun d => (d.message, d.line)) =
      .ok [(missingPrefixMessage, some (.number 1))] := by
    rw [verdict, operations_eq, hchildren]
    decide +kernel
  obtain ⟨found, after, hv, hfound⟩ := lintTree_of_verdict_map hmessages "card" {}
  have hbody : (nameless [classedElement]).get? "body" = some (.list [classedElement]) := by rfl
  have hplace : 1 ≤ [classedElement].length := by decide
  have hinert : Inert sideImport := by
    unfold Inert
    decide +kernel
  have houtcome := lintTree_statement_inserted (by decide) hbody hplace (by decide) (by decide)
    hinert none "card" {} {}
  have hlonger : (nameless [classedElement]).withBody ([classedElement].insertIdx 1 sideImport) =
      nameless [classedElement, sideImport] := by rfl
  rw [hlonger] at houtcome
  rcases houtcome with ⟨f, _, _, hfault, -⟩ | ⟨found', others, _, after', hok, hw, halike⟩
  · rw [hv] at hfault
    cases hfault
  · rw [hv] at hok
    cases hok
    exact ⟨found, others, after, after', hv, hw, halike, hfound⟩

end PrefixLint
