import PrefixLint.Proofs.BodyEdits
import PrefixLint.Proofs.DocumentOrder

/-!
# The place of the default export

Elements are judged when the program ends, so the statement that names the component may stand
anywhere in the body, before the markup or after it. Moving it leaves the markup in its order and the
name as it is.
-/

namespace PrefixLint

open Ast

theorem markup_of_children {tree s : Value} {front back : List Value}
    (htype : tree.nodeType = "Program") (hchildren : tree.children = front ++ s :: back)
    (hs : s.nodeType ≠ "JSXElement")
    (hbelow : ∀ u ∈ s.children.flatMap preorder, u.nodeType ≠ "JSXElement") :
    markup tree = ((front ++ back).flatMap preorder).filter fun v =>
      decide (v.nodeType = "JSXElement") && Markup.hasClassAttribute v := by
  have hnone : (preorder s).filter (fun v =>
      decide (v.nodeType = "JSXElement") && Markup.hasClassAttribute v) = [] := by
    rw [preorder_eq, List.filter_eq_nil_iff]
    intro u hu
    rcases List.mem_cons.mp hu with rfl | hu
    · simp [hs]
    · simp [hbelow u hu]
  rw [markup, preorder_eq, hchildren]
  simp [htype, hnone]

theorem componentName_of_sole {tree s : Value} {name : String} (hs : s ∈ preorder tree)
    (hname : ExportsAs s name)
    (hsole : ∀ v ∈ preorder tree, ∀ other, ExportsAs v other → v = s) :
    componentName tree = some name := by
  have hsome := firstNamed_isSome_iff.mpr ⟨s, hs, name, hname⟩
  obtain ⟨found, hfound⟩ := Option.isSome_iff_exists.mp hsome
  obtain ⟨v, hv, hnames⟩ := exists_of_firstNamed hfound
  obtain rfl := hsole v hv found hnames
  have hsame : found = name := Option.some.inj (hnames.reads.symm.trans hname.reads)
  rw [componentName_eq, hfound, Option.some_or, hsame]

theorem judgedBy_of_sole {tree s : Value} {name : String} (htype : tree.nodeType = "Program")
    (hunit : (preorder tree).countP endsUnit = 1) (hs : s ∈ tree.children)
    (hname : ExportsAs s name)
    (hsole : ∀ v ∈ preorder tree, ∀ other, ExportsAs v other → v = s) : JudgedBy tree name := by
  have hprogram : SoleProgram tree tree := ⟨Or.inl rfl, htype, hunit⟩
  have hmem := mem_preorder_of_child hs (self_mem_preorder s)
  exact judgedBy_of_componentName hprogram (componentName_of_sole hmem hname hsole)

theorem same_outcome_of_judgedBy {tree tree' : Value} {name : String} (h : JudgedBy tree name)
    (h' : JudgedBy tree' name) (hmarkup : markup tree' = markup tree)
    (convention : Option Convention) (unit : String) (journal journal' : Journal) :
    (∃ f after after', lintTree convention unit tree journal = .error f after ∧
      lintTree convention unit tree' journal' = .error f after') ∨
    ∃ found after after', lintTree convention unit tree journal = .ok found after ∧
      lintTree convention unit tree' journal' = .ok found after' := by
  obtain ⟨after, hl⟩ := h convention unit journal
  obtain ⟨after', hl'⟩ := h' convention unit journal'
  rw [hmarkup] at hl'
  rw [hl, hl']
  cases Markup.validate (transform convention name ++ separator) (markup tree) with
  | error f => exact Or.inl ⟨f, after, after', rfl, rfl⟩
  | ok found => exact Or.inr ⟨found, after, after', rfl, rfl⟩

section Rearranged

variable {tree tree' : Value}

theorem countP_preorder_of_perm {p : Value → Bool} (hperm : tree'.children.Perm tree.children)
    (hroot : p tree' = p tree) : (preorder tree').countP p = (preorder tree).countP p := by
  have hbelow := (hperm.flatMap_right preorder).countP_eq p
  rw [preorder_eq, preorder_eq, List.countP_cons, List.countP_cons, hbelow, hroot]

theorem mem_preorder_of_perm {v : Value} (hperm : tree'.children.Perm tree.children)
    (hv : v ∈ preorder tree') (hne : v.nodeType ≠ tree'.nodeType) : v ∈ preorder tree := by
  rw [preorder_eq] at hv ⊢
  rcases List.mem_cons.mp hv with rfl | hbelow
  · exact absurd rfl hne
  · exact List.mem_cons_of_mem tree ((hperm.flatMap_right preorder).mem_iff.mp hbelow)

end Rearranged

/-- A statement that alone gives the component its name, and holds no markup, can be moved in the body
of a program: the check fails in the same way or finds the same. -/
theorem lintTree_export_moved {tree s : Value} {items : List Value} {name : String} {i j : Nat}
    (htype : tree.nodeType = "Program") (hsole : (preorder tree).countP endsUnit = 1)
    (hbody : tree.get? "body" = some (.list items)) (hi : items[i]? = some s)
    (hj : j < items.length) (hname : ExportsAs s name)
    (hbelow : ∀ u ∈ s.children.flatMap preorder, u.nodeType ≠ "JSXElement")
    (hother : ∀ v ∈ preorder tree, ∀ other, ExportsAs v other → v = s)
    (convention : Option Convention) (unit : String) (journal journal' : Journal) :
    (∃ f after after', lintTree convention unit tree journal = .error f after ∧
      lintTree convention unit (tree.withBody ((items.eraseIdx i).insertIdx j s)) journal' =
        .error f after') ∨
    ∃ found after after', lintTree convention unit tree journal = .ok found after ∧
      lintTree convention unit (tree.withBody ((items.eraseIdx i).insertIdx j s)) journal' =
        .ok found after' := by
  have hnode : s.isNode = true := isNode_of_nodeType hname.type (by decide)
  obtain ⟨front, back, front', back', hchildren, hchildren', hothers⟩ :=
    Value.children_move hbody hi hj hnode
  generalize hmoved : tree.withBody ((items.eraseIdx i).insertIdx j s) = moved at hchildren' ⊢
  have htype' : moved.nodeType = "Program" := by
    rw [← hmoved, Value.nodeType_withBody, htype]
  have hperm : moved.children.Perm tree.children := by
    rw [hchildren, hchildren']
    refine List.perm_middle.trans (.trans ?_ List.perm_middle.symm)
    rw [hothers]
  have hplain : s.nodeType ≠ "JSXElement" := by simp [hname.type]
  have hmarkup : markup moved = markup tree := by
    rw [markup_of_children htype hchildren hplain hbelow,
      markup_of_children htype' hchildren' hplain hbelow, hothers]
  have hsole' : (preorder moved).countP endsUnit = 1 := by
    rw [countP_preorder_of_perm hperm (by simp [endsUnit, htype, htype']), hsole]
  have hother' : ∀ v ∈ preorder moved, ∀ other, ExportsAs v other → v = s := by
    intro v hv other hexport
    refine hother v (mem_preorder_of_perm hperm hv ?_) other hexport
    simp [hexport.type, htype']
  exact same_outcome_of_judgedBy
    (judgedBy_of_sole htype hsole (by simp [hchildren]) hname hother)
    (judgedBy_of_sole htype' hsole' (by simp [hchildren']) hname hother')
    hmarkup convention unit journal journal'

def titleElement : Value :=
  .object [("type", .text "JSXElement"), ("start", .int 40),
    ("openingElement", .object [("attributes", .list [.object [
      ("name", .object [("name", .text "className")]),
      ("value", .object [("type", .text "Literal"), ("value", .text "title card")])]])])]

def cardExport : Value :=
  .object [("type", .text "ExportDefaultDeclaration"),
    ("declaration", .object [("type", .text "Identifier"), ("name", .text "Card")])]

def cardProgram (statements : List Value) : Value :=
  .object [("type", .text "Program"), ("body", .list statements)]

theorem sole_cardExport : ∀ v ∈ preorder (cardProgram [titleElement, cardExport]), ∀ other,
    ExportsAs v other → v = cardExport := by
  have hothers : ∀ v ∈ cardProgram [titleElement, cardExport] ::
      (preorder titleElement ++ cardExport.children.flatMap preorder),
      v.nodeType ≠ "ExportDefaultDeclaration" := by decide +kernel
  have hchildren : (cardProgram [titleElement, cardExport]).children =
      [titleElement, cardExport] := by rfl
  intro v hv other hexport
  rw [preorder_eq, hchildren, List.flatMap_cons, List.flatMap_singleton, preorder_eq cardExport]
    at hv
  by_contra hne
  refine hothers v ?_ hexport.type
  simpa [hne] using hv

theorem lintTree_export_moved_cardProgram :
    ∃ found after after',
      lintTree (some .dash) "card" (cardProgram [titleElement, cardExport]) {} =
        .ok found after ∧
      lintTree (some .dash) "card" (cardProgram [cardExport, titleElement]) {} =
        .ok found after' ∧
      found.map (·.message) = ["Class \"title\" name should starts with \"card__\""] := by
  have hmessages : ((verdict (some .dash) (cardProgram [titleElement, cardExport])).map
      fun found => found.map (·.message)) =
      .ok ["Class \"title\" name should starts with \"card__\""] := by
    decide +kernel
  obtain ⟨found, after, hv, hfound⟩ := lintTree_of_verdict_map hmessages "card" {}
  have hmoved : (cardProgram [titleElement, cardExport]).withBody
      (([titleElement, cardExport].eraseIdx 1).insertIdx 0 cardExport) =
      cardProgram [cardExport, titleElement] := by rfl
  have hbody : (cardProgram [titleElement, cardExport]).get? "body" =
      some (.list [titleElement, cardExport]) := by rfl
  have hfrom : [titleElement, cardExport][1]? = some cardExport := by rfl
  have hto : 0 < [titleElement, cardExport].length := by decide
  have hname : ExportsAs cardExport "Card" := ⟨by decide, by decide, by decide⟩
  have houtcome := lintTree_export_moved (by decide) (by decide +kernel) hbody hfrom hto hname
    (by decide +kernel) sole_cardExport (some .dash) "card" {} {}
  rw [hmoved] at houtcome
  rcases houtcome with ⟨f, _, _, hfault, -⟩ | ⟨found', _, after', hok, hw⟩
  · rw [hv] at hfault
    cases hfault
  · rw [hv] at hok
    cases hok
    exact ⟨found, after, after', hv, hw, hfound⟩

end PrefixLint
