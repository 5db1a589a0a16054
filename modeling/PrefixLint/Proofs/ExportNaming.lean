import PrefixLint.Proofs.DocumentOrder

/-!
# The name of a default export

What is exported by default and is not itself an identifier has the name of the identifier under its
`id`, if there is one. Its own type is not asked for, so that a class expression names its unit like
a class declaration. An export without such a name takes no part in a check: passing over it changes
no walk. Where no other export has a name, the class declarations decide, and where these have none
either, the markup is reported once.
-/

namespace PrefixLint

open Ast

namespace Ast

namespace Value

theorem getText?_eq_some_iff {v : Value} {key s : String} :
    v.getText? key = some s ↔ v.get? key = some (.text s) := by
  rw [getText?, Option.bind_eq_some_iff]
  constructor
  · rintro ⟨w, hget, hw⟩
    cases w with
    | text t => rwa [← Option.some.inj hw]
    | _ => cases hw
  · intro hget
    exact ⟨_, hget, rfl⟩

theorem isObject_of_isNode {v : Value} (h : v.isNode = true) : v.isObject = true := by
  cases v with
  | object members => rfl
  | _ => cases h

end Value

/-- The handlers, but for a set of nodes at which nothing is done. -/
def passingOver {ε σ : Type} (skip : Value → Bool) (handlers : Handlers ε σ) : Handlers ε σ :=
  fun event => (handlers event).map fun handler node => if skip node then pure () else handler node

section

variable {ε σ : Type} {skip : Value → Bool} {handlers : Handlers ε σ}

theorem fire_passingOver {event : String} {node : Value}
    (h : skip node = true → fire handlers event node = pure ()) :
    fire (passingOver skip handlers) event node = fire handlers event node := by
  cases hskip : skip node with
  | true =>
    rw [h hskip]
    cases hh : handlers event <;> simp [fire, passingOver, hh, hskip]
  | false => cases hh : handlers event <;> simp [fire, passingOver, hh, hskip]

theorem walk_passingOver
    (h : ∀ v, skip v = true → fire handlers v.nodeType v = pure () ∧
      fire handlers (v.nodeType ++ exitMark) v = pure ())
    (refuse : Fault → ε) (tree : Value) :
    walk (passingOver skip handlers) refuse tree = walk handlers refuse tree := by
  have hturn : Turn.fire (passingOver skip handlers) = Turn.fire handlers := by
    funext t
    apply fire_passingOver
    intro hskip
    rw [Turn.event]
    split
    · exact (h t.node hskip).2
    · exact (h t.node hskip).1
  cases hnode : tree.isNode with
  | true => rw [walk_of_isNode _ _ hnode, walk_of_isNode _ _ hnode, visit_eq_forM_timeline,
      visit_eq_forM_timeline, hturn]
  | false => rw [walk_of_not_isNode _ _ hnode, walk_of_not_isNode _ _ hnode]

end

end Ast

/-- A node of some type other than an identifier is exported by default. -/
structure ExportsNode (node declaration : Value) : Prop where
  type : node.nodeType = "ExportDefaultDeclaration"
  declares : node.get? "declaration" = some declaration
  isNode : declaration.isNode = true
  unlike : declaration.nodeType ≠ "Identifier"

def IdentifiedAs (v : Value) (name : String) : Prop :=
  ∃ identifier, v.get? "id" = some identifier ∧
    identifier.get? "type" = some (.text "Identifier") ∧
    identifier.get? "name" = some (.text name)

def Anonymous (node : Value) : Prop :=
  ∃ declaration, ExportsNode node declaration ∧ ∀ name, IdentifiedAs declaration name → name = ""

theorem identifierName?_eq_some_iff {v : Value} {name : String} :
    identifierName? v = some name ↔
      v.get? "type" = some (.text "Identifier") ∧ v.get? "name" = some (.text name) := by
  rw [identifierName?, ← Value.getText?_eq_some_iff, ← Value.getText?_eq_some_iff]
  split
  · next htype => simp [htype]
  · next htype => simp [htype]

theorem className?_eq_some_iff {v : Value} {name : String} :
    className? v = some name ↔ IdentifiedAs v name := by
  simp only [className?, IdentifiedAs, Option.bind_eq_some_iff, identifierName?_eq_some_iff]

theorem exportName?_eq_className? {node declaration : Value} (h : ExportsNode node declaration) :
    exportName? node = className? declaration := by
  have hobject : node.object? "declaration" = some declaration := by
    rw [Value.object?, h.declares, Option.filter_some, if_pos (Value.isObject_of_isNode h.isNode)]
  have hidentifier : identifierName? declaration = none := by
    rw [identifierName?, if_neg]
    intro htype
    apply h.unlike
    rw [Value.nodeType, Value.nodeType?, htype, Option.getD_some]
  rw [exportName?, hobject, Option.bind_some, hidentifier, Option.none_or, className?]

theorem not_exportsAs_of_anonymous {node : Value} (h : Anonymous node) (name : String) :
    ¬ ExportsAs node name := by
  obtain ⟨declaration, hexports, hnames⟩ := h
  intro hname
  have hread := hname.reads
  rw [exportName?_eq_className? hexports, className?_eq_some_iff] at hread
  exact hname.nonempty (hnames name hread)

theorem fire_of_anonymous {node : Value} (h : Anonymous node) :
    fire Visitor.handlers node.nodeType node = pure () ∧
      fire Visitor.handlers (node.nodeType ++ exitMark) node = pure () := by
  have htype : node.nodeType = "ExportDefaultDeclaration" := h.choose_spec.1.type
  have hname : (exportName? node).filter (· ≠ "") = none := by
    rw [Option.filter_eq_none_iff]
    intro name hread
    simpa using fun hne => not_exportsAs_of_anonymous h name ⟨htype, hread, hne⟩
  have hnotes (n : Notes) : n.recordExport (exportName? node) = n := by
    rw [Notes.recordExport, Notes.firstName, hname, Option.or_none]
  rw [htype]
  refine ⟨?_, rfl⟩
  funext v
  show EStateM.Result.ok () (v.onExport (exportName? node)) = .ok () v
  rw [Visitor.onExport, hnotes]

theorem firstNamed_append_cons {type : String} {reader : Value → Option String}
    {before after : List Value} {v : Value} {name : String}
    (h : ∀ u ∈ before, ∀ other, ¬ Names type reader u other) (hv : Names type reader v name) :
    firstNamed type reader (before ++ v :: after) = some name := by
  induction before with
  | nil => exact firstNamed_cons_of_names hv
  | cons u before ih =>
    rw [List.cons_append, firstNamed_cons_of_not (h u List.mem_cons_self)]
    exact ih fun w hw => h w (List.mem_cons_of_mem u hw)

theorem lintTree_of_nameless {tree program : Value} (h : SoleProgram tree program)
    (hname : componentName tree = none) (convention : Option Convention) (unit : String)
    (journal : Journal) :
    ∃ after, lintTree convention unit tree journal =
      .ok (if (markup tree).isEmpty then [] else [.ofNode program missingPrefixMessage ruleId])
        after := by
  rcases lintTree_meaning h convention unit journal with ⟨after, hl⟩ | ⟨_, _, -, hsome, -⟩
  · refine ⟨after, hl.trans ?_⟩
    rw [meaning, hname]
    cases markup tree <;> rfl
  · rw [hname] at hsome
    cases hsome

theorem anonymous_iff {node declaration : Value} (h : ExportsNode node declaration) :
    Anonymous node ↔ ∀ name, IdentifiedAs declaration name → name = "" := by
  constructor
  · rintro ⟨other, hother, hnames⟩
    cases h.declares.symm.trans hother.declares
    exact hnames
  · intro hnames
    exact ⟨declaration, h, hnames⟩

/-- The type of what is exported by default is asked for only to see whether it is an identifier.
Every other node gives the name of the identifier under its `id`, and none just if there is no such
identifier. Exports of nodes that get no name have no part in any walk. In a unit whose other exports
have no name, the first class declaration with a name decides, and without one markup is reported as
lacking a name. -/
theorem default_export_named_by_id {node declaration : Value} (h : ExportsNode node declaration) :
    (∀ name, exportName? node = some name ↔ IdentifiedAs declaration name) ∧
    (exportName? node = none ↔ ∀ name, ¬ IdentifiedAs declaration name) ∧
    (Anonymous node ↔ ∀ name, IdentifiedAs declaration name → name = "") ∧
    (∀ skip : Value → Bool, (∀ v, skip v = true → Anonymous v) → ∀ refuse tree,
      walk (passingOver skip Visitor.handlers) refuse tree = walk Visitor.handlers refuse tree) ∧
    ∀ tree program, SoleProgram tree program →
      (∀ v ∈ preorder tree, ¬ Anonymous v → ∀ name, ¬ ExportsAs v name) →
      (∀ before declared after name, preorder tree = before ++ declared :: after →
        (∀ v ∈ before, ∀ other, ¬ DeclaresAs v other) → DeclaresAs declared name →
        JudgedBy tree name) ∧
      ((∀ v ∈ preorder tree, ∀ name, ¬ DeclaresAs v name) → ∀ convention unit journal,
        ∃ after, lintTree convention unit tree journal =
          .ok (if (markup tree).isEmpty then []
            else [.ofNode program missingPrefixMessage ruleId]) after) := by
  have hread (name : String) : exportName? node = some name ↔ IdentifiedAs declaration name := by
    rw [exportName?_eq_className? h, className?_eq_some_iff]
  refine ⟨hread, ?_, anonymous_iff h, fun skip hskip => ?_, fun tree program hsole hothers => ?_⟩
  · simp only [Option.eq_none_iff_forall_ne_some, ne_eq, hread]
  · exact walk_passingOver fun v hv => fire_of_anonymous (hskip v hv)
  · have hnone : firstNamed "ExportDefaultDeclaration" exportName? (preorder tree) = none := by
      refine firstNamed_of_none fun v hv name => ?_
      by_cases hanonymous : Anonymous v
      · exact not_exportsAs_of_anonymous hanonymous name
      · exact hothers v hv hanonymous name
    refine ⟨fun before declared after name hsplit hfirst hname => ?_, fun hclass => ?_⟩
    · apply judgedBy_of_componentName hsole
      rw [componentName_eq, hnone, Option.none_or, hsplit, firstNamed_append_cons hfirst hname]
    · apply lintTree_of_nameless hsole
      rw [componentName_eq, hnone, Option.none_or, firstNamed_of_none hclass]

def identified (type : String) (name : Option String) : Value :=
  .object (("type", .text type) :: name.toList.map fun name =>
    ("id", .object [("type", .text "Identifier"), ("name", .text name)]))

def defaultExport (declaration : Value) : Value :=
  .object [("type", .text "ExportDefaultDeclaration"), ("declaration", declaration)]

theorem exportsNode_defaultExport {declaration : Value} (h : declaration.isNode = true)
    (hunlike : declaration.nodeType ≠ "Identifier") :
    ExportsNode (defaultExport declaration) declaration :=
  ⟨rfl, rfl, h, hunlike⟩

theorem not_only_declarations_named :
    ¬ ∀ node declaration, ExportsNode node declaration →
      declaration.nodeType ∉ ["ClassDeclaration", "FunctionDeclaration"] →
      exportName? node = none := by
  intro h
  have hnone := h _ (identified "ClassExpression" (some "Foo"))
    (exportsNode_defaultExport (by decide) (by decide)) (by decide)
  revert hnone
  decide

def bareExport (v : Value) : Bool :=
  decide (v.nodeType = "ExportDefaultDeclaration") && (v.get? "declaration").any fun declaration =>
    declaration.isNode && decide (declaration.nodeType ≠ "Identifier") &&
      (declaration.get? "id").isNone

theorem anonymous_of_bareExport {v : Value} (h : bareExport v = true) : Anonymous v := by
  obtain ⟨htype, hdeclaration⟩ := Bool.and_eq_true_iff.mp h
  obtain ⟨declaration, hdeclares, hbare⟩ := (Option.any_eq_true _ _).mp hdeclaration
  simp only [Bool.and_eq_true, decide_eq_true_eq, Option.isNone_iff_eq_none] at htype hbare
  obtain ⟨⟨hnode, hunlike⟩, hid⟩ := hbare
  refine ⟨declaration, ⟨htype, hdeclares, hnode, hunlike⟩, ?_⟩
  rintro name ⟨identifier, hidentifier, -⟩
  rw [hid] at hidentifier
  cases hidentifier

def functionExport : Value := defaultExport (identified "FunctionExpression" none)

def cardClass : Value := identified "ClassDeclaration" (some "Card")

def classed : Value :=
  .object [("type", .text "JSXElement"), ("openingElement", .object [("attributes", .list [
    .object [("name", .object [("name", .text "className")])]])])]

def afterFunction (statements : List Value) : Value :=
  .object [("type", .text "Program"), ("body", .list (classed :: functionExport :: statements))]

theorem default_export_named_by_id_functionExport :
    ExportsNode functionExport (identified "FunctionExpression" none) ∧
    exportName? functionExport = none ∧
    Anonymous functionExport ∧
    (∀ tree, walk (passingOver bareExport Visitor.handlers) id tree =
      walk Visitor.handlers id tree) ∧
    JudgedBy (afterFunction [cardClass]) "Card" ∧
    ∃ after, lintTree (some .dash) "card.json" (afterFunction []) {} =
      .ok [.ofNode (afterFunction []) missingPrefixMessage ruleId] after := by
  have hexport : ExportsNode functionExport (identified "FunctionExpression" none) :=
    exportsNode_defaultExport (by decide) (by decide)
  have hbare (name : String) : ¬ IdentifiedAs (identified "FunctionExpression" none) name := by
    rintro ⟨identifier, hidentifier, -⟩
    cases hidentifier
  obtain ⟨-, hnameless, hanonymous, hwalk, hunit⟩ := default_export_named_by_id hexport
  have hclassed : SoleProgram (afterFunction [cardClass]) (afterFunction [cardClass]) :=
    ⟨Or.inl rfl, by decide, by decide +kernel⟩
  have hclassless : SoleProgram (afterFunction []) (afterFunction []) :=
    ⟨Or.inl rfl, by decide, by decide +kernel⟩
  have hexports (tree : Value) (h : ∀ v ∈ preorder tree,
      v.nodeType = "ExportDefaultDeclaration" → bareExport v = true) :
      ∀ v ∈ preorder tree, ¬ Anonymous v → ∀ name, ¬ ExportsAs v name := by
    intro v hv hnot name hexport
    exact hnot (anonymous_of_bareExport (h v hv hexport.type))
  have hsplit : preorder (afterFunction [cardClass]) =
      (afterFunction [cardClass] :: (preorder classed ++ preorder functionExport)) ++
        cardClass :: cardClass.children.flatMap preorder := by
    have hchildren : (afterFunction [cardClass]).children = [classed, functionExport, cardClass] :=
      rfl
    rw [preorder_eq, hchildren]
    simp [preorder_eq cardClass]
  have hbefore : ∀ v ∈ afterFunction [cardClass] :: (preorder classed ++ preorder functionExport),
      v.nodeType ≠ "ClassDeclaration" := by decide +kernel
  have hnone : ∀ v ∈ preorder (afterFunction []), v.nodeType ≠ "ClassDeclaration" := by
    decide +kernel
  refine ⟨hexport, hnameless.mpr hbare, hanonymous.mpr fun name h => absurd h (hbare name), ?_, ?_,
    ?_⟩
  · exact hwalk bareExport (fun v => anonymous_of_bareExport) id
  · refine (hunit _ _ hclassed (hexports _ (by decide +kernel))).1 _ _ _ _ hsplit ?_ ?_
    · exact fun v hv other hclass => hbefore v hv hclass.type
    · exact ⟨by decide, by decide, by decide⟩
  · have hmarkup : (markup (afterFunction [])).isEmpty = false := by decide +kernel
    obtain ⟨after, hl⟩ := (hunit _ _ hclassless (hexports _ (by decide +kernel))).2
      (fun v hv other hclass => hnone v hv hclass.type) (some .dash) "card.json" {}
    rw [hmarkup] at hl
    exact ⟨after, hl⟩

end PrefixLint
