import PrefixLint.Proofs.ChildOrder
import PrefixLint.Proofs.Verdict

/-!
# Document order

Where every node has its place in the text, inside that of its parent and apart from those of its
siblings, the walk enters the nodes in the order in which they start, although it sorts only the
children of one node at a time. So the first name that is noted is the first in the text.
-/

namespace PrefixLint.Ast

namespace Value

def start? (v : Value) : Option Int := (v.get? "start").bind integer?

def end? (v : Value) : Option Int := (v.get? "end").bind integer?

def first (v : Value) : Int := v.start?.getD 0

def last (v : Value) : Int := v.end?.getD 0

def Apart (a b : Value) : Prop :=
  (a.first < b.first ∧ a.last ≤ b.first) ∨ (b.first < a.first ∧ b.last ≤ a.first)

instance (a b : Value) : Decidable (a.Apart b) := inferInstanceAs (Decidable (_ ∨ _))

theorem Apart.symm {a b : Value} (h : a.Apart b) : b.Apart a := Or.symm h

theorem offset?_of_start {v : Value} (h : v.start?.isSome = true) : v.offset? = some v.first := by
  obtain ⟨k, hk⟩ := Option.isSome_iff_exists.mp h
  rw [first, hk, Option.getD_some, offset?, ← start?, hk, Option.some_or]

end Value

/-- The nodes of a tree have nested places in the text. -/
structure Laid (tree : Value) : Prop where
  placed : ∀ v ∈ preorder tree, v.start?.isSome = true ∧ v.end?.isSome = true ∧ v.first ≤ v.last
  inside : ∀ v ∈ preorder tree, ∀ c ∈ Value.childrenOf v.members,
    v.first ≤ c.first ∧ c.last ≤ v.last
  apart : ∀ v ∈ preorder tree, (Value.childrenOf v.members).Pairwise Value.Apart

namespace Laid

variable {v c : Value}

theorem child (h : Laid v) (hc : c ∈ v.children) : Laid c where
  placed u hu := h.placed u (mem_preorder_of_child hc hu)
  inside u hu := h.inside u (mem_preorder_of_child hc hu)
  apart u hu := h.apart u (mem_preorder_of_child hc hu)

theorem within (h : Laid v) (hc : c ∈ v.children) : v.first ≤ c.first ∧ c.last ≤ v.last :=
  h.inside v (self_mem_preorder v) c ((Value.byOffset_perm _).mem_iff.mp hc)

theorem nested (h : Laid v) : ∀ u ∈ preorder v, v.first ≤ u.first ∧ u.last ≤ v.last := by
  induction v using children_induction with
  | h v ih =>
    intro u hu
    rw [preorder_eq, List.mem_cons, List.mem_flatMap] at hu
    rcases hu with rfl | ⟨c, hc, hu⟩
    · exact ⟨Int.le_refl _, Int.le_refl _⟩
    · have hv := h.within hc
      have hbelow := ih c hc (h.child hc) u hu
      omega

theorem children_apart (h : Laid v) : v.children.Pairwise Value.Apart := by
  apply ((Value.byOffset_perm _).pairwise_iff Value.Apart.symm).mpr
  exact h.apart v (self_mem_preorder v)

theorem children_ascend (h : Laid v) : v.children.Pairwise fun c d => c.first ≤ d.first := by
  have hposition : ∀ c ∈ v.children, c.offset? = some c.first := by
    intro c hc
    exact Value.offset?_of_start (h.placed c (mem_preorder_of_child hc (self_mem_preorder c))).1
  have hsorted : v.children.Pairwise fun c d => c.position ≤ d.position := by
    apply Value.byOffset_ascending
    intro c hc
    rw [hposition c ((Value.byOffset_perm _).mem_iff.mpr hc)]
    rfl
  refine hsorted.imp_of_mem fun {c d} hc hd hcd => ?_
  simpa only [Value.position, hposition c hc, hposition d hd, Option.getD_some] using hcd

theorem preorder_ascends (h : Laid v) : (preorder v).Pairwise fun a b => a.first ≤ b.first := by
  induction v using children_induction with
  | h v ih =>
    have hnested := h.nested
    rw [preorder_eq] at hnested ⊢
    refine List.pairwise_cons.mpr ⟨fun u hu => ?_, ?_⟩
    · exact (hnested u (List.mem_cons_of_mem v hu)).1
    · refine List.pairwise_flatMap.mpr ⟨fun c hc => ih c hc (h.child hc), ?_⟩
      -- A child that starts earlier ends before the later one starts, with all that lies below it.
      refine (h.children_ascend.and h.children_apart).imp_of_mem ?_
      rintro c d hc hd ⟨hstart, hapart⟩ x hx y hy
      have hends : c.last ≤ d.first := by
        rcases hapart with hapart | hapart <;> omega
      have hxplaced := (h.placed x (mem_preorder_of_child hc hx)).2.2
      have hx := (h.child hc).nested x hx
      have hy := (h.child hd).nested y hy
      omega

end Laid

def Turn.entered? (t : Turn) : Option Value := if t.leaving then none else some t.node

def entered (tree : Value) : List Value := (timeline tree).filterMap Turn.entered?

theorem entered_eq_preorder (v : Value) : entered v = preorder v := by
  induction v using children_induction with
  | h v ih =>
    have hbelow := filterMap_timelines (f := Turn.entered?) (fun _ _ => rfl) v.children 0
    have hchildren : v.children.flatMap entered = v.children.flatMap preorder := by
      rw [List.flatMap_def, List.flatMap_def, List.map_congr_left ih]
    calc entered v
      _ = v :: ((timelines v.children 0).filterMap Turn.entered? ++ []) := by
        rw [entered, timeline_eq, List.filterMap_cons, List.filterMap_append]
        rfl
      _ = v :: v.children.flatMap entered := by
        rw [List.append_nil, hbelow]
        rfl
      _ = preorder v := by rw [hchildren, preorder_eq]

end PrefixLint.Ast

namespace PrefixLint

open Ast Operation

/-- A node of a type gives a name that is not empty. -/
structure Names (type : String) (reader : Value → Option String) (v : Value) (name : String) :
    Prop where
  type : v.nodeType = type
  reads : reader v = some name
  nonempty : name ≠ ""

def firstNamed (type : String) (reader : Value → Option String) (vs : List Value) : Option String :=
  ((vs.filter fun v => decide (v.nodeType = type)).filterMap reader).find? (· ≠ "")

section

variable {type : String} {reader : Value → Option String} {vs : List Value}

theorem firstNamed_cons_of_names {v : Value} {name : String} (h : Names type reader v name) :
    firstNamed type reader (v :: vs) = some name := by
  simp [firstNamed, h.type, h.reads, h.nonempty]

theorem firstNamed_cons_of_not {v : Value} (h : ∀ name, ¬ Names type reader v name) :
    firstNamed type reader (v :: vs) = firstNamed type reader vs := by
  unfold firstNamed
  by_cases htype : v.nodeType = type
  · cases hread : reader v with
    | none => simp [htype, hread]
    | some name =>
      have hempty : name = "" := by
        by_contra hne
        exact h name ⟨htype, hread, hne⟩
      simp [htype, hread, hempty]
  · simp [htype]

theorem firstNamed_of_ascending (h : vs.Pairwise fun a b => a.first ≤ b.first)
    (hsome : ∃ v ∈ vs, ∃ name, Names type reader v name) :
    ∃ d ∈ vs, ∃ name, Names type reader d name ∧ firstNamed type reader vs = some name ∧
      ∀ e ∈ vs, ∀ other, Names type reader e other → d.first ≤ e.first := by
  induction vs with
  | nil => simp at hsome
  | cons v vs ih =>
    by_cases hv : ∃ name, Names type reader v name
    · obtain ⟨name, hname⟩ := hv
      refine ⟨v, List.mem_cons_self, name, hname, firstNamed_cons_of_names hname, ?_⟩
      intro e he _ _
      exact le_of_mem_of_ascending h he
    · rw [not_exists] at hv
      obtain ⟨d, hd, name, hname, hfirst, hleast⟩ := ih (List.Pairwise.of_cons h) (by
        obtain ⟨u, hu, name, hname⟩ := hsome
        rcases List.mem_cons.mp hu with rfl | hu
        · exact absurd hname (hv name)
        · exact ⟨u, hu, name, hname⟩)
      rw [firstNamed_cons_of_not hv]
      refine ⟨d, List.mem_cons_of_mem v hd, name, hname, hfirst, ?_⟩
      intro e he other hother
      rcases List.mem_cons.mp he with rfl | he
      · exact absurd hother (hv other)
      · exact hleast e he other hother

theorem firstNamed_of_none (h : ∀ v ∈ vs, ∀ name, ¬ Names type reader v name) :
    firstNamed type reader vs = none := by
  induction vs with
  | nil => rfl
  | cons v vs ih =>
    rw [firstNamed_cons_of_not (h v List.mem_cons_self)]
    exact ih fun u hu => h u (List.mem_cons_of_mem v hu)

end

theorem firstNamed_isSome_iff {type : String} {reader : Value → Option String} {vs : List Value} :
    (firstNamed type reader vs).isSome = true ↔ ∃ v ∈ vs, ∃ name, Names type reader v name := by
  simp only [firstNamed, List.find?_isSome, List.mem_filterMap, List.mem_filter,
    decide_eq_true_eq]
  constructor
  · rintro ⟨name, ⟨v, ⟨hv, htype⟩, hread⟩, hname⟩
    exact ⟨v, hv, name, htype, hread, hname⟩
  · rintro ⟨v, hv, name, h⟩
    exact ⟨name, ⟨v, ⟨hv, h.type⟩, h.reads⟩, h.nonempty⟩

theorem exists_of_firstNamed {type : String} {reader : Value → Option String} {vs : List Value}
    {name : String} (h : firstNamed type reader vs = some name) :
    ∃ v ∈ vs, Names type reader v name := by
  obtain ⟨v, hv, hread⟩ := List.mem_filterMap.mp (List.mem_of_find?_eq_some h)
  obtain ⟨hmem, htype⟩ := List.mem_filter.mp hv
  have hne : name ≠ "" := by simpa using List.find?_some h
  exact ⟨v, hmem, of_decide_eq_true htype, hread, hne⟩

abbrev ExportsAs : Value → String → Prop := Names "ExportDefaultDeclaration" exportName?

abbrev DeclaresAs : Value → String → Prop := Names "ClassDeclaration" className?

theorem componentName_eq (tree : Value) : componentName tree =
    (firstNamed "ExportDefaultDeclaration" exportName? (preorder tree)).or
      (firstNamed "ClassDeclaration" className? (preorder tree)) := rfl

def JudgedBy (tree : Value) (name : String) : Prop :=
  ∀ (convention : Option Convention) (unit : String) (journal : Journal),
    ∃ after, lintTree convention unit tree journal =
      match Markup.validate (transform convention name ++ separator) (markup tree) with
      | .ok found => .ok found after
      | .error f => .error f after

theorem judge_some (convention : Option Convention) (node : Value) (name : String)
    (pending : List Value) : judge convention node (some name) pending =
      Markup.validate (transform convention name ++ separator) pending := by
  cases pending with
  | nil => rfl
  | cons element rest => rfl

theorem judgedBy_of_componentName {tree program : Value} {name : String}
    (h : SoleProgram tree program) (hname : componentName tree = some name) :
    JudgedBy tree name := by
  intro convention unit journal
  obtain ⟨after, hl⟩ := lintTree_realises convention unit h.isNode journal
  rw [effects_of_soleProgram h, hname, judge_some] at hl
  refine ⟨after, hl.trans ?_⟩
  cases Markup.validate (transform convention name ++ separator) (markup tree) <;> rfl

/-- In a program whose nodes have nested places the walk enters nodes in the order of their starts.
So the name of a component is that of the default export that starts first among those with a name,
and without one that of the class declaration that starts first among those with a name. -/
theorem component_first_in_text {tree : Value} (htype : tree.nodeType = "Program")
    (hsole : (preorder tree).countP endsUnit = 1) (hlaid : Laid tree) :
    (∀ {ε σ : Type} (handlers : Handlers ε σ) (refuse : Ast.Fault → ε),
      walk handlers refuse tree = (timeline tree).forM (Turn.fire handlers)) ∧
    (entered tree).Pairwise (fun a b => a.first ≤ b.first) ∧
    ((∃ v ∈ entered tree, ∃ name, ExportsAs v name) →
      ∃ d ∈ entered tree, ∃ name, ExportsAs d name ∧ JudgedBy tree name ∧
        ∀ e ∈ entered tree, ∀ other, ExportsAs e other → d.first ≤ e.first) ∧
    ((¬ ∃ v ∈ entered tree, ∃ name, ExportsAs v name) →
      (∃ v ∈ entered tree, ∃ name, DeclaresAs v name) →
      ∃ d ∈ entered tree, ∃ name, DeclaresAs d name ∧ JudgedBy tree name ∧
        ∀ e ∈ entered tree, ∀ other, DeclaresAs e other → d.first ≤ e.first) := by
  have hprogram : SoleProgram tree tree := ⟨Or.inl rfl, htype, hsole⟩
  have hascends := hlaid.preorder_ascends
  rw [entered_eq_preorder]
  refine ⟨fun handlers refuse => ?_, hascends, fun hexport => ?_, fun hno hclass => ?_⟩
  · rw [walk_of_isNode handlers refuse hprogram.isNode, visit_eq_forM_timeline]
  · obtain ⟨d, hd, name, hname, hfirst, hleast⟩ := firstNamed_of_ascending hascends hexport
    have hcomponent : componentName tree = some name := by
      rw [componentName_eq, hfirst, Option.some_or]
    exact ⟨d, hd, name, hname, judgedBy_of_componentName hprogram hcomponent, hleast⟩
  · obtain ⟨d, hd, name, hname, hfirst, hleast⟩ := firstNamed_of_ascending hascends hclass
    have hnone : firstNamed "ExportDefaultDeclaration" exportName? (preorder tree) = none :=
      firstNamed_of_none fun v hv name hexport => hno ⟨v, hv, name, hexport⟩
    have hcomponent : componentName tree = some name := by
      rw [componentName_eq, hnone, hfirst, Option.none_or]
    exact ⟨d, hd, name, hname, judgedBy_of_componentName hprogram hcomponent, hleast⟩

def cardThenPage (exported : Bool) : Value :=
  let statement (name : String) (start : Int) : Value :=
    let identifier := .object [("type", .text "Identifier"), ("name", .text name),
      ("start", .int (start + 5)), ("end", .int (start + 9))]
    .object [("end", .int (start + 20)), ("start", .int start),
      ("type", .text (if exported then "ExportDefaultDeclaration" else "ClassDeclaration")),
      (if exported then "declaration" else "id", identifier)]
  .object [("type", .text "Program"), ("start", .int 0), ("end", .int 45),
    ("body", .list [statement "Card" 0, statement "Page" 20])]

theorem preorder_cardThenPage (exported : Bool) : preorder (cardThenPage exported) =
    cardThenPage exported :: (Value.childrenOf (cardThenPage exported).members).flatMap preorder := by
  have hchildren : (cardThenPage exported).children =
      Value.childrenOf (cardThenPage exported).members := by
    apply Value.byOffset_of_ascending
    cases exported <;> decide
  rw [preorder_eq, hchildren]

theorem laid_cardThenPage (exported : Bool) : Laid (cardThenPage exported) := by
  constructor <;> rw [preorder_cardThenPage] <;> cases exported <;> decide +kernel

theorem component_first_in_text_cardThenPage :
    (∃ d ∈ entered (cardThenPage true), ∃ name, ExportsAs d name ∧
      JudgedBy (cardThenPage true) name ∧
      ∀ e ∈ entered (cardThenPage true), ∀ other, ExportsAs e other → d.first ≤ e.first) ∧
    ∃ d ∈ entered (cardThenPage false), ∃ name, DeclaresAs d name ∧
      JudgedBy (cardThenPage false) name ∧
      ∀ e ∈ entered (cardThenPage false), ∀ other, DeclaresAs e other → d.first ≤ e.first := by
  have hsole (exported : Bool) : (preorder (cardThenPage exported)).countP endsUnit = 1 := by
    rw [preorder_cardThenPage]
    cases exported <;> decide +kernel
  have hexported : ∃ v ∈ entered (cardThenPage true),
      v.nodeType = "ExportDefaultDeclaration" ∧ exportName? v = some "Page" := by
    rw [entered_eq_preorder, preorder_cardThenPage]
    decide +kernel
  have hdeclared : ∃ v ∈ entered (cardThenPage false),
      v.nodeType = "ClassDeclaration" ∧ className? v = some "Page" := by
    rw [entered_eq_preorder, preorder_cardThenPage]
    decide +kernel
  have hnone : ∀ v ∈ entered (cardThenPage false), v.nodeType ≠ "ExportDefaultDeclaration" := by
    rw [entered_eq_preorder, preorder_cardThenPage]
    decide +kernel
  obtain ⟨v, hv, hvtype, hvname⟩ := hexported
  obtain ⟨w, hw, hwtype, hwname⟩ := hdeclared
  obtain ⟨-, -, hexport, -⟩ := component_first_in_text (by decide) (hsole true)
    (laid_cardThenPage true)
  obtain ⟨-, -, -, hclass⟩ := component_first_in_text (by decide) (hsole false)
    (laid_cardThenPage false)
  refine ⟨hexport ⟨v, hv, "Page", hvtype, hvname, by decide⟩, hclass ?_ ?_⟩
  · rintro ⟨u, hu, _, hnamed⟩
    exact hnone u hu hnamed.type
  · exact ⟨w, hw, "Page", hwtype, hwname, by decide⟩

end PrefixLint
