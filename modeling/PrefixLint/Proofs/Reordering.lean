import Mathlib.Data.List.Nodup
import PrefixLint.Proofs.ChildOrder
import PrefixLint.Proofs.DocumentReading
import PrefixLint.Proofs.Likeness
import PrefixLint.Proofs.Sequences

/-!
# Reordered members

The members of objects may be written in any order. Every reader looks a member up by its name, so
only the order of children can tell two such trees apart, and it does not where offsets decide it:
where one member gives all children of a node, or all have offsets that differ between members. Then
reordering is a likeness.
-/

namespace PrefixLint.Ast

inductive Reordered : Value → Value → Prop where
  | same (v : Value) : Reordered v v
  | list {vs ws : List Value} (items : List.Forall₂ Reordered vs ws) :
      Reordered (.list vs) (.list ws)
  | object {ms ns rs : List (String × Value)} (order : ms.Perm ns)
      (names : ns.map Prod.fst = rs.map Prod.fst)
      (values : List.Forall₂ Reordered (ns.map Prod.snd) (rs.map Prod.snd)) :
      Reordered (.object ms) (.object rs)

/-- The order of members does not matter to the order of children: they all come from one member, or
all of them have offsets and no two from different members have the same one. -/
def Value.OrderDecided (v : Value) : Prop :=
  (∀ m ∈ v.members, ∀ n ∈ v.members, contributed m ≠ [] → contributed n ≠ [] → m.1 = n.1) ∨
  ((∀ c ∈ childrenOf v.members, c.offset?.isSome = true) ∧
    ∀ m ∈ v.members, ∀ n ∈ v.members, m.1 ≠ n.1 →
      ∀ c ∈ contributed m, ∀ d ∈ contributed n, c.offset? ≠ d.offset?)

instance (v : Value) : Decidable v.OrderDecided :=
  inferInstanceAs (Decidable (_ ∨ _))

theorem forall₂_members {ns rs : List (String × Value)}
    (names : ns.map Prod.fst = rs.map Prod.fst)
    (values : List.Forall₂ Reordered (ns.map Prod.snd) (rs.map Prod.snd)) :
    List.Forall₂ (fun n r => n.1 = r.1 ∧ Reordered n.2 r.2) ns rs := by
  rw [List.forall₂_map_left_iff, List.forall₂_map_right_iff] at values
  induction values with
  | nil => exact .nil
  | cons hvalue _ ih =>
    rw [List.map_cons, List.map_cons, List.cons.injEq] at names
    exact .cons ⟨names.1, hvalue⟩ (ih names.2)

theorem Reordered.members {v w : Value} (h : Reordered v w) :
    ∃ ns, v.members.Perm ns ∧
      List.Forall₂ (fun n r => n.1 = r.1 ∧ Reordered n.2 r.2) ns w.members := by
  cases h with
  | same =>
    refine ⟨v.members, List.Perm.refl _, List.forall₂_same.mpr ?_⟩
    exact fun m _ => ⟨rfl, .same m.2⟩
  | list => exact ⟨[], List.Perm.refl _, .nil⟩
  | object order names values => exact ⟨_, order, forall₂_members names values⟩

theorem Value.distinct_members {v : Value} (h : v.distinct = true) :
    (v.members.map Prod.fst).Nodup ∧ ∀ m ∈ v.members, m.2.distinct = true := by
  cases v with
  | object ms => exact distinct_object_iff.mp h
  | _ => exact ⟨List.nodup_nil, fun m hm => absurd hm List.not_mem_nil⟩

/-- What the readers rely on: a document, and the same document reordered. -/
structure Shuffled (v w : Value) : Prop where
  distinct : v.distinct = true
  reordered : Reordered v w

theorem lookup_shuffled {ns rs : List (String × Value)}
    (h : List.Forall₂ (fun n r => n.1 = r.1 ∧ Shuffled n.2 r.2) ns rs) (key : String) :
    Option.Rel Shuffled (ns.lookup key) (rs.lookup key) := by
  induction h with
  | nil => exact .none
  | @cons n r ns rs hhead _ ih =>
    rw [List.lookup_cons, List.lookup_cons, hhead.1]
    split
    · exact .some hhead.2
    · exact ih

section Option

variable {α β γ : Type} {r : α → β → Prop} {x : Option α} {y : Option β}

theorem bind_eq_of_rel {f : α → Option γ} {g : β → Option γ} (h : Option.Rel r x y)
    (hfg : ∀ {a b}, r a b → f a = g b) : x.bind f = y.bind g := by
  cases h with
  | none => rfl
  | some hab => exact hfg hab

theorem bind_rel_of_rel {δ : Type} {s : γ → δ → Prop} {f : α → Option γ} {g : β → Option δ}
    (h : Option.Rel r x y) (hfg : ∀ {a b}, r a b → Option.Rel s (f a) (g b)) :
    Option.Rel s (x.bind f) (y.bind g) := by
  cases h with
  | none => exact .none
  | some hab => exact hfg hab

theorem getD_of_rel {x : Option (List α)} {y : Option (List β)}
    (h : Option.Rel (List.Forall₂ r) x y) : List.Forall₂ r (x.getD []) (y.getD []) := by
  cases h with
  | none => exact .nil
  | some hab => exact hab

end Option

namespace Shuffled

variable {v w : Value}

theorem members (h : Shuffled v w) :
    ∃ ns, v.members.Perm ns ∧
      List.Forall₂ (fun n r => n.1 = r.1 ∧ Shuffled n.2 r.2) ns w.members := by
  obtain ⟨ns, hperm, hmembers⟩ := h.reordered.members
  have hdistinct : ∀ n ∈ ns, n.2.distinct = true := fun n hn =>
    (Value.distinct_members h.distinct).2 n (hperm.mem_iff.mpr hn)
  have hboth := (List.forall₂_and_left _ _).mpr ⟨hdistinct, hmembers⟩
  exact ⟨ns, hperm, hboth.imp fun n r hnr => ⟨hnr.2.1, hnr.1, hnr.2.2⟩⟩

theorem get? (h : Shuffled v w) (key : String) :
    Option.Rel Shuffled (v.get? key) (w.get? key) := by
  obtain ⟨ns, hperm, hmembers⟩ := h.members
  rw [Value.get?, lookup_eq_of_perm hperm (Value.distinct_members h.distinct).1]
  exact lookup_shuffled hmembers key

theorem of_mem {vs : List Value} (h : ∀ u ∈ vs, u.distinct = true) : List.Forall₂ Shuffled vs vs :=
  List.forall₂_same.mpr fun u hu => ⟨h u hu, .same u⟩

theorem items? (h : Shuffled v w) : Option.Rel (List.Forall₂ Shuffled) v.items? w.items? := by
  obtain ⟨hdistinct, hreordered⟩ := h
  cases hreordered with
  | same =>
    cases v with
    | list vs => exact .some (of_mem (Value.distinct_list_iff.mp hdistinct))
    | _ => exact .none
  | list items =>
    have hboth := (List.forall₂_and_left _ _).mpr ⟨Value.distinct_list_iff.mp hdistinct, items⟩
    exact .some (hboth.imp fun u x hux => ⟨hux.1, hux.2⟩)
  | object => exact .none

theorem kind (h : Shuffled v w) : v.kind = w.kind := by
  cases h.reordered <;> rfl

theorem text? (h : Shuffled v w) : v.text? = w.text? := by
  cases h.reordered <;> rfl

theorem integer? (h : Shuffled v w) : v.integer? = w.integer? := by
  cases h.reordered <;> rfl

theorem isObject (h : Shuffled v w) : v.isObject = w.isObject := by
  cases h.reordered <;> rfl

theorem coordinate (h : Shuffled v w) : Coordinate.ofValue? v = Coordinate.ofValue? w := by
  cases h.reordered <;> rfl

theorem getText? (h : Shuffled v w) (key : String) : v.getText? key = w.getText? key :=
  bind_eq_of_rel (h.get? key) fun hab => hab.text?

theorem object? (h : Shuffled v w) (key : String) :
    Option.Rel Shuffled (v.object? key) (w.object? key) :=
  filter_of_rel (h.get? key) isObject

theorem nodeType? (h : Shuffled v w) : v.nodeType? = w.nodeType? := h.getText? "type"

theorem isNode (h : Shuffled v w) : v.isNode = w.isNode := by
  rw [Value.isNode, Value.isNode, h.nodeType?]

theorem filter {p : Value → Bool} (hp : ∀ {a b}, Shuffled a b → p a = p b) {vs ws : List Value}
    (h : List.Forall₂ Shuffled vs ws) : List.Forall₂ Shuffled (vs.filter p) (ws.filter p) :=
  List.rel_filter (fun _ _ hab => iff_of_eq (congrArg (· = true) (hp hab))) h

theorem head? {vs ws : List Value} (h : List.Forall₂ Shuffled vs ws) :
    vs.head?.bind Value.integer? = ws.head?.bind Value.integer? := by
  cases h with
  | nil => rfl
  | cons hab _ => exact hab.integer?

theorem offset? (h : Shuffled v w) : v.offset? = w.offset? := by
  have hstart := bind_eq_of_rel (h.get? "start") fun hab => hab.integer?
  have hrange := bind_rel_of_rel (h.get? "range") fun hab => hab.items?
  rw [Value.offset?, Value.offset?, hstart, bind_eq_of_rel hrange head?]

theorem nodesOf (h : Shuffled v w) : List.Forall₂ Shuffled v.nodesOf w.nodesOf := by
  rw [Value.nodesOf, Value.nodesOf, h.isNode]
  split
  · exact .cons h .nil
  · exact filter isNode (getD_of_rel h.items?)

theorem contributed {name : String} (h : Shuffled v w) :
    List.Forall₂ Shuffled (Value.contributed (name, v)) (Value.contributed (name, w)) := by
  rw [Value.contributed, Value.contributed]
  split
  · exact .nil
  · exact h.nodesOf

end Shuffled

namespace Value

theorem children_eq_of_perm {v : Value} {ns : List (String × Value)} (h : v.members.Perm ns)
    (hnodup : (v.members.map Prod.fst).Nodup) (hdecided : v.OrderDecided) :
    v.children = byOffset (childrenOf ns) := by
  have hmembers := hnodup.of_map Prod.fst
  rw [children]
  rcases hdecided with hsole | ⟨hoffsets, hapart⟩
  · have hsame := flatMap_eq_of_perm (f := contributed) h hmembers fun m hm n hn hcm hcn =>
      List.inj_on_of_nodup_map hnodup hm hn (hsole m hm n hn hcm hcn)
    rw [childrenOf_eq, childrenOf_eq, hsame]
  · have hoffsets' : ∀ c ∈ childrenOf ns, c.offset?.isSome = true := by
      intro c hc
      exact hoffsets c ((h.flatMap_right contributed).mem_iff.mpr hc)
    refine eq_of_ascending (byOffset_ascending hoffsets) (byOffset_ascending hoffsets') ?_
    intro k
    rw [filter_byOffset, filter_byOffset, childrenOf_eq, childrenOf_eq, List.filter_flatMap,
      List.filter_flatMap]
    -- Children of one offset come from one member, so their order is that within the member.
    refine flatMap_eq_of_perm h hmembers fun m hm n hn hcm hcn => ?_
    obtain ⟨c, hc⟩ := List.exists_mem_of_ne_nil _ hcm
    obtain ⟨d, hd⟩ := List.exists_mem_of_ne_nil _ hcn
    rw [List.mem_filter, decide_eq_true_eq] at hc hd
    have hsame : c.offset? = d.offset? := by
      rw [offset?_eq_some (hoffsets c (mem_childrenOf hm hc.1)), hc.2,
        offset?_eq_some (hoffsets d (mem_childrenOf hn hd.1)), hd.2]
    by_contra hne
    have hnames : m.1 ≠ n.1 := fun hname => hne (List.inj_on_of_nodup_map hnodup hm hn hname)
    exact hapart m hm n hn hnames c hc.1 d hd.1 hsame

end Value

theorem Shuffled.children {v w : Value} (h : Shuffled v w) (hdecided : v.OrderDecided) :
    List.Forall₂ Shuffled v.children w.children := by
  obtain ⟨ns, hperm, hmembers⟩ := h.members
  have hnodup := (Value.distinct_members h.distinct).1
  rw [Value.children_eq_of_perm hperm hnodup hdecided, Value.children]
  apply Value.forall₂_byOffset (fun _ _ hab => hab.offset?)
  rw [Value.childrenOf_eq, Value.childrenOf_eq]
  refine forall₂_flatMap hmembers fun n _ r hnr => ?_
  obtain ⟨name, u⟩ := n
  obtain ⟨_, x⟩ := r
  obtain ⟨rfl, hux⟩ := hnr
  exact hux.contributed

end PrefixLint.Ast

namespace PrefixLint

open Ast

namespace Ast.Shuffled

variable {v w : Value}

theorem identifierName? (h : Shuffled v w) : identifierName? v = identifierName? w := by
  rw [PrefixLint.identifierName?, PrefixLint.identifierName?, h.getText?, h.getText?]

theorem className? (h : Shuffled v w) : className? v = className? w :=
  bind_eq_of_rel (h.get? "id") identifierName?

theorem exportName? (h : Shuffled v w) : exportName? v = exportName? w := by
  refine bind_eq_of_rel (h.object? "declaration") fun hab => ?_
  rw [hab.identifierName?, bind_eq_of_rel (hab.get? "id") identifierName?]

theorem attributes (h : Shuffled v w) :
    List.Forall₂ Shuffled (Markup.attributes v) (Markup.attributes w) := by
  have hlisted := bind_rel_of_rel (h.object? "openingElement") fun hab => hab.get? "attributes"
  exact filter isObject (getD_of_rel (bind_rel_of_rel hlisted items?))

theorem isClassAttribute (h : Shuffled v w) :
    Markup.isClassAttribute v = Markup.isClassAttribute w := by
  rw [Markup.isClassAttribute, Markup.isClassAttribute,
    bind_eq_of_rel (h.object? "name") fun hab => hab.getText? "name"]

theorem hasClassAttribute (h : Shuffled v w) :
    Markup.hasClassAttribute v = Markup.hasClassAttribute w := by
  rw [Markup.hasClassAttribute, Markup.hasClassAttribute]
  have hattributes := h.attributes
  generalize Markup.attributes v = vs, Markup.attributes w = ws at hattributes
  induction hattributes with
  | nil => rfl
  | cons hab _ ih => rw [List.any_cons, List.any_cons, hab.isClassAttribute, ih]

theorem literalClass? (h : Shuffled v w) : Markup.literalClass? v = Markup.literalClass? w := by
  unfold Markup.literalClass?
  generalize v.object? "value" = x, w.object? "value" = y, h.object? "value" = hvalue
  cases hvalue with
  | none => rfl
  | @some a b hab =>
    simp only [hab.getText?]
    generalize a.get? "type" = s, b.get? "type" = t, hab.get? "type" = htype
    cases htype with
    | none => rfl
    | some htype => cases htype.reordered <;> rfl

theorem violations (h : Shuffled v w) (pre : String) :
    Markup.violations pre v = Markup.violations pre w := by
  refine Markup.violations_congr h.attributes isClassAttribute fun hab => ?_
  rw [Markup.attributeViolations, Markup.attributeViolations, hab.literalClass?]

theorem coordinate? (h : Shuffled v w) (key : String) :
    Diagnostic.coordinate? v key = Diagnostic.coordinate? w key := by
  have hstart := bind_rel_of_rel (h.object? "loc") fun hab => hab.object? "start"
  exact bind_eq_of_rel (bind_rel_of_rel hstart fun hab => hab.get? key) coordinate

end Ast.Shuffled

theorem shuffled_likeness : Likeness fun v w =>
    (∀ u ∈ preorder v, u.OrderDecided) ∧ Shuffled v w where
  kind h := h.2.kind
  nodeType? h := h.2.nodeType?
  children := by
    rintro v w ⟨hdecided, h⟩
    refine (List.forall₂_and_left _ _).mpr ⟨fun c hc u hu => ?_, ?_⟩
    · exact hdecided u (mem_preorder_of_child hc hu)
    · exact h.children (hdecided v (self_mem_preorder v))
  exportName? h := h.2.exportName?
  className? h := h.2.className?
  hasClassAttribute h := h.2.hasClassAttribute
  violations h := h.2.violations
  line h := h.2.coordinate? "line"
  column h := h.2.coordinate? "column"

/-- Reordering the members of a tree whose offsets decide the order of children does not change how
its check ends, and the walk goes through corresponding nodes in the same order. -/
theorem lintTree_reordered {tree tree' : Value} (hdistinct : tree.distinct = true)
    (hdecided : ∀ v ∈ preorder tree, v.OrderDecided) (h : Reordered tree tree')
    (convention : Option Convention) (unit : String) (journal journal' : Journal) :
    ((∃ f after after', lintTree convention unit tree journal = .error f after ∧
      lintTree convention unit tree' journal' = .error f after') ∨
    ∃ found found' after after', lintTree convention unit tree journal = .ok found after ∧
      lintTree convention unit tree' journal' = .ok found' after' ∧
      List.Forall₂ (Diagnostic.Alike Reordered) found found') ∧
    List.Forall₂ (Turn.Alike Reordered) (timeline tree) (timeline tree') ∧
    (tree.isNode = true → tree'.isNode = true ∧ ∀ {ε σ : Type} (handlers : Handlers ε σ)
      (refuse : Ast.Fault → ε),
      walk handlers refuse tree = (timeline tree).forM (Turn.fire handlers) ∧
      walk handlers refuse tree' = (timeline tree').forM (Turn.fire handlers)) := by
  have hshuffled : Shuffled tree tree' := ⟨hdistinct, h⟩
  have hlike := And.intro hdecided hshuffled
  refine ⟨?_, ?_, ?_⟩
  · rcases shuffled_likeness.lintTree convention unit hlike journal journal' with
      hfault | ⟨found, found', after, after', hv, hw, hfound⟩
    · exact Or.inl hfault
    · refine Or.inr ⟨found, found', after, after', hv, hw, hfound.imp ?_⟩
      intro d d' hd
      exact ⟨hd.anchor.2.reordered, hd.message, hd.ruleId, hd.line, hd.column⟩
  · refine (shuffled_likeness.timeline hlike).imp ?_
    intro t u htu
    exact ⟨htu.place, htu.leaving, htu.node.2.reordered⟩
  · intro hnode
    have hnode' : tree'.isNode = true := hshuffled.isNode ▸ hnode
    refine ⟨hnode', fun handlers refuse => ?_⟩
    rw [walk_of_isNode handlers refuse hnode, walk_of_isNode handlers refuse hnode',
      visit_eq_forM_timeline, visit_eq_forM_timeline]
    exact ⟨rfl, rfl⟩

/-- An element before the export that names it, under a member of its own; `reversed` turns the
members of the program and of the identifier round. -/
def scattered (reversed : Bool) : Value :=
  let element := .object [("type", .text "JSXElement"), ("start", .int 3),
    ("openingElement", .object [("attributes", .list [.object [
      ("name", .object [("name", .text "className")]),
      ("value", .object [("type", .text "Literal"), ("value", .text "title")])]])])]
  let name := if reversed then [("name", .text "Card"), ("type", .text "Identifier")]
    else [("type", .text "Identifier"), ("name", .text "Card")]
  let body := .list [.object [("type", .text "ExportDefaultDeclaration"), ("start", .int 40),
    ("declaration", .object name)]]
  .object (("type", .text "Program") ::
    if reversed then [("body", body), ("markup", element)]
    else [("markup", element), ("body", body)])

theorem scattered_reordered : Reordered (scattered false) (scattered true) := by
  refine .object ((List.Perm.swap _ _ []).cons _) rfl (.cons (.same _) (.cons ?_ ?_))
  · refine .list (.cons (.object (List.Perm.refl _) rfl ?_) .nil)
    refine .cons (.same _) (.cons (.same _) (.cons ?_ .nil))
    exact .object (List.Perm.swap _ _ []) rfl (.cons (.same _) (.cons (.same _) .nil))
  · exact .cons (.same _) .nil

theorem children_scattered :
    (scattered false).children = Value.childrenOf (scattered false).members :=
  Value.byOffset_of_ascending (by decide)

theorem lintTree_reordered_scattered :
    Reordered (scattered false) (scattered true) ∧
    List.Forall₂ (Turn.Alike Reordered) (timeline (scattered false)) (timeline (scattered true)) ∧
    ∃ found found' after after', lintTree none "card" (scattered false) {} = .ok found after ∧
      lintTree none "card" (scattered true) {} = .ok found' after' ∧
      List.Forall₂ (Diagnostic.Alike Reordered) found found' ∧
      found.map (·.message) = ["Class \"title\" name should starts with \"Card__\""] := by
  have hdecided : ∀ v ∈ preorder (scattered false), v.OrderDecided := by
    rw [preorder_eq, children_scattered]
    decide +kernel
  have hmessages : ((verdict none (scattered false)).map fun found => found.map (·.message)) =
      .ok ["Class \"title\" name should starts with \"Card__\""] := by
    rw [verdict, operations_eq, children_scattered]
    decide +kernel
  obtain ⟨found, hverdict, hfound⟩ := map_eq_ok.mp hmessages
  obtain ⟨after, hv⟩ : ∃ after, lintTree none "card" (scattered false) {} = .ok found after :=
    lintTree_eq_ok_iff.mpr hverdict
  obtain ⟨houtcome, hwalk, -⟩ := lintTree_reordered (by decide +kernel) hdecided
    scattered_reordered none "card" {} {}
  refine ⟨scattered_reordered, hwalk, ?_⟩
  rcases houtcome with ⟨f, _, _, hfault, -⟩ | ⟨found', others, _, after', hok, hw, halike⟩
  · rw [hv] at hfault
    cases hfault
  · rw [hv] at hok
    cases hok
    exact ⟨found, others, after, after', hv, hw, halike, hfound⟩

end PrefixLint
