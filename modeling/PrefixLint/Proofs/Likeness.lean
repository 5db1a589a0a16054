import PrefixLint.Proofs.Verdict

/-!
# Trees that no check tells apart

A likeness relates values that agree in everything a check reads: what they are, the names and the
markup they give, their place, and their children in order, which are alike again. Alike trees lead
to alike operations. For what follows it is enough that the related nodes are judged alike: alike
operations have alike effects step by step, and so the verdicts are the same fault or lists of
diagnostics with the same texts and places at related nodes.
-/

namespace PrefixLint

open Ast Operation

/-- Related nodes have the same place in the text and the same wrong class names. -/
structure JudgedAlike (r : Value → Value → Prop) : Prop where
  violations {v w : Value} : r v w → ∀ pre, Markup.violations pre v = Markup.violations pre w
  line {v w : Value} : r v w →
    Diagnostic.coordinate? v "line" = Diagnostic.coordinate? w "line"
  column {v w : Value} : r v w →
    Diagnostic.coordinate? v "column" = Diagnostic.coordinate? w "column"

structure Likeness (r : Value → Value → Prop) : Prop extends JudgedAlike r where
  kind {v w : Value} : r v w → v.kind = w.kind
  nodeType? {v w : Value} : r v w → v.nodeType? = w.nodeType?
  children {v w : Value} : r v w → List.Forall₂ r v.children w.children
  exportName? {v w : Value} : r v w → exportName? v = exportName? w
  className? {v w : Value} : r v w → className? v = className? w
  hasClassAttribute {v w : Value} : r v w →
    Markup.hasClassAttribute v = Markup.hasClassAttribute w

structure Ast.Turn.Alike (r : Value → Value → Prop) (t u : Turn) : Prop where
  place : t.place = u.place
  leaving : t.leaving = u.leaving
  node : r t.node u.node

structure Diagnostic.Alike (r : Value → Value → Prop) (d e : Diagnostic) : Prop where
  anchor : r d.anchor e.anchor
  message : d.message = e.message
  ruleId : d.ruleId = e.ruleId
  line : d.line = e.line
  column : d.column = e.column

/-- The same fault, or related results. -/
inductive SameOutcome {ε α β : Type} (s : α → β → Prop) : Except ε α → Except ε β → Prop where
  | ok {a : α} {b : β} (h : s a b) : SameOutcome s (.ok a) (.ok b)
  | error (e : ε) : SameOutcome s (.error e) (.error e)

abbrev SameVerdict (r : Value → Value → Prop) :
    Except Ast.Fault (List Diagnostic) → Except Ast.Fault (List Diagnostic) → Prop :=
  SameOutcome (List.Forall₂ (Diagnostic.Alike r))

inductive Operation.Alike (r : Value → Value → Prop) : Operation → Operation → Prop where
  | noteExport (name : Option String) : Alike r (.noteExport name) (.noteExport name)
  | noteClass (name : Option String) : Alike r (.noteClass name) (.noteClass name)
  | noteElement {v w : Value} (h : r v w) : Alike r (.noteElement v) (.noteElement w)
  | resolve {v w : Value} (h : r v w) : Alike r (.resolve v) (.resolve w)

structure Notes.Alike (r : Value → Value → Prop) (m n : Notes) : Prop where
  exported : m.exported = n.exported
  defined : m.defined = n.defined
  pending : List.Forall₂ r m.pending.toList n.pending.toList

structure Effect.Alike (r : Value → Value → Prop) (e f : Effect) : Prop where
  fault : e.fault = f.fault
  notes : e.notes.Alike r f.notes
  found : List.Forall₂ (Diagnostic.Alike r) e.found f.found

theorem forall₂_flatMap {α β γ δ : Type} {r : α → β → Prop} {s : γ → δ → Prop} {f : α → List γ}
    {g : β → List δ} {as : List α} {bs : List β} (h : List.Forall₂ r as bs)
    (hfg : ∀ a ∈ as, ∀ b, r a b → List.Forall₂ s (f a) (g b)) :
    List.Forall₂ s (as.flatMap f) (bs.flatMap g) := by
  induction h with
  | nil => exact .nil
  | @cons a b as bs hab hrest ih =>
    rw [List.flatMap_cons, List.flatMap_cons]
    have hhead := hfg a List.mem_cons_self b hab
    exact List.rel_append hhead (ih fun a' ha' => hfg a' (List.mem_cons_of_mem a ha'))

theorem forall₂_toList {α β : Type} {s : α → β → Prop} {a : Option α} {b : Option β}
    (h : Option.Rel s a b) : List.Forall₂ s a.toList b.toList := by
  cases h with
  | none => exact .nil
  | some h => exact .cons h .nil

theorem SameOutcome.append {ε γ δ : Type} {s : γ → δ → Prop} {x y : Except ε (List γ)}
    {x' y' : Except ε (List δ)} (hx : SameOutcome (List.Forall₂ s) x x')
    (hy : SameOutcome (List.Forall₂ s) y y') :
    SameOutcome (List.Forall₂ s) (do let cs ← x; let rest ← y; return cs ++ rest)
      (do let cs ← x'; let rest ← y'; return cs ++ rest) := by
  cases hx with
  | error e => exact .error e
  | ok hcs =>
    cases hy with
    | error e => exact .error e
    | ok hrest => exact .ok (List.rel_append hcs hrest)

theorem sameOutcome_flatMapM {ε α β γ δ : Type} {r : α → β → Prop} {s : γ → δ → Prop}
    {f : α → Except ε (List γ)} {g : β → Except ε (List δ)}
    (hfg : ∀ a b, r a b → SameOutcome (List.Forall₂ s) (f a) (g b)) {as : List α} {bs : List β}
    (h : List.Forall₂ r as bs) :
    SameOutcome (List.Forall₂ s) (as.flatMapM f) (bs.flatMapM g) := by
  induction h with
  | nil => exact .ok .nil
  | @cons a b as bs hab hrest ih =>
    rw [List.flatMapM_cons, List.flatMapM_cons]
    exact (hfg a b hab).append ih

namespace JudgedAlike

variable {r : Value → Value → Prop}

theorem ofNode (h : JudgedAlike r) {v w : Value} (hvw : r v w) (message rule : String) :
    (Diagnostic.ofNode v message rule).Alike r (Diagnostic.ofNode w message rule) :=
  ⟨hvw, rfl, rfl, h.line hvw, h.column hvw⟩

theorem validate (h : JudgedAlike r) (pre : String) {vs ws : List Value}
    (hvw : List.Forall₂ r vs ws) :
    SameVerdict r (Markup.validate pre vs) (Markup.validate pre ws) := by
  refine sameOutcome_flatMapM (fun v w hvw => ?_) hvw
  rw [Markup.elementDiagnostics, Markup.elementDiagnostics, h.violations hvw]
  cases Markup.violations pre w with
  | error f => exact .error f
  | ok tokens =>
    refine .ok ?_
    rw [List.forall₂_map_left_iff, List.forall₂_map_right_iff, List.forall₂_same]
    exact fun token _ => h.ofNode hvw _ _

theorem judge (h : JudgedAlike r) (convention : Option Convention) {v w : Value} (hvw : r v w)
    (component : Option String) {vs ws : List Value} (hpending : List.Forall₂ r vs ws) :
    SameVerdict r (judge convention v component vs) (judge convention w component ws) := by
  cases hpending with
  | nil => exact .ok .nil
  | cons hhead hrest =>
    cases component with
    | none => exact .ok (.cons (h.ofNode hvw _ _) .nil)
    | some name => exact h.validate _ (.cons hhead hrest)

theorem effect (h : JudgedAlike r) (convention : Option Convention) {m n : Notes}
    (hmn : m.Alike r n) {op op' : Operation} (hop : op.Alike r op') :
    (op.effect convention m).Alike r (op'.effect convention n) := by
  cases hop with
  | noteExport name =>
    refine ⟨rfl, ⟨?_, hmn.defined, hmn.pending⟩, .nil⟩
    exact congrArg (Notes.firstName · name) hmn.exported
  | noteClass name =>
    refine ⟨rfl, ⟨hmn.exported, ?_, hmn.pending⟩, .nil⟩
    exact congrArg (Notes.firstName · name) hmn.defined
  | noteElement hvw =>
    refine ⟨rfl, ⟨hmn.exported, hmn.defined, ?_⟩, .nil⟩
    simp only [Operation.effect, Notes.recordElement, Array.toList_push]
    exact List.rel_append hmn.pending (.cons hvw .nil)
  | @resolve v w hvw =>
    have hcomponent : m.component = n.component := by
      rw [Notes.component, Notes.component, hmn.exported, hmn.defined]
    have hjudge := h.judge convention hvw n.component hmn.pending
    simp only [Operation.effect, hcomponent]
    generalize PrefixLint.judge convention v n.component m.pending.toList = left at hjudge ⊢
    generalize PrefixLint.judge convention w n.component n.pending.toList = right at hjudge ⊢
    cases hjudge with
    | ok hfound => exact ⟨rfl, ⟨rfl, rfl, .nil⟩, hfound⟩
    | error f => exact ⟨rfl, ⟨rfl, rfl, .nil⟩, .nil⟩

theorem effects (h : JudgedAlike r) (convention : Option Convention) {ops ops' : List Operation}
    (hops : List.Forall₂ (Operation.Alike r) ops ops') {m n : Notes} (hmn : m.Alike r n) :
    (effects convention m ops).Alike r (effects convention n ops') := by
  induction hops generalizing m n with
  | nil => exact ⟨rfl, hmn, .nil⟩
  | @cons op op' rest rest' hop hrest ih =>
    -- Alike operations fail together, so both runs stop here or both go on with alike notes.
    have hfirst := h.effect convention hmn hop
    have hlater := ih hfirst.notes
    simp only [Operation.effects, hfirst.fault]
    cases (op'.effect convention n).fault with
    | some f => exact hfirst
    | none => exact ⟨hlater.fault, hlater.notes, List.rel_append hfirst.found hlater.found⟩

theorem verdict (h : JudgedAlike r) (convention : Option Convention) {v w : Value}
    (hkind : v.kind = w.kind) (hnode : v.isNode = w.isNode)
    (hops : List.Forall₂ (Operation.Alike r) (operations v) (operations w)) :
    SameVerdict r (verdict convention v) (verdict convention w) := by
  have heffects := h.effects convention hops (⟨rfl, rfl, .nil⟩ : Notes.Alike r {} {})
  simp only [PrefixLint.verdict, hnode, hkind, heffects.fault]
  cases w.isNode with
  | false => exact .error _
  | true =>
    cases (Operation.effects convention {} (PrefixLint.operations w)).fault with
    | some f => exact .error f
    | none => exact .ok heffects.found

theorem lintTree (h : JudgedAlike r) (convention : Option Convention) (unit : String) {v w : Value}
    (hkind : v.kind = w.kind) (hnode : v.isNode = w.isNode)
    (hops : List.Forall₂ (Operation.Alike r) (operations v) (operations w))
    (journal journal' : Journal) :
    (∃ f after after', lintTree convention unit v journal = .error f after ∧
      lintTree convention unit w journal' = .error f after') ∨
    ∃ found found' after after', lintTree convention unit v journal = .ok found after ∧
      lintTree convention unit w journal' = .ok found' after' ∧
      List.Forall₂ (Diagnostic.Alike r) found found' := by
  obtain ⟨after, hv⟩ := lintTree_verdict convention unit v journal
  obtain ⟨after', hw⟩ := lintTree_verdict convention unit w journal'
  have hverdict := h.verdict convention hkind hnode hops
  rw [hv, hw]
  generalize PrefixLint.verdict convention v = left at hverdict ⊢
  generalize PrefixLint.verdict convention w = right at hverdict ⊢
  cases hverdict with
  | error f => exact Or.inl ⟨f, after, after', rfl, rfl⟩
  | ok hfound => exact Or.inr ⟨_, _, after, after', rfl, rfl, hfound⟩

end JudgedAlike

namespace Likeness

variable {r : Value → Value → Prop}

theorem isNode (h : Likeness r) {v w : Value} (hvw : r v w) : v.isNode = w.isNode := by
  rw [Value.isNode, Value.isNode, h.nodeType? hvw]

theorem nodeType (h : Likeness r) {v w : Value} (hvw : r v w) : v.nodeType = w.nodeType := by
  rw [Value.nodeType, Value.nodeType, h.nodeType? hvw]

theorem ofEvent? (h : Likeness r) {v w : Value} (hvw : r v w) (event : String) :
    Option.Rel (Operation.Alike r) (Operation.ofEvent? event v) (Operation.ofEvent? event w) := by
  unfold Operation.ofEvent?
  rw [h.exportName? hvw, h.className? hvw, h.hasClassAttribute hvw]
  split
  · exact .some (.noteExport _)
  · exact .some (.noteClass _)
  · split
    · exact .some (.noteElement hvw)
    · exact .none
  · exact .some (.resolve hvw)
  · exact .none

theorem operations (h : Likeness r) {v w : Value} (hvw : r v w) :
    List.Forall₂ (Operation.Alike r) (operations v) (operations w) := by
  induction v using children_induction generalizing w with
  | h v ih =>
    have henter : List.Forall₂ (Operation.Alike r) (entering v).toList (entering w).toList := by
      rw [entering, entering, h.nodeType hvw]
      exact forall₂_toList (h.ofEvent? hvw _)
    have hleave := forall₂_toList (h.ofEvent? hvw (w.nodeType ++ exitMark))
    have hchildren := forall₂_flatMap (h.children hvw) fun c hc d hcd => ih c hc hcd
    rw [operations_eq, operations_eq, h.nodeType hvw]
    exact List.rel_append (List.rel_append henter hchildren) hleave

theorem timelines {vs ws : List Value} (h : List.Forall₂ (fun v w =>
      List.Forall₂ (Turn.Alike r) (timeline v) (timeline w)) vs ws) (k : Nat) :
    List.Forall₂ (Turn.Alike r) (timelines vs k) (timelines ws k) := by
  induction h generalizing k with
  | nil => exact .nil
  | cons hhead _ ih =>
    rw [timelines_cons, timelines_cons]
    refine List.rel_append ?_ (ih (k + 1))
    rw [List.forall₂_map_left_iff, List.forall₂_map_right_iff]
    exact hhead.imp fun t u htu => ⟨congrArg (k :: ·) htu.place, htu.leaving, htu.node⟩

theorem timeline (h : Likeness r) {v w : Value} (hvw : r v w) :
    List.Forall₂ (Turn.Alike r) (timeline v) (timeline w) := by
  induction v using children_induction generalizing w with
  | h v ih =>
    have hchildren : List.Forall₂ (fun c d =>
        List.Forall₂ (Turn.Alike r) (Ast.timeline c) (Ast.timeline d)) v.children w.children := by
      have hmem := (List.forall₂_and_left _ _).mpr ⟨fun c hc => hc, h.children hvw⟩
      exact hmem.imp fun c d hcd => ih c hcd.1 hcd.2
    rw [timeline_eq, timeline_eq]
    exact .cons ⟨rfl, rfl, hvw⟩
      (List.rel_append (timelines hchildren 0) (.cons ⟨rfl, rfl, hvw⟩ .nil))

theorem lintTree (h : Likeness r) (convention : Option Convention) (unit : String) {v w : Value}
    (hvw : r v w) (journal journal' : Journal) :
    (∃ f after after', lintTree convention unit v journal = .error f after ∧
      lintTree convention unit w journal' = .error f after') ∨
    ∃ found found' after after', lintTree convention unit v journal = .ok found after ∧
      lintTree convention unit w journal' = .ok found' after' ∧
      List.Forall₂ (Diagnostic.Alike r) found found' :=
  h.toJudgedAlike.lintTree convention unit (h.kind hvw) (h.isNode hvw) (h.operations hvw) journal
    journal'

end Likeness

end PrefixLint
