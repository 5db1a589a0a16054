import PrefixLint.Proofs.DocumentOrder

/-!
# When a check fails

A member that is missing or of an unexpected kind is passed over wherever a check meets it, with one
exception: the value of a class attribute may be an object whose type is a list or an object. Such an
attribute stops the check of a unit that has a name, and the first one, by elements and then by
attributes, says with what the check fails.
-/

namespace PrefixLint

open Ast

namespace Ast.Value

theorem get?_of_not_isObject {v : Value} (h : v.isObject = false) (key : String) :
    v.get? key = none := by
  cases v with
  | object ms => cases h
  | _ => rfl

theorem bind_object?_get? (v : Value) (key inner : String) :
    ((v.object? key).bind fun w => w.get? inner) = (v.get? key).bind fun w => w.get? inner := by
  unfold object?
  cases v.get? key with
  | none => rfl
  | some w =>
    by_cases hw : w.isObject = true
    · simp [Option.filter, hw]
    · simp [Option.filter, hw, get?_of_not_isObject (Bool.eq_false_iff.mpr hw)]

theorem text?_eq_some_iff {v : Value} {s : String} : v.text? = some s ↔ v = .text s := by
  cases v <;> simp [text?]

end Ast.Value

namespace Markup

/-- An attribute named `className` whose value is an object with a list or an object for its type. -/
structure Unreadable (attr : Value) (kind : Kind) : Prop where
  named : ∃ name, attr.get? "name" = some name ∧ name.get? "name" = some (.text "className")
  typed : ∃ value type, attr.get? "value" = some value ∧ value.get? "type" = some type ∧
    type.kind = kind
  composite : kind = .list ∨ kind = .table

def listed (element : Value) : List Value :=
  (((element.get? "openingElement").bind fun opening => opening.get? "attributes").bind
    Value.items?).getD []

def unreadable? (attr : Value) : Option Kind :=
  if isClassAttribute attr then compositeKind? attr else none

theorem isClassAttribute_iff {attr : Value} :
    isClassAttribute attr = true ↔
      ∃ name, attr.get? "name" = some name ∧ name.get? "name" = some (.text "className") := by
  have hread : ((attr.object? "name").bind fun name => name.getText? "name") =
      ((attr.get? "name").bind fun name => name.get? "name").bind Value.text? := by
    rw [← Value.bind_object?_get?, Option.bind_assoc]
    rfl
  rw [isClassAttribute, hread, beq_iff_eq]
  simp [Option.bind_eq_some_iff, Value.text?_eq_some_iff, classAttribute]

theorem compositeKind?_eq_some_iff {attr : Value} {kind : Kind} :
    compositeKind? attr = some kind ↔
      (∃ value type, attr.get? "value" = some value ∧ value.get? "type" = some type ∧
        type.kind = kind) ∧ (kind = .list ∨ kind = .table) := by
  have hread : compositeKind? attr =
      ((attr.get? "value").bind fun value => value.get? "type").bind fun type =>
        some type.kind |>.filter fun k => decide (k = .list ∨ k = .table) := by
    rw [← Value.bind_object?_get?, compositeKind?]
    cases attr.object? "value" with
    | none => rfl
    | some value =>
      simp only [Option.bind_some]
      cases value.get? "type" with
      | none => rfl
      | some type => cases type <;> rfl
  rw [hread]
  simp only [Option.bind_eq_some_iff, Option.filter_eq_some_iff, Option.some.injEq,
    decide_eq_true_eq]
  constructor
  · rintro ⟨type, ⟨value, hvalue, htype⟩, hkind, hcomposite⟩
    exact ⟨⟨value, type, hvalue, htype, hkind⟩, hcomposite⟩
  · rintro ⟨⟨value, type, hvalue, htype, hkind⟩, hcomposite⟩
    exact ⟨type, ⟨value, hvalue, htype⟩, hkind, hcomposite⟩

theorem unreadable?_eq_some_iff {attr : Value} {kind : Kind} :
    unreadable? attr = some kind ↔ Unreadable attr kind := by
  by_cases h : isClassAttribute attr = true
  · rw [unreadable?, if_pos h, compositeKind?_eq_some_iff]
    constructor
    · rintro ⟨htyped, hcomposite⟩
      exact ⟨isClassAttribute_iff.mp h, htyped, hcomposite⟩
    · intro hu
      exact ⟨hu.typed, hu.composite⟩
  · rw [unreadable?, if_neg h]
    constructor
    · intro hnone
      cases hnone
    · intro hu
      exact absurd (isClassAttribute_iff.mpr hu.named) h

theorem attributes_eq (element : Value) :
    attributes element = (listed element).filter Value.isObject := by
  rw [attributes, listed, Value.bind_object?_get?]

def elementObstacle? (element : Value) : Option Kind := (listed element).findSome? unreadable?

theorem findSome?_classAttributes (element : Value) :
    (classAttributes element).findSome? compositeKind? = elementObstacle? element := by
  rw [elementObstacle?, ← List.head?_filterMap, ← List.head?_filterMap, classAttributes,
    attributes_eq, List.filterMap_filter, List.filterMap_filter]
  congr 1
  apply List.filterMap_congr
  intro attr _
  by_cases h : attr.isObject = true
  · simp [h, unreadable?]
  · have hname := Value.get?_of_not_isObject (Bool.eq_false_iff.mpr h) "name"
    have hclass : ¬ isClassAttribute attr = true := by simp [isClassAttribute_iff, hname]
    simp [h, unreadable?, hclass]

theorem elementObstacle?_of_plain {element : Value} (h : hasClassAttribute element = false) :
    elementObstacle? element = none := by
  rw [← findSome?_classAttributes, List.findSome?_eq_none_iff]
  intro attr hattr
  obtain ⟨hattr, hclass⟩ := List.mem_filter.mp hattr
  rw [hasClassAttribute, List.any_eq_false] at h
  exact absurd hclass (h attr hattr)

end Markup

def unitAttributes (tree : Value) : List Value :=
  ((preorder tree).filter fun v => decide (v.nodeType = "JSXElement")).flatMap Markup.listed

def FirstUnreadable (tree : Value) (kind : Kind) : Prop :=
  ∃ earlier attr later, unitAttributes tree = earlier ++ attr :: later ∧
    Markup.Unreadable attr kind ∧ ∀ a ∈ earlier, ∀ k, ¬ Markup.Unreadable a k

theorem mem_unitAttributes {tree attr : Value} :
    attr ∈ unitAttributes tree ↔ ∃ element ∈ preorder tree, element.nodeType = "JSXElement" ∧
      attr ∈ Markup.listed element := by
  simp [unitAttributes, and_assoc]

theorem firstUnreadable_iff {tree : Value} {kind : Kind} :
    FirstUnreadable tree kind ↔
      (unitAttributes tree).findSome? Markup.unreadable? = some kind := by
  rw [List.findSome?_eq_some_iff, FirstUnreadable]
  simp only [Option.eq_none_iff_forall_ne_some, ne_eq, Markup.unreadable?_eq_some_iff]

theorem FirstUnreadable.message {tree : Value} {kind : Kind} (h : FirstUnreadable tree kind) :
    (kind = .list ∧ (Ast.Fault.compositeType kind).message = "unhashable type: 'list'") ∨
      (kind = .table ∧ (Ast.Fault.compositeType kind).message = "unhashable type: 'dict'") := by
  obtain ⟨_, attr, _, -, hattr, -⟩ := h
  rcases hattr.composite with rfl | rfl
  · exact Or.inl ⟨rfl, rfl⟩
  · exact Or.inr ⟨rfl, rfl⟩

theorem firstComposite?_markup (tree : Value) :
    Markup.firstComposite? (markup tree) =
      (unitAttributes tree).findSome? Markup.unreadable? := by
  have hmarkup : Markup.firstComposite? (markup tree) =
      ((markup tree).filterMap Markup.elementObstacle?).head? := by
    simp only [Markup.firstComposite?, Markup.findSome?_classAttributes, List.head?_filterMap]
  have hlisted : (unitAttributes tree).findSome? Markup.unreadable? =
      (((preorder tree).filter fun v => decide (v.nodeType = "JSXElement")).filterMap
        Markup.elementObstacle?).head? := by
    rw [← List.head?_filterMap, unitAttributes, List.filterMap_flatMap, List.head?_flatMap]
    simp only [List.head?_filterMap]
    rfl
  rw [hmarkup, hlisted, markup, List.filterMap_filter, List.filterMap_filter]
  -- Elements without a class attribute are no markup, and they have nothing unreadable.
  congr 1
  apply List.filterMap_congr
  intro v _
  cases h : Markup.hasClassAttribute v with
  | true => simp
  | false => simp [Markup.elementObstacle?_of_plain h]

theorem componentName_isSome_iff {tree : Value} :
    (componentName tree).isSome = true ↔
      ∃ v ∈ preorder tree, ∃ name, ExportsAs v name ∨ DeclaresAs v name := by
  rw [componentName_eq, Option.isSome_or, Bool.or_eq_true, firstNamed_isSome_iff,
    firstNamed_isSome_iff]
  constructor
  · rintro (⟨v, hv, name, h⟩ | ⟨v, hv, name, h⟩)
    · exact ⟨v, hv, name, Or.inl h⟩
    · exact ⟨v, hv, name, Or.inr h⟩
  · rintro ⟨v, hv, name, h | h⟩
    · exact Or.inl ⟨v, hv, name, h⟩
    · exact Or.inr ⟨v, hv, name, h⟩

theorem obstacle?_eq_some_iff {tree : Value} {kind : Kind} :
    obstacle? tree = some kind ↔
      (∃ v ∈ preorder tree, ∃ name, ExportsAs v name ∨ DeclaresAs v name) ∧
        FirstUnreadable tree kind := by
  rw [obstacle?, Option.bind_eq_some_iff, ← componentName_isSome_iff, firstUnreadable_iff,
    firstComposite?_markup, Option.isSome_iff_exists, exists_and_right]

theorem exists_firstUnreadable_iff {tree : Value} :
    (∃ kind, FirstUnreadable tree kind) ↔
      ∃ element ∈ preorder tree, element.nodeType = "JSXElement" ∧
        ∃ attr ∈ Markup.listed element, ∃ kind, Markup.Unreadable attr kind := by
  simp only [firstUnreadable_iff, ← Option.isSome_iff_exists, List.findSome?_isSome_iff]
  simp only [Option.isSome_iff_exists, Markup.unreadable?_eq_some_iff, mem_unitAttributes]
  constructor
  · rintro ⟨attr, ⟨element, he, htype, hattr⟩, hkind⟩
    exact ⟨element, he, htype, attr, hattr, hkind⟩
  · rintro ⟨element, he, htype, attr, hattr, hkind⟩
    exact ⟨attr, ⟨element, he, htype, hattr⟩, hkind⟩

theorem lintTree_obstacle {tree program : Value} (h : SoleProgram tree program)
    (convention : Option Convention) (unit : String) (journal : Journal) :
    ∃ after, lintTree convention unit tree journal =
      (obstacle? tree).elim (.ok (meaning convention tree program) after) fun kind =>
        .error (.compositeType kind) after := by
  obtain ⟨after, hl⟩ := lintTree_realises convention unit h.isNode journal
  refine ⟨after, hl.trans ?_⟩
  rw [effects_of_soleProgram h, judge_eq]
  cases obstacle? tree <;> rfl

/-- The check of a tree with one program fails exactly when the tree has a name and an unreadable
attribute, with the type of the first such attribute. Otherwise it returns what the tree deserves,
whatever else is malformed. -/
theorem lintTree_fails_iff {tree program : Value} (h : SoleProgram tree program)
    (convention : Option Convention) (unit : String) (journal : Journal) :
    ((∃ f after, lintTree convention unit tree journal = .error f after) ↔
      (∃ v ∈ preorder tree, ∃ name, ExportsAs v name ∨ DeclaresAs v name) ∧
        ∃ element ∈ preorder tree, element.nodeType = "JSXElement" ∧
          ∃ attr ∈ Markup.listed element, ∃ kind, Markup.Unreadable attr kind) ∧
    (∀ f after, lintTree convention unit tree journal = .error f after →
      ∃ kind, FirstUnreadable tree kind ∧ f = .compositeType kind ∧
        ((kind = .list ∧ f.message = "unhashable type: 'list'") ∨
          (kind = .table ∧ f.message = "unhashable type: 'dict'"))) ∧
    ∀ found after, lintTree convention unit tree journal = .ok found after →
      found = meaning convention tree program := by
  obtain ⟨last, hl⟩ := lintTree_obstacle h convention unit journal
  rw [← exists_firstUnreadable_iff]
  cases hk : obstacle? tree with
  | none =>
    rw [hk, Option.elim_none] at hl
    refine ⟨⟨?_, ?_⟩, ?_, ?_⟩
    · rintro ⟨f, after, hf⟩
      simp [hl] at hf
    · rintro ⟨hnamed, kind, hfirst⟩
      simp [obstacle?_eq_some_iff.mpr ⟨hnamed, hfirst⟩] at hk
    · intro f after hf
      simp [hl] at hf
    · intro found after hfound
      simp only [hl, EStateM.Result.ok.injEq] at hfound
      exact hfound.1.symm
  | some kind =>
    rw [hk, Option.elim_some] at hl
    obtain ⟨hnamed, hfirst⟩ := obstacle?_eq_some_iff.mp hk
    refine ⟨⟨fun _ => ⟨hnamed, kind, hfirst⟩, fun _ => ⟨_, _, hl⟩⟩, ?_, ?_⟩
    · intro f after hf
      simp only [hl, EStateM.Result.error.injEq] at hf
      obtain ⟨rfl, -⟩ := hf
      exact ⟨kind, hfirst, rfl, hfirst.message⟩
    · intro found after hfound
      simp [hl] at hfound

def spoiledCard (named : Bool) : Value :=
  let classOf (type : Value) : Value := .object [
    ("name", .object [("name", .text "className")]), ("value", .object [("type", type)])]
  let id := .object [("type", .text "Identifier"), ("name", .text "Card")]
  .object [("type", .text "Program"), ("body", .list [
    .object [("type", .text "JSXElement"), ("openingElement", .int 3)],
    .object [("type", .text "JSXElement"), ("openingElement", .object [("attributes", .list [
      .null, .object [("name", .float)], classOf .null, classOf (.object []),
      classOf (.list [])])])],
    .object [("type", .text "ClassDeclaration"), ("id", if named then id else .list [id])]])]

theorem soleProgram_spoiledCard (named : Bool) :
    SoleProgram (spoiledCard named) (spoiledCard named) := by
  cases named <;> exact ⟨Or.inl rfl, by decide, by decide +kernel⟩

theorem lintTree_fails_iff_spoiledCard :
    (SoleProgram (spoiledCard true) (spoiledCard true) ∧
      ∃ f after, lintTree none "card" (spoiledCard true) {} = .error f after ∧
        f.message = "unhashable type: 'dict'") ∧
    SoleProgram (spoiledCard false) (spoiledCard false) ∧
      ∃ after, lintTree none "card" (spoiledCard false) {} =
        .ok (meaning none (spoiledCard false) (spoiledCard false)) after := by
  have hnamed := soleProgram_spoiledCard true
  have hnameless := soleProgram_spoiledCard false
  have hobstacle : obstacle? (spoiledCard true) = some .table := by decide +kernel
  have hclear : obstacle? (spoiledCard false) = none := by decide +kernel
  obtain ⟨hname, hfirst⟩ := obstacle?_eq_some_iff.mp hobstacle
  obtain ⟨hfails, hfault, -⟩ := lintTree_fails_iff hnamed none "card" {}
  obtain ⟨hreturns, -, hfound⟩ := lintTree_fails_iff hnameless none "card" {}
  refine ⟨⟨hnamed, ?_⟩, hnameless, ?_⟩
  · obtain ⟨f, after, hf⟩ := hfails.mpr ⟨hname, exists_firstUnreadable_iff.mp ⟨_, hfirst⟩⟩
    obtain ⟨kind, hkind, -, hmessage⟩ := hfault f after hf
    obtain rfl : Kind.table = kind := by
      simpa [firstUnreadable_iff.mp hfirst] using firstUnreadable_iff.mp hkind
    exact ⟨f, after, hf, by simpa using hmessage⟩
  · cases hl : lintTree none "card" (spoiledCard false) {} with
    | ok found after => exact ⟨after, by rw [hfound found after hl]⟩
    | error f after =>
      obtain ⟨hname, hunreadable⟩ := hreturns.mp ⟨f, after, hl⟩
      obtain ⟨kind, hkind⟩ := exists_firstUnreadable_iff.mpr hunreadable
      simp [obstacle?_eq_some_iff.mpr ⟨hname, hkind⟩] at hclear

end PrefixLint
