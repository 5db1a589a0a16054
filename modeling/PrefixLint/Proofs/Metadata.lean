import PrefixLint.Proofs.Likeness

/-!
# Metadata

Parsers add members to nodes that say nothing about the program: where it ends, what encloses it, the
comments and the tokens. Erasing them from every object of a tree, with whatever stands in them,
commutes with every reader of the tree, so erasure is a likeness and no check sees it.
-/

namespace PrefixLint.Ast

def erasedKeys : List String := ["end", "parent", "comments", "tokens", "extra"]

namespace Value

mutual

/-- A value without the erased members, at every depth. -/
def erase : Value → Value
  | list items => list (eraseItems items)
  | object members => object (eraseMembers members)
  | v => v

def eraseItems : List Value → List Value
  | [] => []
  | v :: rest => erase v :: eraseItems rest

def eraseMembers : List (String × Value) → List (String × Value)
  | [] => []
  | (key, v) :: rest =>
    if erasedKeys.contains key then eraseMembers rest else (key, erase v) :: eraseMembers rest

end

example : erase (.object [("type", .text "Program"), ("end", .int 9), ("body", .list [
      .object [("extra", .object [("type", .text "JSXElement")]), ("start", .int 0)]])]) =
    .object [("type", .text "Program"), ("body", .list [.object [("start", .int 0)]])] := rfl

theorem eraseItems_eq (items : List Value) : eraseItems items = items.map erase := by
  induction items with
  | nil => rfl
  | cons v rest ih => rw [eraseItems, ih, List.map_cons]

theorem members_erase (v : Value) : v.erase.members = eraseMembers v.members := by
  cases v <;> simp [erase, members, eraseMembers]

@[simp] theorem kind_erase (v : Value) : v.erase.kind = v.kind := by
  cases v <;> simp [erase, kind]

@[simp] theorem text?_erase (v : Value) : v.erase.text? = v.text? := by
  cases v <;> simp [erase, text?]

@[simp] theorem integer?_erase (v : Value) : v.erase.integer? = v.integer? := by
  cases v <;> simp [erase, integer?]

@[simp] theorem isObject_erase (v : Value) : v.erase.isObject = v.isObject := by
  cases v <;> simp [erase, isObject]

theorem items?_erase (v : Value) : v.erase.items? = v.items?.map (·.map erase) := by
  cases v <;> simp [erase, items?, eraseItems_eq]

theorem lookup_cons_of_ne {key k : String} (h : key ≠ k) (v : Value)
    (ms : List (String × Value)) : ((k, v) :: ms).lookup key = ms.lookup key := by
  rw [List.lookup_cons, beq_false_of_ne h]

theorem lookup_eraseMembers {key : String} (h : key ∉ erasedKeys)
    (ms : List (String × Value)) : (eraseMembers ms).lookup key = (ms.lookup key).map erase := by
  induction ms with
  | nil => rfl
  | cons m rest ih =>
    obtain ⟨k, v⟩ := m
    by_cases hk : key = k
    · subst hk
      simp [eraseMembers, h]
    · rw [lookup_cons_of_ne hk, ← ih, eraseMembers]
      split
      · rfl
      · exact lookup_cons_of_ne hk _ _

theorem get?_erase (v : Value) {key : String} (h : key ∉ erasedKeys) :
    v.erase.get? key = (v.get? key).map erase := by
  rw [get?, get?, members_erase, lookup_eraseMembers h]

theorem bind_map_erase {α : Type} {f : Value → Option α} (h : ∀ v, f v.erase = f v)
    (x : Option Value) : (x.map erase).bind f = x.bind f := by
  cases x with
  | none => rfl
  | some v => exact h v

theorem bind_map_erase_map {α : Type} {f : Value → Option α} {g : α → α}
    (h : ∀ v, f v.erase = (f v).map g) (x : Option Value) :
    (x.map erase).bind f = (x.bind f).map g := by
  cases x with
  | none => rfl
  | some v => exact h v

theorem getText?_erase (v : Value) {key : String} (h : key ∉ erasedKeys) :
    v.erase.getText? key = v.getText? key := by
  rw [getText?, getText?, get?_erase v h, bind_map_erase text?_erase]

theorem object?_erase (v : Value) {key : String} (h : key ∉ erasedKeys) :
    v.erase.object? key = (v.object? key).map erase := by
  rw [object?, object?, get?_erase v h]
  cases hk : v.get? key with
  | none => rfl
  | some w => cases hw : w.isObject <;> simp [Option.filter, hw]

theorem nodeType?_erase (v : Value) : v.erase.nodeType? = v.nodeType? :=
  getText?_erase v (by decide)

theorem isNode_erase (v : Value) : v.erase.isNode = v.isNode := by
  rw [isNode, isNode, nodeType?_erase]

theorem offset?_erase (v : Value) : v.erase.offset? = v.offset? := by
  have hhead (items : List Value) :
      (items.map erase).head?.bind integer? = items.head?.bind integer? := by
    rw [List.head?_map, bind_map_erase integer?_erase]
  rw [offset?, offset?, get?_erase v (by decide), bind_map_erase integer?_erase,
    get?_erase v (by decide), bind_map_erase_map items?_erase, Option.bind_map]
  exact congrArg (fun f => Option.or _ (Option.bind _ f)) (funext hhead)

theorem filter_isNode_erase (vs : List Value) :
    (vs.map erase).filter isNode = (vs.filter isNode).map erase := by
  have h : isNode ∘ erase = isNode := funext isNode_erase
  rw [List.filter_map, h]

theorem nodesOf_erase (v : Value) : v.erase.nodesOf = v.nodesOf.map erase := by
  rw [nodesOf, nodesOf, isNode_erase, items?_erase]
  split
  · rfl
  · cases v.items? with
    | none => rfl
    | some items => exact filter_isNode_erase items

theorem mem_metadataKeys_of_mem_erasedKeys {key : String} (h : key ∈ erasedKeys) :
    key ∈ metadataKeys := by
  revert key
  decide

theorem childrenOf_eraseMembers (ms : List (String × Value)) :
    childrenOf (eraseMembers ms) = (childrenOf ms).map erase := by
  induction ms with
  | nil => rfl
  | cons m rest ih =>
    obtain ⟨key, v⟩ := m
    simp only [childrenOf, List.flatMap_cons, List.map_append] at ih ⊢
    -- An erased member is gone on the left, and on the right it has no children to give.
    by_cases hk : key ∈ erasedKeys
    · have hmeta := mem_metadataKeys_of_mem_erasedKeys hk
      rw [eraseMembers, if_pos (by simpa using hk), if_pos (by simpa using hmeta), ih]
      rfl
    · rw [eraseMembers, if_neg (by simpa using hk), List.flatMap_cons, ih]
      split
      · rfl
      · rw [nodesOf_erase]

theorem byOffset_erase (vs : List Value) : byOffset (vs.map erase) = (byOffset vs).map erase := by
  have hall : (vs.map erase).all (·.offset?.isSome) = vs.all (·.offset?.isSome) := by
    simp [List.all_map, Function.comp_def, offset?_erase]
  rw [byOffset, byOffset, hall]
  split
  · -- The sort compares nothing but offsets, which erasure keeps.
    rw [List.map_mergeSort]
    intro v _ w _
    rw [offset?_erase, offset?_erase]
  · rfl

theorem children_erase (v : Value) : v.erase.children = v.children.map erase := by
  rw [children, children, members_erase, childrenOf_eraseMembers, byOffset_erase]

end Value

end PrefixLint.Ast

namespace PrefixLint

open Ast Value

theorem identifierName?_erase (v : Value) : identifierName? v.erase = identifierName? v := by
  rw [identifierName?, identifierName?, getText?_erase v (by decide), getText?_erase v (by decide)]

theorem className?_erase (v : Value) : className? v.erase = className? v := by
  rw [className?, className?, get?_erase v (by decide), bind_map_erase identifierName?_erase]

theorem exportName?_erase (v : Value) : exportName? v.erase = exportName? v := by
  rw [exportName?, exportName?, object?_erase v (by decide)]
  refine bind_map_erase (fun declaration => ?_) _
  rw [identifierName?_erase, get?_erase declaration (by decide),
    bind_map_erase identifierName?_erase]

namespace Markup

theorem attributes_erase (v : Value) : attributes v.erase = (attributes v).map erase := by
  have hobject : isObject ∘ erase = isObject := funext isObject_erase
  have hlisted (opening : Value) : opening.erase.get? "attributes" =
      (opening.get? "attributes").map erase := get?_erase opening (by decide)
  rw [attributes, attributes, object?_erase v (by decide), bind_map_erase_map hlisted,
    bind_map_erase_map items?_erase]
  cases ((v.object? "openingElement").bind (·.get? "attributes")).bind items? with
  | none => rfl
  | some items => rw [Option.map_some, Option.getD_some, Option.getD_some, List.filter_map, hobject]

theorem isClassAttribute_erase (v : Value) : isClassAttribute v.erase = isClassAttribute v := by
  have hname (name : Value) : name.erase.getText? "name" = name.getText? "name" :=
    getText?_erase name (by decide)
  rw [isClassAttribute, isClassAttribute, object?_erase v (by decide), bind_map_erase hname]

theorem hasClassAttribute_erase (v : Value) : hasClassAttribute v.erase = hasClassAttribute v := by
  rw [hasClassAttribute, hasClassAttribute, attributes_erase, List.any_map]
  exact congrArg _ (funext isClassAttribute_erase)

theorem literalClass?_erase (v : Value) : literalClass? v.erase = literalClass? v := by
  unfold literalClass?
  rw [object?_erase v (by decide)]
  cases v.object? "value" with
  | none => rfl
  | some w =>
    simp only [Option.map_some]
    rw [get?_erase w (by decide), getText?_erase w (by decide)]
    cases w.get? "type" with
    | none => rfl
    | some type => cases type <;> simp [erase]

theorem violations_erase (pre : String) (v : Value) : violations pre v.erase = violations pre v := by
  have hclass : isClassAttribute ∘ erase = isClassAttribute := funext isClassAttribute_erase
  have hattr : attributeViolations pre ∘ erase = attributeViolations pre := by
    funext attr
    simp only [Function.comp, attributeViolations, literalClass?_erase]
  rw [violations, violations, attributes_erase, List.filter_map, hclass, flatMapM_map, hattr]

end Markup

theorem coordinate?_erase (v : Value) {key : String} (h : key ∉ erasedKeys) :
    Diagnostic.coordinate? v.erase key = Diagnostic.coordinate? v key := by
  have hstart (loc : Value) : loc.erase.object? "start" = (loc.object? "start").map erase :=
    object?_erase loc (by decide)
  have hkey (start : Value) : start.erase.get? key = (start.get? key).map erase :=
    get?_erase start h
  have hvalue (w : Value) : Coordinate.ofValue? w.erase = Coordinate.ofValue? w := by
    cases w <;> simp [erase, Coordinate.ofValue?]
  rw [Diagnostic.coordinate?, Diagnostic.coordinate?, Diagnostic.startOf, Diagnostic.startOf,
    object?_erase v (by decide), bind_map_erase_map hstart, bind_map_erase_map hkey,
    bind_map_erase hvalue]

theorem erase_likeness : Likeness fun v w => w = v.erase where
  kind := by
    rintro v w rfl
    exact (kind_erase v).symm
  nodeType? := by
    rintro v w rfl
    exact (nodeType?_erase v).symm
  children := by
    rintro v w rfl
    rw [children_erase, List.forall₂_map_right_iff, List.forall₂_same]
    exact fun _ _ => rfl
  exportName? := by
    rintro v w rfl
    exact (exportName?_erase v).symm
  className? := by
    rintro v w rfl
    exact (className?_erase v).symm
  hasClassAttribute := by
    rintro v w rfl
    exact (Markup.hasClassAttribute_erase v).symm
  violations := by
    rintro v w rfl pre
    exact (Markup.violations_erase pre v).symm
  line := by
    rintro v w rfl
    exact (coordinate?_erase v (by decide)).symm
  column := by
    rintro v w rfl
    exact (coordinate?_erase v (by decide)).symm

/-- Erasing the metadata of a tree does not change how its check ends: with the same fault, or with
diagnostics that agree one by one and are anchored at corresponding nodes. -/
theorem lintTree_erase (convention : Option Convention) (unit : String) (tree : Value)
    (journal journal' : Journal) :
    (∃ f after after', lintTree convention unit tree journal = .error f after ∧
      lintTree convention unit tree.erase journal' = .error f after') ∨
    ∃ found found' after after', lintTree convention unit tree journal = .ok found after ∧
      lintTree convention unit tree.erase journal' = .ok found' after' ∧
      List.Forall₂ (fun d d' => d'.anchor = d.anchor.erase ∧ d'.message = d.message ∧
        d'.ruleId = d.ruleId ∧ d'.line = d.line ∧ d'.column = d.column) found found' := by
  rcases erase_likeness.lintTree convention unit rfl journal journal' with
    ⟨f, after, after', hv, hw⟩ | ⟨found, found', after, after', hv, hw, hfound⟩
  · exact Or.inl ⟨f, after, after', hv, hw⟩
  · refine Or.inr ⟨found, found', after, after', hv, hw, hfound.imp ?_⟩
    intro d d' h
    exact ⟨h.anchor, h.message.symm, h.ruleId.symm, h.line.symm, h.column.symm⟩

end PrefixLint
