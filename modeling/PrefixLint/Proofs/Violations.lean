import PrefixLint.Markup
import PrefixLint.Proofs.Sequences

/-!
# What validation reports

The reports on some elements as a plain list: element by element, class attribute by class attribute,
token by token, a report for each token that neither starts with the prefix nor is the name itself.
Validation gives this list unless the literal of some class attribute has a composite type, and then
it fails with the kind of that type.
-/

namespace PrefixLint.Markup

open Ast

def classAttributes (element : Value) : List Value :=
  (attributes element).filter isClassAttribute

def literalText? (attr : Value) : Option String :=
  (attr.object? "value").bind fun v =>
    (v.getText? "type").bind fun type =>
      if type = "Literal" ∨ type = "StringLiteral" then v.getText? "value" else none

def compositeKind? (attr : Value) : Option Kind :=
  (attr.object? "value").bind fun v =>
    match v.get? "type" with
    | some (.list _) => some .list
    | some (.object _) => some .table
    | _ => none

def firstComposite? (elements : List Value) : Option Kind :=
  elements.findSome? fun element => (classAttributes element).findSome? compositeKind?

def wrongTokens (name : String) (attr : Value) : List String :=
  ((literalText? attr).toList.flatMap classTokens).filter fun token =>
    decide (¬ (name ++ separator).toList <+: token.toList ∧ token ≠ name)

def reports (name : String) (elements : List Value) : List Diagnostic :=
  elements.flatMap fun element =>
    (classAttributes element).flatMap fun attr =>
      (wrongTokens name attr).map fun token =>
        .ofNode element (violationMessage (name ++ separator) token) ruleId

theorem literalClass?_eq (attr : Value) :
    literalClass? attr =
      match compositeKind? attr with
      | some kind => .error (.compositeType kind)
      | none => .ok (literalText? attr) := by
  unfold literalClass? compositeKind? literalText?
  cases attr.object? "value" with
  | none => rfl
  | some v =>
    simp only [Option.bind_some, Value.getText?]
    cases v.get? "type" with
    | none => rfl
    | some type =>
      cases type with
      | text s => simp [Value.text?, literalTypes]
      | _ => rfl

theorem bareName_append_separator (name : String) : bareName (name ++ separator) = name := by
  have hsuffix : separator.toList.isSuffixOf (name ++ separator).toList = true := by
    rw [List.isSuffixOf_iff_suffix, String.toList_append]
    exact List.suffix_append _ _
  have hlength : (name ++ separator).length - separator.length = name.toList.length := by
    rw [String.length_append, String.length_toList]
    omega
  rw [bareName, if_pos hsuffix, hlength, String.toList_append, List.take_left, String.ofList_toList]

theorem tokenMatches_append_separator (name token : String) :
    (!tokenMatches (name ++ separator) token) =
      decide (¬ (name ++ separator).toList <+: token.toList ∧ token ≠ name) := by
  have hp : (name ++ separator).toList.isPrefixOf token.toList =
      decide ((name ++ separator).toList <+: token.toList) := by
    rw [Bool.eq_iff_iff, List.isPrefixOf_iff_prefix, decide_eq_true_eq]
  rw [tokenMatches, bareName_append_separator, hp, beq_eq_decide, Bool.not_or, Bool.decide_and,
    decide_not, decide_not]

theorem attributeViolations_eq (name : String) (attr : Value) :
    attributeViolations (name ++ separator) attr =
      (compositeKind? attr).elim (.ok (wrongTokens name attr)) fun kind =>
        .error (.compositeType kind) := by
  rw [attributeViolations, literalClass?_eq]
  cases compositeKind? attr with
  | some kind => rfl
  | none =>
    simp only [wrongTokens, tokenMatches_append_separator]
    cases literalText? attr <;> simp

theorem violations_eq (name : String) (element : Value) :
    violations (name ++ separator) element =
      ((classAttributes element).findSome? compositeKind?).elim
        (.ok ((classAttributes element).flatMap (wrongTokens name))) fun kind =>
          .error (.compositeType kind) :=
  flatMapM_eq (attributeViolations_eq name) (classAttributes element)

/-- Validation fails with the first composite type, and without one it gives the reports. -/
theorem validate_eq (name : String) (elements : List Value) :
    validate (name ++ separator) elements =
      (firstComposite? elements).elim (.ok (reports name elements)) fun kind =>
        .error (.compositeType kind) := by
  refine flatMapM_eq (fun element => ?_) elements
  rw [elementDiagnostics, violations_eq]
  cases (classAttributes element).findSome? compositeKind? with
  | some kind => rfl
  | none => rw [Option.elim, Except.map, List.map_flatMap, Option.elim]

theorem violations_congr {r : Value → Value → Prop} {pre : String} {element other : Value}
    (h : List.Forall₂ r (attributes element) (attributes other))
    (hclass : ∀ {x y}, r x y → isClassAttribute x = isClassAttribute y)
    (hwrong : ∀ {x y}, r x y → attributeViolations pre x = attributeViolations pre y) :
    violations pre element = violations pre other := by
  rw [violations, violations]
  generalize attributes element = xs, attributes other = ys at h
  induction h with
  | nil => rfl
  | cons hxy _ ih =>
    rw [List.filter_cons, List.filter_cons, hclass hxy]
    split
    · rw [List.flatMapM_cons, List.flatMapM_cons, ih, hwrong hxy]
    · exact ih

theorem exists_of_firstComposite? {elements : List Value} {kind : Kind}
    (h : firstComposite? elements = some kind) :
    ∃ element ∈ elements, ∃ attr ∈ classAttributes element, compositeKind? attr = some kind := by
  obtain ⟨element, he, h⟩ := List.exists_of_findSome?_eq_some h
  obtain ⟨attr, ha, h⟩ := List.exists_of_findSome?_eq_some h
  exact ⟨element, he, attr, ha, h⟩

end PrefixLint.Markup
