import Mathlib.Logic.Relation
import PrefixLint.Proofs.Violations

/-!
# Class values as tokens and spaces

A class value is its tokens in order, with one or more spaces between two of them and any number of
spaces around them, and there is no other such reading. Only the space U+0020 separates: every other
character, white space included, stands in a token. What is read on one side of a space does not
depend on the other side. So a longer or shorter run of spaces changes no token, and two values have
the same tokens exactly if the lengths of such runs are all they differ in. Elements that differ only
so have the same wrong tokens under every prefix, or the same fault.
-/

namespace PrefixLint.Markup

open Ast

def spaces (n : Nat) : String := String.ofList (List.replicate n ' ')

def IsToken (t : String) : Prop := t ≠ "" ∧ ' ' ∉ t.toList

instance (t : String) : Decidable (IsToken t) := inferInstanceAs (Decidable (_ ∧ _))

inductive Row : List String → String → Prop where
  | nil : Row [] ""
  | single (t : String) : Row [t] t
  | cons (t : String) (gap : Nat) {u : String} {us : List String} {body : String}
      (rest : Row (u :: us) body) : Row (t :: u :: us) (t ++ spaces (gap + 1) ++ body)

/-- The value is a row of the tokens that may have spaces around it. -/
structure SpacedOut (tokens : List String) (value : String) : Prop where
  isToken : ∀ t ∈ tokens, IsToken t
  row : ∃ leading body trailing, Row tokens body ∧
    value = spaces leading ++ body ++ spaces trailing

/-- One run of spaces is longer by one space. The runs at the two ends may be empty. -/
inductive Lengthened : String → String → Prop where
  | leading (s : String) : Lengthened s (" " ++ s)
  | inner (before after : String) : Lengthened (before ++ " " ++ after) (before ++ "  " ++ after)
  | trailing (s : String) : Lengthened s (s ++ " ")

def SameButSpacing : String → String → Prop := Relation.EqvGen Lengthened

theorem spaces_succ (n : Nat) : spaces (n + 1) = " " ++ spaces n := by
  apply String.toList_inj.mp
  simp [spaces, List.replicate_succ]

theorem spaces_append (m n : Nat) : spaces m ++ spaces n = spaces (m + n) := by
  apply String.toList_inj.mp
  simp [spaces]

theorem append_twoSpaces (a b : String) : a ++ "  " ++ b = a ++ " " ++ (" " ++ b) := by
  have htwo : "  " = " " ++ " " := rfl
  simp only [htwo, String.append_assoc]

section Tokens

theorem classTokens_empty : classTokens "" = [] := rfl

theorem classTokens_append_space (a b : String) :
    classTokens (a ++ " " ++ b) = classTokens a ++ classTokens b := by
  have hvalue : (a ++ " " ++ b).toList = a.toList ++ ' ' :: b.toList := by
    simp [String.toList_append]
  rw [classTokens, hvalue, Text.splitAt_eq_splitOn, List.splitOn_append_cons_self,
    List.filter_append, List.map_append, ← Text.splitAt_eq_splitOn, ← Text.splitAt_eq_splitOn]
  rfl

theorem classTokens_space_append (s : String) : classTokens (" " ++ s) = classTokens s :=
  classTokens_append_space "" s

theorem classTokens_append_trailing (s : String) : classTokens (s ++ " ") = classTokens s := by
  have hsplit := classTokens_append_space s ""
  rwa [String.append_empty, classTokens_empty, List.append_nil] at hsplit

theorem classTokens_of_isToken {t : String} (h : IsToken t) : classTokens t = [t] := by
  rw [classTokens, Text.splitAt_eq_splitOn, List.splitOn_eq_singleton h.2]
  simp [h.1]

theorem classTokens_intercalate {tokens : List String} (h : ∀ t ∈ tokens, IsToken t) :
    classTokens (" ".intercalate tokens) = tokens := by
  induction tokens with
  | nil => rfl
  | cons t rest ih =>
    have ht := classTokens_of_isToken (h t List.mem_cons_self)
    have hrest := ih fun u hu => h u (List.mem_cons_of_mem t hu)
    cases rest with
    | nil => rw [String.intercalate_singleton, ht]
    | cons u us =>
      rw [String.intercalate_cons_cons, classTokens_append_space, hrest, ht, List.singleton_append]

end Tokens

section Spacing

variable {a b : String}

theorem Lengthened.classTokens_eq (h : Lengthened a b) : classTokens a = classTokens b := by
  cases h with
  | leading => rw [classTokens_space_append]
  | inner before after =>
    rw [append_twoSpaces, classTokens_append_space, classTokens_append_space,
      classTokens_space_append]
  | trailing => rw [classTokens_append_trailing]

theorem SameButSpacing.classTokens_eq (h : SameButSpacing a b) :
    classTokens a = classTokens b := by
  induction h with
  | rel _ _ hstep => exact hstep.classTokens_eq
  | refl _ => rfl
  | symm _ _ _ ih => exact ih.symm
  | trans _ _ _ _ _ ih₁ ih₂ => exact ih₁.trans ih₂

theorem Lengthened.append_space (t : String) (h : Lengthened a b) :
    Lengthened (t ++ " " ++ a) (t ++ " " ++ b) := by
  cases h with
  | leading =>
    -- Behind a space the leading run is an inner one.
    rw [← append_twoSpaces]
    exact .inner t a
  | inner before after => simpa only [String.append_assoc] using inner (t ++ " " ++ before) after
  | trailing =>
    rw [← String.append_assoc]
    exact .trailing _

theorem SameButSpacing.append_space (t : String) (h : SameButSpacing a b) :
    SameButSpacing (t ++ " " ++ a) (t ++ " " ++ b) := by
  induction h with
  | rel _ _ hstep => exact .rel _ _ (hstep.append_space t)
  | refl _ => exact .refl _
  | symm _ _ _ ih => exact .symm _ _ ih
  | trans _ _ _ _ _ ih₁ ih₂ => exact .trans _ _ _ ih₁ ih₂

theorem sameButSpacing_spaces_append (n : Nat) (s : String) : SameButSpacing (spaces n ++ s) s := by
  induction n with
  | zero => exact .refl _
  | succ n ih =>
    rw [spaces_succ, String.append_assoc]
    exact .trans _ _ _ (.symm _ _ (.rel _ _ (.leading _))) ih

theorem sameButSpacing_append_spaces (n : Nat) (s : String) : SameButSpacing (s ++ spaces n) s := by
  induction n generalizing s with
  | zero =>
    have hnone : s ++ spaces 0 = s := String.append_empty
    rw [hnone]
    exact .refl _
  | succ n ih =>
    rw [spaces_succ, ← String.append_assoc]
    exact .trans _ _ _ (ih (s ++ " ")) (.symm _ _ (.rel _ _ (.trailing _)))

theorem Row.sameButSpacing {tokens : List String} {body : String} (h : Row tokens body) :
    SameButSpacing body (" ".intercalate tokens) := by
  induction h with
  | nil => exact .refl _
  | single t =>
    rw [String.intercalate_singleton]
    exact .refl _
  | @cons t gap u us body _ ih =>
    have hgap : SameButSpacing (t ++ spaces (gap + 1) ++ body) (t ++ " " ++ body) := by
      simpa only [spaces_succ, String.append_assoc] using
        (sameButSpacing_spaces_append gap body).append_space t
    rw [String.intercalate_cons_cons]
    exact .trans _ _ _ hgap (ih.append_space t)

theorem SpacedOut.sameButSpacing {tokens : List String} {value : String}
    (h : SpacedOut tokens value) : SameButSpacing value (" ".intercalate tokens) := by
  obtain ⟨leading, body, trailing, hrow, rfl⟩ := h.row
  have htrailing := sameButSpacing_append_spaces trailing (spaces leading ++ body)
  have hleading := sameButSpacing_spaces_append leading body
  exact .trans _ _ _ htrailing (.trans _ _ _ hleading hrow.sameButSpacing)

theorem SpacedOut.classTokens_eq {tokens : List String} {value : String}
    (h : SpacedOut tokens value) : classTokens value = tokens :=
  h.sameButSpacing.classTokens_eq.trans (classTokens_intercalate h.isToken)

end Spacing

section Reading

variable {tokens : List String} {value : String}

theorem spacedOut_empty : SpacedOut [] "" := ⟨by simp, 0, "", 0, .nil, rfl⟩

theorem IsToken.spacedOut (h : IsToken value) : SpacedOut [value] value :=
  ⟨List.forall_mem_singleton.mpr h, 0, value, 0, .single value, by simp [spaces]⟩

theorem SpacedOut.space_append (h : SpacedOut tokens value) : SpacedOut tokens (" " ++ value) := by
  obtain ⟨leading, body, trailing, hrow, rfl⟩ := h.row
  refine ⟨h.isToken, leading + 1, body, trailing, hrow, ?_⟩
  simp only [spaces_succ, String.append_assoc]

theorem SpacedOut.cons {t : String} (ht : IsToken t) (h : SpacedOut tokens value) :
    SpacedOut (t :: tokens) (t ++ " " ++ value) := by
  have htokens : ∀ u ∈ t :: tokens, IsToken u := List.forall_mem_cons.mpr ⟨ht, h.isToken⟩
  obtain ⟨leading, body, trailing, hrow, rfl⟩ := h.row
  cases tokens with
  | nil =>
    -- There is no token yet, so all the spaces now trail.
    cases hrow
    refine ⟨htokens, 0, t, leading + trailing + 1, .single t, ?_⟩
    rw [spaces_succ, ← spaces_append]
    simp [spaces, String.append_assoc]
  | cons u us =>
    refine ⟨htokens, 0, t ++ spaces (leading + 1) ++ body, trailing, .cons t leading hrow, ?_⟩
    rw [spaces_succ]
    simp [spaces, String.append_assoc]

theorem spacedOut_pieces {pieces : List (List Char)} (h : ∀ piece ∈ pieces, ' ' ∉ piece) :
    SpacedOut ((pieces.filter (!·.isEmpty)).map String.ofList)
      (String.ofList ([' '].intercalate pieces)) := by
  induction pieces with
  | nil => exact spacedOut_empty
  | cons piece rest ih =>
    have htoken (hne : piece ≠ []) : IsToken (String.ofList piece) :=
      ⟨by simpa using hne, by simpa using h piece List.mem_cons_self⟩
    have hrest := ih fun p hp => h p (List.mem_cons_of_mem piece hp)
    cases rest with
    | nil =>
      by_cases hpiece : piece = []
      · simpa [hpiece] using spacedOut_empty
      · simpa [hpiece] using (htoken hpiece).spacedOut
    | cons next others =>
      have hvalue : String.ofList ([' '].intercalate (piece :: next :: others)) =
          String.ofList piece ++ " " ++ String.ofList ([' '].intercalate (next :: others)) := by
        rw [List.intercalate_cons_cons, String.ofList_append, String.ofList_append]
      rw [hvalue]
      by_cases hpiece : piece = []
      · rw [hpiece]
        exact hrest.space_append
      · rw [List.filter_cons, if_pos (by simpa using hpiece), List.map_cons]
        exact hrest.cons (htoken hpiece)

theorem spacedOut_classTokens (value : String) : SpacedOut (classTokens value) value := by
  have hpieces := spacedOut_pieces fun piece (h : piece ∈ Text.splitAt ' ' value.toList) =>
    Text.not_mem_of_mem_splitAt h
  have hvalue : String.ofList ([' '].intercalate (Text.splitAt ' ' value.toList)) = value := by
    rw [Text.splitAt_eq_splitOn, List.intercalate_splitOn, String.ofList_toList]
  rwa [hvalue] at hpieces

theorem classTokens_eq_iff : classTokens value = tokens ↔ SpacedOut tokens value := by
  constructor
  · rintro rfl
    exact spacedOut_classTokens value
  · exact SpacedOut.classTokens_eq

theorem sameButSpacing_iff {a b : String} :
    SameButSpacing a b ↔ classTokens a = classTokens b := by
  refine ⟨SameButSpacing.classTokens_eq, fun h => ?_⟩
  have ha := (spacedOut_classTokens a).sameButSpacing
  have hb := (spacedOut_classTokens b).sameButSpacing
  rw [h] at ha
  exact .trans _ _ _ ha (.symm _ _ hb)

end Reading

structure RespacedValue (v w : Value) : Prop where
  object : v.isObject = w.isObject
  type : v.get? "type" = w.get? "type"
  text : Option.Rel SameButSpacing (v.getText? "value") (w.getText? "value")

structure RespacedAttribute (x y : Value) : Prop where
  name : x.get? "name" = y.get? "name"
  value : Option.Rel RespacedValue (x.get? "value") (y.get? "value")

namespace RespacedAttribute

variable {x y : Value}

theorem isClassAttribute (h : RespacedAttribute x y) :
    Markup.isClassAttribute x = Markup.isClassAttribute y := by
  rw [Markup.isClassAttribute, Markup.isClassAttribute, Value.object?, Value.object?, h.name]

theorem object? (h : RespacedAttribute x y) :
    Option.Rel RespacedValue (x.object? "value") (y.object? "value") :=
  filter_of_rel h.value fun hvw => hvw.object

theorem attributeViolations (h : RespacedAttribute x y) (pre : String) :
    Markup.attributeViolations pre x = Markup.attributeViolations pre y := by
  unfold Markup.attributeViolations literalClass?
  generalize x.object? "value" = v?, y.object? "value" = w?, h.object? = hvalue
  cases hvalue with
  | none => rfl
  | @some v w hvw =>
    simp only [hvw.type]
    cases w.get? "type" with
    | none => rfl
    | some type =>
      cases type with
      | text name =>
        generalize v.getText? "value" = s?, w.getText? "value" = t?, hvw.text = htext
        cases htext with
        | none => rfl
        | some hst =>
          by_cases hliteral : literalTypes.contains name = true
          · simp only [hliteral, if_true, hst.classTokens_eq]
          · simp only [hliteral, if_false, Bool.false_eq_true]
      | _ => rfl

end RespacedAttribute

theorem violations_of_respaced {element other : Value}
    (h : List.Forall₂ RespacedAttribute (attributes element) (attributes other)) (pre : String) :
    violations pre element = violations pre other :=
  violations_congr h (·.isClassAttribute) (·.attributeViolations pre)

/-- The tokens of a value are the only ones that give it with spaces between and around them, and no
other character separates. The two sides of a space are read by themselves, values have the same
tokens exactly if only their spacing differs, and respacing the attributes of an element changes none
of its wrong tokens. -/
theorem classTokens_exact :
    (∀ value tokens, classTokens value = tokens ↔ SpacedOut tokens value) ∧
    (∀ value, classTokens value = [value] ↔ IsToken value) ∧
    (∀ a b, classTokens (a ++ " " ++ b) = classTokens a ++ classTokens b) ∧
    (∀ a b, SameButSpacing a b ↔ classTokens a = classTokens b) ∧
    ∀ element other, List.Forall₂ RespacedAttribute (attributes element) (attributes other) →
      ∀ pre, violations pre element = violations pre other := by
  refine ⟨fun value tokens => classTokens_eq_iff, fun value => ⟨fun h => ?_, classTokens_of_isToken⟩,
    classTokens_append_space, fun a b => sameButSpacing_iff,
    fun element other => violations_of_respaced⟩
  exact (classTokens_eq_iff.mp h).isToken value List.mem_cons_self

def classed (value : String) : Value :=
  .object [("type", .text "JSXElement"), ("openingElement", .object [("attributes", .list [.object [
    ("name", .object [("name", .text "className")]),
    ("value", .object [("type", .text "Literal"), ("value", .text value)])]])])]

theorem classTokens_exact_tabbed :
    SpacedOut ["a\tb", "card"] "  a\tb   card " ∧
    SameButSpacing "  a\tb   card " "a\tb card" ∧
    violations "card__" (classed "  a\tb   card ") = violations "card__" (classed "a\tb card") ∧
    violations "card__" (classed "a\tb card") = .ok ["a\tb"] := by
  obtain ⟨hexact, -, -, hspacing, hviolations⟩ := classTokens_exact
  have hsame := (hspacing "  a\tb   card " "a\tb card").mpr (by decide +kernel)
  refine ⟨(hexact _ _).mp (by decide +kernel), hsame, ?_, by decide +kernel⟩
  exact hviolations _ _ (.cons ⟨rfl, .some ⟨rfl, rfl, .some hsame⟩⟩ .nil) "card__"

end PrefixLint.Markup
