import Mathlib
import PrefixLint.Proofs.NameSplitting
import PrefixLint.Visitor

/-!
# Names told apart by their spelling

In a split name a separator stands before every character that was a capital, so an ASCII name in
which the separator does not occur can be read back, all but the case of its first letter: there the
separator has been dropped. Two such names are spelled alike exactly if they differ in nothing else.
-/

namespace PrefixLint

namespace Text

def asciiCapitals : Span := ⟨'A'.toNat, 'Z'.toNat, 1⟩

theorem asciiCapitals_covers_iff {c : Char} :
    asciiCapitals.covers c.toNat = true ↔ c.isUpper = true := by
  rw [Span.covers_iff]
  simp [asciiCapitals, Char.isUpper, UInt32.le_iff_toNat_le, Nat.mod_one]

theorem isUpper_of_covers {s : Span} (hs : s = asciiCapitals ∨ 128 ≤ s.first) {c : Char}
    (hc : c.toNat < 128) (h : s.covers c.toNat = true) : c.isUpper = true := by
  rcases hs with rfl | hfirst
  · exact asciiCapitals_covers_iff.mp h
  · have hcovered := (Span.covers_iff.mp h).1.1
    omega

theorem isUpper_of_ascii {c : Char} (hc : c.toNat < 128) : isUpper c = c.isUpper := by
  have hspans : ∀ s ∈ uppercaseSpans, s = asciiCapitals ∨ 128 ≤ s.first := by decide +kernel
  have hmem : asciiCapitals ∈ uppercaseSpans := List.mem_cons_self
  rw [Bool.eq_iff_iff, isUpper, List.any_eq_true]
  constructor
  · rintro ⟨s, hs, hcovers⟩
    exact isUpper_of_covers (hspans s hs) hc hcovers
  · intro hupper
    exact ⟨asciiCapitals, hmem, asciiCapitals_covers_iff.mpr hupper⟩

theorem lowerChar_of_ascii {c : Char} (hc : c.toNat < 128) : lowerChar c = [c.toLower] := by
  have hspans : ∀ s ∈ sources lowerShifts lowerExpansions, s = asciiCapitals ∨ 128 ≤ s.first := by
    decide +kernel
  by_cases hupper : c.isUpper = true
  · have hlookup : lowerExpansions.lookup c.toNat = none := by
      have hkeys : ∀ e ∈ lowerExpansions, 128 ≤ e.1 := by decide
      refine List.lookup_eq_none_iff.mpr fun e he => ?_
      have hkey := hkeys e he
      simp only [bne_iff_ne, ne_eq]
      omega
    have hfind : lowerShifts.find? (·.covers c.toNat) = some ⟨asciiCapitals, 32⟩ :=
      List.find?_cons_of_pos (asciiCapitals_covers_iff.mpr hupper)
    have happly : Shift.apply ⟨asciiCapitals, 32⟩ c.toNat = c.toNat + 32 := rfl
    simp only [lowerChar, mapCase, hlookup, hfind, happly, Char.toLower_eq_of_isUpper hupper]
  · rw [Char.toLower_eq_of_not_isUpper hupper]
    refine mapCase_of_untouched fun s hs => ?_
    rw [Bool.eq_false_iff]
    exact fun hcovers => hupper (isUpper_of_covers (hspans s hs) hc hcovers)

end Text

namespace Convention

open Text

/-- An ASCII name in which the separator does not occur. -/
structure Plain (sep : Char) (name : List Char) : Prop where
  ascii : ∀ c ∈ name, c.toNat < 128
  unmarked : sep ∉ name

/-- Reads a spelling: what stands after a separator was a capital. -/
def recovered (sep : Char) : List Char → List Char
  | [] => []
  | [c] => [c]
  | c :: d :: rest =>
    if c = sep then d.toUpper :: recovered sep rest else c :: recovered sep (d :: rest)

def SameButFirstCase (a b : String) : Prop :=
  a = b ∨ ∃ x y rest, a.toList = x :: rest ∧ b.toList = y :: rest ∧ x.toLower = y.toLower

section Recovery

variable {sep : Char}

theorem Plain.tail {c : Char} {name : List Char} (h : Plain sep (c :: name)) :
    Plain sep name where
  ascii d hd := h.ascii d (List.mem_cons_of_mem c hd)
  unmarked hd := h.unmarked (List.mem_cons_of_mem c hd)

theorem Plain.head_ne {c : Char} {name : List Char} (h : Plain sep (c :: name)) : c ≠ sep := by
  rintro rfl
  exact h.unmarked List.mem_cons_self

theorem recovered_separator (d : Char) (rest : List Char) :
    recovered sep (sep :: d :: rest) = d.toUpper :: recovered sep rest := by
  simp [recovered]

theorem recovered_cons {c : Char} (hc : c ≠ sep) (rest : List Char) :
    recovered sep (c :: rest) = c :: recovered sep rest := by
  cases rest with
  | nil => rfl
  | cons d rest => simp [recovered, hc]

theorem spelled_of_ascii {c : Char} (hc : c.toNat < 128) :
    spelled sep c = if c.isUpper then [sep, c.toLower] else [c] := by
  rw [spelled, isUpper_of_ascii hc, lowerChars_singleton, lowerChar_of_ascii hc]
  by_cases hupper : c.isUpper = true
  · simp [hupper]
  · simp [hupper, Char.toLower_eq_of_not_isUpper hupper]

theorem recovered_spelled {name : List Char} (h : Plain sep name) :
    recovered sep (name.flatMap (spelled sep)) = name := by
  induction name with
  | nil => rfl
  | cons c name ih =>
    rw [List.flatMap_cons, spelled_of_ascii (h.ascii c List.mem_cons_self)]
    by_cases hupper : c.isUpper = true
    · -- The separator tells that the small letter after it is read back as a capital.
      have hback : c.toLower.toUpper = c := by
        rw [Char.toUpper_toLower_eq_toUpper,
          Char.toUpper_eq_of_not_isLower (Char.not_isLower_of_isUpper hupper)]
      simp only [hupper, if_true, List.cons_append, List.nil_append, recovered_separator, hback,
        ih h.tail]
    · simp only [hupper, if_false, List.cons_append, List.nil_append, recovered_cons h.head_ne,
        ih h.tail, Bool.false_eq_true]

theorem splitOnUpper_plain (hsep : Divides sep) {x : Char} {rest : List Char}
    (h : Plain sep (x :: rest)) :
    splitOnUpper sep (x :: rest) = x.toLower :: rest.flatMap (spelled sep) := by
  rw [splitOnUpper_cons hsep h.head_ne, lowerChars_singleton,
    lowerChar_of_ascii (h.ascii x List.mem_cons_self)]
  rfl

theorem splitOnUpper_eq_iff (hsep : Divides sep) {a b : String} (ha : Plain sep a.toList)
    (hb : Plain sep b.toList) :
    splitOnUpper sep a.toList = splitOnUpper sep b.toList ↔ SameButFirstCase a b := by
  rw [SameButFirstCase, ← String.toList_inj]
  generalize a.toList = as at ha ⊢
  generalize b.toList = bs at hb ⊢
  cases as with
  | nil =>
    cases bs with
    | nil => simp
    | cons y rest => simp [splitOnUpper_plain hsep hb, splitOnUpper_nil]
  | cons x tail =>
    cases bs with
    | nil => simp [splitOnUpper_plain hsep ha, splitOnUpper_nil]
    | cons y rest =>
      rw [splitOnUpper_plain hsep ha, splitOnUpper_plain hsep hb, List.cons.injEq]
      constructor
      · rintro ⟨hfirst, hspelled⟩
        have htail : tail = rest := by
          rw [← recovered_spelled ha.tail, hspelled, recovered_spelled hb.tail]
        exact Or.inr ⟨x, y, rest, by rw [htail], rfl, hfirst⟩
      · rintro (heq | ⟨x', y', rest', hx, hy, hfirst⟩)
        · cases heq
          exact ⟨rfl, rfl⟩
        · cases hx
          cases hy
          exact ⟨hfirst, rfl⟩

end Recovery

/-- Plain names are spelled alike, and their components get the same prefix, exactly if they differ
in nothing but the case of the first letter. -/
theorem transform_eq_iff_sameButFirstCase {c : Convention} {sep : Char}
    (h : c.separator? = some sep) {a b : String} (ha : Plain sep a.toList)
    (hb : Plain sep b.toList) :
    (transform (some c) a = transform (some c) b ↔ SameButFirstCase a b) ∧
    ∀ v w : Visitor, v.convention = some c → w.convention = some c →
      v.notes.component = some a → w.notes.component = some b →
      (v.resolvePrefix? = w.resolvePrefix? ↔ SameButFirstCase a b) := by
  have hnames : transform (some c) a = transform (some c) b ↔ SameButFirstCase a b := by
    rw [← String.toList_inj, toList_transform h, toList_transform h]
    exact splitOnUpper_eq_iff (divides_of_separator? h) ha hb
  refine ⟨hnames, fun v w hv hw hva hwb => ?_⟩
  rw [Visitor.resolvePrefix?, Visitor.resolvePrefix?, hv, hw, hva, hwb]
  simp only [Option.map_some, Option.some.injEq, String.append_left_inj, hnames]

theorem transform_eq_iff_sameButFirstCase_myCard :
    transform (some dash) "MyCard" = transform (some dash) "myCard" ∧
    transform (some dash) "MyCard" ≠ transform (some dash) "Mycard" := by
  have hseparator : dash.separator? = some '-' := rfl
  have hcapital : Plain '-' "MyCard".toList := ⟨by simp, by decide⟩
  have hsmall : Plain '-' "myCard".toList := ⟨by simp, by decide⟩
  have hjoined : Plain '-' "Mycard".toList := ⟨by simp, by decide⟩
  constructor
  · refine (transform_eq_iff_sameButFirstCase hseparator hcapital hsmall).1.mpr ?_
    exact Or.inr ⟨'M', 'm', "yCard".toList, by decide, by decide, by decide⟩
  · intro heq
    rcases (transform_eq_iff_sameButFirstCase hseparator hcapital hjoined).1.mp heq with
      hsame | ⟨x, y, rest, hx, hy, -⟩
    · exact absurd hsame (by decide)
    · have htails : "MyCard".toList.tail = "Mycard".toList.tail := by
        rw [hx, hy, List.tail_cons, List.tail_cons]
      exact absurd htails (by decide)

end Convention

end PrefixLint
