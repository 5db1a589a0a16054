import Mathlib.Data.List.Basic
import PrefixLint.Disk.Path

/-!
# Paths and their texts

A legal name is not empty, is no single dot and holds no slash. Reading a path gives legal names only,
and a path of legal names is read back from its text. So two such paths with the same text are the
same path, whatever their roots, and the empty path is among them under the text of a single dot.
-/

namespace PrefixLint

namespace Disk.Path

def LegalName (name : String) : Prop := name ≠ "" ∧ name ≠ "." ∧ '/' ∉ name.toList

instance (name : String) : Decidable (LegalName name) := inferInstanceAs (Decidable (_ ∧ _))

def Legal (p : Path) : Prop := ∀ name ∈ p.names, LegalName name

instance (p : Path) : Decidable p.Legal := inferInstanceAs (Decidable (∀ name ∈ p.names, _))

theorem ofString_legal (s : String) : (ofString s).Legal := by
  intro name h
  obtain ⟨hm, hname⟩ := List.mem_filter.mp h
  obtain ⟨piece, hpiece, rfl⟩ := List.mem_map.mp hm
  simp only [ne_eq, Bool.and_eq_true, decide_eq_true_eq] at hname
  refine ⟨hname.1, hname.2, ?_⟩
  rw [String.toList_ofList]
  exact Text.not_mem_of_mem_splitAt hpiece

theorem toList_slash_intercalate (names : List String) :
    ("/".intercalate names).toList = ['/'].intercalate (names.map String.toList) :=
  String.toList_intercalate

theorem namesOf_cons_slash (cs : List Char) : namesOf ('/' :: cs) = namesOf cs := by
  have hne : Text.splitAt '/' cs ≠ [] := Text.splitAt_eq_splitOn '/' cs ▸ List.splitOn_ne_nil '/' cs
  obtain ⟨piece, pieces, hp⟩ := List.exists_cons_of_ne_nil hne
  simp [namesOf, Text.splitAt_cons, hp, Text.pieceStep]

theorem namesOf_intercalate {names : List String} (h : ∀ name ∈ names, LegalName name) :
    namesOf ("/".intercalate names).toList = names := by
  rw [toList_slash_intercalate]
  cases names with
  | nil => rfl
  | cons name names =>
    have hpieces : ∀ piece ∈ (name :: names).map String.toList, '/' ∉ piece := by
      intro piece hp
      obtain ⟨n, hn, rfl⟩ := List.mem_map.mp hp
      exact (h n hn).2.2
    have hkept : ∀ n ∈ name :: names, (n ≠ "" && n ≠ ".") = true := by
      intro n hn
      simp [(h n hn).1, (h n hn).2.1]
    rw [namesOf, Text.splitAt_eq_splitOn, List.splitOn_intercalate '/' hpieces (by simp),
      List.map_map]
    simp only [Function.comp_def, String.ofList_toList, List.map_id']
    exact List.filter_eq_self.mpr hkept

theorem intercalate_no_slash {names : List String} (h : ∀ name ∈ names, LegalName name) :
    ∀ cs, ("/".intercalate names).toList ≠ '/' :: cs := by
  intro cs heq
  rw [toList_slash_intercalate] at heq
  cases names with
  | nil => cases heq
  | cons name rest =>
    obtain ⟨hne, -, hslash⟩ := h name List.mem_cons_self
    obtain ⟨c, tail, hc⟩ := List.exists_cons_of_ne_nil
      (fun hnil => hne (String.toList_eq_nil_iff.mp hnil) : name.toList ≠ [])
    have hhead : c = '/' := by
      cases rest with
      | nil =>
        rw [List.map_cons, List.map_nil, List.intercalate_singleton, hc] at heq
        exact (List.cons.inj heq).1
      | cons next rest =>
        rw [List.map_cons, List.map_cons, List.intercalate_cons_cons, hc] at heq
        exact (List.cons.inj heq).1
    rw [hc, hhead] at hslash
    exact hslash List.mem_cons_self

theorem rootOf_append {cs : List Char} (h : ∀ rest, cs ≠ '/' :: rest) (root : Root) :
    rootOf (root.text.toList ++ cs) = root := by
  cases cs with
  | nil => cases root <;> rfl
  | cons c rest =>
    have hc : c ≠ '/' := by
      rintro rfl
      exact h rest rfl
    cases root <;> simp [rootOf, Root.text, hc]

theorem rootOf_text {names : List String} (h : ∀ name ∈ names, LegalName name) (root : Root) :
    rootOf (root.text ++ "/".intercalate names).toList = root := by
  rw [String.toList_append]
  exact rootOf_append (intercalate_no_slash h) root

theorem namesOf_text {names : List String} (h : ∀ name ∈ names, LegalName name) (root : Root) :
    namesOf (root.text ++ "/".intercalate names).toList = names := by
  rw [String.toList_append]
  cases root with
  | relative => exact namesOf_intercalate h
  | slash => exact (namesOf_cons_slash _).trans (namesOf_intercalate h)
  | doubleSlash =>
    exact (namesOf_cons_slash _).trans ((namesOf_cons_slash _).trans (namesOf_intercalate h))

theorem toString_eq {p : Path} (h : p ≠ ⟨.relative, []⟩) :
    p.toString = p.root.text ++ "/".intercalate p.names := by
  obtain ⟨root, names⟩ := p
  cases root with
  | relative =>
    cases names with
    | nil => exact absurd rfl h
    | cons name names => rfl
  | slash => rfl
  | doubleSlash => rfl

theorem ofString_toString {p : Path} (h : p.Legal) : ofString p.toString = p := by
  by_cases hp : p = ⟨.relative, []⟩
  · rw [hp]
    decide +kernel
  · rw [toString_eq hp, ofString, rootOf_text h, namesOf_text h]

theorem toString_inj {p q : Path} (hp : p.Legal) (hq : q.Legal) (h : p.toString = q.toString) :
    p = q := by
  rw [← ofString_toString hp, h, ofString_toString hq]

end Disk.Path

end PrefixLint
