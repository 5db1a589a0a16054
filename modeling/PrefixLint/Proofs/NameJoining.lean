import Mathlib.Data.List.Forall2
import PrefixLint.Convention
import PrefixLint.Proofs.LetterCase

/-!
# Names joined at dashes

The camel case convention drops the dashes before small letters and capitalises these letters. Then
it lowers all but the first character of the name, so nothing is left of the capitals: a letter and
its capital are lowered alike, and a sigma that looks for the end of its word stops at either. The
name is spelled as if only the dashes had been dropped.
-/

namespace PrefixLint

namespace Text

/-- Characters that lowering does not tell apart, neither by themselves nor beside a sigma. -/
structure Interchangeable (c d : Char) : Prop where
  sigma : c = capitalSigma ↔ d = capitalSigma
  lowered : lowerChar c = lowerChar d
  cased : isCased c = isCased d
  ignorable : isCaseIgnorable c = isCaseIgnorable d

theorem Interchangeable.refl (c : Char) : Interchangeable c c := ⟨Iff.rfl, rfl, rfl, rfl⟩

variable {cs ds before before' after after' : List Char}

theorem forall₂_dropWhile_ignorable (h : List.Forall₂ Interchangeable cs ds) :
    List.Forall₂ Interchangeable (cs.dropWhile isCaseIgnorable) (ds.dropWhile isCaseIgnorable) := by
  induction h with
  | nil => exact .nil
  | @cons c d cs ds hcd hrest ih =>
    by_cases hc : isCaseIgnorable c = true
    · rw [List.dropWhile_cons_of_pos hc, List.dropWhile_cons_of_pos (hcd.ignorable ▸ hc)]
      exact ih
    · rw [List.dropWhile_cons_of_neg hc, List.dropWhile_cons_of_neg (hcd.ignorable ▸ hc)]
      exact .cons hcd hrest

theorem endsWord_congr (hbefore : List.Forall₂ Interchangeable before before')
    (hafter : List.Forall₂ Interchangeable after after') :
    endsWord before after = endsWord before' after' := by
  have hback := forall₂_dropWhile_ignorable hbefore
  have hahead := forall₂_dropWhile_ignorable hafter
  unfold endsWord
  generalize before.dropWhile isCaseIgnorable = back at hback ⊢
  generalize before'.dropWhile isCaseIgnorable = back' at hback ⊢
  generalize after.dropWhile isCaseIgnorable = ahead at hahead ⊢
  generalize after'.dropWhile isCaseIgnorable = ahead' at hahead ⊢
  cases hback with
  | nil => rfl
  | cons hb _ =>
    cases hahead with
    | nil => simp only [hb.cased]
    | cons ha _ => simp only [hb.cased, ha.cased]

theorem lowerBetween_congr {c d : Char} (hcd : Interchangeable c d)
    (hbefore : List.Forall₂ Interchangeable before before')
    (hafter : List.Forall₂ Interchangeable after after') :
    lowerBetween before c after = lowerBetween before' d after' := by
  simp only [lowerBetween, hcd.sigma, hcd.lowered, endsWord_congr hbefore hafter]

theorem lowerFrom_congr (done : List Char) (hbefore : List.Forall₂ Interchangeable before before')
    (h : List.Forall₂ Interchangeable cs ds) :
    lowerFrom done before cs = lowerFrom done before' ds := by
  induction h generalizing done before before' with
  | nil => rfl
  | cons hcd hrest ih =>
    rw [lowerFrom_cons, lowerFrom_cons, lowerBetween_congr hcd hbefore hrest]
    exact ih _ (.cons hcd hbefore)

theorem lowerChars_congr (h : List.Forall₂ Interchangeable cs ds) :
    lowerChars cs = lowerChars ds :=
  lowerFrom_congr [] .nil h

theorem settled_upper : Settled upperShifts upperExpansions where
  natural := by decide +kernel
  valid := by decide +kernel
  disjoint := by decide +kernel

theorem upperChar_of_mem {c d : Char} (h : d ∈ upperChar c) : upperChar d = [d] :=
  settled_upper.mapCase_of_mem h

def asciiLetters : List Span := [⟨0x41, 0x5A, 1⟩, ⟨0x61, 0x7A, 1⟩]

theorem isCaseIgnorable_of_asciiLetter {c : Char} {s : Span} (hs : s ∈ asciiLetters)
    (hc : s.covers c.toNat = true) : isCaseIgnorable c = false := by
  have hdisjoint : Span.union asciiLetters &&& Span.union caseIgnorableSpans = 0 := by
    decide +kernel
  rw [isCaseIgnorable, List.any_eq_false]
  intro t ht
  rw [Span.not_covers_of_disjoint hdisjoint hs ht hc]
  exact Bool.false_ne_true

end Text

namespace Convention

open Text

def undashed : List Char → List Char
  | [] => []
  | c :: rest =>
    if c = '-' ∧ rest.head?.any isSmallLetter then undashed rest else c :: undashed rest

/-- What stands for a character in the joined text: itself, or the capital of a small letter. -/
def Recased (c d : Char) : Prop := d = c ∨ isSmallLetter c = true ∧ upperChar c = [d]

theorem isSmallLetter_iff {c : Char} :
    isSmallLetter c = true ↔ 'a'.toNat ≤ c.toNat ∧ c.toNat ≤ 'z'.toNat := by
  simp only [isSmallLetter, Bool.and_eq_true, decide_eq_true_eq, Char.le_def,
    UInt32.le_iff_toNat_le]
  rfl

theorem isSmallLetter_dash : isSmallLetter '-' = false := by decide

theorem capital_of_isSmallLetter {c : Char} (h : isSmallLetter c = true) :
    ∃ d, upperChar c = [d] ∧ Interchangeable c d := by
  -- The letters are few, so the tables are asked about each of them.
  have hletters : ∀ n ∈ List.range' 97 26,
      upperChar (Char.ofNat n) = [Char.ofNat (n - 32)] ∧
      lowerChar (Char.ofNat (n - 32)) = [Char.ofNat n] ∧
      isCased (Char.ofNat n) = isCased (Char.ofNat (n - 32)) ∧
      (Char.ofNat (n - 32)).toNat = n - 32 := by
    decide +kernel
  obtain ⟨hfirst, hlast⟩ : 97 ≤ c.toNat ∧ c.toNat ≤ 122 := isSmallLetter_iff.mp h
  have hmem : c.toNat ∈ List.range' 97 26 := by
    rw [List.mem_range'_1]
    omega
  obtain ⟨hupper, hlower, hcased, hcode⟩ := hletters c.toNat hmem
  rw [Char.ofNat_toNat] at hupper hlower hcased
  generalize Char.ofNat (c.toNat - 32) = d at hupper hlower hcased hcode
  have hsigma : ∀ e : Char, e.toNat ≤ 122 → e ≠ capitalSigma := by
    rintro e he rfl
    exact absurd he (by decide)
  have hsmall : (⟨0x61, 0x7A, 1⟩ : Span).covers c.toNat = true :=
    Span.covers_iff.mpr ⟨⟨hfirst, hlast⟩, Nat.mod_one _⟩
  have hcapital : (⟨0x41, 0x5A, 1⟩ : Span).covers d.toNat = true :=
    Span.covers_iff.mpr ⟨by dsimp only; omega, Nat.mod_one _⟩
  refine ⟨d, hupper, ?_, ?_, hcased, ?_⟩
  · exact iff_of_false (hsigma c hlast) (hsigma d (by omega))
  · rw [hlower]
    exact lowerChar_of_mem (hlower ▸ List.mem_singleton_self c)
  · rw [isCaseIgnorable_of_asciiLetter (by decide) hsmall,
      isCaseIgnorable_of_asciiLetter (by decide) hcapital]

theorem interchangeable_of_recased {c d : Char} (h : Recased c d) : Interchangeable c d := by
  rcases h with rfl | ⟨hsmall, hupper⟩
  · exact .refl d
  · obtain ⟨capital, hcapital, hlike⟩ := capital_of_isSmallLetter hsmall
    obtain rfl := List.singleton_inj.mp (hcapital.symm.trans hupper)
    exact hlike

theorem upperChar_of_recased {c d : Char} (h : Recased c d) : upperChar d = upperChar c := by
  rcases h with rfl | ⟨-, hupper⟩
  · rfl
  · rw [hupper]
    exact upperChar_of_mem (hupper ▸ List.mem_singleton_self d)

theorem undashed_cons_cons (c d : Char) (rest : List Char) :
    undashed (c :: d :: rest) =
      if c = '-' ∧ isSmallLetter d = true then undashed (d :: rest)
      else c :: undashed (d :: rest) :=
  rfl

theorem undashed_cons_of_ne {c : Char} (hc : c ≠ '-') (rest : List Char) :
    undashed (c :: rest) = c :: undashed rest := by
  simp [undashed, hc]

theorem forall₂_joinDashedFrom (done cs : List Char) :
    ∃ joined, joinDashedFrom done cs = done.reverse ++ joined ∧
      List.Forall₂ Recased (undashed cs) joined := by
  fun_induction joinDashedFrom done cs with
  | case1 done => exact ⟨[], by simp, .nil⟩
  | case2 done c => exact ⟨[c], by simp, by simp [undashed, Recased]⟩
  | case3 done c d rest hdashed ih =>
    obtain ⟨joined, hjoined, hrest⟩ := ih
    simp only [Bool.and_eq_true, decide_eq_true_eq] at hdashed
    obtain ⟨capital, hcapital, -⟩ := capital_of_isSmallLetter hdashed.2
    have hd : d ≠ '-' := by
      rintro rfl
      exact absurd (isSmallLetter_dash.symm.trans hdashed.2) (by decide)
    rw [undashed_cons_cons, if_pos hdashed, undashed_cons_of_ne hd]
    refine ⟨capital :: joined, ?_, .cons (Or.inr ⟨hdashed.2, hcapital⟩) hrest⟩
    rw [hjoined, hcapital]
    simp
  | case4 done c d rest hkept ih =>
    obtain ⟨joined, hjoined, hrest⟩ := ih
    simp only [Bool.and_eq_true, decide_eq_true_eq] at hkept
    rw [undashed_cons_cons, if_neg hkept]
    refine ⟨c :: joined, ?_, .cons (Or.inl rfl) hrest⟩
    rw [hjoined]
    simp

theorem forall₂_joinDashed (cs : List Char) :
    List.Forall₂ Recased (undashed cs) (joinDashed cs) := by
  obtain ⟨joined, hjoined, hrecased⟩ := forall₂_joinDashedFrom [] cs
  rw [joinDashed, hjoined]
  exact hrecased

theorem capitalised_congr {cs ds : List Char} (h : List.Forall₂ Recased cs ds) :
    capitalised ds = capitalised cs := by
  cases h with
  | nil => rfl
  | cons hfirst hrest =>
    have hlower := lowerChars_congr (hrest.imp fun _ _ => interchangeable_of_recased)
    rw [capitalised, capitalised, upperChar_of_recased hfirst, hlower]

theorem undashed_eq_nil_iff {cs : List Char} : undashed cs = [] ↔ cs = [] := by
  induction cs with
  | nil => simp [undashed]
  | cons c rest ih =>
    by_cases hdropped : c = '-' ∧ rest.head?.any isSmallLetter
    · -- A dash is dropped only before a letter, which stays.
      have hrest : rest ≠ [] := by
        rintro rfl
        simp at hdropped
      simp [undashed, hdropped, ih, hrest]
    · simp [undashed, hdropped]

/-- A name in camel case is the upper case of the first character and the lower case of the rest,
once the dashes before small letters are dropped. -/
theorem transform_camelCase (name : String) :
    (name = "" ∧ transform (some camelCase) name = "") ∨
    ∃ first rest, undashed name.toList = first :: rest ∧
      transform (some camelCase) name =
        upper (String.singleton first) ++ lower (String.ofList rest) := by
  have hspelled : transform (some camelCase) name =
      String.ofList (capitalised (undashed name.toList)) := by
    rw [← capitalised_congr (forall₂_joinDashed name.toList)]
    rfl
  cases hname : undashed name.toList with
  | nil =>
    have hempty : name = "" := String.toList_eq_nil_iff.mp (undashed_eq_nil_iff.mp hname)
    rw [hspelled, hname]
    exact Or.inl ⟨hempty, rfl⟩
  | cons first rest =>
    refine Or.inr ⟨first, rest, rfl, ?_⟩
    rw [hspelled, hname]
    simp [capitalised, upper, lower, upperChars, String.ofList_append]

example : transform (some camelCase) "ΑΣ-a--bΣ" = "Ασa-bς" := by decide +kernel

end Convention

end PrefixLint
