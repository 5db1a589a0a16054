import Mathlib.Data.List.Basic
import PrefixLint.Convention
import PrefixLint.Proofs.LetterCase

/-!
# Names split at capitals

The dash and underscore conventions put their separator before every capital and lower the whole.
The separator has no case, and the search for the end of a word does not pass over it. So it hides
from a capital sigma what comes before, and every character becomes the same wherever it stands.

In the end one leading separator is dropped. It need not be one that a capital produced: a name that
begins with the separator loses its own. On all other names the two readings agree, and the result
does not begin with a separator.
-/

namespace PrefixLint

namespace Convention

open Text

def separator? : Convention → Option Char
  | dash => some '-'
  | underscore => some '_'
  | camelCase => none

def spelled (sep c : Char) : List Char :=
  if isUpper c then sep :: lowerChars [c] else lowerChars [c]

/-- What the splitting of names needs from its separator. -/
structure Divides (sep : Char) : Prop where
  plain : isUpper sep = false
  lowered : lowerChar sep = [sep]
  -- No other character is lowered to one that comes before the small letters.
  early : sep.toNat < 'a'.toNat
  -- The two together hide from a sigma whatever comes before the separator.
  caseless : isCased sep = false
  noticed : isCaseIgnorable sep = false

theorem divides_of_separator? {c : Convention} {sep : Char} (h : c.separator? = some sep) :
    Divides sep := by
  cases c with
  | dash =>
    obtain rfl := Option.some.inj h
    exact ⟨by decide +kernel, by decide +kernel, by decide, by decide +kernel, by decide +kernel⟩
  | underscore =>
    obtain rfl := Option.some.inj h
    exact ⟨by decide +kernel, by decide +kernel, by decide, by decide +kernel, by decide +kernel⟩
  | camelCase => cases h

theorem isUpper_capitalSigma : isUpper capitalSigma = true := by decide +kernel

section Split

variable {sep : Char}

theorem endsWord_of_divides (h : Divides sep) (before after : List Char) :
    endsWord (sep :: before) after = false := by
  simp [endsWord, h.noticed, h.caseless]

theorem lowerBetween_separator (h : Divides sep) (before after : List Char) :
    lowerBetween before sep after = [sep] := by
  have hsigma : sep ≠ capitalSigma := by
    rintro rfl
    exact absurd (isUpper_capitalSigma.symm.trans h.plain) (by decide)
  rw [lowerBetween_eq fun hc => absurd hc hsigma, h.lowered]

theorem separated_cons (sep c : Char) (cs : List Char) :
    separated sep (c :: cs) = (if isUpper c then [sep, c] else [c]) ++ separated sep cs :=
  List.flatMap_cons

theorem lowerFrom_separated (h : Divides sep) (done before cs : List Char) :
    lowerFrom done before (separated sep cs) = done.reverse ++ cs.flatMap (spelled sep) := by
  induction cs generalizing done before with
  | nil => simp [separated, lowerFrom]
  | cons c cs ih =>
    rw [separated_cons, List.flatMap_cons, spelled, lowerChars_singleton]
    by_cases hc : isUpper c = true
    · -- Even a sigma finds the separator right before it.
      have hcapital : lowerBetween (sep :: before) c (separated sep cs) = lowerChar c :=
        lowerBetween_eq fun _ => endsWord_of_divides h before _
      simp only [hc, if_true, List.cons_append, List.nil_append, lowerFrom_cons,
        lowerBetween_separator h, hcapital, ih]
      simp
    · have hother : lowerBetween before c (separated sep cs) = lowerChar c :=
        lowerBetween_eq fun hsigma => absurd (hsigma ▸ isUpper_capitalSigma) hc
      simp only [hc, if_false, List.cons_append, List.nil_append, lowerFrom_cons, hother, ih,
        Bool.false_eq_true]
      simp

theorem lowerChars_separated (h : Divides sep) (cs : List Char) :
    lowerChars (separated sep cs) = cs.flatMap (spelled sep) :=
  lowerFrom_separated h [] [] cs

theorem spelled_separator (h : Divides sep) : spelled sep sep = [sep] := by
  rw [spelled, h.plain, lowerChars_singleton, h.lowered]
  rfl

theorem head?_lowerChar_append (h : Divides sep) {x : Char} (hx : x ≠ sep) (rest : List Char) :
    (lowerChar x ++ rest).head? ≠ some sep := by
  rw [List.head?_append_of_ne_nil _ (lowerChar_ne_nil x)]
  intro hhead
  exact hx (eq_of_mem_lowerChar (List.mem_of_mem_head? hhead) h.early)

theorem dropLeading_of_ne {cs : List Char} (h : cs.head? ≠ some sep) :
    dropLeading sep cs = cs := by
  cases cs with
  | nil => rfl
  | cons d cs =>
    have hd : d ≠ sep := by simpa using h
    simp [dropLeading, hd]

theorem splitOnUpper_nil : splitOnUpper sep [] = [] := rfl

theorem splitOnUpper_separator (h : Divides sep) (rest : List Char) :
    splitOnUpper sep (sep :: rest) = rest.flatMap (spelled sep) := by
  rw [splitOnUpper, lowerChars_separated h, List.flatMap_cons, spelled_separator h]
  simp [dropLeading]

theorem splitOnUpper_cons (h : Divides sep) {x : Char} (hx : x ≠ sep) (rest : List Char) :
    splitOnUpper sep (x :: rest) = lowerChars [x] ++ rest.flatMap (spelled sep) := by
  rw [splitOnUpper, lowerChars_separated h, List.flatMap_cons, spelled, lowerChars_singleton]
  by_cases hupper : isUpper x = true
  · simp [hupper, dropLeading]
  · simp only [hupper, if_false, Bool.false_eq_true]
    exact dropLeading_of_ne (head?_lowerChar_append h hx _)

theorem head?_spelled (h : Divides sep) (name : List Char) :
    (name.flatMap (spelled sep)).head? = some sep ↔
      ∃ d ∈ name.head?, d = sep ∨ isUpper d = true := by
  cases name with
  | nil => simp
  | cons x rest =>
    rw [List.flatMap_cons, spelled, lowerChars_singleton]
    by_cases hupper : isUpper x = true
    · simp [hupper]
    · by_cases hx : x = sep
      · simp [hx, h.plain, h.lowered]
      · simpa [hupper, hx] using head?_lowerChar_append h hx _

theorem head?_splitOnUpper (h : Divides sep) (name : List Char) :
    (splitOnUpper sep name).head? = some sep ↔
      name.head? = some sep ∧ ∃ d ∈ name.tail.head?, d = sep ∨ isUpper d = true := by
  cases name with
  | nil => simp [splitOnUpper_nil]
  | cons x rest =>
    by_cases hx : x = sep
    · simp [hx, splitOnUpper_separator h, head?_spelled h]
    · rw [splitOnUpper_cons h hx, lowerChars_singleton]
      simpa [hx] using head?_lowerChar_append h hx _

theorem mem_of_mem_dropLeading {d : Char} {cs : List Char} (h : d ∈ dropLeading sep cs) :
    d ∈ cs := by
  cases cs with
  | nil => exact h
  | cons c cs =>
    by_cases hc : c = sep
    · simp only [dropLeading, hc, if_true] at h
      exact List.mem_cons_of_mem c h
    · simpa only [dropLeading, hc, if_false] using h

theorem lowerChars_splitOnUpper (name : List Char) :
    lowerChars (splitOnUpper sep name) = splitOnUpper sep name :=
  lowerChars_of_lowered fun _ hd => lowerChar_of_mem_lowerChars (mem_of_mem_dropLeading hd)

end Split

theorem toList_transform {c : Convention} {sep : Char} (h : c.separator? = some sep)
    (name : String) : (transform (some c) name).toList = splitOnUpper sep name.toList := by
  cases c with
  | dash =>
    obtain rfl := Option.some.inj h
    exact String.toList_ofList
  | underscore =>
    obtain rfl := Option.some.inj h
    exact String.toList_ofList
  | camelCase => cases h

/-- Splitting takes the characters one by one, although lowering a text does not. -/
theorem splitOnUpper_characterwise {c : Convention} {sep : Char} (h : c.separator? = some sep) :
    (∀ name, splitOnUpper sep name = dropLeading sep (name.flatMap (spelled sep))) ∧
    (∀ a b, lowerChars (separated sep (a ++ b)) =
      lowerChars (separated sep a) ++ lowerChars (separated sep b)) ∧
    (∀ a b, lowerChars (separated sep (a ++ capitalSigma :: b)) =
      lowerChars (separated sep a) ++ sep :: smallSigma :: lowerChars (separated sep b)) ∧
    ∃ a b, lowerChars (a ++ b) ≠ lowerChars a ++ lowerChars b := by
  have hdivides := divides_of_separator? h
  have hsigma : spelled sep capitalSigma = [sep, smallSigma] := by
    rw [spelled, isUpper_capitalSigma, lowerChars_singleton, lowerChar_capitalSigma]
    rfl
  refine ⟨fun name => ?_, fun a b => ?_, fun a b => ?_, ['Α'], [capitalSigma], by decide +kernel⟩
  · rw [splitOnUpper, lowerChars_separated hdivides]
  · simp only [lowerChars_separated hdivides, List.flatMap_append]
  · simp only [lowerChars_separated hdivides, List.flatMap_append, List.flatMap_cons, hsigma]
    rfl

theorem splitOnUpper_characterwise_odos :
    splitOnUpper '_' "ΟΔΟΣ".toList = dropLeading '_' ("ΟΔΟΣ".toList.flatMap (spelled '_')) ∧
    splitOnUpper '_' "ΟΔΟΣ".toList = "ο_δ_ο_σ".toList ∧ lower "ΟΔΟΣ" = "οδος" :=
  have hseparator : underscore.separator? = some '_' := rfl
  ⟨(splitOnUpper_characterwise hseparator).1 _, by decide +kernel, by decide +kernel⟩

/-- A split name is in lower case. It begins with the separator only if the name did, and then
exactly if another separator or a capital comes next. -/
theorem transform_lowered {c : Convention} {sep : Char} (h : c.separator? = some sep)
    (name : String) :
    lower (transform (some c) name) = transform (some c) name ∧
    ((transform (some c) name).toList.head? = some sep ↔
      name.toList.head? = some sep ∧
        ∃ d ∈ name.toList.tail.head?, d = sep ∨ isUpper d = true) := by
  constructor
  · rw [lower, toList_transform h, lowerChars_splitOnUpper, ← toList_transform h,
      String.ofList_toList]
  · rw [toList_transform h]
    exact head?_splitOnUpper (divides_of_separator? h) name.toList

theorem transform_lowered_titlecase :
    transform (some dash) "ǅİΣ𝐀" = "ǆ-i̇-σ-𝐀" ∧ lower "ǆ-i̇-σ-𝐀" = "ǆ-i̇-σ-𝐀" ∧
      "ǆ-i̇-σ-𝐀".toList.head? ≠ some '-' := by
  have hname : transform (some dash) "ǅİΣ𝐀" = "ǆ-i̇-σ-𝐀" := by decide +kernel
  have hseparator : dash.separator? = some '-' := rfl
  obtain ⟨hlower, hhead⟩ := transform_lowered hseparator "ǅİΣ𝐀"
  rw [hname] at hlower hhead
  exact ⟨hname, hlower, fun hdash => absurd (hhead.mp hdash).1 (by decide)⟩

/-- The lowered name without the separator that a leading capital produced. -/
def withoutProduced (sep : Char) (name : List Char) : List Char :=
  if name.head?.any isUpper then (lowerChars (separated sep name)).tail
  else lowerChars (separated sep name)

theorem splitOnUpper_eq_withoutProduced {sep : Char} (h : Divides sep) {name : List Char}
    (hname : name.head? ≠ some sep) : splitOnUpper sep name = withoutProduced sep name := by
  cases name with
  | nil => rfl
  | cons x rest =>
    have hx : x ≠ sep := by simpa using hname
    rw [splitOnUpper_cons h hx, withoutProduced, lowerChars_separated h, List.flatMap_cons, spelled]
    by_cases hupper : isUpper x = true
    · simp [hupper]
    · simp [hupper]

theorem withoutProduced_separator {sep : Char} (h : Divides sep) (rest : List Char) :
    withoutProduced sep (sep :: rest) = sep :: splitOnUpper sep (sep :: rest) := by
  rw [splitOnUpper_separator h, withoutProduced, lowerChars_separated h, List.flatMap_cons,
    spelled_separator h]
  simp [h.plain]

/-- No separator but a produced one is dropped, exactly if the name does not begin with the
separator. A name that does loses its first character. -/
theorem transform_drops_leading_separator {c : Convention} {sep : Char}
    (h : c.separator? = some sep) (name : String) :
    ((transform (some c) name).toList = withoutProduced sep name.toList ↔
      name.toList.head? ≠ some sep) ∧
    ∀ rest, name.toList = sep :: rest →
      (transform (some c) name).toList = lowerChars (separated sep rest) := by
  have hdivides := divides_of_separator? h
  rw [toList_transform h]
  refine ⟨⟨fun heq hhead => ?_, splitOnUpper_eq_withoutProduced hdivides⟩, fun rest hrest => ?_⟩
  · obtain ⟨rest, hrest⟩ := List.head?_eq_some_iff.mp hhead
    rw [hrest, withoutProduced_separator hdivides] at heq
    simpa using congrArg List.length heq
  · rw [hrest, splitOnUpper_separator hdivides, lowerChars_separated hdivides]

theorem transform_drops_leading_separator_privateCard :
    (transform (some dash) "_Card").toList = withoutProduced '-' "_Card".toList ∧
    (transform (some underscore) "_Card").toList ≠ withoutProduced '_' "_Card".toList ∧
    transform (some underscore) "_Card" = "_card" := by
  have hdash := transform_drops_leading_separator (rfl : dash.separator? = some '-') "_Card"
  have hunderscore :=
    transform_drops_leading_separator (rfl : underscore.separator? = some '_') "_Card"
  exact ⟨hdash.1.mpr (by decide), fun heq => hunderscore.1.mp heq (by decide), by decide +kernel⟩

/-- A leading underscore that no capital produced is dropped too. -/
theorem not_only_produced_dropped :
    ¬ ∀ (c : Convention) (sep : Char), c.separator? = some sep → ∀ name : String,
      (transform (some c) name).toList = withoutProduced sep name.toList := by
  intro hall
  have hcard := hall underscore '_' rfl "_card"
  exact absurd hcard (by decide +kernel)

end Convention

end PrefixLint
