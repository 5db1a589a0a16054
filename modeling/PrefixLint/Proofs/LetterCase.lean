import PrefixLint.Text.Casing

/-!
# Lowered characters and texts

Lowering settles at once: a character that it gives is left alone when it is lowered again, so a
lowered text stays as it is. For single characters this is a property of the tables. Their sets of
code points are compared as numbers whose bits are the members, so that one intersection settles the
matter for all of them. For texts it needs no more than that, since a lowered text has no capital
sigma, and no other character looks at its neighbours.
-/

namespace PrefixLint.Text

/-- The multiples of `step` up to `step * k`, as bits. -/
def multiples (step : Nat) : Nat → Nat
  | 0 => 1
  | k + 1 => multiples step k <<< step ||| 1

theorem testBit_multiples (step : Nat) {j k : Nat} (h : j ≤ k) :
    (multiples step k).testBit (step * j) = true := by
  induction k generalizing j with
  | zero => simp [Nat.le_zero.mp h, multiples]
  | succ k ih =>
    rw [multiples, Nat.testBit_or, Nat.testBit_shiftLeft]
    cases j with
    | zero => simp
    | succ j =>
      have hle : step ≤ step * (j + 1) := Nat.le_mul_of_pos_right step (by omega)
      have hrest : step * (j + 1) - step = step * j := by rw [Nat.mul_succ, Nat.add_sub_cancel]
      simp [hle, hrest, ih (Nat.le_of_succ_le_succ h)]

namespace Span

def bits (s : Span) : Nat := multiples s.step ((s.last - s.first) / s.step) <<< s.first

theorem covers_iff {s : Span} {n : Nat} :
    s.covers n = true ↔ (s.first ≤ n ∧ n ≤ s.last) ∧ (n - s.first) % s.step = 0 := by
  simp [covers]

theorem testBit_bits {s : Span} {n : Nat} (h : s.covers n = true) : s.bits.testBit n = true := by
  obtain ⟨⟨hfirst, hlast⟩, hstep⟩ := covers_iff.mp h
  have hplace : n - s.first = s.step * ((n - s.first) / s.step) := by
    have hdiv := Nat.div_add_mod (n - s.first) s.step
    omega
  have hcount : (n - s.first) / s.step ≤ (s.last - s.first) / s.step :=
    Nat.div_le_div_right (by omega)
  rw [bits, Nat.testBit_shiftLeft, hplace, testBit_multiples s.step hcount]
  simp [hfirst]

def union (spans : List Span) : Nat := spans.foldr (fun s bits => s.bits ||| bits) 0

theorem testBit_union {spans : List Span} {s : Span} (hs : s ∈ spans) {n : Nat}
    (h : s.covers n = true) : (union spans).testBit n = true := by
  induction spans with
  | nil => cases hs
  | cons t spans ih =>
    change (t.bits ||| union spans).testBit n = true
    rw [Nat.testBit_or, Bool.or_eq_true]
    rcases List.mem_cons.mp hs with rfl | hs
    · exact Or.inl (testBit_bits h)
    · exact Or.inr (ih hs)

theorem not_covers_of_disjoint {spans others : List Span}
    (h : union spans &&& union others = 0) {s t : Span} (hs : s ∈ spans) (ht : t ∈ others)
    {n : Nat} (hn : s.covers n = true) : t.covers n = false := by
  rw [Bool.eq_false_iff]
  intro hcovers
  have hcommon : (union spans &&& union others).testBit n = true := by
    rw [Nat.testBit_and, testBit_union hs hn, testBit_union ht hcovers]
    rfl
  rw [h, Nat.zero_testBit] at hcommon
  cases hcommon

def single (n : Nat) : Span := ⟨n, n, 1⟩

theorem single_covers_iff {n m : Nat} : (single n).covers m = true ↔ m = n := by
  simp only [covers_iff, single, Nat.mod_one, and_true]
  omega

end Span

def Shift.image (s : Shift) : Span := ⟨s.apply s.span.first, s.apply s.span.last, s.span.step⟩

theorem Shift.image_covers {s : Shift} (hnatural : 0 ≤ s.span.first + s.distance) {n : Nat}
    (h : s.covers n = true) : s.image.covers (s.apply n) = true := by
  obtain ⟨⟨hfirst, hlast⟩, hstep⟩ := Span.covers_iff.mp h
  have hdistance : s.apply n - s.apply s.span.first = n - s.span.first := by
    simp only [apply]
    omega
  refine Span.covers_iff.mpr ⟨?_, ?_⟩
  · simp only [image, apply]
    omega
  · simp only [image, hdistance, hstep]

section Tables

variable (shifts : List Shift) (expansions : List (Nat × List Nat))

def sources : List Span := expansions.map (fun e => .single e.1) ++ shifts.map (·.span)

def images : List Span := expansions.flatMap (fun e => e.2.map .single) ++ shifts.map (·.image)

/-- The tables give only characters, and only such as they leave alone. -/
structure Settled : Prop where
  natural : ∀ s ∈ shifts, 0 ≤ s.span.first + s.distance
  valid : ∀ s ∈ images shifts expansions,
    s.last < 0xD800 ∨ 0xDFFF < s.first ∧ s.last < 0x110000
  -- One intersection stands for a comparison of every pair of spans.
  disjoint : Span.union (images shifts expansions) &&& Span.union (sources shifts expansions) = 0

variable {shifts expansions} {c d : Char}

theorem mapCase_of_untouched
    (h : ∀ s ∈ sources shifts expansions, s.covers c.toNat = false) :
    mapCase shifts expansions c = [c] := by
  have hlookup : expansions.lookup c.toNat = none := by
    rw [List.lookup_eq_none_iff]
    intro e he
    have hfalse := h (.single e.1) (List.mem_append_left _ (List.mem_map_of_mem he))
    rw [Bool.eq_false_iff, ne_eq, Span.single_covers_iff] at hfalse
    simpa using hfalse
  have hfind : shifts.find? (·.covers c.toNat) = none := by
    rw [List.find?_eq_none]
    intro s hs
    simpa [Shift.covers] using h s.span (List.mem_append_right _ (List.mem_map_of_mem hs))
  simp only [mapCase, hlookup, hfind]

theorem Settled.toNat_ofNat (h : Settled shifts expansions) {s : Span}
    (hs : s ∈ images shifts expansions) {n : Nat} (hn : s.covers n = true) :
    (Char.ofNat n).toNat = n := by
  obtain ⟨⟨hfirst, hlast⟩, -⟩ := Span.covers_iff.mp hn
  have hvalid : n.isValidChar := by
    have hrange := h.valid s hs
    simp only [Nat.isValidChar]
    omega
  rw [Char.ofNat, dif_pos hvalid]
  rfl

theorem Settled.mem_mapCase (h : Settled shifts expansions)
    (hd : d ∈ mapCase shifts expansions c) :
    mapCase shifts expansions c = [c] ∧ d = c ∨
      ∃ s ∈ images shifts expansions, s.covers d.toNat = true := by
  unfold mapCase at hd ⊢
  split at hd
  · rename_i image hlookup
    obtain ⟨before, after, htable, -⟩ := List.lookup_eq_some_iff.mp hlookup
    obtain ⟨n, hn, rfl⟩ := List.mem_map.mp hd
    have hentry : (c.toNat, image) ∈ expansions := by simp [htable]
    have hmem : Span.single n ∈ images shifts expansions :=
      List.mem_append_left _ (List.mem_flatMap_of_mem hentry (List.mem_map_of_mem hn))
    have hcovers := Span.single_covers_iff.mpr (rfl : n = n)
    exact Or.inr ⟨_, hmem, by rwa [h.toNat_ofNat hmem hcovers]⟩
  · split at hd
    · rename_i s hfind
      obtain rfl := List.mem_singleton.mp hd
      have hs := List.mem_of_find?_eq_some hfind
      have hmem : s.image ∈ images shifts expansions :=
        List.mem_append_right _ (List.mem_map_of_mem hs)
      have hsource := List.find?_some hfind
      have hcovers := Shift.image_covers (h.natural s hs) hsource
      exact Or.inr ⟨_, hmem, by rwa [h.toNat_ofNat hmem hcovers]⟩
    · exact Or.inl ⟨rfl, List.mem_singleton.mp hd⟩

theorem Settled.mapCase_of_mem (h : Settled shifts expansions)
    (hd : d ∈ mapCase shifts expansions c) : mapCase shifts expansions d = [d] := by
  rcases h.mem_mapCase hd with ⟨hself, rfl⟩ | ⟨s, hs, hcovers⟩
  · exact hself
  · exact mapCase_of_untouched fun t ht => Span.not_covers_of_disjoint h.disjoint hs ht hcovers

end Tables

theorem settled_lower : Settled lowerShifts lowerExpansions where
  natural := by decide +kernel
  valid := by decide +kernel
  disjoint := by decide +kernel

theorem lowerChar_of_mem {c d : Char} (h : d ∈ lowerChar c) : lowerChar d = [d] :=
  settled_lower.mapCase_of_mem h

theorem eq_of_mem_lowerChar {c d : Char} (h : d ∈ lowerChar c) (hd : d.toNat < 'a'.toNat) :
    c = d := by
  have hsmall : ∀ s ∈ images lowerShifts lowerExpansions, 'a'.toNat ≤ s.first := by
    decide +kernel
  rcases settled_lower.mem_mapCase h with ⟨-, rfl⟩ | ⟨s, hs, hcovers⟩
  · rfl
  · have hfirst := hsmall s hs
    have hcovered := (Span.covers_iff.mp hcovers).1.1
    omega

theorem lowerChar_ne_nil (c : Char) : lowerChar c ≠ [] := by
  have himages : ∀ e ∈ lowerExpansions, e.2 ≠ [] := by decide
  unfold lowerChar mapCase
  split
  · rename_i image hlookup
    obtain ⟨before, after, htable, -⟩ := List.lookup_eq_some_iff.mp hlookup
    simpa using himages (c.toNat, image) (by simp [htable])
  · split <;> simp

theorem lowerChar_capitalSigma : lowerChar capitalSigma = [smallSigma] := by decide +kernel

theorem lowerBetween_eq {before after : List Char} {c : Char}
    (h : c = capitalSigma → endsWord before after = false) :
    lowerBetween before c after = lowerChar c := by
  unfold lowerBetween
  split
  · rename_i hc
    rw [h hc, hc, lowerChar_capitalSigma]
    rfl
  · rfl

theorem lowerFrom_cons (done before : List Char) (c : Char) (rest : List Char) :
    lowerFrom done before (c :: rest) =
      lowerFrom ((lowerBetween before c rest).reverse ++ done) (c :: before) rest := rfl

theorem lowerChars_singleton (c : Char) : lowerChars [c] = lowerChar c := by
  have hbetween : lowerBetween [] c [] = lowerChar c := lowerBetween_eq fun _ => rfl
  simp [lowerChars, lowerFrom, hbetween]

theorem lowerChar_of_mem_lowerBetween {before after : List Char} {c d : Char}
    (h : d ∈ lowerBetween before c after) : lowerChar d = [d] := by
  unfold lowerBetween at h
  split at h
  · have hsigmas : lowerChar finalSigma = [finalSigma] ∧ lowerChar smallSigma = [smallSigma] := by
      decide +kernel
    split at h
    · rw [List.mem_singleton.mp h, hsigmas.1]
    · rw [List.mem_singleton.mp h, hsigmas.2]
  · exact lowerChar_of_mem h

theorem lowerChar_of_mem_lowerFrom {done before cs : List Char}
    (hdone : ∀ d ∈ done, lowerChar d = [d]) {d : Char} (h : d ∈ lowerFrom done before cs) :
    lowerChar d = [d] := by
  induction cs generalizing done before with
  | nil => exact hdone d (List.mem_reverse.mp h)
  | cons c rest ih =>
    refine ih (fun e he => ?_) h
    rcases List.mem_append.mp he with he | he
    · exact lowerChar_of_mem_lowerBetween (List.mem_reverse.mp he)
    · exact hdone e he

theorem lowerChar_of_mem_lowerChars {cs : List Char} {d : Char} (h : d ∈ lowerChars cs) :
    lowerChar d = [d] :=
  lowerChar_of_mem_lowerFrom (fun _ he => absurd he List.not_mem_nil) h

theorem lowerFrom_of_lowered (done before : List Char) {cs : List Char}
    (h : ∀ d ∈ cs, lowerChar d = [d]) : lowerFrom done before cs = done.reverse ++ cs := by
  induction cs generalizing done before with
  | nil => simp [lowerFrom]
  | cons c rest ih =>
    have hself : lowerChar c = [c] := h c List.mem_cons_self
    have hsigma : c ≠ capitalSigma := by
      rintro rfl
      exact absurd (lowerChar_capitalSigma.symm.trans hself) (by decide)
    rw [lowerFrom_cons, lowerBetween_eq fun hc => absurd hc hsigma, hself,
      ih _ _ fun d hd => h d (List.mem_cons_of_mem c hd)]
    simp

theorem lowerChars_of_lowered {cs : List Char} (h : ∀ d ∈ cs, lowerChar d = [d]) :
    lowerChars cs = cs :=
  lowerFrom_of_lowered [] [] h

end PrefixLint.Text
