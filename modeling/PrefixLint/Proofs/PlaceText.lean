import Mathlib
import PrefixLint.Diagnostic

/-!
# The text of a place

A place is shown by those of its parts that are known, with colons between them. Numbers hold no
colon, so the numbers of a place are read back from its text, and two of them, or none, fix the line
and the column. One number alone does not tell which of the two it is: a line without a column is
shown like the column just before it without a line. Nothing else is shown alike.
-/

namespace PrefixLint

namespace Number

theorem decimal?_eq_some {n : Int} {s : String} (h : decimal? n = some s) :
    s = if n < 0 then "-" ++ Nat.repr n.natAbs else Nat.repr n.natAbs := by
  simp only [decimal?] at h
  split at h
  · cases h
  · exact (Option.some.inj h).symm

theorem isDigit_of_mem_repr {n : Nat} {c : Char} (h : c ∈ (Nat.repr n).toList) :
    c.isDigit = true := by
  rw [Nat.toList_repr] at h
  exact Nat.isDigit_of_mem_toDigits (by decide) (by decide) h

theorem isDigit_of_mem_decimal? {n : Int} {s : String} (h : decimal? n = some s) {c : Char}
    (hc : c ∈ s.toList) : c = '-' ∨ c.isDigit = true := by
  rw [decimal?_eq_some h] at hc
  split at hc
  · rw [String.toList_append] at hc
    rcases List.mem_append.mp hc with hc | hc
    · exact Or.inl (List.mem_singleton.mp hc)
    · exact Or.inr (isDigit_of_mem_repr hc)
  · exact Or.inr (isDigit_of_mem_repr hc)

theorem decimal?_ne_empty {n : Int} {s : String} (h : decimal? n = some s) : s ≠ "" := by
  rw [decimal?_eq_some h]
  split
  · simp
  · exact Nat.repr_ne_empty

theorem minus_append_ne_repr (a b : Nat) : "-" ++ Nat.repr a ≠ Nat.repr b := by
  intro h
  have hmem : '-' ∈ (Nat.repr b).toList := by simp [← h]
  exact absurd (isDigit_of_mem_repr hmem) (by decide)

theorem decimal?_injective {m n : Int} {s : String} (hm : decimal? m = some s)
    (hn : decimal? n = some s) : m = n := by
  have h := (decimal?_eq_some hm).symm.trans (decimal?_eq_some hn)
  by_cases hmneg : m < 0 <;> by_cases hnneg : n < 0
  · rw [if_pos hmneg, if_pos hnneg] at h
    have habs := Nat.repr_injective ((String.append_right_inj "-").mp h)
    omega
  · rw [if_pos hmneg, if_neg hnneg] at h
    exact absurd h (minus_append_ne_repr _ _)
  · rw [if_neg hmneg, if_pos hnneg] at h
    exact absurd h.symm (minus_append_ne_repr _ _)
  · rw [if_neg hmneg, if_neg hnneg] at h
    have habs := Nat.repr_injective h
    omega

end Number

open Ast Number

namespace Coordinate

theorem text?_flag_ne_decimal {b : Bool} {n : Int} {s : String} (hb : (flag b).text? = some s)
    (hn : decimal? n = some s) : False := by
  cases b with
  | true =>
    cases hb
    rcases isDigit_of_mem_decimal? hn (c := 'T') (by decide) with h | h <;> exact absurd h (by decide)
  | false =>
    cases hb
    rcases isDigit_of_mem_decimal? hn (c := 'F') (by decide) with h | h <;> exact absurd h (by decide)

theorem eq_number_of_text? {a : Coordinate} {n : Int} {s : String} (ha : a.text? = some s)
    (hn : decimal? n = some s) : a = number n := by
  cases a with
  | number m => rw [decimal?_injective ha hn]
  | flag b => exact (text?_flag_ne_decimal ha hn).elim

theorem text?_injective {a b : Coordinate} {s : String} (ha : a.text? = some s)
    (hb : b.text? = some s) : a = b := by
  cases b with
  | number n => exact eq_number_of_text? ha hb
  | flag f =>
    cases a with
    | number n => exact (text?_flag_ne_decimal hb ha).elim
    | flag g =>
      have hsame : (flag f).text? = (flag g).text? := hb.trans ha.symm
      cases f <;> cases g
      · rfl
      · exact absurd hsame (by decide)
      · exact absurd hsame (by decide)
      · rfl

theorem text?_plain {a : Coordinate} {s : String} (h : a.text? = some s) :
    s ≠ "" ∧ ':' ∉ s.toList := by
  cases a with
  | number n =>
    refine ⟨decimal?_ne_empty h, fun hc => ?_⟩
    rcases isDigit_of_mem_decimal? h hc with hc | hc <;> exact absurd hc (by decide)
  | flag b => cases b <;> cases h <;> decide

end Coordinate

namespace Diagnostic

def headed (unit : Option String) (numbers : List String) (message : String) : String :=
  let location := ":".intercalate (unit.toList ++ numbers)
  if location = "" then message else location ++ ": " ++ message

theorem place?_eq (d : Diagnostic) (unit : Option String) :
    d.place? unit = (d.place? none).map (unit.toList ++ ·) := by
  unfold place?
  cases d.line.mapM Coordinate.text? with
  | none => rfl
  | some line =>
    cases d.column.mapM fun c => decimal? (c.value + 1) with
    | none => rfl
    | some column => simp

theorem format?_eq (d : Diagnostic) (unit : Option String) :
    d.format? unit = (d.place? none).map fun numbers => headed unit numbers d.message := by
  rw [format?, place?_eq, Option.map_map]
  rfl

section Headed

variable {unit : Option String} {numbers others : List String} {message : String}

theorem location_eq_of_headed (h : headed unit numbers message = headed unit others message) :
    ":".intercalate (unit.toList ++ numbers) = ":".intercalate (unit.toList ++ others) := by
  have hlonger (location : String) : location ++ ": " ++ message ≠ message := by
    intro heq
    have hlength := congrArg String.length heq
    simp only [String.length_append] at hlength
    have : ": ".length = 2 := rfl
    omega
  simp only [headed] at h
  split at h <;> split at h
  · next hnone hnone' => rw [hnone, hnone']
  · exact absurd h.symm (hlonger _)
  · exact absurd h (hlonger _)
  · rw [String.append_assoc, String.append_assoc] at h
    exact (String.append_left_inj _).mp h

theorem eq_of_intercalate {parts parts' : List String} (h : ∀ s ∈ parts, ':' ∉ s.toList)
    (h' : ∀ s ∈ parts', ':' ∉ s.toList) (hne : parts ≠ []) (hne' : parts' ≠ [])
    (heq : ":".intercalate parts = ":".intercalate parts') : parts = parts' := by
  have hpieces {ps : List String} (hp : ∀ s ∈ ps, ':' ∉ s.toList) (hn : ps ≠ []) :
      (":".intercalate ps).toList.splitOn ':' = ps.map String.toList := by
    rw [String.toList_intercalate]
    refine List.splitOn_intercalate ':' ?_ (by simpa using hn)
    intro piece hpiece
    obtain ⟨s, hs, rfl⟩ := List.mem_map.mp hpiece
    exact hp s hs
  have hmap := hpieces h hne
  rw [heq, hpieces h' hne'] at hmap
  exact (List.map_injective_iff.mpr (fun _ _ => String.toList_inj.mp) hmap).symm

def Plain (numbers : List String) : Prop := ∀ s ∈ numbers, s ≠ "" ∧ ':' ∉ s.toList

theorem Plain.intercalate_eq_empty (h : Plain numbers) (hempty : ":".intercalate numbers = "") :
    numbers = [] := by
  cases numbers with
  | nil => rfl
  | cons s rest =>
    have hs := (h s List.mem_cons_self).1
    cases rest with
    | nil => exact absurd (by simpa using hempty) hs
    | cons t rest => exact absurd hempty (by simp [hs])

theorem Plain.eq_of_headed (h : Plain numbers) (h' : Plain others)
    (heq : headed unit numbers message = headed unit others message) : numbers = others := by
  have hlocation := location_eq_of_headed heq
  cases unit with
  | none =>
    rw [Option.toList_none, List.nil_append, List.nil_append] at hlocation
    by_cases hnil : numbers = []
    · rw [hnil, String.intercalate_nil] at hlocation
      rw [hnil, h'.intercalate_eq_empty hlocation.symm]
    · by_cases hnil' : others = []
      · rw [hnil', String.intercalate_nil] at hlocation
        exact absurd (h.intercalate_eq_empty hlocation) hnil
      · exact eq_of_intercalate (fun s hs => (h s hs).2) (fun s hs => (h' s hs).2) hnil hnil'
          hlocation
  | some name =>
    -- The name may hold colons; it stands on both sides, and an empty part takes its place.
    rw [Option.toList_some, List.singleton_append, List.singleton_append,
      ← String.append_empty (s := name), String.intercalate_cons_append,
      String.intercalate_cons_append, String.append_right_inj] at hlocation
    have hplain {ns : List String} (hns : Plain ns) : ∀ s ∈ "" :: ns, ':' ∉ s.toList := by
      intro s hs
      rcases List.mem_cons.mp hs with rfl | hs
      · simp
      · exact (hns s hs).2
    exact (List.cons.inj (eq_of_intercalate (hplain h) (hplain h') (by simp) (by simp)
      hlocation)).2

end Headed

theorem mapM_eq_some {place : Option Coordinate} {show? : Coordinate → Option String}
    {shown : Option String} (h : place.mapM show? = some shown) :
    (place = none ∧ shown = none) ∨
      ∃ c s, place = some c ∧ show? c = some s ∧ shown = some s := by
  cases place with
  | none => exact Or.inl ⟨rfl, (Option.some.inj h).symm⟩
  | some c =>
    rw [Option.mapM_some] at h
    obtain ⟨s, hs, rfl⟩ := Option.map_eq_some_iff.mp h
    exact Or.inr ⟨c, s, rfl, hs, rfl⟩

/-- The numbers of a place, each with the coordinate that it shows. -/
inductive Shows : Option Coordinate → Option Coordinate → List String → Prop where
  | neither : Shows none none []
  | line {l : Coordinate} {s : String} (hl : l.text? = some s) : Shows (some l) none [s]
  | column {c : Coordinate} {s : String} (hc : decimal? (c.value + 1) = some s) :
      Shows none (some c) [s]
  | both {l c : Coordinate} {s t : String} (hl : l.text? = some s)
      (hc : decimal? (c.value + 1) = some t) : Shows (some l) (some c) [s, t]

theorem shows_of_place? {d : Diagnostic} {numbers : List String}
    (h : d.place? none = some numbers) : Shows d.line d.column numbers := by
  obtain ⟨line, hline, h⟩ := Option.bind_eq_some_iff.mp h
  obtain ⟨column, hcolumn, h⟩ := Option.bind_eq_some_iff.mp h
  cases h
  rcases mapM_eq_some hline with ⟨hl, rfl⟩ | ⟨l, s, hl, hs, rfl⟩ <;>
    rcases mapM_eq_some hcolumn with ⟨hc, rfl⟩ | ⟨c, t, hc, ht, rfl⟩ <;> rw [hl, hc]
  · exact .neither
  · exact .column ht
  · exact .line hs
  · exact .both hs ht

theorem Shows.plain {line column : Option Coordinate} {numbers : List String}
    (h : Shows line column numbers) : Plain numbers := by
  have hnumber {n : Int} {s : String} (hs : decimal? n = some s) : s ≠ "" ∧ ':' ∉ s.toList :=
    Coordinate.text?_plain (a := .number n) hs
  intro s hs
  cases h with
  | neither => cases hs
  | line hl =>
    cases List.mem_singleton.mp hs
    exact Coordinate.text?_plain hl
  | column hc =>
    cases List.mem_singleton.mp hs
    exact hnumber hc
  | both hl hc =>
    rcases List.mem_pair.mp hs with rfl | rfl
    · exact Coordinate.text?_plain hl
    · exact hnumber hc

/-- Two diagnostics have the same line and, with a flag counting as its number, the same column. -/
structure SamePlace (d e : Diagnostic) : Prop where
  line : d.line = e.line
  column : d.column.map Coordinate.value = e.column.map Coordinate.value

/-- The first has a line alone and the second a column alone, which is shown as the same number. -/
def LineReadsAsColumn (d e : Diagnostic) : Prop :=
  ∃ n, d.line = some (.number n) ∧ d.column = none ∧ e.line = none ∧
    e.column.map Coordinate.value = some (n - 1)

theorem value_eq_of_decimal? {a b : Coordinate} {s : String}
    (ha : decimal? (a.value + 1) = some s) (hb : decimal? (b.value + 1) = some s) :
    a.value = b.value := by
  have := decimal?_injective ha hb
  omega

theorem lineReadsAsColumn {d e : Diagnostic} {l c : Coordinate} {s : String}
    (hd : d.line = some l ∧ d.column = none) (he : e.line = none ∧ e.column = some c)
    (hl : l.text? = some s) (hc : decimal? (c.value + 1) = some s) : LineReadsAsColumn d e := by
  refine ⟨c.value + 1, ?_, hd.2, he.1, ?_⟩
  · rw [hd.1, Coordinate.eq_number_of_text? hl hc]
  · simp [he.2]

theorem place_of_shows {d e : Diagnostic} {numbers : List String}
    (hd : Shows d.line d.column numbers) (he : Shows e.line e.column numbers) :
    SamePlace d e ∨ LineReadsAsColumn d e ∨ LineReadsAsColumn e d := by
  generalize hdl : d.line = dl, hdc : d.column = dc at hd
  generalize hel : e.line = el, hec : e.column = ec at he
  -- Two places of one number agree in the kind of that number or are confused.
  cases hd with
  | neither =>
    cases he
    exact Or.inl ⟨hdl.trans hel.symm, by rw [hdc, hec]⟩
  | line hl =>
    cases he with
    | line hl' =>
      rw [Coordinate.text?_injective hl hl'] at hdl
      exact Or.inl ⟨hdl.trans hel.symm, by rw [hdc, hec]⟩
    | column hc' => exact Or.inr (Or.inl (lineReadsAsColumn ⟨hdl, hdc⟩ ⟨hel, hec⟩ hl hc'))
  | column hc =>
    cases he with
    | line hl' => exact Or.inr (Or.inr (lineReadsAsColumn ⟨hel, hec⟩ ⟨hdl, hdc⟩ hl' hc))
    | column hc' =>
      refine Or.inl ⟨hdl.trans hel.symm, ?_⟩
      rw [hdc, hec, Option.map_some, Option.map_some, value_eq_of_decimal? hc hc']
  | both hl hc =>
    cases he with
    | both hl' hc' =>
      rw [Coordinate.text?_injective hl hl'] at hdl
      refine Or.inl ⟨hdl.trans hel.symm, ?_⟩
      rw [hdc, hec, Option.map_some, Option.map_some, value_eq_of_decimal? hc hc']

theorem SamePlace.place?_eq {d e : Diagnostic} (h : SamePlace d e) :
    d.place? none = e.place? none := by
  have hcolumn (column : Option Coordinate) :
      (column.mapM fun c => decimal? (c.value + 1)) =
        (column.map Coordinate.value).mapM fun n => decimal? (n + 1) := by
    cases column <;> rfl
  rw [place?, place?, h.line, hcolumn, hcolumn, h.column]

theorem LineReadsAsColumn.place?_eq {d e : Diagnostic} (h : LineReadsAsColumn d e) :
    d.place? none = e.place? none := by
  obtain ⟨n, hdl, hdc, hel, hec⟩ := h
  obtain ⟨c, hc, hvalue⟩ := Option.map_eq_some_iff.mp hec
  have hshown : c.value + 1 = n := by omega
  simp only [place?, hdl, hdc, hel, hc, Option.mapM_some, Option.mapM_none, Coordinate.text?,
    hshown]
  cases decimal? n <;> rfl

/-- Two diagnostics at nodes, with the same message and under the same unit, are shown alike if and
only if they have the same place or one has a line alone and the other a column alone that is shown
as the same number. -/
theorem shown_alike_iff (node other : Value) (message rule rule' : String) (unit : Option String)
    {s t : String} (hs : (ofNode node message rule).format? unit = some s)
    (ht : (ofNode other message rule').format? unit = some t) :
    s = t ↔ SamePlace (ofNode node message rule) (ofNode other message rule') ∨
      LineReadsAsColumn (ofNode node message rule) (ofNode other message rule') ∨
      LineReadsAsColumn (ofNode other message rule') (ofNode node message rule) := by
  rw [format?_eq] at hs ht
  obtain ⟨numbers, hnumbers, rfl⟩ := Option.map_eq_some_iff.mp hs
  obtain ⟨others, hothers, rfl⟩ := Option.map_eq_some_iff.mp ht
  have hshows := shows_of_place? hnumbers
  have hshows' := shows_of_place? hothers
  constructor
  · intro heq
    cases hshows.plain.eq_of_headed hshows'.plain heq
    exact place_of_shows hshows hshows'
  · intro hplace
    have hsame : (ofNode node message rule).place? none =
        (ofNode other message rule').place? none := by
      rcases hplace with hplace | hplace | hplace
      · exact hplace.place?_eq
      · exact hplace.place?_eq
      · exact hplace.place?_eq.symm
    rw [hnumbers, hothers] at hsame
    cases hsame
    rfl

def nodeStartingAt (start : List (String × Value)) : Value :=
  .object [("loc", .object [("start", .object start)])]

def lineFive : Diagnostic :=
  ofNode (nodeStartingAt [("line", .int 5)]) "wrong" PrefixLint.ruleId

def columnFour : Diagnostic :=
  ofNode (nodeStartingAt [("column", .int 4)]) "wrong" PrefixLint.ruleId

theorem format?_lineFive : lineFive.format? (some "a.json") = some "a.json:5: wrong" := by
  decide +kernel

theorem format?_columnFour : columnFour.format? (some "a.json") = some "a.json:5: wrong" := by
  decide +kernel

theorem not_samePlace_lineFive_columnFour : ¬ SamePlace lineFive columnFour := by
  intro h
  exact absurd h.line (by decide)

theorem shown_alike_iff_lineFive_columnFour :
    lineFive.format? (some "a.json") = columnFour.format? (some "a.json") ∧
      (LineReadsAsColumn lineFive columnFour ∨ LineReadsAsColumn columnFour lineFive) := by
  refine ⟨format?_lineFive.trans format?_columnFour.symm, ?_⟩
  have hplaces := (shown_alike_iff _ _ "wrong" _ _ (some "a.json") format?_lineFive
    format?_columnFour).mp rfl
  rcases hplaces with hsame | hread
  · exact absurd hsame not_samePlace_lineFive_columnFour
  · exact hread

theorem not_all_places_told_apart :
    ¬ ∀ (node other : Value) (message rule : String) (unit : Option String) (s : String),
      (ofNode node message rule).format? unit = some s →
      (ofNode other message rule).format? unit = some s →
      SamePlace (ofNode node message rule) (ofNode other message rule) := by
  intro hall
  exact not_samePlace_lineFive_columnFour
    (hall _ _ "wrong" _ (some "a.json") _ format?_lineFive format?_columnFour)

end Diagnostic

end PrefixLint
