import PrefixLint.Proofs.UnitDiscovery
import PrefixLint.Proofs.Verdict

/-!
# Every unit is accounted for

A run over units keeps, in the order of the units, the verdicts of those that load and the faults of
those that do not. Units are listed under the texts of their paths; these are all different, so no
unit takes the place of another.
-/

namespace PrefixLint

open Ast Disk Operation

def listing? (room : Nat) (disk : Disk) (convention : Option Convention) (p : Path) :
    Option (String × List Diagnostic) :=
  match loadTree room disk p with
  | .ok tree => (verdict convention tree).toOption.map (p.toString, ·)
  | .error _ => none

def inputFault? (room : Nat) (disk : Disk) (p : Path) : Option InputFault :=
  match loadTree room disk p with
  | .error (.input f) => some f
  | _ => none

/-- A unit lets a run go on if it is checked or cannot be loaded. -/
inductive Settles (room : Nat) (disk : Disk) (convention : Option Convention) (p : Path) :
    Prop where
  | checked {tree : Value} {found : List Diagnostic} (load : loadTree room disk p = .ok tree)
      (check : verdict convention tree = .ok found)
  | skipped {f : InputFault} (load : loadTree room disk p = .error (.input f))

structure Results.Accounts (room : Nat) (disk : Disk) (convention : Option Convention)
    (units : List Path) (r : Results) : Prop where
  listed : r.units = units.filterMap (listing? room disk convention)
  failed : r.errors = units.filterMap (inputFault? room disk)

theorem accounts_nil (room : Nat) (disk : Disk) (convention : Option Convention) :
    ({} : Results).Accounts room disk convention [] := ⟨rfl, rfl⟩

theorem record_fresh {r : Results} {unit : String} (h : unit ∉ r.units.map (·.1))
    (found : List Diagnostic) :
    r.record unit found = { r with units := r.units ++ [(unit, found)] } := by
  have hany : r.units.any (·.1 == unit) = false := by
    rw [List.any_eq_false]
    intro u hu heq
    exact h (List.mem_map.mpr ⟨u, hu, beq_iff_eq.mp heq⟩)
  rw [Results.record, hany]
  rfl

theorem filterMap_concat_some {α β : Type} {f : α → Option β} {a : α} {b : β} (h : f a = some b)
    (l : List α) : (l ++ [a]).filterMap f = l.filterMap f ++ [b] := by
  rw [List.filterMap_append, List.filterMap_cons_some h, List.filterMap_nil]

theorem filterMap_concat_none {α β : Type} {f : α → Option β} {a : α} (h : f a = none)
    (l : List α) : (l ++ [a]).filterMap f = l.filterMap f := by
  rw [List.filterMap_append, List.filterMap_cons_none h, List.filterMap_nil, List.append_nil]

section Run

variable {room : Nat} {disk : Disk} {convention : Option Convention}

theorem listing?_name {p : Path} {u : String × List Diagnostic}
    (h : listing? room disk convention p = some u) : u.1 = p.toString := by
  unfold listing? at h
  split at h
  · obtain ⟨found, -, rfl⟩ := Option.map_eq_some_iff.mp h
    rfl
  · cases h

theorem not_listed {units : List Path} {r : Results} (h : r.Accounts room disk convention units)
    {p : Path} (hp : p.toString ∉ units.map Path.toString) : p.toString ∉ r.units.map (·.1) := by
  intro hm
  rw [h.listed] at hm
  obtain ⟨u, hu, heq⟩ := List.mem_map.mp hm
  obtain ⟨q, hq, hqu⟩ := List.mem_filterMap.mp hu
  exact hp (List.mem_map.mpr ⟨q, hq, (listing?_name hqu).symm.trans heq⟩)

theorem lintUnit_accounts {units : List Path} {r : Results}
    (h : r.Accounts room disk convention units) {p : Path}
    (hnew : p.toString ∉ units.map Path.toString) (hp : Settles room disk convention p)
    (journal : Journal) :
    ∃ r' after, lintUnit room disk convention r p journal = .ok r' after ∧
      r'.Accounts room disk convention (units ++ [p]) := by
  cases hp with
  | @checked tree found hload hcheck =>
    obtain ⟨after, hl⟩ := lintTree_verdict convention p.toString tree journal
    rw [hcheck] at hl
    have hlist : listing? room disk convention p = some (p.toString, found) := by
      simp [listing?, hload, hcheck, Except.toOption]
    have hfault : inputFault? room disk p = none := by
      simp [inputFault?, hload]
    refine ⟨{ r with units := r.units ++ [(p.toString, found)] }, after, ?_, ?_, ?_⟩
    · simp only [lintUnit, hload, hl, record_fresh (not_listed h hnew)]
    · rw [filterMap_concat_some hlist, ← h.listed]
    · rw [filterMap_concat_none hfault, ← h.failed]
  | @skipped f hload =>
    have hlist : listing? room disk convention p = none := by
      simp [listing?, hload]
    have hfault : inputFault? room disk p = some f := by
      simp [inputFault?, hload]
    refine ⟨{ r with errors := r.errors ++ [f] }, _, by simp only [lintUnit, hload]; rfl, ?_, ?_⟩
    · rw [filterMap_concat_none hlist, ← h.listed]
    · rw [filterMap_concat_some hfault, ← h.failed]

theorem lintUnits_accounts {done rest : List Path} {r : Results}
    (h : r.Accounts room disk convention done) (hnodup : ((done ++ rest).map Path.toString).Nodup)
    (hrest : ∀ p ∈ rest, Settles room disk convention p) (journal : Journal) :
    ∃ r' after, lintUnits room disk convention r rest journal = .ok r' after ∧
      r'.Accounts room disk convention (done ++ rest) := by
  induction rest generalizing done r journal with
  | nil => exact ⟨r, journal, rfl, by rwa [List.append_nil]⟩
  | cons p rest ih =>
    have hnew : p.toString ∉ done.map Path.toString := by
      rw [List.map_append, List.map_cons, List.nodup_middle, List.nodup_cons] at hnodup
      exact fun hm => hnodup.1 (List.mem_append_left _ hm)
    obtain ⟨r₁, j₁, hunit, hr₁⟩ := lintUnit_accounts h hnew (hrest p List.mem_cons_self) journal
    have hsplit : done ++ p :: rest = done ++ [p] ++ rest := by simp
    rw [hsplit] at hnodup ⊢
    obtain ⟨r₂, j₂, hrun, hr₂⟩ :=
      ih hr₁ hnodup (fun q hq => hrest q (List.mem_cons_of_mem p hq)) j₁
    refine ⟨r₂, j₂, ?_, hr₂⟩
    simp only [lintUnits, bind, EStateM.bind, hunit, hrun]

theorem settles_of_lintUnit {r r' : Results} {p : Path} {journal after : Journal}
    (h : lintUnit room disk convention r p journal = .ok r' after) :
    Settles room disk convention p := by
  simp only [lintUnit] at h
  split at h
  · next f hload => exact .skipped hload
  · cases h
  · next tree hload =>
    split at h
    · next found j hl => exact .checked hload (lintTree_eq_ok_iff.mp ⟨j, hl⟩)
    · cases h

theorem settles_of_lintUnits {r r' : Results} {units : List Path} {journal after : Journal}
    (h : lintUnits room disk convention r units journal = .ok r' after) :
    ∀ p ∈ units, Settles room disk convention p := by
  induction units generalizing r journal with
  | nil => exact fun p hp => absurd hp List.not_mem_nil
  | cons p rest ih =>
    cases hu : lintUnit room disk convention r p journal with
    | error e j =>
      simp only [lintUnits, bind, EStateM.bind, hu] at h
      cases h
    | ok r₁ j =>
      simp only [lintUnits, bind, EStateM.bind, hu] at h
      intro q hq
      rcases List.mem_cons.mp hq with rfl | hq
      · exact settles_of_lintUnit hu
      · exact ih h q hq

theorem lintPaths_eq_ok {patterns : List String} {paths : List Path} {journal after : Journal}
    {results : Results} (hd : disk.legal = true) (hp : ∀ p ∈ paths, p.Legal)
    (h : lintPaths room disk convention patterns paths journal = .ok results after) :
    ∃ units, unitPaths disk patterns paths = .ok units ∧
      (∀ p ∈ units, Settles room disk convention p) ∧
      results.Accounts room disk convention units := by
  rw [lintPaths] at h
  cases hunits : unitPaths disk patterns paths with
  | error e =>
    rw [hunits] at h
    cases h
  | ok units =>
    rw [hunits] at h
    have hsettles := settles_of_lintUnits h
    obtain ⟨r, j, hrun, hr⟩ := lintUnits_accounts (accounts_nil room disk convention)
      (unitPaths_texts_nodup hd hp hunits) hsettles journal
    cases hrun.symm.trans h
    exact ⟨units, rfl, hsettles, hr⟩

def loads (room : Nat) (disk : Disk) (p : Path) : Bool := (loadTree room disk p).toBool

/-- A unit is listed under its name with the diagnostics that its check alone gives, whatever the
journal holds by then. -/
def CheckedAs (room : Nat) (disk : Disk) (convention : Option Convention) (p : Path)
    (u : String × List Diagnostic) : Prop :=
  u.1 = p.toString ∧ ∃ tree, loadTree room disk p = .ok tree ∧
    ∀ journal, ∃ after, lintTree convention p.toString tree journal = .ok u.2 after

def FailedAs (room : Nat) (disk : Disk) (p : Path) (f : InputFault) : Prop :=
  loadTree room disk p = .error (.input f)

theorem checked_in_order {units : List Path} (h : ∀ p ∈ units, Settles room disk convention p) :
    List.Forall₂ (CheckedAs room disk convention) (units.filter (loads room disk))
      (units.filterMap (listing? room disk convention)) := by
  induction units with
  | nil => exact .nil
  | cons p rest ih =>
    have hrest := ih fun q hq => h q (List.mem_cons_of_mem p hq)
    cases h p List.mem_cons_self with
    | @checked tree found hload hcheck =>
      have hp : loads room disk p = true := by simp [loads, hload, Except.toBool]
      have hlist : listing? room disk convention p = some (p.toString, found) := by
        simp [listing?, hload, hcheck, Except.toOption]
      rw [List.filter_cons_of_pos hp, List.filterMap_cons_some hlist]
      exact .cons ⟨rfl, tree, hload, fun journal => lintTree_eq_ok_iff.mpr hcheck⟩ hrest
    | skipped hload =>
      have hp : ¬ loads room disk p = true := by simp [loads, hload, Except.toBool]
      have hlist : listing? room disk convention p = none := by simp [listing?, hload]
      rw [List.filter_cons_of_neg hp, List.filterMap_cons_none hlist]
      exact hrest

theorem failed_in_order {units : List Path} (h : ∀ p ∈ units, Settles room disk convention p) :
    List.Forall₂ (FailedAs room disk) (units.filter fun p => !loads room disk p)
      (units.filterMap (inputFault? room disk)) := by
  induction units with
  | nil => exact .nil
  | cons p rest ih =>
    have hrest := ih fun q hq => h q (List.mem_cons_of_mem p hq)
    cases h p List.mem_cons_self with
    | checked hload hcheck =>
      have hp : ¬ (!loads room disk p) = true := by simp [loads, hload, Except.toBool]
      have hfault : inputFault? room disk p = none := by simp [inputFault?, hload]
      rw [List.filter_cons, if_neg hp, List.filterMap_cons_none hfault]
      exact hrest
    | @skipped f hload =>
      have hp : (!loads room disk p) = true := by simp [loads, hload, Except.toBool]
      have hfault : inputFault? room disk p = some f := by simp [inputFault?, hload]
      rw [List.filter_cons, if_pos hp, List.filterMap_cons_some hfault]
      exact .cons hload hrest

end Run

theorem names_of_checked {room : Nat} {disk : Disk} {convention : Option Convention}
    {units : List Path} {listed : List (String × List Diagnostic)}
    (h : List.Forall₂ (CheckedAs room disk convention) units listed) :
    listed.map (·.1) = units.map Path.toString := by
  induction h with
  | nil => rfl
  | cons hu _ ih => rw [List.map_cons, List.map_cons, hu.1, ih]

theorem settles_of_only_input_faults {room : Nat} {disk : Disk} {convention : Option Convention}
    {p : Path}
    (hload : ∀ e, loadTree room disk p = .error e → ∃ f, e = .input f)
    (hlint : ∀ tree, loadTree room disk p = .ok tree →
      ∃ found after, lintTree convention p.toString tree {} = .ok found after) :
    Settles room disk convention p := by
  cases h : loadTree room disk p with
  | error e =>
    obtain ⟨f, rfl⟩ := hload e h
    exact .skipped h
  | ok tree =>
    obtain ⟨found, after, hl⟩ := hlint tree h
    exact .checked h (lintTree_eq_ok_iff.mp ⟨after, hl⟩)

/-- When nothing but input faults stands in the way, a run over paths accounts for every unit once:
the units that load are listed in order under the texts of their paths, each with what its check
alone gives, and the faults of the others are kept in order. -/
theorem lintPaths_accounts_for_units (room : Nat) {disk : Disk} (hd : disk.legal = true)
    (convention : Option Convention) (patterns arguments : List String) (journal : Journal)
    {units : List Path}
    (hunits : unitPaths disk patterns (arguments.map Path.ofString) = .ok units)
    (hload : ∀ p ∈ units, ∀ e, loadTree room disk p = .error e → ∃ f, e = .input f)
    (hlint : ∀ p ∈ units, ∀ tree, loadTree room disk p = .ok tree →
      ∃ found after, lintTree convention p.toString tree {} = .ok found after) :
    ∃ results after,
      lintPaths room disk convention patterns (arguments.map Path.ofString) journal =
        .ok results after ∧
      results.units.map (·.1) = (units.filter (loads room disk)).map Path.toString ∧
      List.Forall₂ (CheckedAs room disk convention) (units.filter (loads room disk)) results.units ∧
      List.Forall₂ (FailedAs room disk) (units.filter fun p => !loads room disk p) results.errors ∧
      results.units.length + results.errors.length = units.length ∧
      (units.map Path.toString).Nodup := by
  have hlegal : ∀ p ∈ arguments.map Path.ofString, p.Legal := by
    intro p hp
    obtain ⟨argument, -, rfl⟩ := List.mem_map.mp hp
    exact Path.ofString_legal argument
  have hnodup := unitPaths_texts_nodup hd hlegal hunits
  have hsettles : ∀ p ∈ units, Settles room disk convention p := fun p hp =>
    settles_of_only_input_faults (hload p hp) (hlint p hp)
  obtain ⟨results, after, hrun, haccounts⟩ := lintUnits_accounts (accounts_nil room disk convention)
    hnodup hsettles journal
  have hchecked := checked_in_order hsettles
  have hfailed := failed_in_order hsettles
  rw [List.nil_append] at haccounts
  rw [← haccounts.listed] at hchecked
  rw [← haccounts.failed] at hfailed
  refine ⟨results, after, ?_, names_of_checked hchecked, hchecked, hfailed, ?_, hnodup⟩
  · rw [lintPaths, hunits]
    exact hrun
  · rw [← hchecked.length_eq, ← hfailed.length_eq]
    exact (List.length_eq_length_filter_add (loads room disk)).symm

def asciiBytes (text : String) : List UInt8 := text.toList.map fun c => c.toNat.toUInt8

def cardText : String :=
  "\x7b\"type\":\"Program\",\"body\":\x7b\"type\":\"JSXElement\",\"openingElement\":" ++
    "\x7b\"attributes\":[\x7b\"name\":\x7b\"name\":\"className\"\x7d\x7d]\x7d\x7d\x7d"

def cardTree : Value :=
  .object [("type", .text "Program"), ("body", .object [("type", .text "JSXElement"),
    ("openingElement", .object [("attributes", .list [
      .object [("name", .object [("name", .text "className")])]])])])]

def cardDisk : Disk where
  top := .directory [("src", .directory [
    ("bad.json", .file (asciiBytes "[]")), ("card.json", .file (asciiBytes cardText))])]
  working := []

def badPath : Path := ⟨.relative, ["src", "bad.json"]⟩

def cardPath : Path := ⟨.relative, ["src", "card.json"]⟩

theorem loadTree_cardPath (room : Nat) (h : 6 ≤ room) :
    loadTree room cardDisk cardPath = .ok cardTree := by
  obtain ⟨more, rfl⟩ := Nat.exists_eq_add_of_le' h
  have htext : cardDisk.readText cardPath = .ok cardText.toList := by decide +kernel
  have hparse : Json.parse (more + 6) cardText.toList = .ok cardTree := by cbv
  have hroot : (cardTree.nodeType?.map rootTypes.contains).getD false = true := by decide
  simp only [loadTree, htext, treeOf, hparse, hroot, if_true]

theorem loadTree_badPath (room : Nat) (h : 1 ≤ room) :
    loadTree room cardDisk badPath = .error (.input ⟨badPath, .notProgram⟩) := by
  obtain ⟨more, rfl⟩ := Nat.exists_eq_add_of_le' h
  have htext : cardDisk.readText badPath = .ok ['[', ']'] := by decide +kernel
  have hparse : Json.parse (more + 1) ['[', ']'] = .ok (.list []) := by cbv
  have hroot : ((Value.list []).nodeType?.map rootTypes.contains).getD false = false := by decide
  simp only [loadTree, htext, treeOf, hparse, hroot, Bool.false_eq_true, if_false]

theorem lintPaths_accounts_for_units_cardDisk :
    let paths := ["src/bad.json", "./src//card.json", "src/card.json"].map Path.ofString
    cardDisk.legal = true ∧ unitPaths cardDisk [] paths = .ok [badPath, cardPath] ∧
    ∃ results after, lintPaths unitRoom cardDisk none [] paths {} = .ok results after ∧
      results.units.map (·.1) = ["src/card.json"] ∧
      results.units.length + results.errors.length = 2 := by
  have hd : cardDisk.legal = true := by decide +kernel
  have hunits : unitPaths cardDisk []
      (["src/bad.json", "./src//card.json", "src/card.json"].map Path.ofString) =
        .ok [badPath, cardPath] := by decide +kernel
  have hbad := loadTree_badPath unitRoom (by decide)
  have hcard := loadTree_cardPath unitRoom (by decide)
  have hload : ∀ p ∈ [badPath, cardPath], ∀ e, loadTree unitRoom cardDisk p = .error e →
      ∃ f, e = .input f := by
    intro p hp e he
    rcases List.mem_pair.mp hp with rfl | rfl
    · exact ⟨_, Except.error.inj (he.symm.trans hbad)⟩
    · cases hcard.symm.trans he
  have hlint : ∀ p ∈ [badPath, cardPath], ∀ tree, loadTree unitRoom cardDisk p = .ok tree →
      ∃ found after, lintTree none p.toString tree {} = .ok found after := by
    intro p hp tree htree
    rcases List.mem_pair.mp hp with rfl | rfl
    · cases hbad.symm.trans htree
    · cases hcard.symm.trans htree
      have hok : (verdict none cardTree).toBool = true := by decide +kernel
      cases hv : verdict none cardTree with
      | ok found => exact ⟨found, lintTree_eq_ok_iff.mpr hv⟩
      | error f =>
        rw [hv] at hok
        cases hok
  obtain ⟨results, after, hrun, hnames, -, -, hcount, -⟩ :=
    lintPaths_accounts_for_units unitRoom hd none [] _ {} hunits hload hlint
  have hloaded : [badPath, cardPath].filter (loads unitRoom cardDisk) = [cardPath] := by
    simp [loads, hbad, hcard, Except.toBool]
  rw [hloaded] at hnames
  exact ⟨hd, hunits, results, after, hrun, hnames, hcount⟩

end PrefixLint
