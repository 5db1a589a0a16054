import PrefixLint.Command.Run
import PrefixLint.Proofs.UnitAccount

/-!
# What a command reports

A command that comes to its end has one of four exit codes. It ends with the code of usage and one
line when its policy or its options are at fault, before any path is looked at. Otherwise a unit that
failed to load outranks every violation, and a violation outranks success; the report is the same in
either case and holds a line for every diagnostic and for every unit that failed. Failures that are
not the program's own end it without a code.
-/

namespace PrefixLint

open Ast Disk

section Unreported

variable {room : Nat} {disk : Disk} {convention : Option Convention} {e : Failure}

theorem filesMatching_code? {directory : Path} {pattern : String}
    (h : filesMatching disk directory pattern = .error e) : e.code? = none := by
  rcases bind_eq_error.mp h with h | ⟨selected, -, h⟩
  · obtain ⟨f, -, rfl⟩ := mapError_eq_error.mp h
    rfl
  · obtain ⟨u, -, rfl⟩ := mapError_eq_error.mp h
    rfl

theorem unitsAt_code? {patterns : List String} {path : Path}
    (h : unitsAt disk patterns path = .error e) : e.code? = none := by
  rcases bind_eq_error.mp h with h | ⟨isDirectory, -, h⟩
  · obtain ⟨u, -, rfl⟩ := mapError_eq_error.mp h
    rfl
  · cases isDirectory with
    | false => cases h
    | true =>
      obtain ⟨pattern, -, hpattern⟩ := exists_of_flatMapM_eq_error (map_eq_error.mp h)
      exact filesMatching_code? hpattern

theorem unitPaths_code? {patterns : List String} {paths : List Path}
    (h : unitPaths disk patterns paths = .error e) : e.code? = none := by
  obtain ⟨path, -, hpath⟩ := exists_of_flatMapM_eq_error (map_eq_error.mp h)
  exact unitsAt_code? hpath

theorem loadTree_code? {p : Path} (h : loadTree room disk p = .error e)
    (hinput : ∀ f, e ≠ .input f) : e.code? = none := by
  unfold loadTree at h
  split at h
  · cases h
    exact absurd rfl (hinput _)
  · cases h
    exact absurd rfl (hinput _)
  · cases h
    rfl
  · unfold treeOf at h
    split at h
    · cases h
      exact absurd rfl (hinput _)
    · cases h
      exact absurd rfl (hinput _)
    · cases h
      rfl
    · split at h
      · cases h
      · cases h
        exact absurd rfl (hinput _)

theorem lintUnit_code? {r : Results} {p : Path} {journal after : Journal}
    (h : lintUnit room disk convention r p journal = .error e after) : e.code? = none := by
  simp only [lintUnit] at h
  split at h
  · cases h
  · next e' hinput hload =>
    cases h
    exact loadTree_code? hload hinput
  · split at h
    · cases h
    · cases h
      rfl

theorem lintUnits_code? {r : Results} {units : List Path} {journal after : Journal}
    (h : lintUnits room disk convention r units journal = .error e after) : e.code? = none := by
  induction units generalizing r journal with
  | nil => cases h
  | cons p rest ih =>
    cases hu : lintUnit room disk convention r p journal with
    | error e' j =>
      simp only [lintUnits, bind, EStateM.bind, hu] at h
      cases h
      exact lintUnit_code? hu
    | ok r₁ j =>
      simp only [lintUnits, bind, EStateM.bind, hu] at h
      exact ih h

theorem lintPaths_code? {patterns : List String} {paths : List Path} {journal after : Journal}
    (h : lintPaths room disk convention patterns paths journal = .error e after) :
    e.code? = none := by
  rw [lintPaths] at h
  cases hu : unitPaths disk patterns paths with
  | error e' =>
    rw [hu] at h
    cases h
    exact unitPaths_code? hu
  | ok units =>
    rw [hu] at h
    exact lintUnits_code? h

end Unreported

namespace Command

theorem violationLine_code? {unit : String} {d : Diagnostic} {e : Failure}
    (h : violationLine unit d = .error e) : e.code? = none := by
  unfold violationLine at h
  split at h
  · cases h
  · cases h
    rfl

theorem conclude_code? {r : Results} {e : Failure} (h : conclude r = .error e) :
    e.code? = none := by
  obtain ⟨u, -, hu⟩ := exists_of_flatMapM_eq_error (map_eq_error.mp h)
  obtain ⟨d, -, hd⟩ := exists_of_mapM_eq_error hu
  exact violationLine_code? hd

/-- What a command settles before it looks for units: the patterns and the convention. -/
def preparation (settings : Settings) (disk : Disk) (arguments : Arguments) :
    Except Failure (List String × Option Convention) := do
  let policy ← policyOf settings disk arguments
  let prefixType ←
    (Options.prefixTypeOf (ruleTable policy arguments.prefixType)).mapError Failure.options
  return (policy.patterns, Convention.ofName? prefixType)

theorem options_eq (s : Session) (table : List (String × Setting)) :
    s.options table =
      match Options.prefixTypeOf table with
      | .error f => .error f
      | .ok prefixType =>
        .ok (⟨prefixType, Convention.ofName? prefixType⟩, (s.convention prefixType).2) := by
  unfold Session.options
  cases Options.prefixTypeOf table with
  | error f => rfl
  | ok prefixType =>
    simp only [Session.convention]
    cases Convention.ofName? prefixType <;> rfl

theorem check_of_unprepared {settings : Settings} {disk : Disk} {arguments : Arguments} {e : Failure}
    (h : preparation settings disk arguments = .error e) (s : Session) :
    check settings disk arguments s = .error e s := by
  rcases bind_eq_error.mp h with h | ⟨policy, hpolicy, h⟩
  · simp only [check, h]
  · rcases bind_eq_error.mp h with h | ⟨prefixType, -, h⟩
    · obtain ⟨f, hf, rfl⟩ := mapError_eq_error.mp h
      simp only [check, hpolicy, options_eq, hf]
    · cases h

theorem check_of_prepared {settings : Settings} {disk : Disk} {arguments : Arguments}
    {patterns : List String} {convention : Option Convention}
    (h : preparation settings disk arguments = .ok (patterns, convention)) (s : Session) :
    ∃ (told : Session) (journal : Journal), check settings disk arguments s =
      match lintPaths treeRoom disk convention patterns (arguments.paths.map Path.ofString)
        journal with
      | .error e journal => .error e { told with journal }
      | .ok results journal =>
        match conclude results with
        | .error e => .error e { told with journal }
        | .ok report => .ok report { told with journal } := by
  obtain ⟨policy, hpolicy, h⟩ := bind_eq_ok.mp h
  obtain ⟨prefixType, hprefix, h⟩ := bind_eq_ok.mp h
  cases h
  have ho := options_eq s (ruleTable policy arguments.prefixType)
  rw [mapError_eq_ok.mp hprefix] at ho
  let message := s!"checking with prefixType={prefixType}"
  let journal := (s.convention prefixType).2.journal.write .info .command message
  refine ⟨(s.convention prefixType).2, journal, ?_⟩
  simp only [check, hpolicy, ho]
  rfl

theorem read_error {room : Nat} {disk : Disk} {path : Path} {e : Failure}
    (h : Policy.read room disk path = .error e) : (∃ f, e = .policy f) ∨ e.code? = none := by
  unfold Policy.read at h
  split at h
  · cases h
    exact Or.inl ⟨_, rfl⟩
  · cases h
    exact Or.inr rfl
  · cases h
    exact Or.inr rfl
  · split at h
    · cases h
      exact Or.inl ⟨_, rfl⟩
    · cases h
      exact Or.inr rfl
    · cases h
      exact Or.inr rfl
    · split at h
      · cases h
        exact Or.inl ⟨_, rfl⟩
      · cases h

theorem policyOf_error {settings : Settings} {disk : Disk} {arguments : Arguments} {e : Failure}
    (h : policyOf settings disk arguments = .error e) : (∃ f, e = .policy f) ∨ e.code? = none := by
  rcases bind_eq_error.mp h with h | ⟨path, -, h⟩
  · unfold policyPath at h
    split at h
    · cases h
    · obtain ⟨u, -, rfl⟩ := mapError_eq_error.mp h
      exact Or.inr rfl
  · cases path with
    | none => cases h
    | some path => exact read_error h

theorem preparation_error {settings : Settings} {disk : Disk} {arguments : Arguments} {e : Failure}
    (h : preparation settings disk arguments = .error e) :
    (∃ f, e = .policy f) ∨ (∃ f, e = .options f) ∨ e.code? = none := by
  rcases bind_eq_error.mp h with h | ⟨policy, -, h⟩
  · rcases policyOf_error h with h | h
    · exact Or.inl h
    · exact Or.inr (Or.inr h)
  · rcases bind_eq_error.mp h with h | ⟨prefixType, -, h⟩
    · obtain ⟨f, -, rfl⟩ := mapError_eq_error.mp h
      exact Or.inr (Or.inl ⟨f, rfl⟩)
    · cases h

def diagnosticsOf (disk : Disk) (convention : Option Convention) (p : Path) : List Diagnostic :=
  match loadTree treeRoom disk p with
  | .error _ => []
  | .ok tree =>
    match lintTree convention p.toString tree {} with
    | .error _ _ => []
    | .ok found _ => found

def findings (disk : Disk) (convention : Option Convention) (units : List Path) :
    List (Path × Diagnostic) :=
  units.flatMap fun p => (diagnosticsOf disk convention p).map (p, ·)

def ShownAs (x : Path × Diagnostic) (line : String) : Prop :=
  ∃ text, x.2.format? (some x.1.toString) = some text ∧ line = "  " ++ text

section Findings

variable {disk : Disk} {convention : Option Convention}

theorem listing?_of_loads {p : Path} (hp : Settles treeRoom disk convention p)
    (h : loads treeRoom disk p = true) :
    listing? treeRoom disk convention p = some (p.toString, diagnosticsOf disk convention p) := by
  cases hp with
  | @checked tree found hload hcheck =>
    obtain ⟨after, hl⟩ : ∃ after, lintTree convention p.toString tree {} = .ok found after :=
      lintTree_eq_ok_iff.mpr hcheck
    simp [listing?, diagnosticsOf, hload, hcheck, hl, Except.toOption]
  | skipped hload => simp [loads, hload, Except.toBool] at h

theorem diagnosticsOf_of_not_loads (convention : Option Convention) {p : Path}
    (h : loads treeRoom disk p = false) :
    listing? treeRoom disk convention p = none ∧ diagnosticsOf disk convention p = [] := by
  unfold loads at h
  cases hload : loadTree treeRoom disk p with
  | error e => simp [listing?, diagnosticsOf, hload]
  | ok tree =>
    rw [hload] at h
    cases h

theorem flatMap_listings {units : List Path} (h : ∀ p ∈ units, Settles treeRoom disk convention p) :
    ((units.filterMap (listing? treeRoom disk convention)).flatMap fun u => u.2.map (u.1, ·)) =
      (findings disk convention units).map fun x => (x.1.toString, x.2) := by
  induction units with
  | nil => rfl
  | cons p rest ih =>
    have hrest := ih fun q hq => h q (List.mem_cons_of_mem p hq)
    rw [findings, List.flatMap_cons, List.map_append, List.map_map, ← findings, ← hrest]
    cases hp : loads treeRoom disk p with
    | true =>
      rw [List.filterMap_cons_some (listing?_of_loads (h p List.mem_cons_self) hp),
        List.flatMap_cons]
      rfl
    | false =>
      obtain ⟨hlist, hnone⟩ := diagnosticsOf_of_not_loads convention hp
      rw [List.filterMap_cons_none hlist, hnone]
      rfl

theorem findings_eq_nil {units : List Path} :
    findings disk convention units = [] ↔ ∀ p ∈ units, diagnosticsOf disk convention p = [] := by
  simp [findings, List.flatMap_eq_nil_iff]

end Findings

theorem violationLine_eq_ok {unit line : String} {d : Diagnostic}
    (h : violationLine unit d = .ok line) :
    ∃ text, d.format? (some unit) = some text ∧ line = "  " ++ text := by
  unfold violationLine at h
  split at h
  · next text htext =>
    cases h
    exact ⟨text, htext, rfl⟩
  · cases h

theorem flatMapM_violationLine {listed : List (String × List Diagnostic)} {out : List String}
    (h : listed.flatMapM (fun u => u.2.mapM (violationLine u.1)) = .ok out) :
    List.Forall₂ (fun x line => violationLine x.1 x.2 = .ok line)
      (listed.flatMap fun u => u.2.map (u.1, ·)) out := by
  induction listed generalizing out with
  | nil =>
    cases h
    exact .nil
  | cons u rest ih =>
    obtain ⟨lines, later, hlines, hlater, rfl⟩ := flatMapM_cons_eq_ok h
    rw [List.flatMap_cons]
    exact List.rel_append (List.forall₂_map_left_iff.mpr (mapM_eq_ok hlines)) (ih hlater)

theorem conclude_eq_ok {r : Results} {lines : List String} {code : Nat}
    (h : conclude r = .ok (lines, code)) :
    ∃ violations, violationLines r = .ok violations ∧
      lines = (if violations = [] then [] else ["Class name prefix violations:"]) ++ violations ++
        r.errors.map (fun f => "[classname-prefix] " ++ f.message) ∧
      code = if r.errors = [] then if violations = [] then 0 else 1 else 3 := by
  obtain ⟨violations, hv, h⟩ := map_eq_ok.mp h
  refine ⟨violations, hv, ?_⟩
  cases violations with
  | nil =>
    cases h
    refine ⟨rfl, ?_⟩
    cases r.errors <;> rfl
  | cons first rest =>
    cases h
    refine ⟨rfl, ?_⟩
    cases r.errors <;> rfl

structure Reports (disk : Disk) (convention : Option Convention) (units : List Path)
    (lines : List String) (code : Nat) : Prop where
  lines : ∃ violations faults,
    List.Forall₂ ShownAs (findings disk convention units) violations ∧
    List.Forall₂ (FailedAs treeRoom disk) (units.filter fun p => !loads treeRoom disk p) faults ∧
    lines = (if findings disk convention units = [] then [] else ["Class name prefix violations:"]) ++
      violations ++ faults.map (fun f => "[classname-prefix] " ++ f.message)
  failed : code = 3 ↔ ∃ p ∈ units, loads treeRoom disk p = false
  violated : code = 1 ↔ (∀ p ∈ units, loads treeRoom disk p = true) ∧
    ∃ p ∈ units, diagnosticsOf disk convention p ≠ []
  clean : code = 0 ↔ (∀ p ∈ units, loads treeRoom disk p = true) ∧
    ∀ p ∈ units, diagnosticsOf disk convention p = []

theorem rank_of_codes (p q : Prop) [Decidable p] [Decidable q] :
    let code := if p then if q then 0 else 1 else 3
    (code = 3 ↔ ¬ p) ∧ (code = 1 ↔ p ∧ ¬ q) ∧ (code = 0 ↔ p ∧ q) := by
  by_cases hp : p <;> by_cases hq : q <;> simp [hp, hq]

theorem accounts_reports {disk : Disk} {convention : Option Convention} {units : List Path}
    {results : Results} (hsettles : ∀ p ∈ units, Settles treeRoom disk convention p)
    (haccounts : results.Accounts treeRoom disk convention units) {lines : List String} {code : Nat}
    (h : conclude results = .ok (lines, code)) : Reports disk convention units lines code := by
  obtain ⟨violations, hv, hlines, hcode⟩ := conclude_eq_ok h
  have hshown : List.Forall₂ ShownAs (findings disk convention units) violations := by
    have hf := flatMapM_violationLine hv
    rw [haccounts.listed, flatMap_listings hsettles, List.forall₂_map_left_iff] at hf
    exact hf.imp fun x line hx => violationLine_eq_ok hx
  have hfailed := failed_in_order hsettles
  rw [← haccounts.failed] at hfailed
  have hviolations : violations = [] ↔ findings disk convention units = [] := by
    rw [← List.length_eq_zero_iff, ← hshown.length_eq, List.length_eq_zero_iff]
  have herrors : results.errors = [] ↔ ∀ p ∈ units, loads treeRoom disk p = true := by
    rw [← List.length_eq_zero_iff, ← hfailed.length_eq, List.length_eq_zero_iff,
      List.filter_eq_nil_iff]
    simp
  have hsome : (∃ p ∈ units, loads treeRoom disk p = false) ↔
      ¬ ∀ p ∈ units, loads treeRoom disk p = true := by
    simp
  have hfound : (∃ p ∈ units, diagnosticsOf disk convention p ≠ []) ↔
      ¬ ∀ p ∈ units, diagnosticsOf disk convention p = [] := by
    simp
  rw [findings_eq_nil] at hviolations
  obtain ⟨hthree, hone, hzero⟩ := rank_of_codes (results.errors = []) (violations = [])
  rw [← hcode, herrors] at hthree
  rw [← hcode, herrors, hviolations] at hone hzero
  refine ⟨⟨violations, results.errors, hshown, hfailed, ?_⟩, hthree.trans hsome.symm, ?_, hzero⟩
  · rw [hlines]
    simp only [hviolations, findings_eq_nil]
  · rw [hfound]
    exact hone

/-- A command ended by a fault of its policy or its options, before any path was looked at. -/
structure Refuses (settings : Settings) (disk : Disk) (arguments : Arguments) (e : Failure)
    (outcome : Outcome) (code : Nat) : Prop where
  fault : (∃ f, e = .policy f) ∨ ∃ f, e = .options f
  code : code = 2
  lines : outcome.lines = ["[classname-prefix] " ++ e.message]
  unlogged : outcome.records = #[]
  unlinted : ∀ paths s, check settings disk { arguments with paths } s = .error e s

theorem startJournal_records {settings : Settings} {arguments : Arguments} {s s' : Session}
    (h : startJournal settings arguments s = .ok s') : s'.journal.records = #[] := by
  simp only [startJournal] at h
  split at h
  · cases h
    rfl
  · cases h

theorem run_of_returns {settings : Settings} {disk : Disk} {argv : List String}
    {arguments : Arguments} {s : Session} {code : Nat}
    (hargs : parseArguments argv = .check arguments)
    (h : (run settings disk argv s).1.exit = .ok code) :
    ∃ started, started.journal.records = #[] ∧
      run settings disk argv s = outcomeOf (check settings disk arguments started) := by
  unfold run at h ⊢
  rw [hargs] at h ⊢
  dsimp only at h ⊢
  cases hstart : startJournal settings arguments s with
  | error e =>
    rw [hstart] at h
    cases h
  | ok started => exact ⟨started, startJournal_records hstart, rfl⟩

theorem outcomeOf_of_error {e : Failure} {s : Session} {code : Nat}
    (h : (outcomeOf (.error e s)).1.exit = .ok code) :
    e.code?.isSome = true ∧ code = e.exitCode ∧
      outcomeOf (.error e s) =
        ({ exit := .ok code, records := s.journal.records,
           lines := ["[classname-prefix] " ++ e.message] }, s) := by
  simp only [outcomeOf] at h ⊢
  split at h
  · next hcode =>
    cases h
    rw [if_pos hcode]
    exact ⟨hcode, rfl, rfl⟩
  · cases h

theorem outcomeOf_output (result : EStateM.Result Failure Session (List String × Nat)) :
    (outcomeOf result).1.output = [] := by
  cases result with
  | ok report s => rfl
  | error e s =>
    simp only [outcomeOf]
    split <;> rfl

section Ended

variable {settings : Settings} {disk : Disk} {arguments : Arguments} {started : Session} {code : Nat}
  (hreturn : (outcomeOf (check settings disk arguments started)).1.exit = .ok code)

include hreturn

theorem refuses_of_unprepared {e : Failure} (hrecords : started.journal.records = #[])
    (h : preparation settings disk arguments = .error e) :
    Refuses settings disk arguments e (outcomeOf (check settings disk arguments started)).1 code := by
  rw [check_of_unprepared h] at hreturn ⊢
  obtain ⟨hcode, rfl, houtcome⟩ := outcomeOf_of_error hreturn
  rw [houtcome]
  have hfault : (∃ f, e = .policy f) ∨ ∃ f, e = .options f := by
    rcases preparation_error h with hf | hf | hf
    · exact Or.inl hf
    · exact Or.inr hf
    · rw [hf] at hcode
      cases hcode
  have hpaths : ∀ paths, preparation settings disk { arguments with paths } = .error e :=
    fun _ => h
  refine ⟨hfault, ?_, rfl, hrecords, fun paths s => check_of_unprepared (hpaths paths) s⟩
  rcases hfault with ⟨f, rfl⟩ | ⟨f, rfl⟩
  · rfl
  · rfl

theorem reports_of_prepared (hd : disk.legal = true) {patterns : List String}
    {convention : Option Convention}
    (h : preparation settings disk arguments = .ok (patterns, convention)) :
    ∃ units, unitPaths disk patterns (arguments.paths.map Path.ofString) = .ok units ∧
      Reports disk convention units (outcomeOf (check settings disk arguments started)).1.lines
        code := by
  have hlegal : ∀ p ∈ arguments.paths.map Path.ofString, p.Legal := by
    intro p hp
    obtain ⟨argument, -, rfl⟩ := List.mem_map.mp hp
    exact Path.ofString_legal argument
  have hsome : ∀ {e s}, check settings disk arguments started = .error e s → e.code? ≠ none := by
    intro e s hcheck hnone
    rw [hcheck] at hreturn
    have hcode := (outcomeOf_of_error hreturn).1
    rw [hnone] at hcode
    cases hcode
  obtain ⟨told, journal, hcheck⟩ := check_of_prepared h started
  cases hlint : lintPaths treeRoom disk convention patterns (arguments.paths.map Path.ofString)
      journal with
  | error e after =>
    simp only [hlint] at hcheck
    exact absurd (lintPaths_code? hlint) (hsome hcheck)
  | ok results after =>
    cases hconclude : conclude results with
    | error e =>
      simp only [hlint, hconclude] at hcheck
      exact absurd (conclude_code? hconclude) (hsome hcheck)
    | ok report =>
      obtain ⟨lines, code'⟩ := report
      simp only [hlint, hconclude] at hcheck
      rw [hcheck] at hreturn ⊢
      cases hreturn
      obtain ⟨units, hunits, hsettles, haccounts⟩ := lintPaths_eq_ok hd hlegal hlint
      exact ⟨units, hunits, accounts_reports hsettles haccounts hconclude⟩

end Ended

/-- A command that comes to its end is refused for its policy or its options, or reports on all its
units, with the exit code that the worst of them asks for. -/
theorem run_reports (settings : Settings) {disk : Disk} (hd : disk.legal = true) (s : Session)
    {argv : List String} {arguments : Arguments} (hargs : parseArguments argv = .check arguments)
    {code : Nat} (hreturn : (run settings disk argv s).1.exit = .ok code) :
    let outcome := (run settings disk argv s).1
    outcome.output = [] ∧
    (∀ e, preparation settings disk arguments = .error e →
      Refuses settings disk arguments e outcome code) ∧
    ∀ patterns convention, preparation settings disk arguments = .ok (patterns, convention) →
      ∃ units, unitPaths disk patterns (arguments.paths.map Path.ofString) = .ok units ∧
        Reports disk convention units outcome.lines code := by
  obtain ⟨started, hrecords, hrun⟩ := run_of_returns hargs hreturn
  rw [hrun] at hreturn ⊢
  exact ⟨outcomeOf_output _, fun e h => refuses_of_unprepared hreturn hrecords h,
    fun patterns convention h => reports_of_prepared hreturn hd h⟩

def cardCommand : List String := ["src/bad.json", "src/card.json"]

def cardLine : String :=
  "  src/card.json: Cannot find class prefix (no default export and no class definition)"

theorem verdict_cardTree : ∃ found, verdict (some .dash) cardTree = .ok found ∧
    found.mapM (violationLine "src/card.json") = .ok [cardLine] := by
  have h : ((verdict (some .dash) cardTree).map fun found =>
      found.mapM (violationLine "src/card.json")) = .ok (.ok [cardLine]) := by decide +kernel
  exact map_eq_ok.mp h

theorem lintPaths_cardCommand (journal : Journal) : ∃ results after,
    lintPaths treeRoom cardDisk (some .dash) ["**/*.json"] (cardCommand.map Path.ofString) journal =
      .ok results after ∧
    conclude results = .ok (["Class name prefix violations:", cardLine,
      "[classname-prefix] src/bad.json: root is not an ESTree Program"], 3) := by
  have hunits : unitPaths cardDisk ["**/*.json"] (cardCommand.map Path.ofString) =
      .ok [badPath, cardPath] := by decide +kernel
  have hnodup : ([badPath, cardPath].map Path.toString).Nodup := by decide +kernel
  obtain ⟨found, hverdict, hlines⟩ := verdict_cardTree
  have hbad := loadTree_badPath treeRoom (by decide)
  have hcard := loadTree_cardPath treeRoom (by decide)
  have hsettles : ∀ p ∈ [badPath, cardPath], Settles treeRoom cardDisk (some .dash) p := by
    intro p hp
    rcases List.mem_pair.mp hp with rfl | rfl
    · exact .skipped hbad
    · exact .checked hcard hverdict
  obtain ⟨results, after, hrun, haccounts⟩ :=
    lintUnits_accounts (accounts_nil treeRoom cardDisk (some .dash)) hnodup hsettles journal
  have hname : cardPath.toString = "src/card.json" := by decide +kernel
  have hlisted : results.units = [("src/card.json", found)] := by
    rw [haccounts.listed]
    simp [listing?, hbad, hcard, hverdict, hname, Except.toOption]
  have hfailed : results.errors = [⟨badPath, .notProgram⟩] := by
    rw [haccounts.failed]
    simp [inputFault?, hbad, hcard]
  refine ⟨results, after, ?_, ?_⟩
  · rw [lintPaths, hunits]
    exact hrun
  · rw [conclude, violationLines, hlisted, hfailed, flatMapM_cons_eq]
    simp only [hlines]
    decide +kernel

theorem run_reports_cardCommand :
    cardDisk.legal = true ∧ parseArguments cardCommand = .check { paths := cardCommand } ∧
    preparation {} cardDisk { paths := cardCommand } = .ok (["**/*.json"], some .dash) ∧
    (run {} cardDisk cardCommand {}).1.exit = .ok 3 ∧
    ∃ units, unitPaths cardDisk ["**/*.json"] (cardCommand.map Path.ofString) = .ok units ∧
      Reports cardDisk (some .dash) units (run {} cardDisk cardCommand {}).1.lines 3 := by
  have hd : cardDisk.legal = true := by decide +kernel
  have hargs : parseArguments cardCommand = .check { paths := cardCommand } := by decide +kernel
  have hstart : startJournal {} { paths := cardCommand } {} = .ok {} := by decide +kernel
  have hprep : preparation {} cardDisk { paths := cardCommand } =
      .ok (["**/*.json"], some .dash) := by decide +kernel
  obtain ⟨told, journal, hcheck⟩ := check_of_prepared hprep {}
  obtain ⟨results, after, hlint, hconclude⟩ := lintPaths_cardCommand journal
  have hexit : (run {} cardDisk cardCommand {}).1.exit = .ok 3 := by
    simp only [run, hargs, hstart, hcheck, hlint, hconclude]
    rfl
  obtain ⟨-, -, hreports⟩ := run_reports {} hd {} hargs hexit
  exact ⟨hd, hargs, hprep, hexit, hreports _ _ hprep⟩

end Command

end PrefixLint
