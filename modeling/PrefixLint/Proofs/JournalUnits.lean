import PrefixLint.Proofs.UnitAccount

/-!
# The units that records carry

Contexts nest. A record carries the unit of the innermost open context that names one, and when all
contexts are left it carries none again. The check of a tree runs in a context of its own, so every
record written meanwhile carries the unit, and afterwards the journal is as it was but for these
records, whether or not the check failed. In a run over units a unit that is skipped is recorded
outside any such context, with the unit of whoever asked for the run.
-/

namespace PrefixLint

open Ast Disk Operation

namespace Journal

def gain (j : Journal) (added : List Record) : Journal := { j with records := j.records ++ added }

def entry (j : Journal) (level : Level) (source : Source) (message : String) : List Record :=
  if j.threshold ≤ level.rank then [⟨level, source, j.unit, message⟩] else []

@[simp] theorem gain_threshold (j : Journal) (added : List Record) :
    (j.gain added).threshold = j.threshold := rfl

@[simp] theorem gain_unit (j : Journal) (added : List Record) : (j.gain added).unit = j.unit := rfl

@[simp] theorem records_gain (j : Journal) (added : List Record) :
    (j.gain added).records.toList = j.records.toList ++ added := by
  simp [gain]

theorem gain_nil (j : Journal) : j.gain [] = j := by
  simp [gain]

theorem gain_gain (j : Journal) (added more : List Record) :
    (j.gain added).gain more = j.gain (added ++ more) := by
  simp only [gain, Journal.mk.injEq, true_and]
  apply Array.ext'
  simp

theorem write_eq_gain (j : Journal) (level : Level) (source : Source) (message : String) :
    j.write level source message = j.gain (j.entry level source message) := by
  unfold write entry
  split
  · simp [gain]
  · exact (gain_nil j).symm

theorem leave_gain_enter (j : Journal) (unit : Option String) (added : List Record) :
    ((j.enter unit).gain added).leave = j.gain added := rfl

theorem unit_of_mem_entry {j : Journal} {level : Level} {source : Source} {message : String}
    {r : Record} (h : r ∈ j.entry level source message) : r.unit = j.unit := by
  unfold entry at h
  split at h
  · rw [List.mem_singleton.mp h]
  · cases h

end Journal

/-! ## Contexts -/

inductive JournalStep where
  | enter (unit : Option String)
  | leave
  | log (level : Level) (source : Source) (message : String)

def JournalStep.apply (j : Journal) : JournalStep → Journal
  | enter unit => j.enter unit
  | leave => j.leave
  | log level source message => j.write level source message

def Journal.after (j : Journal) (steps : List JournalStep) : Journal :=
  steps.foldl JournalStep.apply j

def JournalStep.contexts (before : List (Option String)) : JournalStep → List (Option String)
  | enter unit => unit :: before
  | leave => before.tail
  | log _ _ _ => before

def openContexts (steps : List JournalStep) : List (Option String) :=
  steps.foldl JournalStep.contexts []

/-- The unit of the innermost context that names one. -/
def innermost (contexts : List (Option String)) : String := (contexts.findSome? id).getD noUnit

def JournalStep.records (threshold : Nat) (contexts : List (Option String)) :
    JournalStep → List Record
  | log level source message =>
    if threshold ≤ level.rank then [⟨level, source, innermost contexts, message⟩] else []
  | _ => []

def recordsWithin (threshold : Nat) (contexts : List (Option String)) :
    List JournalStep → List Record
  | [] => []
  | step :: rest =>
    step.records threshold contexts ++ recordsWithin threshold (step.contexts contexts) rest

theorem innermost_cons (unit : Option String) (contexts : List (Option String)) :
    innermost (unit :: contexts) = unit.getD (innermost contexts) := by
  cases unit <;> rfl

def outerUnits : List (Option String) → List String
  | [] => []
  | _ :: contexts => innermost contexts :: outerUnits contexts

structure Journal.Tracks (contexts : List (Option String)) (j : Journal) : Prop where
  unit : j.unit = innermost contexts
  outer : j.outer = outerUnits contexts

theorem tracks_apply {contexts : List (Option String)} {j : Journal} (h : j.Tracks contexts)
    (step : JournalStep) : (step.apply j).Tracks (step.contexts contexts) := by
  cases step with
  | enter unit =>
    refine ⟨?_, ?_⟩
    · rw [JournalStep.contexts, innermost_cons, ← h.unit]
      rfl
    · simp only [JournalStep.apply, JournalStep.contexts, Journal.enter, outerUnits, h.unit, h.outer]
  | leave =>
    cases contexts with
    | nil =>
      have houter : j.outer = [] := h.outer
      have hleave : j.leave = j := by simp only [Journal.leave, houter]
      rw [JournalStep.apply, hleave]
      exact h
    | cons unit rest =>
      have houter : j.outer = innermost rest :: outerUnits rest := h.outer
      simp only [JournalStep.apply, JournalStep.contexts, Journal.leave, houter, List.tail_cons]
      exact ⟨rfl, rfl⟩
  | log level source message =>
    rw [JournalStep.apply, Journal.write_eq_gain]
    exact ⟨h.unit, h.outer⟩

theorem tracks_after {contexts : List (Option String)} {j : Journal} (h : j.Tracks contexts)
    (steps : List JournalStep) :
    (j.after steps).Tracks (steps.foldl JournalStep.contexts contexts) := by
  induction steps generalizing contexts j with
  | nil => exact h
  | cons step rest ih => exact ih (tracks_apply h step)

theorem records_apply {contexts : List (Option String)} {j : Journal} (h : j.Tracks contexts)
    (step : JournalStep) :
    (step.apply j).records.toList = j.records.toList ++ step.records j.threshold contexts ∧
      (step.apply j).threshold = j.threshold := by
  cases step with
  | enter unit => exact ⟨(List.append_nil _).symm, rfl⟩
  | leave =>
    simp only [JournalStep.apply, JournalStep.records, List.append_nil, Journal.leave]
    split <;> exact ⟨rfl, rfl⟩
  | log level source message =>
    rw [JournalStep.apply, Journal.write_eq_gain, Journal.records_gain, Journal.entry, h.unit]
    exact ⟨rfl, rfl⟩

theorem records_after {contexts : List (Option String)} {j : Journal} (h : j.Tracks contexts)
    (steps : List JournalStep) :
    (j.after steps).records.toList =
      j.records.toList ++ recordsWithin j.threshold contexts steps := by
  induction steps generalizing contexts j with
  | nil => exact (List.append_nil _).symm
  | cons step rest ih =>
    have hrest := ih (tracks_apply h step)
    obtain ⟨hrecords, hthreshold⟩ := records_apply h step
    rw [hrecords, hthreshold, List.append_assoc] at hrest
    exact hrest

/-! ## Checks -/

def endState {ε σ α : Type} : EStateM.Result ε σ α → σ
  | .ok _ s => s
  | .error _ s => s

namespace Journal

def GainsUnder (unit : String) (j j' : Journal) : Prop :=
  ∃ added : List Record, (∀ r ∈ added, r.unit = unit) ∧ j' = j.gain added

theorem GainsUnder.refl (unit : String) (j : Journal) : GainsUnder unit j j :=
  ⟨[], by simp, (gain_nil j).symm⟩

theorem GainsUnder.trans {unit : String} {j k l : Journal} (h : GainsUnder unit j k)
    (h' : GainsUnder unit k l) : GainsUnder unit j l := by
  obtain ⟨added, hadded, rfl⟩ := h
  obtain ⟨more, hmore, rfl⟩ := h'
  refine ⟨added ++ more, fun r hr => ?_, gain_gain j added more⟩
  rcases List.mem_append.mp hr with hr | hr
  · exact hadded r hr
  · exact hmore r hr

theorem GainsUnder.unit {unit : String} {j j' : Journal} (h : GainsUnder unit j j') :
    j'.unit = j.unit := by
  obtain ⟨added, -, rfl⟩ := h
  rfl

theorem gainsUnder_write (j : Journal) (level : Level) (source : Source) (message : String) :
    GainsUnder j.unit j (j.write level source message) :=
  ⟨_, fun _ hr => unit_of_mem_entry hr, write_eq_gain j level source message⟩

end Journal

open Journal

theorem resolve_journal (node : Value) (v : Visitor) :
    GainsUnder v.journal.unit v.journal (endState (Visitor.resolve node v)).journal := by
  unfold Visitor.resolve
  split
  · exact .refl _ _
  · split
    · exact gainsUnder_write _ _ _ _
    · simp only
      split <;> exact gainsUnder_write _ _ _ _

theorem perform_journal (op : Operation) (v : Visitor) :
    GainsUnder v.journal.unit v.journal (endState (op.perform v)).journal := by
  cases op with
  | resolve node => exact resolve_journal node v
  | noteExport name | noteClass name | noteElement element | reset | report node message =>
    exact .refl _ _

theorem forM_perform_journal (ops : List Operation) (v : Visitor) :
    GainsUnder v.journal.unit v.journal (endState (ops.forM perform v)).journal := by
  induction ops generalizing v with
  | nil => exact .refl _ _
  | cons op rest ih =>
    have hop := perform_journal op v
    cases hr : op.perform v with
    | error f w =>
      rw [hr] at hop
      rw [forM_cons_error hr]
      exact hop
    | ok u w =>
      rw [hr] at hop
      rw [forM_cons_ok hr]
      have hrest := ih w
      rw [show w.journal.unit = v.journal.unit from hop.unit] at hrest
      exact hop.trans hrest

theorem inspect_journal (convention : Option Convention) (unit : String) (tree : Value)
    (j : Journal) : GainsUnder j.unit j (endState (inspect convention unit tree j)) := by
  have hwalk : GainsUnder j.unit j
      (endState (walk Visitor.handlers id tree { convention, unit, journal := j })).journal := by
    cases hnode : tree.isNode with
    | true =>
      rw [walk_handlers id hnode]
      exact forM_perform_journal (operations tree) { convention, unit, journal := j }
    | false =>
      rw [walk_of_not_isNode Visitor.handlers id hnode]
      exact .refl _ _
  unfold inspect
  cases hr : walk Visitor.handlers id tree { convention, unit, journal := j } <;>
    rw [hr] at hwalk <;> exact hwalk

theorem endState_within {ε α : Type} (unit : String) (action : EStateM ε Journal α) (j : Journal) :
    endState (within unit action j) = (endState (action (j.enter (some unit)))).leave := by
  unfold within
  cases action (j.enter (some unit)) <;> rfl

theorem lintTree_leaves (convention : Option Convention) (unit : String) (tree : Value)
    (journal : Journal) :
    ∃ inner, GainsUnder unit
        ((journal.enter (some unit)).write .debug .units "checking unit") inner ∧
      endState (lintTree convention unit tree journal) = inner.leave := by
  generalize hstart : (journal.enter (some unit)).write .debug .units "checking unit" = start
  have hunit : start.unit = unit := by
    rw [← hstart, write_eq_gain]
    rfl
  have hmodify : (modify (·.write .debug .units "checking unit") : EStateM Ast.Fault Journal Unit)
      (journal.enter (some unit)) = .ok () start := by
    rw [← hstart]
    rfl
  have hwalk := inspect_journal convention unit tree start
  rw [hunit] at hwalk
  refine ⟨_, ?_, endState_within unit _ journal⟩
  simp only [bind, EStateM.bind, hmodify]
  cases hr : inspect convention unit tree start with
  | error f j =>
    rw [hr] at hwalk
    exact hwalk
  | ok found j =>
    rw [hr] at hwalk
    have hfinish := gainsUnder_write j .debug .units
      s!"finished unit with {found.length} diagnostic(s)"
    rw [show j.unit = unit from hwalk.unit.trans hunit] at hfinish
    exact hwalk.trans hfinish

theorem lintTree_journal (convention : Option Convention) (unit : String) (tree : Value)
    (journal : Journal) :
    ∃ added, (∀ r ∈ added, r.unit = unit) ∧
      (journal.threshold ≤ Level.debug.rank →
        added.head? = some ⟨.debug, .units, unit, "checking unit"⟩) ∧
      endState (lintTree convention unit tree journal) = journal.gain added := by
  obtain ⟨inner, ⟨more, hmore, rfl⟩, hend⟩ := lintTree_leaves convention unit tree journal
  refine ⟨(journal.enter (some unit)).entry .debug .units "checking unit" ++ more, ?_, ?_, ?_⟩
  · intro r hr
    rcases List.mem_append.mp hr with hr | hr
    · exact unit_of_mem_entry hr
    · exact hmore r hr
  · intro hlevel
    have hentered : (journal.enter (some unit)).threshold ≤ Level.debug.rank := hlevel
    rw [entry, if_pos hentered]
    rfl
  · rw [hend, write_eq_gain, gain_gain, leave_gain_enter]

/-! ## Runs over units -/

/-- The records of one unit in a run that was asked for under a unit: those of its check carry its
path, and the one that it is skipped carries the unit of the run. -/
inductive UnitRecords (room : Nat) (disk : Disk) (run : Journal) (p : Path) :
    List Record → Prop where
  | checked {tree : Value} {added : List Record} (load : loadTree room disk p = .ok tree)
      (start : run.threshold ≤ Level.debug.rank →
        added.head? = some ⟨.debug, .units, p.toString, "checking unit"⟩)
      (carry : ∀ r ∈ added, r.unit = p.toString) : UnitRecords room disk run p added
  | skipped {f : InputFault} (load : loadTree room disk p = .error (.input f)) :
      UnitRecords room disk run p
        (run.entry .debug .units s!"skipping unit {p.toString}: {f.code}")
  | failed {e : Failure} (load : loadTree room disk p = .error e) (escapes : ∀ f, e ≠ .input f) :
      UnitRecords room disk run p []

section Run

variable (room : Nat) (disk : Disk) (convention : Option Convention)

theorem lintUnit_journal (r : Results) (p : Path) (journal : Journal) :
    ∃ added, UnitRecords room disk journal p added ∧
      endState (lintUnit room disk convention r p journal) = journal.gain added := by
  unfold lintUnit
  cases hload : loadTree room disk p with
  | error e =>
    cases e with
    | input f => exact ⟨_, .skipped hload, write_eq_gain _ _ _ _⟩
    | _ => exact ⟨[], .failed hload (by simp), (gain_nil journal).symm⟩
  | ok tree =>
    obtain ⟨added, hcarry, hstart, hend⟩ := lintTree_journal convention p.toString tree journal
    refine ⟨added, .checked hload hstart hcarry, ?_⟩
    simp only
    cases hlint : lintTree convention p.toString tree journal <;> rw [hlint] at hend <;> exact hend

variable {room disk convention} in
theorem UnitRecords.of_gain {run : Journal} {earlier added : List Record} {p : Path}
    (h : UnitRecords room disk (run.gain earlier) p added) : UnitRecords room disk run p added := by
  cases h with
  | checked load start carry => exact .checked load start carry
  | skipped load => exact .skipped load
  | failed load escapes => exact .failed load escapes

theorem lintUnits_journal (r : Results) (units : List Path) (journal : Journal) :
    ∃ reached parts, reached <+: units ∧
      List.Forall₂ (UnitRecords room disk journal) reached parts ∧
      endState (lintUnits room disk convention r units journal) = journal.gain parts.flatten ∧
      ((∃ r' after, lintUnits room disk convention r units journal = .ok r' after) →
        reached = units) := by
  -- Each unit starts from the journal of the run with the records of the units before it, which
  -- has the same threshold and unit.
  induction units generalizing r journal with
  | nil => exact ⟨[], [], List.prefix_rfl, .nil, (gain_nil journal).symm, fun _ => rfl⟩
  | cons p rest ih =>
    obtain ⟨added, hadded, hend⟩ := lintUnit_journal room disk convention r p journal
    simp only [lintUnits, bind, EStateM.bind]
    cases hunit : lintUnit room disk convention r p journal with
    | error e j =>
      rw [hunit] at hend
      refine ⟨[p], [added], by simp, .cons hadded .nil, ?_, ?_⟩
      · rw [List.flatten_singleton]
        exact hend
      · rintro ⟨r', after, hok⟩
        cases hok
    | ok r₁ j =>
      rw [hunit] at hend
      obtain rfl : j = journal.gain added := hend
      obtain ⟨reached, parts, hreached, hparts, hrest, hall⟩ := ih r₁ (journal.gain added)
      refine ⟨p :: reached, added :: parts, (List.prefix_cons_inj p).mpr hreached,
        .cons hadded (hparts.imp fun _ _ => UnitRecords.of_gain), ?_, ?_⟩
      · rw [List.flatten_cons, ← gain_gain]
        exact hrest
      · intro hok
        rw [hall hok]

theorem lintPaths_journal {patterns : List String} {paths units : List Path}
    (hunits : unitPaths disk patterns paths = .ok units) (journal : Journal) :
    ∃ reached parts, reached <+: units ∧
      List.Forall₂ (UnitRecords room disk journal) reached parts ∧
      endState (lintPaths room disk convention patterns paths journal) =
        journal.gain parts.flatten ∧
      ((∃ results after,
          lintPaths room disk convention patterns paths journal = .ok results after) →
        reached = units) := by
  rw [lintPaths, hunits]
  exact lintUnits_journal room disk convention {} units journal

end Run

/-- Whatever contexts are entered and left, each record carries the unit of the innermost open context
that names one, and none when all are left. The check of a tree adds records under its unit only, and
a run over paths adds, for each unit that it reaches, records under the path of the unit if it loads
and otherwise one under the unit that the run was asked for; both leave the contexts as they were. -/
theorem records_carry_innermost_unit (threshold : Nat) (steps : List JournalStep) (room : Nat)
    (disk : Disk) (convention : Option Convention) (unit : String) (tree : Value)
    (patterns : List String) (paths : List Path) (journal : Journal) :
    (({ threshold } : Journal).after steps).records.toList = recordsWithin threshold [] steps ∧
    (({ threshold } : Journal).after steps).unit = innermost (openContexts steps) ∧
    (openContexts steps = [] → (({ threshold } : Journal).after steps).unit = "-") ∧
    (∀ (ε α : Type) (action : EStateM ε Journal α), endState (within unit action journal) =
      (endState (action (journal.enter (some unit)))).leave) ∧
    (∃ added, (∀ r ∈ added, r.unit = unit) ∧
      (journal.threshold ≤ Level.debug.rank →
        added.head? = some ⟨.debug, .units, unit, "checking unit"⟩) ∧
      endState (lintTree convention unit tree journal) = journal.gain added) ∧
    (∀ e, unitPaths disk patterns paths = .error e →
      endState (lintPaths room disk convention patterns paths journal) = journal) ∧
    ∀ units, unitPaths disk patterns paths = .ok units →
      ∃ reached parts, reached <+: units ∧
        List.Forall₂ (UnitRecords room disk journal) reached parts ∧
        endState (lintPaths room disk convention patterns paths journal) =
          journal.gain parts.flatten ∧
        ((∃ results after,
            lintPaths room disk convention patterns paths journal = .ok results after) →
          reached = units) := by
  have hfresh : ({ threshold } : Journal).Tracks [] := ⟨rfl, rfl⟩
  have htracks := tracks_after hfresh steps
  refine ⟨records_after hfresh steps, htracks.unit, fun hnone => ?_,
    fun ε α action => endState_within unit action journal,
    lintTree_journal convention unit tree journal, fun e he => ?_,
    fun units hunits => lintPaths_journal room disk convention hunits journal⟩
  · rw [htracks.unit, show steps.foldl JournalStep.contexts [] = [] from hnone]
    rfl
  · rw [lintPaths, he]
    rfl

def nestedSteps : List JournalStep :=
  [.enter (some "a"), .enter none, .log .warning .rule "inside", .leave, .leave,
    .log .warning .rule "outside"]

theorem records_carry_innermost_unit_nested :
    let journal := ({ threshold := 10 } : Journal).enter (some "all")
    ((({ threshold := 10 } : Journal).after nestedSteps).records.toList.map fun r =>
      (r.unit, r.message)) = [("a", "inside"), ("-", "outside")] ∧
    (({ threshold := 10 } : Journal).after nestedSteps).unit = "-" ∧
    ∃ added,
      (endState (lintPaths unitRoom cardDisk none [] [badPath, cardPath] journal)).records.toList =
        ⟨.debug, .units, "all", "skipping unit src/bad.json: not_program"⟩ :: added ∧
      added.head? = some ⟨.debug, .units, "src/card.json", "checking unit"⟩ ∧
      ∀ r ∈ added, r.unit = "src/card.json" := by
  intro journal
  obtain ⟨hrecords, -, hclosed, -, -, -, hrun⟩ := records_carry_innermost_unit 10 nestedSteps
    unitRoom cardDisk none "all" cardTree [] [badPath, cardPath] journal
  have hunits : unitPaths cardDisk [] [badPath, cardPath] = .ok [badPath, cardPath] := by
    decide +kernel
  have hbad := loadTree_badPath unitRoom (by decide)
  have hcard := loadTree_cardPath unitRoom (by decide)
  have hsettles : ∀ p ∈ [badPath, cardPath], Settles unitRoom cardDisk none p := by
    have hok : (verdict none cardTree).toBool = true := by decide +kernel
    intro p hp
    rcases List.mem_pair.mp hp with rfl | rfl
    · exact .skipped hbad
    · cases hv : verdict none cardTree with
      | ok found => exact .checked hcard hv
      | error f =>
        rw [hv] at hok
        cases hok
  have hnodup : (([] ++ [badPath, cardPath]).map Path.toString).Nodup := by decide +kernel
  obtain ⟨results, after, hok, -⟩ := lintUnits_accounts (accounts_nil unitRoom cardDisk none) hnodup
    hsettles journal
  obtain ⟨reached, parts, -, hparts, hend, hall⟩ := hrun _ hunits
  obtain rfl := hall ⟨results, after, by rw [lintPaths, hunits]; exact hok⟩
  refine ⟨by rw [hrecords]; decide, hclosed rfl, ?_⟩
  -- The first unit is skipped and the second one is checked.
  obtain _ | ⟨hskipped, _ | ⟨hchecked, _ | _⟩⟩ := hparts
  cases hskipped with
  | checked load => cases hbad.symm.trans load
  | failed load escapes =>
    exact absurd (Except.error.inj (load.symm.trans hbad)) (escapes _)
  | skipped load =>
    cases load.symm.trans hbad
    cases hchecked with
    | skipped load => cases hcard.symm.trans load
    | failed load => cases hcard.symm.trans load
    | checked load start carry =>
      refine ⟨_, ?_, start (by decide), carry⟩
      rw [hend, records_gain, List.flatten_cons, List.flatten_singleton]
      rfl

end PrefixLint
