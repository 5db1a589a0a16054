import PrefixLint.Proofs.CommandReport
import PrefixLint.Proofs.Loading
import PrefixLint.Proofs.PolicyScan

/-!
# Reading policies

Whatever lies at a path without a null character, reading it as a policy gives the policy that its
tables describe, or a policy fault for that path, at which a command ends with exit code 2 and one
line. Three things end the whole run instead: bytes that are no text, an integer of more digits than
are read, and a value inside more arrays and inline tables than there is room for.
-/

namespace PrefixLint

open Disk

theorem PolicyFault.code_mem (f : PolicyFault) :
    f.code ∈ ["unreadable_policy", "invalid_policy"] := by
  unfold PolicyFault.code
  split <;> decide

namespace Policy

/-- The table of that name, which may be left out. -/
def TableAt (data : Toml.Table) (key : String) (t : Toml.Table) : Prop :=
  data.lookup key = some (.table t) ∨ (data.lookup key = none ∧ t = [])

def Lists (paths : Toml.Table) (patterns : List String) : Prop :=
  (∃ v, paths.lookup "include" = some v ∧ v.items? = some (patterns.map .text)) ∨
    (paths.lookup "include" = none ∧ patterns = defaultInclude)

structure Describes (data : Toml.Table) (path : Path) (policy : Policy) : Prop where
  rule : TableAt data "rule" policy.rule
  patterns : ∃ paths, TableAt data "paths" paths ∧ Lists paths policy.patterns
  source : policy.source = some path

theorem tableAt_of_tableOf {data : Toml.Table} {key : String} {t : Toml.Table}
    (h : tableOf data key = .ok t) : TableAt data key t := by
  unfold tableOf at h
  split at h
  · cases h
    exact Or.inr ⟨by assumption, rfl⟩
  · cases h
    exact Or.inl (by assumption)
  · cases h

theorem eq_map_text_of_texts? {items : List Toml.Value} {patterns : List String}
    (h : texts? items = some patterns) : items = patterns.map .text := by
  induction items generalizing patterns with
  | nil =>
    cases h
    rfl
  | cons v rest ih =>
    simp only [texts?, List.mapM_cons, Option.bind_eq_bind, Option.bind_eq_some_iff,
      Option.pure_def, Option.some.injEq] at h
    obtain ⟨first, hfirst, others, hothers, rfl⟩ := h
    rw [List.map_cons, ← ih hothers]
    split at hfirst
    · cases hfirst
      rfl
    · cases hfirst

theorem lists_of_includeOf {paths : Toml.Table} {patterns : List String}
    (h : includeOf paths = .ok patterns) : Lists paths patterns := by
  unfold includeOf at h
  split at h
  · cases h
    exact Or.inr ⟨by assumption, rfl⟩
  · rename_i v hv
    split at h
    · rename_i listed hlisted
      cases h
      obtain ⟨items, hitems, htexts⟩ := Option.bind_eq_some_iff.mp hlisted
      exact Or.inl ⟨v, hv, hitems.trans (congrArg some (eq_map_text_of_texts? htexts))⟩
    · cases h

theorem describes_of_ofTable {data : Toml.Table} {path : Path} {policy : Policy}
    (h : ofTable path data = .ok policy) : Describes data path policy := by
  obtain ⟨rule, hrule, h⟩ := bind_eq_ok.mp h
  obtain ⟨paths, hpaths, h⟩ := bind_eq_ok.mp h
  obtain ⟨patterns, hpatterns, h⟩ := bind_eq_ok.mp h
  cases h
  exact ⟨tableAt_of_tableOf hrule, ⟨paths, tableAt_of_tableOf hpaths, lists_of_includeOf hpatterns⟩,
    rfl⟩

/-- What the reading of a policy may fail with apart from a policy fault. -/
inductive Escapes (room : Nat) (disk : Disk) (path : Path) : Failure → Prop where
  | undecodable {bytes : List UInt8} {f : Text.Utf8.Fault}
      (file : disk.find path = .ok (.file bytes)) (bad : Text.Utf8.decode bytes = .error f) :
      Escapes room disk path (.undecodable f)
  | longInteger {text : List Char} {n : Nat} (read : disk.readText path = .ok text)
      (long : Number.digitLimit < n) (within : n ≤ text.length) :
      Escapes room disk path (.longInteger n)
  | tooDeep {text inner : List Char} {nests : List Toml.Nest} {shortage : Toml.Shortage}
      (read : disk.readText path = .ok text) (nested : Toml.NestedIn text nests inner)
      (within : nests.length ≤ text.length) (deep : room < 3 * nests.length + 5)
      (short : (Toml.Form.of inner).shortages[room - Toml.taken nests]? = some shortage) :
      Escapes room disk path (.tooDeep shortage)

theorem read_ok {room : Nat} {disk : Disk} {path : Path} {policy : Policy}
    (h : read room disk path = .ok policy) :
    ∃ text data, disk.readText path = .ok text ∧ Toml.parse room text = .ok data ∧
      Describes data path policy := by
  unfold read at h
  split at h
  · cases h
  · cases h
  · cases h
  · rename_i text hread
    split at h
    · cases h
    · cases h
    · cases h
    · rename_i data hparse
      split at h
      · cases h
      · rename_i hpolicy
        cases h
        exact ⟨text, data, hread, hparse, describes_of_ofTable hpolicy⟩

theorem read_error_cases {room : Nat} {disk : Disk} {path : Path} {e : Failure}
    (hnull : path.hasNull = false) (h : read room disk path = .error e) :
    (∃ f, e = .policy f ∧ f.path = path) ∨ Escapes room disk path e := by
  unfold read at h
  split at h
  · cases h
    exact Or.inl ⟨_, rfl, rfl⟩
  · rename_i f hread
    cases h
    rcases readText_error hread with ⟨hf, -⟩ | ⟨_, hf⟩ | ⟨bytes, _, hf, hfile, hbad⟩
    · cases hf
    · cases hf
    · cases hf
      exact Or.inr (.undecodable hfile hbad)
  · rename_i hread
    rw [hasNull_of_nullByte hread] at hnull
    cases hnull
  · rename_i text hread
    split at h
    · cases h
      exact Or.inl ⟨_, rfl, rfl⟩
    · rename_i n hparse
      cases h
      obtain ⟨hlong, hwithin⟩ := Toml.longInteger_of_parse hparse
      exact Or.inr (.longInteger hread hlong hwithin)
    · rename_i shortage hparse
      cases h
      obtain ⟨nests, inner, hnested, hshort⟩ := Toml.tooDeep_of_parse hparse
      have hwithin := Nat.le_of_add_right_le hnested.length_le
      exact Or.inr (.tooDeep hread hnested hwithin (Toml.room_lt_of_shortage hshort) hshort)
    · split at h
      · cases h
        exact Or.inl ⟨_, rfl, rfl⟩
      · cases h

theorem Escapes.code? {room : Nat} {disk : Disk} {path : Path} {e : Failure}
    (h : Escapes room disk path e) : e.code? = none := by
  cases h <;> rfl

end Policy

namespace Command

section

variable {settings : Settings} {disk : Disk} {argv : List String} {arguments : Arguments}
  {path : Path} {e : Failure} {s started : Session}
  (hargs : parseArguments argv = .check arguments)
  (hpath : policyPath settings disk arguments = .ok (some path))
  (hstart : startJournal settings arguments s = .ok started)
  (hload : Policy.load policyRoom disk (some path) = .error e)

include hargs hpath hstart hload

theorem run_of_unloaded : run settings disk argv s = outcomeOf (.error e started) := by
  have hpolicy : policyOf settings disk arguments = .error e := by
    rw [policyOf, hpath]
    exact hload
  simp only [run, hargs, hstart, check, hpolicy]

theorem run_of_reported (hcode : e.code?.isSome = true) : (run settings disk argv s).1 =
    { exit := .ok e.exitCode, lines := ["[classname-prefix] " ++ e.message] } := by
  rw [run_of_unloaded hargs hpath hstart hload]
  simp only [outcomeOf, if_pos hcode, startJournal_records hstart]
  rfl

theorem run_of_unreported (hcode : e.code? = none) :
    (run settings disk argv s).1 = { exit := .error e } := by
  rw [run_of_unloaded hargs hpath hstart hload]
  simp [outcomeOf, hcode, startJournal_records hstart]

end

/-- Reading a policy gives what its tables describe, or a policy fault for the path, at which a
command ends with exit code 2 and one line. Otherwise it fails, and a command with it, for one of
three reasons only. -/
theorem load_policy_outcomes (room : Nat) (disk : Disk) {path : Path}
    (hnull : path.hasNull = false) :
    ((∃ policy text data, Policy.load room disk (some path) = .ok policy ∧
        disk.readText path = .ok text ∧ Toml.parse room text = .ok data ∧
        Policy.Describes data path policy) ∨
      (∃ f, Policy.load room disk (some path) = .error (.policy f) ∧ f.path = path ∧
        f.code ∈ ["unreadable_policy", "invalid_policy"]) ∨
      ∃ e, Policy.load room disk (some path) = .error e ∧ Policy.Escapes room disk path e) ∧
    ∀ (settings : Settings) (argv : List String) (arguments : Arguments) (s started : Session),
      parseArguments argv = .check arguments →
      policyPath settings disk arguments = .ok (some path) →
      startJournal settings arguments s = .ok started →
      (∀ f, Policy.load policyRoom disk (some path) = .error (.policy f) →
        (run settings disk argv s).1 =
          { exit := .ok 2, lines := ["[classname-prefix] " ++ f.message] }) ∧
      ∀ e, Policy.load policyRoom disk (some path) = .error e →
        Policy.Escapes policyRoom disk path e →
        (run settings disk argv s).1 = { exit := .error e } := by
  refine ⟨?_, ?_⟩
  · cases hload : Policy.load room disk (some path) with
    | ok policy =>
      obtain ⟨text, data, hread, hparse, hdescribes⟩ := Policy.read_ok hload
      exact Or.inl ⟨policy, text, data, rfl, hread, hparse, hdescribes⟩
    | error e =>
      rcases Policy.read_error_cases hnull hload with ⟨f, rfl, hpath⟩ | hescapes
      · exact Or.inr (Or.inl ⟨f, rfl, hpath, f.code_mem⟩)
      · exact Or.inr (Or.inr ⟨e, rfl, hescapes⟩)
  · intro settings argv arguments s started hargs hpath hstart
    refine ⟨fun f hload => ?_, fun e hload hescapes => ?_⟩
    · exact run_of_reported hargs hpath hstart hload rfl
    · exact run_of_unreported hargs hpath hstart hload hescapes.code?

def policyFile : Path := ⟨.relative, ["p.toml"]⟩

def policyDisk (bytes : List UInt8) : Disk where
  top := .directory [("p.toml", .file bytes)]
  working := []

theorem load_untabled :
    Policy.load policyRoom (policyDisk (asciiBytes "[[rule]]")) (some policyFile) =
      .error (.policy ⟨policyFile, .notTable "rule"⟩) := by
  have hsource : (Policy.load policyRoom (policyDisk (asciiBytes "[[rule]]")) (some policyFile)).map
      (·.source) = .error (.policy ⟨policyFile, .notTable "rule"⟩) := by decide +kernel
  exact map_eq_error.mp hsource

theorem load_policy_outcomes_untabled :
    policyFile.hasNull = false ∧
    (run {} (policyDisk (asciiBytes "[[rule]]")) ["--config", "p.toml", "a.json"] {}).1 =
      { exit := .ok 2, lines := ["[classname-prefix] p.toml: [rule] must be a table"] } := by
  have hnull : policyFile.hasNull = false := by decide
  have hargs : parseArguments ["--config", "p.toml", "a.json"] =
      .check { paths := ["a.json"], config := some "p.toml" } := by decide +kernel
  obtain ⟨-, hcommand⟩ := load_policy_outcomes policyRoom
    (policyDisk (asciiBytes "[[rule]]")) hnull
  obtain ⟨hreported, -⟩ := hcommand {} _ _ {} {} hargs (by decide +kernel) (by decide +kernel)
  have hline : "[classname-prefix] " ++
      PolicyFault.message ⟨policyFile, .notTable "rule"⟩ =
        "[classname-prefix] p.toml: [rule] must be a table" := by decide +kernel
  have hrun := hreported _ load_untabled
  rw [hline] at hrun
  exact ⟨hnull, hrun⟩

/-- Not every failure of reading a policy is a policy fault: the bytes may be no text. -/
theorem not_all_policies_reported :
    ¬ ∀ (room : Nat) (disk : Disk) (path : Path), path.hasNull = false →
      (∃ policy, Policy.load room disk (some path) = .ok policy) ∨
        ∃ f, Policy.load room disk (some path) = .error (.policy f) := by
  intro hall
  have hload : Policy.load Policy.room (policyDisk [0xff]) (some policyFile) =
      .error (.undecodable ⟨0, 1, 0xff, .invalidStart⟩) := rfl
  rcases hall Policy.room (policyDisk [0xff]) policyFile (by decide) with
    ⟨policy, hok⟩ | ⟨f, hfault⟩
  · rw [hload] at hok
    cases hok
  · rw [hload] at hfault
    cases hfault

end Command

end PrefixLint
