import PrefixLint.Proofs.DocumentReading
import PrefixLint.Proofs.LateMarkup

/-!
# Loading units

Whatever lies at a path, loading it gives a tree whose root is a program or a file, or an input fault
for that path, which is remembered while the other units are checked. Two things end the whole run
instead: a path with a null character, and a text with an integer of more digits than are read.
-/

namespace PrefixLint

open Ast Disk

theorem InputFault.code_mem (f : InputFault) :
    f.code ∈ ["unreadable", "invalid_json", "too_deep", "not_program"] := by
  unfold InputFault.code
  split <;> decide

theorem nodeType?_of_rootType {tree : Value}
    (h : tree.nodeType = "Program" ∨ tree.nodeType = "File") :
    tree.nodeType? = some "Program" ∨ tree.nodeType? = some "File" := by
  unfold Value.nodeType at h
  cases ht : tree.nodeType? with
  | none =>
    simp [ht] at h
  | some type =>
    rw [ht] at h
    exact h.imp (congrArg some) (congrArg some)

theorem treeOf_error {room : Nat} {path : Path} {text : List Char} {e : Failure}
    (h : treeOf room path text = .error e) :
    (∃ f, e = .input f ∧ f.path = path) ∨
      ∃ n, e = .longInteger n ∧ Number.digitLimit < n ∧ Json.HasRun n text := by
  unfold treeOf at h
  split at h
  · cases h
    exact Or.inl ⟨_, rfl, rfl⟩
  · cases h
    exact Or.inl ⟨_, rfl, rfl⟩
  · rename_i n hparse
    cases h
    exact Or.inr ⟨n, rfl, Json.longInteger_of_parse hparse⟩
  · split at h
    · cases h
    · cases h
      exact Or.inl ⟨_, rfl, rfl⟩

theorem readText_error {disk : Disk} {path : Path} {e : ReadFault}
    (h : disk.readText path = .error e) :
    (e = .nullByte ∧ path.hasNull = true) ∨ (∃ f, e = .access f) ∨
      ∃ bytes f, e = .undecodable f ∧ disk.find path = .ok (.file bytes) ∧
        Text.Utf8.decode bytes = .error f := by
  unfold readText at h
  split at h
  · rename_i hnull
    cases h
    exact Or.inl ⟨rfl, hnull⟩
  · split at h
    · cases h
      exact Or.inr (Or.inl ⟨_, rfl⟩)
    · cases h
      exact Or.inr (Or.inl ⟨_, rfl⟩)
    · rename_i bytes hfind
      split at h
      · rename_i f hdecode
        cases h
        exact Or.inr (Or.inr ⟨bytes, f, rfl, hfind, hdecode⟩)
      · cases h

theorem hasNull_of_nullByte {disk : Disk} {path : Path} (h : disk.readText path = .error .nullByte) :
    path.hasNull = true := by
  rcases readText_error h with ⟨-, hnull⟩ | ⟨f, hf⟩ | ⟨bytes, f, hf, -⟩
  · exact hnull
  · cases hf
  · cases hf

/-- What loading may fail with apart from an input fault. -/
def Escapes (disk : Disk) (path : Path) (e : Failure) : Prop :=
  (e = .nullByte ∧ path.hasNull = true) ∨
    ∃ n text, e = .longInteger n ∧ disk.readText path = .ok text ∧
      Number.digitLimit < n ∧ Json.HasRun n text

theorem loadTree_error {room : Nat} {disk : Disk} {path : Path} {e : Failure}
    (h : loadTree room disk path = .error e) :
    (∃ f, e = .input f ∧ f.path = path) ∨ Escapes disk path e := by
  unfold loadTree at h
  split at h
  · cases h
    exact Or.inl ⟨_, rfl, rfl⟩
  · cases h
    exact Or.inl ⟨_, rfl, rfl⟩
  · rename_i hread
    cases h
    exact Or.inr (Or.inl ⟨rfl, hasNull_of_nullByte hread⟩)
  · rename_i text hread
    rcases treeOf_error h with hinput | ⟨n, hn, hlong, hrun⟩
    · exact Or.inl hinput
    · exact Or.inr (Or.inr ⟨n, text, hn, hread, hlong, hrun⟩)

theorem Escapes.not_input {disk : Disk} {path : Path} {e : Failure} (h : Escapes disk path e)
    (f : InputFault) : e ≠ .input f := by
  rcases h with ⟨rfl, -⟩ | ⟨n, text, rfl, -⟩ <;> simp

theorem distinct_of_loadTree {room : Nat} {disk : Disk} {path : Path} {tree : Value}
    (h : loadTree room disk path = .ok tree) : tree.distinct = true := by
  unfold loadTree at h
  split at h
  · cases h
  · cases h
  · cases h
  · unfold treeOf at h
    split at h
    · cases h
    · cases h
    · cases h
    · rename_i hparse
      split at h
      · cases h
        exact Json.distinct_of_parse hparse
      · cases h

section

variable {room : Nat} {disk : Disk} {path : Path} (convention : Option Convention)
  (r : Results) (rest : List Path) (journal : Journal)

theorem lintUnits_of_input {f : InputFault} (h : loadTree room disk path = .error (.input f)) :
    lintUnits room disk convention r (path :: rest) journal =
      lintUnits room disk convention { r with errors := r.errors ++ [f] } rest
        (journal.write .debug .units s!"skipping unit {path.toString}: {f.code}") := by
  simp only [lintUnits, bind, EStateM.bind, lintUnit, h]

theorem lintUnits_of_escape {e : Failure} (h : loadTree room disk path = .error e)
    (hinput : ∀ f, e ≠ .input f) :
    lintUnits room disk convention r (path :: rest) journal = .error e journal := by
  have hunit : lintUnit room disk convention r path journal = .error e journal := by
    unfold lintUnit
    rw [h]
    cases e with
    | input f => exact absurd rfl (hinput f)
    | _ => rfl
  simp only [lintUnits, bind, EStateM.bind, hunit]

end

/-- Loading gives a tree with one of the two roots, or an input fault for the path, which is
remembered while the run goes on. Otherwise it fails, and the run with it, for one of two reasons
only. -/
theorem loadTree_outcomes (room : Nat) (disk : Disk) (path : Path) :
    (∃ tree, loadTree room disk path = .ok tree ∧
      (tree.nodeType? = some "Program" ∨ tree.nodeType? = some "File")) ∨
    (∃ f, loadTree room disk path = .error (.input f) ∧ f.path = path ∧
      f.code ∈ ["unreadable", "invalid_json", "too_deep", "not_program"] ∧
      ∀ convention r rest journal, lintUnits room disk convention r (path :: rest) journal =
        lintUnits room disk convention { r with errors := r.errors ++ [f] } rest
          (journal.write .debug .units s!"skipping unit {path.toString}: {f.code}")) ∨
    ∃ e, loadTree room disk path = .error e ∧ Escapes disk path e ∧
      ∀ convention r rest journal,
        lintUnits room disk convention r (path :: rest) journal = .error e journal := by
  cases hload : loadTree room disk path with
  | ok tree =>
    exact Or.inl ⟨tree, rfl, nodeType?_of_rootType (rootType_of_loadTree hload)⟩
  | error e =>
    rcases loadTree_error hload with ⟨f, rfl, hpath⟩ | hescapes
    · refine Or.inr (Or.inl ⟨f, rfl, hpath, f.code_mem, ?_⟩)
      intro convention r rest journal
      exact lintUnits_of_input convention r rest journal hload
    · refine Or.inr (Or.inr ⟨e, rfl, hescapes, ?_⟩)
      intro convention r rest journal
      exact lintUnits_of_escape convention r rest journal hload hescapes.not_input

theorem decodeFrom_ascii {bytes : List UInt8} (h : ∀ b ∈ bytes, b < 0x80) (position : Nat)
    (done : List Char) : Text.Utf8.decodeFrom position none done bytes =
      .ok (done.reverse ++ bytes.map fun b => Char.ofNat b.toNat) := by
  induction bytes generalizing position done with
  | nil => simp [Text.Utf8.decodeFrom]
  | cons b bytes ih =>
    have hb := h b List.mem_cons_self
    have hrest := ih fun c hc => h c (List.mem_cons_of_mem b hc)
    simp [Text.Utf8.decodeFrom, hb, hrest]

theorem unifyNewlinesFrom_of_not_mem {cs : List Char} (h : '\r' ∉ cs) (done : List Char) :
    Text.unifyNewlinesFrom done cs = done.reverse ++ cs := by
  induction cs generalizing done with
  | nil => simp [Text.unifyNewlinesFrom]
  | cons c cs ih =>
    have hc : c ≠ '\r' := fun hc => h (hc ▸ List.mem_cons_self)
    have hrest := ih fun hcs => h (List.mem_cons_of_mem c hcs)
    rw [Text.unifyNewlinesFrom]
    · simp [hrest]
    · intro rest hcs
      simp_all
    · simp_all

def ninesDisk (n : Nat) : Disk where
  top := .directory [("unit.json", .file (List.replicate n 0x39))]
  working := []

theorem readText_nines (n : Nat) :
    (ninesDisk n).readText strayPath = .ok (List.replicate n '9') := by
  have hfind : (ninesDisk n).find strayPath = .ok (.file (List.replicate n 0x39)) := rfl
  have hascii : ∀ b ∈ List.replicate n (0x39 : UInt8), b < 0x80 := by
    intro b hb
    rw [List.eq_of_mem_replicate hb]
    decide
  have hdecode : Text.Utf8.decode (List.replicate n 0x39) = .ok (List.replicate n '9') := by
    rw [Text.Utf8.decode, decodeFrom_ascii hascii, List.map_replicate]
    rfl
  have hlines : Text.unifyNewlines (List.replicate n '9') = List.replicate n '9' :=
    unifyNewlinesFrom_of_not_mem (fun hr => absurd (List.eq_of_mem_replicate hr) (by decide)) []
  have hnull : strayPath.hasNull = false := by decide
  simp only [readText, hnull, Bool.false_eq_true, if_false, hfind, hdecode, hlines]

namespace Ast.Json

theorem scanMagnitude_nines {n : Nat} (h : Number.digitLimit < n + 1) :
    scanMagnitude false (List.replicate (n + 1) '9') = .error (.longInteger (n + 1)) := by
  have hwhole : wholeDigits (List.replicate (n + 1) '9') = (List.replicate (n + 1) '9', []) := by
    have hdigits : ∀ c ∈ List.replicate (n + 1) '9', c.isDigit = true := by
      intro c hc
      rw [List.eq_of_mem_replicate hc]
      rfl
    change spanDigits (List.replicate (n + 1) '9') = _
    rw [spanDigits, List.takeWhile_eq_self_iff.mpr hdigits, List.dropWhile_eq_nil_iff.mpr hdigits]
  simp [scanMagnitude, hwhole, afterParts?, afterFraction?, afterExponent?, h]

theorem scalar_nines {n : Nat} (h : Number.digitLimit < n + 1) :
    scalar (List.replicate (n + 1) '9') = .error (.longInteger (n + 1)) := by
  have hscan : scanScalar (List.replicate (n + 1) '9') = .error (.longInteger (n + 1)) := by
    rw [← scanMagnitude_nines h, List.replicate_succ]
    unfold scanScalar
    have hword : (words.find? fun w => w.1.isPrefixOf ('9' :: List.replicate n '9')) = none := by
      simp [words, List.isPrefixOf]
    rw [hword]
    rfl
  unfold scalar
  split
  · simp_all
  · simp_all

theorem parse_nines (limit : Nat) {n : Nat} (h : Number.digitLimit < n + 1) :
    parse limit (List.replicate (n + 1) '9') = .error (.longInteger (n + 1)) := by
  have hvalue : value limit (List.replicate (n + 1) '9') = .error (.longInteger (n + 1)) := by
    rw [← scalar_nines h, List.replicate_succ, value]
    simp [Text.after?]
  have hstart : value limit (skipBlank (List.replicate (n + 1) '9')).1 =
      .error (.longInteger (n + 1)) := hvalue
  unfold parse
  split
  · simp_all [List.replicate_succ]
  · rw [hstart]

end Ast.Json

theorem loadTree_nines (room : Nat) {n : Nat} (h : Number.digitLimit < n + 1) :
    loadTree room (ninesDisk (n + 1)) strayPath = .error (.longInteger (n + 1)) := by
  rw [loadTree, readText_nines]
  simp only [treeOf, Json.parse_nines _ h]

/-- Not every failure of loading is an input fault: an integer may have too many digits. -/
theorem not_all_input_reported :
    ¬ ∀ (disk : Disk) (path : Path), path.hasNull = false →
      (∃ tree, loadTree unitRoom disk path = .ok tree) ∨
        ∃ f, loadTree unitRoom disk path = .error (.input f) := by
  intro hall
  have hload : loadTree unitRoom (ninesDisk 4301) strayPath = .error (.longInteger 4301) :=
    loadTree_nines unitRoom (by decide)
  rcases hall (ninesDisk 4301) strayPath (by decide) with ⟨tree, hok⟩ | ⟨f, hinput⟩
  · rw [hload] at hok
    cases hok
  · rw [hload] at hinput
    cases hinput

end PrefixLint
