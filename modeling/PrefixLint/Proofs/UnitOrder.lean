import Mathlib.Data.List.Induction
import Mathlib.Data.List.Lex
import Mathlib.Data.String.Basic
import PrefixLint.Proofs.PatternSearch
import PrefixLint.Proofs.UnitDiscovery

/-!
# Which units there are, and their order

A path that is no directory stands for itself. A directory stands for the files that some pattern
matches below it, in the order of their names, and this order leaves no choice: the files of one
directory have one root, so their names tell them apart. The units of a run are what its paths stand
for, one after the other, each unit where it first occurs.

So the patterns count only as a set. And since no unit is a directory, the units of a run stand for
themselves when they are given as paths, whatever the patterns are then.
-/

namespace PrefixLint

namespace Disk.Path

def Before (p q : Path) : Prop := List.Lex (· < ·) p.key q.key

theorem namesLe_iff {as bs : List String} : namesLe as bs = true ↔ as = bs ∨ as < bs := by
  fun_induction namesLe as bs with
  | case1 bs =>
    cases bs with
    | nil => simp
    | cons b bs => simp [List.nil_lt_cons]
  | case2 a as => simp
  | case3 as b bs ih => simp [ih]
  | case4 a as b bs hne => simp [List.cons_lt_cons_iff, hne, le_iff_lt_or_eq]

theorem le_iff {p q : Path} : p.le q = true ↔ p.key ≤ q.key :=
  namesLe_iff.trans le_iff_eq_or_lt.symm

theorem eq_of_key {p q : Path} (hroot : p.root = q.root) (h : p.key = q.key) : p = q := by
  obtain ⟨root, names⟩ := p
  obtain ⟨root', names'⟩ := q
  obtain rfl : root = root' := hroot
  cases root <;> simpa [key] using h

theorem Before.irrefl (p : Path) : ¬ Before p p := lt_irrefl p.key

theorem Before.asymm {p q : Path} (h : Before p q) : ¬ Before q p :=
  lt_asymm (show p.key < q.key from h)

theorem sorted_mergeSort (l : List Path) :
    (l.mergeSort le).Pairwise fun p q => p.key ≤ q.key := by
  have htrans : ∀ p q r : Path, p.le q = true → q.le r = true → p.le r = true := by
    intro p q r hpq hqr
    exact le_iff.mpr ((le_iff.mp hpq).trans (le_iff.mp hqr))
  have htotal : ∀ p q : Path, (p.le q || q.le p) = true := by
    intro p q
    rw [Bool.or_eq_true, le_iff, le_iff]
    exact le_total p.key q.key
  exact (List.pairwise_mergeSort htrans htotal l).imp le_iff.mp

theorem ascending_of_sorted {root : Root} {l : List Path} (hroot : ∀ p ∈ l, p.root = root)
    (hnodup : l.Nodup) (h : l.Pairwise fun p q => p.key ≤ q.key) : l.Pairwise Before := by
  refine (h.and hnodup).imp_of_mem ?_
  rintro p q hp hq ⟨hle, hne⟩
  have hkey : p.key ≠ q.key := fun heq => hne (eq_of_key ((hroot p hp).trans (hroot q hq).symm) heq)
  exact lt_of_le_of_ne hle hkey

theorem eq_of_ascending {l m : List Path} (hl : l.Pairwise Before) (hm : m.Pairwise Before)
    (h : ∀ p, p ∈ l ↔ p ∈ m) : l = m := by
  have hnodup : ∀ {k : List Path}, k.Pairwise Before → k.Nodup := by
    intro k hk
    refine hk.imp ?_
    rintro p q hpq rfl
    exact Before.irrefl p hpq
  have hperm : l.Perm m := (List.perm_ext_iff_of_nodup (hnodup hl) (hnodup hm)).mpr h
  exact hperm.eq_of_pairwise (fun p q _ _ hpq hqp => absurd hqp hpq.asymm) hl hm

end Disk.Path

open Disk

theorem filesBelow_ascending {disk : Disk} {patterns : List String} {directory : Path}
    {found : List Path} (hdirectory : disk.isDirectory directory = .ok true)
    (h : filesBelow disk patterns directory = .ok found) : found.Pairwise Path.Before := by
  -- What a search finds has the root of the directory, so different files differ in their names.
  have hroot : ∀ p ∈ found, p.root = directory.root := by
    intro p hp
    obtain ⟨pattern, -, hmatches, -⟩ := (mem_filesBelow_iff hdirectory h).mp hp
    exact hmatches.root_eq
  obtain ⟨all, -, rfl⟩ := map_eq_ok.mp h
  have hnodup : (all.eraseDups.mergeSort Path.le).Nodup :=
    (List.mergeSort_perm _ _).nodup_iff.mpr (nodup_eraseDups all)
  exact Path.ascending_of_sorted hroot hnodup (Path.sorted_mergeSort _)

inductive StandsFor (disk : Disk) (patterns : List String) (path : Path) : List Path → Prop where
  | itself (other : disk.isDirectory path = .ok false) : StandsFor disk patterns path [path]
  | files {found : List Path} (directory : disk.isDirectory path = .ok true)
      (ascending : found.Pairwise Path.Before)
      (members : ∀ p, p ∈ found ↔
        ∃ pattern ∈ patterns, disk.Matches path pattern p ∧ disk.isFile p = .ok true) :
      StandsFor disk patterns path found

theorem standsFor_of_unitsAt {disk : Disk} {patterns : List String} {path : Path}
    {part : List Path} (h : unitsAt disk patterns path = .ok part) :
    StandsFor disk patterns path part := by
  obtain ⟨isDirectory, hanswer, h⟩ := bind_eq_ok.mp h
  have hdirectory := mapError_eq_ok.mp hanswer
  cases isDirectory with
  | true =>
    exact .files hdirectory (filesBelow_ascending hdirectory h)
      fun p => mem_filesBelow_iff hdirectory h
  | false =>
    cases h
    exact .itself hdirectory

theorem StandsFor.mem_iff {disk : Disk} {patterns : List String} {path : Path} {part : List Path}
    (h : StandsFor disk patterns path part) {p : Path} :
    p ∈ part ↔ p = path ∧ disk.isDirectory p = .ok false ∨
      disk.isDirectory path = .ok true ∧
        ∃ pattern ∈ patterns, disk.Matches path pattern p ∧ disk.isFile p = .ok true := by
  cases h with
  | itself hother =>
    rw [List.mem_singleton]
    constructor
    · rintro rfl
      exact Or.inl ⟨rfl, hother⟩
    · rintro (⟨rfl, -⟩ | ⟨hdirectory, -⟩)
      · rfl
      · cases hother.symm.trans hdirectory
  | files hdirectory _ hmembers =>
    rw [hmembers]
    constructor
    · exact fun hp => Or.inr ⟨hdirectory, hp⟩
    · rintro (⟨rfl, hother⟩ | ⟨-, hp⟩)
      · cases hother.symm.trans hdirectory
      · exact hp

/-- Every search by a pattern below one of the paths comes to its end. -/
def Searchable (disk : Disk) (patterns : List String) (paths : List Path) : Prop :=
  ∀ directory ∈ paths, disk.isDirectory directory = .ok true →
    ∀ pattern ∈ patterns, ∃ found, filesMatching disk directory pattern = .ok found

theorem filesBelow_isOk_iff {disk : Disk} {patterns : List String} {directory : Path} :
    (∃ found, filesBelow disk patterns directory = .ok found) ↔
      ∀ pattern ∈ patterns, ∃ found, filesMatching disk directory pattern = .ok found := by
  rw [← flatMapM_isOk_iff]
  constructor
  · rintro ⟨found, hfound⟩
    obtain ⟨all, hall, -⟩ := map_eq_ok.mp hfound
    exact ⟨all, hall⟩
  · rintro ⟨all, hall⟩
    exact ⟨_, map_eq_ok.mpr ⟨all, hall, rfl⟩⟩

theorem unitsAt_isOk_iff {disk : Disk} {patterns : List String} {path : Path} :
    (∃ part, unitsAt disk patterns path = .ok part) ↔
      (∃ answer, disk.isDirectory path = .ok answer) ∧
        (disk.isDirectory path = .ok true →
          ∀ pattern ∈ patterns, ∃ found, filesMatching disk path pattern = .ok found) := by
  rw [unitsAt, ← filesBelow_isOk_iff]
  cases disk.isDirectory path with
  | error u => simp [Except.mapError, bind, Except.bind]
  | ok isDirectory =>
    cases isDirectory with
    | true => simp [Except.mapError, bind, Except.bind]
    | false => simp [Except.mapError, bind, Except.bind, pure, Except.pure]

def firstOccurrences (l : List Path) : List Path :=
  (l.zipIdx.filter fun x => x.1 ∉ l.take x.2).map (·.1)

theorem firstOccurrences_concat (l : List Path) (p : Path) :
    firstOccurrences (l ++ [p]) = firstOccurrences l ++ if p ∈ l then [] else [p] := by
  have hearlier : ∀ x ∈ l.zipIdx, (l ++ [p]).take x.2 = l.take x.2 := by
    intro x hx
    have hlt : x.2 < l.length := by simpa using List.snd_lt_add_of_mem_zipIdx hx
    exact List.take_append_of_le_length hlt.le
  have hfront : l.zipIdx.filter (fun x => x.1 ∉ (l ++ [p]).take x.2) =
      l.zipIdx.filter (fun x => x.1 ∉ l.take x.2) := by
    refine List.filter_congr fun x hx => ?_
    rw [hearlier x hx]
  rw [firstOccurrences, List.zipIdx_append, List.filter_append, hfront, List.map_append]
  congr 1
  by_cases hp : p ∈ l
  · simp [hp]
  · simp [hp]

theorem eraseDups_eq_firstOccurrences (l : List Path) : l.eraseDups = firstOccurrences l := by
  induction l using List.reverseRecOn with
  | nil => rfl
  | append_singleton l p ih =>
    rw [List.eraseDups_append, firstOccurrences_concat, ih]
    by_cases hp : p ∈ l
    · simp [List.removeAll, hp]
    · simp [List.removeAll, hp, List.eraseDups_cons]

theorem eraseDups_of_nodup {l : List Path} (h : l.Nodup) : l.eraseDups = l := by
  induction l with
  | nil => rfl
  | cons p rest ih =>
    obtain ⟨hp, hrest⟩ := List.nodup_cons.mp h
    have hkept : rest.filter (fun q => !q == p) = rest := by
      refine List.filter_eq_self.mpr fun q hq => ?_
      have hne : q ≠ p := fun heq => hp (heq ▸ hq)
      simpa using hne
    rw [List.eraseDups_cons, hkept, ih hrest]

section Units

variable {disk : Disk} {patterns : List String} {paths units : List Path}

theorem standsFor_of_unitPaths (h : unitPaths disk patterns paths = .ok units) :
    ∃ parts, List.Forall₂ (StandsFor disk patterns) paths parts ∧
      units = firstOccurrences parts.flatten := by
  obtain ⟨all, hall, rfl⟩ := map_eq_ok.mp h
  obtain ⟨parts, hparts, rfl⟩ := parts_of_flatMapM hall
  exact ⟨parts, hparts.imp fun _ _ => standsFor_of_unitsAt, eraseDups_eq_firstOccurrences _⟩

theorem mem_unitPaths_iff (h : unitPaths disk patterns paths = .ok units) {p : Path} :
    p ∈ units ↔ (p ∈ paths ∧ disk.isDirectory p = .ok false) ∨
      ∃ directory ∈ paths, disk.isDirectory directory = .ok true ∧
        ∃ pattern ∈ patterns, disk.Matches directory pattern p ∧ disk.isFile p = .ok true := by
  obtain ⟨all, hall, rfl⟩ := map_eq_ok.mp h
  rw [List.mem_eraseDups, mem_flatMapM_iff hall]
  constructor
  · rintro ⟨path, hpath, part, hpart, hp⟩
    rcases (standsFor_of_unitsAt hpart).mem_iff.mp hp with ⟨rfl, hother⟩ | hfiles
    · exact Or.inl ⟨hpath, hother⟩
    · exact Or.inr ⟨path, hpath, hfiles⟩
  · rintro (⟨hp, hother⟩ | ⟨directory, hdirectory, hfiles⟩)
    · obtain ⟨part, hpart, -⟩ := part_of_mem_flatMapM hall hp
      exact ⟨p, hp, part, hpart, (standsFor_of_unitsAt hpart).mem_iff.mpr (Or.inl ⟨rfl, hother⟩)⟩
    · obtain ⟨part, hpart, -⟩ := part_of_mem_flatMapM hall hdirectory
      exact ⟨directory, hdirectory, part, hpart,
        (standsFor_of_unitsAt hpart).mem_iff.mpr (Or.inr hfiles)⟩

theorem unitPaths_isOk_iff :
    (∃ units, unitPaths disk patterns paths = .ok units) ↔
      (∀ p ∈ paths, ∃ answer, disk.isDirectory p = .ok answer) ∧
        Searchable disk patterns paths := by
  have hpaths : (∃ all, paths.flatMapM (unitsAt disk patterns) = .ok all) ↔
      (∀ p ∈ paths, ∃ answer, disk.isDirectory p = .ok answer) ∧
        Searchable disk patterns paths := by
    simp only [flatMapM_isOk_iff, unitsAt_isOk_iff, Searchable, forall_and]
  rw [← hpaths, unitPaths]
  constructor
  · rintro ⟨units, hunits⟩
    obtain ⟨all, hall, -⟩ := map_eq_ok.mp hunits
    exact ⟨all, hall⟩
  · rintro ⟨all, hall⟩
    exact ⟨all.eraseDups, map_eq_ok.mpr ⟨all, hall, rfl⟩⟩

theorem isDirectory_of_isFile {p : Path} (h : disk.isFile p = .ok true) :
    disk.isDirectory p = .ok false := by
  obtain ⟨entry, hentry, hfile⟩ := map_eq_ok.mp h
  rw [isDirectory, hentry]
  cases entry with
  | none => cases hfile
  | some entry =>
    have hother : entry.isDirectory = false := by simpa using hfile
    simp [Except.map, hother]

theorem not_directory_of_mem_unitPaths (h : unitPaths disk patterns paths = .ok units) {p : Path}
    (hp : p ∈ units) : disk.isDirectory p = .ok false := by
  rcases (mem_unitPaths_iff h).mp hp with ⟨-, hother⟩ | ⟨_, -, -, _, -, -, hfile⟩
  · exact hother
  · exact isDirectory_of_isFile hfile

theorem unitsAt_of_not_directory {p : Path} (h : disk.isDirectory p = .ok false) :
    unitsAt disk patterns p = .ok [p] := by
  rw [unitsAt, h]
  rfl

theorem unitsAt_eq_of_same_patterns {others : List String} {path : Path}
    (hsame : ∀ pattern, pattern ∈ others ↔ pattern ∈ patterns)
    (hsearch : disk.isDirectory path = .ok true →
      ∀ pattern ∈ patterns, ∃ found, filesMatching disk path pattern = .ok found) :
    unitsAt disk others path = unitsAt disk patterns path := by
  rw [unitsAt, unitsAt]
  cases hanswer : disk.isDirectory path with
  | error u => rfl
  | ok isDirectory =>
    cases isDirectory with
    | false => rfl
    | true =>
      have hfound := hsearch hanswer
      obtain ⟨found, hleft⟩ := filesBelow_isOk_iff.mpr hfound
      obtain ⟨found', hright⟩ := filesBelow_isOk_iff.mpr fun pattern hp =>
        hfound pattern ((hsame pattern).mp hp)
      have hmembers : ∀ p, p ∈ found' ↔ p ∈ found := by
        intro p
        rw [mem_filesBelow_iff hanswer hleft, mem_filesBelow_iff hanswer hright]
        simp only [hsame]
      -- The two lists may be gathered in different orders, but both ascend.
      have heq := Path.eq_of_ascending (filesBelow_ascending hanswer hright)
        (filesBelow_ascending hanswer hleft) hmembers
      change filesBelow disk others path = filesBelow disk patterns path
      rw [hleft, hright, heq]

theorem unitsAt_of_ascending {directory : Path} {all found : List Path}
    (hdirectory : disk.isDirectory directory = .ok true)
    (hall : patterns.flatMapM (filesMatching disk directory) = .ok all)
    (hsame : ∀ p, p ∈ all ↔ p ∈ found) (hfound : found.Pairwise Path.Before) :
    unitsAt disk patterns directory = .ok found := by
  have hbelow : filesBelow disk patterns directory = .ok (all.eraseDups.mergeSort Path.le) := by
    rw [filesBelow, hall]
    rfl
  have heq : all.eraseDups.mergeSort Path.le = found := by
    refine Path.eq_of_ascending (filesBelow_ascending hdirectory hbelow) hfound fun p => ?_
    rw [List.mem_mergeSort, List.mem_eraseDups, hsame]
  rw [unitsAt, hdirectory, ← heq]
  exact hbelow

end Units

/-- There is a list of units exactly if the system says of every path whether it is a directory and
the searches come to their end. It holds each unit once: the paths that are no directories and the
files that a pattern matches below a directory, in the order in which the paths stand for them. -/
theorem unitPaths_exact (disk : Disk) (patterns : List String) (paths : List Path) :
    ((∃ units, unitPaths disk patterns paths = .ok units) ↔
      (∀ p ∈ paths, ∃ answer, disk.isDirectory p = .ok answer) ∧
        Searchable disk patterns paths) ∧
    ∀ units, unitPaths disk patterns paths = .ok units →
      units.Nodup ∧
      (∀ p, p ∈ units ↔ (p ∈ paths ∧ disk.isDirectory p = .ok false) ∨
        ∃ directory ∈ paths, disk.isDirectory directory = .ok true ∧
          ∃ pattern ∈ patterns, disk.Matches directory pattern p ∧ disk.isFile p = .ok true) ∧
      ∃ parts, List.Forall₂ (StandsFor disk patterns) paths parts ∧
        units = firstOccurrences parts.flatten := by
  refine ⟨unitPaths_isOk_iff, fun units hunits => ⟨unitPaths_nodup hunits, fun p => ?_, ?_⟩⟩
  · exact mem_unitPaths_iff hunits
  · exact standsFor_of_unitPaths hunits

/-- A disk where the order of names is not that of texts: the directory comes first. -/
def nestedDisk : Disk where
  top := .directory [("src", .directory [("a.json", .file []), ("a b.json", .file []),
    ("a", .directory [("x.json", .file [])])])]
  working := []

def nestedPatterns : List String := ["a.json", "**/x.json", "a b.json"]

def nestedPaths : List Path := ["lost.json", "src/a", "./src", "src//a.json"].map Path.ofString

def nestedUnits : List Path :=
  ["lost.json", "src/a/x.json", "src/a b.json", "src/a.json"].map Path.ofString

theorem unitsAt_nested_src :
    unitsAt nestedDisk nestedPatterns (Path.ofString "./src") = .ok nestedUnits.tail := by
  have hall : nestedPatterns.flatMapM (filesMatching nestedDisk (Path.ofString "./src")) =
      .ok (["src/a.json", "src/a/x.json", "src/a b.json"].map Path.ofString) := by
    decide +kernel
  have hperm : (["src/a.json", "src/a/x.json", "src/a b.json"].map Path.ofString).Perm
      nestedUnits.tail := by
    decide +kernel
  have hascending : nestedUnits.tail.Pairwise Path.Before := by
    unfold Path.Before
    decide +kernel
  exact unitsAt_of_ascending (by decide +kernel) hall (fun _ => hperm.mem_iff) hascending

theorem unitsAt_nested_a :
    unitsAt nestedDisk nestedPatterns (Path.ofString "src/a") =
      .ok [Path.ofString "src/a/x.json"] := by
  have hall : nestedPatterns.flatMapM (filesMatching nestedDisk (Path.ofString "src/a")) =
      .ok [Path.ofString "src/a/x.json"] := by
    decide +kernel
  exact unitsAt_of_ascending (by decide +kernel) hall (fun _ => Iff.rfl)
    (List.pairwise_singleton _ _)

theorem unitPaths_nested : unitPaths nestedDisk nestedPatterns nestedPaths = .ok nestedUnits := by
  have hlost : unitsAt nestedDisk nestedPatterns (Path.ofString "lost.json") =
      .ok [Path.ofString "lost.json"] :=
    unitsAt_of_not_directory (by decide +kernel)
  have hfile : unitsAt nestedDisk nestedPatterns (Path.ofString "src//a.json") =
      .ok [Path.ofString "src//a.json"] :=
    unitsAt_of_not_directory (by decide +kernel)
  rw [unitPaths, nestedPaths]
  simp only [List.map_cons, List.map_nil, flatMapM_cons_eq, hlost, unitsAt_nested_a,
    unitsAt_nested_src, hfile]
  decide +kernel

theorem unitPaths_exact_nested :
    unitPaths nestedDisk nestedPatterns nestedPaths = .ok nestedUnits ∧
    Searchable nestedDisk nestedPatterns nestedPaths ∧
    ∃ parts, List.Forall₂ (StandsFor nestedDisk nestedPatterns) nestedPaths parts ∧
      nestedUnits = firstOccurrences parts.flatten := by
  obtain ⟨hreturns, hexact⟩ := unitPaths_exact nestedDisk nestedPatterns nestedPaths
  obtain ⟨-, -, hparts⟩ := hexact nestedUnits unitPaths_nested
  exact ⟨unitPaths_nested, (hreturns.mp ⟨_, unitPaths_nested⟩).2, hparts⟩

/-- The patterns count only as a set, and units stand for themselves under any patterns. -/
theorem unitPaths_stable (disk : Disk) (patterns : List String) (paths : List Path) :
    (∀ others : List String, (∀ pattern, pattern ∈ others ↔ pattern ∈ patterns) →
      Searchable disk patterns paths →
      unitPaths disk others paths = unitPaths disk patterns paths) ∧
    ∀ others : List String,
      (unitPaths disk patterns paths >>= unitPaths disk others) =
        unitPaths disk patterns paths := by
  constructor
  · intro others hsame hsearch
    rw [unitPaths, unitPaths,
      flatMapM_congr fun p hp => unitsAt_eq_of_same_patterns hsame (hsearch p hp)]
  · intro others
    cases hunits : unitPaths disk patterns paths with
    | error e => rfl
    | ok units =>
      have hself : ∀ p ∈ units, unitsAt disk others p = .ok [p] := fun p hp =>
        unitsAt_of_not_directory (not_directory_of_mem_unitPaths hunits hp)
      -- No unit is a directory, so the patterns are not even read.
      change unitPaths disk others units = .ok units
      rw [unitPaths, flatMapM_of_ok hself, List.flatMap_singleton']
      exact congrArg Except.ok (eraseDups_of_nodup (unitPaths_nodup hunits))

theorem unitPaths_stable_nested :
    unitPaths nestedDisk ["a b.json", "**/x.json", "a.json", "**/x.json"] nestedPaths =
      .ok nestedUnits ∧
    unitPaths nestedDisk ["**"] nestedUnits = .ok nestedUnits := by
  obtain ⟨hset, hagain⟩ := unitPaths_stable nestedDisk nestedPatterns nestedPaths
  have hsame : ∀ pattern, pattern ∈ ["a b.json", "**/x.json", "a.json", "**/x.json"] ↔
      pattern ∈ nestedPatterns := by
    intro pattern
    simp only [nestedPatterns, List.mem_cons, List.not_mem_nil, or_false]
    tauto
  have hsearch := (unitPaths_isOk_iff.mp ⟨nestedUnits, unitPaths_nested⟩).2
  have hunits := hagain ["**"]
  rw [unitPaths_nested] at hunits
  exact ⟨(hset _ hsame hsearch).trans unitPaths_nested, hunits⟩

end PrefixLint
