import Mathlib.Data.List.Nodup
import PrefixLint.Units
import PrefixLint.Proofs.PathText
import PrefixLint.Proofs.Sequences

/-!
# Discovery of units

A disk is legal when all names on it are. On a legal disk, searching from a legal path by patterns
finds legal paths only: a name of a pattern is legal as it was read, and every other name comes from
the disk. So the units that legal paths stand for are legal. Each of them is listed once, and then
their texts are different as well.
-/

namespace PrefixLint

namespace Disk

open Disk.Path

mutual

def Entry.legal : Entry → Bool
  | .file _ => true
  | .directory entries => legalEntries entries

def legalEntries : List (String × Entry) → Bool
  | [] => true
  | (name, entry) :: rest => decide (LegalName name) && entry.legal && legalEntries rest

end

def legal (disk : Disk) : Bool := disk.top.legal

theorem legalEntries_iff {entries : List (String × Entry)} :
    legalEntries entries = true ↔ ∀ e ∈ entries, LegalName e.1 ∧ e.2.legal = true := by
  induction entries with
  | nil => simp [legalEntries]
  | cons e rest ih =>
    obtain ⟨name, entry⟩ := e
    simp [legalEntries, ih]

theorem mem_of_lookup {entries : List (String × Entry)} {name : String} {entry : Entry}
    (h : entries.lookup name = some entry) : (name, entry) ∈ entries := by
  obtain ⟨before, after, rfl, -⟩ := List.lookup_eq_some_iff.mp h
  exact List.mem_append_right before List.mem_cons_self

def Place.Legal (p : Place) : Prop := p.here.legal = true ∧ ∀ e ∈ p.above, e.legal = true

theorem step_legal {p q : Place} {name : String} (hp : p.Legal) (h : p.step name = .ok q) :
    q.Legal := by
  obtain ⟨here, above⟩ := p
  obtain ⟨hhere, habove⟩ := hp
  cases here with
  | file bytes => cases h
  | directory entries =>
    simp only [Place.step] at h
    split at h
    · cases above with
      | nil =>
        cases h
        exact ⟨hhere, habove⟩
      | cons parent above =>
        cases h
        exact ⟨habove parent List.mem_cons_self,
          fun e he => habove e (List.mem_cons_of_mem parent he)⟩
    · split at h
      · cases h
      · cases hl : entries.lookup name with
        | none =>
          rw [hl] at h
          cases h
        | some entry =>
          rw [hl] at h
          cases h
          have hentry := (legalEntries_iff.mp hhere _ (mem_of_lookup hl)).2
          refine ⟨hentry, fun e he => ?_⟩
          rcases List.mem_cons.mp he with rfl | he
          · exact hhere
          · exact habove e he

theorem follow_legal {p q : Place} {names : List String} (hp : p.Legal)
    (h : p.follow names = .ok q) : q.Legal := by
  induction names generalizing p with
  | nil =>
    cases h
    exact hp
  | cons name rest ih =>
    simp only [Place.follow] at h
    cases hs : p.step name with
    | error f =>
      rw [hs] at h
      cases h
    | ok next =>
      rw [hs] at h
      exact ih (step_legal hp hs) h

theorem find_legal {disk : Disk} (hd : disk.legal = true) {path : Path} {entry : Entry}
    (h : disk.find path = .ok entry) : entry.legal = true := by
  unfold find at h
  split at h
  · cases h
  · split at h
    · cases h
    · obtain ⟨place, hplace, rfl⟩ := map_eq_ok.mp h
      have htop : Place.Legal ⟨disk.top, []⟩ := ⟨hd, fun e he => absurd he List.not_mem_nil⟩
      exact (follow_legal htop hplace).1

theorem entry?_legal {disk : Disk} (hd : disk.legal = true) {path : Path} {entry : Entry}
    (h : disk.entry? path = .ok (some entry)) : entry.legal = true := by
  unfold entry? at h
  split at h
  · next hf =>
    cases h
    exact find_legal hd hf
  · cases h
  · cases h

mutual

theorem directoriesBelow_legal (entry : Entry) (h : entry.legal = true) :
    ∀ names ∈ directoriesBelow entry, ∀ name ∈ names, LegalName name := by
  cases entry with
  | file bytes =>
    intro names hn
    cases hn
  | directory entries =>
    intro names hn
    rw [directoriesBelow] at hn
    rcases List.mem_cons.mp hn with rfl | hn
    · intro name hname
      cases hname
    · exact directoriesAmong_legal entries h names hn

theorem directoriesAmong_legal (entries : List (String × Entry)) (h : legalEntries entries = true) :
    ∀ names ∈ directoriesAmong entries, ∀ name ∈ names, LegalName name := by
  match entries with
  | [] =>
    intro names hn
    cases hn
  | (first, entry) :: rest =>
    simp only [legalEntries, Bool.and_eq_true, decide_eq_true_eq] at h
    intro names hn
    rw [directoriesAmong] at hn
    rcases List.mem_append.mp hn with hn | hn
    · obtain ⟨below, hb, rfl⟩ := List.mem_map.mp hn
      intro name hname
      rcases List.mem_cons.mp hname with rfl | hname
      · exact h.1.1
      · exact directoriesBelow_legal entry h.1.2 below hb name hname
    · exact directoriesAmong_legal rest h.2 names hn

end

def Selector.Legal : Selector → Prop
  | .name text => LegalName text
  | .wild _ | .anyDepth => True

theorem selector_legal {text : String} (ht : LegalName text) {s : Selector}
    (h : Pattern.selector text = .ok s) : s.Legal := by
  simp only [Pattern.selector] at h
  split_ifs at h <;> cases h
  · trivial
  · trivial
  · exact ht

theorem pattern_legal {text : String} {pattern : Pattern} (h : Pattern.ofString text = .ok pattern) :
    ∀ s ∈ pattern.selectors, s.Legal := by
  obtain ⟨-, h⟩ := throw_or_eq_ok.mp h
  obtain ⟨-, h⟩ := throw_or_eq_ok.mp h
  obtain ⟨-, h⟩ := throw_or_eq_ok.mp h
  obtain ⟨selectors, hs, h⟩ := bind_eq_ok.mp h
  obtain ⟨-, h⟩ := throw_or_eq_ok.mp h
  cases h
  intro s hmem
  obtain ⟨name, hname, hsel⟩ := exists_of_mem_mapM hs hmem
  exact selector_legal (ofString_legal text name (List.mem_of_mem_take hname)) hsel

theorem child_legal {path : Path} (hp : path.Legal) {name : String} (hn : LegalName name) :
    (path.child name).Legal := by
  intro n h
  rcases List.mem_append.mp h with h | h
  · exact hp n h
  · rw [List.mem_singleton.mp h]
    exact hn

theorem append_legal {path : Path} (hp : path.Legal) {names : List String}
    (hn : ∀ name ∈ names, LegalName name) : Path.Legal { path with names := path.names ++ names } := by
  intro name h
  rcases List.mem_append.mp h with h | h
  · exact hp name h
  · exact hn name h

theorem select_name_eq_ok {disk : Disk} {directoriesOnly : Bool} {text : String}
    {rest : List Selector} {path : Path} {found : List Path}
    (h : select disk directoriesOnly (.name text :: rest) path = .ok found) :
    found = [] ∨ select disk directoriesOnly rest (path.child text) = .ok found := by
  have hfound : ∀ there : Bool,
      (if there = true then select disk directoriesOnly rest (path.child text) else pure []) =
        .ok found →
      found = [] ∨ select disk directoriesOnly rest (path.child text) = .ok found := by
    intro there hthere
    cases there with
    | true => exact Or.inr hthere
    | false =>
      cases hthere
      exact Or.inl rfl
  rw [select] at h
  -- A last name may be anything that exists, any other name must be a directory.
  split at h
  · obtain ⟨there, -, h⟩ := bind_eq_ok.mp h
    exact hfound there h
  · obtain ⟨there, -, h⟩ := bind_eq_ok.mp h
    exact hfound there h

theorem select_legal {disk : Disk} (hd : disk.legal = true) (directoriesOnly : Bool)
    {selectors : List Selector} (hs : ∀ s ∈ selectors, s.Legal) {path : Path} (hp : path.Legal)
    {found : List Path} (h : select disk directoriesOnly selectors path = .ok found) :
    ∀ p ∈ found, p.Legal := by
  induction selectors generalizing path found with
  | nil =>
    obtain ⟨isFile, -, h⟩ := bind_eq_ok.mp h
    cases isFile with
    | true =>
      cases h
      intro p hmem
      rw [List.mem_singleton.mp hmem]
      exact hp
    | false =>
      cases h
      intro p hmem
      cases hmem
  | cons s rest ih =>
    have hrest := fun s' hs' => hs s' (List.mem_cons_of_mem s hs')
    cases s with
    | name text =>
      rcases select_name_eq_ok h with rfl | h
      · intro p hmem
        cases hmem
      · exact ih hrest (child_legal hp (hs _ List.mem_cons_self)) h
    | wild glyphs =>
      obtain ⟨entry, hentry, h⟩ := bind_eq_ok.mp h
      intro p hmem
      split at h
      · next entries =>
        have hlegal := legalEntries_iff.mp (entry?_legal hd hentry)
        obtain ⟨e, he, found, hfound, hp'⟩ := exists_of_mem_flatMapM h hmem
        have hname := (hlegal e (List.mem_of_mem_filter he)).1
        exact ih hrest (child_legal hp hname) hfound p hp'
      · cases h
        cases hmem
    | anyDepth =>
      obtain ⟨entry, hentry, h⟩ := bind_eq_ok.mp h
      intro p hmem
      obtain ⟨names, hnames, found, hfound, hp'⟩ := exists_of_mem_flatMapM h hmem
      have hlegal : ∀ name ∈ names, LegalName name := by
        cases entry with
        | none => cases hnames
        | some entry => exact directoriesBelow_legal entry (entry?_legal hd hentry) names hnames
      exact ih hrest (append_legal hp hlegal) hfound p hp'

end Disk

open Disk

theorem filesMatching_legal {disk : Disk} (hd : disk.legal = true) {directory : Path}
    (hp : directory.Legal) {pattern : String} {found : List Path}
    (h : filesMatching disk directory pattern = .ok found) : ∀ p ∈ found, p.Legal := by
  obtain ⟨pattern, hpattern, h⟩ := bind_eq_ok.mp h
  obtain ⟨isDirectory, -, h⟩ := bind_eq_ok.mp (mapError_eq_ok.mp h)
  cases isDirectory with
  | true => exact select_legal hd _ (pattern_legal (mapError_eq_ok.mp hpattern)) hp h
  | false =>
    cases h
    intro p hmem
    cases hmem

theorem unitsAt_legal {disk : Disk} (hd : disk.legal = true) {patterns : List String} {path : Path}
    (hp : path.Legal) {found : List Path} (h : unitsAt disk patterns path = .ok found) :
    ∀ p ∈ found, p.Legal := by
  obtain ⟨isDirectory, -, h⟩ := bind_eq_ok.mp h
  intro p hmem
  cases isDirectory with
  | true =>
    obtain ⟨matched, hmatched, rfl⟩ := map_eq_ok.mp h
    have hm := List.mem_eraseDups.mp (List.mem_mergeSort.mp hmem)
    obtain ⟨pattern, -, found, hfound, hp'⟩ := exists_of_mem_flatMapM hmatched hm
    exact filesMatching_legal hd hp hfound p hp'
  | false =>
    cases h
    rw [List.mem_singleton.mp hmem]
    exact hp

theorem unitPaths_legal {disk : Disk} (hd : disk.legal = true) {patterns : List String}
    {paths units : List Path} (hp : ∀ p ∈ paths, p.Legal)
    (h : unitPaths disk patterns paths = .ok units) : ∀ p ∈ units, p.Legal := by
  obtain ⟨all, hall, rfl⟩ := map_eq_ok.mp h
  intro p hmem
  obtain ⟨path, hpath, found, hfound, hp'⟩ :=
    exists_of_mem_flatMapM hall (List.mem_eraseDups.mp hmem)
  exact unitsAt_legal hd (hp path hpath) hfound p hp'

theorem nodup_eraseDups {α : Type} [DecidableEq α] (l : List α) : l.eraseDups.Nodup := by
  match l with
  | [] => exact List.nodup_nil
  | a :: l =>
    rw [List.eraseDups_cons, List.nodup_cons]
    refine ⟨fun h => ?_, nodup_eraseDups _⟩
    have hkept := (List.mem_filter.mp (List.mem_eraseDups.mp h)).2
    simp at hkept
termination_by l.length
decreasing_by exact Nat.lt_succ_of_le (List.length_filter_le _ _)

theorem unitPaths_nodup {disk : Disk} {patterns : List String} {paths units : List Path}
    (h : unitPaths disk patterns paths = .ok units) : units.Nodup := by
  obtain ⟨all, -, rfl⟩ := map_eq_ok.mp h
  exact nodup_eraseDups all

theorem unitPaths_texts_nodup {disk : Disk} (hd : disk.legal = true) {patterns : List String}
    {paths units : List Path} (hp : ∀ p ∈ paths, p.Legal)
    (h : unitPaths disk patterns paths = .ok units) : (units.map Path.toString).Nodup := by
  have hlegal := unitPaths_legal hd hp h
  refine List.Nodup.map_on ?_ (unitPaths_nodup h)
  intro p hpu q hqu heq
  exact Path.toString_inj (hlegal p hpu) (hlegal q hqu) heq

end PrefixLint
