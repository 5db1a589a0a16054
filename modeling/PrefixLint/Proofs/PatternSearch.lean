import PrefixLint.Units
import PrefixLint.Proofs.Sequences

/-!
# What a pattern matches

The names of a pattern lead from a path to others, one name after the other. A search by the pattern
finds exactly the files among these. All that it finds has the root of the path where it began.
-/

namespace PrefixLint

namespace Disk

/-- Whether a name of a pattern has to be a directory. -/
def mustEnter (directoriesOnly : Bool) (rest : List Selector) : Bool :=
  directoriesOnly || !rest.isEmpty

def offers (disk : Disk) (enter : Bool) (path : Path) : Except Unsearchable Bool :=
  if enter then disk.isDirectory path else disk.exists? path

/-- The names of a pattern lead from one path to another. -/
inductive Leads (disk : Disk) (directoriesOnly : Bool) : List Selector → Path → Path → Prop where
  | arrived (path : Path) : Leads disk directoriesOnly [] path path
  | named {text : String} {rest : List Selector} {path target : Path}
      (there : disk.offers (mustEnter directoriesOnly rest) (path.child text) = .ok true)
      (onward : Leads disk directoriesOnly rest (path.child text) target) :
      Leads disk directoriesOnly (.name text :: rest) path target
  | listed {glyphs : List Glyph} {rest : List Selector} {path target : Path}
      {entries : List (String × Entry)} {e : String × Entry}
      (here : disk.entry? path = .ok (some (.directory entries))) (there : e ∈ entries)
      (enters : mustEnter directoriesOnly rest = true → e.2.isDirectory = true)
      (suits : Glyph.matchAll glyphs e.1.toList = true)
      (onward : Leads disk directoriesOnly rest (path.child e.1) target) :
      Leads disk directoriesOnly (.wild glyphs :: rest) path target
  | deeper {rest : List Selector} {path target : Path} {entry : Entry} {names : List String}
      (here : disk.entry? path = .ok (some entry)) (there : names ∈ directoriesBelow entry)
      (onward : Leads disk directoriesOnly rest { path with names := path.names ++ names } target) :
      Leads disk directoriesOnly (.anyDepth :: rest) path target

section Search

variable {disk : Disk} {directoriesOnly : Bool} {rest : List Selector} {path target : Path}
  {found : List Path}

theorem Leads.root_eq {selectors : List Selector}
    (h : Leads disk directoriesOnly selectors path target) : target.root = path.root := by
  induction h with
  | arrived => rfl
  | named _ _ ih => exact ih
  | listed _ _ _ _ _ ih => exact ih
  | deeper _ _ _ ih => exact ih

theorem select_name {text : String} :
    select disk directoriesOnly (.name text :: rest) path = (do
      if ← disk.offers (mustEnter directoriesOnly rest) (path.child text) then
        select disk directoriesOnly rest (path.child text)
      else
        return []) := by
  rw [select, offers, mustEnter]
  split <;> rfl

theorem leads_of_mem_select {selectors : List Selector}
    (h : select disk directoriesOnly selectors path = .ok found) (hmem : target ∈ found) :
    Leads disk directoriesOnly selectors path target ∧ disk.isFile target = .ok true := by
  induction selectors generalizing path found with
  | nil =>
    obtain ⟨isFile, hfile, h⟩ := bind_eq_ok.mp h
    cases isFile with
    | true =>
      cases h
      rw [List.mem_singleton.mp hmem]
      exact ⟨.arrived path, hfile⟩
    | false =>
      cases h
      cases hmem
  | cons s rest ih =>
    cases s with
    | name text =>
      rw [select_name] at h
      obtain ⟨there, hthere, h⟩ := bind_eq_ok.mp h
      cases there with
      | true =>
        obtain ⟨honward, hfile⟩ := ih h hmem
        exact ⟨.named hthere honward, hfile⟩
      | false =>
        cases h
        cases hmem
    | wild glyphs =>
      obtain ⟨entry, hentry, h⟩ := bind_eq_ok.mp h
      split at h
      · next entries =>
        obtain ⟨e, he, part, hpart, hmem⟩ := exists_of_mem_flatMapM h hmem
        obtain ⟨honward, hfile⟩ := ih hpart hmem
        obtain ⟨hlisted, hsuits⟩ := List.mem_filter.mp he
        simp only [Bool.and_eq_true, Bool.or_eq_true] at hsuits
        refine ⟨.listed hentry hlisted (fun henter => ?_) hsuits.2 honward, hfile⟩
        -- The search asks the other way round: an entry is a directory, or none has to be.
        rcases hsuits.1 with hdirectory | hlast
        · exact hdirectory
        · rw [mustEnter] at henter
          simp [henter] at hlast
      · cases h
        cases hmem
    | anyDepth =>
      obtain ⟨entry, hentry, h⟩ := bind_eq_ok.mp h
      obtain ⟨names, hnames, part, hpart, hmem⟩ := exists_of_mem_flatMapM h hmem
      obtain ⟨honward, hfile⟩ := ih hpart hmem
      cases entry with
      | none => cases hnames
      | some entry => exact ⟨.deeper hentry hnames honward, hfile⟩

theorem mem_select_of_leads {selectors : List Selector}
    (hleads : Leads disk directoriesOnly selectors path target)
    (hfile : disk.isFile target = .ok true)
    (h : select disk directoriesOnly selectors path = .ok found) : target ∈ found := by
  induction hleads generalizing found with
  | arrived path =>
    obtain ⟨isFile, hself, h⟩ := bind_eq_ok.mp h
    cases hself.symm.trans hfile
    cases h
    exact List.mem_singleton_self path
  | named hthere _ ih =>
    rw [select_name, hthere] at h
    exact ih hfile h
  | @listed glyphs rest path target entries e hhere hlisted henters hsuits _ ih =>
    obtain ⟨entry, hentry, h⟩ := bind_eq_ok.mp h
    cases hentry.symm.trans hhere
    have he : e ∈ entries.filter fun e =>
        (e.2.isDirectory || !(directoriesOnly || !rest.isEmpty)) &&
          Glyph.matchAll glyphs e.1.toList := by
      rw [List.mem_filter, hsuits, Bool.and_true, Bool.or_eq_true]
      refine ⟨hlisted, ?_⟩
      by_cases henter : mustEnter directoriesOnly rest = true
      · exact Or.inl (henters henter)
      · exact Or.inr (by simpa [mustEnter] using henter)
    obtain ⟨part, hpart, hsub⟩ := part_of_mem_flatMapM h he
    exact hsub (ih hfile hpart)
  | deeper hhere hbelow _ ih =>
    obtain ⟨entry, hentry, h⟩ := bind_eq_ok.mp h
    cases hentry.symm.trans hhere
    obtain ⟨part, hpart, hsub⟩ := part_of_mem_flatMapM h hbelow
    exact hsub (ih hfile hpart)

theorem mem_select_iff {selectors : List Selector}
    (h : select disk directoriesOnly selectors path = .ok found) :
    target ∈ found ↔
      Leads disk directoriesOnly selectors path target ∧ disk.isFile target = .ok true :=
  ⟨leads_of_mem_select h, fun ⟨hleads, hfile⟩ => mem_select_of_leads hleads hfile h⟩

end Search

def Matches (disk : Disk) (directory : Path) (pattern : String) (target : Path) : Prop :=
  ∃ p, Pattern.ofString pattern = .ok p ∧
    Leads disk p.directoriesOnly p.selectors directory target

theorem Matches.root_eq {disk : Disk} {directory target : Path} {pattern : String}
    (h : disk.Matches directory pattern target) : target.root = directory.root := by
  obtain ⟨p, -, hleads⟩ := h
  exact hleads.root_eq

end Disk

open Disk

theorem mem_filesMatching_iff {disk : Disk} {directory target : Path} {pattern : String}
    {found : List Path} (hdirectory : disk.isDirectory directory = .ok true)
    (h : filesMatching disk directory pattern = .ok found) :
    target ∈ found ↔ disk.Matches directory pattern target ∧ disk.isFile target = .ok true := by
  obtain ⟨p, hp, h⟩ := bind_eq_ok.mp h
  have hpattern := mapError_eq_ok.mp hp
  have hglob := mapError_eq_ok.mp h
  rw [glob, hdirectory] at hglob
  rw [mem_select_iff hglob]
  constructor
  · rintro ⟨hleads, hfile⟩
    exact ⟨⟨p, hpattern, hleads⟩, hfile⟩
  · rintro ⟨⟨p', hpattern', hleads⟩, hfile⟩
    cases hpattern.symm.trans hpattern'
    exact ⟨hleads, hfile⟩

theorem mem_filesBelow_iff {disk : Disk} {directory target : Path} {patterns : List String}
    {found : List Path} (hdirectory : disk.isDirectory directory = .ok true)
    (h : filesBelow disk patterns directory = .ok found) :
    target ∈ found ↔
      ∃ pattern ∈ patterns, disk.Matches directory pattern target ∧
        disk.isFile target = .ok true := by
  obtain ⟨all, hall, rfl⟩ := map_eq_ok.mp h
  rw [List.mem_mergeSort, List.mem_eraseDups, mem_flatMapM_iff hall]
  constructor
  · rintro ⟨pattern, hpattern, part, hpart, hmem⟩
    exact ⟨pattern, hpattern, (mem_filesMatching_iff hdirectory hpart).mp hmem⟩
  · rintro ⟨pattern, hpattern, htarget⟩
    obtain ⟨part, hpart, -⟩ := part_of_mem_flatMapM hall hpattern
    exact ⟨pattern, hpattern, part, hpart, (mem_filesMatching_iff hdirectory hpart).mpr htarget⟩

end PrefixLint
