/-!
# Pieces of a text

A text is cut at every occurrence of a character. There is always one piece more than there are
cuts, so pieces may be empty.
-/

namespace PrefixLint.Text

def pieceStep (mark c : Char) : List (List Char) → List (List Char)
  | [] => [[c]]
  | piece :: pieces => if c = mark then [] :: piece :: pieces else (c :: piece) :: pieces

def splitAt (mark : Char) (cs : List Char) : List (List Char) := cs.foldr (pieceStep mark) [[]]

theorem splitAt_cons (mark c : Char) (cs : List Char) :
    splitAt mark (c :: cs) = pieceStep mark c (splitAt mark cs) := rfl

theorem splitAt_eq_splitOn (mark : Char) (cs : List Char) :
    splitAt mark cs = cs.splitOn mark := by
  induction cs with
  | nil => rfl
  | cons c cs ih =>
    obtain ⟨piece, pieces, hp⟩ := List.exists_cons_of_ne_nil (List.splitOn_ne_nil mark cs)
    rw [splitAt_cons, ih, List.splitOn_cons_eq_if_modifyHead, hp]
    by_cases h : c = mark <;> simp [pieceStep, h]

theorem not_mem_of_mem_splitAt {mark : Char} {cs piece : List Char}
    (h : piece ∈ splitAt mark cs) : mark ∉ piece := by
  induction cs generalizing piece with
  | nil =>
    rw [List.mem_singleton.mp h]
    exact List.not_mem_nil
  | cons c cs ih =>
    rw [splitAt_cons] at h
    cases hs : splitAt mark cs with
    | nil => exact absurd (splitAt_eq_splitOn mark cs ▸ hs) (List.splitOn_ne_nil mark cs)
    | cons first rest =>
      rw [hs] at h ih
      by_cases hc : c = mark
      · simp only [pieceStep, hc, if_true, List.mem_cons] at h
        rcases h with rfl | h
        · exact List.not_mem_nil
        · exact ih (List.mem_cons.mpr h)
      · simp only [pieceStep, hc, if_false, List.mem_cons] at h
        rcases h with rfl | h
        · intro hm
          rcases List.mem_cons.mp hm with rfl | hm
          · exact hc rfl
          · exact ih List.mem_cons_self hm
        · exact ih (List.mem_cons_of_mem first h)

end PrefixLint.Text
