import Mathlib.Data.List.Forall2
import Mathlib.Data.List.Perm.Basic
import PrefixLint.Ast.Walk

/-!
# The order of children

Children are collected member by member. When all of them have offsets they are sorted: offsets
ascend, and children of one offset stay in the order in which they were collected. These two facts
fix the order of children, so it depends on the order of members only where two members give children
without offsets or with a common one. They also keep the order of the other children when a child with
an offset is added or a child is moved.
-/

namespace PrefixLint.Ast

section Ascending

variable {α : Type} {key : α → Int}

theorem le_of_mem_of_ascending {a b : α} {l : List α}
    (h : (a :: l).Pairwise fun x y => key x ≤ key y) (hb : b ∈ a :: l) : key a ≤ key b := by
  rcases List.mem_cons.mp hb with rfl | hb
  · exact Int.le_refl _
  · exact List.rel_of_pairwise_cons h hb

theorem eq_of_ascending {l l' : List α} (h : l.Pairwise fun x y => key x ≤ key y)
    (h' : l'.Pairwise fun x y => key x ≤ key y)
    (hparts : ∀ k, l.filter (fun x => decide (key x = k)) = l'.filter fun x => decide (key x = k)) :
    l = l' := by
  have hmem : ∀ x, x ∈ l ↔ x ∈ l' := by
    intro x
    have hx := congrArg (x ∈ ·) (hparts (key x))
    simpa using hx
  induction l generalizing l' with
  | nil =>
    symm
    rw [List.eq_nil_iff_forall_not_mem]
    intro x hx
    exact List.not_mem_nil ((hmem x).mpr hx)
  | cons a l ih =>
    obtain _ | ⟨b, l'⟩ := l'
    · exact absurd ((hmem a).mp List.mem_cons_self) List.not_mem_nil
    · -- Each head is in the other list, so their keys bound each other and the heads are equal.
      have hab := le_of_mem_of_ascending h ((hmem b).mpr List.mem_cons_self)
      have hba := le_of_mem_of_ascending h' ((hmem a).mp List.mem_cons_self)
      have hkey : key a = key b := by omega
      have hhead := hparts (key b)
      simp only [List.filter_cons, hkey, decide_true, if_true, List.cons.injEq] at hhead
      obtain ⟨rfl, -⟩ := hhead
      have hrest : ∀ k, l.filter (fun x => decide (key x = k)) =
          l'.filter fun x => decide (key x = k) := by
        intro k
        have hk := hparts k
        by_cases hak : key a = k <;> simpa [List.filter_cons, hak] using hk
      have hl := ih (List.Pairwise.of_cons h) (List.Pairwise.of_cons h') hrest fun x => by
        have hx := congrArg (x ∈ ·) (hrest (key x))
        simpa using hx
      rw [hl]

theorem eq_filter_append_of_ascending {l : List α} (h : l.Pairwise fun x y => key x ≤ key y)
    (k : Int) : l = l.filter (fun x => decide (key x < k)) ++
      (l.filter (fun x => decide (key x = k)) ++ l.filter fun x => decide (k < key x)) := by
  induction l with
  | nil => rfl
  | cons a l ih =>
    have hle : ∀ x ∈ l, key a ≤ key x := (List.pairwise_cons.mp h).1
    have hrest := ih (List.Pairwise.of_cons h)
    rcases Int.lt_trichotomy (key a) k with ha | ha | ha
    · simpa [ha, Int.ne_of_lt ha, Int.le_of_lt ha] using hrest
    · have hbefore : l.filter (fun x => decide (key x < k)) = [] := by
        simpa [← ha] using hle
      rw [hbefore] at hrest
      simpa [ha, hbefore] using hrest
    · have hafter : ∀ x ∈ l, k < key x := by
        intro x hx
        have := hle x hx
        omega
      have hbefore : l.filter (fun x => decide (key x < k)) = [] := by
        simpa using fun x hx => Int.le_of_lt (hafter x hx)
      have hat : l.filter (fun x => decide (key x = k)) = [] := by
        simpa using fun x hx => Int.ne_of_gt (hafter x hx)
      rw [hbefore, hat] at hrest
      simpa [ha, Int.ne_of_gt ha, Int.le_of_lt ha, hbefore, hat] using hrest

end Ascending

theorem flatMap_eq_of_perm {α β : Type} {f : α → List β} {l l' : List α} (h : l.Perm l')
    (hnodup : l.Nodup) (hsole : ∀ a ∈ l, ∀ b ∈ l, f a ≠ [] → f b ≠ [] → a = b) :
    l.flatMap f = l'.flatMap f := by
  induction h with
  | nil => rfl
  | cons a h ih =>
    have hrest := ih (List.nodup_cons.mp hnodup).2 fun x hx y hy =>
      hsole x (List.mem_cons_of_mem a hx) y (List.mem_cons_of_mem a hy)
    rw [List.flatMap_cons, List.flatMap_cons, hrest]
  | swap a b l =>
    have hne : b ≠ a := by
      intro hab
      exact (List.nodup_cons.mp hnodup).1 (hab ▸ List.mem_cons_self)
    have hnil : f b = [] ∨ f a = [] := by
      by_contra hboth
      rw [not_or] at hboth
      exact hne (hsole b (by simp) a (by simp) hboth.1 hboth.2)
    rcases hnil with hnil | hnil <;> simp [hnil]
  | trans h₁ h₂ ih₁ ih₂ =>
    have hsecond := ih₂ (h₁.nodup hnodup) fun a ha b hb =>
      hsole a (h₁.mem_iff.mpr ha) b (h₁.mem_iff.mpr hb)
    rw [ih₁ hnodup hsole, hsecond]

namespace Value

def position (v : Value) : Int := v.offset?.getD 0

theorem offset?_eq_some {v : Value} (h : v.offset?.isSome = true) : v.offset? = some v.position := by
  obtain ⟨k, hk⟩ := Option.isSome_iff_exists.mp h
  rw [position, hk, Option.getD_some]

theorem byOffset_of_offsets {vs : List Value} (h : ∀ v ∈ vs, v.offset?.isSome = true) :
    byOffset vs = vs.mergeSort fun a b => decide (a.position ≤ b.position) := by
  rw [byOffset, if_pos (List.all_eq_true.mpr h)]
  rfl

theorem byOffset_of_unplaced {vs : List Value} (h : ¬ ∀ v ∈ vs, v.offset?.isSome = true) :
    byOffset vs = vs := by
  rw [byOffset, if_neg (by simpa only [List.all_eq_true] using h)]

theorem position_le_trans (a b c : Value) : decide (a.position ≤ b.position) = true →
    decide (b.position ≤ c.position) = true → decide (a.position ≤ c.position) = true := by
  simp only [decide_eq_true_eq]
  omega

theorem position_le_total (a b : Value) :
    (decide (a.position ≤ b.position) || decide (b.position ≤ a.position)) = true := by
  simp only [Bool.or_eq_true, decide_eq_true_eq]
  omega

theorem byOffset_ascending {vs : List Value} (h : ∀ v ∈ vs, v.offset?.isSome = true) :
    (byOffset vs).Pairwise fun a b => a.position ≤ b.position := by
  rw [byOffset_of_offsets h]
  have hsorted := List.pairwise_mergeSort position_le_trans position_le_total vs
  simpa only [decide_eq_true_eq] using hsorted

theorem byOffset_of_ascending {vs : List Value}
    (h : vs.Pairwise fun a b => a.position ≤ b.position) : byOffset vs = vs := by
  unfold byOffset
  split
  · exact List.mergeSort_of_pairwise (h.imp decide_eq_true)
  · rfl

/-- Children of one offset stay in the order in which they were collected. -/
theorem filter_byOffset (vs : List Value) (k : Int) :
    (byOffset vs).filter (fun v => decide (v.position = k)) =
      vs.filter fun v => decide (v.position = k) := by
  have hperm := (byOffset_perm vs).filter fun v => decide (v.position = k)
  unfold byOffset at hperm ⊢
  split
  · rename_i hall
    rw [if_pos hall] at hperm
    -- The part of one offset is sorted as it stands, so sorting keeps it as a sublist.
    have hpart : (vs.filter fun v => decide (v.position = k)).Pairwise
        fun a b => decide (a.position ≤ b.position) = true := by
      rw [List.pairwise_filter]
      apply List.pairwise_of_forall
      intro a b ha hb
      simp only [decide_eq_true_eq] at ha hb ⊢
      omega
    have hsub := (List.sublist_mergeSort position_le_trans position_le_total hpart
      List.filter_sublist).filter fun v => decide (v.position = k)
    rw [List.filter_filter] at hsub
    simp only [Bool.and_self] at hsub
    exact (hsub.eq_of_length hperm.length_eq.symm).symm
  · rfl

theorem filter_byOffset_comm {vs : List Value} (h : ∀ v ∈ vs, v.offset?.isSome = true)
    (p : Value → Bool) : (byOffset vs).filter p = byOffset (vs.filter p) := by
  have hpart : ∀ v ∈ vs.filter p, v.offset?.isSome = true :=
    fun v hv => h v (List.mem_of_mem_filter hv)
  apply eq_of_ascending ((byOffset_ascending h).filter p) (byOffset_ascending hpart)
  intro k
  rw [List.filter_comm, filter_byOffset, filter_byOffset, List.filter_comm]

theorem byOffset_around {vs : List Value} (h : ∀ v ∈ vs, v.offset?.isSome = true) (k : Int) :
    byOffset vs = byOffset (vs.filter fun v => decide (v.position < k)) ++
      ((vs.filter fun v => decide (v.position = k)) ++
      byOffset (vs.filter fun v => decide (k < v.position))) := by
  have hsplit := eq_filter_append_of_ascending (byOffset_ascending h) k
  rwa [filter_byOffset_comm h, filter_byOffset, filter_byOffset_comm h] at hsplit

theorem byOffset_insert {c : Value} (hc : c.offset?.isSome = true) (vs ws : List Value) :
    ∃ front back, byOffset (vs ++ ws) = front ++ back ∧
      byOffset (vs ++ c :: ws) = front ++ c :: back := by
  by_cases h : ∀ v ∈ vs ++ ws, v.offset?.isSome = true
  · have hwith : ∀ v ∈ vs ++ c :: ws, v.offset?.isSome = true := by
      simpa [hc, or_imp, forall_and] using h
    -- At its own offset the child stands after those collected before it.
    let before := byOffset ((vs ++ ws).filter fun v => decide (v.position < c.position))
    let after := byOffset ((vs ++ ws).filter fun v => decide (c.position < v.position))
    refine ⟨before ++ vs.filter (fun v => decide (v.position = c.position)),
      ws.filter (fun v => decide (v.position = c.position)) ++ after, ?_, ?_⟩
    · rw [byOffset_around h c.position]
      simp [before, after]
    · rw [byOffset_around hwith c.position]
      simp [before, after]
  · have hwith : ¬ ∀ v ∈ vs ++ c :: ws, v.offset?.isSome = true := by
      simpa [hc, or_imp, forall_and] using h
    exact ⟨vs, ws, byOffset_of_unplaced h, byOffset_of_unplaced hwith⟩

theorem byOffset_moved {vs ws vs' ws' : List Value} (h : vs ++ ws = vs' ++ ws') (c : Value) :
    ∃ front back front' back', byOffset (vs ++ c :: ws) = front ++ c :: back ∧
      byOffset (vs' ++ c :: ws') = front' ++ c :: back' ∧ front ++ back = front' ++ back' := by
  by_cases hc : c.offset?.isSome = true
  · obtain ⟨front, back, hrest, hwith⟩ := byOffset_insert hc vs ws
    obtain ⟨front', back', hrest', hwith'⟩ := byOffset_insert hc vs' ws'
    exact ⟨front, back, front', back', hwith, hwith', by rw [← hrest, ← hrest', h]⟩
  · refine ⟨vs, ws, vs', ws', byOffset_of_unplaced fun hall => hc ?_,
      byOffset_of_unplaced fun hall => hc ?_, h⟩
    · exact hall c (by simp)
    · exact hall c (by simp)

theorem forall₂_byOffset {r : Value → Value → Prop} (hr : ∀ v w, r v w → v.offset? = w.offset?)
    {vs ws : List Value} (h : List.Forall₂ r vs ws) :
    List.Forall₂ r (byOffset vs) (byOffset ws) := by
  have hall : vs.all (·.offset?.isSome) = ws.all (·.offset?.isSome) := by
    induction h with
    | nil => rfl
    | cons hvw _ ih => rw [List.all_cons, List.all_cons, hr _ _ hvw, ih]
  rw [byOffset, byOffset, hall]
  split
  · -- Both lists are the sides of one sorted list of pairs.
    obtain ⟨hlength, hzip⟩ := List.forall₂_iff_zip.mp h
    have hpos : ∀ p ∈ vs.zip ws, p.1.position = p.2.position := by
      intro p hp
      rw [position, position, hr _ _ (hzip hp)]
    have hleft := List.map_mergeSort (f := Prod.fst) (l := vs.zip ws)
      (r := fun p q => decide (p.1.position ≤ q.1.position))
      (s := fun a b => decide (a.position ≤ b.position)) fun _ _ _ _ => rfl
    have hright := List.map_mergeSort (f := Prod.snd) (l := vs.zip ws)
      (r := fun p q => decide (p.1.position ≤ q.1.position))
      (s := fun a b => decide (a.position ≤ b.position)) fun p hp q hq => by
        rw [hpos p hp, hpos q hq]
    rw [List.map_fst_zip (Nat.le_of_eq hlength)] at hleft
    rw [List.map_snd_zip (Nat.le_of_eq hlength.symm)] at hright
    change List.Forall₂ r (vs.mergeSort fun a b => decide (a.position ≤ b.position))
      (ws.mergeSort fun a b => decide (a.position ≤ b.position))
    rw [← hleft, ← hright, List.forall₂_map_left_iff, List.forall₂_map_right_iff, List.forall₂_same]
    intro p hp
    exact hzip (List.mem_mergeSort.mp hp)
  · exact h

def contributed (m : String × Value) : List Value :=
  if metadataKeys.contains m.1 then [] else m.2.nodesOf

theorem childrenOf_eq (ms : List (String × Value)) : childrenOf ms = ms.flatMap contributed := rfl

theorem mem_childrenOf {c : Value} {m : String × Value} {ms : List (String × Value)} (hm : m ∈ ms)
    (hc : c ∈ contributed m) : c ∈ childrenOf ms :=
  List.mem_flatMap.mpr ⟨m, hm, hc⟩

inductive Denotes : Value → Int → Prop where
  | int (n : Int) : Denotes (.int n) n
  | yes : Denotes (.bool true) 1
  | no : Denotes (.bool false) 0

/-- A node starts where its member `start` says or, if that is no whole number, where the first item
of its list `range` says. -/
inductive StartsAt (v : Value) (k : Int) : Prop where
  | start (w : Value) (member : v.get? "start" = some w) (number : w.Denotes k)
  | range (w : Value) (rest : List Value)
      (unsaid : ∀ u, v.get? "start" = some u → ∀ n, ¬ u.Denotes n)
      (member : v.get? "range" = some (.list (w :: rest))) (number : w.Denotes k)

theorem denotes_iff {v : Value} {n : Int} : v.Denotes n ↔ v.integer? = some n := by
  constructor
  · rintro (_ | _ | _) <;> rfl
  · intro h
    cases v with
    | int m =>
      obtain rfl : m = n := by simpa [integer?] using h
      exact .int m
    | bool b =>
      obtain rfl : (if b then 1 else 0) = n := by simpa [integer?] using h
      cases b
      · exact .no
      · exact .yes
    | _ => simp [integer?] at h

theorem startsAt_iff {v : Value} {k : Int} : v.StartsAt k ↔ v.offset? = some k := by
  rw [offset?, Option.or_eq_some_iff]
  constructor
  · rintro (⟨w, hw, hn⟩ | ⟨w, rest, hnone, hw, hn⟩)
    · exact Or.inl (by rw [hw, Option.bind_some, denotes_iff.mp hn])
    · refine Or.inr ⟨?_, by simp [hw, items?, denotes_iff.mp hn]⟩
      rw [Option.bind_eq_none_iff]
      intro u hu
      rw [Option.eq_none_iff_forall_ne_some]
      intro n hn
      exact hnone u hu n (denotes_iff.mpr hn)
  · rintro (h | ⟨hnone, h⟩)
    · obtain ⟨w, hw, hn⟩ := Option.bind_eq_some_iff.mp h
      exact .start w hw (denotes_iff.mpr hn)
    · obtain ⟨items, hitems, h⟩ := Option.bind_eq_some_iff.mp h
      obtain ⟨w, hw, hn⟩ := Option.bind_eq_some_iff.mp h
      obtain ⟨u, hu, hlist⟩ := Option.bind_eq_some_iff.mp hitems
      obtain ⟨rest, rfl⟩ := List.head?_eq_some_iff.mp hw
      refine .range w rest (fun u hu n hn => ?_) ?_ (denotes_iff.mpr hn)
      · rw [hu, Option.bind_some, denotes_iff.mp hn] at hnone
        cases hnone
      · cases u with
        | list items =>
          obtain rfl : items = w :: rest := by simpa [items?] using hlist
          exact hu
        | _ => simp [items?] at hlist

instance (v : Value) (k : Int) : Decidable (v.StartsAt k) := decidable_of_iff _ startsAt_iff.symm

/-- The nodes among the values of members and the items of their lists, as they are written. -/
def collected (v : Value) : List Value :=
  v.members.flatMap fun m =>
    if m.1 ∈ metadataKeys then []
    else
      match m.2 with
      | .list items => items.filter isNode
      | w => if w.isNode then [w] else []

theorem childrenOf_members (v : Value) : childrenOf v.members = v.collected := by
  apply List.flatMap_congr
  rintro ⟨key, w⟩ -
  by_cases hkey : key ∈ metadataKeys
  · simp [hkey]
  · cases w with
    | list items => simp [hkey, nodesOf, isNode, nodeType?, getText?, get?, members, items?]
    | _ => simp [hkey, nodesOf, items?]

/-- Every direct child is a child once. If all of them have a start, starts ascend and children of
one start stay as they are written; otherwise all children do. -/
theorem children_in_order (v : Value) :
    v.children.Perm v.collected ∧
    ((∀ c ∈ v.collected, ∃ k, c.StartsAt k) →
      (v.children.Pairwise fun a b => ∀ j k, a.StartsAt j → b.StartsAt k → j ≤ k) ∧
      ∀ k, v.children.filter (fun c => decide (c.StartsAt k)) =
        v.collected.filter fun c => decide (c.StartsAt k)) ∧
    ((∃ c ∈ v.collected, ∀ k, ¬ c.StartsAt k) → v.children = v.collected) := by
  rw [children, childrenOf_members]
  refine ⟨byOffset_perm _, fun h => ?_, fun h => ?_⟩
  · have hoffsets : ∀ c ∈ v.collected, c.offset?.isSome = true := by
      intro c hc
      obtain ⟨k, hk⟩ := h c hc
      rw [startsAt_iff.mp hk, Option.isSome_some]
    refine ⟨(byOffset_ascending hoffsets).imp ?_, fun k => ?_⟩
    · intro a b hab j k hj hk
      simpa [position, startsAt_iff.mp hj, startsAt_iff.mp hk] using hab
    · have hkey : ∀ c ∈ v.collected, decide (c.StartsAt k) = decide (c.position = k) := by
        intro c hc
        rw [decide_eq_decide, startsAt_iff, offset?_eq_some (hoffsets c hc), Option.some.injEq]
      rw [List.filter_congr hkey, ← filter_byOffset]
      apply List.filter_congr
      intro c hc
      exact hkey c ((byOffset_perm _).mem_iff.mp hc)
  · apply byOffset_of_unplaced
    intro hall
    obtain ⟨c, hc, hnone⟩ := h
    exact hnone c.position (startsAt_iff.mpr (offset?_eq_some (hall c hc)))

def operands (start : Value) : Value :=
  .object [("type", .text "Sequence"), ("range", .object [("type", .text "Skipped")]),
    ("last", .object [("type", .text "Last"), ("start", start)]),
    ("first", .list [.object [("type", .text "Left"), ("start", .bool true)], .null,
      .object [("type", .text "Right"), ("range", .list [.int 1, .int 4])]])]

theorem children_in_order_operands :
    ((∀ c ∈ (operands (.int 7)).collected, ∃ k, c.StartsAt k) ∧
      ((operands (.int 7)).children.filter fun c => decide (c.StartsAt 1)).map nodeType =
        ["Left", "Right"]) ∧
    (operands .null).children.map nodeType = ["Last", "Left", "Right"] := by
  have hplaced : ∀ c ∈ (operands (.int 7)).collected, c.offset?.isSome = true := by decide
  have hall : ∀ c ∈ (operands (.int 7)).collected, ∃ k, c.StartsAt k := fun c hc =>
    ⟨c.position, startsAt_iff.mpr (offset?_eq_some (hplaced c hc))⟩
  have hunplaced : ∃ c ∈ (operands .null).collected, c.offset? = none := by decide
  obtain ⟨c, hc, hnone⟩ := hunplaced
  obtain ⟨-, hordered, -⟩ := children_in_order (operands (.int 7))
  obtain ⟨-, -, hwritten⟩ := children_in_order (operands .null)
  refine ⟨⟨hall, ?_⟩, ?_⟩
  · rw [(hordered hall).2]
    decide
  · rw [hwritten ⟨c, hc, fun k hk => by simp [startsAt_iff.mp hk] at hnone⟩]
    decide

end Value

end PrefixLint.Ast
