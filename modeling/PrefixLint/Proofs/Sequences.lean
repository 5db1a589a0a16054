import Mathlib.Data.List.Forall2

/-!
# Steps that may fail

What a successful computation says about its steps, when steps that may fail are chained or taken
for every member of a list, and which member a failure comes from. At the end, values that may be
absent: related ones that are dropped alike, and a lookup in a table with distinct keys, which does
not depend on the order of the entries.
-/

namespace PrefixLint

section Chain

variable {ε ε' α β : Type}

theorem bind_eq_ok {x : Except ε α} {f : α → Except ε β} {b : β} :
    x >>= f = .ok b ↔ ∃ a, x = .ok a ∧ f a = .ok b := by
  cases x <;> simp [bind, Except.bind]

theorem map_eq_ok {x : Except ε α} {f : α → β} {b : β} :
    x.map f = .ok b ↔ ∃ a, x = .ok a ∧ f a = b := by
  cases x <;> simp [Except.map]

theorem mapError_eq_ok {x : Except ε α} {f : ε → ε'} {a : α} :
    x.mapError f = .ok a ↔ x = .ok a := by
  cases x <;> simp [Except.mapError]

theorem bind_eq_error {x : Except ε α} {f : α → Except ε β} {e : ε} :
    x >>= f = .error e ↔ x = .error e ∨ ∃ a, x = .ok a ∧ f a = .error e := by
  cases x <;> simp [bind, Except.bind]

theorem map_eq_error {x : Except ε α} {f : α → β} {e : ε} :
    x.map f = .error e ↔ x = .error e := by
  cases x <;> simp [Except.map]

theorem mapError_eq_error {x : Except ε α} {f : ε → ε'} {e' : ε'} :
    x.mapError f = .error e' ↔ ∃ e, x = .error e ∧ f e = e' := by
  cases x <;> simp [Except.mapError]

theorem throw_or_eq_ok {p : Prop} [Decidable p] {e : ε} {x : Except ε α} {a : α} :
    (if p then throw e else x) = .ok a ↔ ¬ p ∧ x = .ok a := by
  by_cases h : p <;> simp [h, throw, throwThe, MonadExceptOf.throw]

end Chain

section MapM

variable {ε α β : Type} {f : α → Except ε β}

theorem mapM_eq_ok {l : List α} {out : List β} (h : l.mapM f = .ok out) :
    List.Forall₂ (fun a b => f a = .ok b) l out := by
  induction l generalizing out with
  | nil =>
    cases h
    exact .nil
  | cons a l ih =>
    rw [List.mapM_cons] at h
    obtain ⟨b, hb, h⟩ := bind_eq_ok.mp h
    obtain ⟨bs, hbs, h⟩ := bind_eq_ok.mp h
    cases h
    exact .cons hb (ih hbs)

theorem exists_of_mem_mapM {l : List α} {out : List β} (h : l.mapM f = .ok out) {b : β}
    (hb : b ∈ out) : ∃ a ∈ l, f a = .ok b := by
  have hall := mapM_eq_ok h
  clear h
  induction hall with
  | nil => cases hb
  | @cons a b' l out hab hrest ih =>
    rcases List.mem_cons.mp hb with rfl | hb
    · exact ⟨a, List.mem_cons_self, hab⟩
    · obtain ⟨a', ha', hf⟩ := ih hb
      exact ⟨a', List.mem_cons_of_mem a ha', hf⟩

theorem exists_of_mapM_eq_error {l : List α} {e : ε} (h : l.mapM f = .error e) :
    ∃ a ∈ l, f a = .error e := by
  induction l with
  | nil => cases h
  | cons a l ih =>
    rw [List.mapM_cons] at h
    cases ha : f a with
    | error e' =>
      rw [ha] at h
      cases h
      exact ⟨a, List.mem_cons_self, ha⟩
    | ok b =>
      cases hl : l.mapM f with
      | error e' =>
        rw [ha, hl] at h
        cases h
        obtain ⟨a', ha', hf⟩ := ih hl
        exact ⟨a', List.mem_cons_of_mem a ha', hf⟩
      | ok bs =>
        rw [ha, hl] at h
        cases h

end MapM

section FlatMapM

variable {ε α β : Type} {f : α → Except ε (List β)}

theorem flatMapM_cons_eq (a : α) (l : List α) :
    (a :: l).flatMapM f =
      match f a with
      | .error e => .error e
      | .ok bs => (l.flatMapM f).map (bs ++ ·) := by
  rw [List.flatMapM_cons]
  cases f a with
  | error e => rfl
  | ok bs => cases l.flatMapM f <;> rfl

theorem flatMapM_map {γ : Type} (g : γ → α) (l : List γ) :
    (l.map g).flatMapM f = l.flatMapM (f ∘ g) := by
  induction l with
  | nil => rfl
  | cons c l ih => rw [List.map_cons, List.flatMapM_cons, List.flatMapM_cons, ih, Function.comp]

theorem flatMapM_cons_eq_ok {a : α} {l : List α} {out : List β} (h : (a :: l).flatMapM f = .ok out) :
    ∃ bs rest, f a = .ok bs ∧ l.flatMapM f = .ok rest ∧ out = bs ++ rest := by
  rw [flatMapM_cons_eq] at h
  cases ha : f a with
  | error e =>
    rw [ha] at h
    cases h
  | ok bs =>
    rw [ha] at h
    obtain ⟨rest, hrest, rfl⟩ := map_eq_ok.mp h
    exact ⟨bs, rest, rfl, hrest, rfl⟩

/-- The first member with a fault decides; without one every member gives its part. -/
theorem flatMapM_eq {κ : Type} {fault : α → Option κ} {wrap : κ → ε} {g : α → List β}
    (hf : ∀ a, f a = (fault a).elim (.ok (g a)) fun k => .error (wrap k)) (l : List α) :
    l.flatMapM f = (l.findSome? fault).elim (.ok (l.flatMap g)) fun k => .error (wrap k) := by
  induction l with
  | nil => rfl
  | cons a l ih =>
    rw [flatMapM_cons_eq, hf, List.findSome?_cons]
    cases fault a with
    | some k => rfl
    | none =>
      rw [ih]
      cases l.findSome? fault <;> rfl

theorem exists_of_mem_flatMapM {l : List α} {out : List β} (h : l.flatMapM f = .ok out) {b : β}
    (hb : b ∈ out) : ∃ a ∈ l, ∃ bs, f a = .ok bs ∧ b ∈ bs := by
  induction l generalizing out with
  | nil =>
    cases h
    cases hb
  | cons a l ih =>
    obtain ⟨bs, rest, ha, hrest, rfl⟩ := flatMapM_cons_eq_ok h
    rcases List.mem_append.mp hb with hb | hb
    · exact ⟨a, List.mem_cons_self, bs, ha, hb⟩
    · obtain ⟨a', ha', found⟩ := ih hrest hb
      exact ⟨a', List.mem_cons_of_mem a ha', found⟩

theorem exists_of_flatMapM_eq_error {l : List α} {e : ε} (h : l.flatMapM f = .error e) :
    ∃ a ∈ l, f a = .error e := by
  induction l with
  | nil => cases h
  | cons a l ih =>
    rw [flatMapM_cons_eq] at h
    cases ha : f a with
    | error e' =>
      rw [ha] at h
      cases h
      exact ⟨a, List.mem_cons_self, ha⟩
    | ok bs =>
      cases hl : l.flatMapM f with
      | error e' =>
        rw [ha, hl] at h
        cases h
        obtain ⟨b, hb, hfb⟩ := ih hl
        exact ⟨b, List.mem_cons_of_mem a hb, hfb⟩
      | ok cs =>
        rw [ha, hl] at h
        cases h

theorem parts_of_flatMapM {l : List α} {out : List β} (h : l.flatMapM f = .ok out) :
    ∃ parts, List.Forall₂ (fun a bs => f a = .ok bs) l parts ∧ out = parts.flatten := by
  induction l generalizing out with
  | nil =>
    cases h
    exact ⟨[], .nil, rfl⟩
  | cons a l ih =>
    obtain ⟨bs, rest, ha, hrest, rfl⟩ := flatMapM_cons_eq_ok h
    obtain ⟨parts, hparts, rfl⟩ := ih hrest
    exact ⟨bs :: parts, .cons ha hparts, rfl⟩

theorem part_of_mem_flatMapM {l : List α} {out : List β} (h : l.flatMapM f = .ok out) {a : α}
    (ha : a ∈ l) : ∃ bs, f a = .ok bs ∧ bs ⊆ out := by
  induction l generalizing out with
  | nil => cases ha
  | cons a' l ih =>
    obtain ⟨bs, rest, ha', hrest, rfl⟩ := flatMapM_cons_eq_ok h
    rcases List.mem_cons.mp ha with rfl | ha
    · exact ⟨bs, ha', List.subset_append_left bs rest⟩
    · obtain ⟨cs, hcs, hsub⟩ := ih hrest ha
      exact ⟨cs, hcs, List.subset_append_of_subset_right bs hsub⟩

theorem mem_flatMapM_iff {l : List α} {out : List β} (h : l.flatMapM f = .ok out) {b : β} :
    b ∈ out ↔ ∃ a ∈ l, ∃ bs, f a = .ok bs ∧ b ∈ bs := by
  refine ⟨exists_of_mem_flatMapM h, ?_⟩
  rintro ⟨a, ha, bs, hbs, hb⟩
  obtain ⟨cs, hcs, hsub⟩ := part_of_mem_flatMapM h ha
  cases hbs.symm.trans hcs
  exact hsub hb

theorem flatMapM_isOk_iff {l : List α} :
    (∃ out, l.flatMapM f = .ok out) ↔ ∀ a ∈ l, ∃ bs, f a = .ok bs := by
  constructor
  · rintro ⟨out, hout⟩ a ha
    obtain ⟨bs, hbs, -⟩ := part_of_mem_flatMapM hout ha
    exact ⟨bs, hbs⟩
  · intro h
    cases hl : l.flatMapM f with
    | ok out => exact ⟨out, rfl⟩
    | error e =>
      obtain ⟨a, ha, hfault⟩ := exists_of_flatMapM_eq_error hl
      obtain ⟨bs, hbs⟩ := h a ha
      cases hbs.symm.trans hfault

theorem flatMapM_of_ok {g : α → List β} {l : List α} (h : ∀ a ∈ l, f a = .ok (g a)) :
    l.flatMapM f = .ok (l.flatMap g) := by
  induction l with
  | nil => rfl
  | cons a l ih =>
    rw [flatMapM_cons_eq, h a List.mem_cons_self, ih fun b hb => h b (List.mem_cons_of_mem a hb)]
    rfl

theorem flatMapM_congr {g : α → Except ε (List β)} {l : List α} (h : ∀ a ∈ l, f a = g a) :
    l.flatMapM f = l.flatMapM g := by
  induction l with
  | nil => rfl
  | cons a l ih =>
    rw [flatMapM_cons_eq, flatMapM_cons_eq, h a List.mem_cons_self,
      ih fun b hb => h b (List.mem_cons_of_mem a hb)]

end FlatMapM

theorem filter_of_rel {α β : Type} {r : α → β → Prop} {p : α → Bool} {q : β → Bool} {x : Option α}
    {y : Option β} (h : Option.Rel r x y) (hpq : ∀ {a b}, r a b → p a = q b) :
    Option.Rel r (x.filter p) (y.filter q) := by
  cases h with
  | none => exact .none
  | some hab =>
    simp only [Option.filter, hpq hab]
    split
    · exact .some hab
    · exact .none

theorem lookup_eq_of_perm {α : Type} {ms ns : List (String × α)} (h : ms.Perm ns)
    (hnodup : (ms.map Prod.fst).Nodup) (key : String) : ms.lookup key = ns.lookup key := by
  induction h with
  | nil => rfl
  | cons m _ ih =>
    rw [List.lookup_cons, List.lookup_cons, ih (List.nodup_cons.mp hnodup).2]
  | swap m n rest =>
    obtain ⟨k, v⟩ := m
    obtain ⟨l, w⟩ := n
    have hne : l ≠ k := by
      intro hname
      exact (List.nodup_cons.mp hnodup).1 (by simp [hname])
    by_cases hk : key = k
    · have hl : (key == l) = false := beq_false_of_ne fun hl => hne (hl.symm.trans hk)
      simp only [List.lookup_cons, hl]
    · simp only [List.lookup_cons, beq_false_of_ne hk]
  | trans h₁ _ ih₁ ih₂ =>
    rw [ih₁ hnodup, ih₂ ((h₁.map Prod.fst).nodup hnodup)]

end PrefixLint
