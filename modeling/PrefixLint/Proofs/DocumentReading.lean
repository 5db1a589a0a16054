import PrefixLint.Ast.Json

/-!
# What the reading of a document establishes

A document that is read has distinct member names in every object, however often a name was written.
An integer is refused for its length only where the text has that many digits in a row. Both follow
the readers: each works on an end of the text, and what it refuses there is in the whole.
-/

namespace PrefixLint.Ast

namespace Value

mutual

/-- Whether the members of every object have different names. -/
def distinct : Value → Bool
  | list items => distinctItems items
  | object members => decide (members.map Prod.fst).Nodup && distinctMembers members
  | _ => true

def distinctItems : List Value → Bool
  | [] => true
  | v :: rest => v.distinct && distinctItems rest

def distinctMembers : List (String × Value) → Bool
  | [] => true
  | (_, v) :: rest => v.distinct && distinctMembers rest

end

theorem distinct_list_iff {items : List Value} :
    (list items).distinct = true ↔ ∀ v ∈ items, v.distinct = true := by
  rw [distinct]
  induction items with
  | nil => simp [distinctItems]
  | cons v rest ih => simp [distinctItems, ih]

theorem distinctMembers_iff {members : List (String × Value)} :
    distinctMembers members = true ↔ ∀ m ∈ members, m.2.distinct = true := by
  induction members with
  | nil => simp [distinctMembers]
  | cons m rest ih => simp [distinctMembers, ih]

theorem distinct_object_iff {members : List (String × Value)} :
    (object members).distinct = true ↔
      (members.map Prod.fst).Nodup ∧ ∀ m ∈ members, m.2.distinct = true := by
  rw [distinct, Bool.and_eq_true, decide_eq_true_eq, distinctMembers_iff]

end Value

theorem names_putMember (key : String) (v : Value) (ms : List (String × Value)) :
    (putMember key v ms).map Prod.fst =
      if key ∈ ms.map Prod.fst then ms.map Prod.fst else ms.map Prod.fst ++ [key] := by
  induction ms with
  | nil => rfl
  | cons m rest ih =>
    obtain ⟨k, w⟩ := m
    by_cases hk : k = key
    · simp [putMember, hk]
    · have hne : key ≠ k := fun h => hk h.symm
      simp only [putMember, if_neg hk, List.map_cons, ih, List.mem_cons, hne, false_or]
      split <;> rfl

theorem mem_putMember {key : String} {v : Value} {ms : List (String × Value)} {m : String × Value}
    (h : m ∈ putMember key v ms) : m.2 = v ∨ m ∈ ms := by
  induction ms with
  | nil =>
    rw [putMember, List.mem_singleton] at h
    exact Or.inl (h ▸ rfl)
  | cons n rest ih =>
    obtain ⟨k, w⟩ := n
    by_cases hk : k = key
    · simp only [putMember, if_pos hk, List.mem_cons] at h
      rcases h with rfl | h
      · exact Or.inl rfl
      · exact Or.inr (List.mem_cons_of_mem _ h)
    · simp only [putMember, if_neg hk, List.mem_cons] at h
      rcases h with rfl | h
      · exact Or.inr List.mem_cons_self
      · exact (ih h).imp_right (List.mem_cons_of_mem _)

theorem distinct_putMember {key : String} {v : Value} {ms : List (String × Value)}
    (hms : (Value.object ms).distinct = true) (hv : v.distinct = true) :
    (Value.object (putMember key v ms)).distinct = true := by
  rw [Value.distinct_object_iff] at hms ⊢
  refine ⟨?_, ?_⟩
  · rw [names_putMember]
    split
    · exact hms.1
    · rename_i hnew
      rw [List.nodup_append]
      refine ⟨hms.1, by simp, ?_⟩
      intro a ha b hb hab
      rw [List.mem_singleton] at hb
      exact hnew (hb ▸ hab ▸ ha)
  · intro m hm
    rcases mem_putMember hm with rfl | hm
    · exact hv
    · exact hms.2 m hm

namespace Json

open Text

def HasRun (n : Nat) (text : List Char) : Prop :=
  ∃ run, run <:+: text ∧ run.length = n ∧ ∀ c ∈ run, c.isDigit = true

theorem HasRun.of_suffix {n : Nat} {cs text : List Char} (h : HasRun n cs) (hs : cs <:+ text) :
    HasRun n text := by
  obtain ⟨run, hrun, hlength, hdigits⟩ := h
  exact ⟨run, hrun.trans hs.isInfix, hlength, hdigits⟩

def Refusal.Fits (text : List Char) : Refusal → Prop
  | .longInteger n => Number.digitLimit < n ∧ HasRun n text
  | _ => True

theorem Refusal.Fits.of_suffix {e : Refusal} {cs text : List Char} (h : e.Fits cs)
    (hs : cs <:+ text) : e.Fits text := by
  cases e with
  | longInteger n => exact ⟨h.1, h.2.of_suffix hs⟩
  | _ => trivial

theorem isDigit_of_mem_wholeDigits {cs : List Char} {c : Char} (h : c ∈ (wholeDigits cs).1) :
    c.isDigit = true := by
  unfold wholeDigits at h
  split at h
  · rw [List.mem_singleton.mp h]
    rfl
  · exact List.all_eq_true.mp List.all_takeWhile c h

/-- What may be said of the reading of a value from a text: it gives no object with two members of
one name, or refuses something that is in the text. -/
def Sound {α : Type} (text : List Char) : Except Refusal (Value × α) → Prop
  | .ok (v, _) => v.distinct = true
  | .error e => e.Fits text

theorem Sound.of_suffix {α : Type} {cs text : List Char} {r : Except Refusal (Value × α)}
    (h : Sound cs r) (hs : cs <:+ text) : Sound text r := by
  obtain e | ⟨v, rest⟩ := r
  · exact Refusal.Fits.of_suffix h hs
  · exact h

theorem scanMagnitude_sound (negative : Bool) (cs : List Char) :
    Sound cs (scanMagnitude negative cs) := by
  simp only [scanMagnitude]
  split
  · exact trivial
  · split
    · rfl
    · split
      · rename_i hlong
        exact ⟨hlong, _, ⟨[], _, wholeDigits_append cs⟩, rfl, fun c => isDigit_of_mem_wholeDigits⟩
      · rfl

theorem distinct_of_mem_words {w : List Char × Value} (h : w ∈ words) : w.2.distinct = true := by
  have hall : words.all (·.2.distinct) = true := by decide
  exact List.all_eq_true.mp hall w h

theorem scanScalar_sound (cs : List Char) : Sound cs (scanScalar cs) := by
  unfold scanScalar
  split
  · rename_i word v hfind
    exact distinct_of_mem_words (List.mem_of_find?_eq_some hfind)
  · split
    · exact (scanMagnitude_sound true _).of_suffix (List.suffix_cons _ _)
    · exact scanMagnitude_sound false cs

theorem scalar_sound (cs : List Char) : Sound cs (scalar cs) := by
  have hscan := scanScalar_sound cs
  unfold scalar
  split <;> rename_i h <;> rw [h] at hscan <;> exact hscan

theorem fits_of_stringRest {cs : List Char} {e : Refusal} (hread : stringRest cs = .error e)
    (text : List Char) : e.Fits text := by
  unfold stringRest at hread
  split at hread
  · cases hread
    trivial
  · cases hread

mutual

-- The readers of lists and objects start behind the bracket, so what is sound of the text from
-- there is sound of the whole.
theorem value_sound (depth : Nat) (cs : List Char) : Sound cs (value depth cs) := by
  fun_cases value depth cs with
  | case1 _ rest hrest hquote e hread => exact fits_of_stringRest hread cs
  | case2 => rfl
  | case3 => trivial
  | case4 => rfl
  | case5 _ rest hrest hopen depth start hstart hskip hlt =>
    exact (items_sound depth [] cs ⟨start, hlt⟩ (by simp)).of_suffix hlt.suffix
  | case6 => trivial
  | case7 => rfl
  | case8 _ _ rest hrest hopen depth start hstart hskip hlt =>
    exact (members_sound depth [] cs ⟨start, hlt⟩ rfl).of_suffix hlt.suffix
  | case9 => exact scalar_sound cs
termination_by (cs.length, 0)
decreasing_by all_goals exact Prod.Lex.left _ _ hlt.shorter

theorem items_sound (depth : Nat) (done : List Value) (text : List Char) (cs : Shorter text)
    (hdone : ∀ v ∈ done, v.distinct = true) : Sound cs.1 (items depth done text cs) := by
  have hitem := value_sound depth cs.1
  fun_cases items depth done text cs with
  | case1 e hvalue =>
    rw [hvalue] at hitem
    exact hitem
  | case2 v rest hrest hvalue stop hstop hskip hlt next hnext hclose =>
    rw [hvalue] at hitem
    refine Value.distinct_list_iff.mpr fun w hw => ?_
    rw [List.mem_reverse, List.mem_cons] at hw
    rcases hw with rfl | hw
    · exact hitem
    · exact hdone w hw
  | case3 => trivial
  | case4 v rest hrest hvalue stop hstop hskip hlt _ next hnext hcomma start hstart hagain hless =>
    rw [hvalue] at hitem
    have hrec := items_sound depth (v :: done) text ⟨start, hless.trans cs.2⟩ (by
      intro w hw
      rcases List.mem_cons.mp hw with rfl | hw
      · exact hitem
      · exact hdone w hw)
    exact hrec.of_suffix hless.suffix
termination_by (cs.1.length, 1)
decreasing_by
  · exact Prod.Lex.right _ Nat.zero_lt_one
  · exact Prod.Lex.left _ _ hless.shorter

theorem members_sound (depth : Nat) (done : List (String × Value)) (text : List Char)
    (cs : Shorter text) (hdone : (Value.object done).distinct = true) :
    Sound cs.1 (members depth done text cs) := by
  fun_cases members depth done text cs with
  | case1 => trivial
  | case2 rest hrest hquote e hread => exact fits_of_stringRest hread cs.1
  | case3 => trivial
  | case4 _ _ _ _ _ _ _ _ _ _ _ _ _ start _ _ hmember e hvalue =>
    have hitem := value_sound depth start
    rw [hvalue] at hitem
    exact Refusal.Fits.of_suffix hitem hmember.suffix
  | case5 _ _ _ _ _ _ _ _ _ _ _ _ _ start _ _ hmember v _ _ hvalue =>
    have hitem := value_sound depth start
    rw [hvalue] at hitem
    exact distinct_putMember hdone hitem
  | case6 => trivial
  | case7 _ _ _ key _ _ _ _ _ _ _ _ _ start _ _ hmember v _ _ hvalue _ _ _ _ _ _ _ _ again _ _
      hlt =>
    have hitem := value_sound depth start
    rw [hvalue] at hitem
    have hrec := members_sound depth (putMember key v done) text ⟨again, hlt.trans cs.2⟩
      (distinct_putMember hdone hitem)
    exact hrec.of_suffix hlt.suffix
termination_by (cs.1.length, 0)
decreasing_by
  all_goals first | exact Prod.Lex.left _ _ hmember.shorter | exact Prod.Lex.left _ _ hlt.shorter

end

theorem distinct_of_parse {limit : Nat} {text : List Char} {v : Value}
    (h : parse limit text = .ok v) : v.distinct = true := by
  have hread := value_sound limit (skipBlank text).1
  unfold parse at h
  split at h
  · cases h
  · split at h
    · cases h
    · rename_i hvalue
      rw [hvalue] at hread
      split at h
      · cases h
        exact hread
      · cases h

theorem longInteger_of_parse {limit n : Nat} {text : List Char}
    (h : parse limit text = .error (.longInteger n)) :
    Number.digitLimit < n ∧ HasRun n text := by
  have hread := value_sound limit (skipBlank text).1
  unfold parse at h
  split at h
  · cases h
  · split at h
    · rename_i hvalue
      rw [hvalue] at hread
      cases h
      exact Refusal.Fits.of_suffix (e := .longInteger n) hread (List.dropWhile_suffix _)
    · split at h <;> cases h

end Json
end PrefixLint.Ast
