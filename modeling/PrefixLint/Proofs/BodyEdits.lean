import PrefixLint.Proofs.ChildOrder

/-!
# Edits of a body

A program lists its statements in its member `body`. Writing another list there changes nothing else
that is read from the node. A statement that is put in, or moved, keeps the others in their order among
the children, whether the children are sorted by offsets or stand as they are written: a statement
that is put in needs an offset for this, one that is moved does not.
-/

namespace PrefixLint.Ast

theorem putMember_of_absent {key : String} {before : List (String × Value)}
    (h : ∀ m ∈ before, m.1 ≠ key) (v w : Value) (after : List (String × Value)) :
    putMember key v (before ++ (key, w) :: after) = before ++ (key, v) :: after := by
  induction before with
  | nil => simp [putMember]
  | cons m before ih =>
    obtain ⟨k, u⟩ := m
    have hk : k ≠ key := h (k, u) List.mem_cons_self
    have hrest := ih fun m hm => h m (List.mem_cons_of_mem _ hm)
    simp [putMember, hk, hrest]

theorem lookup_putMember_of_ne {key other : String} (h : other ≠ key) (v : Value)
    (ms : List (String × Value)) : (putMember key v ms).lookup other = ms.lookup other := by
  induction ms with
  | nil => simp [putMember, List.lookup_cons, beq_false_of_ne h]
  | cons m ms ih =>
    obtain ⟨k, w⟩ := m
    by_cases hk : k = key
    · subst hk
      simp [putMember, List.lookup_cons, beq_false_of_ne h]
    · simp [putMember, hk, List.lookup_cons, ih]

namespace Value

/-- A node with other statements in its body. -/
def withBody (v : Value) (items : List Value) : Value :=
  .object (putMember "body" (.list items) v.members)

theorem get?_withBody (v : Value) (items : List Value) {key : String} (h : key ≠ "body") :
    (v.withBody items).get? key = v.get? key :=
  lookup_putMember_of_ne h _ v.members

theorem nodeType?_withBody (v : Value) (items : List Value) :
    (v.withBody items).nodeType? = v.nodeType? := by
  have htype : (v.withBody items).get? "type" = v.get? "type" := get?_withBody v items (by decide)
  rw [nodeType?, nodeType?, getText?, getText?, htype]

theorem nodeType_withBody (v : Value) (items : List Value) :
    (v.withBody items).nodeType = v.nodeType := by
  rw [nodeType, nodeType, nodeType?_withBody]

theorem kind_withBody {v body : Value} (h : v.get? "body" = some body) (items : List Value) :
    (v.withBody items).kind = v.kind := by
  cases v with
  | object ms => rfl
  | _ => cases h

theorem nodesOf_list (items : List Value) : (Value.list items).nodesOf = items.filter isNode := by
  simp [nodesOf, isNode, nodeType?, getText?, get?, members, items?]

theorem members_withBody {v : Value} {items : List Value}
    (h : v.get? "body" = some (.list items)) :
    ∃ before after, v.members = before ++ ("body", .list items) :: after ∧
      ∀ others, (v.withBody others).members = before ++ ("body", .list others) :: after := by
  obtain ⟨before, after, hmembers, habsent⟩ := List.lookup_eq_some_iff.mp h
  refine ⟨before, after, hmembers, fun others => ?_⟩
  rw [withBody, members, hmembers, putMember_of_absent]
  intro m hm hname
  have hne := habsent m hm
  simp [hname] at hne

theorem withBody_self {v : Value} {items : List Value} (h : v.get? "body" = some (.list items)) :
    v.withBody items = v := by
  obtain ⟨before, after, hold, hnew⟩ := members_withBody h
  cases v with
  | object ms =>
    have hmembers : putMember "body" (.list items) ms = ms := (hnew items).trans hold.symm
    rw [withBody, members, hmembers]
  | _ => cases h

theorem children_withBody {v : Value} {items : List Value}
    (h : v.get? "body" = some (.list items)) :
    ∃ front back, ∀ others, (v.withBody others).children =
      byOffset (front ++ (others.filter isNode ++ back)) := by
  obtain ⟨before, after, -, hnew⟩ := members_withBody h
  have hkey : metadataKeys.contains "body" = false := by decide
  refine ⟨childrenOf before, childrenOf after, fun others => ?_⟩
  rw [children, hnew]
  simp only [childrenOf, List.flatMap_append, List.flatMap_cons, hkey, nodesOf_list]
  rfl

theorem insertIdx_split {items : List Value} {k : Nat} (h : k ≤ items.length) (s : Value) :
    ∃ before after, items = before ++ after ∧ items.insertIdx k s = before ++ s :: after := by
  obtain ⟨before, after, hitems, -, hinsert⟩ := List.exists_of_modifyTailIdx (List.cons s) h
  exact ⟨before, after, hitems, hinsert⟩

theorem eraseIdx_split {items : List Value} {i : Nat} {s : Value} (h : items[i]? = some s) :
    ∃ before after, items = before ++ s :: after ∧ items.eraseIdx i = before ++ after := by
  obtain ⟨hi, rfl⟩ := List.getElem?_eq_some_iff.mp h
  refine ⟨items.take i, items.drop (i + 1), ?_, List.eraseIdx_eq_take_drop_succ items i⟩
  rw [← List.drop_eq_getElem_cons hi, List.take_append_drop]

theorem children_insert {v s : Value} {items : List Value} {k : Nat}
    (hbody : v.get? "body" = some (.list items)) (hk : k ≤ items.length)
    (hnode : s.isNode = true) (hoffset : s.offset?.isSome = true) :
    ∃ front back, v.children = front ++ back ∧
      (v.withBody (items.insertIdx k s)).children = front ++ s :: back := by
  obtain ⟨front, back, hchildren⟩ := children_withBody hbody
  obtain ⟨before, after, hitems, hinsert⟩ := insertIdx_split hk s
  have hself := hchildren items
  rw [withBody_self hbody] at hself
  rw [hself, hchildren, hinsert, hitems]
  simpa [hnode] using
    byOffset_insert hoffset (front ++ before.filter isNode) (after.filter isNode ++ back)

theorem children_move {v s : Value} {items : List Value} {i j : Nat}
    (hbody : v.get? "body" = some (.list items)) (hi : items[i]? = some s) (hj : j < items.length)
    (hnode : s.isNode = true) :
    ∃ front back front' back', v.children = front ++ s :: back ∧
      (v.withBody ((items.eraseIdx i).insertIdx j s)).children = front' ++ s :: back' ∧
      front ++ back = front' ++ back' := by
  obtain ⟨front, back, hchildren⟩ := children_withBody hbody
  obtain ⟨before, after, hitems, herase⟩ := eraseIdx_split hi
  have hlength : j ≤ (items.eraseIdx i).length := by
    rw [hitems] at hj
    rw [herase]
    simp only [List.length_append, List.length_cons] at hj ⊢
    omega
  obtain ⟨before', after', hrest, hinsert⟩ := insertIdx_split hlength s
  have hself := hchildren items
  rw [withBody_self hbody] at hself
  rw [hself, hchildren, hinsert, hitems]
  have hothers : before.filter isNode ++ after.filter isNode =
      before'.filter isNode ++ after'.filter isNode := by
    rw [← List.filter_append, ← List.filter_append, ← herase, hrest]
  have hsame : (front ++ before.filter isNode) ++ (after.filter isNode ++ back) =
      (front ++ before'.filter isNode) ++ (after'.filter isNode ++ back) := by
    calc (front ++ before.filter isNode) ++ (after.filter isNode ++ back)
      _ = front ++ (before.filter isNode ++ after.filter isNode) ++ back := by
        simp only [List.append_assoc]
      _ = front ++ (before'.filter isNode ++ after'.filter isNode) ++ back := by rw [hothers]
      _ = (front ++ before'.filter isNode) ++ (after'.filter isNode ++ back) := by
        simp only [List.append_assoc]
  simpa [hnode] using byOffset_moved hsame s

end Value

end PrefixLint.Ast
