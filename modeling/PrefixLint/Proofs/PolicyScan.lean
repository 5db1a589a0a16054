import Mathlib.Logic.Relation
import PrefixLint.Toml.Document

/-!
# What a policy text is refused for

Most refusals are faults of the text. Beyond them an integer is refused for more digits than are
read, all of which stand in the text, and a value is refused for lack of room, which the arrays and
inline tables around it have taken: two steps for an array, three for an inline table. This is
followed through the scanners, from what the parts refuse to what the whole does. Scanners go on to
an end of what was left for them, so a value stands inside no more nests than the text has
characters.
-/

namespace PrefixLint.Toml

open Text

def RefusesOnly {α : Type} (text : List Char) (E : Refusal → Prop) (s : Scan α) : Prop :=
  ∀ cs e, s text cs = .error e → E e

def GivesOnly {α : Type} (text : List Char) (Q : α → Prop) (s : Scan α) : Prop :=
  ∀ cs a rest, s text cs = .ok (a, rest) → Q a

section

variable {α β : Type} {text : List Char} {E : Refusal → Prop} {P : α → Prop} {Q : β → Prop}
  {s : Scan α} {f : α → Scan β}

namespace GivesOnly

theorem any (s : Scan α) : GivesOnly text (fun _ => True) s := fun _ _ _ _ => True.intro

theorem pure {a : α} (h : P a) : GivesOnly text P (pure a) := by
  intro cs b rest hread
  cases hread
  exact h

theorem bind (hs : GivesOnly text P s) (hf : ∀ a, P a → GivesOnly text Q (f a)) :
    GivesOnly text Q (s >>= f) := by
  intro cs b rest hread
  simp only [Bind.bind] at hread
  split at hread
  · rename_i a next hfirst
    exact hf a (hs cs a next hfirst) next b rest hread
  · cases hread

theorem fail (cause : Cause) : GivesOnly text P (fail cause) := by
  intro cs a rest hread
  cases hread

theorem attempt (h : GivesOnly text P s) :
    GivesOnly text (fun found => ∀ a, found = some a → P a) (Scan.attempt s) := by
  intro cs found rest hread a hfound
  simp only [Scan.attempt] at hread
  split at hread
  · rename_i hfirst
    cases hread
    cases hfound
    exact h cs _ _ hfirst
  · cases hread
    cases hfound

theorem take (n : Nat) : GivesOnly text (fun cs => cs.length ≤ text.length) (Scan.take n) := by
  intro cs a rest hread
  cases hread
  exact Nat.le_trans (List.length_take_le' n cs.1) cs.2.length_le

end GivesOnly

namespace RefusesOnly

theorem pure (a : α) : RefusesOnly text E (pure a) := by
  intro cs e hread
  cases hread

theorem bind_gives (hs : RefusesOnly text E s) (hP : GivesOnly text P s)
    (hf : ∀ a, P a → RefusesOnly text E (f a)) : RefusesOnly text E (s >>= f) := by
  intro cs e hread
  simp only [Bind.bind] at hread
  split at hread
  · rename_i a next hfirst
    exact hf a (hP cs a next hfirst) next e hread
  · rename_i e' hfirst
    cases hread
    exact hs cs e hfirst

theorem bind (hs : RefusesOnly text E s) (hf : ∀ a, RefusesOnly text E (f a)) :
    RefusesOnly text E (s >>= f) :=
  bind_gives hs (.any s) fun a _ => hf a

theorem map {g : α → β} (hs : RefusesOnly text E s) : RefusesOnly text E (g <$> s) :=
  bind hs fun a => pure (g a)

theorem failWith {fault : List Char → Refusal} (h : ∀ left, E (fault left)) :
    RefusesOnly text E (Scan.failWith fault : Scan α) := by
  intro cs e hread
  cases hread
  exact h cs.1

theorem attempt (s : Scan α) : RefusesOnly text E (Scan.attempt s) := by
  intro cs e hread
  simp only [Scan.attempt] at hread
  split at hread <;> cases hread

theorem peek : RefusesOnly text E Scan.peek := by
  intro cs e hread
  cases hread

theorem left : RefusesOnly text E Scan.left := by
  intro cs e hread
  cases hread

theorem drop (n : Nat) : RefusesOnly text E (Scan.drop n) := by
  intro cs e hread
  cases hread

theorem take (n : Nat) : RefusesOnly text E (Scan.take n) := by
  intro cs e hread
  cases hread

theorem skipWhile (p : Char → Bool) : RefusesOnly text E (Scan.skipWhile p) := by
  intro cs e hread
  cases hread

theorem takeWhile (p : Char → Bool) : RefusesOnly text E (Scan.takeWhile p) := by
  intro cs e hread
  cases hread

theorem accept (wanted : String) : RefusesOnly text E (Scan.accept wanted) := by
  intro cs e hread
  simp only [Scan.accept] at hread
  split at hread <;> cases hread

end RefusesOnly

end

section Text

variable {text : List Char} {E : Refusal → Prop} (hE : ∀ cause left, E (.malformed cause left))

include hE

theorem fail_refuses {α : Type} (cause : Cause) : RefusesOnly text E (fail cause : Scan α) :=
  .failWith (hE cause)

theorem upTo_refuses (stop : String) (illegal : Char → Bool) (mustEnd : Bool) :
    RefusesOnly text E (upTo stop illegal mustEnd) := by
  refine .bind .left fun cs => ?_
  dsimp only
  split
  · exact .bind (.drop _) fun _ => fail_refuses hE _
  · split
    · exact .take _
    · exact .bind (.skipWhile _) fun _ => fail_refuses hE _

theorem comment_refuses : RefusesOnly text E comment := by
  refine .bind (.accept _) fun found => ?_
  split
  · exact .bind (upTo_refuses hE _ _ _) fun _ => .pure _
  · exact .pure _

theorem hexChar_refuses (width : Nat) : RefusesOnly text E (hexChar width) := by
  refine .bind .left fun cs => ?_
  dsimp only
  split
  · refine .bind (.drop _) fun _ => ?_
    split
    · exact .pure _
    · exact fail_refuses hE _
  · exact fail_refuses hE _

theorem joinLines_refuses : RefusesOnly text E joinLines := by
  refine .bind (.skipWhile _) fun _ => .bind .peek fun c => ?_
  split
  · exact .pure _
  · exact .skipWhile _
  · exact fail_refuses hE _

theorem escape_refuses (multiline : Bool) : RefusesOnly text E (escape multiline) := by
  refine .bind .peek fun c => ?_
  split
  · exact .bind (.drop _) fun _ => .bind (hexChar_refuses hE _) fun _ => .pure _
  · exact .bind (.drop _) fun _ => .bind (hexChar_refuses hE _) fun _ => .pure _
  · split
    · exact .bind (joinLines_refuses hE) fun _ => .pure _
    · refine .bind (.drop _) fun _ => ?_
      split
      · exact .pure _
      · exact fail_refuses hE _
  · exact fail_refuses hE _

theorem basicChars_refuses (multiline : Bool) (done : List Char) :
    RefusesOnly text E (basicChars multiline done) := by
  intro cs e h
  fun_induction basicChars multiline done text cs with
  | case1 =>
    cases h
    exact hE _ _
  | case2 done rest e' hescape =>
    cases h
    exact escape_refuses hE multiline _ e hescape
  | case3 _ _ _ _ _ _ _ _ ih => exact ih h
  | case4 => cases h
  | case5 => cases h
  | case6 =>
    cases h
    exact hE _ _
  | case7 _ _ _ _ _ _ _ _ ih => exact ih h

theorem basicString_refuses : RefusesOnly text E basicString :=
  .bind (.drop _) fun _ => .bind (basicChars_refuses hE _ _) fun _ => .pure _

theorem literalString_refuses : RefusesOnly text E literalString :=
  .bind (.drop _) fun _ => .bind (upTo_refuses hE _ _ _) fun _ => .bind (.drop _) fun _ => .pure _

omit hE in
theorem extraQuotes_refuses (mark : String) : RefusesOnly text E (extraQuotes mark) := by
  refine .bind (.accept _) fun once => ?_
  split
  · refine .bind (.accept _) fun twice => ?_
    split <;> exact .pure _
  · exact .pure _

theorem multilineBasic_refuses : RefusesOnly text E multilineBasic :=
  .bind (.drop _) fun _ => .bind (.accept _) fun _ => .bind (basicChars_refuses hE _ _) fun _ =>
    .bind (extraQuotes_refuses _) fun _ => .pure _

theorem multilineLiteral_refuses : RefusesOnly text E multilineLiteral :=
  .bind (.drop _) fun _ => .bind (.accept _) fun _ => .bind (upTo_refuses hE _ _ _) fun _ =>
    .bind (.drop _) fun _ => .bind (extraQuotes_refuses _) fun _ => .pure _

theorem keyPart_refuses : RefusesOnly text E keyPart := by
  refine .bind .peek fun c => ?_
  split
  · exact literalString_refuses hE
  · exact basicString_refuses hE
  · split
    · exact .bind (.takeWhile _) fun _ => .pure _
    · exact fail_refuses hE _
  · exact fail_refuses hE _

theorem keyRest_refuses (done : Key) : RefusesOnly text E (keyRest done) := by
  intro cs e h
  rw [keyRest] at h
  split at h
  rename_i stop hstop _
  split at h
  · cases h
  · rename_i rest hrest _
    split at h
    rename_i start hstart _
    split at h
    · rename_i hpart
      cases h
      exact keyPart_refuses hE _ e hpart
    · rename_i part next hnext _
      have hlt := (hrest.within hstop).before (hnext.trans hstart)
      exact keyRest_refuses _ _ e h
termination_by cs => cs.1.length
decreasing_by exact hlt.shorter

theorem key_refuses : RefusesOnly text E key :=
  .bind (keyPart_refuses hE) fun _ => keyRest_refuses hE _

theorem skipSpaceFrom_refuses (inComment : Bool) :
    RefusesOnly text E (skipSpaceFrom inComment) := by
  intro cs e h
  fun_induction skipSpaceFrom inComment text cs with
  | case1 => cases h
  | case2 =>
    cases h
    exact hE _ _
  | case3 _ _ _ _ ih => exact ih h
  | case4 _ _ _ _ _ _ ih => exact ih h
  | case5 => cases h

theorem keyAndEquals_refuses : RefusesOnly text E keyAndEquals := by
  refine .bind (key_refuses hE) fun _ => .bind (.accept _) fun _ => ?_
  split
  · exact .bind (.skipWhile _) fun _ => .pure _
  · exact fail_refuses hE _

end Text

/-- A refusal is right about a text of that length: an integer has too many digits and no more than
the text, and a lack of room is one that `Deep` allows. -/
def Refusal.Fits (length : Nat) (Deep : Shortage → Prop) : Refusal → Prop
  | .malformed _ _ => True
  | .longInteger n => Number.digitLimit < n ∧ n ≤ length
  | .tooDeep shortage => Deep shortage

theorem Refusal.Fits.mono {length length' : Nat} {Deep Deep' : Shortage → Prop} {e : Refusal}
    (h : e.Fits length Deep) (hle : length ≤ length') (hdeep : ∀ s, Deep s → Deep' s) :
    e.Fits length' Deep' := by
  cases e with
  | malformed => exact True.intro
  | longInteger n => exact ⟨h.1, Nat.le_trans h.2 hle⟩
  | tooDeep shortage => exact hdeep shortage h

theorem fits_malformed (length : Nat) (Deep : Shortage → Prop) (cause : Cause) (left : List Char) :
    (Refusal.malformed cause left).Fits length Deep := True.intro

section Numbers

variable {text : List Char}

theorem digitRun_gives (base : Nat) :
    GivesOnly text (fun ds => ds.length ≤ text.length) (digitRun base) := by
  refine .bind (.any _) fun cs _ => ?_
  split
  · split
    · refine .bind (.take _) fun run hrun => .pure ?_
      exact Nat.le_trans (List.length_filter_le _ run) hrun
    · exact .fail _
  · exact .fail _

theorem wholeDigits_gives :
    GivesOnly text (fun ds => ds.length ≤ 1 ∨ ds.length ≤ text.length) wholeDigits := by
  refine .bind (.any _) fun zero _ => ?_
  split
  · exact .pure (Or.inl (Nat.le_refl _))
  · intro cs ds rest hread
    exact Or.inr (digitRun_gives 10 cs ds rest hread)

theorem decimalNumber_gives : GivesOnly text (fun result => ∀ n, result = .error n →
    Number.digitLimit < n ∧ n ≤ text.length) decimalNumber := by
  refine .bind (.any _) fun negative _ => ?_
  dsimp only
  -- Without a minus sign a plus sign is skipped; from there on the two cases are the same.
  split
  case' isTrue => refine .bind (.any _) fun _ _ => ?_
  all_goals
    refine .bind wholeDigits_gives fun whole hwhole => ?_
    refine .bind (.any _) fun places _ => .bind (.any _) fun power _ => ?_
    split
    · exact .pure (by simp)
    · split
      · rename_i hlong
        refine .pure fun n hn => ?_
        cases hn
        have hlimit : 1 < Number.digitLimit := by decide
        exact ⟨hlong, by omega⟩
      · exact .pure (by simp)

theorem word_refuses {E : Refusal → Prop} (hE : ∀ cause left, E (.malformed cause left))
    (listed : List (String × Value)) : RefusesOnly text E (word listed) := by
  induction listed with
  | nil => exact fail_refuses hE _
  | cons entry rest ih =>
    refine .bind (.accept _) fun found => ?_
    split
    · exact .pure _
    · exact ih

theorem scalar_refuses (Deep : Shortage → Prop) :
    RefusesOnly text (Refusal.Fits text.length Deep) scalar := by
  refine .bind .left fun start => .bind (.attempt _) fun truth => ?_
  split
  · exact .pure _
  refine .bind (.attempt _) fun moment => ?_
  split
  · split
    · exact .pure _
    · exact .failWith fun _ => True.intro
  refine .bind (.attempt _) fun clock => ?_
  split
  · exact .pure _
  refine .bind (.attempt _) fun radix => ?_
  split
  · exact .pure _
  refine .bind_gives (.attempt _) decimalNumber_gives.attempt fun number hnumber => ?_
  split
  · exact .pure _
  · rename_i n
    exact .failWith fun _ => hnumber _ rfl n rfl
  · exact word_refuses (fits_malformed _ _) _

theorem simpleValue_refuses (Deep : Shortage → Prop) :
    RefusesOnly text (Refusal.Fits text.length Deep) simpleValue := by
  have hE := fits_malformed text.length Deep
  refine .bind .left fun cs => ?_
  split
  · exact .map (multilineBasic_refuses hE)
  split
  · exact .map (multilineLiteral_refuses hE)
  split
  · exact .map (basicString_refuses hE)
  split
  · exact .map (literalString_refuses hE)
  · exact scalar_refuses Deep

end Numbers

/-! ## What is left -/

/-- What a scanner leaves is an end of what was left for it, not only of the text. -/
def Advances {α : Type} (s : Scan α) : Prop :=
  ∀ text cs a rest, s text cs = .ok (a, rest) → rest.1 <:+ cs.1

namespace Advances

variable {α β : Type} {s : Scan α} {f : α → Scan β}

theorem pure (a : α) : Advances (pure a) := by
  intro text cs b rest h
  cases h
  exact List.suffix_rfl

theorem bind (hs : Advances s) (hf : ∀ a, Advances (f a)) : Advances (s >>= f) := by
  intro text cs b rest h
  simp only [Bind.bind] at h
  split at h
  · rename_i a next hfirst
    exact (hf a text next b rest h).trans (hs text cs a next hfirst)
  · cases h

theorem fail (cause : Cause) : Advances (fail cause : Scan α) := by
  intro text cs a rest h
  cases h

theorem peek : Advances Scan.peek := by
  intro text cs a rest h
  cases h
  exact List.suffix_rfl

theorem left : Advances Scan.left := by
  intro text cs a rest h
  cases h
  exact List.suffix_rfl

theorem drop (n : Nat) : Advances (Scan.drop n) := by
  intro text cs a rest h
  cases h
  exact List.drop_suffix n cs.1

theorem take (n : Nat) : Advances (Scan.take n) := by
  intro text cs a rest h
  cases h
  exact List.drop_suffix n cs.1

theorem skipWhile (p : Char → Bool) : Advances (Scan.skipWhile p) := by
  intro text cs a rest h
  cases h
  exact List.dropWhile_suffix p

theorem takeWhile (p : Char → Bool) : Advances (Scan.takeWhile p) := by
  intro text cs a rest h
  cases h
  exact List.dropWhile_suffix p

theorem accept (wanted : String) : Advances (Scan.accept wanted) := by
  intro text cs a rest h
  simp only [Scan.accept] at h
  split at h
  · cases h
    exact List.drop_suffix _ cs.1
  · cases h
    exact List.suffix_rfl

end Advances

theorem upTo_advances (stop : String) (illegal : Char → Bool) (mustEnd : Bool) :
    Advances (upTo stop illegal mustEnd) := by
  refine .bind .left fun cs => ?_
  dsimp only
  split
  · exact .bind (.drop _) fun _ => .fail _
  · split
    · exact .take _
    · exact .bind (.skipWhile _) fun _ => .fail _

theorem basicChars_advances (multiline : Bool) (done : List Char) :
    Advances (basicChars multiline done) := by
  intro text cs a rest h
  fun_induction basicChars multiline done text cs with
  | case1 => cases h
  | case2 => cases h
  | case3 _ _ _ _ _ _ _ hlt ih => exact (ih h).trans hlt.suffix
  | case4 =>
    cases h
    exact List.suffix_cons _ _
  | case5 =>
    cases h
    exact List.drop_suffix _ _
  | case6 => cases h
  | case7 _ _ _ _ _ _ _ _ ih => exact (ih h).trans (List.suffix_cons _ _)

theorem basicString_advances : Advances basicString :=
  .bind (.drop _) fun _ => .bind (basicChars_advances _ _) fun _ => .pure _

theorem literalString_advances : Advances literalString :=
  .bind (.drop _) fun _ => .bind (upTo_advances _ _ _) fun _ => .bind (.drop _) fun _ => .pure _

theorem keyPart_advances : Advances keyPart := by
  refine .bind .peek fun c => ?_
  split
  · exact literalString_advances
  · exact basicString_advances
  · split
    · exact .bind (.takeWhile _) fun _ => .pure _
    · exact .fail _
  · exact .fail _

theorem keyRest_advances (done : Key) : Advances (keyRest done) := by
  intro text cs k last h
  rw [keyRest] at h
  split at h
  rename_i stop hstop _
  split at h
  · cases h
    exact hstop
  · rename_i rest hrest _
    split at h
    rename_i start hstart _
    split at h
    · cases h
    · rename_i part next hnext _
      have hlt := (hrest.within hstop).before (hnext.trans hstart)
      exact (keyRest_advances _ _ _ k last h).trans hlt.suffix
termination_by _ cs => cs.1.length
decreasing_by exact hlt.shorter

theorem keyAndEquals_advances : Advances keyAndEquals := by
  refine .bind (.bind keyPart_advances fun _ => keyRest_advances _) fun _ => ?_
  refine .bind (.accept _) fun _ => ?_
  split
  · exact .bind (.skipWhile _) fun _ => .pure _
  · exact .fail _

theorem skipSpaceFrom_advances (inComment : Bool) : Advances (skipSpaceFrom inComment) := by
  intro text cs a rest h
  fun_induction skipSpaceFrom inComment text cs with
  | case1 =>
    cases h
    exact List.suffix_rfl
  | case2 => cases h
  | case3 _ _ _ _ ih => exact (ih h).trans (List.suffix_cons _ _)
  | case4 _ _ _ _ _ _ ih => exact (ih h).trans (List.suffix_cons _ _)
  | case5 =>
    cases h
    exact List.suffix_rfl

theorem anyValue_advances (room : Nat) : Advances (anyValue room) := by
  intro text cs v rest h
  simp only [anyValue] at h
  split at h
  · cases h
  · rename_i inner _
    cases h
    exact inner.2

/-! ## Nests -/

inductive Nest where
  | array
  | inlineTable
  deriving DecidableEq, Repr

def Nest.room : Nest → Nat
  | .array => arrayRoom
  | .inlineTable => inlineTableRoom

def taken : List Nest → Nat
  | [] => 0
  | nest :: nests => nest.room + taken nests

/-- A scanner that is at one end of a text goes on to another. -/
inductive Leaves {α : Type} (s : Scan α) : List Char → List Char → Prop where
  | intro {text : List Char} {before after : Rest text} {a : α}
      (scan : s text before = .ok (a, after)) : Leaves s before.1 after.1

inductive NextItem : List Char → List Char → Prop where
  | intro {room : Nat} {item behind more next : List Char}
      (value : Leaves (anyValue room) item behind) (comma : Leaves skipSpace behind (',' :: more))
      (space : Leaves skipSpace more next) : NextItem item next

inductive NextMember : List Char → List Char → Prop where
  | intro {room : Nat} {member start behind more : List Char}
      (key : Leaves keyAndEquals member start) (value : Leaves (anyValue room) start behind)
      (comma : behind.dropWhile isBlank = ',' :: more) :
      NextMember member (more.dropWhile isBlank)

/-- The value at the start of a text holds another, inside the nests from the outermost on. -/
inductive Holds : List Char → List Nest → List Char → Prop where
  | self (cs : List Char) : Holds cs [] cs
  | array {rest first item inner : List Char} {nests : List Nest}
      (space : Leaves skipSpace rest first) (items : Relation.ReflTransGen NextItem first item)
      (holds : Holds item nests inner) : Holds ('[' :: rest) (.array :: nests) inner
  | inlineTable {rest member start inner : List Char} {nests : List Nest}
      (members : Relation.ReflTransGen NextMember (rest.dropWhile isBlank) member)
      (key : Leaves keyAndEquals member start) (holds : Holds start nests inner) :
      Holds ('{' :: rest) (.inlineTable :: nests) inner

def Crowded (room : Nat) (cs : List Char) (shortage : Shortage) : Prop :=
  ∃ nests inner, Holds cs nests inner ∧
    (Form.of inner).shortages[room - taken nests]? = some shortage

def CrowdedItem (room : Nat) (first : List Char) (shortage : Shortage) : Prop :=
  ∃ item, Relation.ReflTransGen NextItem first item ∧ Crowded room item shortage

def CrowdedMember (room : Nat) (first : List Char) (shortage : Shortage) : Prop :=
  ∃ member start, Relation.ReflTransGen NextMember first member ∧
    Leaves keyAndEquals member start ∧ Crowded room start shortage

theorem Leaves.suffix {α : Type} {s : Scan α} {cs rest : List Char} (hs : Advances s)
    (h : Leaves s cs rest) : rest <:+ cs := by
  cases h with
  | intro scan => exact hs _ _ _ _ scan

theorem NextItem.suffix {item next : List Char} (h : NextItem item next) : next <:+ item := by
  obtain ⟨hvalue, hcomma, hspace⟩ := h
  have hmore := hspace.suffix (skipSpaceFrom_advances false)
  have hbehind := hcomma.suffix (skipSpaceFrom_advances false)
  exact (hmore.trans (List.suffix_cons _ _)).trans
    (hbehind.trans (hvalue.suffix (anyValue_advances _)))

theorem NextMember.suffix {member next : List Char} (h : NextMember member next) :
    next <:+ member := by
  obtain ⟨hkey, hvalue, hcomma⟩ := h
  have hstart := hkey.suffix keyAndEquals_advances
  have hbehind := (hvalue.suffix (anyValue_advances _)).trans hstart
  have hmore := hcomma ▸ List.dropWhile_suffix isBlank
  exact ((List.dropWhile_suffix isBlank).trans (List.suffix_cons _ _)).trans (hmore.trans hbehind)

theorem suffix_of_steps {r : List Char → List Char → Prop} (hr : ∀ cs next, r cs next → next <:+ cs)
    {cs rest : List Char} (h : Relation.ReflTransGen r cs rest) : rest <:+ cs := by
  induction h with
  | refl => exact List.suffix_rfl
  | tail _ hstep ih => exact (hr _ _ hstep).trans ih

theorem Holds.length_le {cs inner : List Char} {nests : List Nest} (h : Holds cs nests inner) :
    nests.length + inner.length ≤ cs.length := by
  induction h with
  | self => simp
  | array space items _ ih =>
    have hfirst := (space.suffix (skipSpaceFrom_advances false)).length_le
    have hitem := (suffix_of_steps (fun _ _ => NextItem.suffix) items).length_le
    simp only [List.length_cons]
    omega
  | inlineTable members key _ ih =>
    have hmember := (suffix_of_steps (fun _ _ => NextMember.suffix) members).trans
      (List.dropWhile_suffix isBlank)
    have hlength := hmember.length_le
    have hstart := (key.suffix keyAndEquals_advances).length_le
    simp only [List.length_cons]
    omega

theorem leaves_of_whole {α : Type} {s : Scan α} {cs rest : List Char} {a : α} {h : rest <:+ cs}
    (hscan : s cs (.whole cs) = .ok (a, ⟨rest, h⟩)) : Leaves s cs rest := .intro hscan

theorem leaves_of_value {room : Nat} {cs rest : List Char} {v : Value} {h : rest <:+ cs}
    (hread : value room cs = .ok (v, ⟨rest, h⟩)) : Leaves (anyValue room) cs rest := by
  have hscan : anyValue room cs (.whole cs) = .ok (v, ⟨rest, h⟩) := by
    simp only [anyValue, Rest.whole, hread]
  exact leaves_of_whole hscan

theorem dropWhile_of_skip {cs start : List Char} {h : start <:+ cs}
    (hskip : (Rest.whole cs).dropWhile isBlank = ⟨start, h⟩) : cs.dropWhile isBlank = start :=
  congrArg Subtype.val hskip

theorem crowded_array {room : Nat} {rest first : List Char} {shortage : Shortage}
    (hspace : Leaves skipSpace rest first) (h : CrowdedItem (room - arrayRoom) first shortage) :
    Crowded room ('[' :: rest) shortage := by
  obtain ⟨item, hitems, nests, inner, hholds, hshort⟩ := h
  refine ⟨.array :: nests, inner, .array hspace hitems hholds, ?_⟩
  rw [Nat.sub_sub] at hshort
  exact hshort

theorem crowded_inlineTable {room : Nat} {rest : List Char} {shortage : Shortage}
    (h : CrowdedMember (room - inlineTableRoom) (rest.dropWhile isBlank) shortage) :
    Crowded room ('{' :: rest) shortage := by
  obtain ⟨member, start, hmembers, hkey, nests, inner, hholds, hshort⟩ := h
  refine ⟨.inlineTable :: nests, inner, .inlineTable hmembers hkey hholds, ?_⟩
  rw [Nat.sub_sub] at hshort
  exact hshort

theorem crowdedItem_of_next {room : Nat} {first next : List Char} {shortage : Shortage}
    (hnext : NextItem first next) (h : CrowdedItem room next shortage) :
    CrowdedItem room first shortage := by
  obtain ⟨item, hitems, hcrowded⟩ := h
  exact ⟨item, .head hnext hitems, hcrowded⟩

theorem crowdedMember_of_next {room : Nat} {first next : List Char} {shortage : Shortage}
    (hnext : NextMember first next) (h : CrowdedMember room next shortage) :
    CrowdedMember room first shortage := by
  obtain ⟨member, start, hmembers, hkey, hcrowded⟩ := h
  exact ⟨member, start, .head hnext hmembers, hkey, hcrowded⟩

theorem skipSpace_fits {text : List Char} {cs : Rest text} {e : Refusal}
    (h : skipSpace text cs = .error e) (length : Nat) (Deep : Shortage → Prop) :
    e.Fits length Deep :=
  skipSpaceFrom_refuses (fits_malformed length Deep) false cs e h

mutual

theorem value_fits (room : Nat) (cs : List Char) :
    ∀ e, value room cs = .error e → e.Fits cs.length (Crowded room cs) := by
  fun_cases value room cs with
  | case1 shortage hshort =>
    intro e h
    cases h
    exact ⟨[], cs, .self cs, hshort⟩
  | case2 _ rest hrest hopen e' hskip =>
    intro e h
    cases h
    exact skipSpace_fits hskip _ _
  | case3 =>
    intro e h
    cases h
  | case4 _ rest hrest hopen _ start hstart hskip hlt =>
    intro e h
    refine (arrayItems_fits _ [] cs ⟨start, hlt.suffix⟩ e h).mono (Nat.le_of_lt hlt.shorter) ?_
    intro shortage hcrowded
    rw [eq_cons_of_after? hopen]
    exact crowded_array (leaves_of_whole hskip) hcrowded
  | case5 =>
    intro e h
    cases h
  | case6 _ _ rest hrest hopen start hstart hskip hlt =>
    intro e h
    refine (inlineMembers_fits _ [] [] cs ⟨start, hlt.suffix⟩ e h).mono
      (Nat.le_of_lt hlt.shorter) ?_
    intro shortage hcrowded
    rw [eq_cons_of_after? hopen]
    refine crowded_inlineTable ?_
    rw [dropWhile_of_skip hskip]
    exact hcrowded
  | case7 => exact fun e h => simpleValue_refuses _ (.whole cs) e h
termination_by (cs.length, 0)
decreasing_by all_goals exact Prod.Lex.left _ _ hlt.shorter

theorem arrayItems_fits (room : Nat) (done : List Value) (text : List Char) (cs : Rest text) :
    ∀ e, arrayItems room done text cs = .error e →
      e.Fits cs.1.length (CrowdedItem room cs.1) := by
  have hitem := value_fits room cs.1
  fun_cases arrayItems room done text cs with
  | case1 e' hvalue =>
    intro e h
    cases h
    exact (hitem _ hvalue).mono (Nat.le_refl _) fun _ hcrowded => ⟨cs.1, .refl, hcrowded⟩
  | case2 _ _ _ _ e' hskip =>
    intro e h
    cases h
    exact skipSpace_fits hskip _ _
  | case3 =>
    intro e h
    cases h
  | case4 =>
    intro e h
    cases h
    exact True.intro
  | case5 _ _ _ _ _ _ _ _ _ _ _ _ _ e' hskip =>
    intro e h
    cases h
    exact skipSpace_fits hskip _ _
  | case6 =>
    intro e h
    cases h
  | case7 v behind hbehind hvalue _ stop hstop hskip hpause _ rest hrest hcomma _ start hstart
      hagain hlt =>
    intro e h
    have hbefore : Leaves skipSpace behind (',' :: rest) := by
      rw [← eq_cons_of_after? hcomma]
      exact leaves_of_whole hskip
    have hnext : NextItem cs.1 start :=
      .intro (leaves_of_value hvalue) hbefore (leaves_of_whole hagain)
    exact (arrayItems_fits room (v :: done) text ⟨start, hlt.suffix.trans cs.2⟩ e h).mono
      (Nat.le_of_lt hlt.shorter) fun _ => crowdedItem_of_next hnext
termination_by (cs.1.length, 1)
decreasing_by
  · exact Prod.Lex.right _ Nat.zero_lt_one
  · exact Prod.Lex.left _ _ hlt.shorter

theorem inlineMembers_fits (room : Nat) (closed : List Key) (t : Table) (text : List Char)
    (cs : Rest text) : ∀ e, inlineMembers room closed t text cs = .error e →
      e.Fits cs.1.length (CrowdedMember room cs.1) := by
  fun_cases inlineMembers room closed t text cs with
  | case1 e' hkey =>
    intro e h
    cases h
    exact keyAndEquals_refuses (fits_malformed _ _) _ _ hkey
  | case2 _ start hstart hkey e' hvalue =>
    intro e h
    cases h
    refine (value_fits room start _ hvalue).mono hstart.length_le fun _ hcrowded => ?_
    exact ⟨cs.1, start, .refl, leaves_of_whole hkey, hcrowded⟩
  | case3 =>
    intro e h
    cases h
    exact True.intro
  | case4 =>
    intro e h
    cases h
  | case5 =>
    intro e h
    cases h
    exact True.intro
  | case6 k start hstart hkey v behind hbehind hvalue t' _ stop hstop hskip hpause _ rest hrest
      hcomma again hagain hresume hlt =>
    intro e h
    have hbefore : behind.dropWhile isBlank = ',' :: rest :=
      (dropWhile_of_skip hskip).trans (eq_cons_of_after? hcomma)
    have hnext : NextMember cs.1 again := by
      rw [← dropWhile_of_skip hresume]
      exact .intro (leaves_of_whole hkey) (leaves_of_value hvalue) hbefore
    exact (inlineMembers_fits room _ t' text ⟨again, hlt.suffix.trans cs.2⟩ e h).mono
      (Nat.le_of_lt hlt.shorter) fun _ => crowdedMember_of_next hnext
termination_by (cs.1.length, 1)
decreasing_by
  · exact Prod.Lex.right' _ hstart.length_le Nat.zero_lt_one
  · exact Prod.Lex.left _ _ hlt.shorter

end

def NestedIn (text : List Char) (nests : List Nest) (inner : List Char) : Prop :=
  ∃ member start, member <:+ text ∧ Leaves keyAndEquals member start ∧ Holds start nests inner

theorem NestedIn.length_le {text inner : List Char} {nests : List Nest}
    (h : NestedIn text nests inner) : nests.length + inner.length ≤ text.length := by
  obtain ⟨member, start, hmember, hkey, hholds⟩ := h
  have hstart := (hkey.suffix keyAndEquals_advances).trans hmember
  exact Nat.le_trans hholds.length_le hstart.length_le

def CrowdedIn (room : Nat) (text : List Char) (shortage : Shortage) : Prop :=
  ∃ nests inner, NestedIn text nests inner ∧
    (Form.of inner).shortages[room - taken nests]? = some shortage

theorem CrowdedIn.of_suffix {room : Nat} {cs text : List Char} {shortage : Shortage}
    (h : CrowdedIn room cs shortage) (hs : cs <:+ text) : CrowdedIn room text shortage := by
  obtain ⟨nests, inner, ⟨member, start, hmember, hnested⟩, hshort⟩ := h
  exact ⟨nests, inner, ⟨member, start, hmember.trans hs, hnested⟩, hshort⟩

theorem length_shortages_le (form : Form) : form.shortages.length ≤ 5 := by
  cases form <;> decide

theorem taken_le (nests : List Nest) : taken nests ≤ 3 * nests.length := by
  induction nests with
  | nil => exact Nat.le_refl _
  | cons nest nests ih =>
    have hnest : nest.room ≤ 3 := by cases nest <;> decide
    simp only [taken, List.length_cons]
    omega

theorem room_lt_of_shortage {room : Nat} {nests : List Nest} {form : Form} {shortage : Shortage}
    (h : form.shortages[room - taken nests]? = some shortage) : room < 3 * nests.length + 5 := by
  have hroom := (List.getElem?_eq_some_iff.mp h).1
  have hlength := length_shortages_le form
  have htaken := taken_le nests
  omega

namespace Document

section Lines

variable {text : List Char} {E : Refusal → Prop} (hE : ∀ cause left, E (.malformed cause left))

include hE

theorem lift_refuses (change : Except Cause Document) : RefusesOnly text E (lift change) := by
  unfold lift
  split
  · exact .pure _
  · exact fail_refuses hE _

theorem tableHeader_refuses (d : Document) : RefusesOnly text E (tableHeader d) := by
  refine .bind (.drop _) fun _ => .bind (.skipWhile _) fun _ => .bind (key_refuses hE) fun _ => ?_
  refine .bind (lift_refuses hE _) fun _ => .bind (.accept _) fun _ => ?_
  split
  · exact .pure _
  · exact fail_refuses hE _

theorem arrayHeader_refuses (d : Document) : RefusesOnly text E (arrayHeader d) := by
  refine .bind (.drop _) fun _ => .bind (.skipWhile _) fun _ => .bind (key_refuses hE) fun _ => ?_
  refine .bind (lift_refuses hE _) fun _ => .bind (.accept _) fun _ => ?_
  split
  · exact .pure _
  · exact fail_refuses hE _

end Lines

section Fits

variable {text : List Char} (room : Nat) (d : Document)

theorem member_refuses :
    RefusesOnly text (Refusal.Fits text.length (CrowdedIn room text)) (member room d) := by
  intro cs e h
  simp only [member, Bind.bind] at h
  split at h
  · rename_i k start hkey
    split at h
    · exact lift_refuses (fits_malformed _ _) _ _ e h
    · rename_i e' hread
      cases h
      simp only [anyValue] at hread
      split at hread
      · rename_i hvalue
        cases hread
        refine (value_fits room start.1 _ hvalue).mono start.2.length_le ?_
        rintro shortage ⟨nests, inner, hholds, hshort⟩
        exact ⟨nests, inner, ⟨cs.1, start.1, cs.2, .intro hkey, hholds⟩, hshort⟩
      · cases hread
  · rename_i hkey
    cases h
    exact keyAndEquals_refuses (fits_malformed _ _) _ e hkey

theorem statement_refuses :
    RefusesOnly text (Refusal.Fits text.length (CrowdedIn room text)) (statement room d) := by
  have hE := fits_malformed text.length (CrowdedIn room text)
  refine .bind .left fun cs => ?_
  split
  · exact arrayHeader_refuses hE _
  · exact tableHeader_refuses hE _
  · split
    · exact member_refuses room d
    · split
      · exact .pure _
      · exact fail_refuses hE _
  · exact .pure _

theorem line_refuses :
    RefusesOnly text (Refusal.Fits text.length (CrowdedIn room text)) (line room d) := by
  refine .bind (.skipWhile _) fun _ => .bind .peek fun c => ?_
  split
  · exact .pure _
  · refine .bind (statement_refuses room d) fun _ => .bind (.skipWhile _) fun _ => ?_
    exact .bind (comment_refuses (fits_malformed _ _)) fun _ => .pure _

end Fits

theorem lines_fits {room : Nat} {d : Document} {cs : List Char} {e : Refusal}
    (h : lines room d cs = .error e) : e.Fits cs.length (CrowdedIn room cs) := by
  fun_induction lines room d cs with
  | case1 d cs e' hline =>
    cases h
    exact line_refuses room d _ e hline
  | case2 d cs d' next hnext hline rest hrest hend hlt ih =>
    exact (ih h).mono (Nat.le_of_lt hlt) fun _ hdeep =>
      hdeep.of_suffix (hrest.suffix.trans hnext)
  | case3 => cases h
  | case4 =>
    cases h
    exact True.intro

end Document

theorem longInteger_of_parse {room n : Nat} {src : List Char}
    (h : parse room src = .error (.longInteger n)) : Number.digitLimit < n ∧ n ≤ src.length := by
  unfold parse at h
  split at h
  · cases h
  · cases h
  · rename_i hlines
    cases h
    exact Document.lines_fits hlines
  · cases h

theorem tooDeep_of_parse {room : Nat} {src : List Char} {shortage : Shortage}
    (h : parse room src = .error (.tooDeep shortage)) : CrowdedIn room src shortage := by
  unfold parse at h
  split at h
  · cases h
  · cases h
  · cases h
  · rename_i hlines
    cases h
    exact Document.lines_fits hlines

-- The number is refused: of room for five steps the two arrays around it leave one.
example : parse 5 "a = [[1]]".toList = .error (.tooDeep .calling) := by cbv

end PrefixLint.Toml
