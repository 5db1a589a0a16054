import Mathlib.Data.List.Sort
import Mathlib.Data.String.Basic
import PrefixLint.Proofs.CommandReport

/-!
# What becomes of the options

A command sets the prefix type in the table of its policy and judges the outcome. The prefix type is
all that it changes, so every key that is refused comes from the policy, and the refused keys are
named in ascending order, whatever their order was. Only without such a key does the prefix type
count. Where the command sets it, no value of the policy is seen, not even one of a wrong type.
-/

namespace PrefixLint

namespace Options

/-- A table with the prefix type set: at its place if it is there, at the end if not. -/
def overridden (table : List (String × Setting)) : Option Setting → List (String × Setting)
  | none => table
  | some value =>
    if table.any (·.1 == prefixTypeOption) then
      table.map fun m => if m.1 = prefixTypeOption then (m.1, value) else m
    else
      table ++ [(prefixTypeOption, value)]

def unknownKeys (table : List (String × Setting)) : List String :=
  (table.map (·.1)).filter (· ≠ prefixTypeOption)

section Override

variable (table : List (String × Setting))

theorem map_fst_replaced (value : Setting) :
    (table.map fun m => if m.1 = prefixTypeOption then (m.1, value) else m).map (·.1) =
      table.map (·.1) := by
  rw [List.map_map]
  refine List.map_congr_left fun m _ => ?_
  by_cases hm : m.1 = prefixTypeOption
  · simp [hm]
  · simp [hm]

theorem lookup_replaced (value : Setting) :
    (table.map fun m => if m.1 = prefixTypeOption then (m.1, value) else m).lookup
        prefixTypeOption =
      (table.lookup prefixTypeOption).map fun _ => value := by
  induction table with
  | nil => rfl
  | cons m rest ih =>
    obtain ⟨key, old⟩ := m
    by_cases hkey : key = prefixTypeOption
    · simp [hkey]
    · have hne : (prefixTypeOption == key) = false := beq_false_of_ne (Ne.symm hkey)
      simp only [List.map_cons, if_neg hkey, List.lookup_cons, hne, ih]

theorem any_key_eq :
    table.any (·.1 == prefixTypeOption) = (table.lookup prefixTypeOption).isSome := by
  induction table with
  | nil => rfl
  | cons m rest ih =>
    obtain ⟨key, old⟩ := m
    by_cases hkey : key = prefixTypeOption
    · simp [hkey]
    · have hne : (prefixTypeOption == key) = false := beq_false_of_ne (Ne.symm hkey)
      rw [List.any_cons, List.lookup_cons, hne, ih, beq_false_of_ne hkey, Bool.false_or]

theorem unknownKeys_overridden (flag : Option Setting) :
    unknownKeys (overridden table flag) = unknownKeys table := by
  cases flag with
  | none => rfl
  | some value =>
    rw [overridden]
    split
    · rw [unknownKeys, map_fst_replaced, unknownKeys]
    · simp [unknownKeys]

theorem lookup_overridden (flag : Option Setting) :
    (overridden table flag).lookup prefixTypeOption =
      flag.or (table.lookup prefixTypeOption) := by
  cases flag with
  | none => rfl
  | some value =>
    rw [overridden, any_key_eq]
    cases hold : table.lookup prefixTypeOption with
    | none => simp [List.lookup_append, hold]
    | some old => simp [lookup_replaced, hold]

end Override

theorem unknownKeys_eq_nil_iff {table : List (String × Setting)} :
    unknownKeys table = [] ↔ ∀ m ∈ table, m.1 = prefixTypeOption := by
  simp [unknownKeys]

theorem sort_eq_of_perm {keys others : List String} (h : keys.Perm others) :
    (keys.mergeSort fun a b => decide (a ≤ b)) = others.mergeSort fun a b => decide (a ≤ b) := by
  have hperm := (List.mergeSort_perm keys fun a b => decide (a ≤ b)).trans
    (h.trans (List.mergeSort_perm others fun a b => decide (a ≤ b)).symm)
  exact hperm.eq_of_pairwise (fun a b _ _ => le_antisymm) (List.pairwise_mergeSort' (· ≤ ·) keys)
    (List.pairwise_mergeSort' (· ≤ ·) others)

theorem prefixTypeOf_of_unknown {table : List (String × Setting)} (h : unknownKeys table ≠ []) :
    prefixTypeOf table =
      .error (.unknownKeys ((unknownKeys table).mergeSort fun a b => decide (a ≤ b))) := by
  rw [prefixTypeOf]
  split
  · next hnil => exact absurd hnil h
  · rfl

theorem prefixTypeOf_of_known {table : List (String × Setting)} (h : unknownKeys table = []) :
    prefixTypeOf table =
      match table.lookup prefixTypeOption with
      | none | some .null => .ok defaultPrefixType
      | some (.text s) => .ok (if s = "" then defaultPrefixType else s)
      | some (.other kind) => .error (.wrongType kind) := by
  rw [prefixTypeOf]
  split
  · rfl
  · next hnil => exact absurd h hnil

theorem prefixTypeOf_congr {table other : List (String × Setting)}
    (hkeys : (unknownKeys other).Perm (unknownKeys table))
    (hlookup : other.lookup prefixTypeOption = table.lookup prefixTypeOption) :
    prefixTypeOf other = prefixTypeOf table := by
  -- The keys are judged before the value, so the cases are those of the keys.
  by_cases h : unknownKeys table = []
  · have hother : unknownKeys other = [] := (h ▸ hkeys).eq_nil
    rw [prefixTypeOf_of_known h, prefixTypeOf_of_known hother, hlookup]
  · have hother : unknownKeys other ≠ [] := fun hnil => h (hnil ▸ hkeys).symm.eq_nil
    rw [prefixTypeOf_of_unknown h, prefixTypeOf_of_unknown hother, sort_eq_of_perm hkeys]

inductive Asks : Option Setting → String → Prop where
  | named {s : String} (nonempty : s ≠ "") : Asks (some (.text s)) s
  | empty : Asks (some (.text "")) "dash"
  | null : Asks (some .null) "dash"
  | absent : Asks none "dash"

theorem Asks.ne_other {asked : Option Setting} {s : String} (h : Asks asked s) (kind : Kind) :
    asked ≠ some (.other kind) := by
  rintro rfl
  cases h

theorem asks_or_other (asked : Option Setting) :
    (∃ s, Asks asked s) ∨ ∃ kind, asked = some (.other kind) := by
  match asked with
  | none => exact Or.inl ⟨_, .absent⟩
  | some .null => exact Or.inl ⟨_, .null⟩
  | some (.text s) =>
    by_cases hs : s = ""
    · subst hs
      exact Or.inl ⟨_, .empty⟩
    · exact Or.inl ⟨s, .named hs⟩
  | some (.other kind) => exact Or.inr ⟨kind, rfl⟩

theorem prefixTypeOf_of_asks {table : List (String × Setting)} {s : String}
    (hkeys : unknownKeys table = []) (h : Asks (table.lookup prefixTypeOption) s) :
    prefixTypeOf table = .ok s := by
  rw [prefixTypeOf_of_known hkeys]
  cases hasked : table.lookup prefixTypeOption with
  | none =>
    rw [hasked] at h
    cases h
    rfl
  | some value =>
    rw [hasked] at h
    cases h with
    | named hs => simp [hs]
    | empty => rfl
    | null => rfl

/-- What a table of options comes to: the first fault that applies, or the options. -/
structure Resolves (table : List (String × Setting))
    (result : Except Fault (Options × Session)) : Prop where
  unknown_iff : (∃ f, result = .error f ∧ f.code = "unknown_option") ↔
    ∃ m ∈ table, m.1 ≠ "prefixType"
  unknown_message : ∀ f, result = .error f → f.code = "unknown_option" →
    ∃ keys, keys.Perm (unknownKeys table) ∧ keys.Pairwise (· ≤ ·) ∧
      f.message = "unknown rule option(s): " ++ ", ".intercalate keys ++ " (allowed: prefixType)"
  invalid_iff : (∀ m ∈ table, m.1 = "prefixType") →
    ((∃ f, result = .error f ∧ f.code = "invalid_prefix_type") ↔
      ∃ kind, table.lookup "prefixType" = some (.other kind))
  settled : (∀ m ∈ table, m.1 = "prefixType") →
    (∀ kind, table.lookup "prefixType" ≠ some (.other kind)) →
    ∃ options after, result = .ok (options, after) ∧
      Asks (table.lookup "prefixType") options.prefixType ∧
      ∀ c, options.convention = some c ↔ c.name = options.prefixType

theorem message_unknownKeys (keys : List String) :
    (Fault.unknownKeys keys).message =
      "unknown rule option(s): " ++ ", ".intercalate keys ++ " (allowed: prefixType)" := by
  change "unknown rule option(s): " ++ ", ".intercalate keys ++ " (allowed: " ++ "prefixType" ++ ")"
    = _
  rw [String.append_assoc, String.append_assoc]
  rfl

end Options

theorem Convention.ofName?_eq_some_iff {s : String} {c : Convention} :
    Convention.ofName? s = some c ↔ c.name = s := by
  constructor
  · intro h
    simpa using List.find?_some h
  · rintro rfl
    cases c <;> decide

open Options

section Resolution

variable {table : List (String × Setting)} (s : Session)

theorem resolves_of_unknown (h : unknownKeys table ≠ []) : Resolves table (s.options table) := by
  have hresult := Command.options_eq s table
  rw [prefixTypeOf_of_unknown h] at hresult
  have hkeys : ¬ ∀ m ∈ table, m.1 = "prefixType" := fun hall => h (unknownKeys_eq_nil_iff.mpr hall)
  constructor
  case unknown_iff => exact ⟨fun _ => by simpa using hkeys, fun _ => ⟨_, hresult, rfl⟩⟩
  case unknown_message =>
    intro f hf _
    cases hresult.symm.trans hf
    exact ⟨_, List.mergeSort_perm _ _, List.pairwise_mergeSort' (· ≤ ·) _, message_unknownKeys _⟩
  case invalid_iff => exact fun hall => absurd hall hkeys
  case settled => exact fun hall => absurd hall hkeys

theorem resolves_of_asks (hkeys : unknownKeys table = []) {prefixType : String}
    (h : Asks (table.lookup prefixTypeOption) prefixType) : Resolves table (s.options table) := by
  have hresult := Command.options_eq s table
  rw [prefixTypeOf_of_asks hkeys h] at hresult
  have hall := unknownKeys_eq_nil_iff.mp hkeys
  have hok : ∀ f, s.options table ≠ .error f := by
    intro f hf
    cases hresult.symm.trans hf
  constructor
  case unknown_iff =>
    refine iff_of_false (fun ⟨f, hf, _⟩ => hok f hf) ?_
    rintro ⟨m, hm, hne⟩
    exact hne (hall m hm)
  case unknown_message => exact fun f hf => absurd hf (hok f)
  case invalid_iff =>
    intro _
    refine iff_of_false (fun ⟨f, hf, _⟩ => hok f hf) ?_
    rintro ⟨kind, hother⟩
    exact h.ne_other kind hother
  case settled =>
    exact fun _ _ => ⟨_, _, hresult, h, fun c => Convention.ofName?_eq_some_iff⟩

theorem resolves_of_other (hkeys : unknownKeys table = []) {kind : Kind}
    (h : table.lookup prefixTypeOption = some (.other kind)) :
    Resolves table (s.options table) := by
  have hresult := Command.options_eq s table
  rw [prefixTypeOf_of_known hkeys, h] at hresult
  have hall := unknownKeys_eq_nil_iff.mp hkeys
  have hcode : ∀ f, s.options table = .error f → f.code ≠ "unknown_option" := by
    intro f hf
    cases hresult.symm.trans hf
    simp [Fault.code]
  constructor
  case unknown_iff =>
    refine iff_of_false (fun ⟨f, hf, hunknown⟩ => hcode f hf hunknown) ?_
    rintro ⟨m, hm, hne⟩
    exact hne (hall m hm)
  case unknown_message => exact fun f hf hunknown => absurd hunknown (hcode f hf)
  case invalid_iff => exact fun _ => iff_of_true ⟨_, hresult, rfl⟩ ⟨kind, h⟩
  case settled => exact fun _ hnot => absurd h (hnot kind)

theorem resolves (table : List (String × Setting)) : Resolves table (s.options table) := by
  by_cases hkeys : unknownKeys table = []
  · rcases asks_or_other (table.lookup prefixTypeOption) with ⟨prefixType, hasks⟩ | ⟨kind, hother⟩
    · exact resolves_of_asks s hkeys hasks
    · exact resolves_of_other s hkeys hother
  · exact resolves_of_unknown s hkeys

theorem options_congr {other : List (String × Setting)}
    (hkeys : (unknownKeys other).Perm (unknownKeys table))
    (hlookup : other.lookup prefixTypeOption = table.lookup prefixTypeOption) :
    s.options other = s.options table := by
  rw [Command.options_eq, Command.options_eq, prefixTypeOf_congr hkeys hlookup]

theorem options_ne_notTable (table : List (String × Setting)) (kind : Kind) :
    s.options table ≠ .error (.notTable kind) := by
  intro h
  rw [Command.options_eq] at h
  by_cases hkeys : unknownKeys table = []
  · rcases asks_or_other (table.lookup prefixTypeOption) with ⟨prefixType, hasks⟩ | ⟨_, hother⟩
    · rw [prefixTypeOf_of_asks hkeys hasks] at h
      cases h
    · rw [prefixTypeOf_of_known hkeys, hother] at h
      cases h
  · rw [prefixTypeOf_of_unknown hkeys] at h
    cases h

theorem optionsOf_of_table {raw : Ast.Value} (h : tableOf raw = .ok table) :
    s.optionsOf raw = s.options table := by
  simp only [Session.optionsOf, h, bind, Except.bind]

/-- Options are refused for not being a table exactly where some are given that are none. -/
theorem optionsOf_notTable_iff {raw : Ast.Value} {kind : Kind} :
    s.optionsOf raw = .error (.notTable kind) ↔
      raw.kind = kind ∧ kind ≠ .null ∧ kind ≠ .table := by
  cases raw with
  | null =>
    rw [optionsOf_of_table s rfl]
    refine iff_of_false (options_ne_notTable s _ kind) ?_
    rintro ⟨rfl, hnull, -⟩
    exact hnull rfl
  | object members =>
    rw [optionsOf_of_table s rfl]
    refine iff_of_false (options_ne_notTable s _ kind) ?_
    rintro ⟨rfl, -, htable⟩
    exact htable rfl
  | bool | int | float | text | list =>
    simp only [Session.optionsOf, tableOf, bind, Except.bind, Ast.Value.kind, Except.error.injEq,
      Fault.notTable.injEq]
    constructor
    · rintro rfl
      decide
    · exact fun h => h.1

end Resolution

theorem Command.ruleTable_eq (policy : Policy) (flag : Option Setting) :
    ruleTable policy flag = overridden (Policy.settings policy.rule) flag := by
  cases flag <;> rfl

/-- A table whose prefix type a command may set resolves to the first fault that applies or to the
options it asks for. The order of its entries does not matter, and what it says of a prefix type
that the command sets does not either: two tables with the same other keys give the same. -/
theorem options_overridden (s : Session) (table : List (String × Setting)) (flag : Option Setting) :
    Resolves (overridden table flag) (s.options (overridden table flag)) ∧
    (∀ other, other.Perm table → (table.map (·.1)).Nodup →
      s.options (overridden other flag) = s.options (overridden table flag)) ∧
    (∀ other value, (unknownKeys other).Perm (unknownKeys table) →
      s.options (overridden other (some value)) = s.options (overridden table (some value))) ∧
    ∀ policy : Policy, Command.ruleTable policy flag =
      overridden (Policy.settings policy.rule) flag := by
  refine ⟨resolves s _, ?_, ?_, fun policy => Command.ruleTable_eq policy flag⟩
  · intro other hperm hnodup
    refine options_congr s ?_ ?_
    · rw [unknownKeys_overridden, unknownKeys_overridden]
      exact (hperm.map _).filter _
    · rw [lookup_overridden, lookup_overridden, lookup_eq_of_perm hperm.symm hnodup]
  · intro other value hkeys
    refine options_congr s ?_ ?_
    · rwa [unknownKeys_overridden, unknownKeys_overridden]
    · rw [lookup_overridden, lookup_overridden, Option.some_or, Option.some_or]

def crowdedTable : List (String × Setting) :=
  [("zoom", .null), ("prefixType", .other .int), ("angle", .text "wide")]

def wrongTable : List (String × Setting) := [("prefixType", .other .int)]

theorem options_overridden_crowdedTable :
    (∃ f, Session.options {} crowdedTable = .error f ∧ f.code = "unknown_option") ∧
    Session.options {} crowdedTable.reverse = Session.options {} crowdedTable ∧
    (∃ f, Session.options {} wrongTable = .error f ∧ f.code = "invalid_prefix_type") ∧
    Session.options {} (overridden wrongTable (some (.text "camelCase"))) =
      .ok (⟨"camelCase", some .camelCase⟩, {}) := by
  obtain ⟨hcrowded, horder, -, -⟩ := options_overridden {} crowdedTable none
  obtain ⟨hwrong, -, -, -⟩ := options_overridden {} wrongTable none
  obtain ⟨-, -, hignored, -⟩ := options_overridden {} [] none
  refine ⟨hcrowded.unknown_iff.mpr ⟨("zoom", .null), List.mem_cons_self, by decide⟩, ?_, ?_, ?_⟩
  · exact horder crowdedTable.reverse (List.reverse_perm crowdedTable) (by decide)
  · exact (hwrong.invalid_iff (by decide)).mpr ⟨.int, rfl⟩
  · exact (hignored wrongTable (.text "camelCase") (by decide)).trans (by decide)

end PrefixLint
