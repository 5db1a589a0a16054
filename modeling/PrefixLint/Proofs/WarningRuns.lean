import Mathlib.Data.List.DropRight
import PrefixLint.Proofs.JournalUnits

/-!
# Warnings over a whole session

A session is asked to warn, asked whether it has warned, asked for conventions and told to forget, in
any order. Since it last forgot it has warned about exactly the keys that a call was about, each once
and in the words of the first such call. A name of no convention is a key of its own, so unknown names
are warned about apart from each other.
-/

namespace PrefixLint

inductive WarningCall where
  | warn (key label message : String)
  | ask (key : String)
  | parse (prefixType : Option String)
  | forget
  deriving DecidableEq

inductive Reply where
  | flag (b : Bool)
  | convention (c : Option Convention)
  | none
  deriving DecidableEq

structure Warning where
  key : String
  label : String
  message : String
  deriving DecidableEq

namespace Warning

def records (w : Warning) (j : Journal) : List Record :=
  j.entry .warning .warnings (Session.warningText w.label w.message)

def ofName (name : String) : Warning :=
  ⟨"prefix_type:" ++ name, "[classname-prefix]", Session.unknownConventionText name⟩

end Warning

namespace WarningCall

def perform (s : Session) : WarningCall → Reply × Session
  | warn key label message => (s.warnOnce key message label).map .flag id
  | ask key => (.flag (s.hasWarned key), s)
  | parse prefixType => (s.conventionOf prefixType).map .convention id
  | forget => (.none, s.forgetWarnings)

/-- The warning that a call is about: the one it asks for, or that of a name of no convention. -/
def warning? : WarningCall → Option Warning
  | warn key label message => some ⟨key, label, message⟩
  | parse (some name) =>
    if name ∈ Convention.all.map Convention.name then none else some (.ofName name)
  | _ => none

def key? (c : WarningCall) : Option String := c.warning?.map Warning.key

def recent (calls : List WarningCall) : List WarningCall := calls.rtakeWhile (· ≠ forget)

def keys (calls : List WarningCall) : List String := calls.filterMap key?

end WarningCall

open WarningCall

def Session.after (s : Session) (calls : List WarningCall) : Session :=
  calls.foldl (fun s c => (c.perform s).2) s

structure WarningTurn where
  call : WarningCall
  reply : Reply
  logged : List Record

def WarningTurn.of (s : Session) (c : WarningCall) : WarningTurn :=
  ⟨c, (c.perform s).1,
    (c.perform s).2.journal.records.toList.drop s.journal.records.toList.length⟩

def Session.turns (s : Session) : List WarningCall → List WarningTurn
  | [] => []
  | c :: rest => .of s c :: turns (c.perform s).2 rest

theorem ofName?_eq_none_iff {name : String} :
    Convention.ofName? name = none ↔ name ∉ Convention.all.map Convention.name := by
  simp only [Convention.ofName?, List.find?_eq_none, List.mem_map, not_exists, not_and,
    decide_eq_true_eq]

theorem mem_names_iff {name : String} :
    name ∈ Convention.all.map Convention.name ↔ ∃ c : Convention, c.name = name := by
  rw [List.mem_map]
  refine exists_congr fun c => and_iff_right ?_
  cases c <;> decide

section Step

variable (s : Session)

theorem hasWarned_eq (key : String) : s.hasWarned key = decide (key ∈ s.warned) := by
  simp [Session.hasWarned]

theorem warnOnce_of_warned {key : String} (h : key ∈ s.warned) (label message : String) :
    s.warnOnce key message label = (false, s) := by
  simp [Session.warnOnce, hasWarned_eq, h]

theorem warnOnce_of_not_warned {key : String} (h : key ∉ s.warned) (label message : String) :
    s.warnOnce key message label =
      (true,
        { warned := s.warned ++ [key]
          journal := s.journal.gain (Warning.records ⟨key, label, message⟩ s.journal) }) := by
  have hnew : ¬ s.hasWarned key = true := by simp [hasWarned_eq, h]
  rw [Session.warnOnce, if_neg hnew, Journal.write_eq_gain]
  rfl

theorem session_perform (c : WarningCall) :
    (c.perform s).2 =
      match c.warning? with
      | some w => (s.warnOnce w.key w.message w.label).2
      | none => if c = .forget then s.forgetWarnings else s := by
  match c with
  | .warn key label message => rfl
  | .ask key => rfl
  | .parse none => rfl
  | .forget => rfl
  | .parse (some name) =>
    by_cases hname : name ∈ Convention.all.map Convention.name
    · obtain ⟨found, hfound⟩ := Option.ne_none_iff_exists'.mp
        fun hnone => ofName?_eq_none_iff.mp hnone hname
      simp [perform, warning?, hname, Session.conventionOf, Session.convention, hfound]
    · have hnone := ofName?_eq_none_iff.mpr hname
      simp only [perform, warning?, hname, Session.conventionOf, Session.convention, hnone, if_false]
      rfl

def WarningCall.added (c : WarningCall) : List Record :=
  match c.warning? with
  | some w => if w.key ∈ s.warned then [] else w.records s.journal
  | none => []

theorem journal_perform (c : WarningCall) :
    (c.perform s).2.journal = s.journal.gain (c.added s) := by
  rw [session_perform, added]
  cases c.warning? with
  | none =>
    simp only
    split <;> exact (Journal.gain_nil _).symm
  | some w =>
    by_cases hw : w.key ∈ s.warned
    · simp only [warnOnce_of_warned s hw, if_pos hw]
      exact (Journal.gain_nil _).symm
    · simp only [warnOnce_of_not_warned s hw, if_neg hw]

theorem logged_eq (c : WarningCall) : (WarningTurn.of s c).logged = c.added s := by
  simp [WarningTurn.of, journal_perform]

theorem mem_warned_perform (c : WarningCall) (key : String) :
    key ∈ (c.perform s).2.warned ↔ c ≠ .forget ∧ (key ∈ s.warned ∨ c.key? = some key) := by
  rw [session_perform, key?]
  cases hw : c.warning? with
  | none =>
    by_cases hc : c = .forget
    · simp [hc, Session.forgetWarnings]
    · simp [hc]
  | some w =>
    have hc : c ≠ .forget := by
      rintro rfl
      cases hw
    by_cases hwarned : w.key ∈ s.warned
    · simp only [warnOnce_of_warned s hwarned, Option.map_some, Option.some.injEq]
      refine ⟨fun hkey => ⟨hc, Or.inl hkey⟩, ?_⟩
      rintro ⟨-, hkey | rfl⟩
      · exact hkey
      · exact hwarned
    · simp only [warnOnce_of_not_warned s hwarned, List.mem_append, List.mem_singleton,
        Option.map_some, Option.some.injEq]
      exact ⟨fun hkey => ⟨hc, hkey.imp_right Eq.symm⟩, fun hkey => hkey.2.imp_right Eq.symm⟩

end Step

theorem recent_concat_forget (calls : List WarningCall) : recent (calls ++ [.forget]) = [] := by
  apply List.rtakeWhile_concat_neg
  simp

theorem recent_concat {c : WarningCall} (h : c ≠ .forget) (calls : List WarningCall) :
    recent (calls ++ [c]) = recent calls ++ [c] := by
  apply List.rtakeWhile_concat_pos
  simpa using h

theorem mem_keys_recent_concat (calls : List WarningCall) (c : WarningCall) (key : String) :
    key ∈ keys (recent (calls ++ [c])) ↔
      c ≠ .forget ∧ (key ∈ keys (recent calls) ∨ c.key? = some key) := by
  by_cases hc : c = .forget
  · rw [hc, recent_concat_forget]
    simp [keys]
  · rw [recent_concat hc]
    simp [keys, hc]

structure Session.Remembers (journal : Journal) (calls : List WarningCall) (s : Session) : Prop where
  threshold : s.journal.threshold = journal.threshold
  unit : s.journal.unit = journal.unit
  warned : ∀ key, key ∈ s.warned ↔ key ∈ keys (recent calls)

theorem remembers_perform {journal : Journal} {calls : List WarningCall} {s : Session}
    (h : s.Remembers journal calls) (c : WarningCall) :
    (c.perform s).2.Remembers journal (calls ++ [c]) := by
  refine ⟨?_, ?_, fun key => ?_⟩
  · rw [journal_perform, Journal.gain_threshold, h.threshold]
  · rw [journal_perform, Journal.gain_unit, h.unit]
  · rw [mem_warned_perform, mem_keys_recent_concat, h.warned]

theorem remembers_after (journal : Journal) (calls : List WarningCall) :
    (Session.after { journal } calls).Remembers journal calls := by
  induction calls using List.reverseRecOn with
  | nil => exact ⟨rfl, rfl, fun key => by simp [Session.after, recent, keys]⟩
  | append_singleton calls c ih =>
    rw [Session.after, List.foldl_append]
    exact remembers_perform ih c

theorem records_congr {j k : Journal} (ht : j.threshold = k.threshold) (hu : j.unit = k.unit)
    (w : Warning) : w.records j = w.records k := by
  rw [Warning.records, Warning.records, Journal.entry, Journal.entry, ht, hu]

section Unknown

variable {name : String} (hname : ∀ c : Convention, c.name ≠ name)

include hname

theorem warning?_of_unknown : (WarningCall.parse (some name)).warning? = some (.ofName name) := by
  have hnot : name ∉ Convention.all.map Convention.name := by
    rw [mem_names_iff]
    exact fun ⟨c, hc⟩ => hname c hc
  rw [warning?, if_neg hnot]

theorem key?_eq_ofName_iff {c : WarningCall} :
    c.key? = some (Warning.ofName name).key ↔
      c = .parse (some name) ∨ ∃ label message, c = .warn ("prefix_type:" ++ name) label message := by
  constructor
  · intro hkey
    match c with
    | .warn key label message =>
      cases Option.some.inj hkey
      exact Or.inr ⟨label, message, rfl⟩
    | .parse (some other) =>
      simp only [key?, warning?] at hkey
      split at hkey
      · cases hkey
      · have hsame : "prefix_type:" ++ other = "prefix_type:" ++ name := Option.some.inj hkey
        rw [(String.append_right_inj _).mp hsame]
        exact Or.inl rfl
  · rintro (rfl | ⟨label, message, rfl⟩)
    · rw [key?, warning?_of_unknown hname]
      rfl
    · rfl

end Unknown

/-- What a call says and logs in the light of the calls before it. -/
structure WarnedOnce (journal : Journal) (earlier : List WarningCall) (t : WarningTurn) : Prop where
  silent : t.call.warning? = none → t.logged = []
  first : ∀ w, t.call.warning? = some w → w.key ∉ keys (recent earlier) →
    t.logged = w.records journal
  again : ∀ w, t.call.warning? = some w → w.key ∈ keys (recent earlier) → t.logged = []
  warn : ∀ key label message, t.call = .warn key label message →
    t.reply = .flag (decide (key ∉ keys (recent earlier)))
  ask : ∀ key, t.call = .ask key → t.reply = .flag (decide (key ∈ keys (recent earlier)))
  unknown_first : ∀ name, t.call = .parse (some name) → (∀ c : Convention, c.name ≠ name) →
    .parse (some name) ∉ recent earlier →
    (∀ label message, .warn ("prefix_type:" ++ name) label message ∉ recent earlier) →
    t.logged = (Warning.ofName name).records journal
  unknown_again : ∀ name, t.call = .parse (some name) → (∀ c : Convention, c.name ≠ name) →
    .parse (some name) ∈ recent earlier → t.logged = []
  known : ∀ prefixType, t.call = .parse prefixType →
    (prefixType = none ∨ ∃ c : Convention, prefixType = some c.name) → t.logged = []

section Turn

variable {journal : Journal} {earlier : List WarningCall} {s : Session}
  (h : s.Remembers journal earlier) {c : WarningCall}

include h

theorem logged_of_first {w : Warning} (hw : c.warning? = some w)
    (hkey : w.key ∉ keys (recent earlier)) : (WarningTurn.of s c).logged = w.records journal := by
  rw [logged_eq, added, hw]
  simp only [if_neg fun hwarned => hkey ((h.warned w.key).mp hwarned)]
  exact records_congr h.threshold h.unit w

theorem logged_of_again {w : Warning} (hw : c.warning? = some w)
    (hkey : w.key ∈ keys (recent earlier)) : (WarningTurn.of s c).logged = [] := by
  rw [logged_eq, added, hw]
  simp only [if_pos ((h.warned w.key).mpr hkey)]

theorem reply_warn (key label message : String) :
    (WarningTurn.of s (.warn key label message)).reply =
      .flag (decide (key ∉ keys (recent earlier))) := by
  by_cases hkey : key ∈ s.warned
  · have hseen := (h.warned key).mp hkey
    simp [WarningTurn.of, perform, warnOnce_of_warned s hkey, hseen]
  · have hnew : key ∉ keys (recent earlier) := fun hk => hkey ((h.warned key).mpr hk)
    simp [WarningTurn.of, perform, warnOnce_of_not_warned s hkey, hnew]

theorem warnedOnce_turn : WarnedOnce journal earlier (.of s c) where
  silent hw := by
    have hnone : c.warning? = none := hw
    rw [logged_eq, added, hnone]
  first _ := logged_of_first h
  again _ := logged_of_again h
  warn key label message hc := by
    obtain rfl : c = .warn key label message := hc
    exact reply_warn h key label message
  ask key hc := by
    obtain rfl : c = .ask key := hc
    simp only [WarningTurn.of, perform, hasWarned_eq, h.warned]
  unknown_first name hc hname hparse hwarn := by
    obtain rfl : c = .parse (some name) := hc
    refine logged_of_first h (warning?_of_unknown hname) fun hmem => ?_
    obtain ⟨d, hd, hkey⟩ := List.mem_filterMap.mp hmem
    rcases (key?_eq_ofName_iff hname).mp hkey with rfl | ⟨label, message, rfl⟩
    · exact hparse hd
    · exact hwarn label message hd
  unknown_again name hc hname hparse := by
    obtain rfl : c = .parse (some name) := hc
    refine logged_of_again h (warning?_of_unknown hname) ?_
    exact List.mem_filterMap.mpr ⟨_, hparse, (key?_eq_ofName_iff hname).mpr (Or.inl rfl)⟩
  known prefixType hc hknown := by
    obtain rfl : c = .parse prefixType := hc
    have hnone : (WarningCall.parse prefixType).warning? = none := by
      rcases hknown with rfl | ⟨convention, rfl⟩
      · rfl
      · rw [warning?, if_pos (mem_names_iff.mpr ⟨convention, rfl⟩)]
    rw [logged_eq, added, hnone]

end Turn

theorem logged_turns {segment : List WarningCall} (h : .forget ∉ segment) (s : Session)
    (key : String) :
    ((s.turns segment).filter fun t => decide (t.call.key? = some key)).flatMap (·.logged) =
      if key ∈ s.warned then []
      else ((segment.filterMap warning?).find? fun w => decide (w.key = key)).toList.flatMap
        (·.records s.journal) := by
  induction segment generalizing s with
  | nil => simp [Session.turns]
  | cons c rest ih =>
    have hrest := ih (fun hm => h (List.mem_cons_of_mem c hm)) (c.perform s).2
    have hc : c ≠ .forget := fun hc => h (hc ▸ List.mem_cons_self)
    have hrecords : ∀ w : Warning, w.records (c.perform s).2.journal = w.records s.journal := by
      rw [journal_perform]
      exact fun w => records_congr rfl rfl w
    simp only [hrecords, mem_warned_perform] at hrest
    rw [Session.turns]
    by_cases hkey : c.key? = some key
    · -- From here on the key is warned about, so the rest logs nothing.
      rw [if_pos ⟨hc, Or.inr hkey⟩] at hrest
      have htrue : decide ((WarningTurn.of s c).call.key? = some key) = true := decide_eq_true hkey
      rw [List.filter_cons, if_pos htrue, List.flatMap_cons, hrest, List.append_nil]
      obtain ⟨w, hw, rfl⟩ := Option.map_eq_some_iff.mp hkey
      rw [logged_eq, added, hw, List.filterMap_cons_some hw]
      simp
    · have hsame : (c ≠ .forget ∧ (key ∈ s.warned ∨ c.key? = some key)) ↔ key ∈ s.warned := by
        simp [hc, hkey]
      simp only [hsame] at hrest
      have hfalse : ¬ decide ((WarningTurn.of s c).call.key? = some key) = true :=
        fun htrue => hkey (of_decide_eq_true htrue)
      rw [List.filter_cons, if_neg hfalse, hrest]
      cases hw : c.warning? with
      | none => rw [List.filterMap_cons_none hw]
      | some w =>
        have hne : ¬ w.key = key := by simpa [key?, hw] using hkey
        rw [List.filterMap_cons_some hw, List.find?_cons_of_neg (by simpa using hne)]

/-- From a fresh start every call says and logs what it should in the light of the calls before it,
and asking for the convention of an unknown name does to the session what warning about it does. In
any stretch from a fresh start or from a forgetting in which nothing is forgotten, what is logged
about a key is the first warning about it. -/
theorem warnings_given_once (journal : Journal) (earlier : List WarningCall) :
    (∀ call, WarnedOnce journal earlier (.of (Session.after { journal } earlier) call)) ∧
    (∀ name, (∀ c : Convention, c.name ≠ name) →
      Session.after { journal } (earlier ++ [.parse (some name)]) =
        Session.after { journal } (earlier ++ [.warn ("prefix_type:" ++ name) "[classname-prefix]"
          (Session.unknownConventionText name)])) ∧
    ∀ segment, .forget ∉ segment → earlier = [] ∨ earlier.getLast? = some .forget → ∀ key,
      (((Session.after { journal } earlier).turns segment).filter fun t =>
          decide (t.call.key? = some key)).flatMap (·.logged) =
        ((segment.filterMap warning?).find? fun w => decide (w.key = key)).toList.flatMap
          (·.records journal) := by
  have hremembers := remembers_after journal earlier
  refine ⟨fun call => warnedOnce_turn hremembers, fun name hname => ?_,
    fun segment hsegment hstart key => ?_⟩
  · rw [Session.after, Session.after, List.foldl_append, List.foldl_append]
    simp only [List.foldl_cons, List.foldl_nil, session_perform, warning?_of_unknown hname]
    rfl
  · have hnothing : recent earlier = [] := by
      rcases hstart with rfl | hlast
      · rfl
      · obtain ⟨before, rfl⟩ := List.getLast?_eq_some_iff.mp hlast
        exact recent_concat_forget before
    have hnew : key ∉ (Session.after { journal } earlier).warned := by
      rw [hremembers.warned, hnothing]
      simp [keys]
    rw [logged_turns hsegment, if_neg hnew]
    simp only [records_congr hremembers.threshold hremembers.unit]

def earlierWarnings : List WarningCall := [.warn "a" "" "one", .parse (some "kebab"), .forget]

def laterWarnings : List WarningCall :=
  [.parse (some "kebab"), .warn "a" "[config]" "two", .parse (some "snake"), .parse none,
    .parse (some "kebab"), .warn "a" "" "three"]

theorem warnings_given_once_laterWarnings :
    let s := Session.after {} earlierWarnings
    (∀ name ∈ ["kebab", "snake"], ∀ c : Convention, c.name ≠ name) ∧
    (WarningTurn.of s (.warn "a" "" "again")).reply = .flag true ∧
    ((s.turns laterWarnings).filter fun t => decide (t.call.key? = some "a")).flatMap (·.logged) =
      [⟨.warning, .warnings, "-", "[config] Warning: two"⟩] ∧
    ((s.turns laterWarnings).filter fun t =>
        decide (t.call.key? = some "prefix_type:kebab")).flatMap (·.logged) =
      [⟨.warning, .warnings, "-", "[classname-prefix] Warning: unknown prefixType 'kebab'; " ++
        "class prefixes will not be transformed"⟩] ∧
    Session.after {} (earlierWarnings ++ [.parse (some "snake")]) =
      Session.after {} (earlierWarnings ++ [.warn "prefix_type:snake" "[classname-prefix]"
        (Session.unknownConventionText "snake")]) := by
  have hunknown : ∀ name ∈ ["kebab", "snake"], ∀ c : Convention, c.name ≠ name := by
    intro name hname c
    rcases List.mem_pair.mp hname with rfl | rfl <;> cases c <;> decide
  obtain ⟨hturns, hacts, hlogged⟩ := warnings_given_once {} earlierWarnings
  have hforgot : earlierWarnings = [] ∨ earlierWarnings.getLast? = some .forget := by decide
  refine ⟨hunknown, ?_, ?_, ?_, hacts "snake" (hunknown "snake" (by decide))⟩
  · exact ((hturns (.warn "a" "" "again")).warn "a" "" "again" rfl).trans (by decide)
  · exact (hlogged laterWarnings (by decide) hforgot "a").trans (by decide +kernel)
  · exact (hlogged laterWarnings (by decide) hforgot "prefix_type:kebab").trans (by decide +kernel)

end PrefixLint
