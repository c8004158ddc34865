import Mathlib.Data.List.Induction
import TermView.CommandLine

namespace TermView.CommandLine

def Flag.spellings : Flag → List String
  | .help => ["-h", "--help"]
  | .version => ["-v", "--version"]
  | .config => ["-c", "--config"]
  | .replay => ["-r", "--replay"]
  | .dump => ["-d", "--dump"]

theorem flag?_eq_some {argument : String} {flag : Flag} :
    flag? argument = some flag ↔ argument ∈ flag.spellings := by
  constructor
  · intro h
    unfold flag? at h
    split at h <;> cases h <;> simp [Flag.spellings]
  · intro h
    cases flag <;> simp only [Flag.spellings, List.mem_cons, List.not_mem_nil, or_false] at h <;>
      rcases h with rfl | rfl <;> rfl

theorem flag?_eq_none {argument : String} :
    flag? argument = none ↔ ∀ flag : Flag, argument ∉ flag.spellings := by
  simp only [← flag?_eq_some, Option.eq_none_iff_forall_ne_some, ne_eq]

inductive Group where
  | config (path : String)
  | replay (path : String)
  | dump
deriving DecidableEq

namespace Group

def flag : Group → Flag
  | .config _ => .config
  | .replay _ => .replay
  | .dump => .dump

def values : Group → List String
  | .config path | .replay path => [path]
  | .dump => []

end Group

inductive Written : List Group → List String → Prop
  | nil : Written [] []
  | cons {group : Group} {groups : List Group} {option : String} {rest : List String} :
    option ∈ group.flag.spellings → Written groups rest →
    Written (group :: groups) (option :: (group.values ++ rest))

inductive Decides : List String → Request → Prop
  | help {option : String} (rest : List String) :
    option ∈ Flag.help.spellings → Decides (option :: rest) .help
  | version {option : String} (rest : List String) :
    option ∈ Flag.version.spellings → Decides (option :: rest) .version
  | unknown {argument : String} (rest : List String) :
    (∀ flag : Flag, argument ∉ flag.spellings) →
    Decides (argument :: rest) (.refuse (.unknown argument))
  | missingConfig {option : String} :
    option ∈ Flag.config.spellings → Decides [option] (.refuse .missingConfig)
  | missingReplay {option : String} :
    option ∈ Flag.replay.spellings → Decides [option] (.refuse .missingReplay)

def valuesOf (flag : Flag) (groups : List Group) : List String :=
  (groups.filter (·.flag = flag)).flatMap Group.values

def Options.ofGroups (groups : List Group) : Options where
  config := (valuesOf .config groups).getLast?
  replay := (valuesOf .replay groups).getLast?
  dump := decide (.dump ∈ groups)

def Complete (groups : List Group) : Prop := .dump ∈ groups → ∃ path, .replay path ∈ groups

/-- The same groups in another order, in which those of one kind keep theirs. -/
def Reordered (groups groups' : List Group) : Prop :=
  ∀ flag, groups'.filter (·.flag = flag) = groups.filter (·.flag = flag)

def Options.add (options : Options) : Group → Options
  | .config path => { options with config := some path }
  | .replay path => { options with replay := some path }
  | .dump => { options with dump := true }

theorem Options.add_ofGroups (groups : List Group) (group : Group) :
    (ofGroups groups).add group = ofGroups (groups ++ [group]) := by
  cases group <;> simp [ofGroups, add, valuesOf, Group.flag, Group.values]

theorem Options.foldl_add (groups : List Group) : groups.foldl add none = ofGroups groups := by
  induction groups using List.reverseRecOn with
  | nil => rfl
  | append_singleton groups group ih =>
    rw [List.foldl_append, ih]
    exact add_ofGroups groups group

theorem read_group {group : Group} {option : String} (h : option ∈ group.flag.spellings)
    (options : Options) (rest : List String) :
    read options (option :: (group.values ++ rest)) = read (options.add group) rest := by
  have hflag := flag?_eq_some.mpr h
  rw [read.eq_def]
  cases group <;> simp [hflag, Group.flag, Group.values, Options.add]

theorem read_written {groups : List Group} {before : List String} (h : Written groups before)
    (options : Options) (rest : List String) :
    read options (before ++ rest) = read (groups.foldl Options.add options) rest := by
  induction h generalizing options with
  | nil => rfl
  | cons hoption _ ih =>
    rw [List.cons_append, List.append_assoc, read_group hoption, ih, List.foldl_cons]

theorem read_decided {rest : List String} {outcome : Request} (h : Decides rest outcome)
    (options : Options) : read options rest = outcome := by
  rw [read.eq_def]
  cases h with
  | unknown rest h => simp [flag?_eq_none.mpr h]
  | help rest h | version rest h => simp [flag?_eq_some.mpr h]
  | missingConfig h | missingReplay h => simp [flag?_eq_some.mpr h]

theorem parse_append {groups : List Group} {before : List String} (h : Written groups before)
    (rest : List String) : parse (before ++ rest) = read (.ofGroups groups) rest := by
  rw [parse, read_written h, Options.foldl_add]

theorem parse_groups {groups : List Group} {arguments : List String} (h : Written groups arguments) :
    parse arguments = read (.ofGroups groups) [] := by
  rw [← parse_append h, List.append_nil]

theorem parse_decided {groups : List Group} {before rest : List String} {outcome : Request}
    (h : Written groups before) (hdecides : Decides rest outcome) :
    parse (before ++ rest) = outcome := by
  rw [parse_append h, read_decided hdecides]

theorem isNone_replay_iff (groups : List Group) :
    (Options.ofGroups groups).replay.isNone ↔ ∀ path, .replay path ∉ groups := by
  simp only [Options.ofGroups, valuesOf, Option.isNone_iff_eq_none, List.getLast?_eq_none_iff,
    List.flatMap_eq_nil_iff, List.mem_filter, decide_eq_true_eq]
  constructor
  · intro h path hmem
    have hvalues := h (.replay path) ⟨hmem, rfl⟩
    cases hvalues
  · rintro h (path | path | _) ⟨hmem, hflag⟩
    · cases hflag
    · exact absurd hmem (h path)
    · rfl

theorem parse_written {groups : List Group} {arguments : List String}
    (h : Written groups arguments) :
    (Complete groups → parse arguments = .run (.ofGroups groups)) ∧
      (¬ Complete groups → parse arguments = .refuse .dumpWithoutReplay) := by
  have hcomplete : Complete groups ↔
      ¬ ((Options.ofGroups groups).dump ∧ (Options.ofGroups groups).replay.isNone) := by
    rw [isNone_replay_iff]
    simp [Complete, Options.ofGroups]
  rw [parse_groups h, hcomplete, read]
  constructor
  · exact fun h => if_neg h
  · exact fun h => if_pos (Decidable.not_not.mp h)

def Readable (arguments : List String) : Prop :=
  (∃ groups, Written groups arguments) ∨
    ∃ groups before rest outcome, arguments = before ++ rest ∧ Written groups before ∧
      Decides rest outcome

theorem Readable.cons {option : String} {rest : List String} (group : Group)
    (hoption : flag? option = some group.flag) (h : Readable rest) :
    Readable (option :: (group.values ++ rest)) := by
  have hspelled := flag?_eq_some.mp hoption
  rcases h with ⟨groups, hwritten⟩ | ⟨groups, before, rest, outcome, rfl, hwritten, hdecides⟩
  · exact .inl ⟨group :: groups, .cons hspelled hwritten⟩
  · refine .inr ⟨group :: groups, option :: (group.values ++ before), rest, outcome, ?_,
      .cons hspelled hwritten, hdecides⟩
    rw [List.cons_append, List.append_assoc]

theorem readable_of_decides {rest : List String} {outcome : Request} (h : Decides rest outcome) :
    Readable rest := .inr ⟨[], [], rest, outcome, rfl, .nil, h⟩

theorem readable (arguments : List String) : Readable arguments := by
  -- The cases are those of the reading: two kinds of option take the argument after them.
  induction Options.none, arguments using read.induct with
  | case1 | case2 => exact .inl ⟨[], .nil⟩
  | case3 options argument rest h => exact readable_of_decides (.unknown rest (flag?_eq_none.mp h))
  | case4 options option rest h => exact readable_of_decides (.help rest (flag?_eq_some.mp h))
  | case5 options option rest h => exact readable_of_decides (.version rest (flag?_eq_some.mp h))
  | case6 options option rest h ih => exact .cons .dump h ih
  | case7 options option h => exact readable_of_decides (.missingConfig (flag?_eq_some.mp h))
  | case8 options option h path rest ih => exact .cons (.config path) h ih
  | case9 options option h => exact readable_of_decides (.missingReplay (flag?_eq_some.mp h))
  | case10 options option h path rest ih => exact .cons (.replay path) h ih

theorem decides_ne_run {rest : List String} {options : Options} :
    ¬ Decides rest (.run options) := nofun

theorem parse_eq_run_iff {arguments : List String} {options : Options} :
    parse arguments = .run options ↔
      ∃ groups, Written groups arguments ∧ Complete groups ∧ options = .ofGroups groups := by
  constructor
  · intro hrun
    rcases readable arguments with
      ⟨groups, hwritten⟩ | ⟨groups, before, rest, outcome, rfl, hwritten, hdecides⟩
    · by_cases hcomplete : Complete groups
      · refine ⟨groups, hwritten, hcomplete, ?_⟩
        rw [(parse_written hwritten).1 hcomplete] at hrun
        exact (Request.run.inj hrun).symm
      · rw [(parse_written hwritten).2 hcomplete] at hrun
        cases hrun
    · rw [parse_decided hwritten hdecides] at hrun
      subst hrun
      exact absurd hdecides decides_ne_run
  · rintro ⟨groups, hwritten, hcomplete, rfl⟩
    exact (parse_written hwritten).1 hcomplete

theorem Reordered.ofGroups_eq {groups groups' : List Group} (h : Reordered groups groups') :
    Options.ofGroups groups' = Options.ofGroups groups := by
  have hfilter (groups : List Group) :
      .dump ∈ groups.filter (·.flag = Flag.dump) ↔ .dump ∈ groups := by simp [Group.flag]
  have hdump : .dump ∈ groups' ↔ .dump ∈ groups := by rw [← hfilter, h .dump, hfilter]
  simp only [Options.ofGroups, valuesOf, h .config, h .replay, hdump]

theorem Reordered.parse_eq {groups groups' : List Group} {arguments arguments' : List String}
    (h : Reordered groups groups') (hwritten : Written groups arguments)
    (hwritten' : Written groups' arguments') : parse arguments' = parse arguments := by
  rw [parse_groups hwritten', parse_groups hwritten, h.ofGroups_eq]

theorem parse_reads_groups (arguments : List String) :
    (∀ options, parse arguments = .run options ↔
      ∃ groups, Written groups arguments ∧ Complete groups ∧ options = .ofGroups groups) ∧
    (∀ groups groups' arguments', Reordered groups groups' → Written groups arguments →
      Written groups' arguments' → parse arguments' = parse arguments) ∧
    (∀ groups, Written groups arguments → ¬ Complete groups →
      parse arguments = .refuse .dumpWithoutReplay) ∧
    (∀ groups before rest outcome, arguments = before ++ rest → Written groups before →
      Decides rest outcome → parse arguments = outcome) ∧
    ((∃ groups, Written groups arguments) ∨
      ∃ groups before rest outcome, arguments = before ++ rest ∧ Written groups before ∧
        Decides rest outcome) := by
  refine ⟨fun options => parse_eq_run_iff, ?_, ?_, ?_, readable arguments⟩
  · intro groups groups' arguments' h hwritten hwritten'
    exact h.parse_eq hwritten hwritten'
  · intro groups hwritten
    exact (parse_written hwritten).2
  · rintro groups before rest outcome rfl hwritten hdecides
    exact parse_decided hwritten hdecides

example : parse ["-d", "-c", "--help", "-r", "-d"] = .run ⟨some "--help", some "-d", true⟩ := by
  decide

end TermView.CommandLine
