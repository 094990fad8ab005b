-- The arguments that are accepted. There are few of them: one level at most,
-- in one of two forms, and two dashes may stand at the end. A level is told by
-- its name, in letters of any size.
import Mathlib.Data.List.Forall2
import Mathlib.Data.List.TakeWhile
import ScriptBalance.Config

namespace ScriptBalance

/-! ## What may be asked for -/

/-- The option for the level, with its value in an argument of its own or
behind an equals sign. It may also be absent. -/
inductive LevelOption : List String → Option String → Prop where
  | absent : LevelOption [] none
  | apart (value : String) : LevelOption ["--log-level", value] (some value)
  | joined (value : String) : LevelOption ["--log-level=" ++ value] (some value)

/-- Two dashes alone, or nothing. -/
def EndsOptions (args : List String) : Prop := args = [] ∨ args = ["--"]

/-- The arguments are the option for the level and the end of the options, and
nothing else. -/
def Asks (args : List String) (level : Option String) : Prop :=
  ∃ option ending, LevelOption option level ∧ EndsOptions ending ∧ args = option ++ ending

/-- A text that is no flag where it stands alone. -/
def CanStandApart (text : String) : Prop := text = "-" ∨ ¬ ['-'] <+: text.toList

/-- The arguments ask for a level with a text that is taken as a value. Behind
an equals sign every text is. -/
def AsksWell (args : List String) (level : Option String) : Prop :=
  Asks args level ∧
    (args.head? = some "--log-level" → ∀ value ∈ level, CanStandApart value)

theorem asksWell_none {args : List String} (h : EndsOptions args) : AsksWell args none :=
  ⟨⟨[], args, .absent, h, rfl⟩, by simp⟩

theorem asksWell_apart {value : String} {ending : List String} (hvalue : CanStandApart value)
    (h : EndsOptions ending) : AsksWell ("--log-level" :: value :: ending) (some value) := by
  refine ⟨⟨_, ending, .apart value, h, rfl⟩, ?_⟩
  rintro - _ ⟨⟩
  exact hvalue

theorem asksWell_joined (value : String) {ending : List String} (h : EndsOptions ending) :
    AsksWell (("--log-level=" ++ value) :: ending) (some value) := by
  refine ⟨⟨_, ending, .joined value, h, rfl⟩, ?_⟩
  intro hhead
  have hchars := congrArg String.toList (Option.some.inj hhead)
  simp at hchars

/-! ## What an argument is -/

namespace Argument

theorem ofString_eq_plain_iff (text t : String) :
    ofString text = .plain t ↔ t = text ∧ CanStandApart text := by
  have hdash : text = "-" ↔ text.toList = ['-'] := by
    rw [← String.toList_inj]
    rfl
  unfold ofString CanStandApart
  rw [hdash]
  split
  · rename_i chars h
    simp [h]
  · rename_i letter rest _ h
    simp [h]
  · rename_i h1 h2
    rw [plain.injEq, eq_comm, iff_self_and]
    rintro -
    rcases h : text.toList with _ | ⟨c, _ | ⟨d, rest⟩⟩
    · simp
    · by_cases hc : c = '-'
      · simp [hc]
      · simp [Ne.symm hc]
    · have hc : c ≠ '-' := by
        rintro rfl
        exact h2 d rest h
      simp [Ne.symm hc]

/-- The characters of the value behind a name, with the equals sign. -/
def valueChars (value : Option String) : List Char :=
  (value.map fun v => '=' :: v.toList).getD []

theorem takeWhile_append_valueChars {name : List Char} (h : '=' ∉ name)
    (value : Option String) :
    (name ++ valueChars value).takeWhile (· != '=') = name := by
  have hname : ∀ c ∈ name, (c != '=') = true := by
    intro c hc
    rw [bne_iff_ne]
    rintro rfl
    exact h hc
  rw [List.takeWhile_append_of_pos hname]
  cases value <;> simp [valueChars]

/-- Every text is a name and what stands behind its first equals sign. -/
theorem exists_name_value (chars : List Char) :
    ∃ (name : List Char) (value : Option String),
      '=' ∉ name ∧ chars = name ++ valueChars value := by
  refine ⟨chars.takeWhile (· != '='),
    (chars.dropWhile (· != '=')).tail?.map String.ofList, ?_, ?_⟩
  · intro h
    simpa using List.mem_takeWhile_imp h
  · conv_lhs => rw [← List.takeWhile_append_dropWhile (p := (· != '=')) (l := chars)]
    congr 1
    have hfirst := List.head?_dropWhile_not (· != '=') chars
    rcases h : chars.dropWhile (· != '=') with _ | ⟨c, behind⟩
    · rfl
    · simp only [h, List.head?_cons, bne_eq_false_iff_eq] at hfirst
      simp [valueChars, hfirst]

/-- A text that starts with two dashes is a name with its value. -/
theorem ofString_long {text : String} {name : List Char} (value : Option String)
    (h : '=' ∉ name) (htext : text.toList = '-' :: '-' :: (name ++ valueChars value)) :
    ofString text = .long (String.ofList name) value := by
  unfold ofString
  rw [htext]
  simp only [takeWhile_append_valueChars h, List.drop_left]
  cases value <;> simp [valueChars]

theorem ofString_eq_long_iff (text name : String) (value : Option String) :
    ofString text = .long name value ↔
      '=' ∉ name.toList ∧ text.toList = '-' :: '-' :: (name.toList ++ valueChars value) := by
  constructor
  · intro h
    have hdashes : ∃ chars, text.toList = '-' :: '-' :: chars := by
      unfold ofString at h
      split at h
      · rename_i chars htext
        exact ⟨chars, htext⟩
      · cases h
      · cases h
    obtain ⟨chars, htext⟩ := hdashes
    obtain ⟨name', value', hname, rfl⟩ := exists_name_value chars
    rw [ofString_long value' hname htext] at h
    obtain ⟨rfl, rfl⟩ := long.inj h
    rw [String.toList_ofList]
    exact ⟨hname, htext⟩
  · rintro ⟨hname, htext⟩
    rw [ofString_long value hname htext, String.ofList_toList]

theorem ofString_eq_level_iff (text : String) :
    ofString text = .long "log-level" none ↔ text = "--log-level" := by
  rw [ofString_eq_long_iff, ← String.toList_inj]
  simp [valueChars]

theorem ofString_eq_level_some_iff (text value : String) :
    ofString text = .long "log-level" (some value) ↔ text = "--log-level=" ++ value := by
  rw [ofString_eq_long_iff, ← String.toList_inj]
  simp [valueChars]

end Argument

/-! ## The readings that come to their end -/

namespace Reading

theorem except_bind_eq_ok_iff {α β ε : Type} (x : Except ε α) (f : α → Except ε β) (b : β) :
    (x >>= f) = .ok b ↔ ∃ a, x = .ok a ∧ f a = .ok b := by
  cases x <;> simp [bind, Except.bind]

theorem assign_eq_ok_iff (r : Reading) (value : String) (t : Reading) :
    r.assign value = .ok t ↔ r.level = none ∧ t = { level := some value } := by
  unfold assign
  cases h : r.level <;> simp [eq_comm]

theorem stop_ne_ok (r : Reading) (s : Stop) (t : Reading) : r.stop s ≠ .ok t := by
  unfold stop
  cases r.settle <;> simp [bind, Except.bind]

/-- An argument does not end the reading in one of three ways. -/
theorem step_eq_ok_iff (r : Reading) (argument : Argument) (t : Reading) :
    r.step argument = .ok t ↔
      (∃ value s, argument = .long "log-level" (some value) ∧ r.settle = .ok s ∧
        s.level = none ∧ t = { level := some value }) ∨
      (∃ s, argument = .long "log-level" none ∧ r.settle = .ok s ∧
        t = { s with pending := .name }) ∨
      ∃ text, argument = .plain text ∧ r.pending = .name ∧
        t = { r with pending := .value text } := by
  unfold step
  split
  · simp [except_bind_eq_ok_iff, assign_eq_ok_iff]
  · rw [except_bind_eq_ok_iff]
    simp [pure, Except.pure, eq_comm]
  · simp [stop_ne_ok]
  · simp [stop_ne_ok]
  · simp [stop_ne_ok]
  · simp [stop_ne_ok]
  · simp
  · simp
  · -- The name is none of those that are known.
    rename_i name value hsome hnone _ _ _ _
    simp only [reduceCtorEq, Argument.long.injEq, false_and, exists_const, or_false, false_iff,
      not_or, not_exists]
    refine ⟨?_, ?_⟩
    · rintro v s ⟨⟨rfl, rfl⟩, -⟩
      exact hsome v rfl rfl
    · rintro s ⟨⟨rfl, rfl⟩, -⟩
      exact hnone rfl rfl
  · simp
  · split
    · rename_i h
      simp [h, eq_comm]
    · rename_i h
      simp only [reduceCtorEq, false_iff]
      rintro (⟨_, _, ⟨⟩, _⟩ | ⟨_, ⟨⟩, _⟩ | ⟨_, _, hname, _⟩)
      exact h hname

theorem stepAll_nil (r : Reading) : r.stepAll [] = r.settle := rfl

theorem stepAll_cons (r : Reading) {text : String} (htext : text ≠ "--") (rest : List String) :
    r.stepAll (text :: rest) = (r.step (.ofString text) >>= fun s => s.stepAll rest) := by
  rw [stepAll.eq_def]
  exact if_neg htext

/-- The first argument of a reading that comes to its end. -/
theorem stepAll_cons_eq_ok_iff (r : Reading) (text : String) (rest : List String) (t : Reading) :
    r.stepAll (text :: rest) = .ok t ↔
      (text = "--" ∧ rest = [] ∧ r.settle = .ok t) ∨
      ∃ s, r.step (.ofString text) = .ok s ∧ s.stepAll rest = .ok t := by
  by_cases htext : text = "--"
  · subst htext
    have hstep : ∀ s, r.step (.ofString "--") ≠ .ok s := by
      intro s h
      have hdashes : Argument.ofString "--" = .long "" none := by decide
      rw [hdashes] at h
      cases h
    cases rest with
    | nil =>
      have hend : r.stepAll ["--"] = r.settle := rfl
      simp [hstep, hend]
    | cons extra rest =>
      have hextra : r.stepAll ("--" :: extra :: rest) = .error (.unknownArgument extra) := rfl
      simp [hstep, hextra]
  · simp [stepAll_cons r htext, htext, except_bind_eq_ok_iff]

theorem settle_eq_ok_iff (r s : Reading) :
    r.settle = .ok s ↔
      (r.pending = .nothing ∧ s = r) ∨
      ∃ value, r.pending = .value value ∧ r.level = none ∧ s = { level := some value } := by
  unfold settle
  split
  · rename_i hp
    simp [hp, eq_comm]
  · rename_i hp
    simp [hp]
  · rename_i hp
    simp [hp, assign_eq_ok_iff]

/-- What is pending counts as much as what is settled. -/
theorem stepAll_eq_ok_iff_of_settle {r s : Reading} (h : r.settle = .ok s) (args : List String)
    (t : Reading) :
    r.stepAll args = .ok t ↔ s.stepAll args = .ok t := by
  have hr : r.pending ≠ .name := by
    rcases (settle_eq_ok_iff r s).mp h with ⟨hp, -⟩ | ⟨_, hp, -⟩ <;> simp [hp]
  have hs : s.pending = .nothing := by
    rcases (settle_eq_ok_iff r s).mp h with ⟨hp, rfl⟩ | ⟨_, -, -, rfl⟩
    · exact hp
    · rfl
  have hsettle : s.settle = .ok s := (settle_eq_ok_iff s s).mpr (.inl ⟨hs, rfl⟩)
  cases args with
  | nil => rw [stepAll_nil, stepAll_nil, h, hsettle]
  | cons text rest => simp [stepAll_cons_eq_ok_iff, step_eq_ok_iff, h, hsettle, hr, hs]

/-- There is no room for a second option. -/
theorem stepAll_ne_ok {r : Reading} (hlevel : r.level ≠ none) (hp : r.pending ≠ .nothing)
    (args : List String) (t : Reading) : r.stepAll args ≠ .ok t := by
  induction args generalizing r with
  | nil => simp [stepAll_nil, settle_eq_ok_iff, hlevel, hp]
  | cons text rest ih =>
    have hsettle : ∀ s, r.settle ≠ .ok s := by simp [settle_eq_ok_iff, hlevel, hp]
    intro h
    rcases (stepAll_cons_eq_ok_iff ..).mp h with ⟨-, -, hend⟩ | ⟨s, hstep, hrest⟩
    · exact hsettle t hend
    · rcases (step_eq_ok_iff ..).mp hstep with ⟨_, u, -, hu, -⟩ | ⟨u, -, hu, -⟩ | ⟨_, -, -, rfl⟩
      · exact hsettle u hu
      · exact hsettle u hu
      · -- A value for the second option is read, and then it has no place.
        exact ih (r := { r with pending := .value _ }) hlevel (by simp) hrest

/-- Behind a level the options are over. -/
theorem stepAll_level_eq_ok_iff (value : String) (args : List String) (t : Reading) :
    stepAll { level := some value } args = .ok t ↔
      EndsOptions args ∧ t = { level := some value } := by
  have hsettle : ∀ s, settle { level := some value } = .ok s ↔ s = { level := some value } := by
    simp [settle_eq_ok_iff]
  cases args with
  | nil => simp [stepAll_nil, hsettle, EndsOptions]
  | cons text rest =>
    have hstep : ∀ s, step { level := some value } (.ofString text) = .ok s →
        s.stepAll rest ≠ .ok t := by
      intro s h
      rcases (step_eq_ok_iff ..).mp h with
        ⟨_, u, -, hu, hnone, -⟩ | ⟨u, -, hu, rfl⟩ | ⟨_, -, hp, -⟩
      · rw [hsettle] at hu
        simp [hu] at hnone
      · rw [hsettle] at hu
        exact stepAll_ne_ok (by simp [hu]) (by simp) rest t
      · cases hp
    rw [stepAll_cons_eq_ok_iff, or_iff_left (by rintro ⟨s, h, hrest⟩; exact hstep s h hrest)]
    simp [hsettle, EndsOptions, and_assoc]

/-- Behind the name of the option its value has to come. -/
theorem stepAll_name_eq_ok_iff (args : List String) (t : Reading) :
    stepAll { pending := .name } args = .ok t ↔
      ∃ value ending, args = value :: ending ∧ CanStandApart value ∧ EndsOptions ending ∧
        t = { level := some value } := by
  have hsettle : ∀ s, settle { pending := .name } ≠ .ok s := by simp [settle_eq_ok_iff]
  cases args with
  | nil => simp [stepAll_nil, hsettle]
  | cons text rest =>
    have hvalue := stepAll_eq_ok_iff_of_settle
      (r := { pending := .value text }) (s := { level := some text }) rfl rest t
    simp [stepAll_cons_eq_ok_iff, step_eq_ok_iff, hsettle, hvalue, stepAll_level_eq_ok_iff,
      Argument.ofString_eq_plain_iff]

theorem stepAll_of_asksWell {args : List String} {level : Option String}
    (h : AsksWell args level) : stepAll {} args = .ok { level } := by
  obtain ⟨⟨_, ending, hoption, hending, rfl⟩, hvalue⟩ := h
  cases hoption with
  | absent => rcases hending with rfl | rfl <;> rfl
  | apart value =>
    rw [List.cons_append, stepAll_cons_eq_ok_iff]
    refine .inr ⟨{ pending := .name }, by decide, ?_⟩
    rw [stepAll_name_eq_ok_iff]
    exact ⟨value, ending, rfl, hvalue rfl value rfl, hending, rfl⟩
  | joined value =>
    rw [List.cons_append, stepAll_cons_eq_ok_iff]
    refine .inr ⟨{ level := some value }, ?_, ?_⟩
    · rw [(Argument.ofString_eq_level_some_iff _ value).mpr rfl]
      rfl
    · rw [List.nil_append, stepAll_level_eq_ok_iff]
      exact ⟨hending, rfl⟩

theorem asksWell_of_stepAll {args : List String} {t : Reading} (h : stepAll {} args = .ok t) :
    AsksWell args t.level := by
  have hsettle : ∀ s, settle {} = .ok s ↔ s = {} := by simp [settle_eq_ok_iff]
  cases args with
  | nil =>
    rw [stepAll_nil, hsettle] at h
    rw [h]
    exact asksWell_none (.inl rfl)
  | cons text rest =>
    rcases (stepAll_cons_eq_ok_iff ..).mp h with ⟨rfl, rfl, hend⟩ | ⟨s, hstep, hrest⟩
    · rw [(hsettle t).mp hend]
      exact asksWell_none (.inr rfl)
    · rcases (step_eq_ok_iff ..).mp hstep with
        ⟨value, _, htext, -, -, rfl⟩ | ⟨u, htext, hu, rfl⟩ | ⟨_, -, hp, -⟩
      · rw [Argument.ofString_eq_level_some_iff] at htext
        rw [stepAll_level_eq_ok_iff] at hrest
        obtain ⟨hending, rfl⟩ := hrest
        rw [htext]
        exact asksWell_joined value hending
      · rw [Argument.ofString_eq_level_iff] at htext
        rw [hsettle] at hu
        subst hu
        obtain ⟨value, ending, rfl, hvalue, hending, rfl⟩ :=
          (stepAll_name_eq_ok_iff rest t).mp hrest
        rw [htext]
        exact asksWell_apart hvalue hending
      · cases hp

end Reading

theorem readArguments_eq_ok_iff (args : List String) (level : Option String) :
    readArguments args = .ok level ↔ AsksWell args level := by
  unfold readArguments
  constructor
  · intro h
    rcases ht : Reading.stepAll {} args with _ | t
    · rw [ht] at h
      cases h
    · rw [ht] at h
      obtain rfl := Except.ok.inj h
      exact Reading.asksWell_of_stepAll ht
  · intro h
    rw [Reading.stepAll_of_asksWell h]
    rfl

/-! ## The names of the levels -/

/-- The second is the small letter of the first, which is one of A to Z. -/
def IsCapitalOf (c d : Char) : Prop := 'A' ≤ c ∧ c ≤ 'Z' ∧ d.toNat = c.toNat + 32

/-- Two letters that differ in their size at most. -/
def SameLetter (c d : Char) : Prop := c = d ∨ IsCapitalOf c d ∨ IsCapitalOf d c

/-- A value is a name, in letters of any size. -/
def Spells (value name : String) : Prop :=
  List.Forall₂ SameLetter value.toList name.toList

theorem isCapitalOf_iff (c d : Char) :
    IsCapitalOf c d ↔ 65 ≤ c.toNat ∧ c.toNat ≤ 90 ∧ d.toNat = c.toNat + 32 := by
  unfold IsCapitalOf
  rw [Char.le_def, Char.le_def, UInt32.le_iff_toNat_le, UInt32.le_iff_toNat_le]
  rfl

theorem toNat_toLower (c : Char) :
    c.toLower.toNat = if 65 ≤ c.toNat ∧ c.toNat ≤ 90 then c.toNat + 32 else c.toNat := by
  have hcapital : (c.val ≥ 'A'.val ∧ c.val ≤ 'Z'.val) ↔ 65 ≤ c.toNat ∧ c.toNat ≤ 90 := by
    rw [ge_iff_le, UInt32.le_iff_toNat_le, UInt32.le_iff_toNat_le]
    rfl
  unfold Char.toLower
  split
  · rename_i h
    rw [hcapital] at h
    rw [if_pos h, ← Char.toNat_val, UInt32.toNat_add, Char.toNat_val]
    exact Nat.mod_eq_of_lt (by simp; omega)
  · rename_i h
    rw [hcapital] at h
    rw [if_neg h]

theorem toLower_eq_toLower_iff (c d : Char) :
    c.toLower = d.toLower ↔ SameLetter c d := by
  unfold SameLetter
  rw [← Char.toNat_inj, ← Char.toNat_inj, toNat_toLower, toNat_toLower, isCapitalOf_iff,
    isCapitalOf_iff]
  split <;> split <;> omega

theorem toLower_eq_toLower_iff_spells (value name : String) :
    value.toLower = name.toLower ↔ Spells value name := by
  unfold Spells String.toLower
  rw [← String.toList_inj, String.toList_map, String.toList_map, ← List.forall₂_eq_eq_eq,
    List.forall₂_map_left_iff, List.forall₂_map_right_iff]
  simp only [toLower_eq_toLower_iff]

theorem Log.Level.toLower_name (level : Log.Level) : level.name.toLower = level.name := by
  unfold String.toLower
  rw [← String.toList_inj, String.toList_map]
  cases level <;> decide

theorem Log.Level.ofName?_eq_some_iff (value : String) (level : Log.Level) :
    ofName? value = some level ↔ Spells value level.name := by
  rw [← toLower_eq_toLower_iff_spells, toLower_name]
  unfold ofName?
  constructor
  · intro h
    have := List.find?_some h
    simpa [eq_comm] using this
  · intro h
    rw [h]
    cases level <;> decide

theorem ofName?_eq_none_iff (value : String) :
    Log.Level.ofName? value = none ↔ ∀ level : Log.Level, ¬ Spells value level.name := by
  rw [Option.eq_none_iff_forall_ne_some]
  simp only [ne_eq, Log.Level.ofName?_eq_some_iff]

/-- A dash has one size only. -/
theorem eq_dash_of_sameLetter {c : Char} (h : SameLetter '-' c) : c = '-' := by
  have hdash : '-'.toNat = 45 := rfl
  rcases h with rfl | h | h
  · rfl
  · rw [isCapitalOf_iff] at h
    omega
  · rw [isCapitalOf_iff] at h
    omega

/-- No name of a level has a dash in it. -/
theorem canStandApart_of_spells {value : String} {level : Log.Level}
    (h : Spells value level.name) : CanStandApart value := by
  right
  rintro ⟨rest, hrest⟩
  unfold Spells at h
  rw [← hrest, List.singleton_append, List.forall₂_cons_left_iff] at h
  obtain ⟨c, names, hsame, -, hname⟩ := h
  have hdash : '-' ∈ level.name.toList := by
    rw [hname, eq_dash_of_sameLetter hsame]
    exact List.mem_cons_self
  have hnone : '-' ∉ level.name.toList := by
    cases level <;> decide
  exact hnone hdash

namespace Config

theorem ofLevelName_eq_ok_iff (name : String) (config : Config) :
    ofLevelName name = .ok config ↔
      config.script = "docker-start.ps1" ∧ Spells name config.level.name := by
  rw [← Log.Level.ofName?_eq_some_iff]
  obtain ⟨script, level⟩ := config
  unfold ofLevelName
  cases Log.Level.ofName? name <;> simp [eq_comm]

theorem ofLevelName_eq_error_iff (name : String) (e : ConfigError) :
    ofLevelName name = .error e ↔
      e = .invalidLevel name ∧ ∀ level : Log.Level, ¬ Spells name level.name := by
  rw [← ofName?_eq_none_iff]
  unfold ofLevelName
  cases Log.Level.ofName? name <;> simp [eq_comm]

end Config

theorem asks_none_iff (args : List String) : Asks args none ↔ AsksWell args none := by
  refine ⟨fun h => ⟨h, by simp⟩, fun h => h.1⟩

theorem asks_and_spells_iff (args : List String) (name : String) (level : Log.Level) :
    Asks args (some name) ∧ Spells name level.name ↔
      AsksWell args (some name) ∧ Spells name level.name := by
  constructor
  · rintro ⟨hasks, hspells⟩
    refine ⟨⟨hasks, ?_⟩, hspells⟩
    rintro - _ ⟨⟩
    exact canStandApart_of_spells hspells
  · rintro ⟨hasks, hspells⟩
    exact ⟨hasks.1, hspells⟩

/-! ## The laws -/

/-- The arguments may name a level, in one of two ways, and end the options.
They set nothing else, the script in particular. A value that spells no level is
an error of its own, and all other arguments stop the program. -/
theorem the_arguments_set_the_level_and_nothing_else (args : List String) :
    (∀ config, Config.ofArguments args = .ok config ↔
      config.script = "docker-start.ps1" ∧
        (Asks args none ∧ config.level = .warn ∨
          ∃ name, Asks args (some name) ∧ Spells name config.level.name)) ∧
    (∀ name, Config.ofArguments args = .error (.invalidLevel name) ↔
      AsksWell args (some name) ∧ ∀ level : Log.Level, ¬ Spells name level.name) ∧
    ((∃ stop, Config.ofArguments args = .error (.stop stop)) ↔
      ∀ level, ¬ AsksWell args level) := by
  simp only [asks_none_iff, asks_and_spells_iff, ← readArguments_eq_ok_iff]
  unfold Config.ofArguments
  rcases readArguments args with stop | _ | name
  · simp
  · refine ⟨?_, by simp, by simp⟩
    intro config
    obtain ⟨script, level⟩ := config
    simp [eq_comm]
  · refine ⟨?_, ?_, ?_⟩
    · intro config
      simp [Config.ofLevelName_eq_ok_iff]
    · intro other
      simp only [Config.ofLevelName_eq_error_iff, ConfigError.invalidLevel.injEq,
        Except.ok.injEq, Option.some.injEq, eq_comm (a := other)]
      constructor
      · rintro ⟨rfl, h⟩
        exact ⟨rfl, h⟩
      · rintro ⟨rfl, h⟩
        exact ⟨rfl, h⟩
    · simp [Config.ofLevelName_eq_error_iff]

end ScriptBalance
