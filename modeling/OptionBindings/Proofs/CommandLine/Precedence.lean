import OptionBindings.Proofs.CommandLine.Reading

/-!
# Precedence of settings

Each setting has the value that the argument list gives it last, else the value of its variable in the
environment, else its built-in value; nothing that is given for one setting touches another.
-/

namespace OptionBindings

inductive Setting
  | copyrightHolder
  | inputFile
  | logLevel
  | outputDirectory
  | package
  | stdout
  | validate
  deriving DecidableEq, Repr

namespace Setting

def Value : Setting → Type
  | copyrightHolder | inputFile | package => String
  | logLevel => Level
  | outputDirectory => Path
  | stdout | validate => Bool

def key : Setting → String
  | copyrightHolder => "COPYRIGHT_HOLDER"
  | inputFile => "INPUT_FILE"
  | logLevel => "LOG_LEVEL"
  | outputDirectory => "OUTPUT_DIRECTORY"
  | package => "PACKAGE"
  | stdout => "STDOUT"
  | validate => "VALIDATE"

theorem key_injective : Function.Injective key := by
  intro first second h
  cases first <;> cases second <;> first | rfl | exact absurd h (by decide)

def convert? : (setting : Setting) → String → Option setting.Value
  | copyrightHolder, text | inputFile, text | package, text => some text
  | logLevel, text => Level.ofName? text
  | outputDirectory, text => some (Path.ofString text)
  | stdout, text | validate, text => truthValue? text

def builtIn (current : Path) : (setting : Setting) → setting.Value
  | copyrightHolder => "Apple Inc. and the FoundationDB project authors"
  | inputFile => "/usr/local/include/foundationdb/fdb.options"
  | logLevel => Level.warning
  | outputDirectory => current
  | package => "fdbclient-swift"
  | stdout => false
  | validate => true

end Setting

def Settings.get (settings : Settings) : (setting : Setting) → setting.Value
  | .copyrightHolder => settings.copyrightHolder
  | .inputFile => settings.inputFile
  | .logLevel => settings.logLevel
  | .outputDirectory => settings.outputDirectory
  | .package => settings.package
  | .stdout => settings.stdout
  | .validate => settings.validate

def Overrides.get (overrides : Overrides) : (setting : Setting) → Option setting.Value
  | .copyrightHolder => overrides.copyrightHolder
  | .inputFile => overrides.inputFile
  | .logLevel => overrides.logLevel
  | .outputDirectory => overrides.outputDirectory
  | .package => overrides.package
  | .stdout => overrides.stdout
  | .validate => overrides.validate

theorem Settings.get_override (settings : Settings) (overrides : Overrides) (setting : Setting) :
    (settings.override overrides).get setting =
      (overrides.get setting).getD (settings.get setting) := by
  cases setting <;> rfl

theorem Settings.get_builtIn (current : Path) (setting : Setting) :
    ({ outputDirectory := current } : Settings).get setting = setting.builtIn current := by
  cases setting <;> rfl

/-! ## The environment -/

namespace Environment

variable {environment : Environment}

theorem nameOf_injective : Function.Injective nameOf := by
  intro first second h
  exact String.append_right_inj _ |>.1 h

theorem get?_cons_of_ne {setting other : Setting} (h : other ≠ setting) (text : String)
    (environment : Environment) :
    get? ((nameOf other.key, text) :: environment) setting.key = environment.get? setting.key := by
  have hne : nameOf setting.key ≠ nameOf other.key := by
    intro hname
    exact h (Setting.key_injective (nameOf_injective hname)).symm
  unfold get?
  rw [List.lookup_cons, beq_false_of_ne hne]

theorem level?_cases {key : String} {level : Option Level}
    (h : environment.level? key = .ok level) :
    level = (environment.get? key).bind Level.ofName? ∧
      ∀ text ∈ environment.get? key, (Level.ofName? text).isSome := by
  unfold level? at h
  split at h
  · next hnone =>
      cases h
      simp [hnone]
  · next text htext =>
      split at h
      · next level hlevel =>
          cases h
          simp [htext, hlevel]
      · cases h

theorem truth?_cases {key : String} {truth : Option Bool}
    (h : environment.truth? key = .ok truth) :
    truth = (environment.get? key).bind truthValue? ∧
      ∀ text ∈ environment.get? key, (truthValue? text).isSome := by
  unfold truth? at h
  split at h
  · next hnone =>
      cases h
      simp [hnone]
  · next text htext =>
      split at h
      · next truth htruth =>
          cases h
          simp [htext, htruth]
      · cases h

theorem get_overrides {overrides : Overrides} (h : environment.overrides = .ok overrides)
    (setting : Setting) :
    overrides.get setting = (environment.get? setting.key).bind setting.convert? ∧
      ∀ text ∈ environment.get? setting.key, (setting.convert? text).isSome := by
  unfold Environment.overrides at h
  obtain ⟨level, hlevel, h⟩ := exists_of_bind_eq_ok h
  obtain ⟨stdout, hstdout, h⟩ := exists_of_bind_eq_ok h
  obtain ⟨validate, hvalidate, h⟩ := exists_of_bind_eq_ok h
  cases h
  cases setting with
  | logLevel => exact level?_cases hlevel
  | stdout => exact truth?_cases hstdout
  | validate => exact truth?_cases hvalidate
  | copyrightHolder | inputFile | package =>
      exact ⟨(Option.bind_fun_some _).symm, fun _ _ => rfl⟩
  | outputDirectory => exact ⟨Option.map_eq_bind, fun _ _ => rfl⟩

end Environment

/-! ## The argument list -/

open CommandLine

namespace CommandLine.Item

def setting? : Item → Option Setting
  | .flag .stdout => some .stdout
  | .flag .noValidate => some .validate
  | .value .copyrightHolder _ => some .copyrightHolder
  | .value .logLevel _ => some .logLevel
  | .value .outputDirectory _ => some .outputDirectory
  | .value .package _ => some .package
  | .file _ => some .inputFile
  | _ => none

end CommandLine.Item

namespace Setting

def given? : (setting : Setting) → Item → Option setting.Value
  | stdout, .flag .stdout => some true
  | validate, .flag .noValidate => some false
  | copyrightHolder, .value .copyrightHolder text => some text
  | logLevel, .value .logLevel text => Level.ofName? text
  | outputDirectory, .value .outputDirectory text => some (Path.ofString text)
  | package, .value .package text => some text
  | inputFile, .file name => some name
  | _, _ => none

def lastGiven? (setting : Setting) (items : List Item) : Option setting.Value :=
  items.reverse.findSome? setting.given?

theorem given?_of_setting?_ne {setting : Setting} {item : Item}
    (h : item.setting? ≠ some setting) : setting.given? item = none := by
  cases item with
  | flag flag => cases setting <;> cases flag <;> first | rfl | exact (h rfl).elim
  | value flag text => cases setting <;> cases flag <;> first | rfl | exact (h rfl).elim
  | file name => cases setting <;> first | rfl | exact (h rfl).elim

theorem lastGiven?_cons (setting : Setting) (item : Item) (items : List Item) :
    setting.lastGiven? (item :: items) = (setting.lastGiven? items).or (setting.given? item) := by
  unfold lastGiven?
  rw [List.reverse_cons, List.findSome?_append, List.findSome?_singleton]

/-- Items for other settings make no difference. -/
theorem lastGiven?_filter (setting : Setting) (items : List Item) :
    setting.lastGiven? (items.filter (·.setting? = some setting)) = setting.lastGiven? items := by
  induction items with
  | nil => rfl
  | cons item items ih =>
      rw [lastGiven?_cons, List.filter_cons]
      split
      · rw [lastGiven?_cons, ih]
      · next h =>
          rw [ih, given?_of_setting?_ne (by simpa using h), Option.or_none]

end Setting

namespace CommandLine.Request

/-- An item that acts gives its setting a value, and leaves the other settings alone. -/
theorem get_take {request next : Request} {item : Item} (h : request.take item = .ok next)
    (setting : Setting) :
    next.overrides.get setting = (setting.given? item).or (request.overrides.get setting) ∧
      (item.setting? = some setting → (setting.given? item).isSome) := by
  -- One case for each item and setting: the item is for the setting, or it is not.
  cases item with
  | flag flag =>
      cases flag <;> cases h <;> cases setting <;>
        exact ⟨rfl, fun h => by first | rfl | cases h⟩
  | value flag text =>
      cases flag with
      | logLevel =>
          cases hlevel : Level.ofName? text with
          | none =>
              simp only [take, setValue, hlevel] at h
              cases h
          | some level =>
              simp only [take, setValue, hlevel] at h
              cases h
              cases setting with
              | logLevel =>
                  have hgiven : Setting.logLevel.given? (.value .logLevel text) = some level :=
                    hlevel
                  rw [hgiven]
                  exact ⟨rfl, fun _ => rfl⟩
              | _ => exact ⟨rfl, fun h => by cases h⟩
      | _ =>
          cases h
          cases setting <;> exact ⟨rfl, fun h => by first | rfl | cases h⟩
  | file name =>
      cases h
      cases setting <;> exact ⟨rfl, fun h => by first | rfl | cases h⟩

/-- Of several items for a setting the last counts. -/
theorem get_foldlM_take {items : List Item} {request result : Request}
    (h : items.foldlM take request = .ok result) (setting : Setting) :
    result.overrides.get setting =
        (setting.lastGiven? items).or (request.overrides.get setting) ∧
      ∀ item ∈ items, item.setting? = some setting → (setting.given? item).isSome := by
  induction items generalizing request with
  | nil =>
      cases h
      exact ⟨rfl, fun item hitem => absurd hitem List.not_mem_nil⟩
  | cons item items ih =>
      rw [List.foldlM_cons] at h
      obtain ⟨next, hitem, hitems⟩ := exists_of_bind_eq_ok h
      obtain ⟨hget, hgiven⟩ := get_take hitem setting
      obtain ⟨hgets, hgivens⟩ := ih hitems
      refine ⟨?_, List.forall_mem_cons.2 ⟨hgiven, hgivens⟩⟩
      rw [hgets, hget, Setting.lastGiven?_cons, Option.or_assoc]

end CommandLine.Request

/-! ## All three -/

/-- The value that a setting has by precedence, with the variables of the environment and the items of
an argument list. -/
inductive Setting.Prevails (setting : Setting) (current : Path) (environment : Environment)
    (items : List Item) : setting.Value → Prop
  | given {value} : setting.lastGiven? items = some value →
      Prevails setting current environment items value
  | ofEnvironment {text value} : (∀ item ∈ items, item.setting? ≠ some setting) →
      environment.get? setting.key = some text → setting.convert? text = some value →
      Prevails setting current environment items value
  | builtIn : (∀ item ∈ items, item.setting? ≠ some setting) →
      environment.get? setting.key = none →
      Prevails setting current environment items (setting.builtIn current)

def Setting.resolve (setting : Setting) (current : Path) (environment : Environment)
    (items : List Item) : setting.Value :=
  (setting.lastGiven? items).getD
    (((environment.get? setting.key).bind setting.convert?).getD (setting.builtIn current))

section

variable {interface : Interface} {current : Path} {environment : Environment}
  {initial : Settings} {words : List String} {request : Request} {items : List Item}

theorem Settings.get_ofEnvironment
    (h : Settings.ofEnvironment current environment = .ok initial) (setting : Setting) :
    initial.get setting =
        ((environment.get? setting.key).bind setting.convert?).getD (setting.builtIn current) ∧
      ∀ text ∈ environment.get? setting.key, (setting.convert? text).isSome := by
  unfold ofEnvironment at h
  cases hoverrides : environment.overrides with
  | error error =>
      rw [hoverrides] at h
      cases h
  | ok overrides =>
      rw [hoverrides] at h
      cases h
      obtain ⟨hget, hconverts⟩ := Environment.get_overrides hoverrides setting
      rw [get_override, hget, get_builtIn]
      exact ⟨rfl, hconverts⟩

theorem get_override_eq_resolve
    (hinitial : Settings.ofEnvironment current environment = .ok initial)
    (hrequest : readArguments interface words = .ok request)
    (hitems : Gives interface false words items) (setting : Setting) :
    (initial.override request.overrides).get setting =
      setting.resolve current environment items := by
  have hread := foldlM_take_of_readArguments hrequest hitems
  have hnone : ({} : Request).overrides.get setting = none := by
    cases setting <;> rfl
  calc (initial.override request.overrides).get setting
      = (request.overrides.get setting).getD (initial.get setting) :=
        Settings.get_override initial request.overrides setting
    _ = (setting.lastGiven? items).getD (initial.get setting) := by
        rw [(Request.get_foldlM_take hread setting).1, hnone, Option.or_none]
    _ = setting.resolve current environment items := by
        rw [(Settings.get_ofEnvironment hinitial setting).1, Setting.resolve]

theorem prevails_resolve {setting : Setting} {result : Request}
    (hinitial : ∀ text ∈ environment.get? setting.key, (setting.convert? text).isSome)
    (hitems : items.foldlM Request.take request = .ok result) :
    setting.Prevails current environment items
      (setting.resolve current environment items) := by
  unfold Setting.resolve
  cases hgiven : setting.lastGiven? items with
  | some value => exact .given hgiven
  | none =>
      have hnot : ∀ item ∈ items, item.setting? ≠ some setting := by
        intro item hmem hsetting
        have hsome := (Request.get_foldlM_take hitems setting).2 item hmem hsetting
        rw [List.findSome?_eq_none_iff.1 hgiven item (List.mem_reverse.2 hmem)] at hsome
        cases hsome
      cases hvariable : environment.get? setting.key with
      | none => exact .builtIn hnot hvariable
      | some text =>
          obtain ⟨value, hvalue⟩ := Option.isSome_iff_exists.1 (hinitial text hvariable)
          rw [Option.bind_some, hvalue]
          exact .ofEnvironment hnot hvariable hvalue

theorem resolve_congr {setting : Setting} {environment' : Environment} {items' : List Item}
    (hvariable : environment'.get? setting.key = environment.get? setting.key)
    (hfilter : items'.filter (·.setting? = some setting) =
      items.filter (·.setting? = some setting)) :
    setting.resolve current environment' items' = setting.resolve current environment items := by
  unfold Setting.resolve
  rw [hvariable, ← Setting.lastGiven?_filter, hfilter, Setting.lastGiven?_filter]

/-- The settings come to what precedence says, and what is supplied for one of them, in the
environment or in the argument list, makes no difference to the others. -/
theorem prevails_override (hinitial : Settings.ofEnvironment current environment = .ok initial)
    (hrequest : readArguments interface words = .ok request) :
    (∃ items, Gives interface false words items) ∧
    ∀ items, Gives interface false words items → ∀ setting : Setting,
      setting.Prevails current environment items
        ((initial.override request.overrides).get setting) ∧
      (∀ environment' initial' words' request' items',
        Settings.ofEnvironment current environment' = .ok initial' →
        readArguments interface words' = .ok request' → Gives interface false words' items' →
        environment'.get? setting.key = environment.get? setting.key →
        items'.filter (·.setting? = some setting) = items.filter (·.setting? = some setting) →
        (initial'.override request'.overrides).get setting =
          (initial.override request.overrides).get setting) ∧
      ∀ other text, other ≠ setting →
        Environment.get? ((Environment.nameOf other.key, text) :: environment) setting.key =
          environment.get? setting.key := by
  refine ⟨exists_gives_of_readArguments hrequest, fun items hitems setting => ⟨?_, ?_, ?_⟩⟩
  · rw [get_override_eq_resolve hinitial hrequest hitems]
    apply prevails_resolve (Settings.get_ofEnvironment hinitial setting).2
    exact foldlM_take_of_readArguments hrequest hitems
  · intro environment' initial' words' request' items' hinitial' hrequest' hitems' hvariable hfilter
    rw [get_override_eq_resolve hinitial hrequest hitems,
      get_override_eq_resolve hinitial' hrequest' hitems']
    exact resolve_congr hvariable hfilter
  · intro other text hother
    exact Environment.get?_cons_of_ne hother text environment

end

def mixedEnvironment : Environment :=
  [("FDBOPTGEN_STDOUT", ""), ("FDBOPTGEN_PACKAGE", "e")]

theorem spells_abbreviated_package :
    Spells .settingsOnly "--pack=c".toList [.value .package "c"] none := by
  have hname : IsLongName .settingsOnly "--pack".toList .package :=
    .inr ⟨("--package", .package), by decide, rfl, by decide, by decide⟩
  exact .assigned hname (.assigned ['c'] rfl)

theorem gives_packageAndDirectory :
    Gives .settingsOnly false ["--pack=c", "-oout", "in"]
      [.value .package "c", .value .outputDirectory "out", .file "in"] := by
  have hdirectory : Spells .settingsOnly "-oout".toList [.value .outputDirectory "out"] none :=
    .short (by decide) (by decide) (.joined 'o' ['u', 't'] rfl (by decide))
  exact .flags spells_abbreviated_package
    (.flags hdirectory (.file (.undashed (by decide)) .nil))

theorem gives_packageAndStdout :
    Gives .settingsOnly false ["--stdout", "--pack=c"] [.flag .stdout, .value .package "c"] := by
  have hstdout : Spells .settingsOnly "--stdout".toList [.flag .stdout] none :=
    .long (.inl (by decide)) (.done rfl)
  exact .flags hstdout (.flags spells_abbreviated_package .nil)

/-- The second run has another level, no directory and no file, but the same package. -/
theorem prevails_override_mixedEnvironment :
    ∃ initial request initial' request',
      Settings.ofEnvironment ⟨.absolute, []⟩ mixedEnvironment = .ok initial ∧
      readArguments .settingsOnly ["--pack=c", "-oout", "in"] = .ok request ∧
      Settings.ofEnvironment ⟨.absolute, []⟩
        (("FDBOPTGEN_LOG_LEVEL", "DEBUG") :: mixedEnvironment) = .ok initial' ∧
      readArguments .settingsOnly ["--stdout", "--pack=c"] = .ok request' ∧
      initial.override request.overrides =
        { inputFile := "in", outputDirectory := ⟨.relative, ["out"]⟩, package := "c" } ∧
      (∀ setting : Setting, setting.Prevails ⟨.absolute, []⟩ mixedEnvironment
        [.value .package "c", .value .outputDirectory "out", .file "in"]
        ((initial.override request.overrides).get setting)) ∧
      (initial'.override request'.overrides).get .package =
        (initial.override request.overrides).get .package := by
  have hinitial : Settings.ofEnvironment ⟨.absolute, []⟩ mixedEnvironment =
      .ok { outputDirectory := ⟨.absolute, []⟩, package := "e" } := by
    decide +kernel
  have hinitial' : Settings.ofEnvironment ⟨.absolute, []⟩
      (("FDBOPTGEN_LOG_LEVEL", "DEBUG") :: mixedEnvironment) =
        .ok { logLevel := .debug, outputDirectory := ⟨.absolute, []⟩, package := "e" } := by
    decide +kernel
  have hrequest : readArguments .settingsOnly ["--pack=c", "-oout", "in"] =
      .ok { overrides :=
        { inputFile := some "in"
          outputDirectory := some ⟨.relative, ["out"]⟩
          package := some "c" } } := by
    rw [readArguments_of_gives gives_packageAndDirectory]
    decide +kernel
  have hrequest' : readArguments .settingsOnly ["--stdout", "--pack=c"] =
      .ok { overrides := { package := some "c", stdout := some true } } := by
    rw [readArguments_of_gives gives_packageAndStdout]
    decide +kernel
  refine ⟨_, _, _, _, hinitial, hrequest, hinitial', hrequest', rfl, fun setting => ?_, ?_⟩
  · exact ((prevails_override hinitial hrequest).2 _ gives_packageAndDirectory setting).1
  · have hpackage := (prevails_override hinitial hrequest).2 _ gives_packageAndDirectory .package
    exact hpackage.2.1 _ _ _ _ _ hinitial' hrequest' gives_packageAndStdout rfl rfl

end OptionBindings
