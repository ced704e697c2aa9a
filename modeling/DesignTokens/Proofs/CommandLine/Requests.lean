import DesignTokens.CommandLine.Arguments
import DesignTokens.Libraries.BuiltIn
import DesignTokens.Proofs.Files.Writing
import Mathlib.Logic.ExistsUnique

/-!
Carrying out a request. Its options come from its arguments, its config file and the defaults, each
field on its own; and it prints or writes its stylesheet, or fails and leaves all files alone. How
arguments, documents and settings are read has no part in it.
-/

namespace DesignTokens
namespace CommandLine

variable {Choice : Type} {libraries : Libraries} {request : Request} {read : ReadText}
variable {settings : Settings} {base options : Options} {store : FileStore}
variable {compilation : Compilation}

/-- The value of a field: that of an argument, or else of a config file, or else the default. -/
inductive Layered (argument config : Option Choice) (otherwise : Choice) : Choice → Prop
  | argument {value} : argument = some value → Layered argument config otherwise value
  | config {value} : argument = none → config = some value →
      Layered argument config otherwise value
  | otherwise : argument = none → config = none → Layered argument config otherwise otherwise

theorem layered_iff (argument config : Option Choice) (otherwise value : Choice) :
    Layered argument config otherwise value ↔
      value = argument.getD (config.getD otherwise) := by
  constructor
  · intro layered
    cases layered with
    | argument given => rw [given, Option.getD_some]
    | config absent configured => rw [absent, configured, Option.getD_none, Option.getD_some]
    | otherwise absent silent => rw [absent, silent, Option.getD_none, Option.getD_none]
  · rintro rfl
    cases argument with
    | some given => exact .argument rfl
    | none =>
        cases config with
        | some configured => exact .config rfl rfl
        | none => exact .otherwise rfl rfl

namespace Request

/-- The settings of the config file, which may be blank; without one, nothing is set. -/
inductive Configures (libraries : Libraries) (request : Request) (read : ReadText) :
    Settings → Prop
  | missing : request.config = none → Configures libraries request read {}
  | blank {path text} : request.config = some path → read path = .ok text →
      Text.trim text.toList = [] → Configures libraries request read {}
  | given {path text settings} : request.config = some path → read path = .ok text →
      Text.trim text.toList ≠ [] → libraries.readSettings text = .ok settings →
      Configures libraries request read settings

/-- The options of a request whose config file has these settings, field by field. -/
structure Layers (request : Request) (settings : Settings) (options : Options) : Prop where
  style : Layered request.style settings.style .flat options.style
  resolvesAliases : Layered (if request.keepsReferences then some false else none)
    settings.resolvesAliases true options.resolvesAliases
  dialect : Layered (request.dialect.map some) settings.dialect none options.dialect

/-- The options that a request asks for. -/
def Chooses (libraries : Libraries) (request : Request) (read : ReadText) (options : Options) :
    Prop :=
  ∃ settings, request.Configures libraries read settings ∧ request.Layers settings options

def ConfigLoads (libraries : Libraries) (request : Request) (read : ReadText) : Prop :=
  ∀ path, request.config = some path → ∃ options, loadOptions libraries read path = .ok options

theorem configLoads_iff :
    request.ConfigLoads libraries read ↔
      ∃ base, request.baseOptions libraries read = .ok base := by
  unfold ConfigLoads baseOptions
  cases request.config with
  | none => simp
  | some path =>
      simp only [Option.some.injEq, forall_eq']
      cases loadOptions libraries read path <;> simp

theorem parse_eq_ok_iff (text : String) : Options.parse libraries text = .ok base ↔
    (Text.trim text.toList = [] ∧ base = {}) ∨ Text.trim text.toList ≠ [] ∧
      ∃ settings, libraries.readSettings text = .ok settings ∧
        base = Options.updated {} settings := by
  unfold Options.parse
  by_cases blank : Text.trim text.toList = []
  · simp [blank, eq_comm (a := base)]
  · cases libraries.readSettings text <;> simp [blank, eq_comm (a := base)]

theorem loadOptions_eq_ok_iff (path : Path) : loadOptions libraries read path = .ok base ↔
    ∃ text, read path = .ok text ∧ Options.parse libraries text = .ok base := by
  unfold loadOptions loadText
  cases read path with
  | error fault => simp
  | ok text =>
      dsimp only
      cases parsed : Options.parse libraries text <;> simp [parsed]

theorem baseOptions_eq_ok_iff : request.baseOptions libraries read = .ok base ↔
    ∃ settings, request.Configures libraries read settings ∧
      base = Options.updated {} settings := by
  unfold baseOptions
  constructor
  · intro found
    cases configured : request.config with
    | none =>
        rw [configured] at found
        cases found
        exact ⟨{}, .missing configured, rfl⟩
    | some path =>
        simp only [configured] at found
        cases loaded : loadOptions libraries read path with
        | error failure => simp [loaded] at found
        | ok options =>
            simp only [loaded, Except.ok.injEq] at found
            subst found
            obtain ⟨text, textRead, parsed⟩ := (loadOptions_eq_ok_iff path).mp loaded
            obtain ⟨blank, rfl⟩ | ⟨visible, settings, given, rfl⟩ :=
              (parse_eq_ok_iff text).mp parsed
            · exact ⟨{}, .blank configured textRead blank, rfl⟩
            · exact ⟨settings, .given configured textRead visible given, rfl⟩
  · rintro ⟨settings, configures, rfl⟩
    have loads {path : Path} {text : String} (textRead : read path = .ok text)
        (parsed : Options.parse libraries text = .ok (Options.updated {} settings)) :
        loadOptions libraries read path = .ok (Options.updated {} settings) :=
      (loadOptions_eq_ok_iff path).mpr ⟨text, textRead, parsed⟩
    cases configures with
    | missing configured => simp [configured, Options.updated]
    | blank configured textRead blank =>
        simp [configured, loads textRead ((parse_eq_ok_iff _).mpr (.inl ⟨blank, rfl⟩))]
    | given configured textRead visible given =>
        have parsed := (parse_eq_ok_iff _).mpr (.inr ⟨visible, settings, given, rfl⟩)
        simp [configured, loads textRead parsed]

theorem layers_iff : request.Layers settings options ↔
    options = (Options.updated {} settings).updated request.settings := by
  constructor
  · rintro ⟨style, resolvesAliases, dialect⟩
    rw [layered_iff] at style resolvesAliases dialect
    cases options
    exact (Options.mk.injEq ..).mpr ⟨style, resolvesAliases, dialect⟩
  · rintro rfl
    exact ⟨(layered_iff ..).mpr rfl, (layered_iff ..).mpr rfl, (layered_iff ..).mpr rfl⟩

theorem chooses_iff : request.Chooses libraries read options ↔
    ∃ base, request.baseOptions libraries read = .ok base ∧
      options = base.updated request.settings := by
  constructor
  · rintro ⟨settings, configures, layers⟩
    exact ⟨_, baseOptions_eq_ok_iff.mpr ⟨settings, configures, rfl⟩, layers_iff.mp layers⟩
  · rintro ⟨base, found, rfl⟩
    obtain ⟨settings, configures, rfl⟩ := baseOptions_eq_ok_iff.mp found
    exact ⟨settings, configures, layers_iff.mpr rfl⟩

theorem configLoads_iff_existsUnique_chooses : request.ConfigLoads libraries read ↔
    ∃! options, request.Chooses libraries read options := by
  rw [configLoads_iff]
  constructor
  · rintro ⟨base, found⟩
    refine ⟨base.updated request.settings, chooses_iff.mpr ⟨base, found, rfl⟩, ?_⟩
    intro other chooses
    obtain ⟨_, again, rfl⟩ := chooses_iff.mp chooses
    cases found.symm.trans again
    rfl
  · rintro ⟨options, chooses, -⟩
    obtain ⟨base, found, -⟩ := chooses_iff.mp chooses
    exact ⟨base, found⟩

/-- The options of a request, its document and their compilation. -/
structure Compiles (libraries : Libraries) (request : Request) (read : ReadText)
    (options : Options) (document : Value) (compilation : Compilation) : Prop where
  chooses : request.Chooses libraries read options
  loads : loadDocument libraries read request.input = .ok document
  compiles : DesignTokens.compile libraries.spell document options = .ok compilation

theorem compile_eq_ok_iff : request.compile libraries read = .ok compilation ↔
    ∃ options document, request.Compiles libraries read options document compilation := by
  unfold compile
  rw [bind_eq_ok_iff]
  constructor
  · rintro ⟨base, found, compiled⟩
    have chooses := chooses_iff.mpr ⟨base, found, rfl⟩
    cases loaded : loadDocument libraries read request.input with
    | error failure => simp [loaded, Except.bind] at compiled
    | ok document =>
        simp only [loaded, Except.bind] at compiled
        cases finished : DesignTokens.compile libraries.spell document
            (base.updated request.settings) with
        | error failure => simp [finished] at compiled
        | ok result =>
            rw [finished] at compiled
            cases compiled
            exact ⟨_, document, chooses, loaded, finished⟩
  · rintro ⟨options, document, chooses, loads, compiles⟩
    obtain ⟨base, found, rfl⟩ := chooses_iff.mp chooses
    refine ⟨base, found, ?_⟩
    simp [loads, Except.bind, compiles]

/-- A compilation is printed, or it is written to a file and nothing is printed. -/
inductive Delivers (request : Request) (store : FileStore) (compilation : Compilation) :
    String → FileStore → Prop
  | printed : request.out = none → Delivers request store compilation compilation.contents store
  | written {path after} : request.out = some path →
      store.write path compilation.contents.toUTF8 = .ok after →
      Delivers request store compilation "" after

/-- What is printed is all that is delivered, or the file written is all that changes. -/
theorem Delivers.cases {printed : String} {after : FileStore}
    (delivers : request.Delivers store compilation printed after) :
    (request.out = none → printed = compilation.contents ∧ after = store) ∧
    ∀ path, request.out = some path → printed = "" ∧
      ∃ location, store.target path = .ok location ∧
        after.find path = .ok (.file location compilation.contents.toUTF8) ∧
        ∀ elsewhere found, store.find elsewhere = .ok found →
          (∀ previous, found ≠ .file location previous) → after.find elsewhere = .ok found := by
  cases delivers with
  | printed absent =>
      refine ⟨fun _ => ⟨rfl, rfl⟩, ?_⟩
      intro path present
      cases present.symm.trans absent
  | written samePath wrote =>
      refine ⟨fun absent => ?_, ?_⟩
      · cases absent.symm.trans samePath
      intro path present
      cases present.symm.trans samePath
      obtain ⟨location, lands, isThere⟩ := FileStore.exists_find_of_write wrote
      refine ⟨rfl, location, lands, isThere, ?_⟩
      intro elsewhere found before different
      exact FileStore.find_of_write lands wrote before different

theorem exists_delivers_iff : (∃ printed after, request.Delivers store compilation printed after) ↔
    ∀ path, request.out = some path →
      ∃ written, store.write path compilation.contents.toUTF8 = .ok written := by
  constructor
  · rintro ⟨printed, after, delivers⟩ path present
    cases delivers with
    | printed absent => cases present.symm.trans absent
    | written again wrote =>
        cases present.symm.trans again
        exact ⟨after, wrote⟩
  · intro writes
    cases out : request.out with
    | none => exact ⟨_, _, .printed out⟩
    | some path =>
        obtain ⟨written, wrote⟩ := writes path out
        exact ⟨_, _, .written out wrote⟩

/-- A run delivers its compilation, or it fails, prints nothing and leaves the store alone. -/
theorem run_cases (libraries : Libraries) (request : Request) (store : FileStore) :
    let outcome := (request.run libraries store).1
    let after := (request.run libraries store).2
    (∃ compilation, request.compile libraries store.read = .ok compilation ∧
      request.Delivers store compilation outcome.standardOutput after ∧ outcome.code = 0) ∨
    (∀ compilation printed written, request.compile libraries store.read = .ok compilation →
      ¬ request.Delivers store compilation printed written) ∧
      outcome.code ≠ 0 ∧ outcome.standardOutput = "" ∧ after = store := by
  unfold run
  cases compiled : request.compile libraries store.read with
  | error error => exact .inr ⟨by simp, by simp [Outcome.ofRunError], rfl, rfl⟩
  | ok compilation =>
      cases delivered : request.out with
      | none => exact .inl ⟨compilation, rfl, .printed delivered, rfl⟩
      | some path =>
          dsimp only
          cases wrote : store.write path compilation.contents.toUTF8 with
          | ok after => exact .inl ⟨compilation, rfl, .written delivered wrote, rfl⟩
          | error fault =>
              refine .inr ⟨?_, by simp [Outcome.ofRunError], rfl, rfl⟩
              rintro _ printed written ⟨⟩ delivers
              cases delivers with
              | printed absent => cases delivered.symm.trans absent
              | written present wroteToo =>
                  cases delivered.symm.trans present
                  cases wrote.symm.trans wroteToo

end Request

/-- A request is carried out as a whole or not at all. It succeeds exactly when its options, each
field from its own layer, and its document load and compile and the result can be written; the
result is then all that is printed or written, and a failure prints nothing and changes no file. -/
theorem run_all_or_nothing {readArguments : ReadArguments} {arguments : List String}
    (accepted : readArguments arguments = .ok request) (libraries : Libraries)
    (store : FileStore) :
    let outcome := (run readArguments libraries arguments store).1
    let after := (run readArguments libraries arguments store).2
    (request.ConfigLoads libraries store.read ↔
      ∃! options, request.Chooses libraries store.read options) ∧
    (outcome.code = 0 ↔ ∃ options document compilation,
      request.Compiles libraries store.read options document compilation ∧
      ∀ path, request.out = some path →
        ∃ written, store.write path compilation.contents.toUTF8 = .ok written) ∧
    (outcome.code = 0 → ∀ options document compilation,
      request.Compiles libraries store.read options document compilation →
      (request.out = none → outcome.standardOutput = compilation.contents ∧ after = store) ∧
      ∀ path, request.out = some path → outcome.standardOutput = "" ∧
        ∃ location, store.target path = .ok location ∧
          after.find path = .ok (.file location compilation.contents.toUTF8) ∧
          ∀ elsewhere found, store.find elsewhere = .ok found →
            (∀ previous, found ≠ .file location previous) → after.find elsewhere = .ok found) ∧
    (outcome.code ≠ 0 → outcome.standardOutput = "" ∧ after = store) := by
  have sameRun : run readArguments libraries arguments store = request.run libraries store := by
    rw [run, accepted]
  rw [sameRun]
  intro outcome after
  refine ⟨Request.configLoads_iff_existsUnique_chooses, ?_, ?_, ?_⟩
  · constructor
    · intro succeeded
      obtain ⟨compilation, compiled, delivers, -⟩ | ⟨-, failed, -⟩ :=
        request.run_cases libraries store
      · obtain ⟨options, document, compiles⟩ := Request.compile_eq_ok_iff.mp compiled
        have writes := Request.exists_delivers_iff.mp ⟨_, _, delivers⟩
        exact ⟨options, document, compilation, compiles, writes⟩
      · exact absurd succeeded failed
    · rintro ⟨options, document, compilation, compiles, writes⟩
      have compiled := Request.compile_eq_ok_iff.mpr ⟨options, document, compiles⟩
      obtain ⟨printed, written, delivers⟩ := Request.exists_delivers_iff.mpr writes
      obtain ⟨-, -, -, succeeded⟩ | ⟨undelivered, -⟩ := request.run_cases libraries store
      · exact succeeded
      · exact absurd delivers (undelivered compilation printed written compiled)
  · intro succeeded options document compilation compiles
    obtain ⟨_, compiled, delivers, -⟩ | ⟨-, failed, -⟩ := request.run_cases libraries store
    · have again := Request.compile_eq_ok_iff.mpr ⟨options, document, compiles⟩
      cases compiled.symm.trans again
      exact delivers.cases
    · exact absurd succeeded failed
  · intro failed
    obtain ⟨-, -, -, succeeded⟩ | ⟨-, -, silent, kept⟩ := request.run_cases libraries store
    · exact absurd succeeded failed
    · exact ⟨silent, kept⟩

def overwriting : List String :=
  ["--config", "/sass.yaml", "--no-resolve", "-o", "gap.json", "gap.json"]

def overwritingRequest : Request :=
  { input := ⟨"gap.json"⟩
    keepsReferences := true
    config := some ⟨"/sass.yaml"⟩
    out := some ⟨"gap.json"⟩ }

def gapFiles (document : String) : FileStore :=
  { files := [(["sass.yaml"], "output: map\nresolveAliases: true\n".toUTF8),
      (["work", "gap.json"], document.toUTF8)]
    workingDirectory := ["work"] }

def gapDocument : String :=
  "\x7b\"gap\": \x7b\"sm\": \x7b\"$value\": \"\x7bgap.sm\x7d\"\x7d\x7d\x7d"

/-- The document may be read and not be written. -/
def lockedFiles : FileStore :=
  { gapFiles gapDocument with
    refusals := [((.write, ["work", "gap.json"]), .accessDenied)] }

theorem overwriting_all_or_nothing :
    let files := gapFiles gapDocument
    let unfinished := gapFiles "\x7b"
    readArguments overwriting = .ok overwritingRequest ∧
    (∃ document compilation, overwritingRequest.Compiles (.builtIn id) files.read
        { style := .nested, resolvesAliases := false } document compilation ∧
      ∃ location, files.target ⟨"gap.json"⟩ = .ok location ∧
        (run readArguments (.builtIn id) overwriting files).2.find ⟨"gap.json"⟩ =
          .ok (.file location compilation.contents.toUTF8)) ∧
    (run readArguments (.builtIn id) overwriting unfinished).1.standardOutput = "" ∧
    (run readArguments (.builtIn id) overwriting unfinished).2 = unfinished ∧
    (run readArguments (.builtIn id) overwriting lockedFiles).1.standardOutput = "" ∧
    (run readArguments (.builtIn id) overwriting lockedFiles).2 = lockedFiles := by
  intro files unfinished
  have accepted : readArguments overwriting = .ok overwritingRequest := rfl
  have succeeded : (run readArguments (.builtIn id) overwriting files).1.code = 0 := by
    decide +kernel
  have failed : (run readArguments (.builtIn id) overwriting unfinished).1.code ≠ 0 := by
    decide +kernel
  have refused : (run readArguments (.builtIn id) overwriting lockedFiles).1.code ≠ 0 := by
    decide +kernel
  obtain ⟨-, succeeds, delivers, -⟩ := run_all_or_nothing accepted (.builtIn id) files
  obtain ⟨-, -, -, keeps⟩ := run_all_or_nothing accepted (.builtIn id) unfinished
  obtain ⟨-, -, -, keepsLocked⟩ := run_all_or_nothing accepted (.builtIn id) lockedFiles
  obtain ⟨silent, kept⟩ := keeps failed
  obtain ⟨options, document, compilation, compiles, -⟩ := succeeds.mp succeeded
  obtain ⟨-, location, lands, isThere, -⟩ :=
    (delivers succeeded options document compilation compiles).2 ⟨"gap.json"⟩ rfl
  have loaded : loadOptions (.builtIn id) files.read ⟨"/sass.yaml"⟩ = .ok { style := .nested } := by
    decide +kernel
  have configured : overwritingRequest.baseOptions (.builtIn id) files.read =
      .ok { style := .nested } := by
    simp only [Request.baseOptions, overwritingRequest, loaded]
  obtain ⟨base, found, rfl⟩ := Request.chooses_iff.mp compiles.chooses
  cases configured.symm.trans found
  exact ⟨accepted, ⟨document, compilation, compiles, location, lands, isThere⟩, silent, kept,
    keepsLocked refused⟩

end CommandLine
end DesignTokens
