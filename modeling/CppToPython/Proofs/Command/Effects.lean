import CppToPython.Command.FileTree
import CppToPython.Command.Run
import Mathlib.Control.Monad.Basic

/-! # What a run does to files

A run of the command writes its output when nothing is wrong with its arguments, its input and the
write itself. In any other case all files stay as they are, and the exit code says so.
-/

namespace CppToPython.Command

/-! ### Disks -/

/-- Files and directories by their places, and the places that paths lead to. -/
structure FileMap (σ : Type) where
  get? : σ → Place → Option Entry
  resolve : σ → String → Except FileError Place

namespace FileMap

variable {σ : Type} (map : FileMap σ)

def Holds (s : σ) (path : String) (content : ByteArray) : Prop :=
  ∃ place, map.resolve s path = .ok place ∧ map.get? s place = some (.file content)

/-- The file that a path leads to, before and after, has a new content, and all else is as it was. -/
def Replaces (s : σ) (path : String) (content : ByteArray) (s' : σ) : Prop :=
  ∃ place, map.resolve s path = .ok place ∧ map.resolve s' path = .ok place ∧
    map.get? s' place = some (.file content) ∧
    ∀ other, other ≠ place → map.get? s' other = map.get? s other

end FileMap

/-- A file system of which no more is known than that reading gives what a file holds, and that a
    write has no effect or replaces the whole content of a file. -/
structure Disk (σ : Type) extends FileMap σ where
  contains : σ → String → Bool
  read : σ → String → Except FileError ByteArray
  write : σ → String → ByteArray → Except FileError σ
  holds_of_read : ∀ {s path content}, read s path = .ok content → toFileMap.Holds s path content
  replaces_of_write : ∀ {s path content s'},
    write s path content = .ok s' → toFileMap.Replaces s path content s'

namespace Disk

variable {σ : Type} (disk : Disk σ) (s : σ)

def system : FileSystem (StateM σ) where
  contains path := do return disk.contains (← get) path
  read path := do return disk.read (← get) path
  write path content := do
    match disk.write (← get) path content with
    | .ok s =>
        set s
        return .ok ()
    | .error e => return .error e

@[simp]
theorem run_contains (path : String) :
    ((disk.system.contains path).run s).run = (disk.contains s path, s) := rfl

@[simp]
theorem run_read (path : String) :
    ((disk.system.read path).run s).run = (disk.read s path, s) := rfl

theorem run_write_ok {path : String} {content : ByteArray} {s' : σ}
    (h : disk.write s path content = .ok s') :
    ((disk.system.write path content).run s).run = (.ok (), s') := by
  simp [system, h]

theorem run_write_error {path : String} {content : ByteArray} {e : FileError}
    (h : disk.write s path content = .error e) :
    ((disk.system.write path content).run s).run = (.error e, s) := by
  simp [system, h]

end Disk

theorem bind_eq_ok {ε α β : Type} {x : Except ε α} {f : α → Except ε β} {b : β} :
    x >>= f = .ok b ↔ ∃ a, x = .ok a ∧ f a = .ok b := by
  cases x with
  | error e => simp [bind, Except.bind]
  | ok a => simp [bind, Except.bind]

namespace FileTree

variable {t t' : FileTree} {path : String} {content : ByteArray}

theorem get?_insert {place : Place} (e : Entry) (h : t.get? place ≠ some .directory) :
    (t.insert place e).get? place = some e := by
  have hnames : place.names ≠ [] := by
    intro hnil
    exact h (if_pos hnil)
  simp [get?, insert, hnames]

theorem get?_insert_of_ne {place other : Place} (e : Entry) (h : other ≠ place) :
    (t.insert place e).get? other = t.get? other := by
  have hother : (other == place) = false := beq_eq_false_iff_ne.mpr h
  simp [get?, insert, List.lookup_cons, hother]

/-- What is new at a place where there was no directory is not on the way to any place. -/
theorem step_insert {place p q : Place} {name : String} (e : Entry)
    (h : t.get? place ≠ some .directory) (hstep : t.step p name = .ok q) :
    (t.insert place e).step p name = .ok q := by
  obtain ⟨_, henter, hnext⟩ := bind_eq_ok.mp hstep
  refine bind_eq_ok.mpr ⟨(), ?_, hnext⟩
  unfold enter at henter
  split at henter
  · cases henter
  · cases henter
  · next hdirectory =>
      have hne : p ≠ place := by
        rintro rfl
        exact h hdirectory
      rw [enter, get?_insert_of_ne e hne, hdirectory]

theorem foldlM_step_insert {place p q : Place} {names : List String} (e : Entry)
    (h : t.get? place ≠ some .directory) (hwalk : names.foldlM t.step p = .ok q) :
    names.foldlM (t.insert place e).step p = .ok q := by
  induction names generalizing p with
  | nil => exact hwalk
  | cons name names ih =>
      rw [List.foldlM_cons] at hwalk ⊢
      obtain ⟨next, hstep, hrest⟩ := bind_eq_ok.mp hwalk
      exact bind_eq_ok.mpr ⟨next, step_insert e h hstep, ih hrest⟩

theorem resolve_insert {place q : Place} (e : Entry) (h : t.get? place ≠ some .directory)
    (hresolve : t.resolve path = .ok q) : (t.insert place e).resolve path = .ok q := by
  unfold resolve walk at hresolve ⊢
  split at hresolve
  · cases hresolve
  · next hlength =>
      rw [if_neg hlength]
      exact foldlM_step_insert e h hresolve

theorem read_eq_ok (h : t.read path = .ok content) :
    ∃ place, t.resolve path = .ok place ∧ t.get? place = some (.file content) := by
  obtain ⟨e, hentry, hcontent⟩ := bind_eq_ok.mp h
  obtain ⟨place, hresolve, hget⟩ := bind_eq_ok.mp hentry
  refine ⟨place, hresolve, ?_⟩
  cases e with
  | directory => cases hcontent
  | file =>
      cases hcontent
      split at hget
      · cases hget
      · next hfile =>
          split at hget
          · cases hget
          · cases hget
            exact hfile
      · cases hget

theorem write_eq_ok (h : t.write path content = .ok t') :
    ∃ place, t.resolve path = .ok place ∧ t.get? place ≠ some .directory ∧
      t' = t.insert place (.file content) := by
  unfold write at h
  split at h
  · obtain ⟨place, _, h⟩ := bind_eq_ok.mp h
    obtain ⟨_, _, h⟩ := bind_eq_ok.mp h
    cases h
  · obtain ⟨place, hresolve, h⟩ := bind_eq_ok.mp h
    split at h
    · cases h
    · next hget =>
        cases h
        exact ⟨place, hresolve, hget, rfl⟩

def disk : Disk FileTree where
  get? := get?
  resolve := resolve
  contains := contains
  read := read
  write := write
  holds_of_read := read_eq_ok
  replaces_of_write h := by
    obtain ⟨place, hresolve, hget, rfl⟩ := write_eq_ok h
    exact ⟨place, hresolve, resolve_insert _ hget hresolve, get?_insert _ hget,
      fun other hne => get?_insert_of_ne _ hne⟩

theorem system_disk : disk.system = system := by
  unfold system Disk.system
  congr 1
  funext path content
  apply StateT.ext
  intro t
  cases h : t.write path content with
  | error e => simp [disk, h]
  | ok t' => simp [disk, h]

end FileTree

/-! ### Whether the viewer was asked for -/

theorem Flag.ofShort?_ne_view {letter : Char} {flag : Flag} (h : Flag.ofShort? letter = some flag) :
    flag ≠ .view := by
  rintro rfl
  unfold ofShort? at h
  split at h
  all_goals cases h

theorem Argument.ofString_eq_view {arg : String} (h : Argument.ofString arg = .long "view" none) :
    arg = "--view" := by
  unfold ofString at h
  split at h
  · cases h
  · next text _ harg =>
      unfold ofLong at h
      split at h
      · next hdrop =>
          injection h with hname _
          have htext : text.takeWhile (· != '=') = text := by
            have hwhole := List.takeWhile_append_dropWhile (p := (· != '=')) (l := text)
            rwa [hdrop, List.append_nil] at hwhole
          rw [htext] at hname
          rw [← String.toList_inj, harg, ← String.toList_ofList (l := text), hname]
          decide
      · simp at h
  · cases h
  · cases h

namespace Collected

variable {c c' : Collected}

theorem setIndent_view {value : String} (h : c.setIndent value = .ok c') : c'.view = c.view := by
  grind [setIndent]

theorem settle_view (h : c.settle = .ok c') : c'.view = c.view := by
  grind [settle, → setIndent_view]

theorem setFlag_view {flag : Flag} (h : c.setFlag flag = .ok c') (hne : flag ≠ .view) :
    c'.view = c.view := by
  cases flag with
  | view => exact absurd rfl hne
  | mainGuard | verbose | help | version => grind [setFlag]

theorem takePath_view {text : String} (h : c.takePath text = .ok c') : c'.view = c.view := by
  rw [takePath] at h
  split at h
  · cases h
  · obtain ⟨settled, hsettle, hok⟩ := bind_eq_ok.mp h
    cases hok
    rw [← settle_view hsettle]

theorem takePlain_view {text : String} (h : c.takePlain text = .ok c') : c'.view = c.view := by
  rw [takePlain] at h
  split at h
  · cases h
    rfl
  · exact takePath_view h

theorem takeShort_view {letters : List Char} (h : c.takeShort letters = .ok c') :
    c'.view = c.view := by
  induction letters generalizing c with
  | nil =>
      cases h
      rfl
  | cons letter letters ih =>
      rw [takeShort] at h
      split at h
      · cases h
      · next flag hflag =>
          obtain ⟨settled, hsettle, h⟩ := bind_eq_ok.mp h
          obtain ⟨flagged, hset, hrest⟩ := bind_eq_ok.mp h
          rw [ih hrest, setFlag_view hset (Flag.ofShort?_ne_view hflag), settle_view hsettle]

theorem takeLong_view {name : String} {value : Option String}
    (h : c.takeLong name value = .ok c') (hne : (name, value) ≠ ("view", none)) :
    c'.view = c.view := by
  unfold takeLong at h
  split at h
  · cases h
  · cases h
  · next flag hflag =>
      obtain ⟨settled, hsettle, hset⟩ := bind_eq_ok.mp h
      have hview : flag ≠ .view := by
        rintro rfl
        unfold OptionName.ofLong? at hflag
        split at hflag
        all_goals cases hflag
        exact hne rfl
      rw [setFlag_view hset hview, settle_view hsettle]
  · obtain ⟨settled, hsettle, hset⟩ := bind_eq_ok.mp h
    rw [setIndent_view hset, settle_view hsettle]
  · obtain ⟨settled, hsettle, hok⟩ := bind_eq_ok.mp h
    cases hok
    rw [← settle_view hsettle]

theorem take_view {arg : String} (h : c.take arg = .ok c') (hne : arg ≠ "--view") :
    c'.view = c.view := by
  rw [take] at h
  split at h
  · exact takePath_view h
  split at h
  · cases h
    rfl
  · next name value harg =>
      apply takeLong_view h
      rintro ⟨⟩
      exact hne (Argument.ofString_eq_view harg)
  · exact takeShort_view h
  · exact takePlain_view h

theorem foldlM_take_view {args : List String} (h : args.foldlM take c = .ok c')
    (hne : "--view" ∉ args) : c'.view = c.view := by
  induction args generalizing c with
  | nil =>
      cases h
      rfl
  | cons arg args ih =>
      rw [List.foldlM_cons] at h
      obtain ⟨taken, htake, hrest⟩ := bind_eq_ok.mp h
      have harg : arg ≠ "--view" := by
        rintro rfl
        exact hne List.mem_cons_self
      rw [ih hrest (fun hmem => hne (List.mem_cons_of_mem arg hmem)), take_view htake harg]

theorem finish_view {a : Arguments} (h : c.finish = .ok a) : a.view = c.view := by
  obtain ⟨settled, hsettle, hpaths⟩ := bind_eq_ok.mp h
  rw [← settle_view hsettle]
  split at hpaths
  · cases hpaths
    rfl
  · cases hpaths

end Collected

theorem view_of_parse {args : List String} {a : Arguments} (h : Arguments.parse args = .ok a)
    (hne : "--view" ∉ args) : a.view = false := by
  obtain ⟨c, hfold, hfinish⟩ := bind_eq_ok.mp h
  rw [Collected.finish_view hfinish, Collected.foldlM_take_view hfold hne]

/-! ### A run on a disk -/

/-- All that has to be right for the output to be written, and the state of the disk after that. -/
structure Writes {σ : Type} (disk : Disk σ) (s : σ) (a : Arguments) (source text : String)
    (s' : σ) : Prop where
  input_exists : disk.contains s a.input = true
  indent_pos : 1 ≤ a.indent
  input_read : disk.read s a.input = .ok source.toUTF8
  translated : (translate ⟨a.indent, a.mainGuard⟩ source).result = .ok text
  output_written : disk.write s a.output text.toUTF8 = .ok s'

/-- A result that is a success with something done, or a failure with nothing done. The viewer is
    not opened unless it may be. -/
structure AllOrNothing {σ : Type} (Done : σ → Prop) (view : Bool) (s : σ) (result : Outcome × σ) :
    Prop where
  view_eq_none : view = false → result.1.view = none
  done_or_not : (Done result.2 ∧ result.1.code = 0) ∨
    (¬ (∃ s', Done s') ∧ result.2 = s ∧ result.1.code ≠ 0)

theorem AllOrNothing.of_iff {σ : Type} {Done Done' : σ → Prop} {view : Bool} {s : σ}
    {result : Outcome × σ} (h : AllOrNothing Done view s result)
    (hiff : ∀ s', Done s' ↔ Done' s') : AllOrNothing Done' view s result := by
  refine ⟨h.view_eq_none, ?_⟩
  simpa only [hiff] using h.done_or_not

theorem allOrNothing_failure {σ : Type} {Done : σ → Prop} (h : ¬ ∃ s', Done s') (view : Bool) (s : σ)
    (log message : String) : AllOrNothing Done view s (failure log message, s) :=
  ⟨fun _ => rfl, .inr ⟨h, rfl, Nat.one_ne_zero⟩⟩

theorem fromUTF8?_eq_some {bytes : ByteArray} {text : String} :
    String.fromUTF8? bytes = some text ↔ bytes = text.toUTF8 := by
  rw [String.fromUTF8?]
  constructor
  · intro h
    split at h
    · cases h
      rfl
    · cases h
  · rintro rfl
    rw [String.toUTF8_eq_toByteArray, dif_pos text.isValidUTF8]
    rfl

theorem settings_eq_ok {a : Arguments} {inputExists : Bool} {settings : Settings} :
    a.settings inputExists = .ok settings ↔
      inputExists = true ∧ 1 ≤ a.indent ∧
        settings = ⟨a.input, a.output, ⟨a.indent, a.mainGuard⟩, a.view, a.level⟩ := by
  rw [Arguments.settings]
  grind

section Run

variable {σ : Type} (disk : Disk σ) (s : σ)

theorem run_readText (path : String) :
    ∃ result, ((readText disk.system path).run s).run = (result, s) ∧
      ∀ source, result = .ok source ↔ disk.read s path = .ok source.toUTF8 := by
  cases hread : disk.read s path with
  | error e =>
      refine ⟨.error e, ?_, by simp⟩
      simp [readText, hread]
  | ok bytes =>
      cases htext : String.fromUTF8? bytes with
      | none =>
          refine ⟨.error .notText, by simp [readText, hread, htext], ?_⟩
          intro source
          rw [Except.ok.injEq, ← fromUTF8?_eq_some, htext]
          simp
      | some text =>
          refine ⟨.ok text, by simp [readText, hread, htext], ?_⟩
          intro source
          rw [Except.ok.injEq, Except.ok.injEq, ← fromUTF8?_eq_some, htext, Option.some.injEq]

theorem writeOutput_allOrNothing (settings : Settings) (source : String) :
    AllOrNothing
      (fun s' => ∃ text, (translate settings.options source).result = .ok text ∧
        disk.write s settings.output text.toUTF8 = .ok s')
      settings.view s ((writeOutput disk.system settings source).run s).run := by
  cases htranslate : (translate settings.options source).result with
  | error e =>
      refine ⟨?_, .inr ?_⟩
      all_goals simp [writeOutput, htranslate, failure]
  | ok text =>
      cases hwrite : disk.write s settings.output text.toUTF8 with
      | error e =>
          have hrun := disk.run_write_error s hwrite
          refine ⟨?_, .inr ?_⟩
          all_goals
            simp [-String.toUTF8_eq_toByteArray, writeOutput, htranslate, hrun, hwrite, failure]
      | ok s' =>
          have hrun := disk.run_write_ok s hwrite
          refine ⟨?_, .inl ?_⟩
          all_goals simp [-String.toUTF8_eq_toByteArray, writeOutput, htranslate, hrun, hwrite]

theorem runWith_allOrNothing {parse : List String → Except Stop Arguments} {args : List String}
    {a : Arguments} (h : parse args = .ok a) :
    AllOrNothing (fun s' => ∃ source text, Writes disk s a source text s') a.view s
      ((runWith parse disk.system args).run s).run := by
  cases hsettings : a.settings (disk.contains s a.input) with
  | error e =>
      have hrun : ((runWith parse disk.system args).run s).run =
          (failure "" ("Error: " ++ e.message), s) := by
        simp [runWith, h, hsettings]
      rw [hrun]
      apply allOrNothing_failure
      rintro ⟨s', source, text, hw⟩
      have hok := settings_eq_ok.mpr ⟨hw.input_exists, hw.indent_pos, rfl⟩
      rw [hsettings] at hok
      cases hok
  | ok settings =>
      obtain ⟨hexists, hindent, hfields⟩ := settings_eq_ok.mp hsettings
      obtain ⟨result, hread, hsource⟩ := run_readText disk s settings.input
      cases result with
      | error e =>
          have hrun : ((runWith parse disk.system args).run s).run =
              (failure "" ("Error: " ++ e.message), s) := by
            simp [runWith, h, hsettings, hread]
          rw [hrun]
          apply allOrNothing_failure
          rintro ⟨s', source, text, hw⟩
          subst hfields
          cases (hsource source).mpr hw.input_read
      | ok source =>
          have hrun : ((runWith parse disk.system args).run s).run =
              ((writeOutput disk.system settings source).run s).run := by
            simp [runWith, h, hsettings, hread]
          have hout := writeOutput_allOrNothing disk s settings source
          rw [hrun]
          subst hfields
          apply hout.of_iff
          intro s'
          constructor
          · rintro ⟨text, htext, hs'⟩
            exact ⟨source, text, hexists, hindent, (hsource source).mp rfl, htext, hs'⟩
          · rintro ⟨source', text, hw⟩
            cases (hsource source').mpr hw.input_read
            exact ⟨text, hw.translated, hw.output_written⟩

end Run

/-! ### Runs -/

namespace Stop

variable (stop : Stop)

theorem outcome_view : stop.outcome.view = none := by
  cases stop with
  | help | version | missingPath | unknown | noValue | badValue | unexpectedValue | repeated => rfl

theorem outcome_code : stop.outcome.code = 0 ↔ stop = .help ∨ stop = .version := by
  cases stop with
  | help | version => simp [outcome]
  | missingPath | unknown | noValue | badValue | unexpectedValue | repeated => simp [outcome]

end Stop

/-- A way to make sense of arguments that opens the viewer for no other argument than `--view`. -/
structure ArgumentParser where
  parse : List String → Except Stop Arguments
  view_of_parse {args a} : parse args = .ok a → "--view" ∉ args → a.view = false

def Arguments.parser : ArgumentParser := ⟨Arguments.parse, Command.view_of_parse⟩

/-- A run that can do all it has to do writes the translation of its input, as that was before the
    write, to its output, and has exit code 0. Any other run leaves everything as it is, and has
    another exit code unless it was asked for help or the version. The viewer is opened by none
    without `--view` among its arguments. None of this is up to how the arguments are read. -/
theorem run_writes_all_or_nothing {σ : Type} (disk : Disk σ) (s : σ) (args : List String) :
    run disk.system args = runWith Arguments.parser.parse disk.system args ∧
    ∀ parser : ArgumentParser, ∃ outcome s',
      ((runWith parser.parse disk.system args).run s).run = (outcome, s') ∧
      ("--view" ∉ args → outcome.view = none) ∧
      ((∃ a source text, parser.parse args = .ok a ∧ Writes disk s a source text s' ∧
          disk.Holds s a.input source.toUTF8 ∧ disk.Replaces s a.output text.toUTF8 s' ∧
          outcome.code = 0) ∨
        (¬ ∃ a source text s₁, parser.parse args = .ok a ∧ Writes disk s a source text s₁) ∧
          s' = s ∧ (outcome.code = 0 ↔
            parser.parse args = .error .help ∨ parser.parse args = .error .version)) := by
  refine ⟨rfl, fun parser => ?_⟩
  cases hparse : parser.parse args with
  | error stop =>
      refine ⟨stop.outcome, s, ?_, fun _ => stop.outcome_view, .inr ⟨?_, rfl, ?_⟩⟩
      · simp [runWith, hparse]
      · rintro ⟨a, _, _, _, hok, _⟩
        cases hok
      · simpa using stop.outcome_code
  | ok a =>
      obtain ⟨hview, hdone⟩ := runWith_allOrNothing disk s hparse
      generalize ((runWith parser.parse disk.system args).run s).run = result at hview hdone
      obtain ⟨outcome, s'⟩ := result
      refine ⟨outcome, s', rfl, fun hne => hview (parser.view_of_parse hparse hne), ?_⟩
      rcases hdone with ⟨⟨source, text, hw⟩, hcode⟩ | ⟨hnot, hstate, hcode⟩
      · left
        exact ⟨a, source, text, rfl, hw, disk.holds_of_read hw.input_read,
          disk.replaces_of_write hw.output_written, hcode⟩
      · right
        refine ⟨?_, hstate, by simpa using hcode⟩
        rintro ⟨a', source, text, s₁, ⟨⟩, hw⟩
        exact hnot ⟨s₁, source, text, hw⟩

def FileTree.oneSource : FileTree :=
  FileTree.empty.insert (Place.here.child "a.cpp") (.file "int x = 1;".toUTF8)

/-- The output may take the place of the input. -/
theorem run_writes_all_or_nothing_in_place :
    ∃ outcome t', ((run FileTree.system ["a.cpp", "a.cpp"]).run .oneSource).run = (outcome, t') ∧
      outcome.view = none ∧ outcome.code = 0 ∧
      FileTree.disk.Replaces .oneSource "a.cpp" "x = 1\n".toUTF8 t' := by
  have hparse : Arguments.parser.parse ["a.cpp", "a.cpp"] =
      .ok ⟨"a.cpp", "a.cpp", 4, false, false, 0⟩ := by decide +kernel
  have hread : FileTree.oneSource.read "a.cpp" = .ok "int x = 1;".toUTF8 := by decide +kernel
  have htranslate : (translate ⟨4, false⟩ "int x = 1;").result = .ok "x = 1\n" := by decide +kernel
  have hcode : (((run FileTree.system ["a.cpp", "a.cpp"]).run .oneSource).run).1.code = 0 := by
    decide +kernel
  obtain ⟨hparsed, hall⟩ :=
    run_writes_all_or_nothing FileTree.disk .oneSource ["a.cpp", "a.cpp"]
  obtain ⟨outcome, t', hrun, hview, hdone⟩ := hall Arguments.parser
  rw [← hparsed, FileTree.system_disk] at hrun
  rw [hrun] at hcode
  refine ⟨outcome, t', hrun, hview (by decide), hcode, ?_⟩
  rcases hdone with ⟨a, source, text, ha, hw, _, hreplaces, _⟩ | ⟨_, _, hzero⟩
  · cases hparse.symm.trans ha
    have hsource : "int x = 1;" = source := by
      rw [← String.toByteArray_inj]
      exact Except.ok.inj (hread.symm.trans hw.input_read)
    subst hsource
    have htext : "x = 1\n" = text := Except.ok.inj (htranslate.symm.trans hw.translated)
    rwa [htext]
  · rw [hparse] at hzero
    simpa using hzero.mp hcode

end CppToPython.Command
