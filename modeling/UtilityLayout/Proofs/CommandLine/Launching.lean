import UtilityLayout.Launch
import UtilityLayout.Proofs.CommandLine.Reading
import UtilityLayout.Proofs.Files.Resolution

/-! Where a launch finds the themes of the project, and what it runs. The last directory of the command line goes before
the environment, as an absolute path that names the same directory from everywhere. -/
namespace UtilityLayout.Launch
open CommandLine UtilityLayout.Path

/- A directory as the command line selects it: by the one list of names that its parts come to. The text left in the
environment selects it again, given last on whatever command line and in whatever working directory. -/
structure Directed (workingDirectory : Location) (text : String) (launch : Launch) : Prop where
  selected : ∃ names, (∀ other, Resolves (partsFrom workingDirectory text) other ↔ other = names) ∧
    launch.environment? = some (rooted names) ∧ launch.themesDirectory = ⟨.root, names⟩
  again : ∀ path, launch.environment? = some path →
    Reads [Opt.themesDirectory.long, path] [.directory path] ∧
    ∀ (elsewhere : Location) (environment? : Option String) (arguments : List String) (given : List Assignment),
      Reads arguments given → lastDirectory? given = some path →
      ∃ other, ofArguments elsewhere environment? arguments = .ok other ∧ other.environment? = launch.environment? ∧
        other.themesDirectory = launch.themesDirectory

structure Selects (workingDirectory : Location) (environment? : Option String) (given : List Assignment)
    (launch : Launch) : Prop where
  directory : ∀ text, lastDirectory? given = some text → Directed workingDirectory text launch
  unchanged : lastDirectory? given = none → launch.environment? = environment?
  fromEnvironment : lastDirectory? given = none → ∀ text, environment? = some text → text ≠ "" →
    launch.themesDirectory = .ofText text
  fallback : lastDirectory? given = none → environment? = none ∨ environment? = some "" →
    launch.themesDirectory = ⟨.root, workingDirectory ++ ["themes"]⟩
  transport : ∀ t, lastTransport given = .value t → launch.transport = t
  noTransport : lastTransport given = .nothing → launch.transport = .http
  port : launch.port = lastPort given

variable {workingDirectory : Location} {environment? : Option String} {arguments : List String}
  {given : List Assignment} {launch : Launch} {names : List String}

theorem launchReads (workingDirectory : Location) (environment? : Option String) (reads : Reads arguments given) :
    ofArguments workingDirectory environment? arguments =
      (directory? ((lastDirectory? given).map directoryGiven)).map
        (ofSettings workingDirectory environment? (settled given)) := by
  have directory : (settled given).themesDirectory? = (lastDirectory? given).map directoryGiven := by
    rw [settledLast]
  rw [ofArguments, parseReads reads, mapErrorOk, okBind, directory]
  rfl

theorem readsOfLaunch (accepted : ofArguments workingDirectory environment? arguments = .ok launch) :
    ∃ given, Reads arguments given := by
  obtain ⟨settings, parses, _⟩ := bindOk accepted
  obtain ⟨given, reads, _⟩ := readsOfParse (okOfMapError parses)
  exact ⟨given, reads⟩

theorem directoryOk {text : String} {path? : Option Path}
    (found : directory? (some (directoryGiven text)) = .ok path?) :
    path? = some (.ofText text) ∧ hasNull (.ofText text) = false := by
  unfold directoryGiven at found
  split at found
  · cases found
  · rw [directory?] at found
    split at found
    · cases found
    · rename_i clean
      cases found
      exact ⟨rfl, Bool.eq_false_iff.mpr clean⟩

theorem cleanParts {path : Path} (clean : hasNull path = false) : ∀ part ∈ path.parts, '\x00' ∉ part.toList := by
  intro part inside null
  have none := List.any_eq_false.mp clean part inside
  exact none (List.contains_iff_mem.mpr null)

theorem rootedNotEmpty (names : List String) : rooted names ≠ "" := by
  intro empty
  have letters := rootedLetters names
  rw [empty] at letters
  cases letters

theorem rootedNotHyphens (names : List String) : rooted names ≠ "--" := by
  intro hyphens
  have letters := rootedLetters names
  rw [hyphens] at letters
  cases letters

theorem fromEnvironment {text : String} (solid : text ≠ "") :
    directoryFrom workingDirectory (some text) = .ofText text := by
  rw [directoryFrom, if_neg]
  simpa using solid

theorem settingsRooted (environment? : Option String) {path : Path}
    (absolute : path.absolute workingDirectory = ⟨.root, names⟩)
    (entries : ∀ part ∈ names, EntryName part) (s : Settings) :
    (ofSettings workingDirectory environment? s (some path)).environment? = some (rooted names) ∧
      (ofSettings workingDirectory environment? s (some path)).themesDirectory = ⟨.root, names⟩ := by
  have environment : environmentAfter workingDirectory environment? (some path) = some (rooted names) := by
    rw [environmentAfter, absolute, textRooted]
  rw [ofSettings, environment, fromEnvironment (rootedNotEmpty names), ofTextRooted entries]
  exact ⟨rfl, rfl⟩

theorem launchRooted (entries : ∀ part ∈ names, EntryName part) (reads : Reads arguments given)
    (last : lastDirectory? given = some (rooted names)) :
    ∃ launch, ofArguments workingDirectory environment? arguments = .ok launch ∧
      launch.environment? = some (rooted names) ∧ launch.themesDirectory = ⟨.root, names⟩ := by
  have clean : hasNull (.ofText (rooted names)) = false := by
    rw [ofTextRooted entries]
    refine List.any_eq_false.mpr fun part inside null => ?_
    exact (entries part inside).noNull (List.contains_iff_mem.mp null)
  have found : directory? (some (directoryGiven (rooted names))) = .ok (some (.ofText (rooted names))) := by
    rw [directoryGiven, if_neg (rootedNotHyphens names), directory?, clean]
    rfl
  have launches := launchReads workingDirectory environment? reads
  rw [last, Option.map_some, found] at launches
  have absolute := absoluteRooted entries workingDirectory
  exact ⟨_, launches, settingsRooted environment? absolute entries (settled given)⟩

theorem readsRooted (names : List String) :
    Reads [Opt.themesDirectory.long, rooted names] [.directory (rooted names)] := by
  have plain : classify (rooted names) = .ok .plain := by
    unfold classify
    rw [rootedLetters]
    rfl
  exact .apart (fullName .themesDirectory) (.directory (rooted names)) plain .done

theorem directedOf (working : ∀ part ∈ workingDirectory, EntryName part) {text : String}
    (accepted : ofArguments workingDirectory environment? arguments = .ok launch) (reads : Reads arguments given)
    (last : lastDirectory? given = some text) : Directed workingDirectory text launch := by
  rw [launchReads _ _ reads, last, Option.map_some] at accepted
  obtain ⟨path?, found, rfl⟩ := mapOk accepted
  obtain ⟨rfl, clean⟩ := directoryOk found
  obtain ⟨names, resolves⟩ : ∃ names, Resolves (partsFrom workingDirectory text) names := ⟨_, resolvesIff.mpr rfl⟩
  have entries := entryNames working (cleanParts clean) resolves
  have absolute := (absoluteResolves (fun part inside => (working part inside).names) text).mp resolves
  obtain ⟨environment, directory⟩ := settingsRooted environment? absolute entries (settled given)
  constructor
  case selected =>
    refine ⟨names, fun other => ?_, environment, directory⟩
    rw [resolvesIff, resolvesIff.mp resolves]
  case again =>
    intro path same
    rw [environment] at same
    cases same
    refine ⟨readsRooted names, fun elsewhere _ _ _ reads last => ?_⟩
    rw [environment, directory]
    exact launchRooted entries reads last

/- What an accepted command line selects: the last directory, resolved from the working directory, before the
environment and the default; and the last transport and port. -/
theorem launchSelects (working : ∀ part ∈ workingDirectory, EntryName part)
    (accepted : ofArguments workingDirectory environment? arguments = .ok launch) :
    (∃ given, Reads arguments given) ∧
      ∀ given, Reads arguments given → Selects workingDirectory environment? given launch := by
  refine ⟨readsOfLaunch accepted, fun given reads => ?_⟩
  have whole := accepted
  rw [launchReads _ _ reads] at whole
  obtain ⟨path?, found, rfl⟩ := mapOk whole
  have absent (none : lastDirectory? given = none) : path? = Option.none := by
    rw [none] at found
    cases found
    rfl
  have transport : (ofSettings workingDirectory environment? (settled given) path?).transport =
      transportOf (lastTransport given) := by
    rw [ofSettings, settledLast]
  constructor
  case directory => exact fun text last => directedOf working accepted reads last
  case unchanged =>
    intro none
    rw [absent none]
    rfl
  case fromEnvironment =>
    intro none text environment solid
    rw [absent none, environment]
    exact fromEnvironment solid
  case fallback =>
    intro none unset
    rw [absent none]
    rcases unset with rfl | rfl <;> rfl
  case transport =>
    intro t last
    rw [transport, last]
    cases t <;> rfl
  case noTransport =>
    intro last
    rw [transport, last]
    rfl
  case port => rw [ofSettings, settledLast]

theorem launchSelectsAbove :
    ∃ launch, ofArguments ["srv", "app"] (some "old") ["--themes-dir=a", "--tr=http", "--themes-dir", "../x//./y/"] =
        .ok launch ∧
      launch.environment? = some "/srv/x/y" ∧
      Selects ["srv", "app"] (some "old")
        [.directory "a", .transport (.value .http), .directory "../x//./y/"] launch ∧
      ∃ other, ofArguments ["tmp"] none ["--themes-dir", "/srv/x/y"] = .ok other ∧
        other.themesDirectory = launch.themesDirectory := by
  have working : ∀ part ∈ ["srv", "app"], EntryName part := by
    intro part inside
    simp only [List.mem_cons, List.not_mem_nil, or_false] at inside
    rcases inside with rfl | rfl <;> exact ⟨⟨by decide, by decide⟩, by decide, by decide⟩
  have reads : Reads
      [written Opt.themesDirectory.long.toList (some "a"), written "--tr".toList (some "http"),
        written Opt.themesDirectory.long.toList none, "../x//./y/"]
      [.directory "a", .transport (.value .http), .directory "../x//./y/"] :=
    .joined (fullName .themesDirectory) (.directory "a")
      (.joined (abbreviatesOfOne rfl) (.transport .http)
        (.apart (fullName .themesDirectory) (.directory "../x//./y/") rfl .done))
  let launch : Launch := ⟨.http, .value 8000, .info, some "/srv/x/y", ⟨.root, ["srv", "x", "y"]⟩⟩
  have accepted : ofArguments ["srv", "app"] (some "old")
      ["--themes-dir=a", "--tr=http", "--themes-dir", "../x//./y/"] = .ok launch :=
    (launchReads ["srv", "app"] (some "old") reads).trans rfl
  have selects := (launchSelects working accepted).2 _ reads
  obtain ⟨written, again⟩ := (selects.directory "../x//./y/" rfl).again "/srv/x/y" rfl
  obtain ⟨other, launches, _, same⟩ := again ["tmp"] none _ _ written rfl
  exact ⟨launch, accepted, rfl, selects, other, launches, same⟩

theorem transportNotSelected :
    ¬∀ s launch, parse ["--transport=--"] = .ok s → ofArguments [] none ["--transport=--"] = .ok launch →
      s.transport = .value launch.transport := by
  intro all
  have reads : Reads [written Opt.transport.long.toList (some "--")] [.transport .nothing] :=
    .joined (fullName .transport) .noTransport .done
  cases all _ _ (parseReads reads) (launchReads [] none reads)

end UtilityLayout.Launch
