import Mathlib.Data.List.Induction
import UtilityLayout.Proofs.CommandLine.Names

/-! What a command line gives, occurrence by occurrence. The accepted command lines are the spellings of lists of
occurrences, and the settings are what every option was given last. -/
namespace UtilityLayout

namespace CommandLine

inductive Assignment where
  | transport (t : Given Transport)
  | port (n : Given Int)
  | directory (text : String)
  | debug
  deriving DecidableEq, Repr

namespace Assignment

def option : Assignment → Opt
  | transport _ => .transport
  | port _ => .port
  | directory _ => .themesDirectory
  | debug => .debug

def transport? : Assignment → Option (Given Transport)
  | transport t => some t
  | _ => none

def port? : Assignment → Option (Given Int)
  | port n => some n
  | _ => none

def directory? : Assignment → Option String
  | directory text => some text
  | _ => none

end Assignment

inductive Assigns : Option String → Assignment → Prop where
  | transport (t : Transport) : Assigns (some t.name) (.transport (.value t))
  | noTransport : Assigns (some "--") (.transport .nothing)
  | port {text : String} {n : Int} (reads : Numeral.whole 10 text = .ok n) : Assigns (some text) (.port (.value n))
  | noPort : Assigns (some "--") (.port .nothing)
  | directory (text : String) : Assigns (some text) (.directory text)
  | debug : Assigns none .debug

/- Arguments that spell assignments. A value that stands apart from its option does not look like an option. -/
inductive Reads : List String → List Assignment → Prop where
  | done : Reads [] []
  | joined {name : List Char} {value? : Option String} {a : Assignment} {arguments : List String}
      {given : List Assignment} (short : Abbreviates name a.option) (assigns : Assigns value? a)
      (others : Reads arguments given) : Reads (written name value? :: arguments) (a :: given)
  | apart {name : List Char} {value : String} {a : Assignment} {arguments : List String} {given : List Assignment}
      (short : Abbreviates name a.option) (assigns : Assigns (some value) a) (plain : classify value = .ok .plain)
      (others : Reads arguments given) : Reads (written name none :: value :: arguments) (a :: given)

def directoryGiven (text : String) : Given Path :=
  if text = "--" then .nothing else .value (.ofText text)

def assign (s : Settings) : Assignment → Settings
  | .transport t => { s with transport := t }
  | .port n => { s with port := n }
  | .directory text => { s with themesDirectory? := some (directoryGiven text) }
  | .debug => { s with debug := true }

def settled (given : List Assignment) : Settings :=
  given.foldl assign {}

def occurring (o : Opt) (given : List Assignment) : List Assignment :=
  given.filter fun a => a.option = o

def last? (o : Opt) (given : List Assignment) : Option Assignment :=
  (occurring o given).getLast?

def lastTransport (given : List Assignment) : Given Transport :=
  ((last? .transport given).bind Assignment.transport?).getD (.value .stdio)

def lastPort (given : List Assignment) : Given Int :=
  ((last? .port given).bind Assignment.port?).getD (.value 8000)

def lastDirectory? (given : List Assignment) : Option String :=
  (last? .themesDirectory given).bind Assignment.directory?

variable {s t : Settings} {o : Opt} {a : Assignment} {name : List Char} {argument value : String}
  {value? : Option String}

theorem lastSnoc (o : Opt) (given : List Assignment) (a : Assignment) :
    last? o (given ++ [a]) = if a.option = o then some a else last? o given := by
  unfold last? occurring
  rw [List.filter_append, List.filter_cons]
  by_cases same : a.option = o
  · simp [same]
  · simp [same]

theorem settledSnoc (given : List Assignment) (a : Assignment) : settled (given ++ [a]) = assign (settled given) a :=
  List.foldl_append

theorem settledLast (given : List Assignment) :
    settled given = ⟨lastTransport given, lastPort given, (lastDirectory? given).map directoryGiven,
      (last? .debug given).isSome⟩ := by
  induction given using List.reverseRecOn with
  | nil => rfl
  | append_singleton given a ih =>
    rw [settledSnoc, ih]
    cases a <;> simp [assign, lastTransport, lastPort, lastDirectory?, lastSnoc, Assignment.option,
      Assignment.transport?, Assignment.port?, Assignment.directory?]

theorem settledOccurring {given others : List Assignment} (same : ∀ o, occurring o others = occurring o given) :
    settled others = settled given := by
  simp only [settledLast, lastTransport, lastPort, lastDirectory?, last?, same]

theorem givenOk {α : Type} {read : String → Except UsageError α} {g : Given α} :
    CommandLine.given read value = .ok g ↔
      value = "--" ∧ g = .nothing ∨ value ≠ "--" ∧ ∃ v, read value = .ok v ∧ g = .value v := by
  unfold CommandLine.given
  by_cases hyphens : value = "--"
  · simp [hyphens, eq_comm]
  · cases read value with
    | error cause => simp [hyphens, mapErrorError, Except.map]
    | ok v => simp [hyphens, mapErrorOk, Except.map, eq_comm]

theorem readTransportOk {t : Transport} : readTransport value = .ok t ↔ value = t.name := by
  constructor
  · intro read
    unfold readTransport at read
    split at read
    · rename_i found
      cases read
      have same : t.name = value := by simpa using List.find?_some found
      exact same.symm
    · cases read
  · rintro rfl
    cases t <;> rfl

theorem readPortOk {n : Int} : readPort value = .ok n ↔ Numeral.whole 10 value = .ok n := by
  unfold readPort
  cases Numeral.whole 10 value with
  | error cause => simp [mapErrorError]
  | ok m => simp [mapErrorOk]

theorem assignsOfSetValue (takes : o.takesValue) (sets : o.setValue s value = .ok t) :
    ∃ a : Assignment, a.option = o ∧ Assigns (some value) a ∧ t = assign s a := by
  cases o with
  | help | debug => cases takes
  | transport =>
    obtain ⟨g, gives, rfl⟩ := mapOk sets
    rcases givenOk.mp gives with ⟨rfl, rfl⟩ | ⟨_, v, read, rfl⟩
    · exact ⟨.transport .nothing, rfl, .noTransport, rfl⟩
    · obtain rfl := readTransportOk.mp read
      exact ⟨.transport (.value v), rfl, .transport v, rfl⟩
  | port =>
    obtain ⟨g, gives, rfl⟩ := mapOk sets
    rcases givenOk.mp gives with ⟨rfl, rfl⟩ | ⟨_, n, read, rfl⟩
    · exact ⟨.port .nothing, rfl, .noPort, rfl⟩
    · exact ⟨.port (.value n), rfl, .port (readPortOk.mp read), rfl⟩
  | themesDirectory =>
    obtain ⟨g, gives, rfl⟩ := mapOk sets
    refine ⟨.directory value, rfl, .directory value, ?_⟩
    rcases givenOk.mp gives with ⟨rfl, rfl⟩ | ⟨hyphens, path, read, rfl⟩
    · rfl
    · cases read
      rw [assign, directoryGiven, if_neg hyphens]

theorem assignsTakes (assigns : Assigns (some value) a) : a.option.takesValue = true := by
  cases assigns <;> rfl

theorem setValueAssigns (assigns : Assigns (some value) a) : a.option.setValue s value = .ok (assign s a) := by
  cases assigns with
  | transport t =>
    have hyphens : t.name ≠ "--" := by cases t <;> decide
    have read := givenOk.mpr (.inr ⟨hyphens, t, readTransportOk.mpr rfl, rfl⟩)
    exact congrArg (Except.map _) read
  | noTransport => rfl
  | port reads =>
    have hyphens : value ≠ "--" := by
      rintro rfl
      cases reads
    have read := givenOk.mpr (.inr ⟨hyphens, _, readPortOk.mpr reads, rfl⟩)
    exact congrArg (Except.map _) read
  | noPort => rfl
  | directory =>
    have read : CommandLine.given (fun text => .ok (Path.ofText text)) value = .ok (directoryGiven value) := by
      by_cases hyphens : value = "--"
      · exact givenOk.mpr (.inl ⟨hyphens, if_pos hyphens⟩)
      · exact givenOk.mpr (.inr ⟨hyphens, _, rfl, if_neg hyphens⟩)
    exact congrArg (Except.map _) read

theorem writtenLong (short : Abbreviates name o) (value? : Option String) : written name value? ≠ "--" := by
  obtain ⟨c, rest, rfl⟩ := nameLong short
  cases value? <;> simp [written, ← String.toList_inj]

theorem classifyAllPlain (plain : argument ≠ "--") {word : Word} (read : classify argument = .ok word)
    {arguments : List String} {words : List (String × Word)} (others : classifyAll arguments = .ok words) :
    classifyAll (argument :: arguments) = .ok ((argument, word) :: words) := by
  rw [classifyAll, if_neg plain, read, okBind, others, okBind]

theorem plainLong (plain : classify value = .ok .plain) : value ≠ "--" := by
  rintro rfl
  cases plain

theorem applyJoined (assigns : Assigns value? a) (argument : String) (words : List (String × Word)) :
    apply s [] ((argument, .named a.option value?) :: words) = apply (assign s a) [] words := by
  cases value? with
  | none =>
    cases assigns
    rw [apply.eq_def]
    rfl
  | some value =>
    rw [apply]
    simp only [assignsTakes assigns, if_true, setValueAssigns assigns, okBind]

theorem applyApart (assigns : Assigns (some value) a) (argument : String) (words : List (String × Word)) :
    apply s [] ((argument, .named a.option none) :: (value, .plain) :: words) = apply (assign s a) [] words := by
  rw [apply]
  simp only [assignsTakes assigns, if_true, setValueAssigns assigns, okBind]

theorem applyReads {arguments : List String} {given : List Assignment} (reads : Reads arguments given) :
    ∃ words, classifyAll arguments = .ok words ∧ ∀ s, apply s [] words = .ok (given.foldl assign s, []) := by
  induction reads with
  | done => exact ⟨[], rfl, fun _ => rfl⟩
  | joined short assigns _ ih =>
    obtain ⟨words, classified, applied⟩ := ih
    refine ⟨_, classifyAllPlain (writtenLong short _) (classifyWritten short _) classified, fun s => ?_⟩
    rw [applyJoined assigns, applied, List.foldl_cons]
  | apart short assigns plain _ ih =>
    obtain ⟨words, classified, applied⟩ := ih
    have value := classifyAllPlain (plainLong plain) plain classified
    refine ⟨_, classifyAllPlain (writtenLong short _) (classifyWritten short _) value, fun s => ?_⟩
    rw [applyApart assigns, applied, List.foldl_cons]

theorem parseReads {arguments : List String} {given : List Assignment} (reads : Reads arguments given) :
    parse arguments = .ok (settled given) := by
  obtain ⟨words, classified, applied⟩ := applyReads reads
  rw [parse, classified, mapErrorOk, okBind, applied]
  rfl

theorem untakenStays {words : List (String × Word)} {untaken left : List String}
    (applied : apply s untaken words = .ok (t, left)) : untaken <+: left := by
  fun_induction apply s untaken words with
  | case1 =>
    cases applied
    exact List.prefix_refl _
  | case2 _ _ _ _ ih | case3 _ _ _ _ ih | case4 _ _ _ _ ih => exact (List.prefix_append _ _).trans (ih applied)
  | case6 _ _ _ _ _ _ _ ih | case8 _ _ _ _ _ _ _ ih | case10 _ _ _ _ _ _ ih =>
    obtain ⟨u, _, applied⟩ := bindOk applied
    exact ih u applied
  | case5 | case7 | case9 => cases applied

theorem classifyAllNamed {arguments : List String} {words : List (String × Word)} {word : Word}
    (classified : classifyAll arguments = .ok ((argument, word) :: words)) (other : word ≠ .separator) :
    ∃ rest, arguments = argument :: rest ∧ classify argument = .ok word ∧ classifyAll rest = .ok words := by
  cases arguments with
  | nil => cases classified
  | cons first rest =>
    rw [classifyAll] at classified
    split at classified
    · cases classified
      contradiction
    · obtain ⟨_, here, classified⟩ := bindOk classified
      obtain ⟨_, others, classified⟩ := bindOk classified
      cases classified
      exact ⟨rest, rfl, here, others⟩

theorem setFlagOk (bare : o.takesValue = false) (sets : o.setFlag s = .ok t) :
    ∃ a : Assignment, a.option = o ∧ Assigns none a ∧ t = assign s a := by
  cases o with
  | transport | port | themesDirectory => cases bare
  | help => cases sets
  | debug =>
    cases sets
    exact ⟨.debug, rfl, .debug, rfl⟩

theorem writtenAssigned (option : a.option = o) (read : classify argument = .ok (.named o value?)) :
    ∃ name, Abbreviates name a.option ∧ argument = written name value? := by
  rw [option]
  refine writtenClassified ?_ read
  rintro rfl
  cases a <;> cases option

theorem readsOfApply {words : List (String × Word)} {untaken : List String}
    (applied : apply s untaken words = .ok (t, [])) {arguments : List String}
    (classified : classifyAll arguments = .ok words) :
    ∃ given, Reads arguments given ∧ t = given.foldl assign s := by
  fun_induction apply s untaken words generalizing arguments with
  | case1 =>
    cases applied
    cases arguments with
    | nil => exact ⟨[], .done, rfl⟩
    | cons argument rest =>
      rw [classifyAll] at classified
      split at classified
      · cases classified
      · obtain ⟨_, _, classified⟩ := bindOk classified
        obtain ⟨_, _, classified⟩ := bindOk classified
        cases classified
  | case2 | case3 | case4 => simpa using untakenStays applied
  | case6 s _ argument _ o value takes ih =>
    obtain ⟨u, sets, applied⟩ := bindOk applied
    obtain ⟨rest, rfl, read, others⟩ := classifyAllNamed classified nofun
    obtain ⟨a, option, assigns, rfl⟩ := assignsOfSetValue takes sets
    obtain ⟨name, short, rfl⟩ := writtenAssigned option read
    obtain ⟨given, reads, rfl⟩ := ih _ applied others
    exact ⟨a :: given, .joined short assigns reads, rfl⟩
  | case8 s _ argument o takes value _ ih =>
    obtain ⟨u, sets, applied⟩ := bindOk applied
    obtain ⟨rest, rfl, read, others⟩ := classifyAllNamed classified nofun
    obtain ⟨rest, rfl, plain, others⟩ := classifyAllNamed others nofun
    obtain ⟨a, option, assigns, rfl⟩ := assignsOfSetValue takes sets
    obtain ⟨name, short, rfl⟩ := writtenAssigned option read
    obtain ⟨given, reads, rfl⟩ := ih _ applied others
    exact ⟨a :: given, .apart short assigns plain reads, rfl⟩
  | case10 s _ argument _ o bare ih =>
    obtain ⟨u, sets, applied⟩ := bindOk applied
    obtain ⟨rest, rfl, read, others⟩ := classifyAllNamed classified nofun
    obtain ⟨a, option, assigns, rfl⟩ := setFlagOk (Bool.eq_false_iff.mpr bare) sets
    obtain ⟨name, short, rfl⟩ := writtenAssigned option read
    obtain ⟨given, reads, rfl⟩ := ih _ applied others
    exact ⟨a :: given, .joined short assigns reads, rfl⟩
  | case5 | case7 | case9 => cases applied

theorem readsOfParse {arguments : List String} (parses : parse arguments = .ok s) :
    ∃ given, Reads arguments given ∧ s = settled given := by
  obtain ⟨words, classified, parses⟩ := bindOk parses
  obtain ⟨⟨t, untaken⟩, applied, parses⟩ := bindOk parses
  have whole := okOfMapError classified
  cases untaken with
  | nil =>
    cases parses
    exact readsOfApply applied whole
  | cons => cases parses

structure Occurrence where
  name : List Char
  value? : Option String
  assignment : Assignment
  short : Abbreviates name assignment.option
  assigns : Assigns value? assignment

namespace Occurrence

def text (c : Occurrence) : String :=
  written c.name c.value?

end Occurrence

theorem readsOccurrences (occurrences : List Occurrence) :
    Reads (occurrences.map Occurrence.text) (occurrences.map Occurrence.assignment) := by
  induction occurrences with
  | nil => exact .done
  | cons c rest ih => exact .joined c.short c.assigns ih

theorem lastGiven (occurrences : List Occurrence) :
    ∃ s, parse (occurrences.map Occurrence.text) = .ok s ∧
      s.transport = lastTransport (occurrences.map Occurrence.assignment) ∧
      s.port = lastPort (occurrences.map Occurrence.assignment) ∧
      s.themesDirectory? = (lastDirectory? (occurrences.map Occurrence.assignment)).map directoryGiven ∧
      s.debug = (last? .debug (occurrences.map Occurrence.assignment)).isSome ∧
      ∀ others : List Occurrence,
        (∀ o, occurring o (others.map Occurrence.assignment) = occurring o (occurrences.map Occurrence.assignment)) →
        parse (others.map Occurrence.text) = .ok s := by
  have all := settledLast (occurrences.map Occurrence.assignment)
  have parses := parseReads (readsOccurrences occurrences)
  refine ⟨settled (occurrences.map Occurrence.assignment), parses, ?_, ?_, ?_, ?_, ?_⟩
  · rw [all]
  · rw [all]
  · rw [all]
  · rw [all]
  · intro others same
    rw [parseReads (readsOccurrences others), settledOccurring same]

theorem lastGivenPorts :
    ∃ s, parse ["--port=1", "--th=a=b", "--po= 2_0", "--themes-dir=-h", "--deb"] = .ok s ∧
      s.transport = .value .stdio ∧ s.port = .value 20 ∧ s.themesDirectory? = some (.value (.ofText "-h")) ∧
      s.debug = true ∧
      parse ["--th=a=b", "--deb", "--themes-dir=-h", "--port=1", "--port=20"] = .ok s := by
  let first : Occurrence := ⟨Opt.port.long.toList, some "1", .port (.value 1), fullName .port, .port rfl⟩
  let short : Occurrence := ⟨"--th".toList, some "a=b", .directory "a=b", abbreviatesOfOne rfl, .directory "a=b"⟩
  let spaced : Occurrence := ⟨"--po".toList, some " 2_0", .port (.value 20), abbreviatesOfOne rfl, .port rfl⟩
  let full : Occurrence :=
    ⟨Opt.themesDirectory.long.toList, some "-h", .directory "-h", fullName .themesDirectory, .directory "-h"⟩
  let flag : Occurrence := ⟨"--deb".toList, none, .debug, abbreviatesOfOne rfl, .debug⟩
  let plain : Occurrence := ⟨Opt.port.long.toList, some "20", .port (.value 20), fullName .port, .port rfl⟩
  obtain ⟨s, parses, transport, port, directory, debug, independent⟩ := lastGiven [first, short, spaced, full, flag]
  have reordered := independent [short, flag, full, first, plain] (by intro o; cases o <;> rfl)
  exact ⟨s, parses, transport, port, directory, debug, reordered⟩

theorem hyphensNoDirectory :
    ¬∃ s, parse ["--themes-dir=--"] = .ok s ∧ s.themesDirectory? = some (.value (.ofText "--")) := by
  rintro ⟨s, parses, same⟩
  have reads : Reads [written Opt.themesDirectory.long.toList (some "--")] [.directory "--"] :=
    .joined (fullName .themesDirectory) (.directory "--") .done
  have all : parse ["--themes-dir=--"] = .ok (settled [.directory "--"]) := parseReads reads
  rw [all] at parses
  cases parses
  cases same

end CommandLine
end UtilityLayout
