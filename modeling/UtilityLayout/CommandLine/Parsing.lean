import UtilityLayout.CommandLine.Basic
/-! Arguments to settings. Every argument is classified first, so that an ambiguous one is refused before
anything else; then options act from left to right, and the first that fails or asks for help ends it.
Arguments that nobody takes are collected and refused at the end. After two hyphens alone nothing is an
option. -/
namespace UtilityLayout.CommandLine

inductive Word where
  | plain
  | unknown
  | separator
  | named (o : Opt) (value? : Option String)
  | helpWith (attached : List Char)
  deriving DecidableEq, Repr

def shortHelp : List Char := ['-', 'h']

def named? (name : List Char) : Option Opt :=
  if name == shortHelp then some .help else Opt.all.find? fun o => o.long.toList == name

def abbreviated (start : List Char) : List Opt :=
  Opt.all.filter fun o => start.isPrefixOf o.long.toList

def assignment (text : List Char) : List Char × Option String :=
  let name := text.takeWhile (· != '=')
  match text.drop name.length with
  | _ :: value => (name, some (String.ofList value))
  | [] => (name, none)

def isNegativeNumber (text : List Char) : Bool :=
  match Numeral.dropFinalNewline text with
  | '-' :: rest =>
    match rest.dropWhile Text.isDigit with
    | [] => !rest.isEmpty
    | '.' :: fraction => !fraction.isEmpty && fraction.all Text.isDigit
    | _ => false
  | _ => false

def classify (argument : String) : Except UsageError Word :=
  let text := argument.toList
  let (name, value?) := assignment text
  let other := if isNegativeNumber text || text.contains ' ' then Word.plain else .unknown
  match text with
  | '-' :: second :: rest =>
    match named? text, value?.bind fun _ => named? name with
    | some o, _ => .ok (.named o none)
    | none, some o => .ok (if name == shortHelp then .helpWith rest.tail else .named o value?)
    | none, none =>
      if second = '-' then
        match abbreviated name with
        | [] => .ok other
        | [o] => .ok (.named o value?)
        | candidates => .error (.ambiguous argument candidates)
      else if second = 'h' then .ok (.helpWith rest)
      else .ok other
  | _ => .ok .plain

def classifyAll : List String → Except UsageError (List (String × Word))
  | [] => .ok []
  | argument :: rest =>
    if argument = "--" then .ok ((argument, .separator) :: rest.map fun a => (a, .plain))
    else do
      let word ← classify argument
      let words ← classifyAll rest
      .ok ((argument, word) :: words)

/- What the short option for help comes to with a text attached, which may do no more than repeat its
letter. -/
def helpAttached : List Char → Exit
  | ['h'] => .help
  | 'h' :: rest => helpAttached rest
  | text => .usage (.unwantedValue .help (String.ofList text))

def given (read : String → Except UsageError α) (value : String) : Except Exit (Given α) :=
  if value = "--" then .ok .nothing else ((read value).map .value).mapError .usage

def readTransport (value : String) : Except UsageError Transport :=
  match Transport.ofName? value with
  | some t => .ok t
  | none => .error (.noTransport value)

def readPort (value : String) : Except UsageError Int :=
  (Numeral.whole 10 value).mapError fun _ => .noNumber value

def Opt.setValue (s : Settings) (value : String) : Opt → Except Exit Settings
  | transport => (given readTransport value).map fun transport => { s with transport }
  | port => (given readPort value).map fun port => { s with port }
  | themesDirectory =>
    (given (fun text => .ok (Path.ofText text)) value).map fun path =>
      { s with themesDirectory? := some path }
  | help | debug => .ok s

def Opt.setFlag (s : Settings) : Opt → Except Exit Settings
  | help => .error .help
  | debug => .ok { s with debug := true }
  | transport | port | themesDirectory => .ok s

def apply (s : Settings) (untaken : List String) :
    List (String × Word) → Except Exit (Settings × List String)
  | [] => .ok (s, untaken)
  | (argument, word) :: rest =>
    match word with
    | .plain | .unknown | .separator => apply s (untaken ++ [argument]) rest
    | .helpWith text => .error (helpAttached text)
    | .named o (some value) =>
      if o.takesValue then do
        let s ← o.setValue s value
        apply s untaken rest
      else .error (.usage (.unwantedValue o value))
    | .named o none =>
      if o.takesValue then
        match rest with
        | (value, .plain) :: rest => do
          let s ← o.setValue s value
          apply s untaken rest
        | _ => .error (.usage (.noValue o))
      else do
        let s ← o.setFlag s
        apply s untaken rest

def parse (arguments : List String) : Except Exit Settings := do
  let words ← (classifyAll arguments).mapError .usage
  let (settings, untaken) ← apply {} [] words
  if untaken.isEmpty then .ok settings else .error (.usage (.unrecognized untaken))

end UtilityLayout.CommandLine
