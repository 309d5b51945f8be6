import UtilityLayout.Datum.Basic
import UtilityLayout.Numeral.Word
import UtilityLayout.Table
import UtilityLayout.Utility.Basic
/-! Typed fields read from data. Numbers may be given as truth values, and where only a number is wanted
also as text; texts are made from nothing else but the bytes that encode them. A field that is present but
does not fit fails; fields that nobody asks for are ignored. -/
namespace UtilityLayout.Datum

def decoded? (content : List UInt8) : Option String :=
  String.fromUTF8? ⟨content.toArray⟩

def text? : Datum → Option Text
  | scalar (.text t) => some t
  | scalar (.bytes content) => (decoded? content).map Text.ofString
  | _ => none

def number? : Datum → Option Binary64
  | scalar (.bool b) => some (.ofBool b)
  | scalar (.int i) => Binary64.ofInt? i
  | scalar (.float x) => some x
  | scalar (.text t) => t.chars?.bind Numeral.typed?
  | scalar (.bytes content) => (decoded? content).bind fun s => Numeral.typed? s.toList
  | _ => none

/- A text stays a literal, also where it spells a number; bytes are a number if they spell one. -/
def layoutValue? : Datum → Option LayoutValue
  | scalar (.text t) => some (.literal t)
  | datum =>
    match datum.number? with
    | some x => some (.number x)
    | none => datum.text?.map .literal

def entries? : Datum → Option Entries
  | map entries => some entries
  | _ => none

def optional (entries : Entries) (key : String) (read : Datum → Option α) (default : α) : Option α :=
  match find? entries key with
  | some datum => read datum
  | none => some default

def required (entries : Entries) (key : String) (read : Datum → Option α) : Option α :=
  (find? entries key).bind read

def table? (value? : Datum → Option α) (datum : Datum) : Option (Table Text α) := do
  let entries ← datum.entries?
  let pairs ← entries.mapM fun (key, value) => do
    some (← (scalar key).text?, ← value? value)
  some (Table.ofList pairs)

def sides? : Datum → Option SideSet
  | list items => do
    let sides ← items.mapM fun item => do Side.ofName? (← (← item.text?).string?)
    some (.ofList sides)
  | _ => none

end UtilityLayout.Datum
