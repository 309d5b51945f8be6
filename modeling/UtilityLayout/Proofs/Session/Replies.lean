import UtilityLayout.Proofs.Json.Ascii
import UtilityLayout.Proofs.Json.Recovery
import UtilityLayout.Proofs.Results
import UtilityLayout.Proofs.Session.Steps

/-! What a client reads in the answer to a conversion. The text is printable ASCII, and read as JSON it has the fields
of the conversion in their order, with every text of them as its code units tell it. -/
namespace UtilityLayout.Service
open Json (AllShown read? printedRead)

theorem conversionNumberless (theme : Theme) (c : Layout.Composition) : (conversion theme c).isNumberless = true := by
  have items (texts : List Text) : Json.itemsNumberless (texts.map .string) = true := by
    induction texts with
    | nil => rfl
    | cons t rest ih => exact ih
  simp [conversion, success, Json.isNumberless, Json.membersNumberless, items]

def conversionTold (theme : Theme) (c : Layout.Composition) : Json := .object [
  ("status", .string "success"),
  ("output", .string c.text.paired),
  ("kind", .string c.shape.name),
  ("label", .string c.shape.label),
  ("copyable", .bool c.shape.copyable),
  ("entries", .array (c.entries.map fun entry => .string entry.paired)),
  ("theme", .string theme.name.paired)]

theorem conversionPaired (theme : Theme) (c : Layout.Composition) :
    (conversion theme c).paired = conversionTold theme c := by
  have entries : (c.entries.map Json.string).map Json.paired = c.entries.map fun entry => .string entry.paired := by
    rw [List.map_map]
    exact List.map_congr_left fun entry _ => by simp [Json.paired]
  simp [conversion, success, conversionTold, Json.paired, Json.membersPaired, Json.itemsPairedMap, entries,
    Text.pairedString]

theorem toldTheme (theme : Theme) (c : Layout.Composition) :
    (conversionTold theme c).member? "theme" = some (.string theme.name.paired) :=
  rfl

theorem errorPaired (message : String) : (error message).paired = error message := by
  simp [error, Json.paired, Json.membersPaired, Text.pairedString]

theorem convertReply (w : Workspace) (classes : String) (theme? : Option String) :
    (reply w (.convert classes theme?)).1 = (Session.response.respond (w.get (themeName theme?)).1 (shownName theme?)
      fun theme => conversion theme (theme.convert classes)).render := by
  rw [reply, answer, Session.withThemeRespond]

theorem foundReply {w : Workspace} {theme? : Option String} {theme : Theme}
    (found : (w.get (themeName theme?)).1 = .ok (some theme)) (classes : String) :
    read? (reply w (.convert classes theme?)).1 = some (conversionTold theme (theme.convert classes)) := by
  rw [convertReply, found, ← conversionPaired]
  exact printedRead (conversionNumberless theme _)

theorem missingReply {w : Workspace} {theme? : Option String}
    (missing : (w.get (themeName theme?)).1 = .ok none) (classes : String) :
    read? (reply w (.convert classes theme?)).1 = some (notFound (shownName theme?)) := by
  rw [convertReply, missing]
  have read := @printedRead (notFound (shownName theme?)) rfl
  rwa [notFound, errorPaired] at read

/- An answer to a conversion is printable ASCII. It is read as the fields of the conversion, or for a theme that does
not exist as an error that names it. Texts are read with their code units, and as they were but for halves of one pair
side by side. -/
theorem convertReplyRead (w : Workspace) (classes : String) (theme? : Option String) :
    let text := (reply w (.convert classes theme?)).1
    AllShown text.toList ∧
    (∀ theme, (w.get (themeName theme?)).1 = .ok (some theme) →
      read? text = some (conversionTold theme (theme.convert classes))) ∧
    (∀ name, theme? = some name → (w.get (themeName theme?)).1 = .ok none →
      ∃ message, read? text = some (.object [("status", .string "error"), ("message", .string (.ofString message))]) ∧
        name.toList <:+: message.toList) ∧
    ∀ t : Text, t.paired.units = t.units ∧ (t.paired = t ↔ CodePoint.Apart t.points) := by
  have shown : AllShown (reply w (.convert classes theme?)).1.toList := by
    rw [convertReply]
    exact Json.renderShown _
  refine ⟨shown, fun theme found => foundReply found classes, ?_, fun t => ⟨t.pairedUnits, t.pairedSame⟩⟩
  intro name named missing
  refine ⟨_, missingReply missing classes, ?_⟩
  rw [named, String.toList_append, String.toList_append]
  exact ⟨_, _, rfl⟩

theorem convertReplyReadEmpty :
    let files : FileTree := ⟨.ofList [(["lib"], .directory), (["lib", "t.yaml"], .file "")], []⟩
    let w : Workspace := ⟨files, .fresh ⟨.root, ["lib"]⟩ none⟩
    (∃ theme, (w.get "t").1 = .ok (some theme) ∧
      read? (reply w (.convert "p-4" (some "t"))).1 = some (conversionTold theme (theme.convert "p-4"))) ∧
    (w.get "u").1 = .ok none ∧
      ∃ message, read? (reply w (.convert "p-4" (some "u"))).1 =
          some (.object [("status", .string "error"), ("message", .string (.ofString message))]) ∧
        "u".toList <:+: message.toList := by
  intro files w
  have finds : (w.get (themeName (some "t"))).1 = .ok (some { Theme.builtIn with name := "t" }) :=
    okOfOption (by decide +kernel)
  have misses : (w.get (themeName (some "u"))).1 = .ok none := okOfOption (by decide +kernel)
  have found := (convertReplyRead w "p-4" (some "t")).2.1 _ finds
  have missing := (convertReplyRead w "p-4" (some "u")).2.2.1 "u" rfl misses
  have present : themeName (some "t") = "t" := by decide +kernel
  have absent : themeName (some "u") = "u" := by decide +kernel
  rw [present] at finds
  rw [absent] at misses
  exact ⟨⟨_, finds, found⟩, misses, missing⟩

theorem convertReplyChanged :
    let text := "name: \"\\ud83d\\ude00\"\n"
    let files : FileTree := ⟨.ofList [(["lib"], .directory), (["lib", "a.yaml"], .file text)], []⟩
    let w : Workspace := ⟨files, .fresh ⟨.root, ["lib"]⟩ none⟩
    (∃ theme told, (w.get "a").1 = .ok (some theme) ∧ read? (reply w (.convert "" (some "a"))).1 = some told ∧
      told.member? "theme" ≠ some (.string theme.name)) ∧
    (w.get (themeName none)).1 = .ok none ∧
      ∃ message, read? (reply w (.convert "p-4" none)).1 = some (error message) ∧
        ¬(themeName none).toList <:+: message.toList := by
  intro text files w
  let theme : Theme := { Theme.builtIn with name := ⟨[.half 0x3d, .half 0x600]⟩ }
  have finds : (w.get "a").1 = .ok (some theme) := okOfOption (by decide +kernel)
  have missing : (w.get (themeName none)).1 = .ok none := okOfOption (by decide +kernel)
  have joined : theme.name.paired ≠ theme.name := by decide +kernel
  have named : themeName (some "a") = "a" := by decide +kernel
  have found : (w.get (themeName (some "a"))).1 = .ok (some theme) := by
    rw [named]
    exact finds
  have read : read? (reply w (.convert "" (some "a"))).1 = some (conversionTold theme (theme.convert "")) :=
    foundReply found ""
  have unnamed : ¬(themeName none).toList <:+: "Theme 'None' not found.".toList := by decide +kernel
  have missed : read? (reply w (.convert "p-4" none)).1 = some (error "Theme 'None' not found.") :=
    missingReply missing "p-4"
  have renamed : (conversionTold theme (theme.convert "")).member? "theme" ≠ some (.string theme.name) := by
    rw [toldTheme]
    intro same
    exact joined (Json.string.inj (Option.some.inj same))
  exact ⟨⟨theme, _, finds, read, renamed⟩, missing, _, missed, unnamed⟩

end UtilityLayout.Service
