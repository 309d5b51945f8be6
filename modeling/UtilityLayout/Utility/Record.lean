import UtilityLayout.Datum.Field
/-! Utilities as records: the members of their JSON form, and the reading of such a record. The member
`kind` tells the variant. -/
namespace UtilityLayout

def LayoutValue.toJson : LayoutValue → Json
  | .number x => .float x
  | .literal text => .string text

namespace Utility

def toJson : Utility → Json
  | keyword text => .object [("kind", .string "keyword"), ("text", .string text)]
  | border sides width => .object [
      ("kind", .string "border"),
      ("sides", .array (sides.toList.map fun s => .string s.name)),
      ("width", .float width)]
  | constraint key value => .object [
      ("kind", .string "constraint"), ("key", .string key.name), ("value", value.toJson)]
  | radius value => .object [("kind", .string "radius"), ("value", value.toJson)]
  | spacing value => .object [("kind", .string "spacing"), ("value", .float value)]
  | other value => .object [("kind", .string "other"), ("value", value.toJson)]

def ofDatum? (datum : Datum) : Option Utility := do
  let record ← datum.entries?
  let kind ← Datum.required record "kind" Datum.text?
  match ← kind.string? with
  | "keyword" => keyword <$> Datum.required record "text" Datum.text?
  | "border" =>
    border <$> Datum.required record "sides" Datum.sides? <*>
      Datum.optional record "width" Datum.number? 1
  | "constraint" =>
    constraint <$> Datum.required record "key" (fun key => do ConstraintKey.ofName? (← (← key.text?).string?)) <*>
      Datum.required record "value" Datum.layoutValue?
  | "radius" => radius <$> Datum.required record "value" Datum.layoutValue?
  | "spacing" => spacing <$> Datum.required record "value" Datum.number?
  | "other" => other <$> Datum.required record "value" Datum.layoutValue?
  | _ => none

end Utility
end UtilityLayout
