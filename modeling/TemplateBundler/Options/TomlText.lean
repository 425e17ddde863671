import TemplateBundler.Options.Basic
import TemplateBundler.Toml.Reader

/-!
# TomlText: loader options in TOML

Integers of more than 64 bits may stand only in fields that are not looked at.
-/

namespace TemplateBundler

namespace Json

mutual

def fitsWords : Json → Bool
  | .null | .bool _ | .string _ | .number (.float _) => true
  | .number (.int value) => Integer.minInt64 ≤ value && value ≤ Integer.maxUInt64
  | .array items => itemsFit items
  | .object fields => fieldsFit fields

def itemsFit : List Json → Bool
  | [] => true
  | item :: rest => item.fitsWords && itemsFit rest

def fieldsFit : List (String × Json) → Bool
  | [] => true
  | (_, value) :: rest => value.fitsWords && fieldsFit rest

end

end Json

namespace LoaderOptions

/-- Options from the fields of a document; fields of any other name than `twigOptions` are not
looked at. -/
def ofTomlFields? (fields : List (String × Json)) : Option LoaderOptions :=
  match Entries.valueOf? "twigOptions" fields with
  | none => some {}
  | some (.object pairs) => if Json.fieldsFit pairs then ofRendererPairs? pairs else none
  | some _ => none

def parseToml (text : String) : Except Failure LoaderOptions :=
  match (Toml.read? text.toList).bind ofTomlFields? with
  | some options => .ok options
  | none => .error (.invalidOptions "toml" text)

end LoaderOptions

end TemplateBundler
