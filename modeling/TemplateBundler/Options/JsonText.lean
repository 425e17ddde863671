import TemplateBundler.Options.Basic

/-!
# JsonText: loader options in JSON

The options are an object whose field `twigOptions` holds the renderer options, or an array of at
most that one value. Fields of any other name have to be well formed and are not looked at.
-/

namespace TemplateBundler.LoaderOptions

open Json (Draft)

/-- The renderer options: an object, one container deep inside the text. -/
def ofRendererDraft? (draft : Draft) : Option LoaderOptions :=
  match draft.toJson? (Json.maxDepth - 1) with
  | some (.object pairs) => ofRendererPairs? pairs
  | _ => none

def rendererDrafts? : List (Option String × Draft) → Option (List Draft)
  | [] => some []
  | (none, _) :: _ => none
  | (some key, value) :: rest =>
    (rendererDrafts? rest).map fun more => if key = "twigOptions" then value :: more else more

def ofAtMostOne? : List Draft → Option LoaderOptions
  | [] => some {}
  | [draft] => ofRendererDraft? draft
  | _ => none

def ofDraft? : Draft → Option LoaderOptions
  | .object fields => (rendererDrafts? fields).bind ofAtMostOne?
  | .array items => ofAtMostOne? items
  | _ => none

def parseJson (text : String) : Except Failure LoaderOptions :=
  match (Draft.read? text.toList).bind ofDraft? with
  | some options => .ok options
  | none => .error (.invalidOptions "json" text)

end TemplateBundler.LoaderOptions
