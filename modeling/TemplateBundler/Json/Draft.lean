import TemplateBundler.Json.Lexeme

/-!
# Draft: the tree of a JSON text as it is written

A draft has the shape of the text and nothing is decided yet: repeated keys are kept, any depth is
allowed, and a scalar without a value has its place. It is built lexeme by lexeme on a stack of
open containers.
-/

namespace TemplateBundler.Json

inductive Draft where
  | null
  | bool (value : Bool)
  | number (value : Option Number)
  | string (value : Option String)
  | array (items : List Draft)
  | object (fields : List (Option String × Draft))
deriving Inhabited

namespace Draft

/-- A container that has been opened and not yet closed: what it holds so far, last first. -/
inductive Open where
  | array (done : List Draft)
  | object (done : List (Option String × Draft)) (key : Option String)

/-- How far a text has been read, inside the containers that are open: named for what may follow, or
for the value that is complete (`after`). -/
inductive Progress where
  | ready (stack : List Open)
  | firstItem (stack : List Open)
  | firstKey (stack : List Open)
  | nextKey (done : List (Option String × Draft)) (stack : List Open)
  | colon (done : List (Option String × Draft)) (key : Option String) (stack : List Open)
  | after (value : Draft) (stack : List Open)

def Progress.takeValue? (stack : List Open) : Lexeme → Option Progress
  | .openBrace => some (.firstKey stack)
  | .openBracket => some (.firstItem stack)
  | .null => some (.after .null stack)
  | .bool value => some (.after (.bool value) stack)
  | .number value => some (.after (.number value) stack)
  | .string value => some (.after (.string value) stack)
  | .closeBrace | .closeBracket | .comma | .colon => none

def Progress.step? : Progress → Lexeme → Option Progress
  | .ready stack, lexeme => takeValue? stack lexeme
  | .firstItem stack, .closeBracket => some (.after (.array []) stack)
  | .firstItem stack, lexeme => takeValue? (.array [] :: stack) lexeme
  | .firstKey stack, .closeBrace => some (.after (.object []) stack)
  | .firstKey stack, .string key => some (.colon [] key stack)
  | .firstKey _, _ => none
  | .nextKey done stack, .string key => some (.colon done key stack)
  | .nextKey _ _, _ => none
  | .colon done key stack, .colon => some (.ready (.object done key :: stack))
  | .colon _ _ _, _ => none
  | .after value (.array done :: stack), .comma => some (.ready (.array (value :: done) :: stack))
  | .after value (.array done :: stack), .closeBracket =>
    some (.after (.array (value :: done).reverse) stack)
  | .after value (.object done key :: stack), .comma =>
    some (.nextKey ((key, value) :: done) stack)
  | .after value (.object done key :: stack), .closeBrace =>
    some (.after (.object ((key, value) :: done).reverse) stack)
  | .after _ _, _ => none

def ofLexemes? (lexemes : List Lexeme) : Option Draft :=
  match lexemes.foldlM Progress.step? (.ready []) with
  | some (.after value []) => some value
  | _ => none

def read? (s : List Char) : Option Draft := (Lexeme.scan? s).bind ofLexemes?

mutual

/-- The value of a draft whose containers nest at most `depth` deep; `none` if they nest deeper or
some scalar has no value. Repeated keys are kept. -/
def toJson? (depth : Nat) : Draft → Option Json
  | .null => some .null
  | .bool value => some (.bool value)
  | .number value => value.map .number
  | .string value => value.map .string
  | .array items => if depth = 0 then none else (itemsToJson? (depth - 1) items).map .array
  | .object fields => if depth = 0 then none else (fieldsToJson? (depth - 1) fields).map .object

def itemsToJson? (depth : Nat) : List Draft → Option (List Json)
  | [] => some []
  | item :: rest =>
    match item.toJson? depth with
    | some value => (itemsToJson? depth rest).map (value :: ·)
    | none => none

def fieldsToJson? (depth : Nat) : List (Option String × Draft) → Option (List (String × Json))
  | [] => some []
  | (some key, item) :: rest =>
    match item.toJson? depth with
    | some value => (fieldsToJson? depth rest).map ((key, value) :: ·)
    | none => none
  | (none, _) :: _ => none

end

end Draft

end TemplateBundler.Json
