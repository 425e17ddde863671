import TemplateBundler.Json.Reader
import TemplateBundler.Template.Expr

/-!
# Token: the tree of a template

Only the fields that matter for dependencies are told apart. Every other field is kept in order, so
that a processed tree can be written back in the shape the renderer expects.

* `Token`, `Logic`: nodes and the constructs of logic nodes;
* `Token.ofJson?`, `Token.toJson`: the serialized form;
* `Logic.loopSource`: the expression stack that a loop runs over.
-/

namespace TemplateBundler

mutual

/-- A node of a template. Only logic nodes act on their construct. -/
structure Token where
  kind : TokenKind
  logic : Option Logic
  fields : List (String × Json)

/-- The construct of a logic node: its children, the expression stack of its path or condition, and
a further expression whose form depends on the construct. -/
structure Logic where
  kind : LogicKind
  body : Option (List Token)
  stack : Option (List ExprToken)
  expression : Option Json
  fields : List (String × Json)

end

/-! ## Declared fields -/

namespace Field

def given (key : String) (pairs : List (String × Json)) : List Json :=
  (pairs.filter fun pair => pair.1 = key).map Prod.snd

/-- A declared field that may be missing or null, and may not be given twice. -/
def optional? (key : String) (pairs : List (String × Json)) : Option (Option Json) :=
  match given key pairs with
  | [] => some none
  | [value] => some (if value.isNull then none else some value)
  | _ => none

def text? (key : String) (pairs : List (String × Json)) : Option String :=
  match given key pairs with
  | [value] => value.asString?
  | _ => none

/-- The fields that are not declared, each key once. -/
def others (declared : List String) (pairs : List (String × Json)) : Entries Json :=
  Entries.ofPairs (Json.collapseFields (Entries.without declared pairs))

theorem sizeOf_lt_of_mem_given {key : String} {pairs : List (String × Json)} {value : Json}
    (h : value ∈ given key pairs) : sizeOf value < sizeOf pairs := by
  obtain ⟨pair, hp, rfl⟩ := List.mem_map.1 h
  have := List.sizeOf_lt_of_mem (List.mem_filter.1 hp).1
  have : sizeOf pair = 1 + sizeOf pair.1 + sizeOf pair.2 := rfl
  omega

theorem sizeOf_lt_of_optional? {key : String} {pairs : List (String × Json)} {value : Json}
    (h : optional? key pairs = some (some value)) : sizeOf value < sizeOf pairs := by
  unfold optional? at h
  split at h
  · simp at h
  · rename_i v hv
    have : v = value := by
      by_cases hn : v.isNull <;> simp_all
    exact sizeOf_lt_of_mem_given (by rw [hv]; simp [this])
  · simp at h

end Field

/-! ## Expression tokens -/

namespace ExprToken

def ofJson? : Json → Option ExprToken
  | .object pairs =>
    (Field.text? "type" pairs).map fun name => ⟨.ofName name, Field.others ["type"] pairs⟩
  | _ => none

def toJson (token : ExprToken) : Json :=
  .object (Entries.ofPairs (("type", .string token.kind.name) :: token.fields))

def stackOfJson? : Json → Option (List ExprToken)
  | .array items => items.mapM ofJson?
  | _ => none

end ExprToken

/-! ## Reading a tree -/

mutual

def Token.ofJson? : Json → Option Token
  | .object pairs =>
    match Field.text? "type" pairs with
    | none => none
    | some name =>
      match h : Field.optional? "token" pairs with
      | none => none
      | some none => some ⟨.ofName name, none, Field.others ["type", "token"] pairs⟩
      | some (some value) =>
        have := Field.sizeOf_lt_of_optional? h
        (Logic.ofJson? value).map fun logic =>
          ⟨.ofName name, some logic, Field.others ["type", "token"] pairs⟩
  | _ => none
termination_by json => sizeOf json

def Logic.ofJson? : Json → Option Logic
  | .object pairs =>
    match Field.text? "type" pairs, Field.optional? "stack" pairs,
        Field.optional? "expression" pairs with
    | some name, some stack?, some expression =>
      match stack?.mapM ExprToken.stackOfJson? with
      | none => none
      | some stack =>
        let finish (body : Option (List Token)) : Logic :=
          { kind := .ofName name
            body := body
            stack := stack
            expression := expression.map Json.collapse
            fields := Field.others ["type", "output", "stack", "expression"] pairs }
        match h : Field.optional? "output" pairs with
        | none => none
        | some none => some (finish none)
        | some (some value) =>
          have := Field.sizeOf_lt_of_optional? h
          (Token.listOfJson? value).map fun body => finish (some body)
    | _, _, _ => none
  | _ => none
termination_by json => sizeOf json

def Token.listOfJson? : Json → Option (List Token)
  | .array items => Token.itemsOfJson? items
  | _ => none
termination_by json => sizeOf json

def Token.itemsOfJson? : List Json → Option (List Token)
  | [] => some []
  | item :: rest =>
    match Token.ofJson? item with
    | some token => (Token.itemsOfJson? rest).map (token :: ·)
    | none => none
termination_by items => sizeOf items

end

/-! ## Writing a tree -/

namespace Logic

def present (key : String) (value : Option Json) : List (String × Json) :=
  match value with
  | some value => [(key, value)]
  | none => []

end Logic

mutual

/-- The declared fields come first, absent ones left out, then the others. A declared key among the
others overrides the field, as in any map. -/
def Token.toJson : Token → Json
  | ⟨kind, none, fields⟩ => .object (Entries.ofPairs (("type", .string kind.name) :: fields))
  | ⟨kind, some logic, fields⟩ =>
    .object (Entries.ofPairs
      (("type", .string kind.name) :: ("token", logic.toJson) :: fields))

def Logic.toJson : Logic → Json
  | ⟨kind, none, stack, expression, fields⟩ =>
    .object (Entries.ofPairs (("type", .string kind.name) ::
      (Logic.present "stack" (stack.map fun tokens => .array (tokens.map ExprToken.toJson)) ++
        Logic.present "expression" expression ++ fields)))
  | ⟨kind, some body, stack, expression, fields⟩ =>
    .object (Entries.ofPairs
      (("type", .string kind.name) :: ("output", .array (Token.listToJson body)) ::
        (Logic.present "stack" (stack.map fun tokens => .array (tokens.map ExprToken.toJson)) ++
          Logic.present "expression" expression ++ fields)))

def Token.listToJson : List Token → List Json
  | [] => []
  | token :: rest => token.toJson :: Token.listToJson rest

end

/-! ## Views -/

namespace Token

/-- The construct that the node acts on: only logic nodes have one. -/
def construct? (token : Token) : Option Logic :=
  match token.kind with
  | .logic => token.logic
  | _ => none

def parseTree (text : String) : Except Failure (List Token) :=
  match (Json.readPairs? Json.maxDepth text.toList).bind listOfJson? with
  | some tokens => .ok tokens
  | none => .error (.malformedTree (.text text))

end Token

namespace Logic

def loopVariable? (logic : Logic) : Option String :=
  (Entries.valueOf? "valueVar" logic.fields).bind Json.asString?

def expressionText? (logic : Logic) : Option String := logic.expression.bind Json.asString?

def loopSource (logic : Logic) : Except Failure (List ExprToken) :=
  match logic.expression with
  | none | some .null => .ok []
  | some (.array items) =>
    match items.mapM ExprToken.ofJson? with
    | some stack => .ok stack
    | none => .error (.malformedTree (.value (.array items)))
  | some _ => .error (.missingField logic.kind.name "expression")

def refersToSelf (logic : Logic) : Bool := logic.expressionText? == some "_self"

def children (logic : Logic) : List Token := logic.body.getD []

end Logic

end TemplateBundler
