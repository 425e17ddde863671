import TemplateBundler.Json.Basic
import TemplateBundler.Number.FloatText
import TemplateBundler.Yaml.Document

/-!
# Value: what YAML nodes mean

Quoted scalars are strings. Plain scalars are null, booleans or numbers if they are spelled like
one, and strings otherwise. The tag of a core kind asks for that kind in any style, a local tag is
refused, and any other makes a scalar a string.

* `Yaml.Meaning`, `Yaml.Meaning.ofPlain`: the meaning of a scalar, and of a plain one;
* `Yaml.Meaning.ofScalar?`: the meaning of a scalar with a tag;
* `Yaml.Document.value`: the JSON value of a node;
* `Yaml.read?`: the JSON value of a text.
-/

namespace TemplateBundler.Yaml

inductive Meaning where
  | null
  | bool (value : Bool)
  | int (value : Int)
  | float (value : Binary64)
  /-- An infinity, or no number at all: it has no JSON number. -/
  | notFinite
  /-- An integer of more than 64 and at most 128 bits. -/
  | tooWide
  | string
deriving DecidableEq, Repr

namespace Meaning

/-- Digits with a needless zero before them, which make no number. -/
def isPadded (s : List Char) : Bool :=
  let digits :=
    match s with
    | '-' :: rest | '+' :: rest => rest
    | _ => s
  match digits with
  | '0' :: d :: rest => (d :: rest).all Integer.isDigit
  | _ => false

def based? : List Char → Option Nat
  | '0' :: 'x' :: digits => Integer.natOf? 16 digits
  | '0' :: 'o' :: digits => Integer.natOf? 8 digits
  | '0' :: 'b' :: digits => Integer.natOf? 2 digits
  | _ => none

def natural? (s : List Char) : Option Nat :=
  let digits :=
    match s with
    | '+' :: rest => rest
    | _ => s
  (based? digits).or (if isPadded s then none else Integer.natOf? 10 digits)

def negated? : List Char → Option Nat
  | '-' :: digits =>
    (based? digits).or (if isPadded digits then none else Integer.natOf? 10 digits)
  | _ => none

def integer? (s : List Char) : Option Meaning :=
  match natural? s with
  | some n =>
    if (n : Int) ≤ Integer.maxUInt64 then some (.int n)
    else if n < Nat.pow 2 128 then some .tooWide else none
  | none =>
    match negated? s with
    | some n =>
      if n ≤ Nat.pow 2 63 then some (.int (-n))
      else if n ≤ Nat.pow 2 127 then some .tooWide else none
    | none => none

def float? (s : List Char) : Option Meaning :=
  let unsigned :=
    match s with
    | '+' :: '+' :: _ | '+' :: '-' :: _ => []
    | '+' :: rest => rest
    | _ => s
  if [".inf", ".Inf", ".INF"].contains (String.ofList unsigned) then some .notFinite
  else if ["-.inf", "-.Inf", "-.INF", ".nan", ".NaN", ".NAN"].contains (String.ofList s) then
    some .notFinite
  else (Binary64.ofText? unsigned).map .float

def bool? (text : String) : Option Meaning :=
  if ["true", "True", "TRUE"].contains text then some (.bool true)
  else if ["false", "False", "FALSE"].contains text then some (.bool false)
  else none

def null? (text : String) : Option Meaning :=
  if ["~", "null", "Null", "NULL"].contains text then some .null else none

def ofPlain (text : String) : Meaning :=
  if text = "" then .null
  else
    match (null? text).or ((bool? text).or (integer? text.toList)) with
    | some meaning => meaning
    | none => if isPadded text.toList then .string else (float? text.toList).getD .string

def ofScalar? (tag : Option Tag) (text : String) (plain : Bool) : Option Meaning :=
  match tag with
  | none => some (if plain then ofPlain text else .string)
  | some tag =>
    if tag.isLocal then none
    else if tag = .bool then bool? text
    else if tag = .int then integer? text.toList
    else if tag = .float then float? text.toList
    else if tag = .null then null? text
    else some (if tag.isMarked && plain then ofPlain text else .string)

def toJson? (text : String) : Meaning → Option Json
  | .null | .notFinite => some .null
  | .bool value => some (.bool value)
  | .int value => some (.number (.int value))
  | .float value => some (.number (.float value))
  | .tooWide => none
  | .string => some (.string text)

end Meaning

inductive KeyRule where
  | anyScalar
  | stringsOnly
deriving DecidableEq

namespace Node

def key? (rule : KeyRule) : Node → Option String
  | .scalar props text plain =>
    if rule = .anyScalar ∨ Meaning.ofScalar? props.tag text plain = some .string then some text
    else none
  | _ => none

def scalarJson? : Node → Option Json
  | .scalar props text plain => (Meaning.ofScalar? props.tag text plain).bind (Meaning.toJson? text)
  | _ => none

end Node

/-- The container may be read: its tag is not local. -/
def Properties.allowsContainer (props : Properties) : Bool :=
  match props.tag with
  | some tag => !tag.isLocal
  | none => true

namespace Document

def key (document : Document) (rule : KeyRule) (node : Node) : Reading String := do
  let node ← document.follow node
  node.key? rule

/-- The JSON value of a node whose containers nest at most `depth` deep. Repeated keys are kept. -/
def pairsValue (document : Document) (rule : KeyRule) : (depth : Nat) → Node → Reading Json
  | 0, node => do
    let node ← document.follow node
    node.scalarJson?
  | depth + 1, node => do
    match ← document.follow node with
    | .sequence props items =>
      if props.allowsContainer then
        let values ← items.mapM fun item => document.pairsValue rule depth item
        return .array values
      else failure
    | .mapping props pairs =>
      if props.allowsContainer then
        let fields ← pairs.mapM fun pair => do
          let key ← document.key rule pair.1
          let value ← document.pairsValue rule depth pair.2
          return (key, value)
        return .object fields
      else failure
    | node => node.scalarJson?

def maxDepth : Nat := 128

def value (document : Document) (node : Node) : Reading Json := do
  let pairs ← document.pairsValue .anyScalar maxDepth node
  return pairs.collapse

def toJson? (document : Document) : Option Json :=
  match document.root with
  | none => some .null
  | some root => document.run? (document.value root)

end Document

/-- The JSON value of a text. A text that holds nothing is null. -/
def read? (text : List Char) : Option Json := (Document.read? text).bind Document.toJson?

end TemplateBundler.Yaml
