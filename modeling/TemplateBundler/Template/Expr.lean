import TemplateBundler.Failure
import TemplateBundler.Json.Basic
import TemplateBundler.Number.Integer
import TemplateBundler.Template.Kind
import TemplateBundler.Text.Blank

/-!
# Expr: the tokens of a path expression

An expression arrives as a stack in postfix order: `"a/" ~ b.c` is `"a/"`, `b`, `.c`, `~`.
-/

namespace TemplateBundler

structure ExprToken where
  kind : ExprKind
  fields : List (String × Json)
deriving Repr

/-- What a token contributes to a path: `"cards/"`, `card`, `.type`, `[1:3]`, `~`, or nothing. -/
inductive PathTerm where
  | literal (text : String)
  | variable (name : String)
  | key (name : String)
  | slice (start stop : Option Int)
  | concat
  | unsupported (kind : ExprKind)
deriving DecidableEq, Repr

/-- The bound that a slice parameter gives: an integer, a number without its fraction, or a text
that spells an integer. Numbers beyond 64 signed bits give the nearest bound, texts give none. -/
def sliceBound? : Json → Option Int
  | .number (.int value) => some (Integer.saturate value)
  | .number (.float value) => some (Integer.saturate value.truncate)
  | .string text => (Integer.signedOf? (Text.trim text.toList)).bind Integer.int64?
  | _ => none

namespace ExprToken

def ofText (text : String) : ExprToken := ⟨.stringLiteral, [("value", .string text)]⟩

def isLiteral (token : ExprToken) : Bool := token.kind == .stringLiteral

def value? (token : ExprToken) : Option Json := Entries.valueOf? "value" token.fields

def setValue (token : ExprToken) (value : Json) : ExprToken :=
  { token with fields := Entries.put "value" value token.fields }

def textOf (token : ExprToken) (field : String) : Except Failure String :=
  match (Entries.valueOf? field token.fields).bind Json.asString? with
  | some text => .ok text
  | none => .error (.missingField token.kind.name field)

def hasText (token : ExprToken) (field text : String) : Bool :=
  (Entries.valueOf? field token.fields).bind Json.asString? == some text

def classify (token : ExprToken) : Except Failure PathTerm :=
  match token.kind with
  | .stringLiteral => (token.textOf "value").map .literal
  | .variable => (token.textOf "value").map .variable
  | .keyPeriod => (token.textOf "key").map .key
  | .slice =>
    match (Entries.valueOf? "params" token.fields).bind Json.asArray? with
    | some params => .ok (.slice (params[0]?.bind sliceBound?) (params[1]?.bind sliceBound?))
    | none => .error (.missingField token.kind.name "params")
  | .binaryOperator =>
    if token.hasText "operator" "~" && token.hasText "associativity" "leftToRight" then .ok .concat
    else .ok (.unsupported token.kind)
  | .other _ => .ok (.unsupported token.kind)

end ExprToken

end TemplateBundler
