/-!
# Kind: what a token of a template is

Each kind has a name in the serialized tree. Names that mean nothing here are kept as they are, so
that a tree can be written back unchanged.
-/

namespace TemplateBundler

inductive TokenKind where
  | logic
  | raw
  | output
  | other (name : String)
deriving DecidableEq, Repr

namespace TokenKind

def name : TokenKind → String
  | .logic => "logic"
  | .raw => "raw"
  | .output => "output"
  | .other name => name

def ofName : String → TokenKind
  | "logic" => .logic
  | "raw" => .raw
  | "output" => .output
  | name => .other name

@[simp]
theorem name_ofName (s : String) : (ofName s).name = s := by
  unfold ofName
  split <;> rfl

end TokenKind

inductive LogicKind where
  | forLoop
  | block
  | ifTrue
  | elseIf
  | otherwise
  | spaceless
  | setCapture
  | macroBody
  | extend
  | includeFile
  | embed
  | importAll
  | importNames
  | other (name : String)
deriving DecidableEq, Repr

namespace LogicKind

def name : LogicKind → String
  | .forLoop => "Twig.logic.type.for"
  | .block => "Twig.logic.type.block"
  | .ifTrue => "Twig.logic.type.if"
  | .elseIf => "Twig.logic.type.elseif"
  | .otherwise => "Twig.logic.type.else"
  | .spaceless => "Twig.logic.type.spaceless"
  | .setCapture => "Twig.logic.type.setcapture"
  | .macroBody => "Twig.logic.type.macro"
  | .extend => "Twig.logic.type.extends"
  | .includeFile => "Twig.logic.type.include"
  | .embed => "Twig.logic.type.embed"
  | .importAll => "Twig.logic.type.import"
  | .importNames => "Twig.logic.type.from"
  | .other name => name

def ofName : String → LogicKind
  | "Twig.logic.type.for" => .forLoop
  | "Twig.logic.type.block" => .block
  | "Twig.logic.type.if" => .ifTrue
  | "Twig.logic.type.elseif" => .elseIf
  | "Twig.logic.type.else" => .otherwise
  | "Twig.logic.type.spaceless" => .spaceless
  | "Twig.logic.type.setcapture" => .setCapture
  | "Twig.logic.type.macro" => .macroBody
  | "Twig.logic.type.extends" => .extend
  | "Twig.logic.type.include" => .includeFile
  | "Twig.logic.type.embed" => .embed
  | "Twig.logic.type.import" => .importAll
  | "Twig.logic.type.from" => .importNames
  | name => .other name

@[simp]
theorem name_ofName (s : String) : (ofName s).name = s := by
  unfold ofName
  split <;> rfl

end LogicKind

inductive ExprKind where
  | stringLiteral
  | variable
  | keyPeriod
  | slice
  | binaryOperator
  | other (name : String)
deriving DecidableEq, Repr

namespace ExprKind

def name : ExprKind → String
  | .stringLiteral => "Twig.expression.type.string"
  | .variable => "Twig.expression.type.variable"
  | .keyPeriod => "Twig.expression.type.key.period"
  | .slice => "Twig.expression.type.slice"
  | .binaryOperator => "Twig.expression.type.operator.binary"
  | .other name => name

def ofName : String → ExprKind
  | "Twig.expression.type.string" => .stringLiteral
  | "Twig.expression.type.variable" => .variable
  | "Twig.expression.type.key.period" => .keyPeriod
  | "Twig.expression.type.slice" => .slice
  | "Twig.expression.type.operator.binary" => .binaryOperator
  | name => .other name

@[simp]
theorem name_ofName (s : String) : (ofName s).name = s := by
  unfold ofName
  split <;> rfl

end ExprKind

end TemplateBundler
