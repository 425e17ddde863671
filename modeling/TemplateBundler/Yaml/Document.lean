import TemplateBundler.Yaml.Node

/-!
# Document: a YAML tree and what its references stand for

A reference stands for the last node of the document that bears its number. It is followed only
where its value is asked for, and only so often in one reading: a hundred times the number of marks
that the document is made of.
-/

namespace TemplateBundler.Yaml

namespace Node

mutual

/-- The number of marks that a node is made of: a container has one at each end. -/
def markCount : Node → Nat
  | .scalar _ _ _ | .reference _ => 1
  | .sequence _ items => 2 + itemMarks items
  | .mapping _ pairs => 2 + pairMarks pairs

def itemMarks : List Node → Nat
  | [] => 0
  | item :: rest => item.markCount + itemMarks rest

def pairMarks : List (Node × Node) → Nat
  | [] => 0
  | (key, value) :: rest => key.markCount + value.markCount + pairMarks rest

end

def numbered (props : Properties) (node : Node) : List (Nat × Node) :=
  match props.anchor with
  | some id => [(id, node)]
  | none => []

mutual

def anchored : Node → List (Nat × Node)
  | .scalar props text plain => numbered props (.scalar props text plain)
  | .reference _ => []
  | .sequence props items => numbered props (.sequence props items) ++ anchoredItems items
  | .mapping props pairs => numbered props (.mapping props pairs) ++ anchoredPairs pairs

def anchoredItems : List Node → List (Nat × Node)
  | [] => []
  | item :: rest => item.anchored ++ anchoredItems rest

def anchoredPairs : List (Node × Node) → List (Nat × Node)
  | [] => []
  | (key, value) :: rest => key.anchored ++ value.anchored ++ anchoredPairs rest

end

end Node

/-- The root of a text, if the text holds anything, and its anchored nodes, the last first. -/
structure Document where
  root : Option Node
  targets : List (Nat × Node)

/-- Something read of a document. The state is how many references may still be followed; nothing
is read if there is an error. -/
abbrev Reading (α : Type) := StateT Nat Option α

namespace Document

def ofRoot (root : Option Node) : Document :=
  { root := root, targets := ((root.map Node.anchored).getD []).reverse }

def read? (text : List Char) : Option Document :=
  ((scan? text).bind Node.ofLexemes?).map ofRoot

def target? (document : Document) (id : Nat) : Option Node :=
  (document.targets.find? fun entry => entry.1 = id).map Prod.snd

def follow (document : Document) : Node → Reading Node
  | .reference id => fun left =>
    match left with
    | 0 => none
    | fewer + 1 => (document.target? id).map fun node => (node, fewer)
  | node => pure node

def maxFollowed (document : Document) : Nat := 100 * (document.root.map Node.markCount).getD 0

def run? {α : Type} (document : Document) (reading : Reading α) : Option α :=
  (reading.run document.maxFollowed).map Prod.fst

end Document

end TemplateBundler.Yaml
