import TemplateBundler.Yaml.Lexeme

/-!
# Node: the tree of a YAML text

The tree is built lexeme by lexeme on a stack of open containers. A text holds one document or
none.
-/

namespace TemplateBundler.Yaml

structure Properties where
  anchor : Option Nat := none
  tag : Option Tag := none
deriving DecidableEq, Repr

namespace Properties

def isEmpty (props : Properties) : Bool := props.anchor.isNone && props.tag.isNone

/-- The properties of a scalar that is written: the unspecific tag says nothing. -/
def ofScalar (props : Properties) : Properties :=
  if props.tag = some .unspecific then { props with tag := none } else props

end Properties

inductive Node where
  | scalar (props : Properties) (text : String) (plain : Bool)
  | reference (id : Nat)
  | sequence (props : Properties) (items : List Node)
  | mapping (props : Properties) (pairs : List (Node × Node))

namespace Node

def empty (props : Properties) : Node := .scalar props "" true

end Node

abbrev Pairs := List (Node × Node)

inductive Open where
  | blockSequence (props : Properties) (done : List Node)
  /-- A sequence whose dashes stand at the column of the key before them. -/
  | flushSequence (props : Properties) (done : List Node)
  | blockMapping (props : Properties) (done : Pairs)
  | blockKey (props : Properties) (done : Pairs)
  | blockColon (props : Properties) (done : Pairs) (key : Node)
  | blockValue (props : Properties) (done : Pairs) (key : Node)
  | flowSequence (props : Properties) (done : List Node)
  /-- A mapping of one entry inside brackets. -/
  | pairKey
  | pairColon (key : Node)
  | pairValue (key : Node)
  | flowMapping (props : Properties) (done : Pairs)
  /-- A key inside braces; without a mark it has no value. -/
  | flowKey (props : Properties) (done : Pairs) (marked : Bool)
  | flowColon (props : Properties) (done : Pairs) (key : Node)
  | flowValue (props : Properties) (done : Pairs) (key : Node)

inductive Builder where
  | start
  | directed
  | begun
  | node (props : Properties) (stack : List Open)
  | ready (stack : List Open)
  | between (stack : List Open)
  | whole (root : Node)
  | closed (root : Node)
  | finished (root : Option Node)

namespace Builder

def put (node : Node) : List Open → Builder
  | [] => .whole node
  | .blockSequence props done :: rest => .between (.blockSequence props (node :: done) :: rest)
  | .flushSequence props done :: rest => .between (.flushSequence props (node :: done) :: rest)
  | .blockKey props done :: rest => .between (.blockColon props done node :: rest)
  | .blockValue props done key :: rest =>
    .between (.blockMapping props ((key, node) :: done) :: rest)
  | .flowSequence props done :: rest => .between (.flowSequence props (node :: done) :: rest)
  | .pairKey :: rest => .between (.pairColon node :: rest)
  | .pairValue key :: .flowSequence props done :: rest =>
    .between (.flowSequence props (.mapping {} [(key, node)] :: done) :: rest)
  | .flowKey props done marked :: rest =>
    if marked then .between (.flowColon props done node :: rest)
    else .between (.flowMapping props ((node, .empty {}) :: done) :: rest)
  | .flowValue props done key :: rest =>
    .between (.flowMapping props ((key, node) :: done) :: rest)
  | stack => .between stack

/-! ## Between entries -/

def continueEntry? (lexeme : Lexeme) : List Open → Option Builder
  | .blockSequence props done :: rest =>
    match lexeme with
    | .entry => some (.node {} (.blockSequence props done :: rest))
    | .blockEnd => some (put (.sequence props done.reverse) rest)
    | _ => none
  | .blockMapping props done :: rest =>
    match lexeme with
    | .key => some (.node {} (.blockKey props done :: rest))
    | .blockEnd => some (put (.mapping props done.reverse) rest)
    | _ => none
  | .flowSequence props done :: rest =>
    match lexeme with
    | .comma => some (.ready (.flowSequence props done :: rest))
    | .closeBracket => some (put (.sequence props done.reverse) rest)
    | _ => none
  | .flowMapping props done :: rest =>
    match lexeme with
    | .comma => some (.ready (.flowMapping props done :: rest))
    | .closeBrace => some (put (.mapping props done.reverse) rest)
    | _ => none
  | _ => none

/-- A key is complete: a colon brings its value, anything else leaves the value empty and continues
the mapping. -/
def continueKey? (lexeme : Lexeme) : List Open → Option Builder
  | .blockColon props done key :: rest =>
    match lexeme with
    | .colon => some (.node {} (.blockValue props done key :: rest))
    | _ => continueEntry? lexeme (.blockMapping props ((key, .empty {}) :: done) :: rest)
  | .flowColon props done key :: rest =>
    match lexeme with
    | .colon => some (.node {} (.flowValue props done key :: rest))
    | _ => continueEntry? lexeme (.flowMapping props ((key, .empty {}) :: done) :: rest)
  | .pairColon key :: .flowSequence props done :: rest =>
    match lexeme with
    | .colon => some (.node {} (.pairValue key :: .flowSequence props done :: rest))
    | _ =>
      continueEntry? lexeme
        (.flowSequence props (.mapping {} [(key, .empty {})] :: done) :: rest)
  | stack => continueEntry? lexeme stack

/-- A lexeme after a complete node: a sequence at the column of its key ends where no dash
follows. -/
def continue? (lexeme : Lexeme) : Builder → Option Builder
  | .between (.flushSequence props done :: rest) =>
    match lexeme with
    | .entry => some (.node {} (.flushSequence props done :: rest))
    | _ =>
      match put (.sequence props done.reverse) rest with
      | .between stack => continueKey? lexeme stack
      | _ => none
  | .between stack => continueKey? lexeme stack
  | .whole root =>
    match lexeme with
    | .documentEnd => some (.closed root)
    | .streamEnd => some (.finished (some root))
    | _ => none
  | _ => none

/-! ## Where a node may follow -/

def leavesOut (lexeme : Lexeme) : List Open → Bool
  | .blockSequence _ _ :: _ =>
    match lexeme with
    | .entry | .blockEnd => true
    | _ => false
  | .flushSequence _ _ :: _ =>
    match lexeme with
    | .entry | .key | .colon | .blockEnd => true
    | _ => false
  | .blockKey _ _ :: _ | .blockValue _ _ _ :: _ =>
    match lexeme with
    | .key | .colon | .blockEnd => true
    | _ => false
  | .pairValue _ :: _ =>
    match lexeme with
    | .comma | .closeBracket => true
    | _ => false
  | .flowKey _ _ true :: _ =>
    match lexeme with
    | .colon | .comma | .closeBrace => true
    | _ => false
  | .flowValue _ _ _ :: _ =>
    match lexeme with
    | .comma | .closeBrace => true
    | _ => false
  | _ => false

/-- The lexeme is lost to an empty key of a mapping of one entry: it shows that the key is left out,
and counts for nothing else. -/
def swallows (lexeme : Lexeme) : List Open → Bool
  | .pairKey :: _ =>
    match lexeme with
    | .colon | .comma | .closeBracket => true
    | _ => false
  | _ => false

def allowsFlush : List Open → Bool
  | .blockKey _ _ :: _ | .blockValue _ _ _ :: _ => true
  | _ => false

def begin? (props : Properties) (stack : List Open) : Lexeme → Option Builder
  | .scalar text plain => some (put (.scalar props.ofScalar text plain) stack)
  | .reference id => if props.isEmpty then some (put (.reference id) stack) else none
  | .anchor id =>
    if props.anchor.isNone then some (.node { props with anchor := some id } stack) else none
  | .tag tag => if props.tag.isNone then some (.node { props with tag := some tag } stack) else none
  | .blockSequence => some (.between (.blockSequence props [] :: stack))
  | .blockMapping => some (.between (.blockMapping props [] :: stack))
  | .openBracket => some (.ready (.flowSequence props [] :: stack))
  | .openBrace => some (.ready (.flowMapping props [] :: stack))
  | .entry =>
    if allowsFlush stack then some (.node {} (.flushSequence props [] :: stack)) else none
  | _ => none

def node? (props : Properties) (stack : List Open) (lexeme : Lexeme) : Option Builder :=
  if props.isEmpty && swallows lexeme stack then some (put (.empty {}) stack)
  else if props.isEmpty && leavesOut lexeme stack then continue? lexeme (put (.empty {}) stack)
  else
    match begin? props stack lexeme with
    | some builder => some builder
    | none => if props.isEmpty then none else continue? lexeme (put (.empty props) stack)

def ready? (lexeme : Lexeme) : List Open → Option Builder
  | .flowSequence props done :: rest =>
    match lexeme with
    | .closeBracket => some (put (.sequence props done.reverse) rest)
    | .key => some (.node {} (.pairKey :: .flowSequence props done :: rest))
    | _ => node? {} (.flowSequence props done :: rest) lexeme
  | .flowMapping props done :: rest =>
    match lexeme with
    | .closeBrace => some (put (.mapping props done.reverse) rest)
    | .key => some (.node {} (.flowKey props done true :: rest))
    | _ => node? {} (.flowKey props done false :: rest) lexeme
  | _ => none

/-- One more lexeme; `none` if it cannot stand there. A second document cannot. -/
def step? (builder : Builder) (lexeme : Lexeme) : Option Builder :=
  match builder with
  | .start =>
    match lexeme with
    | .directive => some .directed
    | .documentStart => some .begun
    | .streamEnd => some (.finished none)
    | _ => node? {} [] lexeme
  | .directed =>
    match lexeme with
    | .directive => some .directed
    | .documentStart => some .begun
    | _ => none
  | .begun =>
    match lexeme with
    | .documentEnd => some (.closed (.empty {}))
    | .streamEnd => some (.finished (some (.empty {})))
    | .documentStart => none
    | _ => node? {} [] lexeme
  | .node props stack => node? props stack lexeme
  | .ready stack => ready? lexeme stack
  | .between stack => continue? lexeme (.between stack)
  | .whole root => continue? lexeme (.whole root)
  | .closed root =>
    match lexeme with
    | .documentEnd => some (.closed root)
    | .streamEnd => some (.finished (some root))
    | _ => none
  | .finished _ => none

end Builder

def Node.ofLexemes? (lexemes : List Lexeme) : Option (Option Node) :=
  match lexemes.foldlM Builder.step? .start with
  | some (.finished root) => some root
  | _ => none

end TemplateBundler.Yaml
