import TemplateBundler.Proofs.Walk.Closed

/-!
# Mentioned: a walk reads nothing that its tree does not name

The names of a tree are those of its variables and keys, in the sources of its loops and in its
paths, and the key of a first element. Two documents with the same values under these names lead to
the same result: the same tree and dependencies, or the same failure.

The two runs do not carry equal scopes. A loop whose source is not found takes the whole document as
its data, and the documents differ. What the runs keep is agreement on the names (`Json.AgreeOn`,
`Scope.AgreeOn`): every reading of data goes through a name, or does not apply to an object at all.

* `Token.namesOf`: the names of a tree;
* `Json.AgreeOn`, `Scope.AgreeOn`: data that the names do not tell apart;
* `pointAt_agree`, `foldPath_agree`: what the two evaluations make of such data;
* `Event.scopeOf_agree`, `Event.run_agree`: the scopes of the two runs, and an event in them;
* `Site.walk_reads_names`: the two runs of a whole tree.
-/

namespace TemplateBundler

/-! ## The names of a tree -/

/-- The name that a term reads data by. -/
def PathTerm.name? : PathTerm → Option String
  | .variable name | .key name => some name
  | .literal _ | .slice _ _ | .concat | .unsupported _ => none

def ExprToken.name? (token : ExprToken) : Option String :=
  match token.kind with
  | .variable => (Entries.valueOf? "value" token.fields).bind Json.asString?
  | .keyPeriod => (Entries.valueOf? "key" token.fields).bind Json.asString?
  | _ => none

def Act.tokens : Act → List ExprToken
  | .loop head =>
    match head.loopSource with
    | .ok source => source
    | .error _ => []
  | .includePath _ stack | .staticPaths stack => stack.getD []

def ExprToken.namesOf (tokens : List ExprToken) : List String := tokens.filterMap ExprToken.name?

/-- The names of a tree: those in the sources of its loops and in its paths, and the key of a first
element. -/
def Token.namesOf (tokens : List Token) : List String :=
  "0" :: (Token.eventsOf tokens).flatMap fun event => ExprToken.namesOf event.act.tokens

theorem ExprToken.textOf_map_eq_ok {token : ExprToken} {field : String} {make : String → PathTerm}
    {term : PathTerm} (h : (token.textOf field).map make = .ok term) :
    ∃ text, (Entries.valueOf? field token.fields).bind Json.asString? = some text ∧
      make text = term := by
  obtain ⟨text, htext, hterm⟩ := exceptMap_eq_ok h
  rw [textOf_eq_ok_iff] at htext
  exact ⟨text, by rw [htext]; rfl, hterm⟩

theorem ExprToken.name?_of_classify {token : ExprToken} {term : PathTerm}
    (h : token.classify = .ok term) : token.name? = term.name? := by
  unfold classify at h
  unfold name?
  cases hkind : token.kind <;> simp only [hkind] at h ⊢
  case stringLiteral =>
    obtain ⟨text, -, rfl⟩ := textOf_map_eq_ok h
    rfl
  case «variable» | keyPeriod =>
    obtain ⟨name, hname, rfl⟩ := textOf_map_eq_ok h
    exact hname
  case slice | binaryOperator =>
    split at h <;> cases h <;> rfl
  case other name =>
    cases h
    rfl

/-! ## Outcomes of two runs -/

/-- Two outcomes alike: the same failure, or results that are related. -/
inductive Alike {α β : Type} (R : α → β → Prop) : Except Failure α → Except Failure β → Prop
  | error (failure : Failure) : Alike R (.error failure) (.error failure)
  | ok {a : α} {b : β} (h : R a b) : Alike R (.ok a) (.ok b)

namespace Alike

variable {α β γ : Type}

theorem eq_of_eq {x y : Except Failure α} (h : Alike Eq x y) : x = y := by
  cases h with
  | error failure => rfl
  | ok h => rw [h]

theorem foldlM {R : α → β → Prop} {step : α → γ → Except Failure α}
    {step' : β → γ → Except Failure β} {xs : List γ}
    (hstep : ∀ x ∈ xs, ∀ a b, R a b → Alike R (step a x) (step' b x)) :
    ∀ {a : α} {b : β}, R a b → Alike R (xs.foldlM step a) (xs.foldlM step' b) := by
  induction xs with
  | nil =>
    intro a b h
    exact .ok h
  | cons x xs ih =>
    rw [List.forall_mem_cons] at hstep
    obtain ⟨hhead, htail⟩ := hstep
    intro a b h
    rw [List.foldlM_cons, List.foldlM_cons]
    have hx := hhead a b h
    revert hx
    generalize step a x = outcome, step' b x = outcome'
    intro hx
    cases hx with
    | error failure => exact .error failure
    | ok h => exact ih htail h

end Alike

/-! ## Data that the names do not tell apart -/

/-- Two values that the names do not tell apart: one value, or two objects with the same values
under the names. -/
inductive Json.AgreeOn (names : List String) : Json → Json → Prop
  | same (value : Json) : Json.AgreeOn names value value
  | objects {fields fields' : List (String × Json)}
      (h : ∀ name ∈ names, Entries.valueOf? name fields = Entries.valueOf? name fields') :
      Json.AgreeOn names (.object fields) (.object fields')

namespace Json.AgreeOn

variable {names : List String} {value value' : Json}

theorem property?_eq (h : AgreeOn names value value') {name : String} (hname : name ∈ names) :
    value.property? name = value'.property? name := by
  cases h with
  | same value => rfl
  | objects h => exact h name hname

theorem property?_getD (h : AgreeOn names value value') {name : String} (hname : name ∈ names) :
    AgreeOn names ((value.property? name).getD value) ((value'.property? name).getD value') := by
  rw [h.property?_eq hname]
  cases value'.property? name with
  | none => exact h
  | some found => exact .same found

theorem slice?_getD (h : AgreeOn names value value') (start stop : Option Int) :
    AgreeOn names ((value.slice? start stop).getD value)
      ((value'.slice? start stop).getD value') := by
  cases h with
  | same value => exact .same _
  | objects h => exact .objects h

end Json.AgreeOn

/-- Two scopes that the names do not tell apart: the data agrees on them, and the bindings are the
same. -/
structure Scope.AgreeOn (names : List String) (scope scope' : Scope) : Prop where
  value : scope.value.AgreeOn names scope'.value
  bindings : scope.bindings = scope'.bindings

namespace Scope.AgreeOn

variable {names : List String} {scope scope' : Scope}

theorem binding?_eq (h : AgreeOn names scope scope') (name : String) :
    scope.binding? name = scope'.binding? name := by
  rw [binding?, binding?, h.bindings]

theorem lookup?_eq (h : AgreeOn names scope scope') {name : String} (hname : name ∈ names) :
    scope.lookup? name = scope'.lookup? name := by
  rw [lookup?, lookup?, h.binding?_eq name, h.value.property?_eq hname]

theorem descend (h : AgreeOn names scope scope') {value value' : Json}
    (hvalue : value.AgreeOn names value') :
    AgreeOn names (scope.descend value) (scope'.descend value') :=
  ⟨hvalue, h.bindings⟩

theorem bind (h : AgreeOn names scope scope') (name : String) (value : Json) :
    AgreeOn names (scope.bind name value) (scope'.bind name value) := by
  refine ⟨h.value, ?_⟩
  rw [Scope.bind, Scope.bind, h.bindings]

end Scope.AgreeOn

/-! ## Evaluation -/

section Evaluation

variable {names : List String} {scope scope' : Scope}

theorem Pointing.step_agree {document document' current current' : Json} {term : PathTerm}
    (hdocument : document.AgreeOn names document') (hscope : scope.AgreeOn names scope')
    (hcurrent : current.AgreeOn names current') (hterm : ∀ name ∈ term.name?, name ∈ names) :
    (Pointing.step document scope current term).AgreeOn names
      (Pointing.step document' scope' current' term) := by
  cases term with
  | «variable» name =>
    have hname : name ∈ names := hterm name rfl
    simp only [Pointing.step]
    rw [hdocument.property?_eq hname, hscope.binding?_eq name]
    cases (document'.property? name).or (scope'.binding? name) with
    | none => exact hcurrent
    | some found => exact .same found
  | key name => exact hcurrent.property?_getD (hterm name rfl)
  | slice start stop => exact hcurrent.slice?_getD start stop
  | literal text | concat | unsupported kind => exact hcurrent

/-- A loop's source points at data that the names do not tell apart. -/
theorem pointAt_agree {source : List ExprToken} {document document' : Json}
    (hnames : ∀ name ∈ ExprToken.namesOf source, name ∈ names)
    (hdocument : document.AgreeOn names document') (hscope : scope.AgreeOn names scope') :
    Alike (Json.AgreeOn names) (pointAt source document scope)
      (pointAt source document' scope') := by
  refine Alike.foldlM (fun token htoken current current' hcurrent => ?_) hdocument
  cases hterm : token.classify with
  | error failure => exact .error failure
  | ok term =>
    refine .ok (Pointing.step_agree hdocument hscope hcurrent fun name hname => ?_)
    refine hnames name (List.mem_filterMap.2 ⟨token, htoken, ?_⟩)
    rw [ExprToken.name?_of_classify hterm]
    exact hname

/-- One term of a path: only a variable looks at the scope. -/
theorem Operands.step_agree (hscope : scope.AgreeOn names scope') {term : PathTerm}
    (hterm : ∀ name ∈ term.name?, name ∈ names) (state : Operands) :
    state.step scope term = state.step scope' term := by
  cases term with
  | «variable» name => rw [Operands.step, Operands.step, hscope.lookup?_eq (hterm name rfl)]
  | literal text | key name | concat | slice start stop | unsupported kind => rfl

theorem Operands.run_agree {stack : List ExprToken}
    (hnames : ∀ name ∈ ExprToken.namesOf stack, name ∈ names)
    (hscope : scope.AgreeOn names scope') (fail : Obstacle → Failure) (state : Operands) :
    Operands.run scope fail state stack = Operands.run scope' fail state stack := by
  refine Alike.eq_of_eq (Alike.foldlM (fun token htoken state state' hstate => ?_) rfl)
  subst hstate
  cases hterm : token.classify with
  | error failure => exact .error failure
  | ok term =>
    have hstep : state.step scope term = state.step scope' term := by
      refine Operands.step_agree hscope (fun name hname => ?_) state
      refine hnames name (List.mem_filterMap.2 ⟨token, htoken, ?_⟩)
      rw [ExprToken.name?_of_classify hterm]
      exact hname
    simp only [Except.bind, hstep]
    cases state.step scope' term with
    | error obstacle => exact .error _
    | ok next => exact .ok rfl

theorem foldPath_agree {stack : List ExprToken}
    (hnames : ∀ name ∈ ExprToken.namesOf stack, name ∈ names)
    (hscope : scope.AgreeOn names scope') : foldPath stack scope = foldPath stack scope' := by
  rw [foldPath, foldPath, Operands.run_agree hnames hscope]

end Evaluation

/-! ## Events -/

section Events

variable {names : List String} {document document' : Json}

/-- One loop further in. The first element is read by the key that belongs to every list of
names. -/
theorem Event.enterLoop_agree {scope scope' : Scope} {head : Logic}
    (hnames : ∀ name ∈ ExprToken.namesOf (Act.loop head).tokens, name ∈ names)
    (hfirst : "0" ∈ names) (hdocument : document.AgreeOn names document')
    (hscope : scope.AgreeOn names scope') :
    Alike (Scope.AgreeOn names) (enterLoop document scope head)
      (enterLoop document' scope' head) := by
  unfold enterLoop
  rw [Act.tokens] at hnames
  cases hsource : head.loopSource with
  | error failure => exact .error failure
  | ok source =>
    rw [hsource] at hnames
    simp only [bind, Except.bind]
    have hpoint := pointAt_agree hnames hdocument hscope
    revert hpoint
    generalize pointAt source document scope = outcome, pointAt source document' scope' = outcome'
    intro hpoint
    cases hpoint with
    | error failure => exact .error failure
    | @ok value value' hvalue =>
      have hinner := hscope.descend hvalue
      dsimp only
      rw [hvalue.property?_eq hfirst]
      split
      · exact .ok (hinner.bind _ _)
      · exact .ok hinner

theorem Event.scopeOf_agree {loops : List Logic}
    (hnames : ∀ head ∈ loops, ∀ name ∈ ExprToken.namesOf (Act.loop head).tokens, name ∈ names)
    (hfirst : "0" ∈ names) (hdocument : document.AgreeOn names document') :
    Alike (Scope.AgreeOn names) (scopeOf document loops) (scopeOf document' loops) := by
  have hstart : Scope.AgreeOn names { value := document } { value := document' } := ⟨hdocument, rfl⟩
  refine Alike.foldlM (fun head hhead scope scope' hscope => ?_) hstart
  exact enterLoop_agree (hnames head hhead) hfirst hdocument hscope

theorem Act.run_agree (site : Site) {scope scope' : Scope} {act : Act}
    (hnames : ∀ name ∈ ExprToken.namesOf act.tokens, name ∈ names) (hfirst : "0" ∈ names)
    (hdocument : document.AgreeOn names document') (hscope : scope.AgreeOn names scope') :
    act.run { site with document := document } scope =
      act.run { site with document := document' } scope' := by
  cases act with
  | loop head =>
    rw [Act.run, Act.run]
    have henter := Event.enterLoop_agree hnames hfirst hdocument hscope
    revert henter
    generalize Event.enterLoop document scope head = outcome,
      Event.enterLoop document' scope' head = outcome'
    intro henter
    cases henter <;> rfl
  | includePath kind stack =>
    cases stack with
    | none => rfl
    | some stack =>
      have hfold : foldPath stack scope = foldPath stack scope' := foldPath_agree hnames hscope
      rw [Act.run, Act.run, Event.computePath, Event.computePath, hfold]
      rfl
  | staticPaths stack => cases stack <;> rfl

/-- An event has the same outcome for documents that agree on the names around it and in it. -/
theorem Event.run_agree (site : Site) {event : Event}
    (hnames : ∀ name ∈ ExprToken.namesOf event.act.tokens, name ∈ names)
    (hloops : ∀ head ∈ event.loops, ∀ name ∈ ExprToken.namesOf (Act.loop head).tokens,
      name ∈ names)
    (hfirst : "0" ∈ names) (hdocument : document.AgreeOn names document') :
    event.run { site with document := document } =
      event.run { site with document := document' } := by
  unfold Event.run
  have hscope := scopeOf_agree hloops hfirst hdocument
  revert hscope
  dsimp only
  generalize scopeOf document event.loops = outcome, scopeOf document' event.loops = outcome'
  intro hscope
  cases hscope with
  | error failure => rfl
  | ok hscope =>
    simp only [bind, Except.bind]
    rw [Act.run_agree site hnames hfirst hdocument hscope]

end Events

/-! ## Whole trees -/

namespace Token

variable {tokens : List Token}

theorem mem_namesOf_of_event {event : Event} (hevent : event ∈ Token.eventsOf tokens)
    {name : String} (hname : name ∈ ExprToken.namesOf event.act.tokens) :
    name ∈ Token.namesOf tokens :=
  List.mem_cons_of_mem _ (List.mem_flatMap.2 ⟨event, hevent, hname⟩)

/-- The names in the source of a loop around an event are names of the tree: the loop is an event
itself. -/
theorem mem_namesOf_of_loop {event : Event} (hevent : event ∈ Token.eventsOf tokens)
    {head : Logic} (hhead : head ∈ event.loops) {name : String}
    (hname : name ∈ ExprToken.namesOf (Act.loop head).tokens) : name ∈ Token.namesOf tokens := by
  have hloop := Token.loops_of_mem_eventsAll tokens [] event hevent head hhead
  rcases hloop with hin | ⟨outer, houter, hact⟩
  · cases hin
  · rw [← hact] at hname
    exact mem_namesOf_of_event houter hname

end Token

namespace Site

/-- **Data that a template does not name cannot influence it.** Two documents that have the same
value, or both none, under every name of the tree lead to the same result at a site: the same tree
and the same dependencies, or the same failure. -/
theorem walk_reads_names (site : Site) {tokens : List Token} {fields fields' : List (String × Json)}
    (h : ∀ name ∈ Token.namesOf tokens,
      Entries.valueOf? name fields = Entries.valueOf? name fields') :
    { site with document := .object fields }.walk tokens =
      { site with document := .object fields' }.walk tokens := by
  have hdocument : (Json.object fields).AgreeOn (Token.namesOf tokens) (.object fields') :=
    .objects h
  refine walk_congr fun event hevent => ?_
  refine Event.run_agree site (fun name hname => ?_) (fun head hhead name hname => ?_)
    List.mem_cons_self hdocument
  · exact Token.mem_namesOf_of_event hevent hname
  · exact Token.mem_namesOf_of_loop hevent hhead hname

/-! ### A page over the whole document

The source of its loop is not found, so that the loop runs over the document, with its entry `0` as
the element at hand. -/

/-- A loop over `entries`, with an include of `"cards/" ~ card.type ~ skin.name`. -/
def rootPageOf (card : List ExprToken) : List Token :=
  [⟨.logic, some
    { kind := .forLoop
      body := some [⟨.logic, some ⟨.includeFile, none, some card, none, []⟩, []⟩]
      stack := none
      expression := some (.array [.object
        [("type", .string "Twig.expression.type.variable"), ("value", .string "entries")]])
      fields := [("valueVar", .string "card")] }, []⟩]

def rootPage : List Token :=
  rootPageOf
    [.ofText "cards/", ⟨.variable, [("value", .string "card")]⟩,
      ⟨.keyPeriod, [("key", .string "type")]⟩,
      ⟨.binaryOperator, [("operator", .string "~"), ("associativity", .string "leftToRight")]⟩,
      ⟨.variable, [("value", .string "skin")]⟩, ⟨.keyPeriod, [("key", .string "name")]⟩]

def rootData (others : List (String × Json)) : List (String × Json) :=
  ("0", .object [("type", .string "a")]) :: ("skin", .object [("name", .string "-b")]) :: others

def rootSite (others : List (String × Json)) : Site :=
  { cards with document := .object (rootData others) }

theorem walk_reads_names_rootPage :
    Token.namesOf rootPage = ["0", "entries", "card", "type", "skin", "name"] ∧
    (∀ name ∈ Token.namesOf rootPage,
      Entries.valueOf? name (rootData [("secret", .string "x")]) =
        Entries.valueOf? name (rootData [("cards", .null), ("secret", .bool true)])) ∧
    (rootSite [("secret", .string "x")]).walk rootPage =
      (rootSite [("cards", .null), ("secret", .bool true)]).walk rootPage ∧
    (rootSite [("secret", .string "x")]).walk rootPage =
      .ok (rootPageOf [.ofText "@id/t/cards/a-b"], ["cards/a-b"]) := by
  have hnames : Token.namesOf rootPage = ["0", "entries", "card", "type", "skin", "name"] := rfl
  have hagree : ∀ name ∈ Token.namesOf rootPage,
      Entries.valueOf? name (rootData [("secret", .string "x")]) =
        Entries.valueOf? name (rootData [("cards", .null), ("secret", .bool true)]) := by
    rw [hnames]
    simp [rootData, Entries.valueOf?]
  exact ⟨hnames, hagree, walk_reads_names cards hagree, rfl⟩

end Site

end TemplateBundler
