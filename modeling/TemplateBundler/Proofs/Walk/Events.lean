import TemplateBundler.Proofs.Gather
import TemplateBundler.Template.Walk

/-!
# Events: what a walk does, place by place

A tree is flattened into its events in the order of the document. An event knows the loops around
it, so that its scope can be computed from them alone, without the walk. Walking the tree is running
its events one after another: the same dependencies in the same order, the same stacks, and the same
first failure.

* `Event`, `Token.eventsAll`: the events of a tree;
* `Event.scopeOf`: the scope inside a row of loops, the outermost first;
* `Event.computePath`, `Event.record`: the path of an event, and what is recorded of it;
* `Event.run`: an event on its own, in the scope of its loops;
* `Token.forestInduction`: induction over a tree, construct by construct;
* `walkAll_events`: walking commutes with listing events;
* `walkAll_congr`: a walk depends on nothing but the outcomes of its events.
-/

namespace TemplateBundler

/-! ## The events of a tree -/

/-- What happens at one place of a tree. -/
inductive Act where
  | loop (head : Logic)
  /-- The path of an `extends` or an `include`, which may have to be computed. -/
  | includePath (kind : LogicKind) (stack : Option (List ExprToken))
  /-- The path of an `embed`, an `import` or a `from`, of which the literals count. -/
  | staticPaths (stack : Option (List ExprToken))

/-- Something that happens inside the given loops, the outermost first. -/
structure Event where
  loops : List Logic
  act : Act

def Logic.head (logic : Logic) : Logic := { logic with body := none }

mutual

def Token.events (loops : List Logic) : Token → List Event
  | ⟨.logic, some logic, _⟩ => logic.events loops
  | _ => []

/-- The events of a construct. A loop comes before its body, an embed after its body. -/
def Logic.events (loops : List Logic) : Logic → List Event
  | ⟨kind, body, stack, expression, fields⟩ =>
    match kind with
    | .forLoop =>
      ⟨loops, .loop ⟨kind, none, stack, expression, fields⟩⟩ ::
        Token.bodyEvents (loops ++ [⟨kind, none, stack, expression, fields⟩]) body
    | .block | .ifTrue | .elseIf | .otherwise | .spaceless | .setCapture | .macroBody =>
      Token.bodyEvents loops body
    | .extend | .includeFile => [⟨loops, .includePath kind stack⟩]
    | .embed => Token.bodyEvents loops body ++ [⟨loops, .staticPaths stack⟩]
    | .importAll | .importNames =>
      if expression.bind Json.asString? = some "_self" then [] else [⟨loops, .staticPaths stack⟩]
    | .other _ => []

def Token.bodyEvents (loops : List Logic) : Option (List Token) → List Event
  | none => []
  | some tokens => Token.eventsAll loops tokens

def Token.eventsAll (loops : List Logic) : List Token → List Event
  | [] => []
  | token :: rest => token.events loops ++ Token.eventsAll loops rest

end

def Token.eventsOf (tokens : List Token) : List Event := Token.eventsAll [] tokens

namespace Event

/-! ## Running an event -/

/-- One loop further in: its source is pointed at in the scope around it, the scope descends to the
value found, and the loop's variable stands for the first element, when both exist. -/
def enterLoop (document : Json) (scope : Scope) (head : Logic) : Except Failure Scope := do
  let source ← head.loopSource
  let value ← pointAt source document scope
  let inner := scope.descend value
  match head.loopVariable?, value.property? "0" with
  | some name, some first => return inner.bind name first
  | _, _ => return inner

def scopeOf (document : Json) (loops : List Logic) : Except Failure Scope :=
  loops.foldlM (enterLoop document) { value := document }

/-- A token of a path and the term that it stands for: a literal gets the identifier of its target
as its value, any other token stays as it is. -/
def stamp (site : Site) (token : ExprToken) : PathTerm → ExprToken
  | .literal path => token.setValue (.string (site.identify
      (Path.resolve site.workingDirectory site.directory (site.namespaces.resolve path))))
  | _ => token

def target? (namespaces : Namespaces) : PathTerm → Option String
  | .literal path => some (namespaces.resolve path)
  | _ => none

def record (site : Site) (stack : List ExprToken) :
    Except Failure (List ExprToken × List String) := do
  let terms ← stack.mapM ExprToken.classify
  return (List.zipWith (stamp site) stack terms, terms.filterMap (target? site.namespaces))

/-- The path of an include: literals stay as they are, anything else is computed in the scope. -/
def computePath (scope : Scope) (stack : List ExprToken) : Except Failure (List ExprToken) :=
  if stack.all ExprToken.isLiteral then .ok stack
  else (foldPath stack scope).map fun path => [.ofText path]

end Event

def Act.run (site : Site) (scope : Scope) : Act → Except Failure (Act × List String)
  | .loop head => (Event.enterLoop site.document scope head).map fun _ => (.loop head, [])
  | .includePath kind none => .error (.missingField kind.name "stack")
  | .includePath kind (some stack) => do
    let path ← Event.computePath scope stack
    let (stack, found) ← Event.record site path
    return (.includePath kind (some stack), found)
  | .staticPaths none => .ok (.staticPaths none, [])
  | .staticPaths (some stack) => do
    let (stack, found) ← Event.record site stack
    return (.staticPaths (some stack), found)

/-- An event on its own: its scope comes from its loops alone. -/
def Event.run (site : Site) (event : Event) : Except Failure (Event × List String) := do
  let scope ← scopeOf site.document event.loops
  let (act, found) ← event.act.run site scope
  return ({ event with act := act }, found)

/-! ## Induction over a tree -/

/-- A property of trees holds of all of them if it passes from the children of a construct and from
the nodes behind it to the list that begins with the construct. -/
@[elab_as_elim]
theorem Token.forestInduction {motive : List Token → Prop} (nil : motive [])
    (skip : ∀ token rest, token.construct? = none → motive rest → motive (token :: rest))
    (construct : ∀ logic fields rest, motive logic.children → motive rest →
      motive (⟨.logic, some logic, fields⟩ :: rest)) :
    ∀ tokens, motive tokens
  | [] => nil
  | ⟨.logic, some ⟨_, none, _, _, _⟩, fields⟩ :: rest =>
    construct _ fields rest nil (forestInduction nil skip construct rest)
  | ⟨.logic, some ⟨_, some body, _, _, _⟩, fields⟩ :: rest =>
    construct _ fields rest (forestInduction nil skip construct body)
      (forestInduction nil skip construct rest)
  | ⟨.logic, none, _⟩ :: rest => skip _ rest rfl (forestInduction nil skip construct rest)
  | ⟨.raw, _, _⟩ :: rest => skip _ rest rfl (forestInduction nil skip construct rest)
  | ⟨.output, _, _⟩ :: rest => skip _ rest rfl (forestInduction nil skip construct rest)
  | ⟨.other _, _, _⟩ :: rest => skip _ rest rfl (forestInduction nil skip construct rest)

theorem Token.walk_of_construct?_eq_none {token : Token} (h : token.construct? = none)
    (site : Site) (scope : Scope) : token.walk site scope = .ok (token, []) := by
  obtain ⟨kind, logic, fields⟩ := token
  cases kind with
  | logic =>
    cases logic with
    | none => rfl
    | some logic => cases h
  | raw | output | other name => rfl

theorem Token.events_of_construct?_eq_none {token : Token} (h : token.construct? = none)
    (loops : List Logic) : token.events loops = [] := by
  obtain ⟨kind, logic, fields⟩ := token
  cases kind with
  | logic =>
    cases logic with
    | none => rfl
    | some logic => cases h
  | raw | output | other name => rfl

theorem Token.bodyEvents_eq (loops : List Logic) (body : Option (List Token)) :
    Token.bodyEvents loops body = Token.eventsAll loops (body.getD []) := by
  cases body <;> rfl

/-! ## The scope of an event -/

namespace Event

theorem loopScope_eq (site : Site) (scope : Scope) (logic : Logic) :
    site.loopScope scope logic = enterLoop site.document scope logic.head := by
  unfold Site.loopScope enterLoop
  have hsource : logic.head.loopSource = logic.loopSource := rfl
  have hvariable : logic.head.loopVariable? = logic.loopVariable? := rfl
  rw [hsource, hvariable]
  cases logic.loopSource with
  | error failure => rfl
  | ok source =>
    simp only [bind, Except.bind]
    cases pointAt source site.document scope with
    | error failure => rfl
    | ok value =>
      simp only [Scope.enter, Scope.firstElement?, Scope.descend]
      cases logic.loopVariable? <;> cases value.property? "0" <;> rfl

theorem recordToken_eq (site : Site) (token : ExprToken) :
    site.recordToken token = token.classify.map fun term =>
      (stamp site token term, (target? site.namespaces term).toList) := by
  unfold Site.recordToken
  cases token.classify with
  | error failure => rfl
  | ok term => cases term <;> rfl

theorem recordStack_eq (site : Site) (stack : List ExprToken) :
    site.recordStack stack = record site stack := by
  unfold record
  induction stack with
  | nil => rfl
  | cons token rest ih =>
    rw [Site.recordStack, recordToken_eq, List.mapM_cons, ih]
    cases token.classify with
    | error failure => rfl
    | ok term =>
      cases rest.mapM ExprToken.classify with
      | error failure => rfl
      | ok terms =>
        simp only [bind, Except.bind, Except.map, pure, Except.pure, List.zipWith_cons_cons]
        cases htarget : target? site.namespaces term <;> simp [htarget]

theorem recordInclude_eq (site : Site) (scope : Scope) (stack : List ExprToken) :
    site.recordInclude scope stack = (computePath scope stack).bind (record site) := by
  unfold Site.recordInclude computePath
  split
  · exact recordStack_eq site stack
  · cases foldPath stack scope with
    | error failure => rfl
    | ok path => exact recordStack_eq site [.ofText path]

theorem scopeOf_append {document : Json} {loops : List Logic} {scope : Scope}
    (h : scopeOf document loops = .ok scope) (head : Logic) :
    scopeOf document (loops ++ [head]) = enterLoop document scope head := by
  unfold scopeOf at h ⊢
  rw [List.foldlM_append, h]
  simp only [List.foldlM_cons, List.foldlM_nil, bind_pure]
  rfl

theorem run_of_scopeOf {site : Site} {loops : List Logic} {scope : Scope}
    (h : scopeOf site.document loops = .ok scope) (act : Act) :
    run site ⟨loops, act⟩ =
      (act.run site scope).map fun outcome => (⟨loops, outcome.1⟩, outcome.2) := by
  simp only [run, h, bind, Except.bind]
  cases act.run site scope <;> rfl

theorem run_eq_ok {site : Site} {event event' : Event} {found : List String}
    (h : event.run site = .ok (event', found)) :
    ∃ scope, scopeOf site.document event.loops = .ok scope ∧
      event'.loops = event.loops ∧ event.act.run site scope = .ok (event'.act, found) := by
  cases hscope : scopeOf site.document event.loops with
  | error failure => simp [run, hscope, bind, Except.bind] at h
  | ok scope =>
    rw [run_of_scopeOf hscope] at h
    cases hact : event.act.run site scope with
    | error failure => rw [hact] at h; cases h
    | ok outcome =>
      rw [hact] at h
      cases h
      exact ⟨scope, rfl, rfl, hact⟩

end Event

theorem Act.run_includePath (site : Site) (scope : Scope) (kind : LogicKind)
    (stack : List ExprToken) :
    Act.run site scope (.includePath kind (some stack)) =
      (site.recordInclude scope stack).map fun outcome =>
        (.includePath kind (some outcome.1), outcome.2) := by
  rw [Event.recordInclude_eq, Act.run]
  cases Event.computePath scope stack with
  | error failure => rfl
  | ok path =>
    simp only [bind, Except.bind]
    cases Event.record site path <;> rfl

theorem Act.run_staticPaths (site : Site) (scope : Scope) (stack : Option (List ExprToken)) :
    Act.run site scope (.staticPaths stack) =
      (site.recordOptional stack).map fun outcome => (.staticPaths outcome.1, outcome.2) := by
  cases stack with
  | none => rfl
  | some stack =>
    rw [Site.recordOptional, Event.recordStack_eq, Act.run]
    cases Event.record site stack <;> rfl

/-- All that can happen where something succeeds: a loop is entered, the path of an include is
recorded, or the literals of a stack are, if there is a stack. -/
theorem Act.run_cases {site : Site} {scope : Scope} {act act' : Act} {found : List String}
    (h : act.run site scope = .ok (act', found)) :
    (∃ head inner, act = .loop head ∧ Event.enterLoop site.document scope head = .ok inner ∧
      act' = .loop head ∧ found = []) ∨
    (∃ kind stack stack', act = .includePath kind (some stack) ∧
      site.recordInclude scope stack = .ok (stack', found) ∧
      act' = .includePath kind (some stack')) ∨
    (act = .staticPaths none ∧ act' = .staticPaths none ∧ found = []) ∨
    (∃ stack stack', act = .staticPaths (some stack) ∧
      site.recordStack stack = .ok (stack', found) ∧ act' = .staticPaths (some stack')) := by
  cases act with
  | loop head =>
    rw [Act.run] at h
    cases henter : Event.enterLoop site.document scope head with
    | error failure => rw [henter] at h; cases h
    | ok inner =>
      rw [henter] at h
      cases h
      exact .inl ⟨head, inner, rfl, henter, rfl, rfl⟩
  | includePath kind stack =>
    cases stack with
    | none => cases h
    | some stack =>
      rw [Act.run_includePath] at h
      cases hrecord : site.recordInclude scope stack with
      | error failure => rw [hrecord] at h; cases h
      | ok outcome =>
        rw [hrecord] at h
        cases h
        exact .inr (.inl ⟨kind, stack, outcome.1, rfl, hrecord, rfl⟩)
  | staticPaths stack =>
    cases stack with
    | none =>
      cases h
      exact .inr (.inr (.inl ⟨rfl, rfl, rfl⟩))
    | some stack =>
      rw [Act.run_staticPaths, Site.recordOptional] at h
      cases hrecord : site.recordStack stack with
      | error failure => rw [hrecord] at h; cases h
      | ok outcome =>
        rw [hrecord] at h
        cases h
        exact .inr (.inr (.inr ⟨stack, outcome.1, rfl, hrecord, rfl⟩))

/-! ## Walking is running the events -/

theorem Token.walkBody_events {site : Site} {scope : Scope} {loops : List Logic}
    {body : Option (List Token)}
    (h : (Token.walkAll site scope (body.getD [])).map
        (fun result => (Token.eventsAll loops result.1, result.2)) =
      gather (Event.run site) (Token.eventsAll loops (body.getD []))) :
    (Token.walkBody site scope body).map
        (fun result => (Token.bodyEvents loops result.1, result.2)) =
      gather (Event.run site) (Token.bodyEvents loops body) := by
  cases body with
  | none => rfl
  | some tokens =>
    rw [Token.bodyEvents_eq, ← h, Token.walkBody]
    show _ = (Token.walkAll site scope tokens).map _
    cases Token.walkAll site scope tokens <;> rfl

theorem Logic.walk_events {site : Site} {logic : Logic}
    (ih : ∀ loops scope, Event.scopeOf site.document loops = .ok scope →
      (Token.walkAll site scope logic.children).map
          (fun result => (Token.eventsAll loops result.1, result.2)) =
        gather (Event.run site) (Token.eventsAll loops logic.children))
    {loops : List Logic} {scope : Scope} (hscope : Event.scopeOf site.document loops = .ok scope) :
    (logic.walk site scope).map (fun result => (result.1.events loops, result.2)) =
      gather (Event.run site) (logic.events loops) := by
  obtain ⟨kind, body, stack, expression, fields⟩ := logic
  have hrun := Event.run_of_scopeOf hscope
  have hbody := Token.walkBody_events (ih loops scope hscope)
  cases kind with
  | forLoop =>
    simp only [Logic.walk, Logic.events, Event.loopScope_eq, Logic.head]
    generalize hhead : Logic.mk .forLoop none stack expression fields = head
    have henter := hrun (.loop head)
    rw [Act.run] at henter
    cases hinner : Event.enterLoop site.document scope head with
    | error failure =>
      rw [hinner] at henter
      rw [gather_cons_of_error henter]
      rfl
    | ok inner =>
      rw [hinner] at henter
      have hscope' := (Event.scopeOf_append hscope head).trans hinner
      have hinside := Token.walkBody_events (ih _ inner hscope')
      rw [gather_cons_of_ok henter, ← hinside]
      subst hhead
      dsimp only
      cases Token.walkBody site inner body <;> rfl
  | block | ifTrue | elseIf | otherwise | spaceless | setCapture | macroBody =>
    simp only [Logic.walk, Logic.events, ← hbody]
    cases Token.walkBody site scope body <;> rfl
  | extend | includeFile =>
    simp only [Logic.walk, Logic.events, gather_singleton, hrun]
    cases stack with
    | none => rfl
    | some stack =>
      simp only [Act.run_includePath]
      cases site.recordInclude scope stack <;> rfl
  | embed =>
    simp only [Logic.walk, Logic.events, gather_append, gather_singleton, hrun, Act.run_staticPaths,
      ← hbody]
    cases Token.walkBody site scope body with
    | error failure => rfl
    | ok inside => cases site.recordOptional stack <;> rfl
  | importAll | importNames =>
    simp only [Logic.walk, Logic.events, Logic.refersToSelf, Logic.expressionText?, beq_iff_eq]
    by_cases hself : expression.bind Json.asString? = some "_self"
    · simp only [hself, if_true, Except.map, Logic.events, gather_nil]
    · simp only [hself, if_false, gather_singleton, hrun, Act.run_staticPaths]
      cases site.recordOptional stack with
      | error failure => rfl
      | ok outcome => simp only [Except.map, Logic.events, hself, if_false]
  | other name => rfl

/-- **Walking is running the events.** In a scope that belongs to the loops around it, a list of
nodes walked and then listed as events is its list of events run one after another. -/
theorem Token.walkAll_events (site : Site) (tokens : List Token) :
    ∀ loops scope, Event.scopeOf site.document loops = .ok scope →
      (Token.walkAll site scope tokens).map
          (fun result => (Token.eventsAll loops result.1, result.2)) =
        gather (Event.run site) (Token.eventsAll loops tokens) := by
  induction tokens using Token.forestInduction with
  | nil =>
    intro loops scope _
    rfl
  | skip token rest htoken ih =>
    intro loops scope hscope
    rw [Token.walkAll, Token.walk_of_construct?_eq_none htoken, Token.eventsAll,
      Token.events_of_construct?_eq_none htoken, List.nil_append, ← ih loops scope hscope]
    dsimp only
    cases Token.walkAll site scope rest with
    | error failure => rfl
    | ok result =>
      simp only [Except.map, Token.eventsAll, Token.events_of_construct?_eq_none htoken,
        List.nil_append]
  | construct logic fields rest ihbody ihrest =>
    intro loops scope hscope
    rw [Token.walkAll, Token.walk, Token.eventsAll, Token.events, gather_append,
      ← Logic.walk_events ihbody hscope, ← ihrest loops scope hscope]
    cases logic.walk site scope with
    | error failure => rfl
    | ok walked =>
      simp only [Except.map, Except.bind]
      cases Token.walkAll site scope rest <;> rfl

/-! ## A walk depends on its events alone -/

theorem exceptMap_fst_injective {ε α β γ : Type} {f : α → β} (hf : Function.Injective f)
    {x y : Except ε (α × γ)}
    (h : x.map (fun outcome => (f outcome.1, outcome.2)) =
      y.map (fun outcome => (f outcome.1, outcome.2))) : x = y := by
  cases x <;> cases y <;> simp_all [Except.map, hf.eq_iff, Prod.ext_iff]

theorem Event.act_run_eq {site site' : Site} {loops : List Logic} {scope scope' : Scope} {act : Act}
    (hscope : scopeOf site.document loops = .ok scope)
    (hscope' : scopeOf site'.document loops = .ok scope')
    (h : run site ⟨loops, act⟩ = run site' ⟨loops, act⟩) :
    act.run site scope = act.run site' scope' := by
  rw [run_of_scopeOf hscope, run_of_scopeOf hscope'] at h
  refine exceptMap_fst_injective (f := Event.mk loops) (fun x y hxy => ?_) h
  exact (Event.mk.injEq ..).mp hxy |>.2

/-- Where entering a loop has the same outcome, both scopes fail alike or both let it in. -/
theorem Act.enterLoop_of_run {site site' : Site} {scope scope' : Scope} {head : Logic}
    (h : Act.run site scope (.loop head) = Act.run site' scope' (.loop head)) :
    (∃ failure, Event.enterLoop site.document scope head = .error failure ∧
      Event.enterLoop site'.document scope' head = .error failure) ∨
    (∃ inner inner', Event.enterLoop site.document scope head = .ok inner ∧
      Event.enterLoop site'.document scope' head = .ok inner') := by
  rw [Act.run, Act.run] at h
  cases hinner : Event.enterLoop site.document scope head <;>
    cases hinner' : Event.enterLoop site'.document scope' head <;>
    simp_all [Except.map]

theorem Act.recordOptional_eq_of_run {site site' : Site} {scope scope' : Scope}
    {stack : Option (List ExprToken)}
    (h : Act.run site scope (.staticPaths stack) = Act.run site' scope' (.staticPaths stack)) :
    site.recordOptional stack = site'.recordOptional stack := by
  rw [Act.run_staticPaths, Act.run_staticPaths] at h
  exact exceptMap_fst_injective (f := Act.staticPaths) (fun _ _ => Act.staticPaths.inj) h

theorem Act.recordInclude_eq_of_run {site site' : Site} {scope scope' : Scope} {kind : LogicKind}
    {stack : List ExprToken}
    (h : Act.run site scope (.includePath kind (some stack)) =
      Act.run site' scope' (.includePath kind (some stack))) :
    site.recordInclude scope stack = site'.recordInclude scope' stack := by
  rw [Act.run_includePath, Act.run_includePath] at h
  refine exceptMap_fst_injective (f := fun tokens => Act.includePath kind (some tokens))
    (fun x y hxy => ?_) h
  simpa using hxy

theorem Token.walkBody_congr {site site' : Site} {scope scope' : Scope} {body : Option (List Token)}
    (h : Token.walkAll site scope (body.getD []) = Token.walkAll site' scope' (body.getD [])) :
    Token.walkBody site scope body = Token.walkBody site' scope' body := by
  cases body with
  | none => rfl
  | some tokens =>
    rw [Token.walkBody, Token.walkBody]
    exact congrArg _ h

theorem Logic.walk_congr {site site' : Site} {logic : Logic}
    (ih : ∀ loops scope scope', Event.scopeOf site.document loops = .ok scope →
      Event.scopeOf site'.document loops = .ok scope' →
      (∀ event ∈ Token.eventsAll loops logic.children, event.run site = event.run site') →
      Token.walkAll site scope logic.children = Token.walkAll site' scope' logic.children)
    {loops : List Logic} {scope scope' : Scope}
    (hscope : Event.scopeOf site.document loops = .ok scope)
    (hscope' : Event.scopeOf site'.document loops = .ok scope')
    (h : ∀ event ∈ logic.events loops, event.run site = event.run site') :
    logic.walk site scope = logic.walk site' scope' := by
  obtain ⟨kind, body, stack, expression, fields⟩ := logic
  cases kind with
  | forLoop =>
    simp only [Logic.events, List.forall_mem_cons, Token.bodyEvents_eq] at h
    simp only [Logic.walk, Event.loopScope_eq, Logic.head]
    rcases Act.enterLoop_of_run (Event.act_run_eq hscope hscope' h.1) with
      ⟨failure, hinner, hinner'⟩ | ⟨inner, inner', hinner, hinner'⟩
    · rw [hinner, hinner']
    · have hwalk := ih _ inner inner' ((Event.scopeOf_append hscope _).trans hinner)
        ((Event.scopeOf_append hscope' _).trans hinner') h.2
      rw [hinner, hinner']
      dsimp only
      rw [Token.walkBody_congr hwalk]
  | block | ifTrue | elseIf | otherwise | spaceless | setCapture | macroBody =>
    simp only [Logic.events, Token.bodyEvents_eq] at h
    have hwalk := ih loops scope scope' hscope hscope' h
    simp only [Logic.walk, Token.walkBody_congr hwalk]
  | extend | includeFile =>
    simp only [Logic.events, List.mem_singleton, forall_eq] at h
    have hrun := Event.act_run_eq hscope hscope' h
    cases stack with
    | none => rfl
    | some stack =>
      simp only [Logic.walk, Act.recordInclude_eq_of_run hrun]
  | embed =>
    simp only [Logic.events, List.forall_mem_append, List.mem_singleton, forall_eq,
      Token.bodyEvents_eq] at h
    have hwalk := ih loops scope scope' hscope hscope' h.1
    have hrun := Event.act_run_eq hscope hscope' h.2
    simp only [Logic.walk, Token.walkBody_congr hwalk, Act.recordOptional_eq_of_run hrun]
  | importAll | importNames =>
    by_cases hself : expression.bind Json.asString? = some "_self"
    · simp only [Logic.walk, Logic.refersToSelf, Logic.expressionText?, hself, beq_self_eq_true,
        if_true]
    · simp only [Logic.events, hself, if_false, List.mem_singleton, forall_eq] at h
      have hrun := Event.act_run_eq hscope hscope' h
      simp only [Logic.walk, Act.recordOptional_eq_of_run hrun]
  | other name => rfl

/-- Two walks through one tree, in scopes that belong to the same loops, give the same result if
each event has the same outcome at both sites. -/
theorem Token.walkAll_congr {site site' : Site} (tokens : List Token) :
    ∀ loops scope scope', Event.scopeOf site.document loops = .ok scope →
      Event.scopeOf site'.document loops = .ok scope' →
      (∀ event ∈ Token.eventsAll loops tokens, event.run site = event.run site') →
      Token.walkAll site scope tokens = Token.walkAll site' scope' tokens := by
  induction tokens using Token.forestInduction with
  | nil =>
    intro loops scope scope' _ _ _
    rfl
  | skip token rest htoken ih =>
    intro loops scope scope' hscope hscope' h
    rw [Token.eventsAll, Token.events_of_construct?_eq_none htoken, List.nil_append] at h
    rw [Token.walkAll, Token.walkAll, ih loops scope scope' hscope hscope' h,
      Token.walk_of_construct?_eq_none htoken, Token.walk_of_construct?_eq_none htoken]
  | construct logic fields rest ihbody ihrest =>
    intro loops scope scope' hscope hscope' h
    rw [Token.eventsAll, Token.events, List.forall_mem_append] at h
    rw [Token.walkAll, Token.walkAll, Token.walk, Token.walk,
      Logic.walk_congr ihbody hscope hscope' h.1, ihrest loops scope scope' hscope hscope' h.2]

/-! ## Whole trees -/

namespace Site

theorem walk_events (site : Site) (tokens : List Token) :
    (site.walk tokens).map (fun result => (Token.eventsOf result.1, result.2)) =
      gather (Event.run site) (Token.eventsOf tokens) :=
  Token.walkAll_events site tokens [] _ rfl

theorem gather_events_of_walk {site : Site} {tokens walked : List Token} {found : List String}
    (h : site.walk tokens = .ok (walked, found)) :
    gather (Event.run site) (Token.eventsOf tokens) = .ok (Token.eventsOf walked, found) := by
  rw [← walk_events, h]
  rfl

theorem walk_congr {site site' : Site} {tokens : List Token}
    (h : ∀ event ∈ Token.eventsOf tokens, event.run site = event.run site') :
    site.walk tokens = site'.walk tokens :=
  Token.walkAll_congr tokens [] _ _ rfl rfl h

/-- **The walk is its events, one after another, each in the scope of its own loops.** It succeeds
exactly when every event succeeds; then its dependencies are those of the events put together in
order, and the events of the resulting tree are the events with their paths recorded. It fails
exactly with the failure of the first event that fails. -/
theorem walk_runs_events (site : Site) (tokens : List Token) :
    ((∃ result, site.walk tokens = .ok result) ↔
      ∀ event ∈ Token.eventsOf tokens, ∃ outcome, event.run site = .ok outcome) ∧
    (∀ walked found, site.walk tokens = .ok (walked, found) →
      ∃ outcomes : List (Event × List String),
        List.Forall₂ (fun event outcome => event.run site = .ok outcome)
          (Token.eventsOf tokens) outcomes ∧
        Token.eventsOf walked = outcomes.map Prod.fst ∧ found = outcomes.flatMap Prod.snd) ∧
    (∀ failure, site.walk tokens = .error failure ↔
      ∃ before event after, Token.eventsOf tokens = before ++ event :: after ∧
        (∀ earlier ∈ before, ∃ outcome, earlier.run site = .ok outcome) ∧
        event.run site = .error failure) := by
  have hevents := walk_events site tokens
  refine ⟨?_, ?_, ?_⟩
  · rw [← gather_isOk_iff, ← hevents]
    cases site.walk tokens <;> simp [Except.map]
  · intro walked found h
    exact gather_eq_ok_iff.1 (gather_events_of_walk h)
  · intro failure
    rw [← gather_eq_error_iff, ← hevents]
    cases site.walk tokens <;> simp [Except.map]

end Site

end TemplateBundler
