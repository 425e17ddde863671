import Mathlib.Data.List.Induction
import TemplateBundler.Proofs.Data.Pointing
import TemplateBundler.Proofs.Walk.Identifiers

/-!
# Closed: trees that need no data

A tree is closed when every loop has a source of tokens that stand for something, every include a
path of literals, and every other path tokens that stand for something. Walking a closed tree
succeeds at every site, finds exactly its literals, and does not look at the document. What a walk
leaves behind is closed.

* `Act.Closed`: an event that no data can make fail;
* `Event.enterLoop_isOk_iff`: a loop is refused because of a token, never because of the data;
* `Site.walk_of_closed`, `Site.walk_document`: walking a closed tree;
* `Event.run_closed`: an event that has run is closed;
* `Site.walk_again`: walking a second time.
-/

namespace TemplateBundler

/-! ## Loops -/

/-- The loop has a source, and every token of it stands for something. -/
def Logic.HasSource (head : Logic) : Prop :=
  ∃ source, head.loopSource = .ok source ∧ ∀ token ∈ source, ∃ term, token.classify = .ok term

namespace Event

theorem enterLoop_isOk_iff {document : Json} {scope : Scope} {head : Logic} :
    (∃ inner, enterLoop document scope head = .ok inner) ↔ head.HasSource := by
  unfold enterLoop Logic.HasSource
  cases head.loopSource with
  | error failure => simp [bind, Except.bind]
  | ok source =>
    simp only [bind, Except.bind, Except.ok.injEq, exists_eq_left']
    rw [← pointAt_isOk_iff]
    cases pointAt source document scope with
    | error failure => simp
    | ok value =>
      refine iff_of_true ?_ ⟨value, rfl⟩
      dsimp only
      split <;> exact ⟨_, rfl⟩

theorem scopeOf_isOk {document : Json} {loops : List Logic} (h : ∀ head ∈ loops, head.HasSource) :
    ∃ scope, scopeOf document loops = .ok scope := by
  induction loops using List.reverseRecOn with
  | nil => exact ⟨_, rfl⟩
  | append_singleton outer head ih =>
    rw [List.forall_mem_append] at h
    obtain ⟨scope, hscope⟩ := ih h.1
    rw [scopeOf_append hscope]
    exact enterLoop_isOk_iff.2 (h.2 head List.mem_cons_self)

end Event

theorem Logic.loops_of_mem_events {logic : Logic}
    (ih : ∀ loops, ∀ event ∈ Token.eventsAll loops logic.children, ∀ head ∈ event.loops,
      head ∈ loops ∨ ∃ outer ∈ Token.eventsAll loops logic.children, outer.act = .loop head) :
    ∀ loops, ∀ event ∈ logic.events loops, ∀ head ∈ event.loops,
      head ∈ loops ∨ ∃ outer ∈ logic.events loops, outer.act = .loop head := by
  obtain ⟨kind, body, stack, expression, fields⟩ := logic
  intro loops event hevent head hhead
  cases kind with
  | forLoop =>
    simp only [Logic.events, Token.bodyEvents_eq, List.mem_cons] at hevent ⊢
    rcases hevent with rfl | hevent
    · exact .inl hhead
    · rcases ih _ event hevent head hhead with hin | ⟨outer, hmem, hact⟩
      · rw [List.mem_append, List.mem_singleton] at hin
        rcases hin with hin | rfl
        · exact .inl hin
        · exact .inr ⟨_, .inl rfl, rfl⟩
      · exact .inr ⟨outer, .inr hmem, hact⟩
  | block | ifTrue | elseIf | otherwise | spaceless | setCapture | macroBody =>
    simp only [Logic.events, Token.bodyEvents_eq] at hevent ⊢
    exact ih loops event hevent head hhead
  | extend | includeFile =>
    simp only [Logic.events, List.mem_singleton] at hevent
    subst hevent
    exact .inl hhead
  | embed =>
    simp only [Logic.events, Token.bodyEvents_eq, List.mem_append, List.mem_singleton] at hevent ⊢
    rcases hevent with hevent | rfl
    · rcases ih loops event hevent head hhead with hin | ⟨outer, hmem, hact⟩
      · exact .inl hin
      · exact .inr ⟨outer, .inl hmem, hact⟩
    · exact .inl hhead
  | importAll | importNames =>
    simp only [Logic.events] at hevent
    split at hevent
    · cases hevent
    · rw [List.mem_singleton] at hevent
      subst hevent
      exact .inl hhead
  | other name => cases hevent

/-- Every loop around an event is one of the loops around the list, or an event itself. -/
theorem Token.loops_of_mem_eventsAll (tokens : List Token) :
    ∀ loops, ∀ event ∈ Token.eventsAll loops tokens, ∀ head ∈ event.loops,
      head ∈ loops ∨ ∃ outer ∈ Token.eventsAll loops tokens, outer.act = .loop head := by
  induction tokens using Token.forestInduction with
  | nil => simp [Token.eventsAll]
  | skip token rest htoken ih =>
    intro loops
    rw [Token.eventsAll, Token.events_of_construct?_eq_none htoken, List.nil_append]
    exact ih loops
  | construct logic fields rest ihbody ihrest =>
    intro loops event hevent head hhead
    rw [Token.eventsAll, Token.events, List.mem_append] at hevent
    rw [Token.eventsAll, Token.events]
    rcases hevent with hevent | hevent
    · have h := Logic.loops_of_mem_events ihbody loops event hevent head hhead
      rcases h with hin | ⟨outer, hmem, hact⟩
      · exact .inl hin
      · exact .inr ⟨outer, List.mem_append_left _ hmem, hact⟩
    · rcases ihrest loops event hevent head hhead with hin | ⟨outer, hmem, hact⟩
      · exact .inl hin
      · exact .inr ⟨outer, List.mem_append_right _ hmem, hact⟩

/-! ## Texts of literals -/

def ExprToken.text? (token : ExprToken) : Option String := token.value?.bind Json.asString?

def ExprToken.literalTexts (stack : List ExprToken) : List String :=
  (stack.filter ExprToken.isLiteral).filterMap ExprToken.text?

/-- The texts of the literals in the paths of a tree, in the order of its events. -/
def Token.textsOf (tokens : List Token) : List String :=
  (Token.eventsOf tokens).flatMap fun event => ExprToken.literalTexts event.stack

theorem Token.textsOf_eq (tokens : List Token) :
    Token.textsOf tokens = (Token.literalsOf tokens).filterMap ExprToken.text? := by
  rw [Token.literalsOf, List.filterMap_flatMap]
  rfl

namespace ExprToken

theorem literalTexts_eq_flatMap (stack : List ExprToken) :
    literalTexts stack = stack.flatMap fun token => literalTexts [token] := by
  induction stack with
  | nil => rfl
  | cons token rest ih =>
    rw [List.flatMap_cons, ← ih]
    simp only [literalTexts]
    rw [← List.filterMap_append, ← List.filter_append, List.singleton_append]

theorem literalTexts_of_literal {token : ExprToken} {path : String}
    (h : token.classify = .ok (.literal path)) : literalTexts [token] = [path] := by
  obtain ⟨hlit, hvalue⟩ := classify_eq_literal_iff.1 h
  simp [literalTexts, hlit, text?, hvalue, Json.asString?]

theorem literalTexts_of_other {token : ExprToken} (h : token.isLiteral = false) :
    literalTexts [token] = [] := by
  simp [literalTexts, h]

end ExprToken

/-- Where every token stands for something, recording succeeds and finds the literals. -/
theorem Site.recordStack_of_classify (site : Site) {stack : List ExprToken}
    (h : ∀ token ∈ stack, ∃ term, token.classify = .ok term) :
    ∃ stack', site.recordStack stack =
      .ok (stack', (ExprToken.literalTexts stack).map site.namespaces.resolve) := by
  rw [recordStack_eq_gather, ExprToken.literalTexts_eq_flatMap, List.map_flatMap]
  refine gather_of_forall fun token hmem => ?_
  obtain ⟨term, hterm⟩ := h token hmem
  cases hlit : token.isLiteral with
  | true =>
    obtain ⟨path, rfl⟩ := ExprToken.isLiteral_classify hterm hlit
    rw [ExprToken.literalTexts_of_literal hterm]
    exact ⟨_, recordToken_literal hterm⟩
  | false =>
    rw [ExprToken.literalTexts_of_other hlit]
    exact ⟨_, recordToken_other hterm hlit⟩

/-! ## Closed events -/

/-- No data can make it fail: a loop has a source, an include a path of literals, and every token
stands for something. -/
def Act.Closed : Act → Prop
  | .loop head => head.HasSource
  | .includePath _ stack => ∃ tokens, stack = some tokens ∧
      ∀ token ∈ tokens, token.isLiteral = true ∧ ∃ term, token.classify = .ok term
  | .staticPaths stack => ∀ token ∈ stack.getD [], ∃ term, token.classify = .ok term

namespace Site

theorem recordInclude_of_isLiteral (site : Site) (scope : Scope) {stack : List ExprToken}
    (h : ∀ token ∈ stack, token.isLiteral = true) :
    site.recordInclude scope stack = site.recordStack stack := by
  rw [recordInclude, if_pos (List.all_eq_true.2 h)]

theorem recordStack_document (site : Site) (document : Json) (stack : List ExprToken) :
    { site with document := document }.recordStack stack = site.recordStack stack := by
  rw [recordStack_eq_gather, recordStack_eq_gather]
  exact gather_congr fun _ _ => rfl

end Site

theorem Act.run_of_closed (site : Site) (scope : Scope) (loops : List Logic) {act : Act}
    (h : act.Closed) :
    ∃ act', act.run site scope = .ok (act',
      (ExprToken.literalTexts (Event.mk loops act).stack).map site.namespaces.resolve) := by
  cases act with
  | loop head =>
    obtain ⟨inner, hinner⟩ : ∃ inner, Event.enterLoop site.document scope head = .ok inner :=
      Event.enterLoop_isOk_iff.2 h
    refine ⟨.loop head, ?_⟩
    rw [Act.run, hinner]
    rfl
  | includePath kind stack =>
    obtain ⟨tokens, rfl, htokens⟩ := h
    have hlit : ∀ token ∈ tokens, token.isLiteral = true := fun token hmem => (htokens token hmem).1
    obtain ⟨stack', hstack⟩ := site.recordStack_of_classify fun token hmem => (htokens token hmem).2
    refine ⟨.includePath kind (some stack'), ?_⟩
    rw [Act.run_includePath, site.recordInclude_of_isLiteral scope hlit, hstack]
    rfl
  | staticPaths stack =>
    cases stack with
    | none => exact ⟨.staticPaths none, rfl⟩
    | some stack =>
      obtain ⟨stack', hstack⟩ := site.recordStack_of_classify h
      rw [Option.getD_some] at hstack
      refine ⟨.staticPaths (some stack'), ?_⟩
      rw [Act.run_staticPaths, Site.recordOptional, hstack]
      rfl

/-- What a closed event does is the same whatever the document and the scope. -/
theorem Act.run_document (site : Site) (document : Json) (scope scope' : Scope) {act : Act}
    (h : act.Closed) :
    act.run { site with document := document } scope' = act.run site scope := by
  cases act with
  | loop head =>
    obtain ⟨inner, hinner⟩ : ∃ inner, Event.enterLoop site.document scope head = .ok inner :=
      Event.enterLoop_isOk_iff.2 h
    obtain ⟨inner', hinner'⟩ : ∃ inner, Event.enterLoop document scope' head = .ok inner :=
      Event.enterLoop_isOk_iff.2 h
    rw [Act.run, Act.run, hinner, hinner']
    rfl
  | includePath kind stack =>
    obtain ⟨tokens, rfl, htokens⟩ := h
    have hlit : ∀ token ∈ tokens, token.isLiteral = true := fun token hmem => (htokens token hmem).1
    rw [Act.run_includePath, Act.run_includePath, Site.recordInclude_of_isLiteral _ _ hlit,
      Site.recordInclude_of_isLiteral _ _ hlit, Site.recordStack_document]
  | staticPaths stack =>
    cases stack with
    | none => rfl
    | some stack =>
      rw [Act.run_staticPaths, Act.run_staticPaths, Site.recordOptional, Site.recordOptional,
        Site.recordStack_document]

theorem Event.run_closed {site : Site} {event event' : Event} {found : List String}
    (h : event.run site = .ok (event', found)) : event'.act.Closed := by
  obtain ⟨scope, -, -, hact⟩ := run_eq_ok h
  obtain ⟨head, inner, -, henter, hact', -⟩ | ⟨kind, tokens, tokens', -, hrecord, hact'⟩ |
    ⟨-, hact', -⟩ | ⟨tokens, tokens', -, hrecord, hact'⟩ := Act.run_cases hact
  · rw [hact']
    exact enterLoop_isOk_iff.1 ⟨inner, henter⟩
  · rw [hact']
    obtain ⟨literals, -, hstack⟩ := Site.recordInclude_eq_recordStack hrecord
    refine ⟨tokens', rfl, fun token hmem => ⟨?_, ?_⟩⟩
    · exact Site.recordInclude_isLiteral hrecord token hmem
    · exact Site.recordStack_classify hstack token hmem
  · rw [hact']
    simp [Act.Closed]
  · rw [hact']
    exact Site.recordStack_classify hrecord

/-! ## Closed trees -/

namespace Site

variable {tokens : List Token}

theorem scopeOf_of_closed (h : ∀ event ∈ Token.eventsOf tokens, event.act.Closed)
    (document : Json) {event : Event} (hevent : event ∈ Token.eventsOf tokens) :
    ∃ scope, Event.scopeOf document event.loops = .ok scope := by
  refine Event.scopeOf_isOk fun head hhead => ?_
  have hloop := Token.loops_of_mem_eventsAll tokens [] event hevent head hhead
  rcases hloop with hin | ⟨outer, hmem, hact⟩
  · cases hin
  · have hclosed := h outer hmem
    rw [hact] at hclosed
    exact hclosed

/-- Walking a closed tree succeeds at every site, and the dependencies are its literals with their
aliases replaced. -/
theorem walk_of_closed (site : Site) (h : ∀ event ∈ Token.eventsOf tokens, event.act.Closed) :
    ∃ walked, site.walk tokens =
      .ok (walked, (Token.textsOf tokens).map site.namespaces.resolve) := by
  have hrun : ∀ event ∈ Token.eventsOf tokens, ∃ event', event.run site =
      .ok (event', (ExprToken.literalTexts event.stack).map site.namespaces.resolve) := by
    intro event hevent
    obtain ⟨scope, hscope⟩ := scopeOf_of_closed h site.document hevent
    obtain ⟨act', hact⟩ := Act.run_of_closed site scope event.loops (h event hevent)
    refine ⟨⟨event.loops, act'⟩, ?_⟩
    rw [Event.run_of_scopeOf hscope, hact]
    rfl
  obtain ⟨events', hgather⟩ := gather_of_forall hrun
  rw [← walk_events] at hgather
  cases hwalk : site.walk tokens with
  | error failure => rw [hwalk] at hgather; cases hgather
  | ok result =>
    rw [hwalk] at hgather
    simp only [Except.map, Except.ok.injEq, Prod.mk.injEq] at hgather
    refine ⟨result.1, ?_⟩
    rw [Token.textsOf, List.map_flatMap, ← hgather.2]

theorem walk_document (site : Site) (h : ∀ event ∈ Token.eventsOf tokens, event.act.Closed)
    (document : Json) : { site with document := document }.walk tokens = site.walk tokens := by
  set site' : Site := { site with document := document } with hsite'
  refine walk_congr fun event hevent => ?_
  obtain ⟨scope, hscope⟩ := scopeOf_of_closed h site.document hevent
  obtain ⟨scope', hscope'⟩ := scopeOf_of_closed h site'.document hevent
  rw [Event.run_of_scopeOf hscope, Event.run_of_scopeOf hscope', hsite',
    Act.run_document site document scope scope' (h event hevent)]

theorem closed_of_walk {site : Site} {walked : List Token} {found : List String}
    (h : site.walk tokens = .ok (walked, found)) :
    ∀ event ∈ Token.eventsOf walked, event.act.Closed :=
  gather_forall (fun _ _ _ _ => Event.run_closed) (gather_events_of_walk h)

theorem textsOf_of_walk {site : Site} {walked : List Token} {found : List String}
    (h : site.walk tokens = .ok (walked, found)) :
    Token.textsOf walked = found.map site.idOf := by
  have hstamped := congrArg (List.filterMap fun value => value.bind Json.asString?) (walk_stamped h)
  rw [List.filterMap_map, List.filterMap_map] at hstamped
  rw [Token.textsOf_eq]
  refine hstamped.trans ?_
  simp [Function.comp_def, Json.asString?]

/-- **A walked tree needs no data.** Walking it again succeeds at every site, whatever its document,
aliases, identifiers and directories; the result does not depend on the document, and the
dependencies are the identifiers that the first walk wrote, in their order, with the aliases of the
second site replaced. -/
theorem walk_again {site : Site} {walked : List Token} {found : List String}
    (h : site.walk tokens = .ok (walked, found)) :
    (∀ site' : Site, ∃ again, site'.walk walked = .ok (again, found.map fun dependency =>
      site'.namespaces.resolve
        (site.identify (Path.resolve site.workingDirectory site.directory dependency)))) ∧
    (∀ (site' : Site) (document document' : Json),
      { site' with document := document }.walk walked =
        { site' with document := document' }.walk walked) := by
  have hclosed := closed_of_walk h
  refine ⟨?_, ?_⟩
  · intro site'
    obtain ⟨again, hagain⟩ := site'.walk_of_closed hclosed
    rw [textsOf_of_walk h, List.map_map] at hagain
    exact ⟨again, hagain⟩
  · intro site' document document'
    rw [site'.walk_document hclosed document, site'.walk_document hclosed document']

/-- The page of cards walked again at a site without cards, where the identifiers of the first walk
begin with an alias. -/
theorem walk_again_cards :
    cards.walk cardsPage = .ok (cardsPageWalked, ["cards/a", "inner", "/x/frame"]) ∧
    (∃ again, Site.walk ⟨.null, [("id", "/y/")], id, "/", "/z"⟩ cardsPageWalked =
      .ok (again, ["/y/t/cards/a", "/y/t/inner", "/y/x/frame"])) ∧
    (∀ document document' : Json, { cards with document := document }.walk cardsPageWalked =
      { cards with document := document' }.walk cardsPageWalked) :=
  ⟨cards_walk, (walk_again cards_walk).1 ⟨.null, [("id", "/y/")], id, "/", "/z"⟩,
    (walk_again cards_walk).2 cards⟩

end Site

end TemplateBundler
