import TemplateBundler.Proofs.Walk.Events

/-!
# Identifiers: the paths of a walked tree and the dependencies found

A walk leaves two results: the tree, with an identifier in the place of every path, and the list of
dependencies. They belong together: the literals of the tree, in the order of its events, hold the
identifiers of the dependencies, in the order of the list, and nothing else.
-/

namespace TemplateBundler

/-! ## The literals of a tree -/

def Event.stack (event : Event) : List ExprToken :=
  match event.act with
  | .loop _ => []
  | .includePath _ stack | .staticPaths stack => stack.getD []

/-- The string literals in the paths of a tree, in the order of its events. -/
def Token.literalsOf (tokens : List Token) : List ExprToken :=
  (Token.eventsOf tokens).flatMap fun event => event.stack.filter ExprToken.isLiteral

/-! ## One token -/

namespace ExprToken

@[simp]
theorem isLiteral_setValue (token : ExprToken) (value : Json) :
    (token.setValue value).isLiteral = token.isLiteral := rfl

@[simp]
theorem value?_setValue (token : ExprToken) (value : Json) :
    (token.setValue value).value? = some value :=
  Entries.valueOf?_put_self "value" value token.fields

theorem textOf_eq_ok_iff {token : ExprToken} {field text : String} :
    token.textOf field = .ok text ↔
      Entries.valueOf? field token.fields = some (.string text) := by
  unfold textOf
  cases Entries.valueOf? field token.fields with
  | none => simp
  | some value => cases value <;> simp [Json.asString?]

theorem classify_eq_literal_iff {token : ExprToken} {text : String} :
    token.classify = .ok (.literal text) ↔
      token.isLiteral ∧ token.value? = some (.string text) := by
  rw [value?, ← textOf_eq_ok_iff]
  unfold classify isLiteral
  cases hkind : token.kind with
  | stringLiteral | «variable» => cases token.textOf "value" <;> simp [Except.map]
  | keyPeriod => cases token.textOf "key" <;> simp [Except.map]
  | slice =>
    cases (Entries.valueOf? "params" token.fields).bind Json.asArray? <;> simp
  | binaryOperator =>
    dsimp only
    split <;> simp
  | other name => simp

theorem isLiteral_classify {token : ExprToken} {term : PathTerm} (h : token.classify = .ok term)
    (hlit : token.isLiteral = true) : ∃ text, term = .literal text := by
  have hkind : token.kind = .stringLiteral := by simpa [isLiteral] using hlit
  rw [classify, hkind] at h
  cases htext : token.textOf "value" with
  | error failure => simp [htext, Except.map] at h
  | ok text =>
    simp only [htext, Except.map, Except.ok.injEq] at h
    exact ⟨text, h.symm⟩

end ExprToken

namespace Site

variable {site : Site}

theorem recordToken_literal {token : ExprToken} {path : String}
    (h : token.classify = .ok (.literal path)) :
    site.recordToken token =
      .ok (token.setValue (.string (site.idOf (site.namespaces.resolve path))),
        [site.namespaces.resolve path]) := by
  rw [recordToken, h]

theorem recordToken_other {token : ExprToken} {term : PathTerm}
    (h : token.classify = .ok term) (hlit : token.isLiteral = false) :
    site.recordToken token = .ok (token, []) := by
  rw [recordToken, h]
  cases term with
  | literal path =>
    rw [(ExprToken.classify_eq_literal_iff.1 h).1] at hlit
    cases hlit
  | «variable» name | key name | slice start stop | concat | unsupported kind => rfl

theorem recordToken_isOk_iff {token : ExprToken} :
    (∃ outcome, site.recordToken token = .ok outcome) ↔ ∃ term, token.classify = .ok term := by
  unfold recordToken
  cases token.classify with
  | error failure => simp
  | ok term => cases term <;> simp

/-! ## A stack -/

theorem recordStack_eq_gather (stack : List ExprToken) :
    site.recordStack stack = gather site.recordToken stack := by
  induction stack with
  | nil => rfl
  | cons token rest ih =>
    rw [recordStack, gather, ih]
    cases site.recordToken token with
    | error failure => rfl
    | ok outcome => cases gather site.recordToken rest <;> rfl

/-- A token of a recorded stack shows what was found there: a literal the identifier of its
dependency, any other token nothing. -/
theorem recordToken_stamped {token token' : ExprToken} {found : List String}
    (h : site.recordToken token = .ok (token', found)) :
    (if token'.isLiteral then [token'.value?] else []) =
      found.map fun dependency => some (.string (site.idOf dependency)) := by
  obtain ⟨term, hterm⟩ := recordToken_isOk_iff.1 ⟨_, h⟩
  cases hlit : token.isLiteral with
  | true =>
    obtain ⟨path, rfl⟩ : ∃ path, term = .literal path := ExprToken.isLiteral_classify hterm hlit
    rw [recordToken_literal hterm] at h
    cases h
    simp [hlit]
  | false =>
    rw [recordToken_other hterm hlit] at h
    cases h
    simp [hlit]

theorem filter_isLiteral_map_value? (stack : List ExprToken) :
    (stack.filter ExprToken.isLiteral).map ExprToken.value? =
      stack.flatMap fun token => if token.isLiteral then [token.value?] else [] := by
  induction stack with
  | nil => rfl
  | cons token rest ih => cases h : token.isLiteral <;> simp [h, ih]

theorem recordStack_stamped {stack stack' : List ExprToken} {found : List String}
    (h : site.recordStack stack = .ok (stack', found)) :
    (stack'.filter ExprToken.isLiteral).map ExprToken.value? =
      found.map fun dependency => some (.string (site.idOf dependency)) := by
  rw [recordStack_eq_gather] at h
  rw [filter_isLiteral_map_value?]
  exact gather_flatMap (fun _ _ _ => recordToken_stamped) h

/-- The stack of an include is either made of literals, or reduced to a single one. -/
theorem recordInclude_eq_recordStack {scope : Scope} {stack stack' : List ExprToken}
    {found : List String} (h : site.recordInclude scope stack = .ok (stack', found)) :
    ∃ literals : List ExprToken, literals.all ExprToken.isLiteral = true ∧
      site.recordStack literals = .ok (stack', found) := by
  unfold recordInclude at h
  split at h
  · rename_i hall
    exact ⟨stack, hall, h⟩
  · split at h
    · cases h
    · rename_i path _
      exact ⟨[.ofText path], rfl, h⟩

/-- A recorded token stands for the same kind of thing as before: a literal for the literal that it
now holds, any other token for what it stood for. -/
theorem recordToken_classify {token token' : ExprToken} {found : List String}
    (h : site.recordToken token = .ok (token', found)) :
    (∃ term, token'.classify = .ok term) ∧ token'.isLiteral = token.isLiteral := by
  obtain ⟨term, hterm⟩ := recordToken_isOk_iff.1 ⟨_, h⟩
  cases hlit : token.isLiteral with
  | true =>
    obtain ⟨path, rfl⟩ := ExprToken.isLiteral_classify hterm hlit
    rw [recordToken_literal hterm] at h
    cases h
    have hvalue := token.value?_setValue (.string (site.idOf (site.namespaces.resolve path)))
    exact ⟨⟨_, ExprToken.classify_eq_literal_iff.2 ⟨hlit, hvalue⟩⟩, hlit⟩
  | false =>
    rw [recordToken_other hterm hlit] at h
    cases h
    exact ⟨⟨term, hterm⟩, hlit⟩

theorem recordStack_classify {stack stack' : List ExprToken} {found : List String}
    (h : site.recordStack stack = .ok (stack', found)) :
    ∀ token ∈ stack', ∃ term, token.classify = .ok term := by
  rw [recordStack_eq_gather] at h
  exact gather_forall (fun _ _ _ _ hstep => (recordToken_classify hstep).1) h

theorem recordInclude_isLiteral {scope : Scope} {stack stack' : List ExprToken}
    {found : List String} (h : site.recordInclude scope stack = .ok (stack', found)) :
    ∀ token ∈ stack', token.isLiteral = true := by
  obtain ⟨literals, hall, hrecord⟩ := recordInclude_eq_recordStack h
  rw [recordStack_eq_gather] at hrecord
  refine gather_forall (fun token hmem token' _ hstep => ?_) hrecord
  rw [(recordToken_classify hstep).2]
  exact List.all_eq_true.1 hall token hmem

end Site

/-! ## An event -/

namespace Event

/-- The literals of an event that has run hold the identifiers of its dependencies. -/
theorem run_stamped {site : Site} {event event' : Event} {found : List String}
    (h : event.run site = .ok (event', found)) :
    (event'.stack.filter ExprToken.isLiteral).map ExprToken.value? =
      found.map fun dependency => some (.string (site.idOf dependency)) := by
  obtain ⟨scope, -, -, hact⟩ := run_eq_ok h
  unfold stack
  obtain ⟨head, inner, -, -, hact', rfl⟩ | ⟨kind, tokens, tokens', -, hrecord, hact'⟩ |
    ⟨-, hact', rfl⟩ | ⟨tokens, tokens', -, hrecord, hact'⟩ := Act.run_cases hact
  · rw [hact']
    rfl
  · rw [hact']
    obtain ⟨literals, -, hstack⟩ := Site.recordInclude_eq_recordStack hrecord
    exact Site.recordStack_stamped hstack
  · rw [hact']
    rfl
  · rw [hact']
    exact Site.recordStack_stamped hrecord

theorem run_includePath {site : Site} {event event' : Event} {found : List String}
    (h : event.run site = .ok (event', found)) {kind : LogicKind}
    {stack : Option (List ExprToken)} (hact' : event'.act = .includePath kind stack) :
    ∃ tokens, stack = some tokens ∧ ∀ token ∈ tokens, token.isLiteral = true := by
  obtain ⟨scope, -, -, hact⟩ := run_eq_ok h
  rw [hact'] at hact
  obtain ⟨head, inner, -, -, heq, -⟩ | ⟨kind', tokens, tokens', -, hrecord, heq⟩ |
    ⟨-, heq, -⟩ | ⟨tokens, tokens', -, -, heq⟩ := Act.run_cases hact
  · cases heq
  · cases heq
    exact ⟨tokens', rfl, Site.recordInclude_isLiteral hrecord⟩
  · cases heq
  · cases heq

end Event

/-! ## A whole tree -/

namespace Site

theorem walk_stamped {site : Site} {tokens walked : List Token} {found : List String}
    (h : site.walk tokens = .ok (walked, found)) :
    (Token.literalsOf walked).map ExprToken.value? =
      found.map fun dependency => some (.string (site.idOf dependency)) := by
  rw [Token.literalsOf, List.map_flatMap]
  exact gather_flatMap (fun _ _ _ => Event.run_stamped) (gather_events_of_walk h)

/-- **The tree and the list of dependencies belong together.** After a walk the tree has as many
literals in its paths as there are dependencies, the literal at each position holds the identifier
of the dependency at that position, and the path of an include is made of literals alone. -/
theorem walk_stamps_dependencies {site : Site} {tokens walked : List Token} {found : List String}
    (h : site.walk tokens = .ok (walked, found)) :
    (Token.literalsOf walked).length = found.length ∧
    (∀ (k : Nat) (hk : k < found.length), ∃ token, (Token.literalsOf walked)[k]? = some token ∧
      token.value? = some (.string
        (site.identify (Path.resolve site.workingDirectory site.directory found[k])))) ∧
    (∀ event ∈ Token.eventsOf walked, ∀ kind stack, event.act = .includePath kind stack →
      ∃ tokens, stack = some tokens ∧ ∀ token ∈ tokens, token.isLiteral = true) := by
  have hstamped := walk_stamped h
  have hlength : (Token.literalsOf walked).length = found.length := by
    simpa using congrArg List.length hstamped
  refine ⟨hlength, ?_, ?_⟩
  · intro k hk
    have hget := congrArg (fun list => list[k]?) hstamped
    simp only [List.getElem?_map, List.getElem?_eq_getElem hk, Option.map_some,
      Option.map_eq_some_iff] at hget
    exact hget
  · exact gather_forall (fun _ _ _ _ hrun _ _ => Event.run_includePath hrun)
      (gather_events_of_walk h)

/-! ### A page of cards

A loop over cards with a computed include, an embed with an include in its body, and an import from
the template itself. -/

def cards : Site where
  document := .object [("cards", .array [.object [("type", .string "a")]])]
  namespaces := [("theme", "/x/")]
  identify := ("@id" ++ ·)
  workingDirectory := "/"
  directory := "/t"

def cardsPageOf (card inner frame : List ExprToken) : List Token :=
  [⟨.logic, some
      { kind := .forLoop
        body := some [⟨.logic, some ⟨.includeFile, none, some card, none, []⟩, []⟩]
        stack := none
        expression := some (.array [.object
          [("type", .string "Twig.expression.type.variable"), ("value", .string "cards")]])
        fields := [("valueVar", .string "card")] }, []⟩,
    ⟨.logic, some
      { kind := .embed
        body := some [⟨.logic, some ⟨.includeFile, none, some inner, none, []⟩, []⟩]
        stack := some frame
        expression := none
        fields := [] }, []⟩,
    ⟨.logic, some ⟨.importAll, none, some [.ofText "_self"], some (.string "_self"), []⟩, []⟩]

def cardsPage : List Token :=
  cardsPageOf
    [.ofText "cards/", ⟨.variable, [("value", .string "card")]⟩,
      ⟨.keyPeriod, [("key", .string "type")]⟩]
    [.ofText "inner"] [⟨.variable, [("value", .string "skin")]⟩, .ofText "@theme/frame"]

def cardsPageWalked : List Token :=
  cardsPageOf [.ofText "@id/t/cards/a"] [.ofText "@id/t/inner"]
    [⟨.variable, [("value", .string "skin")]⟩, .ofText "@id/x/frame"]

theorem cards_walk :
    cards.walk cardsPage = .ok (cardsPageWalked, ["cards/a", "inner", "/x/frame"]) := rfl

/-- The page has three literals after the walk, the one of the frame behind those of the includes;
the import from the template itself and the variable in the frame's path do not count. -/
theorem walk_stamps_dependencies_cards :
    cards.walk cardsPage = .ok (cardsPageWalked, ["cards/a", "inner", "/x/frame"]) ∧
    (Token.literalsOf cardsPageWalked).length = 3 ∧
    (∀ (k : Nat) (hk : k < 3), ∃ token, (Token.literalsOf cardsPageWalked)[k]? = some token ∧
      token.value? = some (.string
        ("@id" ++ Path.resolve "/" "/t" (["cards/a", "inner", "/x/frame"][k])))) ∧
    (∀ event ∈ Token.eventsOf cardsPageWalked, ∀ kind stack, event.act = .includePath kind stack →
      ∃ tokens, stack = some tokens ∧ ∀ token ∈ tokens, token.isLiteral = true) :=
  ⟨cards_walk, walk_stamps_dependencies cards_walk⟩

end Site

end TemplateBundler
