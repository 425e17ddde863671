import TemplateBundler.Proofs.Walk.Identifiers

/-!
# Frame: a walk changes nothing but paths

A walked tree is compared with the tree it came from, place by place and at every depth. Kinds,
further fields and expressions are kept everywhere. A construct that only encloses others keeps its
stack, one that names a file keeps its children, and a path keeps everything but the values of its
literals, unless it had to be computed.

* `ExprToken.Restamped`: a token of a path, with at most another value;
* `ExprToken.PathFrame`: the path of an include, which may have been computed;
* `Token.Frame`, `Logic.Frame`: a node and a construct;
* `Token.walkAll_frame`: walking a list of nodes, in any scope;
* `Site.walk_changes_only_paths`: walking a tree.
-/

namespace TemplateBundler

/-! ## What is kept -/

namespace ExprToken

/-- The token has kept its kind and the keys of its fields in their places. A literal may have
another value under `value`, and nothing else; any other token is the same. -/
def Restamped (token walked : ExprToken) : Prop :=
  walked.kind = token.kind ∧
  (token.isLiteral = false → walked = token) ∧
  List.Forall₂ (fun field field' => field'.1 = field.1 ∧ (field.1 ≠ "value" → field'.2 = field.2))
    token.fields walked.fields

/-- The path of an include: literals are kept but for their values, and a path with anything else in
it has become a single literal without further fields. -/
def PathFrame (stack walked : List ExprToken) : Prop :=
  if stack.all isLiteral then List.Forall₂ Restamped stack walked
  else ∃ text, walked = [⟨.stringLiteral, [("value", .string text)]⟩]

end ExprToken

mutual

/-- A node after a walk. Only the construct of a logic node may have changed. -/
def Token.Frame : Token → Token → Prop
  | ⟨.logic, some logic, fields⟩, walked =>
    ∃ logic', walked = ⟨.logic, some logic', fields⟩ ∧ logic.Frame logic'
  | token, walked => walked = token
termination_by structural token => token

def Logic.Frame : Logic → Logic → Prop
  | ⟨kind, body, stack, expression, fields⟩, walked =>
    walked.kind = kind ∧ walked.expression = expression ∧ walked.fields = fields ∧
    match kind with
    | .forLoop | .block | .ifTrue | .elseIf | .otherwise | .spaceless | .setCapture | .macroBody =>
      walked.stack = stack ∧ Token.BodyFrame body walked.body
    | .extend | .includeFile =>
      walked.body = body ∧ Option.Rel ExprToken.PathFrame stack walked.stack
    | .embed =>
      Token.BodyFrame body walked.body ∧
        Option.Rel (List.Forall₂ ExprToken.Restamped) stack walked.stack
    | .importAll | .importNames =>
      walked.body = body ∧
        if expression.bind Json.asString? = some "_self" then walked.stack = stack
        else Option.Rel (List.Forall₂ ExprToken.Restamped) stack walked.stack
    | .other _ => walked.body = body ∧ walked.stack = stack
termination_by structural logic => logic

def Token.BodyFrame : Option (List Token) → Option (List Token) → Prop
  | none, walked => walked = none
  | some tokens, walked => ∃ tokens', walked = some tokens' ∧ Token.ListFrame tokens tokens'
termination_by structural body => body

def Token.ListFrame : List Token → List Token → Prop
  | [], walked => walked = []
  | token :: rest, walked =>
    ∃ token' rest', walked = token' :: rest' ∧ token.Frame token' ∧ Token.ListFrame rest rest'
termination_by structural tokens => tokens

end

theorem Token.listFrame_iff {tokens walked : List Token} :
    Token.ListFrame tokens walked ↔ List.Forall₂ Token.Frame tokens walked := by
  induction tokens generalizing walked with
  | nil => rw [Token.ListFrame, List.forall₂_nil_left_iff]
  | cons token rest ih =>
    rw [Token.ListFrame, List.forall₂_cons_left_iff]
    simp only [ih]
    constructor
    · rintro ⟨token', rest', rfl, htoken, hrest⟩
      exact ⟨token', rest', htoken, hrest, rfl⟩
    · rintro ⟨token', rest', htoken, hrest, rfl⟩
      exact ⟨token', rest', rfl, htoken, hrest⟩

theorem Token.frame_of_construct?_eq_none {token walked : Token} (h : token.construct? = none) :
    token.Frame walked ↔ walked = token := by
  obtain ⟨kind, logic, fields⟩ := token
  cases kind with
  | logic =>
    cases logic with
    | none => rfl
    | some logic => cases h
  | raw | output | other name => rfl

/-! ## Paths -/

theorem Entries.forall₂_put {α : Type} {key : String} {old : α} (value : α) {entries : Entries α}
    (h : valueOf? key entries = some old) :
    List.Forall₂ (fun field field' => field'.1 = field.1 ∧ (field.1 ≠ key → field'.2 = field.2))
      entries (put key value entries) := by
  induction entries with
  | nil => cases h
  | cons field rest ih =>
    obtain ⟨k, v⟩ := field
    by_cases hk : k = key
    · rw [put, if_pos hk]
      refine .cons ⟨rfl, fun hne => absurd hk hne⟩ ?_
      exact List.forall₂_same.2 fun _ _ => ⟨rfl, fun _ => rfl⟩
    · rw [valueOf?, if_neg hk] at h
      rw [put, if_neg hk]
      exact .cons ⟨rfl, fun _ => rfl⟩ (ih h)

theorem ExprToken.restamped_self (token : ExprToken) : token.Restamped token :=
  ⟨rfl, fun _ => rfl, List.forall₂_same.2 fun _ _ => ⟨rfl, fun _ => rfl⟩⟩

namespace Site

variable {site : Site}

theorem recordToken_frame {token token' : ExprToken} {found : List String}
    (h : site.recordToken token = .ok (token', found)) : token.Restamped token' := by
  obtain ⟨term, hterm⟩ := recordToken_isOk_iff.1 ⟨_, h⟩
  cases hlit : token.isLiteral with
  | true =>
    obtain ⟨path, rfl⟩ := ExprToken.isLiteral_classify hterm hlit
    have hvalue : token.value? = some (.string path) :=
      (ExprToken.classify_eq_literal_iff.1 hterm).2
    rw [recordToken_literal hterm] at h
    cases h
    refine ⟨rfl, fun hother => ?_, Entries.forall₂_put _ hvalue⟩
    rw [hlit] at hother
    cases hother
  | false =>
    rw [recordToken_other hterm hlit] at h
    cases h
    exact token.restamped_self

theorem recordStack_frame {stack stack' : List ExprToken} {found : List String}
    (h : site.recordStack stack = .ok (stack', found)) :
    List.Forall₂ ExprToken.Restamped stack stack' := by
  rw [recordStack_eq_gather] at h
  exact gather_forall₂ (fun _ _ _ => recordToken_frame) h

theorem recordOptional_frame {stack stack' : Option (List ExprToken)} {found : List String}
    (h : site.recordOptional stack = .ok (stack', found)) :
    Option.Rel (List.Forall₂ ExprToken.Restamped) stack stack' := by
  cases stack with
  | none =>
    cases h
    exact .none
  | some stack =>
    obtain ⟨⟨tokens, found'⟩, hrecord, heq⟩ := exceptMap_eq_ok h
    cases heq
    exact .some (recordStack_frame hrecord)

/-- A path that has to be computed leaves one literal, which is then recorded. -/
theorem recordInclude_frame {scope : Scope} {stack stack' : List ExprToken} {found : List String}
    (h : site.recordInclude scope stack = .ok (stack', found)) :
    ExprToken.PathFrame stack stack' := by
  unfold recordInclude at h
  unfold ExprToken.PathFrame
  split at h
  · rename_i hall
    rw [if_pos hall]
    exact recordStack_frame h
  · rename_i hall
    rw [if_neg hall]
    split at h
    · cases h
    · rename_i path _
      have hliteral : (ExprToken.ofText path).classify = .ok (.literal path) := rfl
      rw [recordStack_eq_gather, gather_singleton, recordToken_literal hliteral] at h
      cases h
      exact ⟨_, rfl⟩

end Site

/-! ## Trees -/

section Trees

variable {site : Site} {scope : Scope}

theorem Token.walkBody_frame {body body' : Option (List Token)} {found : List String}
    (ih : ∀ walked found, Token.walkAll site scope (body.getD []) = .ok (walked, found) →
      Token.ListFrame (body.getD []) walked)
    (h : Token.walkBody site scope body = .ok (body', found)) : Token.BodyFrame body body' := by
  cases body with
  | none =>
    cases h
    rfl
  | some tokens =>
    rw [Token.walkBody] at h
    obtain ⟨⟨walked, found'⟩, hwalk, heq⟩ := exceptMap_eq_ok h
    cases heq
    exact ⟨walked, rfl, ih walked _ hwalk⟩

theorem Logic.walk_frame {logic logic' : Logic} {found : List String}
    (ih : ∀ scope walked found, Token.walkAll site scope logic.children = .ok (walked, found) →
      Token.ListFrame logic.children walked)
    (h : logic.walk site scope = .ok (logic', found)) : logic.Frame logic' := by
  obtain ⟨kind, body, stack, expression, fields⟩ := logic
  cases kind with
  | forLoop =>
    simp only [Logic.walk] at h
    split at h
    · cases h
    · rename_i inner _
      obtain ⟨⟨body', found'⟩, hbody, heq⟩ := exceptMap_eq_ok h
      cases heq
      exact ⟨rfl, rfl, rfl, rfl, Token.walkBody_frame (ih inner) hbody⟩
  | block | ifTrue | elseIf | otherwise | spaceless | setCapture | macroBody =>
    simp only [Logic.walk] at h
    obtain ⟨⟨body', found'⟩, hbody, heq⟩ := exceptMap_eq_ok h
    cases heq
    exact ⟨rfl, rfl, rfl, rfl, Token.walkBody_frame (ih scope) hbody⟩
  | extend | includeFile =>
    cases stack with
    | none => simp [Logic.walk] at h
    | some stack =>
      simp only [Logic.walk] at h
      obtain ⟨⟨stack', found'⟩, hrecord, heq⟩ := exceptMap_eq_ok h
      cases heq
      exact ⟨rfl, rfl, rfl, rfl, .some (Site.recordInclude_frame hrecord)⟩
  | embed =>
    simp only [Logic.walk] at h
    split at h
    · cases h
    · rename_i body' inside hbody
      obtain ⟨⟨stack', found'⟩, hrecord, heq⟩ := exceptMap_eq_ok h
      cases heq
      refine ⟨rfl, rfl, rfl, Token.walkBody_frame (ih scope) hbody, ?_⟩
      exact Site.recordOptional_frame hrecord
  | importAll | importNames =>
    simp only [Logic.walk, Logic.refersToSelf, Logic.expressionText?, beq_iff_eq] at h
    split at h
    · rename_i hself
      cases h
      refine ⟨rfl, rfl, rfl, rfl, ?_⟩
      rw [if_pos hself]
    · rename_i hself
      obtain ⟨⟨stack', found'⟩, hrecord, heq⟩ := exceptMap_eq_ok h
      cases heq
      refine ⟨rfl, rfl, rfl, rfl, ?_⟩
      rw [if_neg hself]
      exact Site.recordOptional_frame hrecord
  | other name =>
    cases h
    exact ⟨rfl, rfl, rfl, rfl, rfl⟩

theorem Token.walkAll_frame (tokens : List Token) :
    ∀ scope walked found, Token.walkAll site scope tokens = .ok (walked, found) →
      Token.ListFrame tokens walked := by
  induction tokens using Token.forestInduction with
  | nil =>
    intro scope walked found h
    cases h
    rfl
  | skip token rest htoken ih =>
    intro scope walked found h
    rw [Token.walkAll, Token.walk_of_construct?_eq_none htoken] at h
    dsimp only at h
    split at h
    · cases h
    · rename_i rest' more hrest
      cases h
      exact ⟨token, rest', rfl, (Token.frame_of_construct?_eq_none htoken).2 rfl,
        ih scope rest' more hrest⟩
  | construct logic fields rest ihbody ihrest =>
    intro scope walked found h
    rw [Token.walkAll, Token.walk] at h
    split at h
    · cases h
    · rename_i token' here htoken
      obtain ⟨⟨logic', found'⟩, hlogic, heq⟩ := exceptMap_eq_ok htoken
      cases heq
      split at h
      · cases h
      · rename_i rest' more hrest
        cases h
        refine ⟨_, rest', rfl, ⟨logic', rfl, ?_⟩, ihrest scope rest' more hrest⟩
        exact Logic.walk_frame ihbody hlogic

end Trees

namespace Site

/-- **A walk changes nothing but paths.** The tree has as many nodes as before, and each of them, at
every depth, has kept its frame. -/
theorem walk_changes_only_paths {site : Site} {tokens walked : List Token} {found : List String}
    (h : site.walk tokens = .ok (walked, found)) :
    walked.length = tokens.length ∧ List.Forall₂ Token.Frame tokens walked := by
  have hframe : List.Forall₂ Token.Frame tokens walked :=
    Token.listFrame_iff.1 (Token.walkAll_frame tokens _ walked found h)
  exact ⟨hframe.length_eq.symm, hframe⟩

/-- The page of cards keeps its frame: a computed path, two static ones and an import from the
template itself. -/
theorem walk_changes_only_paths_cards :
    cards.walk cardsPage = .ok (cardsPageWalked, ["cards/a", "inner", "/x/frame"]) ∧
    cardsPageWalked.length = cardsPage.length ∧
    List.Forall₂ Token.Frame cardsPage cardsPageWalked :=
  ⟨cards_walk, walk_changes_only_paths cards_walk⟩

end Site

end TemplateBundler
