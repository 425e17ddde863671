import TemplateBundler.Data.Pointing
import TemplateBundler.Proofs.Data.Operands
import TemplateBundler.Proofs.Gather

/-!
# Pointing: what an expression stack points at

Pointing has two parts that do not touch: the tokens are turned into terms, which can fail and looks
at no data, and the terms are worked through, which looks at the data and cannot fail. A variable
that names something forgets all that came before it, and the value at hand is always read from the
document or from a binding.
-/

namespace TemplateBundler

/-! ## The terms of a stack -/

def termsOf (tokens : List ExprToken) : Except Failure (List PathTerm) :=
  tokens.mapM ExprToken.classify

/-- The failure is that of the first token that stands for no term. -/
def FirstFailure (tokens : List ExprToken) (failure : Failure) : Prop :=
  ∃ before token after, tokens = before ++ token :: after ∧
    (∀ other ∈ before, ∃ term, other.classify = .ok term) ∧ token.classify = .error failure

@[simp]
theorem termsOf_nil : termsOf [] = .ok [] := rfl

theorem termsOf_cons_of_ok {token : ExprToken} {term : PathTerm} (h : token.classify = .ok term)
    (rest : List ExprToken) : termsOf (token :: rest) = (termsOf rest).map (term :: ·) := by
  rw [termsOf, List.mapM_cons, h]
  cases hrest : rest.mapM ExprToken.classify with
  | error failure => simp [termsOf, hrest, bind, Except.bind, Except.map]
  | ok terms => simp [termsOf, hrest, bind, Except.bind, Except.map, pure, Except.pure]

theorem termsOf_cons_of_error {token : ExprToken} {failure : Failure}
    (h : token.classify = .error failure) (rest : List ExprToken) :
    termsOf (token :: rest) = .error failure := by
  rw [termsOf, List.mapM_cons, h]
  rfl

theorem termsOf_append (front behind : List ExprToken) :
    termsOf (front ++ behind) =
      (termsOf front).bind fun terms => (termsOf behind).map (terms ++ ·) := by
  induction front with
  | nil =>
    rw [List.nil_append, termsOf_nil]
    cases termsOf behind <;> rfl
  | cons token front ih =>
    rw [List.cons_append]
    cases hterm : token.classify with
    | error failure => rw [termsOf_cons_of_error hterm, termsOf_cons_of_error hterm]; rfl
    | ok term =>
      rw [termsOf_cons_of_ok hterm, termsOf_cons_of_ok hterm, ih]
      cases termsOf front with
      | error failure => rfl
      | ok terms => cases termsOf behind <;> rfl

theorem termsOf_isOk_iff {tokens : List ExprToken} :
    (∃ terms, termsOf tokens = .ok terms) ↔ ∀ token ∈ tokens, ∃ term, token.classify = .ok term := by
  induction tokens with
  | nil => simp
  | cons token tokens ih =>
    rw [List.forall_mem_cons, ← ih]
    cases hterm : token.classify with
    | error failure => simp [termsOf_cons_of_error hterm]
    | ok term =>
      rw [termsOf_cons_of_ok hterm]
      cases termsOf tokens <;> simp [Except.map]

theorem termsOf_eq_error_iff {tokens : List ExprToken} {failure : Failure} :
    termsOf tokens = .error failure ↔ FirstFailure tokens failure := by
  constructor
  · intro h
    induction tokens with
    | nil => cases h
    | cons token tokens ih =>
      cases hterm : token.classify with
      | error cause =>
        rw [termsOf_cons_of_error hterm] at h
        cases h
        exact ⟨[], token, tokens, rfl, List.forall_mem_nil _, hterm⟩
      | ok term =>
        rw [termsOf_cons_of_ok hterm] at h
        cases hrest : termsOf tokens with
        | ok terms => rw [hrest] at h; cases h
        | error cause =>
          rw [hrest] at h
          cases h
          obtain ⟨before, other, after, rfl, hbefore, hother⟩ := ih hrest
          refine ⟨token :: before, other, after, rfl, ?_, hother⟩
          exact List.forall_mem_cons.2 ⟨⟨term, hterm⟩, hbefore⟩
  · rintro ⟨before, token, after, rfl, hbefore, htoken⟩
    obtain ⟨terms, hterms⟩ := termsOf_isOk_iff.2 hbefore
    rw [termsOf_append, hterms, termsOf_cons_of_error htoken]
    rfl

/-! ## Working through terms -/

namespace Pointing

variable {document : Json} {scope : Scope}

def run (document : Json) (scope : Scope) (current : Json) (terms : List PathTerm) : Json :=
  terms.foldl (step document scope) current

theorem run_append (current : Json) (terms more : List PathTerm) :
    run document scope current (terms ++ more) =
      run document scope (run document scope current terms) more :=
  List.foldl_append

/-- The name is a property of the document or bound by a loop. -/
def Resolves (document : Json) (scope : Scope) (name : String) : Prop :=
  (document.property? name).isSome ∨ (scope.binding? name).isSome

theorem step_variable {name : String} (h : Resolves document scope name) (current other : Json) :
    step document scope current (.variable name) = step document scope other (.variable name) := by
  have hsome : ((document.property? name).or (scope.binding? name)).isSome := by
    simpa [Option.isSome_or, Resolves] using h
  obtain ⟨value, hvalue⟩ := Option.isSome_iff_exists.1 hsome
  simp only [step, hvalue, Option.getD_some]

end Pointing

theorem pointAt_eq (tokens : List ExprToken) (document : Json) (scope : Scope) :
    pointAt tokens document scope = (termsOf tokens).map (Pointing.run document scope document) := by
  -- the value at hand changes from token to token, so it is generalized
  suffices h : ∀ current, tokens.foldlM
      (fun current token => token.classify.map (Pointing.step document scope current)) current =
        (termsOf tokens).map (Pointing.run document scope current) from h document
  induction tokens with
  | nil =>
    intro current
    rfl
  | cons token tokens ih =>
    intro current
    rw [List.foldlM_cons]
    cases hterm : token.classify with
    | error failure =>
      rw [termsOf_cons_of_error hterm]
      rfl
    | ok term =>
      have hrest := ih (Pointing.step document scope current term)
      rw [termsOf_cons_of_ok hterm]
      simp only [Except.map, bind, Except.bind] at hrest ⊢
      rw [hrest]
      cases termsOf tokens <;> rfl

theorem pointAt_isOk_iff {source : List ExprToken} {document : Json} {scope : Scope} :
    (∃ value, pointAt source document scope = .ok value) ↔
      ∀ token ∈ source, ∃ term, token.classify = .ok term := by
  rw [pointAt_eq, ← termsOf_isOk_iff]
  cases termsOf source <;> simp [Except.map]

theorem pointAt_eq_error_iff {tokens : List ExprToken} {document : Json} {scope : Scope}
    {failure : Failure} :
    pointAt tokens document scope = .error failure ↔ FirstFailure tokens failure := by
  rw [pointAt_eq, ← termsOf_eq_error_iff]
  cases termsOf tokens <;> simp [Except.map]

theorem pointAt_append_cons {front : List ExprToken} {token : ExprToken} {term : PathTerm}
    {document current : Json} {scope : Scope} (hfront : pointAt front document scope = .ok current)
    (hterm : token.classify = .ok term) (behind : List ExprToken) :
    pointAt (front ++ token :: behind) document scope =
      (termsOf behind).map
        (Pointing.run document scope (Pointing.step document scope current term)) := by
  rw [pointAt_eq] at hfront
  obtain ⟨terms, hterms, rfl⟩ := exceptMap_eq_ok hfront
  rw [pointAt_eq, termsOf_append, hterms, termsOf_cons_of_ok hterm]
  cases termsOf behind with
  | error failure => rfl
  | ok more =>
    simp only [Except.map, Except.bind, Pointing.run_append]
    rfl

/-! ## Values that are read from others -/

/-- One way into a value. -/
inductive Access where
  | key (name : String)
  | part (start stop : Option Int)

def Json.access? (value : Json) : Access → Option Json
  | .key name => value.property? name
  | .part start stop => value.slice? start stop

def Json.follow? (value : Json) (accesses : List Access) : Option Json :=
  accesses.foldlM Json.access? value

theorem Json.follow?_concat (value : Json) (accesses : List Access) (access : Access) :
    value.follow? (accesses ++ [access]) =
      (value.follow? accesses).bind fun found => found.access? access := by
  simp [follow?, List.foldlM_append]

namespace Pointing

variable {document : Json} {scope : Scope}

/-- The value is found in the document, or in a value that a loop has bound. -/
def Reached (document : Json) (scope : Scope) (value : Json) : Prop :=
  ∃ source, (source = document ∨ ∃ name, scope.binding? name = some source) ∧
    ∃ accesses, source.follow? accesses = some value

theorem reached_document : Reached document scope document := ⟨document, .inl rfl, [], rfl⟩

theorem reached_binding {name : String} {value : Json} (h : scope.binding? name = some value) :
    Reached document scope value :=
  ⟨value, .inr ⟨name, h⟩, [], rfl⟩

theorem Reached.access {value found : Json} (h : Reached document scope value) (access : Access)
    (hfound : value.access? access = some found) : Reached document scope found := by
  obtain ⟨source, hsource, accesses, hvalue⟩ := h
  refine ⟨source, hsource, accesses ++ [access], ?_⟩
  rw [Json.follow?_concat, hvalue, Option.bind_some, hfound]

theorem Reached.getD {current : Json} (h : Reached document scope current) {found : Option Json}
    (hfound : ∀ value, found = some value → Reached document scope value) :
    Reached document scope (found.getD current) := by
  cases found with
  | none => exact h
  | some value => exact hfound value rfl

theorem step_reached {current : Json} (h : Reached document scope current) (term : PathTerm) :
    Reached document scope (step document scope current term) := by
  cases term with
  | «variable» name =>
    refine h.getD fun value hvalue => ?_
    rcases Option.or_eq_some_iff.1 hvalue with hproperty | ⟨-, hbinding⟩
    · exact reached_document.access (.key name) hproperty
    · exact reached_binding hbinding
  | key name => exact h.getD fun value hvalue => h.access (.key name) hvalue
  | slice start stop => exact h.getD fun value hvalue => h.access (.part start stop) hvalue
  | literal text | concat | unsupported kind => exact h

theorem run_reached {current : Json} (h : Reached document scope current) (terms : List PathTerm) :
    Reached document scope (run document scope current terms) := by
  induction terms generalizing current with
  | nil => exact h
  | cons term terms ih => exact ih (step_reached h term)

end Pointing

/-- What stands before a variable that names something does not count. -/
theorem pointAt_behind_variable {front behind : List ExprToken} {token : ExprToken} {name : String}
    {document value : Json} {scope : Scope} (hname : token.classify = .ok (.variable name))
    (hresolves : Pointing.Resolves document scope name)
    (h : pointAt (front ++ token :: behind) document scope = .ok value) :
    pointAt (token :: behind) document scope = .ok value := by
  -- the front points at something too, and the variable forgets what that is
  have htokens := pointAt_isOk_iff.1 ⟨value, h⟩
  obtain ⟨current, hfront⟩ : ∃ current, pointAt front document scope = .ok current :=
    pointAt_isOk_iff.2 fun other hother => htokens other (List.mem_append_left _ hother)
  have hnone : pointAt [] document scope = .ok document := rfl
  have halone := pointAt_append_cons hnone hname behind
  rw [List.nil_append] at halone
  rw [pointAt_append_cons hfront hname] at h
  rw [halone, Pointing.step_variable hresolves document current, h]

/-- **Pointing is governed by its tokens and by the last variable that names something.** It fails
exactly if a token stands for no term, and then with the failure of the first such token, whatever
the document and the bindings are. If it succeeds, all that stands before a variable that names
something could be left out, and the value found is read from the document, or from a bound value,
by keys and slices. -/
theorem pointAt_governed (tokens : List ExprToken) (document : Json) (scope : Scope) :
    ((∃ failure, pointAt tokens document scope = .error failure) ↔
      ∃ token ∈ tokens, ∃ failure, token.classify = .error failure) ∧
    (∀ failure, pointAt tokens document scope = .error failure ↔ FirstFailure tokens failure) ∧
    ∀ value, pointAt tokens document scope = .ok value →
      (∀ front token behind name, tokens = front ++ token :: behind →
        token.classify = .ok (.variable name) → Pointing.Resolves document scope name →
        pointAt (token :: behind) document scope = .ok value) ∧
      Pointing.Reached document scope value := by
  refine ⟨?_, fun failure => pointAt_eq_error_iff, fun value hvalue => ⟨?_, ?_⟩⟩
  · simp only [exists_error_iff]
    rw [pointAt_isOk_iff]
    push Not
    rfl
  · rintro front token behind name rfl hname hresolves
    exact pointAt_behind_variable hname hresolves hvalue
  · rw [pointAt_eq] at hvalue
    obtain ⟨terms, -, rfl⟩ := exceptMap_eq_ok hvalue
    exact Pointing.run_reached Pointing.reached_document terms

/-! ### The tags of an item -/

/-- `page.cards` and, behind it, `item.none.tags[1:]`. -/
def tagStack : List ExprToken :=
  [variableToken "page", keyToken "cards", variableToken "item", variableToken "nobody",
    keyToken "none", keyToken "tags", ⟨.slice, [("params", .array [.number (.int 1)])]⟩]

def tagDocument : Json := .object [("page", .object [("cards", .array [.null])])]

def tagScope : Scope :=
  { bindings := [("item", .object [("tags", .array [.string "a", .string "b"])])] }

def lackingStack : List ExprToken := [variableToken "page", ⟨.keyPeriod, []⟩, ⟨.slice, []⟩]

theorem pointAt_governed_tagStack :
    pointAt tagStack tagDocument tagScope = .ok (.array [.string "b"]) ∧
    Pointing.Resolves tagDocument tagScope "item" ∧
    pointAt (tagStack.drop 2) tagDocument tagScope = .ok (.array [.string "b"]) ∧
    Pointing.Reached tagDocument tagScope (.array [.string "b"]) ∧
    FirstFailure lackingStack (.missingField "Twig.expression.type.key.period" "key") := by
  have hvalue : pointAt tagStack tagDocument tagScope = .ok (.array [.string "b"]) := rfl
  have hitem : Pointing.Resolves tagDocument tagScope "item" := .inr rfl
  have hlacking : pointAt lackingStack tagDocument tagScope =
      .error (.missingField "Twig.expression.type.key.period" "key") := rfl
  obtain ⟨-, -, hfound⟩ := pointAt_governed tagStack tagDocument tagScope
  obtain ⟨hbehind, hreached⟩ := hfound _ hvalue
  exact ⟨hvalue, hitem, hbehind (tagStack.take 2) _ _ "item" rfl rfl hitem, hreached,
    ((pointAt_governed lackingStack tagDocument tagScope).2.1 _).1 hlacking⟩

end TemplateBundler
