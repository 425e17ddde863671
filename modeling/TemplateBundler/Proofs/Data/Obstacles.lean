import Mathlib.Data.List.Induction
import TemplateBundler.Proofs.Data.DottedRead

/-!
# Obstacles: why an expression stack has no path

A key that cannot be read stops the evaluation, and the failure names the last variable before the
key. The key is read from the value of that variable only as long as no concatenation has ended the
reading and no other key has led on from it. Otherwise the failure says something about the variable
that need not be so.

* `PathTerm.lastVariable?`: the last variable of a row of terms, with the terms behind it;
* `Scope.sourceBehind?`: the value that a key behind a variable and other terms is read from;
* `Blocked`: the obstacle that a key meets behind a row of terms;
* `Obstacle.Holds`: what an obstacle says;
* `foldPath_obstacle`: the key at which a stack fails, and when the failure says what is so.
-/

namespace TemplateBundler

/-! ## Where a run stops -/

theorem ExprToken.textOf_map_eq_error {token : ExprToken} {field : String} {f : String → PathTerm}
    {failure : Failure} (h : (token.textOf field).map f = .error failure) :
    failure = .missingField token.kind.name field := by
  unfold textOf at h
  split at h
  · cases h
  · cases h
    rfl

theorem ExprToken.classify_eq_error {token : ExprToken} {failure : Failure}
    (h : token.classify = .error failure) :
    ∃ field, failure = .missingField token.kind.name field := by
  unfold classify at h
  split at h
  · exact ⟨"value", textOf_map_eq_error h⟩
  · exact ⟨"value", textOf_map_eq_error h⟩
  · exact ⟨"key", textOf_map_eq_error h⟩
  · split at h
    · cases h
    · cases h
      exact ⟨"params", rfl⟩
  · split at h <;> cases h
  · cases h

namespace Operands

variable {scope : Scope} {state next : Operands} {key : String} {obstacle : Obstacle}

theorem step_eq_error {term : PathTerm} (h : state.step scope term = .error obstacle) :
    ∃ key, term = .key key ∧ state.readKey key = .error obstacle := by
  cases term with
  | key key => exact ⟨key, rfl, h⟩
  | literal text | «variable» name | concat | slice start stop | unsupported kind => cases h

/-- A run that fails stops at a token without a term, or at a key that cannot be read. -/
theorem run_eq_error {fail : Obstacle → Failure} {tokens : List ExprToken} {failure : Failure}
    (h : run scope fail state tokens = .error failure) :
    ∃ before token after terms middle, tokens = before ++ token :: after ∧ Spells before terms ∧
      steps scope state terms = .ok middle ∧
      (token.classify = .error failure ∨
        ∃ key obstacle, token.classify = .ok (.key key) ∧
          middle.readKey key = .error obstacle ∧ failure = fail obstacle) := by
  induction tokens generalizing state with
  | nil => cases h
  | cons token tokens ih =>
    rw [run, List.foldlM_cons] at h
    cases hterm : token.classify with
    | error other =>
      rw [hterm] at h
      cases h
      exact ⟨[], token, tokens, [], state, rfl, .nil, rfl, .inl hterm⟩
    | ok term =>
      rw [hterm] at h
      cases hstep : state.step scope term with
      | error obstacle =>
        obtain ⟨key, rfl, hkey⟩ := step_eq_error hstep
        simp only [Except.bind, hstep] at h
        cases h
        exact ⟨[], token, tokens, [], state, rfl, .nil, rfl, .inr ⟨key, obstacle, hterm, hkey, rfl⟩⟩
      | ok next =>
        simp only [Except.bind, hstep] at h
        obtain ⟨before, last, after, terms, middle, rfl, hspells, hsteps, hlast⟩ := ih h
        refine ⟨token :: before, last, after, term :: terms, middle, rfl, .term hterm hspells, ?_,
          hlast⟩
        rw [steps_cons, hstep]
        exact hsteps

/-- A key fails without a value to read from, and on a value that is no object and no array. -/
theorem readKey_eq_error (h : state.readKey key = .error obstacle) :
    (state.source = none ∧
      obstacle = (state.sourceName.map Obstacle.undefinedVariable).getD (.keyWithoutVariable key)) ∨
    ∃ value, state.source = some value ∧ value.isContainer = false ∧
      obstacle = .notAContainer (state.sourceName.getD "") value.kindPhrase := by
  cases hsource : state.source with
  | none =>
    refine .inl ⟨rfl, ?_⟩
    simp only [readKey, hsource] at h
    cases hname : state.sourceName with
    | none | some name =>
      rw [hname] at h
      cases h
      rfl
  | some value =>
    refine .inr ⟨value, rfl, ?_⟩
    cases value with
    | object fields | array items =>
      simp only [readKey, hsource] at h
      split at h
      · split at h <;> cases h
      · cases h
    | null | bool flag | number number | string text =>
      simp only [readKey, hsource] at h
      cases h
      exact ⟨rfl, rfl⟩

theorem readKey_ne_emptyPath : state.readKey key ≠ .error .emptyPath := by
  intro h
  rcases readKey_eq_error h with ⟨-, h⟩ | ⟨value, -, -, h⟩
  · cases hname : state.sourceName with
    | none | some name =>
      rw [hname] at h
      cases h
  · cases h

end Operands

/-! ## What a key is read from -/

namespace PathTerm

def variableName? : PathTerm → Option String
  | .variable name => some name
  | .literal _ | .key _ | .slice _ _ | .concat | .unsupported _ => none

def lastVariable? : List PathTerm → Option (String × List PathTerm)
  | [] => none
  | term :: rest => (lastVariable? rest).or (term.variableName?.map fun name => (name, rest))

theorem lastVariable?_concat_variable (terms : List PathTerm) (name : String) :
    lastVariable? (terms ++ [.variable name]) = some (name, []) := by
  induction terms with
  | nil => rfl
  | cons term terms ih => rw [List.cons_append, lastVariable?, ih, Option.some_or]

theorem lastVariable?_concat {term : PathTerm} (hterm : term.variableName? = none)
    (terms : List PathTerm) :
    lastVariable? (terms ++ [term]) =
      (lastVariable? terms).map fun found => (found.1, found.2 ++ [term]) := by
  induction terms with
  | nil => simp [lastVariable?, hterm]
  | cons first terms ih =>
    rw [List.cons_append, lastVariable?, lastVariable?, ih]
    cases lastVariable? terms with
    | some found => rfl
    | none => cases first.variableName? <;> rfl

theorem lastVariable?_eq_none_iff {terms : List PathTerm} :
    lastVariable? terms = none ↔ ∀ term ∈ terms, term.variableName? = none := by
  induction terms with
  | nil => simp [lastVariable?]
  | cons term terms ih =>
    rw [lastVariable?, Option.or_eq_none_iff, Option.map_eq_none_iff, ih, List.forall_mem_cons,
      and_comm]

end PathTerm

/-- What the next key is read from behind a term: a key that finds no scalar leads on to what it
finds, and nothing is read from behind a concatenation. -/
def Json.next? (source : Json) : PathTerm → Option Json
  | .key key => some (((source.property? key).filter fun value => !value.isScalar).getD source)
  | .concat => none
  | .literal _ | .variable _ | .slice _ _ | .unsupported _ => some source

/-- The value that a key is read from, behind a variable and the terms between them. -/
def Scope.sourceBehind? (scope : Scope) (name : String) (behind : List PathTerm) : Option Json :=
  (scope.lookup? name).bind fun source => behind.foldlM Json.next? source

@[simp]
theorem Scope.sourceBehind?_nil (scope : Scope) (name : String) :
    scope.sourceBehind? name [] = scope.lookup? name := by
  cases h : scope.lookup? name <;> simp [sourceBehind?, h]

theorem Scope.sourceBehind?_concat (scope : Scope) (name : String) (behind : List PathTerm)
    (term : PathTerm) :
    scope.sourceBehind? name (behind ++ [term]) =
      (scope.sourceBehind? name behind).bind fun source => source.next? term := by
  simp [sourceBehind?, List.foldlM_append, Option.bind_assoc]

def Scope.sourceAt? (scope : Scope) (terms : List PathTerm) : Option Json :=
  (PathTerm.lastVariable? terms).bind fun found => scope.sourceBehind? found.1 found.2

namespace Operands

variable {scope : Scope} {state next : Operands}

theorem source_of_readKey {key : String} (h : state.readKey key = .ok next) :
    next.sourceName = state.sourceName ∧
      next.source = state.source.bind fun source => source.next? (.key key) := by
  cases hsource : state.source with
  | none =>
    simp only [readKey, hsource] at h
    split at h <;> cases h
  | some source =>
    rw [Option.bind_some, Json.next?]
    cases hcontainer : source.isContainer with
    | false =>
      obtain ⟨obstacle, hobstacle⟩ := readKey_of_not_container key hsource hcontainer
      rw [hobstacle] at h
      cases h
    | true =>
      cases hvalue : source.property? key with
      | none =>
        rw [readKey_of_missing hsource hcontainer hvalue] at h
        cases h
        exact ⟨rfl, hsource⟩
      | some value =>
        have hsteps : steps {} state [.key key] =
            .ok (if value.isScalar then state.fill value
              else state.aimed (some value) state.sourceName) :=
          steps_key hsource hvalue []
        rw [steps_singleton, step, h] at hsteps
        cases hsteps
        rw [Option.filter_some]
        cases value.isScalar with
        | true => exact ⟨fill_sourceName value, (fill_source value).trans hsource⟩
        | false => exact ⟨rfl, rfl⟩

theorem source_of_step {term : PathTerm} (hterm : term.variableName? = none)
    (h : state.step scope term = .ok next) :
    next.sourceName = state.sourceName ∧
      next.source = state.source.bind fun source => source.next? term := by
  cases term with
  | «variable» name => cases hterm
  | key key => exact source_of_readKey h
  | literal text =>
    cases h
    rw [fill_source, fill_sourceName]
    cases state.source <;> exact ⟨rfl, rfl⟩
  | slice start stop | unsupported kind | concat =>
    cases h
    cases state.source <;> exact ⟨rfl, rfl⟩

/-- The name is that of the last variable, and the source is read from that variable on. -/
theorem source_of_steps {terms : List PathTerm} (h : steps scope {} terms = .ok state) :
    state.sourceName = (PathTerm.lastVariable? terms).map Prod.fst ∧
      state.source = scope.sourceAt? terms := by
  induction terms using List.reverseRecOn generalizing state with
  | nil =>
    cases h
    exact ⟨rfl, rfl⟩
  | append_singleton terms term ih =>
    obtain ⟨middle, hsteps, hstep⟩ := steps_append_eq_ok_iff.1 h
    rw [steps_singleton] at hstep
    obtain ⟨hname, hsource⟩ := ih hsteps
    cases hterm : term.variableName? with
    | some name =>
      cases term with
      | «variable» name =>
        cases hstep
        rw [Scope.sourceAt?, PathTerm.lastVariable?_concat_variable]
        exact ⟨rfl, (scope.sourceBehind?_nil name).symm⟩
      | literal text | key name | slice start stop | concat | unsupported kind => cases hterm
    | none =>
      obtain ⟨hname', hsource'⟩ := source_of_step hterm hstep
      rw [Scope.sourceAt?, PathTerm.lastVariable?_concat hterm, hname', hsource', hname, hsource,
        Scope.sourceAt?]
      cases PathTerm.lastVariable? terms with
      | none => exact ⟨rfl, rfl⟩
      | some found =>
        exact ⟨rfl, (scope.sourceBehind?_concat found.1 found.2 term).symm⟩

end Operands

/-! ## What an obstacle says -/

namespace Json

theorem isContainer_eq (value : Json) :
    value.isContainer = (value.kindPhrase == "an array" || value.kindPhrase == "an object") := by
  cases value <;> rfl

/-- A value without keys stays what is read from. -/
theorem eq_of_foldlM_next? {source value : Json} (hsource : source.isContainer = false)
    {behind : List PathTerm} (h : behind.foldlM Json.next? source = some value) :
    value = source := by
  induction behind with
  | nil =>
    cases h
    rfl
  | cons term behind ih =>
    rw [List.foldlM_cons] at h
    obtain ⟨middle, hmiddle, hrest⟩ := Option.bind_eq_some_iff.1 h
    have hstay : middle = source := by
      cases term with
      | key key =>
        cases hvalue : source.property? key with
        | none =>
          rw [next?, hvalue] at hmiddle
          cases hmiddle
          rfl
        | some value => exact absurd (isContainer_of_property? hvalue) (by simp [hsource])
      | concat => cases hmiddle
      | literal text | «variable» name | slice start stop | unsupported kind =>
        cases hmiddle
        rfl
    rw [hstay] at hrest
    exact ih hrest

end Json

/-- The obstacle that a key meets behind a row of terms. -/
inductive Blocked (scope : Scope) (terms : List PathTerm) (key : String) : Obstacle → Prop
  | unnamed (h : PathTerm.lastVariable? terms = none) :
      Blocked scope terms key (.keyWithoutVariable key)
  | undefined {name : String} {behind : List PathTerm}
      (hlast : PathTerm.lastVariable? terms = some (name, behind))
      (h : scope.sourceBehind? name behind = none) :
      Blocked scope terms key (.undefinedVariable name)
  | notAContainer {name : String} {behind : List PathTerm} {value : Json}
      (hlast : PathTerm.lastVariable? terms = some (name, behind))
      (h : scope.sourceBehind? name behind = some value) (hvalue : value.isContainer = false) :
      Blocked scope terms key (.notAContainer name value.kindPhrase)

theorem Operands.blocked_of_readKey {scope : Scope} {terms : List PathTerm} {state : Operands}
    {key : String} {obstacle : Obstacle} (hsteps : steps scope {} terms = .ok state)
    (h : state.readKey key = .error obstacle) : Blocked scope terms key obstacle := by
  obtain ⟨hname, hsource⟩ := source_of_steps hsteps
  rw [Scope.sourceAt?] at hsource
  cases hlast : PathTerm.lastVariable? terms with
  | none =>
    rw [hlast] at hname hsource
    rcases readKey_eq_error h with ⟨-, rfl⟩ | ⟨value, hvalue, -, -⟩
    · rw [hname]
      exact .unnamed hlast
    · rw [hsource] at hvalue
      cases hvalue
  | some found =>
    rw [hlast] at hname hsource
    rcases readKey_eq_error h with ⟨hnone, rfl⟩ | ⟨value, hvalue, hcontainer, rfl⟩
    · rw [hname]
      exact .undefined hlast (hsource.symm.trans hnone)
    · rw [hname]
      exact .notAContainer hlast (hsource.symm.trans hvalue) hcontainer

/-- What an obstacle says of the variables before a key. -/
def Obstacle.Holds (scope : Scope) (terms : List PathTerm) : Obstacle → Prop
  | .undefinedVariable name => scope.lookup? name = none
  | .notAContainer name kind => ∃ value, scope.lookup? name = some value ∧ value.kindPhrase = kind
  | .keyWithoutVariable _ => ∀ term ∈ terms, term.variableName? = none
  | .emptyPath => True

theorem Blocked.holds_iff {scope : Scope} {terms : List PathTerm} {key : String}
    {obstacle : Obstacle} (h : Blocked scope terms key obstacle) :
    obstacle.Holds scope terms ↔
      ∀ name behind, PathTerm.lastVariable? terms = some (name, behind) →
        scope.sourceBehind? name behind = scope.lookup? name := by
  cases h with
  | unnamed hlast =>
    rw [Obstacle.Holds, ← PathTerm.lastVariable?_eq_none_iff]
    simp [hlast]
  | @undefined name behind hlast h =>
    simp [Obstacle.Holds, hlast, h, eq_comm]
  | @notAContainer name behind value hlast h hvalue =>
    constructor
    · rintro ⟨source, hsource, hkind⟩ name' behind' hlast'
      cases hlast.symm.trans hlast'
      have hcontainer : source.isContainer = false := by
        rw [Json.isContainer_eq, hkind, ← Json.isContainer_eq, hvalue]
      have hread := h
      rw [Scope.sourceBehind?, hsource, Option.bind_some] at hread
      rw [h, hsource, Json.eq_of_foldlM_next? hcontainer hread]
    · intro hsource
      exact ⟨value, (hsource name behind hlast).symm.trans h, rfl⟩

/-! ## The obstacle of a stack -/

section Stacks

variable {scope : Scope} {stack : List ExprToken}

/-- **A stack without a path fails at a key**, if its path is not merely empty, and the obstacle is
the one that this key meets. It says what is so exactly if the key is read from the value of the
last variable itself. -/
theorem foldPath_obstacle {description : String} {obstacle : Obstacle}
    (h : foldPath stack scope = .error (.unresolvablePath description obstacle))
    (hpath : obstacle ≠ .emptyPath) :
    ∃ before token after terms key, stack = before ++ token :: after ∧ Spells before terms ∧
      token.classify = .ok (.key key) ∧ Blocked scope terms key obstacle ∧
      (obstacle.Holds scope terms ↔
        ∀ name behind, PathTerm.lastVariable? terms = some (name, behind) →
          scope.sourceBehind? name behind = scope.lookup? name) := by
  unfold foldPath at h
  split at h
  · rename_i failure hrun
    cases h
    obtain ⟨before, token, after, terms, middle, hstack, hspells, hsteps, hlast⟩ :=
      Operands.run_eq_error hrun
    rcases hlast with hterm | ⟨key, other, hterm, hkey, hfailure⟩
    · obtain ⟨field, hfield⟩ := ExprToken.classify_eq_error hterm
      cases hfield
    · cases hfailure
      have hblocked := Operands.blocked_of_readKey hsteps hkey
      exact ⟨before, token, after, terms, key, hstack, hspells, hterm, hblocked, hblocked.holds_iff⟩
  · rename_i state hrun
    dsimp only at h
    split at h
    · cases h
      exact absurd rfl hpath
    · cases h

end Stacks

/-! ### Keys that are read from something else -/

def nullHeroScope : Scope := { value := .object [("page", .object [("hero", .null)])] }

theorem foldPath_obstacle_nullHero :
    foldPath heroStack nullHeroScope =
      .error (.unresolvablePath "page .hero .template" (.notAContainer "page" "null")) ∧
    ∃ before token after terms key, heroStack = before ++ token :: after ∧ Spells before terms ∧
      token.classify = .ok (.key key) ∧
      Blocked nullHeroScope terms key (.notAContainer "page" "null") ∧
      ¬ Obstacle.Holds nullHeroScope terms (.notAContainer "page" "null") := by
  have hfails : foldPath heroStack nullHeroScope =
      .error (.unresolvablePath "page .hero .template" (.notAContainer "page" "null")) := rfl
  obtain ⟨before, token, after, terms, key, hstack, hspells, hterm, hblocked, -⟩ :=
    foldPath_obstacle hfails (by decide)
  refine ⟨hfails, before, token, after, terms, key, hstack, hspells, hterm, hblocked, ?_⟩
  rintro ⟨value, hvalue, hkind⟩
  cases hvalue
  exact absurd hkind (by decide)

/-- `card ~ .type` -/
def endedStack : List ExprToken := [variableToken "card", concatToken, keyToken "type"]

def namedCardScope : Scope := { value := .object [("card", .string "hero")] }

/-- Behind a concatenation a card that is a string is said not to be defined. -/
theorem foldPath_endedStack :
    foldPath endedStack namedCardScope =
      .error (.unresolvablePath "card ~ .type" (.undefinedVariable "card")) ∧
    namedCardScope.lookup? "card" = some (.string "hero") :=
  ⟨rfl, rfl⟩

end TemplateBundler
