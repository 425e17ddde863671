import Mathlib.Data.List.ReduceOption
import TemplateBundler.Data.Folding

/-!
# Operands: the text of a row of operands and concatenations

A path keeps two operands at a time. This module says what becomes of any row of operands with
concatenations between them: each run of operands without a concatenation contributes its first
truthy operand and the last one behind it, and the runs follow one another in the path.

* `Spells`: the terms that a stack of tokens stands for, idle tokens left out;
* `Operand`: a text, or a variable with the keys that are read from it;
* `Operands.slotText`: what a run of operands contributes;
* `runsOf`: the runs of a row;
* `foldPath_items`: the path of a whole row.
-/

namespace TemplateBundler

/-! ## The terms of a stack -/

/-- A slice and an unsupported token contribute nothing to a path. -/
def PathTerm.isIdle : PathTerm → Bool
  | .slice _ _ | .unsupported _ => true
  | .literal _ | .variable _ | .key _ | .concat => false

/-- The stack stands for the terms, with idle tokens anywhere between them. -/
inductive Spells : List ExprToken → List PathTerm → Prop
  | nil : Spells [] []
  | term {token : ExprToken} {term : PathTerm} {stack : List ExprToken} {terms : List PathTerm}
      (h : token.classify = .ok term) (rest : Spells stack terms) :
      Spells (token :: stack) (term :: terms)
  | idle {token : ExprToken} {term : PathTerm} {stack : List ExprToken} {terms : List PathTerm}
      (h : token.classify = .ok term) (hidle : term.isIdle = true) (rest : Spells stack terms) :
      Spells (token :: stack) terms

def variableToken (name : String) : ExprToken := ⟨.variable, [("value", .string name)]⟩

def keyToken (key : String) : ExprToken := ⟨.keyPeriod, [("key", .string key)]⟩

def concatToken : ExprToken :=
  ⟨.binaryOperator, [("operator", .string "~"), ("associativity", .string "leftToRight")]⟩

namespace Operands

variable {scope : Scope} {state : Operands}

def steps (scope : Scope) (state : Operands) (terms : List PathTerm) : Except Obstacle Operands :=
  terms.foldlM (step scope) state

@[simp]
theorem steps_nil : steps scope state [] = .ok state := rfl

theorem steps_cons (term : PathTerm) (terms : List PathTerm) :
    steps scope state (term :: terms) =
      (state.step scope term).bind fun next => steps scope next terms := rfl

theorem steps_append (terms more : List PathTerm) :
    steps scope state (terms ++ more) =
      (steps scope state terms).bind fun next => steps scope next more := by
  rw [steps, List.foldlM_append]
  rfl

@[simp]
theorem steps_singleton (term : PathTerm) : steps scope state [term] = state.step scope term := by
  rw [steps_cons]
  cases state.step scope term <;> rfl

theorem steps_append_eq_ok_iff {terms more : List PathTerm} {next : Operands} :
    steps scope state (terms ++ more) = .ok next ↔
      ∃ middle, steps scope state terms = .ok middle ∧ steps scope middle more = .ok next := by
  rw [steps_append]
  cases steps scope state terms with
  | error obstacle => simp [Except.bind]
  | ok middle => simp [Except.bind]

theorem step_of_isIdle {term : PathTerm} (h : term.isIdle = true) :
    state.step scope term = .ok state := by
  cases term with
  | slice start stop | unsupported kind => rfl
  | literal text | «variable» name | key name | concat => cases h

theorem run_of_spells {stack : List ExprToken} {terms : List PathTerm} (h : Spells stack terms)
    (fail : Obstacle → Failure) :
    run scope fail state stack = (steps scope state terms).mapError fail := by
  induction h generalizing state with
  | nil => rfl
  | @term token term stack terms hterm rest ih =>
    rw [run, List.foldlM_cons, hterm, steps_cons]
    simp only [Except.bind]
    cases state.step scope term with
    | error obstacle => rfl
    | ok next => exact ih
  | @idle token term stack terms hterm hidle rest ih =>
    rw [run, List.foldlM_cons, hterm]
    simp only [Except.bind, step_of_isIdle hidle]
    exact ih

end Operands

def pathOf (scope : Scope) (terms : List PathTerm) : Except Obstacle String :=
  (Operands.steps scope {} terms).bind fun state =>
    if state.flush.path = "" then .error .emptyPath else .ok state.flush.path

theorem foldPath_of_spells {scope : Scope} {stack : List ExprToken} {terms : List PathTerm}
    (h : Spells stack terms) :
    foldPath stack scope = (pathOf scope terms).mapError (unresolvable stack) := by
  rw [foldPath, Operands.run_of_spells h, pathOf]
  cases Operands.steps scope {} terms with
  | error obstacle => rfl
  | ok state =>
    simp only [Except.mapError, Except.bind]
    split <;> rfl

theorem foldPath_eq_ok_iff {scope : Scope} {stack : List ExprToken} {terms : List PathTerm}
    (h : Spells stack terms) {path : String} :
    foldPath stack scope = .ok path ↔
      ∃ state, Operands.steps scope {} terms = .ok state ∧ state.flush.path = path ∧ path ≠ "" := by
  rw [foldPath_of_spells h, pathOf]
  cases Operands.steps scope {} terms with
  | error obstacle => simp [Except.bind, Except.mapError]
  | ok state =>
    simp only [Except.bind, Except.ok.injEq, exists_eq_left']
    split
    · rename_i hempty
      simp only [Except.mapError, reduceCtorEq, false_iff, not_and, ne_eq, not_not]
      exact fun hpath => hpath ▸ hempty
    · rename_i hpath
      simp only [Except.mapError, Except.ok.injEq]
      exact ⟨fun h => ⟨h, h ▸ hpath⟩, fun h => h.1⟩

/-! ## Operands -/

/-- An operand of a path: a text, or a variable with the keys that are read from it, at least
one. -/
inductive Operand where
  | literal (text : String)
  | read (name key : String) (keys : List String)
deriving DecidableEq, Repr

namespace Operand

def terms : Operand → List PathTerm
  | .literal text => [.literal text]
  | .read name key keys => .variable name :: (key :: keys).map .key

/-- The value of an operand. Every key is read from the value before it, which has to be an object
or an array with that key. -/
def value? (scope : Scope) : Operand → Option Json
  | .literal text => some (.string text)
  | .read name key keys =>
    (scope.lookup? name).bind fun source => (key :: keys).foldlM Json.property? source

def textIn (scope : Scope) (operand : Operand) : String :=
  ((operand.value? scope).map Json.scalarText).getD ""

end Operand

theorem Json.isScalar_of_property? {container value : Json} {key : String}
    (h : container.property? key = some value) : container.isScalar = false := by
  cases container with
  | object fields | array items => rfl
  | null | bool flag | number number | string text => cases h

namespace Operands

variable {scope : Scope} {state : Operands}

def aimed (state : Operands) (source : Option Json) (name : Option String) : Operands :=
  { state with source := source, sourceName := name }

@[simp]
theorem aimed_aimed (source source' : Option Json) (name name' : Option String) :
    (state.aimed source name).aimed source' name' = state.aimed source' name' := rfl

@[simp]
theorem aimed_self : state.aimed state.source state.sourceName = state := rfl

@[simp]
theorem flush_aimed_path (source : Option Json) (name : Option String) :
    (state.aimed source name).flush.path = state.flush.path := rfl

@[simp]
theorem fill_aimed (source : Option Json) (name : Option String) (value : Json) :
    (state.aimed source name).fill value = (state.fill value).aimed source name := by
  unfold fill aimed
  dsimp only
  split <;> rfl

@[simp]
theorem fill_source (value : Json) : (state.fill value).source = state.source := by
  unfold fill
  split <;> rfl

@[simp]
theorem fill_sourceName (value : Json) : (state.fill value).sourceName = state.sourceName := by
  unfold fill
  split <;> rfl

theorem foldl_fill_aimed (source : Option Json) (name : Option String) (values : List Json) :
    values.foldl fill (state.aimed source name) = (values.foldl fill state).aimed source name := by
  induction values generalizing state with
  | nil => rfl
  | cons value values ih => rw [List.foldl_cons, List.foldl_cons, fill_aimed, ih]

/-- A key that is found gives a scalar to fill an operand, or the next value to read from. -/
theorem steps_key {container value : Json} {key : String} (hsource : state.source = some container)
    (h : container.property? key = some value) (terms : List PathTerm) :
    steps scope state (.key key :: terms) =
      steps scope (if value.isScalar then state.fill value
        else state.aimed (some value) state.sourceName) terms := by
  rw [steps_cons, step]
  cases container with
  | object fields | array items =>
    simp only [readKey, hsource, h]
    split <;> rfl
  | null | bool flag | number number | string text => cases h

theorem steps_keys (state : Operands) {source value : Json} {key : String} {keys : List String}
    (hsource : state.source = some source)
    (h : (key :: keys).foldlM Json.property? source = some value)
    (hscalar : value.isScalar = true) :
    ∃ last, steps scope state ((key :: keys).map .key) =
      .ok ((state.fill value).aimed (some last) state.sourceName) := by
  induction keys generalizing state source key with
  | nil =>
    have hvalue : source.property? key = some value := by simpa using h
    refine ⟨source, ?_⟩
    rw [List.map_singleton, steps_key hsource hvalue, if_pos hscalar, steps_nil, ← hsource,
      ← fill_source value, ← fill_sourceName value, aimed_self]
  | cons next keys ih =>
    rw [List.foldlM_cons] at h
    obtain ⟨found, hfound, hrest⟩ := Option.bind_eq_some_iff.1 h
    -- the next key is read from what is found here, so that this is no scalar
    have hnext := hrest
    rw [List.foldlM_cons] at hnext
    obtain ⟨inner, hinner, -⟩ := Option.bind_eq_some_iff.1 hnext
    have hfill : found.isScalar = false := Json.isScalar_of_property? hinner
    obtain ⟨last, hlast⟩ := ih (state.aimed (some found) state.sourceName) rfl hrest
    refine ⟨last, ?_⟩
    rw [List.map_cons, steps_key hsource hfound, hfill, if_neg Bool.false_ne_true, hlast,
      fill_aimed, aimed_aimed]
    rfl

theorem steps_operand (state : Operands) {operand : Operand} {value : Json}
    (h : operand.value? scope = some value) (hscalar : value.isScalar = true) :
    ∃ source name, steps scope state operand.terms = .ok ((state.fill value).aimed source name) := by
  cases operand with
  | literal text =>
    cases h
    exact ⟨_, _, congrArg Except.ok aimed_self.symm⟩
  | read name key keys =>
    obtain ⟨source, hsource, hvalue⟩ := Option.bind_eq_some_iff.1 h
    obtain ⟨last, hlast⟩ := steps_keys (state.aimed (scope.lookup? name) (some name)) hsource
      hvalue hscalar
    rw [fill_aimed, aimed_aimed] at hlast
    exact ⟨_, _, hlast⟩

/-! ## Two slots for a run of operands -/

/-- What a run of values contributes to a path: the first truthy value, and the last one behind
it. -/
def slotText (values : List Json) : String :=
  match values.dropWhile fun value => !value.isTruthy with
  | [] => ""
  | first :: behind => first.scalarText ++ (operandText? behind.getLast?).getD ""

theorem slotText_cons_of_truthy {value : Json} (h : value.isTruthy = true) (values : List Json) :
    slotText (value :: values) = value.scalarText ++ (operandText? values.getLast?).getD "" := by
  simp [slotText, h]

theorem slotText_cons_of_not_truthy {value : Json} (h : value.isTruthy = false)
    (values : List Json) : slotText (value :: values) = slotText values := by
  simp [slotText, h]

/-- Behind a truthy left operand, each value takes the place of the right one before it. -/
theorem foldl_fill_of_truthy (state : Operands) (h : state.left.any Json.isTruthy = true) (values : List Json) :
    values.foldl fill state = { state with right := values.getLast?.or state.right } := by
  induction values generalizing state with
  | nil => rfl
  | cons value values ih =>
    have hfill : state.fill value = { state with right := some value } := by rw [fill, if_pos h]
    have hlater := ih { state with right := some value } h
    rw [List.foldl_cons, hfill, hlater, List.getLast?_cons]
    cases values.getLast? <;> rfl

/-- A run of values that begins with nothing pending adds its text to the path. -/
theorem flush_foldl_fill_path (state : Operands) (hleft : state.left.any Json.isTruthy = false)
    (hright : state.right = none) (values : List Json) :
    (values.foldl fill state).flush.path = state.path ++ slotText values := by
  induction values generalizing state with
  | nil =>
    have hnone : operandText? state.left = none := by
      unfold operandText?
      cases hvalue : state.left with
      | none => rfl
      | some value => simp_all
    simp [flush, hnone, slotText]
  | cons value values ih =>
    have hfill : state.fill value = { state with left := some value } := by
      rw [fill, hleft, if_neg Bool.false_ne_true]
    rw [List.foldl_cons, hfill]
    cases hvalue : value.isTruthy with
    | true =>
      rw [foldl_fill_of_truthy _ (by simpa using hvalue), slotText_cons_of_truthy hvalue, flush]
      simp [operandText?, hvalue, hright, String.append_assoc]
    | false =>
      rw [slotText_cons_of_not_truthy hvalue]
      exact ih { state with left := some value } (by simpa using hvalue) hright

end Operands

/-! ## Rows of operands and concatenations -/

/-- The terms of a row of operands, in which `none` is a concatenation. -/
def itemTerms (items : List (Option Operand)) : List PathTerm :=
  items.flatMap fun item => (item.map Operand.terms).getD [.concat]

/-- The runs of operands that the concatenations of a row divide, empty ones included. -/
def runsOf {α : Type} : List (Option α) → List (List α)
  | [] => [[]]
  | none :: rest => [] :: runsOf rest
  | some operand :: rest =>
    match runsOf rest with
    | [] => [[operand]]
    | run :: others => (operand :: run) :: others

section Runs

variable {α : Type}

theorem exists_runsOf (items : List (Option α)) : ∃ run others, runsOf items = run :: others := by
  induction items with
  | nil => exact ⟨[], [], rfl⟩
  | cons item rest ih =>
    obtain ⟨run, others, hruns⟩ := ih
    cases item with
    | none => exact ⟨[], runsOf rest, rfl⟩
    | some operand => exact ⟨operand :: run, others, by rw [runsOf, hruns]⟩

theorem runsOf_some_cons {items : List (Option α)} {run : List α} {others : List (List α)}
    (h : runsOf items = run :: others) (operand : α) :
    runsOf (some operand :: items) = (operand :: run) :: others := by
  rw [runsOf, h]

theorem runsOf_append_none (items rest : List (Option α)) :
    runsOf (items ++ none :: rest) = runsOf items ++ runsOf rest := by
  induction items with
  | nil => rfl
  | cons item items ih =>
    rw [List.cons_append]
    cases item with
    | none => rw [runsOf, ih, runsOf, List.cons_append]
    | some operand =>
      obtain ⟨run, others, hruns⟩ := exists_runsOf items
      rw [runsOf_some_cons hruns, List.cons_append]
      exact runsOf_some_cons (by rw [ih, hruns, List.cons_append]) operand

theorem flatten_runsOf (items : List (Option α)) : (runsOf items).flatten = items.reduceOption := by
  induction items with
  | nil => rfl
  | cons item items ih =>
    cases item with
    | none => rw [runsOf, List.flatten_cons, List.nil_append, ih, List.reduceOption_cons_of_none]
    | some operand =>
      obtain ⟨run, others, hruns⟩ := exists_runsOf items
      rw [runsOf_some_cons hruns, List.reduceOption_cons_of_some, ← ih, hruns]
      rfl

end Runs

def rowText (scope : Scope) (items : List (Option Operand)) : String :=
  String.join ((runsOf items).map fun run =>
    Operands.slotText (run.filterMap (Operand.value? scope)))

/-- The first run of a row continues what is pending, and each later one begins anew. -/
theorem Operands.steps_items {scope : Scope} {items : List (Option Operand)} (state : Operands)
    {run : List Operand} {others : List (List Operand)}
    (hvalues : ∀ operand, some operand ∈ items →
      ∃ value, operand.value? scope = some value ∧ value.isScalar = true)
    (hruns : runsOf items = run :: others) :
    ∃ next, steps scope state (itemTerms items) = .ok next ∧
      next.flush.path =
        ((run.filterMap (Operand.value? scope)).foldl fill state).flush.path ++
          String.join (others.map fun run => slotText (run.filterMap (Operand.value? scope))) := by
  induction items generalizing state run others with
  | nil =>
    cases hruns
    exact ⟨state, rfl, by simp⟩
  | cons item items ih =>
    obtain ⟨run', others', hruns'⟩ := exists_runsOf items
    have hrest : ∀ operand, some operand ∈ items →
        ∃ value, operand.value? scope = some value ∧ value.isScalar = true :=
      fun operand hoperand => hvalues operand (List.mem_cons_of_mem item hoperand)
    cases item with
    | none =>
      rw [runsOf, hruns'] at hruns
      cases hruns
      obtain ⟨next, hsteps, hpath⟩ := ih state.flush hrest hruns'
      refine ⟨next, hsteps, ?_⟩
      rw [hpath, flush_foldl_fill_path _ rfl rfl, List.map_cons, String.join_cons,
        String.append_assoc]
      rfl
    | some operand =>
      rw [runsOf_some_cons hruns'] at hruns
      cases hruns
      obtain ⟨value, hvalue, hscalar⟩ := hvalues operand List.mem_cons_self
      obtain ⟨source, name, hoperand⟩ := steps_operand state hvalue hscalar
      obtain ⟨next, hsteps, hpath⟩ := ih ((state.fill value).aimed source name) hrest hruns'
      refine ⟨next, ?_, ?_⟩
      · have hterms : itemTerms (some operand :: items) = operand.terms ++ itemTerms items := rfl
        rw [hterms, steps_append, hoperand]
        exact hsteps
      · rw [hpath, foldl_fill_aimed, flush_aimed_path, List.filterMap_cons_some hvalue,
          List.foldl_cons]

/-- **The path of a row of operands and concatenations** is what its runs contribute, if that is
anything. -/
theorem foldPath_items {scope : Scope} {stack : List ExprToken} {items : List (Option Operand)}
    (hstack : Spells stack (itemTerms items))
    (hvalues : ∀ operand, some operand ∈ items →
      ∃ value, operand.value? scope = some value ∧ value.isScalar = true) :
    foldPath stack scope =
      if rowText scope items = "" then .error (unresolvable stack .emptyPath)
      else .ok (rowText scope items) := by
  obtain ⟨run, others, hruns⟩ := exists_runsOf items
  obtain ⟨next, hsteps, hpath⟩ := Operands.steps_items {} hvalues hruns
  have htext : next.flush.path = rowText scope items := by
    rw [hpath, Operands.flush_foldl_fill_path _ rfl rfl, rowText, hruns, List.map_cons,
      String.join_cons]
    simp
  rw [foldPath_of_spells hstack, pathOf, hsteps]
  simp only [Except.bind, htext]
  split <;> rfl

end TemplateBundler
