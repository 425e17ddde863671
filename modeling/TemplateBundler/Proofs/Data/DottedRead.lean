import TemplateBundler.Proofs.Data.Operands

/-!
# DottedRead: a variable with keys behind it

A key reads from an object or an array. If it finds an object, an array or null, the next key reads
from that. If it finds a scalar, the scalar becomes an operand, and the next key reads from the same
object or array again.
-/

namespace TemplateBundler

/-! ## Rows of keys -/

def Json.isContainer : Json → Bool
  | .array _ | .object _ => true
  | .null | .bool _ | .number _ | .string _ => false

/-- Keys read one after another give the scalars in order: a scalar is put aside, and any other
value is read from next. Only the last key may be missing. -/
inductive Json.Gives : Json → List String → List Json → Prop
  | done (source : Json) : Json.Gives source [] []
  | scalar {source value : Json} {key : String} {keys : List String} {scalars : List Json}
      (h : source.property? key = some value) (hscalar : value.isScalar = true)
      (rest : Json.Gives source keys scalars) : Json.Gives source (key :: keys) (value :: scalars)
  | inner {source value : Json} {key : String} {keys : List String} {scalars : List Json}
      (h : source.property? key = some value) (hscalar : value.isScalar = false)
      (rest : Json.Gives value keys scalars) : Json.Gives source (key :: keys) scalars
  | missing {source : Json} {key : String} (hsource : source.isContainer = true)
      (h : source.property? key = none) : Json.Gives source [key] []

/-- A key is missing from the object or array that it is read from, and another key follows it. -/
inductive Json.HasGap : Json → List String → Prop
  | here {source : Json} {key next : String} {keys : List String}
      (hsource : source.isContainer = true) (h : source.property? key = none) :
      Json.HasGap source (key :: next :: keys)
  | scalar {source value : Json} {key : String} {keys : List String}
      (h : source.property? key = some value) (hscalar : value.isScalar = true)
      (rest : Json.HasGap source keys) : Json.HasGap source (key :: keys)
  | inner {source value : Json} {key : String} {keys : List String}
      (h : source.property? key = some value) (hscalar : value.isScalar = false)
      (rest : Json.HasGap value keys) : Json.HasGap source (key :: keys)

namespace Operands

variable {scope : Scope}

theorem readKey_of_missing {state : Operands} {source : Json} {key : String}
    (hstate : state.source = some source) (hsource : source.isContainer = true)
    (h : source.property? key = none) : state.readKey key = .ok state := by
  cases source with
  | object fields | array items => simp only [readKey, hstate, h]
  | null | bool flag | number number | string text => cases hsource

theorem readKey_of_not_container {state : Operands} {source : Json} (key : String)
    (hstate : state.source = some source) (hsource : source.isContainer = false) :
    ∃ obstacle, state.readKey key = .error obstacle := by
  cases source with
  | object fields | array items => cases hsource
  | null | bool flag | number number | string text => simp [readKey, hstate]

/-- The scalars that the keys give fill the operands one after another. -/
theorem steps_of_gives (scope : Scope) {source : Json} {keys : List String} {scalars : List Json}
    (h : source.Gives keys scalars) (state : Operands) (hstate : state.source = some source) :
    ∃ last, steps scope state (keys.map .key) =
      .ok ((scalars.foldl fill state).aimed (some last) state.sourceName) := by
  induction h generalizing state with
  | done source => exact ⟨source, by rw [← hstate]; rfl⟩
  | @scalar source value key keys scalars h hscalar rest ih =>
    obtain ⟨last, hlast⟩ := ih (state.fill value) (by rw [fill_source, hstate])
    refine ⟨last, ?_⟩
    rw [List.map_cons, steps_key hstate h, if_pos hscalar, hlast, fill_sourceName, List.foldl_cons]
  | @inner source value key keys scalars h hscalar rest ih =>
    obtain ⟨last, hlast⟩ := ih (state.aimed (some value) state.sourceName) rfl
    refine ⟨last, ?_⟩
    rw [List.map_cons, steps_key hstate h, hscalar, if_neg Bool.false_ne_true, hlast,
      foldl_fill_aimed, aimed_aimed]
    rfl
  | @missing source key hsource h =>
    refine ⟨source, ?_⟩
    rw [List.map_singleton, steps_cons, step, readKey_of_missing hstate hsource h, ← hstate]
    rfl

theorem gives_of_steps {source : Json} {keys : List String} {state next : Operands}
    (hgap : ¬ source.HasGap keys) (hstate : state.source = some source)
    (h : steps scope state (keys.map .key) = .ok next) : ∃ scalars, source.Gives keys scalars := by
  induction keys generalizing source state with
  | nil => exact ⟨[], .done source⟩
  | cons key keys ih =>
    rw [List.map_cons] at h
    cases hsource : source.isContainer with
    | false =>
      obtain ⟨obstacle, hobstacle⟩ := readKey_of_not_container key hstate hsource
      rw [steps_cons, step, hobstacle] at h
      cases h
    | true =>
      cases hvalue : source.property? key with
      | none =>
        cases keys with
        | nil => exact ⟨[], .missing hsource hvalue⟩
        | cons follower keys => exact absurd (.here hsource hvalue) hgap
      | some value =>
        rw [steps_key hstate hvalue] at h
        cases hscalar : value.isScalar with
        | true =>
          rw [hscalar, if_pos rfl] at h
          obtain ⟨scalars, hscalars⟩ := ih (fun rest => hgap (.scalar hvalue hscalar rest))
            (by rw [fill_source, hstate]) h
          exact ⟨value :: scalars, .scalar hvalue hscalar hscalars⟩
        | false =>
          rw [hscalar, if_neg Bool.false_ne_true] at h
          obtain ⟨scalars, hscalars⟩ := ih (fun rest => hgap (.inner hvalue hscalar rest)) rfl h
          exact ⟨scalars, .inner hvalue hscalar hscalars⟩

end Operands

/-! ## Keys that lead through objects and arrays -/

namespace Json

variable {source value container : Json} {key : String} {keys inner : List String}

theorem isContainer_of_property? (h : source.property? key = some value) :
    source.isContainer = true := by
  cases source with
  | object fields | array items => rfl
  | null | bool flag | number number | string text => cases h

theorem isScalar_of_isContainer (h : value.isContainer = true) : value.isScalar = false := by
  cases value with
  | object fields | array items => rfl
  | null | bool flag | number number | string text => cases h

theorem gives_cons_iff (h : source.property? key = some value) (hscalar : value.isScalar = false)
    {scalars : List Json} : source.Gives (key :: keys) scalars ↔ value.Gives keys scalars := by
  refine ⟨fun hgives => ?_, .inner h hscalar⟩
  cases hgives with
  | scalar h' hscalar' rest => simp_all
  | inner h' hscalar' rest =>
    cases h.symm.trans h'
    exact rest
  | missing hsource h' => cases h.symm.trans h'

theorem hasGap_cons_iff (h : source.property? key = some value) (hscalar : value.isScalar = false) :
    source.HasGap (key :: keys) ↔ value.HasGap keys := by
  refine ⟨fun hgap => ?_, .inner h hscalar⟩
  cases hgap with
  | here hsource h' => cases h.symm.trans h'
  | scalar h' hscalar' rest => simp_all
  | inner h' hscalar' rest =>
    cases h.symm.trans h'
    exact rest

theorem isContainer_of_foldlM (h : inner.foldlM Json.property? source = some container)
    (hcontainer : container.isContainer = true) : source.isContainer = true := by
  cases inner with
  | nil =>
    cases h
    exact hcontainer
  | cons key inner =>
    rw [List.foldlM_cons] at h
    obtain ⟨value, hvalue, -⟩ := Option.bind_eq_some_iff.1 h
    exact isContainer_of_property? hvalue

/-- Behind keys that lead to an object or an array there is no gap, and the last key alone gives the
scalars. -/
theorem gives_concat_iff (inner : List String) (last : String)
    (h : inner.foldlM Json.property? source = some container)
    (hcontainer : container.isContainer = true) :
    ¬ source.HasGap (inner ++ [last]) ∧
      ∀ scalars, source.Gives (inner ++ [last]) scalars ↔ container.Gives [last] scalars := by
  induction inner generalizing source with
  | nil =>
    cases h
    refine ⟨fun hgap => ?_, fun scalars => Iff.rfl⟩
    cases hgap with
    | scalar h' hscalar rest => cases rest
    | inner h' hscalar rest => cases rest
  | cons key inner ih =>
    rw [List.foldlM_cons] at h
    obtain ⟨value, hvalue, hrest⟩ := Option.bind_eq_some_iff.1 h
    have hscalar := isScalar_of_isContainer (isContainer_of_foldlM hrest hcontainer)
    rw [List.cons_append, hasGap_cons_iff hvalue hscalar]
    simp only [gives_cons_iff hvalue hscalar]
    exact ih hrest

end Json

/-! ## The text of a scalar -/

theorem Number.chars_ne_nil (number : Number) : number.chars ≠ [] := by
  cases number with
  | int value =>
    rw [Number.chars, Integer.text]
    split
    · exact List.cons_ne_nil _ _
    · exact Nat.toDigits_ne_nil
  | float value =>
    have harrange : ∀ digits lead, FloatLayout.json.arrange digits lead ≠ [] := by
      intro digits lead
      unfold FloatLayout.arrange FloatLayout.pointAfter
      split_ifs <;> simp
    rw [Number.chars, FloatLayout.chars]
    split_ifs <;> simp [harrange]

theorem Json.scalarText_eq_empty_iff {value : Json} (hscalar : value.isScalar = true) :
    value.scalarText = "" ↔ value = .string "" := by
  cases value with
  | string text => simp [scalarText]
  | number number => simp [scalarText, text, chars, number.chars_ne_nil]
  | bool flag => cases flag <;> simp [scalarText, text, chars]
  | null | array items | object fields => cases hscalar

theorem Json.scalarText_ne_empty {value : Json} (hscalar : value.isScalar = true)
    (htruthy : value.isTruthy = true) : value.scalarText ≠ "" := by
  rw [Ne, scalarText_eq_empty_iff hscalar]
  rintro rfl
  cases htruthy

/-! ## Paths -/

section Paths

variable {scope : Scope} {stack : List ExprToken} {name : String} {keys : List String}

/-- The path of a variable with keys behind it is the text of the scalars that the keys give. -/
theorem foldPath_keys_eq_ok_iff (hstack : Spells stack (.variable name :: keys.map .key))
    (hkeys : keys ≠ [])
    (hgap : ∀ source, scope.lookup? name = some source → ¬ source.HasGap keys) {path : String} :
    foldPath stack scope = .ok path ↔
      ∃ source scalars, scope.lookup? name = some source ∧ source.Gives keys scalars ∧
        Operands.slotText scalars = path ∧ path ≠ "" := by
  have hvariable : Operands.steps scope {} (.variable name :: keys.map .key) =
      Operands.steps scope (({} : Operands).aimed (scope.lookup? name) (some name))
        (keys.map .key) := rfl
  rw [foldPath_eq_ok_iff hstack, hvariable]
  cases hsource : scope.lookup? name with
  | none =>
    cases keys with
    | nil => exact absurd rfl hkeys
    | cons key keys => simp [Operands.steps_cons, Operands.step, Operands.readKey, Operands.aimed,
        Except.bind]
  | some source =>
    have hrun : ∀ scalars, source.Gives keys scalars → ∃ state,
        Operands.steps scope (({} : Operands).aimed (some source) (some name)) (keys.map .key) =
          .ok state ∧ state.flush.path = Operands.slotText scalars := by
      intro scalars hgives
      obtain ⟨last, hlast⟩ := Operands.steps_of_gives scope hgives
        (({} : Operands).aimed (some source) (some name)) rfl
      refine ⟨_, hlast, ?_⟩
      rw [Operands.foldl_fill_aimed, Operands.aimed_aimed, Operands.flush_aimed_path,
        Operands.flush_foldl_fill_path _ rfl rfl]
      exact String.empty_append
    constructor
    · rintro ⟨state, hsteps, hstate, hne⟩
      obtain ⟨scalars, hgives⟩ := Operands.gives_of_steps (hgap source hsource) rfl hsteps
      obtain ⟨state', hsteps', hpath⟩ := hrun scalars hgives
      cases hsteps.symm.trans hsteps'
      exact ⟨source, scalars, rfl, hgives, hpath.symm.trans hstate, hne⟩
    · rintro ⟨source', scalars, hsource', hgives, htext, hne⟩
      cases hsource'
      obtain ⟨state, hsteps, hpath⟩ := hrun scalars hgives
      exact ⟨state, hsteps, hpath.trans htext, hne⟩

theorem gives_last_iff {container : Json} {last path : String} :
    (∃ scalars, container.Gives [last] scalars ∧ Operands.slotText scalars = path ∧ path ≠ "") ↔
      ∃ value, container.property? last = some value ∧ value.isScalar = true ∧
        value.isTruthy = true ∧ value.scalarText = path := by
  constructor
  · rintro ⟨scalars, hgives, htext, hne⟩
    cases hgives with
    | @scalar _ value _ _ _ h hscalar rest =>
      cases rest
      cases htruthy : value.isTruthy with
      | true =>
        rw [Operands.slotText_cons_of_truthy htruthy] at htext
        exact ⟨value, h, hscalar, htruthy, by simpa [Operands.operandText?] using htext⟩
      | false =>
        rw [Operands.slotText_cons_of_not_truthy htruthy] at htext
        exact absurd htext.symm hne
    | inner h hscalar rest =>
      cases rest
      exact absurd htext.symm hne
    | missing hsource h => exact absurd htext.symm hne
  · rintro ⟨value, h, hscalar, htruthy, rfl⟩
    refine ⟨[value], .scalar h hscalar (.done container), ?_,
      Json.scalarText_ne_empty hscalar htruthy⟩
    rw [Operands.slotText_cons_of_truthy htruthy]
    simp [Operands.operandText?]

/-- **A dotted read finds what stands under its keys.** A scalar on the way becomes an operand, and
reading goes on in the object or array that it stands in. Where all keys but the last lead through
objects and arrays, the path is the text of the truthy scalar under the last key, and there is no path
without one. -/
theorem foldPath_dottedRead (scope : Scope)
    (hstack : Spells stack (.variable name :: keys.map .key)) (hkeys : keys ≠ []) (path : String) :
    ((∀ source, scope.lookup? name = some source → ¬ source.HasGap keys) →
      (foldPath stack scope = .ok path ↔
        ∃ source scalars, scope.lookup? name = some source ∧ source.Gives keys scalars ∧
          Operands.slotText scalars = path ∧ path ≠ "")) ∧
    ∀ inner last source container, keys = inner ++ [last] → scope.lookup? name = some source →
      inner.foldlM Json.property? source = some container → container.isContainer = true →
        (foldPath stack scope = .ok path ↔
          ∃ value, container.property? last = some value ∧ value.isScalar = true ∧
            value.isTruthy = true ∧ value.scalarText = path) := by
  refine ⟨fun hgap => foldPath_keys_eq_ok_iff hstack hkeys hgap, ?_⟩
  rintro inner last source container rfl hsource hinner hcontainer
  obtain ⟨hgap, hgives⟩ := Json.gives_concat_iff inner last hinner hcontainer
  have hgap' : ∀ source', scope.lookup? name = some source' → ¬ source'.HasGap (inner ++ [last]) := by
    intro source' hsource'
    cases hsource.symm.trans hsource'
    exact hgap
  rw [foldPath_keys_eq_ok_iff hstack hkeys hgap', hsource, ← gives_last_iff]
  simp [hgives]

end Paths

/-! ### Reads of a page -/

def pageScope : Scope :=
  { value := .object [("page", .object
      [("name", .string "intro"), ("type", .string "hero"),
        ("hero", .object [("template", .string "wide.twig")])])] }

/-- `page.hero.template` -/
def heroStack : List ExprToken := [variableToken "page", keyToken "hero", keyToken "template"]

theorem spells_heroStack :
    Spells heroStack (.variable "page" :: ["hero", "template"].map .key) :=
  .term rfl <| .term rfl <| .term rfl .nil

theorem foldPath_dottedRead_heroStack :
    Spells heroStack (.variable "page" :: ["hero", "template"].map .key) ∧
    (∀ source, pageScope.lookup? "page" = some source → ¬ source.HasGap ["hero", "template"]) ∧
    (∃ source scalars, pageScope.lookup? "page" = some source ∧
      source.Gives ["hero", "template"] scalars ∧ Operands.slotText scalars = "wide.twig") ∧
    foldPath heroStack pageScope = .ok "wide.twig" := by
  have hgap : ∀ source, pageScope.lookup? "page" = some source →
      ¬ source.HasGap ["hero", "template"] := by
    rintro source ⟨⟩
    exact (Json.gives_concat_iff ["hero"] "template" rfl rfl).1
  have hread := foldPath_dottedRead pageScope spells_heroStack (by simp) "wide.twig"
  have hpath : foldPath heroStack pageScope = .ok "wide.twig" :=
    (hread.2 ["hero"] "template" _ _ rfl rfl rfl rfl).2 ⟨_, rfl, rfl, rfl, rfl⟩
  obtain ⟨source, scalars, hsource, hgives, htext, -⟩ := (hread.1 hgap).1 hpath
  exact ⟨spells_heroStack, hgap, ⟨source, scalars, hsource, hgives, htext⟩, hpath⟩

/-- `page.name.type` -/
def nameStack : List ExprToken := [variableToken "page", keyToken "name", keyToken "type"]

/-- Nothing stands under `type` in the name of the page, and yet there is a path: the name and the
type of the page. -/
theorem foldPath_nameStack :
    Spells nameStack (.variable "page" :: ["name", "type"].map .key) ∧
    ((pageScope.lookup? "page").bind fun page =>
      ["name", "type"].foldlM Json.property? page) = none ∧
    foldPath nameStack pageScope = .ok "introhero" :=
  ⟨.term rfl <| .term rfl <| .term rfl .nil, rfl, rfl⟩

end TemplateBundler
