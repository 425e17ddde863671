import TemplateBundler.Proofs.Data.Obstacles

/-!
# Pieces: what a concatenation divides

A concatenation appends the operands at hand to the path and forgets what keys are read from. What
comes after it is therefore evaluated as if it stood alone, and the whole stands for the texts of
its two pieces, one after the other.
-/

namespace TemplateBundler

/-! ## Stacks that can be read -/

theorem exists_spells_iff {stack : List ExprToken} :
    (∃ terms, Spells stack terms) ↔ ∀ token ∈ stack, ∃ term, token.classify = .ok term := by
  constructor
  · rintro ⟨terms, h⟩
    induction h with
    | nil => simp
    | term h rest ih => exact List.forall_mem_cons.2 ⟨⟨_, h⟩, ih⟩
    | idle h hidle rest ih => exact List.forall_mem_cons.2 ⟨⟨_, h⟩, ih⟩
  · intro h
    induction stack with
    | nil => exact ⟨[], .nil⟩
    | cons token stack ih =>
      obtain ⟨⟨term, hterm⟩, hrest⟩ := List.forall_mem_cons.1 h
      obtain ⟨terms, hterms⟩ := ih hrest
      exact ⟨term :: terms, .term hterm hterms⟩

theorem Spells.append {front behind : List ExprToken} {terms more : List PathTerm}
    (hfront : Spells front terms) (hbehind : Spells behind more) :
    Spells (front ++ behind) (terms ++ more) := by
  induction hfront with
  | nil => exact hbehind
  | term h rest ih => exact .term h ih
  | idle h hidle rest ih => exact .idle h hidle ih

theorem exists_spells_of_run {scope : Scope} {fail : Obstacle → Failure} {state next : Operands}
    {stack : List ExprToken} (h : Operands.run scope fail state stack = .ok next) :
    ∃ terms, Spells stack terms := by
  induction stack generalizing state with
  | nil => exact ⟨[], .nil⟩
  | cons token stack ih =>
    rw [Operands.run, List.foldlM_cons] at h
    cases hterm : token.classify with
    | error failure =>
      rw [hterm] at h
      cases h
    | ok term =>
      cases hstep : state.step scope term with
      | error obstacle =>
        simp only [hterm, Except.bind, hstep] at h
        cases h
      | ok middle =>
        simp only [hterm, Except.bind, hstep] at h
        obtain ⟨terms, hterms⟩ := ih h
        exact ⟨term :: terms, .term hterm hterms⟩

/-! ## Operands behind earlier ones -/

theorem toOption_bind {ε α β : Type} (outcome : Except ε α) (f : α → Except ε β) :
    (outcome.bind f).toOption = outcome.toOption.bind fun a => (f a).toOption := by
  cases outcome <;> rfl

theorem toOption_eq_some_iff {ε α : Type} {outcome : Except ε α} {a : α} :
    outcome.toOption = some a ↔ outcome = .ok a := by
  cases outcome <;> simp [Except.toOption]

namespace Operands

variable {scope : Scope} {state earlier next last : Operands}

/-- The operands at hand, where others have been appended to the path earlier. What was named
earlier only shows in failures. -/
def onto (state earlier : Operands) : Operands :=
  { state with
    path := earlier.path ++ state.path
    sourceName := state.sourceName.or earlier.sourceName }

theorem fill_onto (value : Json) :
    (state.onto earlier).fill value = (state.fill value).onto earlier := by
  unfold fill onto
  dsimp only
  split <;> rfl

theorem flush_onto : (state.onto earlier).flush = state.flush.onto earlier := by
  unfold flush onto
  dsimp only
  cases operandText? state.left with
  | none => rfl
  | some left => simp only [String.append_assoc]

theorem readKey_onto (key : String) :
    ((state.onto earlier).readKey key).toOption =
      (state.readKey key).toOption.map fun next => next.onto earlier := by
  have hsource : (state.onto earlier).source = state.source := rfl
  unfold readKey
  rw [hsource]
  cases state.source with
  | none => cases (state.onto earlier).sourceName <;> cases state.sourceName <;> rfl
  | some source =>
    cases source with
    | null | bool flag | number number | string text => rfl
    | object fields | array items =>
      dsimp only
      split
      · rw [fill_onto]
        split <;> rfl
      · rfl

theorem step_onto (term : PathTerm) :
    ((state.onto earlier).step scope term).toOption =
      (state.step scope term).toOption.map fun next => next.onto earlier := by
  cases term with
  | literal text => exact congrArg some (fill_onto _)
  | «variable» name | slice start stop | unsupported kind => rfl
  | key key => exact readKey_onto key
  | concat => exact congrArg some flush_onto

/-- A row of terms does the same behind earlier operands, or fails as well. -/
theorem steps_onto (terms : List PathTerm) :
    (steps scope (state.onto earlier) terms).toOption =
      (steps scope state terms).toOption.map fun next => next.onto earlier := by
  induction terms generalizing state with
  | nil => rfl
  | cons term terms ih =>
    rw [steps_cons, steps_cons, toOption_bind, toOption_bind, step_onto, Option.bind_map,
      Option.map_bind]
    exact Option.bind_congr fun next _ => ih

theorem steps_onto_eq_ok_iff {terms : List PathTerm} :
    steps scope (state.onto earlier) terms = .ok last ↔
      ∃ next, steps scope state terms = .ok next ∧ next.onto earlier = last := by
  rw [← toOption_eq_some_iff, steps_onto, Option.map_eq_some_iff]
  simp only [toOption_eq_some_iff]

/-- Behind a concatenation everything begins anew but the path. -/
theorem flush_eq_onto : state.flush = ({} : Operands).onto state.flush := by
  simp [onto, flush]

/-- A row with a concatenation in it is two rows, and their paths follow one another. -/
theorem steps_concat_eq_ok_iff {terms more : List PathTerm} :
    steps scope {} (terms ++ .concat :: more) = .ok last ↔
      ∃ middle next, steps scope {} terms = .ok middle ∧ steps scope {} more = .ok next ∧
        next.onto middle.flush = last := by
  have hrest : ∀ middle, steps scope middle (.concat :: more) = .ok last ↔
      ∃ next, steps scope {} more = .ok next ∧ next.onto middle.flush = last := by
    intro middle
    rw [← steps_onto_eq_ok_iff, ← flush_eq_onto]
    rfl
  simp only [steps_append_eq_ok_iff, hrest, exists_and_left]

end Operands

/-! ## The text of a stack -/

/-- The text of a stack is its path, or empty if this is why it has no path. -/
def StandsFor (scope : Scope) (stack : List ExprToken) (text : String) : Prop :=
  foldPath stack scope = .ok text ∨
    foldPath stack scope = .error (unresolvable stack .emptyPath) ∧ text = ""

section Text

variable {scope : Scope} {stack : List ExprToken} {text : String}

theorem ne_empty_of_foldPath (h : foldPath stack scope = .ok text) : text ≠ "" := by
  unfold foldPath at h
  split at h
  · cases h
  · dsimp only at h
    split at h
    · cases h
    · rename_i hpath
      cases h
      exact hpath

theorem Operands.run_ne_emptyPath {state : Operands} {tokens : List ExprToken} :
    run scope (unresolvable stack) state tokens ≠ .error (unresolvable stack .emptyPath) := by
  intro h
  obtain ⟨before, token, after, terms, middle, -, -, -, hlast⟩ := run_eq_error h
  rcases hlast with hterm | ⟨key, obstacle, -, hkey, hfailure⟩
  · obtain ⟨field, hfield⟩ := ExprToken.classify_eq_error hterm
    cases hfield
  · cases hfailure
    exact readKey_ne_emptyPath hkey

theorem StandsFor.exists_spells (h : StandsFor scope stack text) : ∃ terms, Spells stack terms := by
  cases hrun : Operands.run scope (unresolvable stack) {} stack with
  | ok state => exact exists_spells_of_run hrun
  | error failure =>
    have hpath : foldPath stack scope = .error failure := by rw [foldPath, hrun]
    rcases h with h | ⟨h, -⟩
    · cases hpath.symm.trans h
    · cases hpath.symm.trans h
      exact absurd hrun Operands.run_ne_emptyPath

theorem standsFor_iff {terms : List PathTerm} (hstack : Spells stack terms) :
    StandsFor scope stack text ↔
      ∃ state, Operands.steps scope {} terms = .ok state ∧ state.flush.path = text := by
  rw [StandsFor, foldPath_of_spells hstack, pathOf]
  cases hsteps : Operands.steps scope {} terms with
  | error obstacle =>
    have hne : obstacle ≠ .emptyPath := by
      rintro rfl
      refine Operands.run_ne_emptyPath (?_ : Operands.run scope (unresolvable stack) {} stack = _)
      rw [Operands.run_of_spells hstack, hsteps]
      rfl
    simp [Except.bind, Except.mapError, unresolvable, hne]
  | ok state =>
    simp only [Except.bind, Except.ok.injEq, exists_eq_left']
    split
    · rename_i hempty
      simp [Except.mapError, hempty, eq_comm]
    · simp [Except.mapError]

end Text

section Concat

variable {scope : Scope} {front behind : List ExprToken} {joint : ExprToken}

/-- **A concatenation divides a stack into two pieces.** The stack has a text exactly if both pieces
have one, and it is the two of them one after the other. -/
theorem standsFor_append_concat_iff (hjoint : joint.classify = .ok .concat) {text : String} :
    StandsFor scope (front ++ joint :: behind) text ↔
      ∃ before after, StandsFor scope front before ∧ StandsFor scope behind after ∧
        text = before ++ after := by
  constructor
  · intro h
    have htokens := exists_spells_iff.1 h.exists_spells
    rw [List.forall_mem_append, List.forall_mem_cons] at htokens
    obtain ⟨terms, hterms⟩ := exists_spells_iff.2 htokens.1
    obtain ⟨more, hmore⟩ := exists_spells_iff.2 htokens.2.2
    obtain ⟨last, hlast, htext⟩ := (standsFor_iff (hterms.append (.term hjoint hmore))).1 h
    obtain ⟨middle, next, hmiddle, hnext, rfl⟩ := Operands.steps_concat_eq_ok_iff.1 hlast
    rw [Operands.flush_onto] at htext
    exact ⟨middle.flush.path, next.flush.path, (standsFor_iff hterms).2 ⟨middle, hmiddle, rfl⟩,
      (standsFor_iff hmore).2 ⟨next, hnext, rfl⟩, htext.symm⟩
  · rintro ⟨before, after, hbefore, hafter, rfl⟩
    obtain ⟨terms, hterms⟩ := hbefore.exists_spells
    obtain ⟨more, hmore⟩ := hafter.exists_spells
    obtain ⟨middle, hmiddle, rfl⟩ := (standsFor_iff hterms).1 hbefore
    obtain ⟨next, hnext, rfl⟩ := (standsFor_iff hmore).1 hafter
    refine (standsFor_iff (hterms.append (.term hjoint hmore))).2 ⟨next.onto middle.flush,
      Operands.steps_concat_eq_ok_iff.2 ⟨middle, next, hmiddle, hnext, rfl⟩, ?_⟩
    rw [Operands.flush_onto]
    rfl

/-- **The pieces of a stack do not look at each other.** Two paths make a path. The pieces of a path
are paths, or empty, and make it together. -/
theorem foldPath_pieces (hjoint : joint.classify = .ok .concat) :
    (∀ before after, foldPath front scope = .ok before → foldPath behind scope = .ok after →
      foldPath (front ++ joint :: behind) scope = .ok (before ++ after)) ∧
    ∀ path, foldPath (front ++ joint :: behind) scope = .ok path →
      ∃ before after, StandsFor scope front before ∧ StandsFor scope behind after ∧
        path = before ++ after := by
  constructor
  · intro before after hbefore hafter
    have hboth : StandsFor scope (front ++ joint :: behind) (before ++ after) :=
      (standsFor_append_concat_iff hjoint).2 ⟨before, after, .inl hbefore, .inl hafter, rfl⟩
    rcases hboth with hpath | ⟨-, hempty⟩
    · exact hpath
    · exact absurd (String.append_eq_empty_iff.1 hempty).1 (ne_empty_of_foldPath hbefore)
  · intro path hpath
    exact (standsFor_append_concat_iff hjoint).1 (.inl hpath)

end Concat

/-! ### Two pieces of a page's path -/

def typeStack : List ExprToken := [variableToken "page", keyToken "type"]

theorem foldPath_pieces_typeStack :
    concatToken.classify = .ok .concat ∧
    foldPath (typeStack ++ concatToken :: [.ofText ".twig"]) pageScope = .ok "hero.twig" ∧
    foldPath (typeStack ++ concatToken :: [.ofText ""]) pageScope = .ok "hero" ∧
    ∃ before after, StandsFor pageScope typeStack before ∧ StandsFor pageScope [.ofText ""] after ∧
      "hero" = before ++ after := by
  have hjoint : concatToken.classify = .ok .concat := rfl
  have hempty : foldPath (typeStack ++ concatToken :: [.ofText ""]) pageScope = .ok "hero" := rfl
  exact ⟨hjoint, (foldPath_pieces hjoint).1 "hero" ".twig" rfl rfl, hempty,
    (foldPath_pieces hjoint).2 "hero" hempty⟩

end TemplateBundler
