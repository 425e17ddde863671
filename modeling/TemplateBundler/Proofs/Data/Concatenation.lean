import TemplateBundler.Proofs.Data.Operands

/-!
# Concatenation: chains and nested concatenations of operands

A chain joins one operand after another to what stands before it. Its path is the text of all its
operands. An expression may also nest concatenations the other way, as in `"a" ~ ("b" ~ "c")`; in its
postfix order three operands then follow one another, and two slots cannot hold them.

* `Json.joins`: the values that a path takes over whole;
* `foldPath_chain`: the path of a chain;
* `Nesting`: any nesting of concatenations, with its postfix order;
* `Nesting.Paired`: the nestings whose runs fit into the two slots;
* `foldPath_nesting`: the path of a nesting, and which nestings lose no operand.
-/

namespace TemplateBundler

/-! ## Values that are taken over whole -/

/-- The values that a path takes over whole: a string, a number that is not zero, and `true`. -/
def Json.joins : Json → Bool
  | .string _ => true
  | .number value => !value.isZero
  | .bool value => value
  | .null | .array _ | .object _ => false

theorem Json.isScalar_of_joins {value : Json} (h : value.joins = true) : value.isScalar = true := by
  cases value with
  | string text | number number | bool flag => rfl
  | null | array items | object fields => cases h

theorem Json.scalarText_of_joins {value : Json} (h : value.joins = true)
    (hfalse : value.isTruthy = false) : value.scalarText = "" := by
  cases value with
  | string text => simpa [isTruthy, scalarText] using hfalse
  | number number => exact absurd (hfalse.symm.trans h) Bool.false_ne_true
  | bool flag => exact absurd (hfalse.symm.trans h) Bool.false_ne_true
  | null | array items | object fields => cases h

namespace Operands

theorem operandText?_of_joins {value : Json} (h : value.joins = true) :
    (operandText? (some value)).getD "" = value.scalarText := by
  cases htruthy : value.isTruthy with
  | true => simp [operandText?, htruthy]
  | false => simp [operandText?, htruthy, Json.scalarText_of_joins h htruthy]

theorem slotText_singleton {value : Json} (h : value.joins = true) :
    slotText [value] = value.scalarText := by
  cases htruthy : value.isTruthy with
  | true => simp [slotText_cons_of_truthy htruthy, operandText?]
  | false =>
    rw [slotText_cons_of_not_truthy htruthy, Json.scalarText_of_joins h htruthy]
    rfl

/-- Two slots hold up to two values. An empty left operand gives its place to the right one. -/
theorem slotText_of_length_le_two {values : List Json} (hlength : values.length ≤ 2)
    (h : ∀ value ∈ values, value.joins = true) :
    slotText values = String.join (values.map Json.scalarText) := by
  match values with
  | [] => rfl
  | [value] => rw [slotText_singleton (h value (by simp))]; simp
  | [first, second] =>
    have hfirst := h first (by simp)
    have hsecond := h second (by simp)
    have hjoin : String.join ([first, second].map Json.scalarText) =
        first.scalarText ++ second.scalarText := by simp
    rw [hjoin]
    cases htruthy : first.isTruthy with
    | true =>
      rw [slotText_cons_of_truthy htruthy, List.getLast?_singleton, operandText?_of_joins hsecond]
    | false =>
      rw [slotText_cons_of_not_truthy htruthy, slotText_singleton hsecond,
        Json.scalarText_of_joins hfirst htruthy, String.empty_append]
  | _ :: _ :: _ :: _ => simp at hlength

end Operands

/-! ## Rows -/

section Rows

variable {scope : Scope} {items : List (Option Operand)}

theorem rowText_eq_join {pick : List Operand → List Operand}
    (h : ∀ run ∈ runsOf items, Operands.slotText (run.filterMap (Operand.value? scope)) =
      String.join ((pick run).map (Operand.textIn scope))) :
    rowText scope items =
      String.join (((runsOf items).flatMap pick).map (Operand.textIn scope)) := by
  unfold rowText
  revert h
  generalize runsOf items = runs
  intro h
  induction runs with
  | nil => rfl
  | cons run runs ih =>
    rw [List.forall_mem_cons] at h
    rw [List.map_cons, String.join_cons, h.1, ih h.2, List.flatMap_cons, List.map_append,
      String.join_append]

theorem mem_of_mem_runsOf {run : List Operand} (hrun : run ∈ runsOf items) {operand : Operand}
    (h : operand ∈ run) : some operand ∈ items := by
  rw [← List.reduceOption_mem_iff, ← flatten_runsOf]
  exact List.mem_flatten_of_mem hrun h

theorem map_scalarText_filterMap {run : List Operand}
    (h : ∀ operand ∈ run, ∃ value, operand.value? scope = some value) :
    (run.filterMap (Operand.value? scope)).map Json.scalarText =
      run.map (Operand.textIn scope) := by
  induction run with
  | nil => rfl
  | cons operand run ih =>
    rw [List.forall_mem_cons] at h
    obtain ⟨⟨value, hvalue⟩, hrest⟩ := h
    rw [List.filterMap_cons_some hvalue, List.map_cons, List.map_cons, ih hrest, Operand.textIn,
      hvalue]
    rfl

theorem rowText_of_length_le_two (hruns : ∀ run ∈ runsOf items, run.length ≤ 2)
    (hvalues : ∀ operand, some operand ∈ items →
      ∃ value, operand.value? scope = some value ∧ value.joins = true) :
    rowText scope items = String.join (items.reduceOption.map (Operand.textIn scope)) := by
  have hrow : rowText scope items =
      String.join (((runsOf items).flatMap id).map (Operand.textIn scope)) := by
    refine rowText_eq_join fun run hrun => ?_
    have hrunValues : ∀ operand ∈ run, ∃ value, operand.value? scope = some value ∧
        value.joins = true := fun operand h => hvalues operand (mem_of_mem_runsOf hrun h)
    rw [Operands.slotText_of_length_le_two, map_scalarText_filterMap]
    · rfl
    · exact fun operand h => (hrunValues operand h).imp fun value hvalue => hvalue.1
    · exact Nat.le_trans (List.length_filterMap_le _ _) (hruns run hrun)
    · intro value hvalue
      obtain ⟨operand, hoperand, hvalue⟩ := List.mem_filterMap.1 hvalue
      obtain ⟨value', hvalue', hjoins⟩ := hrunValues operand hoperand
      rw [hvalue] at hvalue'
      cases hvalue'
      exact hjoins
  rw [hrow, List.flatMap_id, flatten_runsOf]

end Rows

/-! ## Chains -/

/-- A chain of operands: every operand but the first is followed by a concatenation. -/
def chainItems (first : Operand) (rest : List Operand) : List (Option Operand) :=
  some first :: rest.flatMap fun operand => [some operand, none]

theorem runsOf_flatMap_pairs {α : Type} (operands : List α) :
    runsOf (operands.flatMap fun operand => [some operand, none]) =
      operands.map (fun operand => [operand]) ++ [[]] := by
  induction operands with
  | nil => rfl
  | cons operand operands ih =>
    rw [List.flatMap_cons, List.cons_append, List.singleton_append]
    rw [runsOf_some_cons (by rw [runsOf, ih]), List.map_cons, List.cons_append]

theorem length_le_two_of_mem_runsOf_chainItems {first : Operand} {rest run : List Operand}
    (h : run ∈ runsOf (chainItems first rest)) : run.length ≤ 2 := by
  have hruns := runsOf_flatMap_pairs rest
  cases rest with
  | nil =>
    rw [chainItems, runsOf_some_cons hruns, List.mem_singleton] at h
    simp [h]
  | cons second rest =>
    rw [chainItems, runsOf_some_cons hruns] at h
    rcases List.mem_cons.1 h with rfl | h
    · simp
    · rcases List.mem_append.1 h with h | h
      · obtain ⟨operand, -, rfl⟩ := List.mem_map.1 h
        simp
      · simp [List.mem_singleton.1 h]

theorem reduceOption_chainItems (first : Operand) (rest : List Operand) :
    (chainItems first rest).reduceOption = first :: rest := by
  have hruns := flatten_runsOf (rest.flatMap fun operand => [some operand, none])
  rw [runsOf_flatMap_pairs, List.flatten_append, ← List.flatMap_def, List.flatMap_singleton']
    at hruns
  rw [chainItems, List.reduceOption_cons_of_some, ← hruns]
  simp

/-- **A chain stands for the text of all its operands.** The concatenation at its end may be
missing. If the text is empty, the chain has no path. -/
theorem foldPath_chain {scope : Scope} {stack : List ExprToken} {first : Operand}
    {rest : List Operand} {items : List (Option Operand)}
    (hitems : items = chainItems first rest ∨ items ++ [none] = chainItems first rest)
    (hstack : Spells stack (itemTerms items))
    (hvalues : ∀ operand ∈ first :: rest,
      ∃ value, operand.value? scope = some value ∧ value.joins = true) :
    foldPath stack scope =
      if String.join ((first :: rest).map (Operand.textIn scope)) = "" then
        .error (unresolvable stack .emptyPath)
      else .ok (String.join ((first :: rest).map (Operand.textIn scope))) := by
  have hoperands : items.reduceOption = first :: rest := by
    rw [← reduceOption_chainItems]
    rcases hitems with h | h
    · rw [h]
    · rw [← h, List.reduceOption_append]
      simp
  have hruns : ∀ run ∈ runsOf items, run.length ≤ 2 := by
    intro run hrun
    have hchain : run ∈ runsOf (chainItems first rest) := by
      rcases hitems with h | h
      · rwa [← h]
      · rw [← h, runsOf_append_none]
        exact List.mem_append_left _ hrun
    exact length_le_two_of_mem_runsOf_chainItems hchain
  have hitemValues : ∀ operand, some operand ∈ items →
      ∃ value, operand.value? scope = some value ∧ value.joins = true := by
    intro operand hoperand
    rw [← List.reduceOption_mem_iff, hoperands] at hoperand
    exact hvalues operand hoperand
  rw [← hoperands, ← rowText_of_length_le_two hruns hitemValues]
  refine foldPath_items hstack fun operand hoperand => ?_
  obtain ⟨value, hvalue, hjoins⟩ := hitemValues operand hoperand
  exact ⟨value, hvalue, Json.isScalar_of_joins hjoins⟩

/-! ### A chain of four operands

It stands for `"cards/" ~ card.type ~ "" ~ card.index`, with a slice in it and without its last
concatenation. -/

def cardStack : List ExprToken :=
  [.ofText "cards/", variableToken "card", ⟨.slice, [("params", .array [])]⟩, keyToken "type",
    concatToken, .ofText "", concatToken, variableToken "card", keyToken "index"]

def cardScope : Scope :=
  { value := .object
      [("card", .object [("type", .string "hero"), ("index", .number (.int 3))])] }

def cardItems : List (Option Operand) :=
  [some (.literal "cards/"), some (.read "card" "type" []), none, some (.literal ""), none,
    some (.read "card" "index" [])]

theorem spells_cardStack : Spells cardStack (itemTerms cardItems) :=
  .term rfl <| .term rfl <| .idle rfl rfl <| .term rfl <| .term rfl <| .term rfl <| .term rfl <|
    .term rfl <| .term rfl .nil

def cardOperands : List Operand := [.read "card" "type" [], .literal "", .read "card" "index" []]

theorem foldPath_chain_cardStack :
    Spells cardStack (itemTerms cardItems) ∧
    cardItems ++ [none] = chainItems (.literal "cards/") cardOperands ∧
    foldPath cardStack cardScope = .ok "cards/hero3" := by
  have hitems : cardItems ++ [none] = chainItems (.literal "cards/") cardOperands := rfl
  have hvalues : ∀ operand ∈ .literal "cards/" :: cardOperands,
      ∃ value, operand.value? cardScope = some value ∧ value.joins = true := by
    intro operand hoperand
    simp only [cardOperands, List.mem_cons, List.not_mem_nil, or_false] at hoperand
    rcases hoperand with rfl | rfl | rfl | rfl <;> exact ⟨_, rfl, rfl⟩
  refine ⟨spells_cardStack, hitems, ?_⟩
  rw [foldPath_chain (.inr hitems) spells_cardStack hvalues]
  rfl

/-! ## Nested concatenations -/

inductive Nesting where
  | leaf (operand : Operand)
  | join (left right : Nesting)
deriving DecidableEq, Repr

namespace Nesting

def leaves : Nesting → List Operand
  | .leaf operand => [operand]
  | .join left right => left.leaves ++ right.leaves

/-- The postfix order: a concatenation stands behind its two sides. -/
def postfixItems : Nesting → List (Option Operand)
  | .leaf operand => [some operand]
  | .join left right => left.postfixItems ++ right.postfixItems ++ [none]

def isLeaf : Nesting → Bool
  | .leaf _ => true
  | .join _ _ => false

/-- No concatenation has a single operand on its left and another concatenation on its right. -/
def Paired : Nesting → Prop
  | .leaf _ => True
  | .join left right => (left.isLeaf → right.isLeaf) ∧ left.Paired ∧ right.Paired

def ends {α : Type} : List α → List α
  | [] => []
  | first :: behind => first :: behind.getLast?.toList

/-- The operands that reach the path: the first and the last of each run of the postfix order. -/
def kept (nesting : Nesting) : List Operand := (runsOf nesting.postfixItems).flatMap ends

theorem reduceOption_postfixItems (nesting : Nesting) :
    nesting.postfixItems.reduceOption = nesting.leaves := by
  induction nesting with
  | leaf operand => rfl
  | join left right ihl ihr =>
    rw [postfixItems, List.reduceOption_append, List.reduceOption_append, ihl, ihr, leaves]
    simp

/-! ### The runs of a nesting -/

/-- The first run of a nesting holds at least one operand, and two if it is a concatenation. -/
theorem exists_runsOf_postfixItems (nesting : Nesting) (rest : List (Option Operand)) :
    ∃ first run others, runsOf (nesting.postfixItems ++ rest) = (first :: run) :: others ∧
      (nesting.isLeaf = false → run ≠ []) := by
  induction nesting generalizing rest with
  | leaf operand =>
    obtain ⟨run, others, hruns⟩ := exists_runsOf rest
    exact ⟨operand, run, others, runsOf_some_cons hruns operand, by simp [isLeaf]⟩
  | join left right ihl ihr =>
    rw [postfixItems, List.append_assoc, List.append_assoc]
    cases left with
    | leaf operand =>
      obtain ⟨first, run, others, hruns, -⟩ := ihr ([none] ++ rest)
      exact ⟨operand, first :: run, others, runsOf_some_cons hruns operand, by simp⟩
    | join inner outer =>
      obtain ⟨first, run, others, hruns, hrun⟩ := ihl (right.postfixItems ++ ([none] ++ rest))
      exact ⟨first, run, others, hruns, fun _ => hrun rfl⟩

/-- The runs of a nesting fit into two slots exactly if it is paired. -/
theorem paired_iff (nesting : Nesting) :
    nesting.Paired ↔ ∀ run ∈ runsOf nesting.postfixItems, run.length ≤ 2 := by
  induction nesting with
  | leaf operand => simp [Paired, postfixItems, runsOf]
  | join left right ihl ihr =>
    rw [Paired, ihl, ihr, postfixItems, runsOf_append_none, List.forall_mem_append]
    cases left with
    | leaf operand =>
      cases right with
      | leaf other => simp [isLeaf, postfixItems, runsOf]
      | join inner outer =>
        -- the run of the operand on the left goes on into the concatenation on the right
        obtain ⟨first, run, others, hruns, hrun⟩ :=
          exists_runsOf_postfixItems (.join inner outer) []
        rw [List.append_nil] at hruns
        have hlong : operand :: first :: run ∈
            runsOf ((leaf operand).postfixItems ++ (join inner outer).postfixItems) := by
          rw [postfixItems, List.singleton_append, runsOf_some_cons hruns]
          exact List.mem_cons_self
        constructor
        · rintro ⟨hleaf, -⟩
          exact absurd (hleaf rfl) Bool.false_ne_true
        · rintro ⟨hshort, -⟩
          have hlength := hshort _ hlong
          simp only [List.length_cons] at hlength
          exact absurd (List.eq_nil_of_length_eq_zero (by omega)) (hrun rfl)
    | join inner outer =>
      -- the concatenation on the left ends its last run
      have hboth : runsOf ((join inner outer).postfixItems ++ right.postfixItems) =
          runsOf (inner.postfixItems ++ outer.postfixItems) ++ runsOf right.postfixItems := by
        rw [postfixItems, List.append_assoc, List.singleton_append, runsOf_append_none]
      rw [hboth, postfixItems, runsOf_append_none, List.forall_mem_append, List.forall_mem_append]
      simp [isLeaf, runsOf]

/-! ### The operands that reach the path -/

section Ends

variable {α : Type}

theorem ends_sublist (run : List α) : (ends run).Sublist run := by
  cases run with
  | nil => exact List.Sublist.slnil
  | cons first behind =>
    refine List.Sublist.cons_cons first ?_
    cases hlast : behind.getLast? with
    | none => exact List.nil_sublist behind
    | some last => exact List.singleton_sublist.2 (List.mem_of_getLast? hlast)

theorem length_ends_le_two (run : List α) : (ends run).length ≤ 2 := by
  cases run with
  | nil => exact Nat.zero_le 2
  | cons first behind =>
    rw [ends, List.length_cons]
    cases behind.getLast? <;> simp

theorem ends_of_length_le_two {run : List α} (h : run.length ≤ 2) : ends run = run := by
  match run with
  | [] | [_] | [_, _] => rfl
  | _ :: _ :: _ :: _ => simp at h

theorem flatMap_ends_sublist (runs : List (List α)) :
    (runs.flatMap ends).Sublist runs.flatten := by
  induction runs with
  | nil => exact List.Sublist.slnil
  | cons run runs ih =>
    rw [List.flatMap_cons, List.flatten_cons]
    exact (ends_sublist run).append ih

/-- Nothing is lost exactly if no run is longer than two. -/
theorem flatMap_ends_eq_flatten_iff (runs : List (List α)) :
    runs.flatMap ends = runs.flatten ↔ ∀ run ∈ runs, run.length ≤ 2 := by
  induction runs with
  | nil => simp
  | cons run runs ih =>
    rw [List.flatMap_cons, List.flatten_cons, List.forall_mem_cons, ← ih]
    constructor
    · intro h
      have hlength := congrArg List.length h
      rw [List.length_append, List.length_append] at hlength
      have hhead := (ends_sublist run).length_le
      have htail := (flatMap_ends_sublist runs).length_le
      obtain ⟨hrun, hruns⟩ := List.append_inj h (by omega)
      rw [← hrun]
      exact ⟨length_ends_le_two run, hruns⟩
    · rintro ⟨hrun, hruns⟩
      rw [ends_of_length_le_two hrun, hruns]

end Ends

theorem kept_sublist (nesting : Nesting) : nesting.kept.Sublist nesting.leaves := by
  rw [← reduceOption_postfixItems, ← flatten_runsOf]
  exact flatMap_ends_sublist _

theorem kept_eq_leaves_iff (nesting : Nesting) : nesting.kept = nesting.leaves ↔ nesting.Paired := by
  rw [paired_iff, ← flatMap_ends_eq_flatten_iff, flatten_runsOf, reduceOption_postfixItems, kept]

theorem exists_kept_cons (nesting : Nesting) :
    ∃ first others, nesting.kept = first :: others := by
  obtain ⟨first, run, others, hruns, -⟩ := nesting.exists_runsOf_postfixItems []
  rw [List.append_nil] at hruns
  exact ⟨first, run.getLast?.toList ++ others.flatMap ends, by rw [kept, hruns]; rfl⟩

theorem length_join_le_of_sublist {texts texts' : List String} (h : texts.Sublist texts') :
    (String.join texts).length ≤ (String.join texts').length := by
  induction h with
  | slnil => exact Nat.le_refl _
  | cons text h ih =>
    rw [String.join_cons, String.length_append]
    omega
  | cons_cons text h ih =>
    rw [String.join_cons, String.join_cons, String.length_append, String.length_append]
    omega

/-- Texts that are not empty cannot be left out without a change of the whole. -/
theorem eq_of_sublist_of_join_eq {texts texts' : List String} (h : texts.Sublist texts')
    (hne : ∀ text ∈ texts', text ≠ "") (hjoin : String.join texts = String.join texts') :
    texts = texts' := by
  induction h with
  | slnil => rfl
  | cons text h ih =>
    have hlength := congrArg String.length hjoin
    rw [String.join_cons, String.length_append] at hlength
    have htext : text.length ≠ 0 := by simpa using hne text List.mem_cons_self
    have hle := length_join_le_of_sublist h
    omega
  | cons_cons text h ih =>
    rw [String.join_cons, String.join_cons, String.append_right_inj] at hjoin
    rw [ih (fun other hother => hne other (List.mem_cons_of_mem text hother)) hjoin]

theorem slotText_filterMap {scope : Scope} {run : List Operand}
    (h : ∀ operand ∈ run, ∃ text, operand.value? scope = some (.string text) ∧ text ≠ "") :
    Operands.slotText (run.filterMap (Operand.value? scope)) =
      String.join ((ends run).map (Operand.textIn scope)) := by
  have hvalue : ∀ operand ∈ run, operand.value? scope = some (.string (operand.textIn scope)) ∧
      operand.textIn scope ≠ "" := by
    intro operand hoperand
    obtain ⟨text, hvalue, htext⟩ := h operand hoperand
    have htextIn : operand.textIn scope = text := by rw [Operand.textIn, hvalue]; rfl
    rw [htextIn]
    exact ⟨hvalue, htext⟩
  have hvalues : run.filterMap (Operand.value? scope) =
      run.map fun operand => .string (operand.textIn scope) := by
    rw [← List.filterMap_eq_map]
    exact List.filterMap_congr fun operand hoperand => (hvalue operand hoperand).1
  rw [hvalues]
  cases run with
  | nil => rfl
  | cons first behind =>
    have hfirst := (hvalue first List.mem_cons_self).2
    rw [List.map_cons, Operands.slotText_cons_of_truthy (by simpa [Json.isTruthy] using hfirst),
      ends, List.getLast?_map]
    cases hlast : behind.getLast? with
    | none => simp [Operands.operandText?, Json.scalarText]
    | some last =>
      rw [Option.map_some, Operands.operandText?_of_joins rfl]
      simp [Json.scalarText]

section Row

variable {scope : Scope} {nesting : Nesting}

theorem leaf_of_mem_postfixItems {operand : Operand} (h : some operand ∈ nesting.postfixItems) :
    operand ∈ nesting.leaves := by
  rwa [← List.reduceOption_mem_iff, reduceOption_postfixItems] at h

theorem rowText_postfixItems
    (h : ∀ operand ∈ nesting.leaves,
      ∃ text, operand.value? scope = some (.string text) ∧ text ≠ "") :
    rowText scope nesting.postfixItems =
      String.join (nesting.kept.map (Operand.textIn scope)) := by
  refine rowText_eq_join fun run hrun => slotText_filterMap fun operand hoperand => ?_
  exact h operand (leaf_of_mem_postfixItems (mem_of_mem_runsOf hrun hoperand))

theorem join_kept_ne_empty
    (h : ∀ text ∈ nesting.leaves.map (Operand.textIn scope), text ≠ "") :
    String.join (nesting.kept.map (Operand.textIn scope)) ≠ "" := by
  obtain ⟨first, others, hkept⟩ := nesting.exists_kept_cons
  have hmem : first ∈ nesting.leaves := nesting.kept_sublist.subset (hkept ▸ List.mem_cons_self)
  have htext := h _ (List.mem_map_of_mem hmem)
  rw [hkept, List.map_cons, String.join_cons]
  simp [htext]

end Row

end Nesting

/-- **A nesting loses no operand exactly if it is paired.** Its path is the text of the first and
the last operand of each run in the postfix order. -/
theorem foldPath_nesting {scope : Scope} {stack : List ExprToken} {nesting : Nesting}
    (hstack : Spells stack (itemTerms nesting.postfixItems))
    (hleaves : ∀ operand ∈ nesting.leaves,
      ∃ text, operand.value? scope = some (.string text) ∧ text ≠ "") :
    foldPath stack scope = .ok (String.join (nesting.kept.map (Operand.textIn scope))) ∧
      (foldPath stack scope = .ok (String.join (nesting.leaves.map (Operand.textIn scope))) ↔
        nesting.Paired) := by
  have htexts : ∀ text ∈ nesting.leaves.map (Operand.textIn scope), text ≠ "" := by
    intro text htext
    obtain ⟨operand, hoperand, rfl⟩ := List.mem_map.1 htext
    obtain ⟨text, hvalue, htext⟩ := hleaves operand hoperand
    rw [Operand.textIn, hvalue]
    exact htext
  have hpath : foldPath stack scope =
      .ok (String.join (nesting.kept.map (Operand.textIn scope))) := by
    rw [foldPath_items hstack, Nesting.rowText_postfixItems hleaves,
      if_neg (Nesting.join_kept_ne_empty htexts)]
    intro operand hoperand
    obtain ⟨text, hvalue, -⟩ := hleaves operand (Nesting.leaf_of_mem_postfixItems hoperand)
    exact ⟨_, hvalue, rfl⟩
  refine ⟨hpath, ?_⟩
  rw [hpath, Except.ok.injEq, ← Nesting.kept_eq_leaves_iff]
  constructor
  · intro h
    have hsub := nesting.kept_sublist
    have hmap := Nesting.eq_of_sublist_of_join_eq (hsub.map (Operand.textIn scope)) htexts h
    refine hsub.eq_of_length ?_
    simpa using congrArg List.length hmap
  · intro h
    rw [h]

/-! ### Concatenations to the left and to the right -/

/-- `("a" ~ card.type) ~ ("c" ~ "d")` -/
def pairedNesting : Nesting :=
  .join (.join (.leaf (.literal "a")) (.leaf (.read "card" "type" [])))
    (.join (.leaf (.literal "c")) (.leaf (.literal "d")))

def pairedStack : List ExprToken :=
  [.ofText "a", variableToken "card", keyToken "type", concatToken, .ofText "c", .ofText "d",
    concatToken, concatToken]

theorem spells_pairedStack : Spells pairedStack (itemTerms pairedNesting.postfixItems) :=
  .term rfl <| .term rfl <| .term rfl <| .term rfl <| .term rfl <| .term rfl <| .term rfl <|
    .term rfl .nil

theorem foldPath_nesting_pairedNesting :
    Spells pairedStack (itemTerms pairedNesting.postfixItems) ∧ pairedNesting.Paired ∧
    foldPath pairedStack cardScope = .ok "aherocd" := by
  have hpaired : pairedNesting.Paired := by simp [pairedNesting, Nesting.Paired, Nesting.isLeaf]
  have hleaves : ∀ operand ∈ pairedNesting.leaves,
      ∃ text, operand.value? cardScope = some (.string text) ∧ text ≠ "" := by
    intro operand hoperand
    simp only [pairedNesting, Nesting.leaves, List.cons_append, List.nil_append, List.mem_cons,
      List.not_mem_nil, or_false] at hoperand
    rcases hoperand with rfl | rfl | rfl | rfl <;> exact ⟨_, rfl, by decide⟩
  exact ⟨spells_pairedStack, hpaired, (foldPath_nesting spells_pairedStack hleaves).2.2 hpaired⟩

/-- `"a" ~ ("b" ~ "c")` -/
def rightNesting : Nesting :=
  .join (.leaf (.literal "a")) (.join (.leaf (.literal "b")) (.leaf (.literal "c")))

def rightStack : List ExprToken :=
  [.ofText "a", .ofText "b", .ofText "c", concatToken, concatToken]

/-- A concatenation nested on the right loses its first operand. -/
theorem foldPath_rightNesting :
    Spells rightStack (itemTerms rightNesting.postfixItems) ∧
    (∀ operand ∈ rightNesting.leaves,
      ∃ text, operand.value? {} = some (.string text) ∧ text ≠ "") ∧
    String.join (rightNesting.leaves.map (Operand.textIn {})) = "abc" ∧
    foldPath rightStack {} = .ok "ac" := by
  refine ⟨.term rfl <| .term rfl <| .term rfl <| .term rfl <| .term rfl .nil, ?_, rfl, rfl⟩
  intro operand hoperand
  simp only [rightNesting, Nesting.leaves, List.cons_append, List.nil_append, List.mem_cons,
    List.not_mem_nil, or_false] at hoperand
  rcases hoperand with rfl | rfl | rfl <;> exact ⟨_, rfl, by decide⟩

end TemplateBundler
