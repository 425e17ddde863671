import Mathlib.Data.List.Forall2
import TemplateBundler.Failure

/-!
# Gather: a step on every element of a list, with what it finds

Path stacks, lists of nodes and lists of events are all worked through in the same way: a step
gives an element its new form and a list of findings, the first failure ends the work, and the
findings are put together in order.
-/

namespace TemplateBundler

theorem exceptMap_eq_ok {ε α β : Type} {outcome : Except ε α} {f : α → β} {b : β}
    (h : outcome.map f = .ok b) : ∃ a, outcome = .ok a ∧ f a = b := by
  cases outcome with
  | error failure => cases h
  | ok a =>
    cases h
    exact ⟨a, rfl, rfl⟩

theorem exists_error_iff {ε α : Type} {outcome : Except ε α} :
    (∃ failure, outcome = .error failure) ↔ ¬ ∃ a, outcome = .ok a := by
  cases outcome <;> simp

variable {α β : Type} {step step' : α → Except Failure (α × List String)}

/-- The step made on every element in order, up to the first failure, and all findings. -/
def gather (step : α → Except Failure (α × List String)) :
    List α → Except Failure (List α × List String)
  | [] => .ok ([], [])
  | x :: rest =>
    match step x with
    | .error failure => .error failure
    | .ok (x, found) =>
      match gather step rest with
      | .error failure => .error failure
      | .ok (rest, more) => .ok (x :: rest, found ++ more)

@[simp]
theorem gather_nil : gather step [] = .ok ([], []) := rfl

theorem gather_cons_of_error {x : α} {rest : List α} {failure : Failure}
    (h : step x = .error failure) : gather step (x :: rest) = .error failure := by
  rw [gather, h]

theorem gather_cons_of_ok {x x' : α} {rest : List α} {found : List String}
    (h : step x = .ok (x', found)) :
    gather step (x :: rest) =
      (gather step rest).map fun more => (x' :: more.1, found ++ more.2) := by
  rw [gather, h]
  cases gather step rest <;> rfl

@[simp]
theorem gather_singleton (x : α) :
    gather step [x] = (step x).map fun outcome => ([outcome.1], outcome.2) := by
  cases h : step x with
  | error failure => rw [gather_cons_of_error h]; rfl
  | ok outcome =>
    obtain ⟨x', found⟩ := outcome
    rw [gather_cons_of_ok h, gather_nil]
    simp only [Except.map, List.append_nil]

/-- A list can be cut anywhere: its second part is only looked at when the first has succeeded. -/
theorem gather_append (xs ys : List α) :
    gather step (xs ++ ys) =
      (gather step xs).bind fun done =>
        (gather step ys).map fun more => (done.1 ++ more.1, done.2 ++ more.2) := by
  induction xs with
  | nil =>
    rw [List.nil_append, gather_nil]
    cases gather step ys <;> rfl
  | cons x xs ih =>
    rw [List.cons_append]
    cases h : step x with
    | error failure => rw [gather_cons_of_error h, gather_cons_of_error h]; rfl
    | ok outcome =>
      obtain ⟨x', found⟩ := outcome
      rw [gather_cons_of_ok h, gather_cons_of_ok h, ih]
      cases gather step xs with
      | error failure => rfl
      | ok done =>
        cases gather step ys with
        | error failure => rfl
        | ok more => simp [Except.map, Except.bind]

theorem gather_congr {xs : List α} (h : ∀ x ∈ xs, step x = step' x) :
    gather step xs = gather step' xs := by
  induction xs with
  | nil => rfl
  | cons x xs ih =>
    rw [gather, gather, h x List.mem_cons_self, ih fun y hy => h y (List.mem_cons_of_mem x hy)]

/-! ## Success and the first failure -/

theorem gather_eq_ok_iff {xs ys : List α} {found : List String} :
    gather step xs = .ok (ys, found) ↔
      ∃ outcomes : List (α × List String),
        List.Forall₂ (fun x outcome => step x = .ok outcome) xs outcomes ∧
          ys = outcomes.map Prod.fst ∧ found = outcomes.flatMap Prod.snd := by
  induction xs generalizing ys found with
  | nil =>
    simp only [gather_nil, Except.ok.injEq, Prod.mk.injEq, List.forall₂_nil_left_iff]
    constructor
    · rintro ⟨rfl, rfl⟩
      exact ⟨[], rfl, rfl, rfl⟩
    · rintro ⟨outcomes, rfl, rfl, rfl⟩
      exact ⟨rfl, rfl⟩
  | cons x xs ih =>
    cases hx : step x with
    | error failure =>
      rw [gather_cons_of_error hx]
      refine ⟨nofun, ?_⟩
      rintro ⟨outcomes, hall, -, -⟩
      cases hall with
      | cons hhead _ => rw [hx] at hhead; cases hhead
    | ok outcome =>
      obtain ⟨x', here⟩ := outcome
      rw [gather_cons_of_ok hx]
      constructor
      · intro h
        cases hrest : gather step xs with
        | error failure => rw [hrest] at h; cases h
        | ok more =>
          rw [hrest] at h
          cases h
          obtain ⟨outcomes, hall, hys, hfound⟩ := ih.1 hrest
          refine ⟨(x', here) :: outcomes, List.Forall₂.cons hx hall, ?_, ?_⟩
          · rw [List.map_cons, hys]
          · rw [List.flatMap_cons, hfound]
      · rintro ⟨outcomes, hall, rfl, rfl⟩
        cases hall with
        | cons hhead htail =>
          rw [hx] at hhead
          cases hhead
          rw [ih.2 ⟨_, htail, rfl, rfl⟩]
          rfl

theorem gather_isOk_iff {xs : List α} :
    (∃ result, gather step xs = .ok result) ↔ ∀ x ∈ xs, ∃ outcome, step x = .ok outcome := by
  induction xs with
  | nil => simp
  | cons x xs ih =>
    rw [List.forall_mem_cons, ← ih]
    cases hx : step x with
    | error failure => simp [gather_cons_of_error hx]
    | ok outcome =>
      rw [gather_cons_of_ok hx]
      cases gather step xs <;> simp [Except.map]

/-- Failure is the failure of one step, before which every step succeeds. -/
theorem gather_eq_error_iff {xs : List α} {failure : Failure} :
    gather step xs = .error failure ↔
      ∃ before x after, xs = before ++ x :: after ∧
        (∀ y ∈ before, ∃ outcome, step y = .ok outcome) ∧ step x = .error failure := by
  constructor
  · intro h
    induction xs with
    | nil => cases h
    | cons x xs ih =>
      cases hx : step x with
      | error cause =>
        rw [gather_cons_of_error hx] at h
        cases h
        exact ⟨[], x, xs, rfl, by simp, hx⟩
      | ok outcome =>
        rw [gather_cons_of_ok hx] at h
        cases hrest : gather step xs with
        | ok more => rw [hrest] at h; cases h
        | error cause =>
          rw [hrest] at h
          cases h
          obtain ⟨before, y, after, rfl, hbefore, hy⟩ := ih hrest
          refine ⟨x :: before, y, after, rfl, ?_, hy⟩
          rw [List.forall_mem_cons]
          exact ⟨⟨outcome, hx⟩, hbefore⟩
  · rintro ⟨before, x, after, rfl, hbefore, hx⟩
    obtain ⟨done, hdone⟩ := gather_isOk_iff.2 hbefore
    rw [gather_append, hdone, gather_cons_of_error hx]
    rfl

/-! ## From every step to the whole list -/

/-- If every step leaves an element that shows its findings, the list shows all findings. -/
theorem gather_flatMap {view : α → List β} {mark : String → β}
    (hstep : ∀ x x' found, step x = .ok (x', found) → view x' = found.map mark)
    {xs ys : List α} {found : List String} (h : gather step xs = .ok (ys, found)) :
    ys.flatMap view = found.map mark := by
  obtain ⟨outcomes, hall, rfl, rfl⟩ := gather_eq_ok_iff.1 h
  clear h
  induction hall with
  | nil => rfl
  | @cons x outcome xs outcomes hx hrest ih =>
    rw [List.map_cons, List.flatMap_cons, List.flatMap_cons, List.map_append,
      hstep x outcome.1 outcome.2 hx, ih]

theorem gather_forall {good : α → Prop} {xs ys : List α} {found : List String}
    (hstep : ∀ x ∈ xs, ∀ x' found, step x = .ok (x', found) → good x')
    (h : gather step xs = .ok (ys, found)) : ∀ y ∈ ys, good y := by
  obtain ⟨outcomes, hall, rfl, rfl⟩ := gather_eq_ok_iff.1 h
  clear h
  induction hall with
  | nil => simp
  | @cons x outcome xs outcomes hx hrest ih =>
    rw [List.forall_mem_cons] at hstep
    rw [List.map_cons, List.forall_mem_cons]
    exact ⟨hstep.1 outcome.1 outcome.2 hx, ih hstep.2⟩

theorem gather_forall₂ {R : α → α → Prop}
    (hstep : ∀ x x' found, step x = .ok (x', found) → R x x')
    {xs ys : List α} {found : List String} (h : gather step xs = .ok (ys, found)) :
    List.Forall₂ R xs ys := by
  obtain ⟨outcomes, hall, rfl, rfl⟩ := gather_eq_ok_iff.1 h
  rw [List.forall₂_map_right_iff]
  exact hall.imp fun x outcome hx => hstep x outcome.1 outcome.2 hx

/-- If every step succeeds with findings that can be read off its element, so does the list. -/
theorem gather_of_forall {view : α → List String} {xs : List α}
    (h : ∀ x ∈ xs, ∃ x', step x = .ok (x', view x)) :
    ∃ ys, gather step xs = .ok (ys, xs.flatMap view) := by
  induction xs with
  | nil => exact ⟨[], rfl⟩
  | cons x xs ih =>
    rw [List.forall_mem_cons] at h
    obtain ⟨⟨x', hx⟩, hrest⟩ := h
    obtain ⟨ys, hys⟩ := ih hrest
    refine ⟨x' :: ys, ?_⟩
    rw [gather_cons_of_ok hx, hys, List.flatMap_cons]
    rfl

end TemplateBundler
