import Mathlib.Data.List.DropRight
import TemplateBundler.Proofs.Namespaces.Spellings

/-!
# Junction: the slashes between a target and the rest of a path

Where a target and the rest of a path meet, the slashes at the end of the target stay and those at
the beginning of the rest are dropped; a target without a slash at its end takes the rest as it is.
So the junction is a single slash only if the slashes that stay are one.
-/

namespace TemplateBundler.Namespaces

/-- The first alias that the path begins with stands for `target`, and `rest` is left behind its
form. -/
def FirstMatch (table : Namespaces) (path target rest : String) : Prop :=
  ∃ before name after form, table = before ++ (name, target) :: after ∧ form ∈ forms name ∧
    path.toList = form ++ rest.toList ∧ Bare before path.toList

theorem FirstMatch.resolve_eq {table : Namespaces} {path target rest : String}
    (h : FirstMatch table path target rest) :
    table.resolve path = String.ofList (attach target.toList rest.toList) := by
  obtain ⟨before, name, after, form, rfl, hform, hpath, hbefore⟩ := h
  rw [hpath] at hbefore
  rw [resolve, hpath, resolveChars_of_form hform hbefore]

/-! ## Slashes at the ends of a text -/

def withoutEndSlashes (text : String) : String :=
  String.ofList (text.toList.rdropWhile (· = '/'))

def endSlashes (text : String) : String := String.ofList (text.toList.rtakeWhile (· = '/'))

def frontSlashes (text : String) : String := String.ofList (text.toList.takeWhile (· = '/'))

theorem frontSlashes_append (text : String) : frontSlashes text ++ withoutSlashes text = text := by
  rw [frontSlashes, withoutSlashes, ← String.ofList_append, List.takeWhile_append_dropWhile,
    String.ofList_toList]

theorem withoutEndSlashes_append (text : String) :
    withoutEndSlashes text ++ endSlashes text = text := by
  rw [withoutEndSlashes, endSlashes, ← String.ofList_append, List.rdropWhile_append_rtakeWhile,
    String.ofList_toList]

theorem endSlashes_eq_empty_iff {text : String} :
    endSlashes text = "" ↔ text.toList.getLast? ≠ some '/' := by
  rw [endSlashes, String.ofList_eq_empty_iff]
  rcases List.eq_nil_or_concat' text.toList with hnil | ⟨front, last, hconcat⟩
  · simp [hnil]
  · rw [hconcat, List.rtakeWhile_concat, List.getLast?_concat]
    by_cases hlast : last = '/'
    · simp [hlast]
    · simp [hlast]

/-! ## The junction -/

/-- The slashes between a target and the rest of a path: those of the target if it has any. -/
def junction (target rest : String) : String :=
  if endSlashes target = "" then frontSlashes rest else endSlashes target

theorem attach_eq_junction (target rest : String) :
    String.ofList (attach target.toList rest.toList) =
      withoutEndSlashes target ++ junction target rest ++ withoutSlashes rest := by
  by_cases hend : endSlashes target = ""
  · have hlast := endSlashes_eq_empty_iff.1 hend
    have htarget := withoutEndSlashes_append target
    rw [hend, String.append_empty] at htarget
    rw [attach, if_neg hlast, junction, if_pos hend, String.append_assoc, frontSlashes_append,
      htarget, String.ofList_append, String.ofList_toList, String.ofList_toList]
  · have hlast : target.toList.getLast? = some '/' := by
      by_contra hne
      exact hend (endSlashes_eq_empty_iff.2 hne)
    rw [attach_of_slash hlast, junction, if_neg hend, withoutEndSlashes_append,
      String.ofList_append, String.ofList_toList, withoutSlashes]

theorem junction_eq_slash_iff {target rest : String} :
    junction target rest = "/" ↔
      endSlashes target = "/" ∨ endSlashes target = "" ∧ frontSlashes rest = "/" := by
  unfold junction
  by_cases hend : endSlashes target = ""
  · simp [hend]
  · simp [hend]

/-- **Target and rest meet in the slashes of the target, or else in those of the rest.** The target
of the first alias that a path begins with is followed by what is left of the path. The slashes
between them are one exactly if the target ends in one, or ends in none and the rest begins with
one. -/
theorem resolve_junction {namespaces : Namespaces} {path target rest : String}
    (h : FirstMatch namespaces path target rest) :
    namespaces.resolve path =
      withoutEndSlashes target ++ junction target rest ++ withoutSlashes rest ∧
    (namespaces.resolve path = withoutEndSlashes target ++ "/" ++ withoutSlashes rest ↔
      endSlashes target = "/" ∨ endSlashes target = "" ∧ frontSlashes rest = "/") := by
  have hresolve : namespaces.resolve path =
      withoutEndSlashes target ++ junction target rest ++ withoutSlashes rest := by
    rw [h.resolve_eq, attach_eq_junction]
  refine ⟨hresolve, ?_⟩
  rw [hresolve, String.append_left_inj, String.append_right_inj, junction_eq_slash_iff]

/-! ### A theme -/

def themes : Namespaces := [("theme", "/themes/x"), ("site", "/site//")]

theorem firstMatch_theme (rest : String) :
    FirstMatch themes ("@theme" ++ rest) "/themes/x" rest := by
  refine ⟨[], "theme", [("site", "/site//")], atForm "theme", rfl, by simp [forms], ?_, ?_⟩
  · rw [String.toList_append]
    rfl
  · exact List.forall_mem_nil _

theorem firstMatch_site : FirstMatch themes "site:://base.twig" "/site//" "//base.twig" :=
  ⟨[("theme", "/themes/x")], "site", [], colonForm "site", rfl, by simp [forms], by decide,
    by decide⟩

theorem resolve_junction_themes :
    FirstMatch themes "@theme/base.twig" "/themes/x" "/base.twig" ∧
    resolve themes "@theme/base.twig" = "/themes/x/base.twig" ∧
    FirstMatch themes "site:://base.twig" "/site//" "//base.twig" ∧
    resolve themes "site:://base.twig" = "/site//base.twig" := by
  have htheme : FirstMatch themes "@theme/base.twig" "/themes/x" "/base.twig" :=
    firstMatch_theme "/base.twig"
  have hslash : frontSlashes "/base.twig" = "/" := by decide
  exact ⟨htheme, (resolve_junction htheme).2.2 (.inr ⟨by decide, hslash⟩), firstMatch_site,
    (resolve_junction firstMatch_site).1⟩

/-- Two slashes behind an alias stay two, though its target ends in none. -/
theorem resolve_doubledSlash :
    FirstMatch themes "@theme//base.twig" "/themes/x" "//base.twig" ∧
    withoutEndSlashes "/themes/x" ++ "/" ++ withoutSlashes "//base.twig" = "/themes/x/base.twig" ∧
    resolve themes "@theme//base.twig" = "/themes/x//base.twig" :=
  ⟨firstMatch_theme "//base.twig", by decide, by decide⟩

end TemplateBundler.Namespaces
