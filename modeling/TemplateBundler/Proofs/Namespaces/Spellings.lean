import TemplateBundler.Proofs.Namespaces.Resolution
import TemplateBundler.Proofs.Walk.Identifiers

/-!
# Spellings: `alias::path` and `@alias/path`

Both spellings of a path below an alias mean the same file if the target of the alias ends in a
slash: the slash that one of them brings along is dropped, and so are all slashes at the beginning
of the path.
-/

namespace TemplateBundler.Namespaces

def withoutSlashes (text : String) : String := String.ofList (text.toList.dropWhile (· = '/'))

theorem attach_of_slash {target : List Char} (h : target.getLast? = some '/') (rest : List Char) :
    attach target rest = target ++ rest.dropWhile (· = '/') := by
  rw [attach, if_pos h]

theorem resolve_spelling {before after : Namespaces} {name target path : String}
    {form rest : List Char} (hslash : target.toList.getLast? = some '/')
    (hbefore : ∀ entry ∈ before, ∀ other ∈ forms entry.1, ∀ own ∈ forms name, ¬ Overlap other own)
    (hform : form ∈ forms name) (hpath : path.toList = form ++ rest) :
    resolve (before ++ (name, target) :: after) path =
      target ++ withoutSlashes (String.ofList rest) := by
  have hbare : Bare before (form ++ rest) := by
    refine bare_of_not_overlap (List.prefix_append form rest) ?_
    intro entry hentry other hother
    exact hbefore entry hentry other hother form hform
  rw [resolve, hpath, resolveChars_of_form hform hbare, attach_of_slash hslash, withoutSlashes,
    String.toList_ofList, String.ofList_append, String.ofList_toList]

theorem withoutSlashes_slash (text : String) :
    withoutSlashes (String.ofList ('/' :: text.toList)) = withoutSlashes text := by
  rw [withoutSlashes, String.toList_ofList, List.dropWhile_cons_of_pos (by decide)]
  rfl

/-- **Both spellings of a path are one dependency.** If the target of an alias ends in a slash, and
no form of an alias declared before it overlaps with one of its own, then `alias::path` and
`@alias/path` are both resolved to the target and the path without slashes at its beginning. So
tokens with either text record the same dependency and get the same identifier. -/
theorem spellings_agree {namespaces before after : Namespaces} {name target : String}
    (htable : namespaces = before ++ (name, target) :: after)
    (hslash : target.toList.getLast? = some '/')
    (hbefore : ∀ entry ∈ before, ∀ other ∈ forms entry.1, ∀ own ∈ forms name, ¬ Overlap other own)
    (path : String) :
    namespaces.resolve (name ++ "::" ++ path) = namespaces.resolve ("@" ++ name ++ "/" ++ path) ∧
    namespaces.resolve ("@" ++ name ++ "/" ++ path) = target ++ withoutSlashes path ∧
    ∀ (site : Site) (colon sign : ExprToken), site.namespaces = namespaces →
      colon.classify = .ok (.literal (name ++ "::" ++ path)) →
      sign.classify = .ok (.literal ("@" ++ name ++ "/" ++ path)) →
      site.recordToken colon =
        .ok (colon.setValue (.string (site.idOf (target ++ withoutSlashes path))),
          [target ++ withoutSlashes path]) ∧
      site.recordToken sign =
        .ok (sign.setValue (.string (site.idOf (target ++ withoutSlashes path))),
          [target ++ withoutSlashes path]) := by
  subst htable
  have hcolon : resolve (before ++ (name, target) :: after) (name ++ "::" ++ path) =
      target ++ withoutSlashes path := by
    have hpath : (name ++ "::" ++ path).toList = colonForm name ++ path.toList := by
      simp [colonForm]
    rw [resolve_spelling hslash hbefore (by simp [forms]) hpath, String.ofList_toList]
  have hat : resolve (before ++ (name, target) :: after) ("@" ++ name ++ "/" ++ path) =
      target ++ withoutSlashes path := by
    have hpath : ("@" ++ name ++ "/" ++ path).toList = atForm name ++ '/' :: path.toList := by
      simp [atForm]
    rw [resolve_spelling hslash hbefore (by simp [forms]) hpath, withoutSlashes_slash]
  refine ⟨hcolon.trans hat.symm, hat, ?_⟩
  intro site colon sign hsite hliteral hsign
  rw [Site.recordToken_literal hliteral, Site.recordToken_literal hsign, hsite, hcolon, hat]
  exact ⟨rfl, rfl⟩

/-- An alias with a sign of its own. A path that begins with `@t::` also begins with the form `@t`
of the alias behind it. -/
def signed : Namespaces := [("theme", "/one/"), ("@t", "/x/"), ("t", "/u/")]

theorem spellings_agree_signed :
    signed = [("theme", "/one/")] ++ ("@t", "/x/") :: [("t", "/u/")] ∧
    "/x/".toList.getLast? = some '/' ∧
    (∀ entry ∈ [("theme", "/one/")], ∀ other ∈ forms entry.1, ∀ own ∈ forms "@t",
      ¬ Overlap other own) ∧
    resolve signed "@t:://base.twig" = "/x/base.twig" ∧
    resolve signed "@@t///base.twig" = "/x/base.twig" ∧
    { Site.cards with namespaces := signed }.recordToken (.ofText "@t:://base.twig") =
      .ok (.ofText "@id/x/base.twig", ["/x/base.twig"]) ∧
    { Site.cards with namespaces := signed }.recordToken (.ofText "@@t///base.twig") =
      .ok (.ofText "@id/x/base.twig", ["/x/base.twig"]) := by
  have htable : signed = [("theme", "/one/")] ++ ("@t", "/x/") :: [("t", "/u/")] := rfl
  have hslash : "/x/".toList.getLast? = some '/' := by decide
  have hbefore : ∀ entry ∈ [("theme", "/one/")], ∀ other ∈ forms entry.1, ∀ own ∈ forms "@t",
      ¬ Overlap other own := by decide
  have hpath : "/x/" ++ withoutSlashes "//base.twig" = "/x/base.twig" := by decide
  obtain ⟨hequal, hsign, hrecord⟩ := spellings_agree htable hslash hbefore "//base.twig"
  rw [hpath] at hsign hrecord
  exact ⟨htable, hslash, hbefore, hequal.trans hsign, hsign,
    hrecord { Site.cards with namespaces := signed } _ _ rfl rfl rfl⟩

end TemplateBundler.Namespaces
