import TemplateBundler.Proofs.Path.Composition
import TemplateBundler.Proofs.Walk.Identifiers

/-!
# Directories: where the paths of a template are seen from

The directory of a template takes part in a walk through the identifiers of the dependencies alone.
Paths can be resolved step by step, so the spelling of the directory does not matter: neither to the
identifier of a dependency nor to the walked tree.
-/

namespace TemplateBundler

section Congruence

variable {site site' : Site} (hdocument : site.document = site'.document)
  (hnamespaces : site.namespaces = site'.namespaces)
  (hid : ∀ dependency, site.idOf dependency = site'.idOf dependency)

namespace Event

include hnamespaces hid

theorem stamp_congr (token : ExprToken) (term : PathTerm) :
    stamp site token term = stamp site' token term := by
  cases term with
  | literal path =>
    show token.setValue (.string (site.idOf (site.namespaces.resolve path))) =
      token.setValue (.string (site'.idOf (site'.namespaces.resolve path)))
    rw [hnamespaces, hid]
  | «variable» name | key name | slice start stop | concat | unsupported kind => rfl

theorem record_congr (stack : List ExprToken) : record site stack = record site' stack := by
  have hstamp : stamp site = stamp site' := by
    funext token term
    exact stamp_congr hnamespaces hid token term
  unfold record
  rw [hstamp, hnamespaces]

end Event

include hdocument hnamespaces hid

theorem Act.run_congr (scope : Scope) (act : Act) : act.run site scope = act.run site' scope := by
  have hrecord := Event.record_congr hnamespaces hid
  cases act with
  | loop head => rw [Act.run, Act.run, hdocument]
  | includePath kind stack =>
    cases stack with
    | none => rfl
    | some stack => simp only [Act.run, hrecord]
  | staticPaths stack =>
    cases stack with
    | none => rfl
    | some stack => simp only [Act.run, hrecord]

theorem Site.walk_eq_of_idOf (tokens : List Token) : site.walk tokens = site'.walk tokens := by
  refine Site.walk_congr fun event _ => ?_
  unfold Event.run
  rw [hdocument]
  simp only [Act.run_congr hdocument hnamespaces hid]

end Congruence

namespace Site

def inDirectory (site : Site) (directory : String) : Site := { site with directory := directory }

theorem idOf_inDirectory {site : Site} {directory : String}
    (habsolute : Path.isAbsolute site.workingDirectory.toList = true)
    (h : Path.SameDirectory site.workingDirectory directory site.directory) (dependency : String) :
    (site.inDirectory directory).idOf dependency = site.idOf dependency := by
  have hresolve := h.resolve_eq habsolute dependency
  exact congrArg site.identify hresolve

/-- **Paths can be resolved step by step.** What is seen from a resolved path is what the joined
path is seen from the first base. So a resolved path is resolved already, seen from its base and as
a base of its own. A base is seen from the working directory, and an empty one is the working
directory. The identifier of a dependency is the same in all spellings of a directory, and so is the
walked tree; and a dependency may be written with a part of the way to it in the directory. -/
theorem resolve_composes {workingDirectory : String}
    (habsolute : Path.isAbsolute workingDirectory.toList = true) :
    (∀ base first second : String,
      Path.resolve workingDirectory (Path.resolve workingDirectory base first) second =
        Path.resolve workingDirectory base
          (String.ofList (Path.join first.toList second.toList))) ∧
    (∀ base path : String,
      Path.resolve workingDirectory base (Path.resolve workingDirectory base path) =
        Path.resolve workingDirectory base path ∧
      Path.resolve workingDirectory (Path.resolve workingDirectory base path) "" =
        Path.resolve workingDirectory base path) ∧
    (∀ base path : String, base ≠ "" ∨ path ≠ "" →
      Path.resolve workingDirectory base path =
        Path.resolve workingDirectory workingDirectory
          (String.ofList (Path.join base.toList path.toList))) ∧
    (∀ (site : Site) (directory : String), site.workingDirectory = workingDirectory →
      Path.SameDirectory workingDirectory directory site.directory →
      (∀ dependency, (site.inDirectory directory).idOf dependency = site.idOf dependency) ∧
      (∀ tokens, (site.inDirectory directory).walk tokens = site.walk tokens)) ∧
    (∀ (site : Site) (way dependency : String), site.workingDirectory = workingDirectory →
      (site.inDirectory (Path.resolve workingDirectory site.directory way)).idOf dependency =
        site.idOf (String.ofList (Path.join way.toList dependency.toList))) := by
  refine ⟨Path.resolve_resolve habsolute, ?_, ?_, ?_, ?_⟩
  · intro base path
    exact ⟨Path.resolve_self habsolute base path, Path.resolve_resolve_empty habsolute base path⟩
  · intro base path hgiven
    exact Path.resolve_workingDirectory habsolute hgiven
  · rintro site directory rfl hsame
    have hid := idOf_inDirectory habsolute hsame
    exact ⟨hid, walk_eq_of_idOf rfl rfl hid⟩
  · rintro site way dependency rfl
    exact congrArg site.identify (Path.resolve_resolve habsolute site.directory way dependency)

/-- Ways up beyond the root and back, and the page of cards in a directory with another spelling. -/
theorem resolve_composes_climbing :
    Path.isAbsolute "/".toList = true ∧
    Path.resolve "/" (Path.resolve "/" "pages/./x" "../../../cards//") "../a.twig" = "/a.twig" ∧
    Path.resolve "/" "pages/./x" "../../../cards//../a.twig" = "/a.twig" ∧
    Path.resolve "/" "pages" "/a.twig" = "/a.twig" ∧
    Path.resolve "/" "" "a.twig" = Path.resolve "/" "/" "a.twig" ∧
    Path.SameDirectory "/" "//t/./x/.." cards.directory ∧
    (cards.inDirectory "//t/./x/..").idOf "../b.twig" = cards.idOf "../b.twig" ∧
    (cards.inDirectory "//t/./x/..").walk cardsPage =
      .ok (cardsPageWalked, ["cards/a", "inner", "/x/frame"]) ∧
    (cards.inDirectory (Path.resolve "/" cards.directory "../u")).idOf "../b.twig" =
      cards.idOf "../u/../b.twig" := by
  have habsolute : Path.isAbsolute "/".toList = true := by decide
  have hsame : Path.SameDirectory "/" "//t/./x/.." cards.directory := by decide
  obtain ⟨hsteps, hself, hbase, hsite, hway⟩ := resolve_composes habsolute
  have hcards := hsite cards "//t/./x/.." rfl hsame
  have hjoined : Path.resolve "/" "pages/./x" "../../../cards//../a.twig" = "/a.twig" := by decide
  refine ⟨habsolute, ?_, hjoined, ?_, hbase "" "a.twig" (by decide), hsame, hcards.1 _, ?_,
    hway cards "../u" "../b.twig" rfl⟩
  · rw [hsteps, ← hjoined]
    rfl
  · have hresolved : Path.resolve "/" "pages" "../a.twig" = "/a.twig" := by decide
    rw [← hresolved]
    exact (hself "pages" "../a.twig").1
  · rw [hcards.2, cards_walk]

end Site

end TemplateBundler
