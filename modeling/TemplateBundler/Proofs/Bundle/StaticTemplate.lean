import TemplateBundler.Proofs.Bundle.Declarations
import TemplateBundler.Proofs.Template.RoundTrip
import TemplateBundler.Proofs.Walk.Closed
import TemplateBundler.Workspace

/-!
# StaticTemplate: templates whose paths are all written out

Where every path is a row of string literals and every loop has a source that can be read, compiling
succeeds whatever the data. The module declares the targets of the literals, each once, where it
stands first.
-/

namespace TemplateBundler

def ExprToken.IsText (token : ExprToken) : Prop :=
  token.kind = .stringLiteral ∧ ∃ text, token.value? = some (.string text)

/-- The expression of a loop is absent or null, or an array of tokens that stand for something. -/
def Logic.ReadableSource (head : Logic) : Prop :=
  head.expression = none ∨ head.expression = some .null ∨
    ∃ items source, head.expression = some (.array items) ∧
      items.mapM ExprToken.ofJson? = some source ∧
      ∀ token ∈ source, ∃ term, token.classify = .ok term

/-- Nothing has to be computed: a loop has a readable source, an include has a path, and all paths
are made of string literals. -/
def Act.Static : Act → Prop
  | .loop head => head.ReadableSource
  | .includePath _ stack => ∃ tokens, stack = some tokens ∧ ∀ token ∈ tokens, token.IsText
  | .staticPaths stack => ∀ token ∈ stack.getD [], token.IsText

theorem Logic.hasSource_of_readable {head : Logic} (h : head.ReadableSource) : head.HasSource := by
  obtain ⟨kind, body, stack, expression, fields⟩ := head
  rcases h with rfl | rfl | ⟨items, source, rfl, hitems, hsource⟩
  · exact ⟨[], rfl, by simp⟩
  · exact ⟨[], rfl, by simp⟩
  · refine ⟨source, ?_, hsource⟩
    simp only [Logic.loopSource, hitems]

theorem ExprToken.IsText.classify {token : ExprToken} (h : token.IsText) :
    token.isLiteral = true ∧ ∃ term, token.classify = .ok term := by
  obtain ⟨hkind, text, hvalue⟩ := h
  have hlit : token.isLiteral = true := by simp [ExprToken.isLiteral, hkind]
  exact ⟨hlit, .literal text, ExprToken.classify_eq_literal_iff.2 ⟨hlit, hvalue⟩⟩

theorem Act.closed_of_static {act : Act} (h : act.Static) : act.Closed := by
  cases act with
  | loop head => exact Logic.hasSource_of_readable h
  | includePath kind stack =>
    obtain ⟨tokens, rfl, htokens⟩ := h
    exact ⟨tokens, rfl, fun token hmem => (htokens token hmem).classify⟩
  | staticPaths stack => exact fun token hmem => (h token hmem).classify.2

namespace Workspace

theorem compile_of_closed {workspace : Workspace} {id text template : String} {tokens : List Token}
    (hid : Entries.valueOf? id workspace.resources = some template)
    (htext : Token.parseTree text = .ok tokens)
    (hclosed : ∀ event ∈ Token.eventsOf tokens, event.act.Closed) (entry : String) :
    ∃ module, workspace.compile id text entry = .ok module ∧
      (Bundle.readDeclarations module.toList).1 =
        ((Token.textsOf tokens).map workspace.options.namespaces.resolve).eraseDups := by
  obtain ⟨walked, hwalk⟩ := (workspace.siteOf template).walk_of_closed hclosed
  refine ⟨Bundle.moduleText entry (workspace.options.instantiation id walked)
    ((Token.textsOf tokens).map workspace.options.namespaces.resolve), ?_, ?_⟩
  · simp only [compile, analyze, hid, htext, hwalk]
    rfl
  · rw [Bundle.readDeclarations_moduleText]

/-- **A static template compiles to exactly its literal targets.** Whatever the data beside it,
compiling a registered template in which nothing has to be computed succeeds, and the declarations
at the front of the module are the targets of the literals in the order of the document, each where
it stands first. -/
theorem compile_static {workspace : Workspace} {id text template : String} {tokens : List Token}
    (hid : Entries.valueOf? id workspace.resources = some template)
    (htext : Token.parseTree text = .ok tokens)
    (hstatic : ∀ event ∈ Token.eventsOf tokens, event.act.Static) (entry : String) :
    ∃ module, workspace.compile id text entry = .ok module ∧
      (Bundle.readDeclarations module.toList).1 =
        ((Token.textsOf tokens).map workspace.options.namespaces.resolve).eraseDups ∧
      ∀ files, ∃ module', { workspace with files := files }.compile id text entry = .ok module' ∧
        (Bundle.readDeclarations module'.toList).1 = (Bundle.readDeclarations module.toList).1 := by
  have hclosed : ∀ event ∈ Token.eventsOf tokens, event.act.Closed :=
    fun event hevent => Act.closed_of_static (hstatic event hevent)
  obtain ⟨module, hmodule, hread⟩ := compile_of_closed hid htext hclosed entry
  refine ⟨module, hmodule, hread, fun files => ?_⟩
  have hid' : Entries.valueOf? id { workspace with files := files }.resources = some template := hid
  obtain ⟨module', hmodule', hread'⟩ := compile_of_closed hid' htext hclosed entry
  exact ⟨module', hmodule', hread'.trans hread.symm⟩

/-! ### A page with one target

Its include names the same file by both forms of an alias. -/

def themePageText : String :=
  "[\x7b\"type\":\"logic\",\"token\":\x7b\"type\":\"Twig.logic.type.include\",\"stack\":[" ++
  "\x7b\"type\":\"Twig.expression.type.string\",\"value\":\"t::a\"\x7d," ++
  "\x7b\"type\":\"Twig.expression.type.string\",\"value\":\"@t/a\"\x7d]\x7d\x7d]"

def themePage : List Token :=
  [⟨.logic, some ⟨.includeFile, none, some [.ofText "t::a", .ofText "@t/a"], none, []⟩, []⟩]

def themePageTree : Json :=
  .array [.object [("type", .string "logic"), ("token", .object [
    ("type", .string "Twig.logic.type.include"), ("stack", .array [
      .object [("type", .string "Twig.expression.type.string"), ("value", .string "t::a")],
      .object [("type", .string "Twig.expression.type.string"), ("value", .string "@t/a")]])])]]

theorem readPairs?_themePageText :
    Json.readPairs? Json.maxDepth themePageText.toList = some themePageTree := by
  cbv

theorem listOfJson?_themePageTree : Token.listOfJson? themePageTree = some themePage := by
  simp [themePageTree, themePage, Token.listOfJson?, Token.itemsOfJson?, Token.ofJson?_object,
    Logic.ofJson?_object, Field.text?, Field.optional?, Field.given, Field.others, Entries.without,
    Entries.ofPairs, Entries.put, Json.collapseFields, Json.collapse, Json.asString?, Json.isNull,
    TokenKind.ofName, LogicKind.ofName, ExprKind.ofName, ExprToken.stackOfJson?, ExprToken.ofJson?,
    ExprToken.ofText]

theorem parseTree_themePageText : Token.parseTree themePageText = .ok themePage := by
  rw [Token.parseTree, readPairs?_themePageText, Option.bind_some, listOfJson?_themePageTree]

theorem themePage_static : ∀ event ∈ Token.eventsOf themePage, event.act.Static := by
  intro event hevent
  obtain rfl := List.mem_singleton.1 hevent
  refine ⟨[.ofText "t::a", .ofText "@t/a"], rfl, ?_⟩
  simp [ExprToken.IsText, ExprToken.ofText, ExprToken.value?, Entries.valueOf?]

def themeWorkspace : Workspace where
  options := { namespaces := [("t", "/x/")] }
  resources := [("p", "/t/p.twig")]

theorem compile_static_themePage :
    Entries.valueOf? "p" themeWorkspace.resources = some "/t/p.twig" ∧
    Token.parseTree themePageText = .ok themePage ∧
    (∀ event ∈ Token.eventsOf themePage, event.act.Static) ∧
    ∃ module, themeWorkspace.compile "p" themePageText "twig" = .ok module ∧
      (Bundle.readDeclarations module.toList).1 = ["/x/a"] ∧
      ∀ files, ∃ module',
        { themeWorkspace with files := files }.compile "p" themePageText "twig" = .ok module' ∧
        (Bundle.readDeclarations module'.toList).1 = (Bundle.readDeclarations module.toList).1 := by
  have hid : Entries.valueOf? "p" themeWorkspace.resources = some "/t/p.twig" := rfl
  exact ⟨hid, parseTree_themePageText, themePage_static,
    compile_static hid parseTree_themePageText themePage_static "twig"⟩

end Workspace

end TemplateBundler
