import TemplateBundler.Bundle.Module
import TemplateBundler.Proofs.Dependencies
import TemplateBundler.Proofs.Json.Quoting
import TemplateBundler.Text.Search

/-!
# Declarations: reading the dependencies off a module

A module begins with a declaration for each of its dependencies. They can be read off its text, one
after another, until the line that loads the renderer, whatever the names of the dependencies and of
the renderer are.
-/

namespace TemplateBundler

/-! ## The reader -/

namespace Bundle

def opening : List Char := "require(\"".toList

def closing : List Char := ");\n\n".toList

theorem opening_eq : opening = "require(".toList ++ ['"'] := rfl

theorem closing_eq : closing = ");\n".toList ++ ['\n'] := rfl

/-- The declaration at the front of a text, `require(` with a quoted name and `);` before a blank
line: the name, and the text behind the blank line. -/
def declaration? (text : List Char) : Option (String × List Char) :=
  match (Text.dropFront? opening text).bind Json.readQuoted? with
  | some (some name, behind) =>
    (Text.dropFront? closing behind).map fun rest => (String.ofList name, rest)
  | _ => none

theorem length_declaration? {text rest : List Char} {name : String}
    (h : declaration? text = some (name, rest)) : rest.length < text.length := by
  unfold declaration? at h
  split at h
  · rename_i chars behind hread
    obtain ⟨quoted, hquoted, hread⟩ := Option.bind_eq_some_iff.1 hread
    obtain ⟨rest', hrest, h⟩ := Option.map_eq_some_iff.1 h
    cases h
    rw [Text.dropFront?_eq_some_iff] at hquoted hrest
    have hbehind : behind.length < quoted.length := by
      rw [Json.readQuoted?, Option.map_eq_some_iff] at hread
      obtain ⟨⟨pieces, after⟩, hpieces, hread⟩ := hread
      rw [Prod.mk.injEq] at hread
      rw [← hread.2]
      exact Json.Lexeme.length_readPieces? hpieces
    rw [hrest, List.length_append] at hbehind
    rw [hquoted, List.length_append]
    omega
  · cases h

def readDeclarations (text : List Char) : List String × List Char :=
  match h : declaration? text with
  | some (name, rest) =>
    have := length_declaration? h
    let more := readDeclarations rest
    (name :: more.1, more.2)
  | none => ([], text)
termination_by text.length

theorem readDeclarations_of_none {text : List Char} (h : declaration? text = none) :
    readDeclarations text = ([], text) := by
  rw [readDeclarations]
  split
  · rename_i heq
    rw [h] at heq
    cases heq
  · rfl

theorem readDeclarations_of_some {text rest : List Char} {name : String}
    (h : declaration? text = some (name, rest)) :
    readDeclarations text = (name :: (readDeclarations rest).1, (readDeclarations rest).2) := by
  rw [readDeclarations]
  split
  · rename_i heq
    rw [h] at heq
    cases heq
    rfl
  · rename_i heq
    rw [h] at heq
    cases heq

/-! ## The declarations of a module -/

theorem joinLines_cons {line : List Char} {lines : List (List Char)} (h : lines ≠ []) :
    joinLines (line :: lines) = line ++ '\n' :: joinLines lines := by
  cases lines with
  | nil => exact absurd rfl h
  | cons next rest => rfl

theorem declaration?_requireLine (name : String) {lines : List (List Char)} (h : lines ≠ []) :
    declaration? (joinLines (requireLine name :: lines)) = some (name, joinLines lines) := by
  have hfront : joinLines (requireLine name :: lines) =
      opening ++ (name.toList.flatMap Json.escape ++ '"' :: (closing ++ joinLines lines)) := by
    unfold requireLine Json.quoteChars
    simp only [joinLines_cons h, opening_eq, closing_eq, List.append_assoc, List.cons_append,
      List.nil_append]
  rw [declaration?, hfront, Text.dropFront?_append, Option.bind_some, Json.readQuoted?_escape]
  dsimp only
  rw [Text.dropFront?_append, Option.map_some, String.ofList_toList]

/-- The line that loads the renderer is no declaration, whatever the renderer is called. -/
theorem declaration?_entryLine (entry : String) (lines : List (List Char)) :
    declaration? (joinLines (entryLine entry :: lines)) = none := by
  cases lines <;> rfl

theorem readDeclarations_requireLines (names : List String) (entry : String)
    (lines : List (List Char)) :
    readDeclarations (joinLines (names.map requireLine ++ entryLine entry :: lines)) =
      (names, joinLines (entryLine entry :: lines)) := by
  induction names with
  | nil => exact readDeclarations_of_none (declaration?_entryLine entry lines)
  | cons name names ih =>
    rw [List.map_cons, List.cons_append,
      readDeclarations_of_some (declaration?_requireLine name (by simp)), ih]

end Bundle

theorem Json.text_inj {value value' : Json} (h : value.text = value'.text) :
    value.chars = value'.chars := by
  have hlist := congrArg String.toList h
  rwa [Json.text, Json.text, String.toList_ofList, String.toList_ofList] at hlist

namespace Bundle

/-- The declarations of a module are its dependencies, each where it was first found, and what
follows them is the line that loads the renderer. -/
theorem readDeclarations_moduleText (entry : String) (options : Entries Json)
    (dependencies : List String) :
    readDeclarations (moduleText entry options dependencies).toList =
      (dependencies.eraseDups,
        joinLines [entryLine entry, templateLine options, exportLine]) := by
  rw [moduleText, String.toList_ofList, readDeclarations_requireLines,
    Dependencies.unique_eq_eraseDups]

theorem readDeclarations_moduleText_append (entry : String) (options options' : Entries Json)
    (dependencies more : List String) :
    (readDeclarations (moduleText entry options' (dependencies ++ more)).toList).1 =
      (readDeclarations (moduleText entry options dependencies).toList).1 ++
        (Dependencies.unique more).filter fun dependency => dependency ∉ dependencies := by
  rw [readDeclarations_moduleText, readDeclarations_moduleText]
  dsimp only
  rw [← Dependencies.unique_eq_eraseDups, ← Dependencies.unique_eq_eraseDups,
    Dependencies.unique_append]

/-! ## Equal modules -/

theorem joinLines_footer (entry : String) (options : Entries Json) :
    joinLines [entryLine entry, templateLine options, exportLine] =
      entryLine entry ++ '\n' :: (templateLine options ++ '\n' :: exportLine) := rfl

theorem entryLine_append (entry : String) (behind : List Char) :
    entryLine entry ++ '\n' :: behind =
      ("var twig = require(\"" ++ entry ++ "\").twig,\n").toList ++ behind := by
  have hend : "\").twig,\n".toList = "\").twig,".toList ++ ['\n'] := rfl
  unfold entryLine
  simp only [String.toList_append, hend, List.append_assoc, List.cons_append, List.nil_append]

theorem templateLine_inj {options options' : Entries Json}
    (h : templateLine options = templateLine options') :
    (Json.object options).chars = (Json.object options').chars := by
  unfold templateLine at h
  have hfront := List.append_cancel_right h
  exact List.append_cancel_left hfront

/-- Behind the same declarations and the same renderer, equal modules have equal options. -/
theorem joinLines_footer_inj {entry : String} {options options' : Entries Json}
    (h : joinLines [entryLine entry, templateLine options, exportLine] =
      joinLines [entryLine entry, templateLine options', exportLine]) :
    (Json.object options).chars = (Json.object options').chars := by
  rw [joinLines_footer, joinLines_footer] at h
  have hbehind := (List.cons.inj (List.append_cancel_left h)).2
  exact templateLine_inj (List.append_cancel_right hbehind)

/-- **A module can be decoded.** Reading declarations from its start gives each dependency once, in
the order of discovery, and stops at the line that loads the renderer. With the same renderer, two
modules are equal exactly if they have the same dependencies and the same text of options. -/
theorem moduleText_decodes (entry : String) (options options' : Entries Json)
    (dependencies dependencies' : List String) :
    (∃ behind, readDeclarations (moduleText entry options dependencies).toList =
      (Dependencies.unique dependencies,
        ("var twig = require(\"" ++ entry ++ "\").twig,\n").toList ++ behind)) ∧
    (moduleText entry options dependencies = moduleText entry options' dependencies' ↔
      Dependencies.unique dependencies = Dependencies.unique dependencies' ∧
        (Json.object options).text = (Json.object options').text) := by
  refine ⟨?_, ?_, ?_⟩
  · refine ⟨templateLine options ++ '\n' :: exportLine, ?_⟩
    rw [readDeclarations_moduleText, Dependencies.unique_eq_eraseDups, joinLines_footer,
      entryLine_append]
  · intro h
    have hread := congrArg (fun module => readDeclarations module.toList) h
    simp only [readDeclarations_moduleText, Prod.mk.injEq] at hread
    obtain ⟨hdependencies, hfooter⟩ := hread
    rw [Dependencies.unique_eq_eraseDups, Dependencies.unique_eq_eraseDups]
    refine ⟨hdependencies, ?_⟩
    rw [Json.text, Json.text, joinLines_footer_inj hfooter]
  · rintro ⟨hdependencies, hoptions⟩
    have htemplate : templateLine options = templateLine options' := by
      unfold templateLine
      rw [Json.text_inj hoptions]
    rw [moduleText, moduleText, hdependencies, htemplate]

end Bundle

end TemplateBundler
