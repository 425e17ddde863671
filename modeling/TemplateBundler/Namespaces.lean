import TemplateBundler.Entries
import TemplateBundler.Text.Search

/-!
# Namespaces: aliases for path beginnings

A path may begin with `theme::` or `@theme` in place of the directory that the alias `theme`
stands for.
-/

namespace TemplateBundler

/-- Aliases and the path beginnings that they stand for, in the order of their declaration. -/
abbrev Namespaces := Entries String

namespace Namespaces

def colonForm (name : String) : List Char := name.toList ++ [':', ':']

def atForm (name : String) : List Char := '@' :: name.toList

def stripForm? (name : String) (path : List Char) : Option (List Char) :=
  (Text.dropFront? (colonForm name) path).or (Text.dropFront? (atForm name) path)

/-- The target followed by the rest. The form `@alias/…` brings its own slashes: they are dropped
if the target already ends in one. -/
def attach (target rest : List Char) : List Char :=
  if target.getLast? = some '/' then target ++ rest.dropWhile (· = '/') else target ++ rest

/-- The path with the first alias that it begins with replaced; other paths stay as they are. -/
def resolveChars : List (String × String) → List Char → List Char
  | [], path => path
  | (name, target) :: rest, path =>
    match stripForm? name path with
    | some behind => attach target.toList behind
    | none => resolveChars rest path

def resolve (namespaces : Namespaces) (path : String) : String :=
  String.ofList (resolveChars namespaces path.toList)

end Namespaces

end TemplateBundler
