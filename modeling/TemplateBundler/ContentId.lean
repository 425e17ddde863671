import TemplateBundler.ContentId.Sha512

/-!
# ContentId: identifiers of dependencies

The renderer refers to a dependency by an identifier computed from its absolute path, so that equal
paths always get equal identifiers.
-/

namespace TemplateBundler.ContentId

def sha512 (path : String) : String := String.ofList (Sha512.hex path.toUTF8.toList)

def ofPath (path : String) : String := "id:" ++ path

end TemplateBundler.ContentId
