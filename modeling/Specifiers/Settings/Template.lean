/-!
# The file of settings that a project starts with

It sets every field to its default.
-/

namespace Specifiers

namespace Settings

/-- The text of the file of settings that a project starts with. -/
def template : String :=
  "# jsreq configuration

[filter]
# Gitignore-style patterns excluded from `jsreq scan`
exclude = []
# Patterns that are always scanned, even when excluded above
include = []

[scan]
extensions = [\".js\", \".mjs\", \".cjs\"]
encoding = \"utf-8\"
fail_fast = false
"

end Settings

end Specifiers
