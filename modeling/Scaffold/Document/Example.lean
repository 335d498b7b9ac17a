import Scaffold.Text.Lines

/-!
# The example document

A structure document that shows every kind of item.
-/

namespace Scaffold.Document

def exampleLines : List String :=
  [
    "# Example project template.",
    "# Each item is either a file or a folder in the project.",
    "# Tokens use \x7bmp:token\x7d and are case-insensitive.",
    "#",
    "# Explicit syntax:",
    "# - file: filename for a generated file",
    "# - folder: folder name",
    "#   contents: nested items inside a folder",
    "# - content: inline file contents (supports \x7bmp:token\x7d)",
    "# - template: reference a File Template by name",
    "# - file_template: file named after a File Template, filled from it",
    "# - project_template: include another Project Template by name",
    "# - python: run code that sets `result` to, or prints, a YAML list",
    "- file: README.md",
    "  content: |",
    "    # \x7bmp:title\x7d",
    "",
    "    \x7bmp:description\x7d",
    "",
    "- folder: src",
    "  contents:",
    "    - file: main.py",
    "      template: main.py",
    "    - folder: tests",
    "",
    "# Implicit syntax (folder name as the key, list of contents as the value):",
    "- \"Teaching - \x7bmp:title\x7d\":",
    "  - Quizzes.md",
    "  - file: lesson-plan.md",
    "    content: |",
    "      # Lesson Plan",
    "      \x7bmp:description\x7d",
    "  - folder: resources",
    "",
    "# Programmatic items (the block prints a YAML list):",
    "- python: |",
    "    \x7b% for i in range(3) %\x7d",
    "    - file: \"Quiz \x7b\x7b i \x7d\x7d.tex\"",
    "      content: \"\\\\section*\x7bQuiz \x7b\x7b i \x7d\x7d\x7d\"",
    "    \x7b% endfor %\x7d"
  ]

def example_ : String := Text.joinWith "\n" (exampleLines ++ [""])

end Scaffold.Document
