import ArchLint.CommandLine.Help

/-!
The files a new project starts with: a grammar of three layers, and a configuration that says what
holds anyway.
-/

namespace ArchLint.Starter

def grammarFile : String := "grammar.yaml"

def configFile : String := "archgram.toml"

def grammarText : String :=
  "# archgram grammar
version: \"1.0\"
language: typescript

# Roles are matched against project-relative paths; first match wins.
roles:
  - name: DOMAIN
    path: \"^src/domain/\"
  - name: APPLICATION
    path: \"^src/application/\"
  - name: INFRA
    path: \"^src/infra/\"

rules:
  - name: domain-is-pure
    kind: forbidden
    comment: the domain must not know about adapters
    from: \x7b role: DOMAIN \x7d
    to: \x7b role: [APPLICATION, INFRA] \x7d

  - name: no-cycles
    kind: forbidden
    from: \x7b role: ALL \x7d
    to: \x7b circular: true \x7d

  - name: kebab-case-files
    severity: warning
    kind: naming_pattern
    for: \x7b role: ALL \x7d
    pattern: \"/[a-z0-9.-]+\\\\.tsx?$\"

  - name: small-files
    severity: warning
    kind: file_size
    for: \x7b role: ALL \x7d
    max_lines: 400

  - name: no-debug-leftovers
    severity: warning
    kind: forbidden_keywords
    from: \x7b role: ALL \x7d
    contains_forbidden: [\"console.log\", \"debugger\"]

  - name: similar-names
    severity: info
    kind: find_synonyms
    for: \x7b role: ALL \x7d
    options:
      similarity_threshold: 0.9
"

def configText : String :=
  "# archgram configuration

[analyzer]
# Project root (default: current directory)
# root = \".\"

# Grammar file relative to the root (default: grammar.yaml, grammar.yml,
# grammar.toml, grammar.json or .archgram/grammar.yaml)
grammar = \"grammar.yaml\"

# Excluded paths, gitignore syntax
exclude = [\"node_modules/\", \"dist/\"]

# Read every file once up front instead of per check
preload_content = true

# Worker threads (default: one per core)
# parallelism = 4

# Per-rule overrides, keyed by grammar rule name
# [rules.small-files]
# enabled = false
# severity = \"error\"
"

/-- The files, in the order in which they are written. -/
def files : List (String × String) := [(grammarFile, grammarText), (configFile, configText)]

/-- What is said after the files are written. -/
def message : String :=
  ofLines ["Created " ++ grammarFile ++ " and " ++ configFile,
    "",
    "Next steps:",
    "  1. Edit " ++ grammarFile ++ " to describe your roles and rules",
    "  2. Run: archgram check"]

end ArchLint.Starter
