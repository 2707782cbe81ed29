/-!
# Usage and help

The texts that the command line program prints about itself, and its version.
-/

namespace CustomBuild.CommandLine

/-- The name of the program. -/
def programName : String := "lodash-builder"

/-- The version of the program. -/
def programVersion : String := "0.1.0"

/-- The usage lines. -/
def usageText : String :=
  r#"usage: lodash-builder [-h] [-o OUTPUT | -c] [-s] [-m] [--strict-names] [-V]
                      [directives ...]
"#

/-- The help text after the usage lines. -/
def helpBody : String :=
  r#"
Lo-Dash custom builds: select functions by name, alias, category or bundle and
emit a minimal, dependency-complete module.

positional arguments:
  directives            Build directives: include=, exclude=, plus=, minus=,
                        category=, exports=, iife=, and the keywords backbone,
                        underscore, csp, legacy, mobile, strict.

options:
  -h, --help            show this help message and exit
  -o OUTPUT, --output OUTPUT
                        Write the build to this file (default:
                        lodash.custom.js).
  -c, --stdout          Write the build to stdout instead of a file.
  -s, --silent          Suppress progress and diagnostic output.
  -m, --minify          Reduce the output (built-in stripper, or
                        $LODASH_BUILDER_MINIFIER).
  --strict-names        Fail on unknown function or category names instead of
                        dropping them.
  -V, --version         show program's version number and exit
"#

/-- The help text. -/
def helpText : String := usageText ++ helpBody

/-- The line that tells the version. -/
def versionLine : String := programName ++ " " ++ programVersion ++ "\n"

end CustomBuild.CommandLine
