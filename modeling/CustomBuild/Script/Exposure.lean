import CustomBuild.Script.Indent
import CustomBuild.Vocabulary

/-!
# Exposure

How a script hands the library to its surroundings: to an asynchronous module loader, to the
`exports` object, to the `module` object, or to the global object.  Before the fragments stand the
variables that detect the surroundings (`detection`); after them stands one chain of conditions with
a branch for each format (`exposure`).
-/

namespace CustomBuild.Script

/-! ### Detection -/

/-- Detects the `exports` object. -/
def detectExports : List String :=
  [r#"/** Detect free variable `exports` */"#,
   r#"var freeExports = typeof exports == 'object' && exports;"#]

/-- Detects the `module` object. -/
def detectModule : List String :=
  [r#"/** Detect free variable `module` */"#,
   r#"var freeModule = typeof module == 'object' && module &&"#,
   r#"  module.exports == freeExports && module;"#]

/-- Detects the global object. -/
def detectGlobal : List String :=
  [r#"/** Detect free variable `global` and use it as `window` */"#,
   r#"var freeGlobal = typeof global == 'object' && global;"#,
   r#"if (freeGlobal.global === freeGlobal) {"#,
   r#"  window = freeGlobal;"#,
   r#"}"#]

/-- **The variables that detect the surroundings**, in blocks with an empty line between them. -/
def detection (exports : List String) : String :=
  let blocks :=
    (if exports.contains "commonjs" || exports.contains "node" then [detectExports] else [])
    ++ (if exports.contains "node" then [detectModule] else [])
    ++ (if exports.contains "global" then [detectGlobal] else [])
  "\n\n".intercalate (blocks.map Text.unlines)

/-! ### The chain of exposure -/

/-- One branch of the chain. -/
structure Branch where
  /-- when the branch is taken -/
  condition : String
  /-- what it does -/
  lines : List String
deriving DecidableEq, Repr

/-- The branch for an asynchronous module loader. -/
def loaderBranch (isGlobal : Bool) : Branch where
  condition := r#"typeof define == 'function' && typeof define.amd == 'object' && define.amd"#
  lines :=
    (if isGlobal then
      [r#"// Expose Lo-Dash to the global object even when an AMD loader is present"#,
       r#"window._ = lodash;"#,
       ""]
     else [])
    ++ [r#"// define as an anonymous module so, through path mapping, it can be"#,
        r#"// referenced as the "underscore" module"#,
        r#"define(function() {"#,
        r#"  return lodash;"#,
        r#"});"#]

/-- The branch for both the `exports` and the `module` object. -/
def exportsOrModuleBranch : Branch where
  condition := "freeExports"
  lines :=
    [r#"// in Node.js or RingoJS v0.8.0+"#,
     r#"if (freeModule) {"#,
     r#"  (freeModule.exports = lodash)._ = lodash;"#,
     r#"}"#,
     r#"// in Narwhal or RingoJS v0.7.0-"#,
     r#"else {"#,
     r#"  freeExports._ = lodash;"#,
     r#"}"#]

/-- The branch for the `exports` object. -/
def exportsBranch : Branch where
  condition := "freeExports"
  lines := [r#"freeExports._ = lodash;"#]

/-- The branch for the `module` object. -/
def moduleBranch : Branch where
  condition := "freeModule"
  lines := [r#"(freeModule.exports = lodash)._ = lodash;"#]

/-- The branches of the chain for the given formats. -/
def branches (formats : List String) : List Branch :=
  (if formats.contains "amd" then [loaderBranch (formats.contains "global")] else [])
  ++ (if formats.contains "commonjs" && formats.contains "node" then [exportsOrModuleBranch]
      else if formats.contains "commonjs" then [exportsBranch]
      else if formats.contains "node" then [moduleBranch]
      else [])

/-- What is done when no branch is taken. -/
def fallback (formats : List String) : List String :=
  if formats.contains "global" then [r#"// in a browser or Rhino"#, r#"window._ = lodash;"#]
  else []

/-- Lines moved two places to the right. -/
def indentLines (lines : List String) : List String :=
  Text.lines (indent (Text.unlines lines))

/-- The lines of a branch that begins with the given word. -/
def branchLines (word : String) (branch : Branch) : List String :=
  (word ++ " (" ++ branch.condition ++ ") \x7b") :: indentLines branch.lines ++ ["\x7d"]

/-- The lines of the branches of a chain. -/
def chainLines : List Branch → List String
  | [] => []
  | first :: rest => branchLines "if" first ++ rest.flatMap (branchLines "else if")

/-- **The chain of exposure** for the export formats among the given words; without branches, only
the fallback remains. -/
def exposure (exports : List String) : String :=
  let formats := exportFormats.filter fun f => exports.contains f
  let chain := branches formats
  let last := fallback formats
  if chain.isEmpty then Text.unlines last
  else
    Text.unlines <|
      "// expose Lo-Dash" :: chainLines chain
      ++ (if last.isEmpty then [] else "else \x7b" :: indentLines last ++ ["\x7d"])

end CustomBuild.Script
