/-!
# The packaged manifest.json

The manifest: titles and version, the fragment files, the helpers and functions with their
categories, aliases and dependencies, and the bundles.
-/

namespace CustomBuild.Packaged

/-- The text of the packaged `manifest.json`. -/
def manifestText : String := r##"{
  "library": "Lo-Dash",
  "version": "0.9.2",
  "license": "Available under MIT license <http://lodash.com/license>",
  "categories": ["Arrays", "Chaining", "Collections", "Functions", "Objects", "Utilities"],
  "fragment_files": [
    "internal.js",
    "arrays.js",
    "chaining.js",
    "collections.js",
    "functions.js",
    "objects.js",
    "utilities.js"
  ],
  "helpers": [
    {"name": "lodash", "dependencies": []},
    {"name": "refs", "dependencies": []},
    {"name": "natives", "dependencies": ["refs"]},
    {"name": "noop", "dependencies": []},
    {"name": "createCallback", "dependencies": []},
    {"name": "baseForIn", "dependencies": ["refs"]},
    {"name": "baseForOwn", "dependencies": ["refs", "baseForIn"]},
    {"name": "shimKeys", "dependencies": ["baseForOwn"]},
    {"name": "baseKeys", "dependencies": ["natives", "shimKeys"]},
    {"name": "baseEach", "dependencies": ["refs", "baseForOwn"]},
    {"name": "baseValues", "dependencies": ["baseForOwn"]},
    {"name": "baseFunctions", "dependencies": ["baseForIn"]},
    {"name": "baseIndexOf", "dependencies": []},
    {"name": "baseFlatten", "dependencies": ["refs"]},
    {"name": "baseUniq", "dependencies": ["baseIndexOf"]},
    {"name": "compareAscending", "dependencies": []},
    {"name": "createBound", "dependencies": ["refs", "noop"]},
    {"name": "baseMerge", "dependencies": ["refs", "baseForOwn"]},
    {"name": "escapeHtmlChar", "dependencies": []},
    {"name": "unescapeHtmlChar", "dependencies": []},
    {"name": "oldDash", "dependencies": []},
    {"name": "idCounter", "dependencies": []}
  ],
  "functions": [
    {"name": "compact", "category": "Arrays", "dependencies": []},
    {"name": "difference", "category": "Arrays", "dependencies": ["refs", "baseIndexOf"]},
    {"name": "first", "category": "Arrays", "aliases": ["head", "take"], "dependencies": ["refs"]},
    {"name": "flatten", "category": "Arrays", "dependencies": ["baseFlatten"]},
    {"name": "indexOf", "category": "Arrays", "dependencies": ["baseIndexOf"]},
    {"name": "initial", "category": "Arrays", "dependencies": ["refs"]},
    {"name": "intersection", "category": "Arrays", "dependencies": ["baseIndexOf"]},
    {"name": "last", "category": "Arrays", "dependencies": ["refs"]},
    {"name": "lastIndexOf", "category": "Arrays", "dependencies": []},
    {"name": "max", "category": "Arrays", "dependencies": ["createCallback", "baseEach"]},
    {"name": "min", "category": "Arrays", "dependencies": ["createCallback", "baseEach"]},
    {"name": "object", "category": "Arrays", "dependencies": []},
    {"name": "range", "category": "Arrays", "dependencies": []},
    {"name": "rest", "category": "Arrays", "aliases": ["drop", "tail"], "dependencies": ["refs"]},
    {"name": "shuffle", "category": "Arrays", "dependencies": ["baseEach"]},
    {"name": "sortedIndex", "category": "Arrays", "dependencies": ["createCallback"]},
    {"name": "union", "category": "Arrays", "dependencies": ["refs", "baseUniq"]},
    {"name": "uniq", "category": "Arrays", "aliases": ["unique"], "dependencies": ["createCallback", "baseUniq"]},
    {"name": "without", "category": "Arrays", "dependencies": ["refs", "baseIndexOf"]},
    {"name": "zip", "category": "Arrays", "dependencies": []},

    {"name": "mixin", "category": "Chaining", "dependencies": ["refs", "baseEach", "baseFunctions"]},
    {"name": "chain", "category": "Chaining", "dependencies": ["mixin"]},
    {"name": "tap", "category": "Chaining", "dependencies": ["mixin"]},
    {"name": "value", "category": "Chaining", "dependencies": [], "static": false},

    {"name": "contains", "category": "Collections", "aliases": ["include"], "dependencies": ["refs", "baseEach"]},
    {"name": "countBy", "category": "Collections", "dependencies": ["refs", "createCallback", "baseEach"]},
    {"name": "every", "category": "Collections", "aliases": ["all"], "dependencies": ["createCallback", "baseEach"]},
    {"name": "filter", "category": "Collections", "aliases": ["select"], "dependencies": ["createCallback", "baseEach"]},
    {"name": "find", "category": "Collections", "aliases": ["detect"], "dependencies": ["createCallback", "baseEach"]},
    {"name": "forEach", "category": "Collections", "aliases": ["each"], "dependencies": ["createCallback", "baseEach"]},
    {"name": "groupBy", "category": "Collections", "dependencies": ["refs", "createCallback", "baseEach"]},
    {"name": "invoke", "category": "Collections", "dependencies": ["refs", "baseEach"]},
    {"name": "map", "category": "Collections", "aliases": ["collect"], "dependencies": ["createCallback", "baseEach"]},
    {"name": "pluck", "category": "Collections", "dependencies": ["baseEach"]},
    {"name": "reduce", "category": "Collections", "aliases": ["foldl", "inject"], "dependencies": ["createCallback", "baseEach"]},
    {"name": "reduceRight", "category": "Collections", "aliases": ["foldr"], "dependencies": ["refs", "createCallback", "baseKeys"]},
    {"name": "reject", "category": "Collections", "dependencies": ["createCallback", "baseEach"]},
    {"name": "size", "category": "Collections", "dependencies": ["baseKeys"]},
    {"name": "some", "category": "Collections", "aliases": ["any"], "dependencies": ["createCallback", "baseEach"]},
    {"name": "sortBy", "category": "Collections", "dependencies": ["createCallback", "baseEach", "compareAscending"]},
    {"name": "toArray", "category": "Collections", "dependencies": ["refs", "baseValues"]},
    {"name": "where", "category": "Collections", "dependencies": ["baseKeys", "baseEach"]},

    {"name": "after", "category": "Functions", "dependencies": []},
    {"name": "bind", "category": "Functions", "dependencies": ["refs", "natives", "createBound"]},
    {"name": "bindAll", "category": "Functions", "dependencies": ["refs", "baseFunctions", "createBound"]},
    {"name": "compose", "category": "Functions", "dependencies": []},
    {"name": "debounce", "category": "Functions", "dependencies": []},
    {"name": "defer", "category": "Functions", "dependencies": ["refs"]},
    {"name": "delay", "category": "Functions", "dependencies": ["refs"]},
    {"name": "lateBind", "category": "Functions", "dependencies": ["refs", "createBound"]},
    {"name": "memoize", "category": "Functions", "dependencies": ["refs"]},
    {"name": "once", "category": "Functions", "dependencies": []},
    {"name": "partial", "category": "Functions", "dependencies": ["refs", "createBound"]},
    {"name": "throttle", "category": "Functions", "dependencies": []},
    {"name": "wrap", "category": "Functions", "dependencies": ["refs"]},

    {"name": "clone", "category": "Objects", "dependencies": ["refs", "baseEach", "baseForOwn"]},
    {"name": "defaults", "category": "Objects", "dependencies": ["baseForIn"]},
    {"name": "extend", "category": "Objects", "dependencies": ["baseForIn"]},
    {"name": "forIn", "category": "Objects", "dependencies": ["createCallback", "baseForIn"]},
    {"name": "forOwn", "category": "Objects", "dependencies": ["createCallback", "baseForOwn"]},
    {"name": "functions", "category": "Objects", "aliases": ["methods"], "dependencies": ["baseFunctions"]},
    {"name": "has", "category": "Objects", "dependencies": ["refs"]},
    {"name": "invert", "category": "Objects", "dependencies": ["baseForOwn"]},
    {"name": "isArguments", "category": "Objects", "dependencies": ["refs"]},
    {"name": "isArray", "category": "Objects", "dependencies": ["refs", "natives"]},
    {"name": "isBoolean", "category": "Objects", "dependencies": ["refs"]},
    {"name": "isDate", "category": "Objects", "dependencies": ["refs"]},
    {"name": "isElement", "category": "Objects", "dependencies": []},
    {"name": "isEmpty", "category": "Objects", "dependencies": ["refs", "baseForOwn"]},
    {"name": "isEqual", "category": "Objects", "dependencies": ["refs", "baseForOwn"]},
    {"name": "isFinite", "category": "Objects", "dependencies": ["refs"]},
    {"name": "isFunction", "category": "Objects", "dependencies": []},
    {"name": "isNaN", "category": "Objects", "dependencies": ["refs"]},
    {"name": "isNull", "category": "Objects", "dependencies": []},
    {"name": "isNumber", "category": "Objects", "dependencies": ["refs"]},
    {"name": "isObject", "category": "Objects", "dependencies": []},
    {"name": "isRegExp", "category": "Objects", "dependencies": ["refs"]},
    {"name": "isString", "category": "Objects", "dependencies": ["refs"]},
    {"name": "isUndefined", "category": "Objects", "dependencies": []},
    {"name": "keys", "category": "Objects", "dependencies": ["baseKeys"]},
    {"name": "merge", "category": "Objects", "dependencies": ["baseMerge"]},
    {"name": "omit", "category": "Objects", "dependencies": ["refs", "baseForIn", "baseIndexOf"]},
    {"name": "pairs", "category": "Objects", "dependencies": ["baseForOwn"]},
    {"name": "pick", "category": "Objects", "dependencies": ["refs"]},
    {"name": "values", "category": "Objects", "dependencies": ["baseValues"]},

    {"name": "escape", "category": "Utilities", "dependencies": ["escapeHtmlChar"]},
    {"name": "identity", "category": "Utilities", "dependencies": []},
    {"name": "noConflict", "category": "Utilities", "dependencies": ["oldDash"]},
    {"name": "random", "category": "Utilities", "dependencies": []},
    {"name": "result", "category": "Utilities", "dependencies": []},
    {"name": "template", "category": "Utilities", "dependencies": ["escape"]},
    {"name": "times", "category": "Utilities", "dependencies": ["createCallback"]},
    {"name": "unescape", "category": "Utilities", "dependencies": ["unescapeHtmlChar"]},
    {"name": "uniqueId", "category": "Utilities", "dependencies": ["idCounter"]}
  ],
  "bundles": {
    "backbone": [
      "bind", "bindAll", "clone", "contains", "escape", "every", "extend",
      "filter", "find", "first", "forEach", "groupBy", "has", "indexOf",
      "initial", "invoke", "isArray", "isEmpty", "isEqual", "isFunction",
      "isObject", "isRegExp", "keys", "last", "lastIndexOf", "map", "max",
      "min", "mixin", "reduce", "reduceRight", "reject", "rest", "result",
      "shuffle", "size", "some", "sortBy", "sortedIndex", "toArray",
      "uniqueId", "without"
    ],
    "underscore": [
      "compact", "difference", "first", "flatten", "indexOf", "initial",
      "intersection", "last", "lastIndexOf", "max", "min", "range", "rest",
      "shuffle", "sortedIndex", "union", "uniq", "without", "zip",
      "mixin", "chain", "tap", "value",
      "contains", "every", "filter", "find", "forEach", "groupBy", "invoke",
      "map", "pluck", "reduce", "reduceRight", "reject", "size", "some",
      "sortBy", "toArray",
      "after", "bind", "bindAll", "compose", "debounce", "defer", "delay",
      "memoize", "once", "throttle", "wrap",
      "clone", "defaults", "extend", "functions", "has", "isArguments",
      "isArray", "isBoolean", "isDate", "isElement", "isEmpty", "isEqual",
      "isFinite", "isFunction", "isNaN", "isNull", "isNumber", "isObject",
      "isRegExp", "isString", "isUndefined", "keys", "pick", "values",
      "escape", "identity", "noConflict", "result", "template", "times",
      "uniqueId"
    ]
  }
}
"##

end CustomBuild.Packaged
