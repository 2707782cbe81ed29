/-!
# The packaged utilities.js

The fragments of the other functions.
-/

namespace CustomBuild.Packaged

/-- The text of the packaged `utilities.js`. -/
def utilitiesText : String := r##"//@ escape
/**
 * Converts the characters `&`, `<`, `>`, `"`, and `'` in `string` to their
 * corresponding HTML entities.
 *
 * @static
 * @memberOf _
 * @category Utilities
 * @param {String} string The string to escape.
 * @returns {String} Returns the escaped string.
 */
function escape(string) {
  return string == null ? '' : (string + '').replace(reUnescapedHtml, escapeHtmlChar);
}

//@ identity
/**
 * This function returns the first argument passed to it.
 *
 * @static
 * @memberOf _
 * @category Utilities
 * @param {Mixed} value Any value.
 * @returns {Mixed} Returns `value`.
 */
function identity(value) {
  return value;
}

//@ noConflict
/**
 * Reverts the '_' variable to its previous value and returns a reference to
 * the `lodash` function.
 *
 * @static
 * @memberOf _
 * @category Utilities
 * @returns {Function} Returns the `lodash` function.
 */
function noConflict() {
  window._ = oldDash;
  return lodash;
}

//@ random
/**
 * Produces a random number between `min` and `max` (inclusive). If only one
 * argument is passed, a number between `0` and the given number will be returned.
 *
 * @static
 * @memberOf _
 * @category Utilities
 * @param {Number} [min=0] The minimum possible value.
 * @param {Number} [max=1] The maximum possible value.
 * @returns {Number} Returns a random number.
 */
function random(min, max) {
  if (min == null && max == null) {
    max = 1;
  }
  min = +min || 0;
  if (max == null) {
    max = min;
    min = 0;
  }
  return min + Math.floor(Math.random() * ((+max || 0) - min + 1));
}

//@ result
/**
 * Resolves the value of `property` on `object`. If `property` is a function
 * it will be invoked and its result returned, else the property value is
 * returned. If `object` is falsey, then `null` is returned.
 *
 * @static
 * @memberOf _
 * @category Utilities
 * @param {Object} object The object to inspect.
 * @param {String} property The property to get the value of.
 * @returns {Mixed} Returns the resolved value.
 */
function result(object, property) {
  if (!object) {
    return null;
  }
  var value = object[property];
  return typeof value == 'function' ? object[property]() : value;
}

//@ template
/** Used to match empty string literals in compiled template source */
var reNoMatch = /($^)/;

/** Used to match unescaped characters in compiled string literals */
var reUnescapedString = /['\n\r\t\u2028\u2029\\]/g;

/** Used to escape characters for inclusion in compiled string literals */
var stringEscapes = {
  '\\': '\\',
  "'": "'",
  '\n': 'n',
  '\r': 'r',
  '\t': 't',
  '\u2028': 'u2028',
  '\u2029': 'u2029'
};

/** Used to give compiled templates a unique `sourceURL` */
var templateCounter = 0;

/**
 * Used by `template` to escape characters for inclusion in compiled
 * string literals.
 *
 * @private
 * @param {String} match The matched character to escape.
 * @returns {String} Returns the escaped character.
 */
function escapeStringChar(match) {
  return '\\' + stringEscapes[match];
}

/**
 * By default, the template delimiters used by Lo-Dash are similar to those in
 * embedded Ruby (ERB). Change the following template settings to use
 * alternative delimiters.
 *
 * @static
 * @memberOf _
 * @type Object
 */
lodash.templateSettings = {
  'escape': /<%-([\s\S]+?)%>/g,
  'evaluate': /<%([\s\S]+?)%>/g,
  'interpolate': /<%=([\s\S]+?)%>/g,
  'variable': ''
};

/**
 * A micro-templating method that handles arbitrary delimiters, preserves
 * whitespace, and correctly escapes quotes within interpolated code.
 *
 * @static
 * @memberOf _
 * @category Utilities
 * @param {String} text The template text.
 * @param {Object} data The data object used to populate the text.
 * @param {Object} options The options object.
 *  escape - The "escape" delimiter regexp.
 *  evaluate - The "evaluate" delimiter regexp.
 *  interpolate - The "interpolate" delimiter regexp.
 *  variable - The data object variable name.
 * @returns {Function|String} Returns a compiled function when no `data` object
 *  is given, else it returns the interpolated text.
 */
function template(text, data, options) {
  var settings = lodash.templateSettings;
  text || (text = '');
  options || (options = {});

  var escapeRe = options.escape || settings.escape || reNoMatch,
      evaluateRe = options.evaluate || settings.evaluate || reNoMatch,
      interpolateRe = options.interpolate || settings.interpolate || reNoMatch,
      variable = options.variable || settings.variable,
      index = 0,
      source = "__p += '";

  var reDelimiters = RegExp(
    escapeRe.source + '|' +
    interpolateRe.source + '|' +
    evaluateRe.source + '|$'
  , 'g');

  text.replace(reDelimiters, function(match, escapeValue, interpolateValue, evaluateValue, offset) {
    source += text.slice(index, offset).replace(reUnescapedString, escapeStringChar);
    if (escapeValue) {
      source += "' +\n((__t = (" + escapeValue + ")) == null ? '' : __e(__t)) +\n'";
    }
    if (evaluateValue) {
      source += "';\n" + evaluateValue + ";\n__p += '";
    }
    if (interpolateValue) {
      source += "' +\n((__t = (" + interpolateValue + ")) == null ? '' : __t) +\n'";
    }
    index = offset + match.length;
    return match;
  });

  source += "';\n";
  if (!variable) {
    variable = 'obj';
    source = 'with (' + variable + ' || {}) {\n' + source + '}\n';
  }
  source = 'function(' + variable + ') {\n' +
    "var __t, __p = '';\n" +
    source +
    'return __p;\n}';

  // use a sourceURL for easier debugging
  var sourceURL = '\n//@ sourceURL=/lodash/template/source[' + (templateCounter++) + ']';
  var result = Function('__e', 'return ' + source + sourceURL)(escape);

  if (data) {
    return result(data);
  }
  result.source = source;
  return result;
}

//@ template csp
/** Used to match empty string literals in compiled template source */
var reNoMatch = /($^)/;

/** Used to match unescaped characters in compiled string literals */
var reUnescapedString = /['\n\r\t\u2028\u2029\\]/g;

/** Used to escape characters for inclusion in compiled string literals */
var stringEscapes = {
  '\\': '\\',
  "'": "'",
  '\n': 'n',
  '\r': 'r',
  '\t': 't',
  '\u2028': 'u2028',
  '\u2029': 'u2029'
};

/**
 * Used by `template` to escape characters for inclusion in compiled
 * string literals.
 *
 * @private
 * @param {String} match The matched character to escape.
 * @returns {String} Returns the escaped character.
 */
function escapeStringChar(match) {
  return '\\' + stringEscapes[match];
}

/**
 * By default, the template delimiters used by Lo-Dash are similar to those in
 * embedded Ruby (ERB). Change the following template settings to use
 * alternative delimiters.
 *
 * @static
 * @memberOf _
 * @type Object
 */
lodash.templateSettings = {
  'escape': /<%-([\s\S]+?)%>/g,
  'evaluate': /<%([\s\S]+?)%>/g,
  'interpolate': /<%=([\s\S]+?)%>/g,
  'variable': ''
};

/**
 * A micro-templating method that handles arbitrary delimiters, preserves
 * whitespace, and correctly escapes quotes within interpolated code. The
 * compiled source carries no `sourceURL` so it can be precompiled and shipped
 * to pages served with a Content Security Policy.
 *
 * @static
 * @memberOf _
 * @category Utilities
 * @param {String} text The template text.
 * @param {Object} data The data object used to populate the text.
 * @param {Object} options The options object.
 * @returns {Function|String} Returns a compiled function when no `data` object
 *  is given, else it returns the interpolated text.
 */
function template(text, data, options) {
  var settings = lodash.templateSettings;
  text || (text = '');
  options || (options = {});

  var escapeRe = options.escape || settings.escape || reNoMatch,
      evaluateRe = options.evaluate || settings.evaluate || reNoMatch,
      interpolateRe = options.interpolate || settings.interpolate || reNoMatch,
      variable = options.variable || settings.variable,
      index = 0,
      source = "__p += '";

  var reDelimiters = RegExp(
    escapeRe.source + '|' +
    interpolateRe.source + '|' +
    evaluateRe.source + '|$'
  , 'g');

  text.replace(reDelimiters, function(match, escapeValue, interpolateValue, evaluateValue, offset) {
    source += text.slice(index, offset).replace(reUnescapedString, escapeStringChar);
    if (escapeValue) {
      source += "' +\n((__t = (" + escapeValue + ")) == null ? '' : __e(__t)) +\n'";
    }
    if (evaluateValue) {
      source += "';\n" + evaluateValue + ";\n__p += '";
    }
    if (interpolateValue) {
      source += "' +\n((__t = (" + interpolateValue + ")) == null ? '' : __t) +\n'";
    }
    index = offset + match.length;
    return match;
  });

  source += "';\n";
  if (!variable) {
    variable = 'obj';
    source = 'with (' + variable + ' || {}) {\n' + source + '}\n';
  }
  source = 'function(' + variable + ') {\n' +
    "var __t, __p = '';\n" +
    source +
    'return __p;\n}';

  var result = Function('__e', 'return ' + source)(escape);
  if (data) {
    return result(data);
  }
  result.source = source;
  return result;
}

//@ times
/**
 * Executes the `callback` function `n` times, returning an array of the results
 * of each `callback` execution. The `callback` is bound to `thisArg` and invoked
 * with one argument; (index).
 *
 * @static
 * @memberOf _
 * @category Utilities
 * @param {Number} n The number of times to execute the callback.
 * @param {Function} callback The function called per iteration.
 * @param {Mixed} [thisArg] The `this` binding of `callback`.
 * @returns {Array} Returns a new array of the results of each `callback` execution.
 */
function times(n, callback, thisArg) {
  n = +n || 0;
  var index = -1,
      result = Array(n > 0 ? n : 0);

  callback = createCallback(callback, thisArg);
  while (++index < n) {
    result[index] = callback(index);
  }
  return result;
}

//@ unescape
/**
 * The opposite of `_.escape`, this method converts the HTML entities
 * `&amp;`, `&lt;`, `&gt;`, `&quot;`, and `&#x27;` in `string` to their
 * corresponding characters.
 *
 * @static
 * @memberOf _
 * @category Utilities
 * @param {String} string The string to unescape.
 * @returns {String} Returns the unescaped string.
 */
function unescape(string) {
  return string == null ? '' : (string + '').replace(reEscapedHtml, unescapeHtmlChar);
}

//@ uniqueId
/**
 * Generates a unique id. If `prefix` is passed, the id will be appended to it.
 *
 * @static
 * @memberOf _
 * @category Utilities
 * @param {String} [prefix] The value to prefix the id with.
 * @returns {Number|String} Returns a numeric id if no prefix is passed, else
 *  a string id that may contain the prefix.
 */
function uniqueId(prefix) {
  var id = ++idCounter;
  return prefix == null ? id : prefix + id;
}
"##

end CustomBuild.Packaged
