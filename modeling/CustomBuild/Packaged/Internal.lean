/-!
# The packaged internal.js

The fragments of the private helpers.
-/

namespace CustomBuild.Packaged

/-- The text of the packaged `internal.js`. -/
def internalText : String := r##"//@ lodash
/**
 * Creates a `lodash` object, which wraps the given `value` to enable
 * method chaining.
 *
 * @name _
 * @constructor
 * @param {Mixed} value The value to wrap in a `lodash` instance.
 * @returns {Object} Returns a `lodash` instance.
 */
function lodash(value) {
  // exit early if already wrapped, even if wrapped by a different `lodash` constructor
  if (value && typeof value == 'object' && value.__wrapped__) {
    return value;
  }
  // allow invoking `lodash` without the `new` operator
  if (!(this instanceof lodash)) {
    return new lodash(value);
  }
  this.__wrapped__ = value;
}

//@ refs
/** Used for native method references */
var ArrayProto = Array.prototype,
    ObjectProto = Object.prototype;

/** Native method shortcuts */
var concat = ArrayProto.concat,
    hasOwnProperty = ObjectProto.hasOwnProperty,
    push = ArrayProto.push,
    slice = ArrayProto.slice,
    toString = ObjectProto.toString;

/** `Object#toString` result shortcuts */
var argsClass = '[object Arguments]',
    arrayClass = '[object Array]',
    boolClass = '[object Boolean]',
    dateClass = '[object Date]',
    funcClass = '[object Function]',
    numberClass = '[object Number]',
    objectClass = '[object Object]',
    regexpClass = '[object RegExp]',
    stringClass = '[object String]';

//@ natives
/** Used to detect if a method is native */
var reNative = RegExp('^' +
  (ObjectProto.valueOf + '')
    .replace(/[.*+?^${}()|[\]\\]/g, '\\$&')
    .replace(/valueOf|for [^\]]+/g, '.+?') + '$'
);

/* Native method shortcuts for methods with the same name as other `lodash` methods */
var nativeBind = reNative.test(nativeBind = slice.bind) && nativeBind,
    nativeIsArray = reNative.test(nativeIsArray = Array.isArray) && nativeIsArray,
    nativeKeys = reNative.test(nativeKeys = Object.keys) && nativeKeys;

//@ natives legacy
/* Legacy runtimes get the shimmed implementations only */
var nativeBind = false,
    nativeIsArray = false,
    nativeKeys = false;

//@ noop
/**
 * A no-operation function.
 *
 * @private
 */
function noop() {
  // no operation performed
}

//@ createCallback
/**
 * Produces a callback bound to an optional `thisArg`. If `func` is a property
 * name, the created callback will return the property value for a given element.
 *
 * @private
 * @param {Function|String} [func=identity|property] The function called per
 *  iteration or property name to query.
 * @param {Mixed} [thisArg] The `this` binding of `callback`.
 * @returns {Function} Returns a callback function.
 */
function createCallback(func, thisArg) {
  if (func == null) {
    return function(value) {
      return value;
    };
  }
  if (typeof func != 'function') {
    return function(object) {
      return object == null ? undefined : object[func];
    };
  }
  if (thisArg !== undefined) {
    return function() {
      return func.apply(thisArg, arguments);
    };
  }
  return func;
}

//@ baseForIn
/** Used to fix the JScript [[DontEnum]] bug */
var shadowedProps = [
  'constructor', 'hasOwnProperty', 'isPrototypeOf', 'propertyIsEnumerable',
  'toLocaleString', 'toString', 'valueOf'
];

/** Detect if own properties that shadow built-ins are skipped by `for-in` */
var hasDontEnumBug = (function() {
  for (var key in { 'toString': 1 }) {
    return false;
  }
  return true;
}());

/**
 * Iterates over own and inherited enumerable properties of `object`,
 * stopping early if `callback` explicitly returns `false`.
 *
 * @private
 * @param {Object} object The object to iterate over.
 * @param {Function} callback The function called per iteration.
 * @returns {Object} Returns `object`.
 */
function baseForIn(object, callback) {
  var key;
  if (object == null) {
    return object;
  }
  for (key in object) {
    if (callback(object[key], key, object) === false) {
      return object;
    }
  }
  if (hasDontEnumBug) {
    var index = -1;
    while (++index < 7) {
      key = shadowedProps[index];
      if (hasOwnProperty.call(object, key) &&
          callback(object[key], key, object) === false) {
        break;
      }
    }
  }
  return object;
}

//@ baseForIn mobile
/**
 * Iterates over own and inherited enumerable properties of `object`,
 * stopping early if `callback` explicitly returns `false`.
 *
 * @private
 * @param {Object} object The object to iterate over.
 * @param {Function} callback The function called per iteration.
 * @returns {Object} Returns `object`.
 */
function baseForIn(object, callback) {
  if (object == null) {
    return object;
  }
  for (var key in object) {
    if (callback(object[key], key, object) === false) {
      break;
    }
  }
  return object;
}

//@ baseForOwn
/**
 * Iterates over own enumerable properties of `object`, stopping early if
 * `callback` explicitly returns `false`.
 *
 * @private
 * @param {Object} object The object to iterate over.
 * @param {Function} callback The function called per iteration.
 * @returns {Object} Returns `object`.
 */
function baseForOwn(object, callback) {
  return baseForIn(object, function(value, key, object) {
    if (hasOwnProperty.call(object, key)) {
      return callback(value, key, object);
    }
  });
}

//@ shimKeys
/**
 * A fallback implementation of `Object.keys` that produces an array of the
 * given object's own enumerable property names.
 *
 * @private
 * @param {Object} object The object to inspect.
 * @returns {Array} Returns a new array of property names.
 */
function shimKeys(object) {
  var result = [];
  baseForOwn(object, function(value, key) {
    result.push(key);
  });
  return result;
}

//@ baseKeys
/**
 * Creates an array composed of the own enumerable property names of `object`,
 * using the native `Object.keys` where it is available.
 *
 * @private
 * @param {Object} object The object to inspect.
 * @returns {Array} Returns a new array of property names.
 */
var baseKeys = !nativeKeys ? shimKeys : function(object) {
  if (!object || (typeof object != 'object' && typeof object != 'function')) {
    return [];
  }
  return nativeKeys(object);
};

//@ baseEach
/**
 * Iterates over elements of array-like values by index and over own
 * properties of other objects, stopping early if `callback` explicitly
 * returns `false`.
 *
 * @private
 * @param {Array|Object|String} collection The collection to iterate over.
 * @param {Function} callback The function called per iteration.
 * @returns {Array|Object|String} Returns `collection`.
 */
function baseEach(collection, callback) {
  var index = -1,
      iterable = collection,
      length = collection ? collection.length : 0;

  if (typeof length == 'number') {
    if (toString.call(collection) == stringClass) {
      iterable = collection.split('');
    }
    while (++index < length) {
      if (callback(iterable[index], index, collection) === false) {
        break;
      }
    }
  } else {
    baseForOwn(collection, callback);
  }
  return collection;
}

//@ baseValues
/**
 * Creates an array composed of the own enumerable property values of `object`.
 *
 * @private
 * @param {Object} object The object to inspect.
 * @returns {Array} Returns a new array of property values.
 */
function baseValues(object) {
  var result = [];
  baseForOwn(object, function(value) {
    result.push(value);
  });
  return result;
}

//@ baseFunctions
/**
 * Creates a sorted array of all enumerable properties, own and inherited,
 * of `object` that have function values.
 *
 * @private
 * @param {Object} object The object to inspect.
 * @returns {Array} Returns a new array of property names.
 */
function baseFunctions(object) {
  var result = [];
  baseForIn(object, function(value, key) {
    if (typeof value == 'function') {
      result.push(key);
    }
  });
  return result.sort();
}

//@ baseIndexOf
/**
 * A basic version of `indexOf` without support for negative `fromIndex`
 * values or binary searches.
 *
 * @private
 * @param {Array} array The array to search.
 * @param {Mixed} value The value to search for.
 * @param {Number} [fromIndex=0] The index to search from.
 * @returns {Number} Returns the index of the matched value or `-1`.
 */
function baseIndexOf(array, value, fromIndex) {
  var index = (fromIndex || 0) - 1,
      length = array ? array.length : 0;

  while (++index < length) {
    if (array[index] === value) {
      return index;
    }
  }
  return -1;
}

//@ baseFlatten
/**
 * Flattens nested arrays into `result`. If `shallow` is truthy, `array` will
 * only be flattened a single level.
 *
 * @private
 * @param {Array} array The array to flatten.
 * @param {Boolean} shallow A flag to indicate only flattening a single level.
 * @param {Array} [result=[]] The array to push flattened values onto.
 * @returns {Array} Returns `result`.
 */
function baseFlatten(array, shallow, result) {
  var index = -1,
      length = array ? array.length : 0;

  result || (result = []);
  while (++index < length) {
    var value = array[index];
    if (toString.call(value) == arrayClass) {
      if (shallow) {
        push.apply(result, value);
      } else {
        baseFlatten(value, shallow, result);
      }
    } else {
      result.push(value);
    }
  }
  return result;
}

//@ baseUniq
/**
 * Creates a duplicate-value-free copy of `array`, using strict equality on
 * the values `callback` computes.
 *
 * @private
 * @param {Array} array The array to process.
 * @param {Boolean} isSorted A flag to indicate that `array` is already sorted.
 * @param {Function} [callback] The function called per iteration.
 * @returns {Array} Returns a duplicate-value-free array.
 */
function baseUniq(array, isSorted, callback) {
  var index = -1,
      length = array ? array.length : 0,
      result = [],
      seen = [];

  while (++index < length) {
    var value = array[index],
        computed = callback ? callback(value, index, array) : value;

    if (isSorted
          ? (!index || seen[seen.length - 1] !== computed)
          : baseIndexOf(seen, computed) < 0
        ) {
      seen.push(computed);
      result.push(value);
    }
  }
  return result;
}

//@ compareAscending
/**
 * Used by `sortBy` to compare transformed `collection` values, stable sorting
 * them in ascending order.
 *
 * @private
 * @param {Object} a The object to compare to `b`.
 * @param {Object} b The object to compare to `a`.
 * @returns {Number} Returns the sort order indicator of `1` or `-1`.
 */
function compareAscending(a, b) {
  var ai = a.index,
      bi = b.index;

  a = a.criteria;
  b = b.criteria;

  if (a !== b) {
    if (a > b || a === undefined) {
      return 1;
    }
    if (a < b || b === undefined) {
      return -1;
    }
  }
  return ai < bi ? -1 : 1;
}

//@ createBound
/**
 * Creates a function that, when called, invokes `func` with the `this`
 * binding of `thisArg` and prepends any `partialArgs` to the arguments passed
 * to the bound function. If `func` is a string, the method is looked up on
 * `thisArg` at call time. If `keepThis` is truthy, the call-time `this`
 * binding is used instead of `thisArg`.
 *
 * @private
 * @param {Function|String} func The function to bind or the method name.
 * @param {Mixed} [thisArg] The `this` binding of `func`.
 * @param {Array} partialArgs An array of arguments to be partially applied.
 * @param {Boolean} [keepThis=false] A flag to use the call-time `this` binding.
 * @returns {Function} Returns the new bound function.
 */
function createBound(func, thisArg, partialArgs, keepThis) {
  var isFunc = typeof func == 'function',
      key = func;

  function bound() {
    var args = arguments,
        thisBinding = keepThis ? this : thisArg;

    if (!isFunc) {
      func = thisArg[key];
    }
    if (partialArgs.length) {
      args = args.length
        ? partialArgs.concat(slice.call(args))
        : partialArgs;
    }
    if (this instanceof bound) {
      // ensure `new bound` is an instance of `func`
      noop.prototype = func.prototype;
      thisBinding = new noop;
      noop.prototype = null;

      var result = func.apply(thisBinding, args);
      return (result && (typeof result == 'object' || typeof result == 'function'))
        ? result
        : thisBinding;
    }
    return func.apply(thisBinding, args);
  }
  return bound;
}

//@ baseMerge
/**
 * Recursively merges own enumerable properties of `source` into `object`,
 * tracking traversed sources in `stackA` and their merged counterparts in
 * `stackB` to handle circular references.
 *
 * @private
 * @param {Object} object The destination object.
 * @param {Object} source The source object.
 * @param {Array} stackA Tracks traversed source objects.
 * @param {Array} stackB Associates values with source counterparts.
 */
function baseMerge(object, source, stackA, stackB) {
  baseForOwn(source, function(srcValue, key) {
    var className = toString.call(srcValue),
        isArr = className == arrayClass;

    if (srcValue && (isArr || className == objectClass)) {
      var stackLength = stackA.length;
      while (stackLength--) {
        if (stackA[stackLength] == srcValue) {
          object[key] = stackB[stackLength];
          return;
        }
      }
      var value = object[key];
      if (isArr) {
        value = toString.call(value) == arrayClass ? value : [];
      } else {
        value = (value && toString.call(value) == objectClass) ? value : {};
      }
      stackA.push(srcValue);
      stackB.push(value);
      baseMerge(value, srcValue, stackA, stackB);
      object[key] = value;
    }
    else if (srcValue !== undefined) {
      object[key] = srcValue;
    }
  });
}

//@ escapeHtmlChar
/** Used to match HTML characters that should be escaped */
var reUnescapedHtml = /[&<>"']/g;

/** Used to convert characters to HTML entities */
var htmlEscapes = {
  '&': '&amp;',
  '<': '&lt;',
  '>': '&gt;',
  '"': '&quot;',
  "'": '&#x27;'
};

/**
 * Used by `escape` to convert characters to HTML entities.
 *
 * @private
 * @param {String} match The matched character to escape.
 * @returns {String} Returns the escaped character.
 */
function escapeHtmlChar(match) {
  return htmlEscapes[match];
}

//@ unescapeHtmlChar
/** Used to match HTML entities that should be unescaped */
var reEscapedHtml = /&(?:amp|lt|gt|quot|#x27);/g;

/** Used to convert HTML entities to characters */
var htmlUnescapes = {
  '&amp;': '&',
  '&lt;': '<',
  '&gt;': '>',
  '&quot;': '"',
  '&#x27;': "'"
};

/**
 * Used by `unescape` to convert HTML entities to characters.
 *
 * @private
 * @param {String} match The matched entity to unescape.
 * @returns {String} Returns the unescaped character.
 */
function unescapeHtmlChar(match) {
  return htmlUnescapes[match];
}

//@ oldDash
/** Used to restore the original `_` reference in `noConflict` */
var oldDash = window._;

//@ idCounter
/** Used to generate unique IDs */
var idCounter = 0;
"##

end CustomBuild.Packaged
