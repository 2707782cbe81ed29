/-!
# The packaged objects.js

The fragments of the functions on objects.
-/

namespace CustomBuild.Packaged

/-- The text of the packaged `objects.js`. -/
def objectsText : String := r##"//@ clone
/**
 * Creates a clone of `value`. If `deep` is `true`, all nested objects will
 * also be cloned otherwise they will be assigned by reference. Functions and
 * DOM nodes are **not** cloned. Circular references are tracked so the clone
 * reproduces the same structure.
 *
 * @static
 * @memberOf _
 * @category Objects
 * @param {Mixed} value The value to clone.
 * @param {Boolean} deep A flag to indicate a deep clone.
 * @param {Object} [guard] Internally used to allow this method to work with
 *  others like `_.map` without using their callback `index` argument for `deep`.
 * @param {Array} [stackA=[]] Internally used to track traversed objects.
 * @param {Array} [stackB=[]] Internally used to associate clones with their
 *  source counterparts.
 * @returns {Mixed} Returns the cloned `value`.
 */
function clone(value, deep, guard, stackA, stackB) {
  if (value == null || typeof value != 'object') {
    return value;
  }
  if (guard) {
    deep = false;
  }
  var className = toString.call(value);
  switch (className) {
    case boolClass:
    case dateClass:
      return new value.constructor(+value);

    case numberClass:
    case stringClass:
      return new value.constructor(value);

    case regexpClass:
      return RegExp(value.source, /\w*$/.exec(value));
  }
  var isArr = className == arrayClass;
  if (!isArr && className != objectClass && className != argsClass) {
    return value;
  }
  var result = isArr ? [] : {};
  if (deep) {
    stackA || (stackA = []);
    stackB || (stackB = []);

    var length = stackA.length;
    while (length--) {
      if (stackA[length] == value) {
        return stackB[length];
      }
    }
    stackA.push(value);
    stackB.push(result);
  }
  (isArr ? baseEach : baseForOwn)(value, function(objValue, key) {
    result[key] = deep ? clone(objValue, deep, null, stackA, stackB) : objValue;
  });
  return result;
}

//@ clone underscore
/**
 * Creates a shallow clone of `value`. Nested objects are assigned by
 * reference.
 *
 * @static
 * @memberOf _
 * @category Objects
 * @param {Mixed} value The value to clone.
 * @returns {Mixed} Returns the cloned `value`.
 */
function clone(value) {
  if (value == null || typeof value != 'object') {
    return value;
  }
  if (toString.call(value) == arrayClass) {
    return slice.call(value);
  }
  var result = {};
  baseForOwn(value, function(objValue, key) {
    result[key] = objValue;
  });
  return result;
}

//@ defaults
/**
 * Assigns enumerable properties of the default object(s) to the `destination`
 * object for all `destination` properties that resolve to `null`/`undefined`.
 * Once a property is set, additional defaults of the same property will be
 * ignored.
 *
 * @static
 * @memberOf _
 * @category Objects
 * @param {Object} object The destination object.
 * @param {Object} [default1, default2, ...] The default objects.
 * @returns {Object} Returns the destination object.
 */
function defaults(object) {
  if (!object) {
    return object;
  }
  var args = arguments,
      index = 0,
      length = args.length;

  while (++index < length) {
    baseForIn(args[index], function(value, key) {
      if (object[key] == null) {
        object[key] = value;
      }
    });
  }
  return object;
}

//@ extend
/**
 * Assigns enumerable properties of the source object(s) to the `destination`
 * object. Subsequent sources will overwrite propery assignments of previous
 * sources.
 *
 * @static
 * @memberOf _
 * @category Objects
 * @param {Object} object The destination object.
 * @param {Object} [source1, source2, ...] The source objects.
 * @returns {Object} Returns the destination object.
 */
function extend(object) {
  if (!object) {
    return object;
  }
  var args = arguments,
      index = 0,
      length = args.length;

  while (++index < length) {
    baseForIn(args[index], function(value, key) {
      object[key] = value;
    });
  }
  return object;
}

//@ forIn
/**
 * Iterates over `object`'s own and inherited enumerable properties, executing
 * the `callback` for each property. The `callback` is bound to `thisArg` and
 * invoked with three arguments; (value, key, object). Callbacks may exit
 * iteration early by explicitly returning `false`.
 *
 * @static
 * @memberOf _
 * @category Objects
 * @param {Object} object The object to iterate over.
 * @param {Function} callback The function called per iteration.
 * @param {Mixed} [thisArg] The `this` binding of `callback`.
 * @returns {Object} Returns `object`.
 */
function forIn(object, callback, thisArg) {
  return baseForIn(object, createCallback(callback, thisArg));
}

//@ forOwn
/**
 * Iterates over `object`'s own enumerable properties, executing the `callback`
 * for each property. The `callback` is bound to `thisArg` and invoked with three
 * arguments; (value, key, object). Callbacks may exit iteration early by
 * explicitly returning `false`.
 *
 * @static
 * @memberOf _
 * @category Objects
 * @param {Object} object The object to iterate over.
 * @param {Function} callback The function called per iteration.
 * @param {Mixed} [thisArg] The `this` binding of `callback`.
 * @returns {Object} Returns `object`.
 */
function forOwn(object, callback, thisArg) {
  return baseForOwn(object, createCallback(callback, thisArg));
}

//@ functions
/**
 * Creates a sorted array of all enumerable properties, own and inherited,
 * of `object` that have function values.
 *
 * @static
 * @memberOf _
 * @alias methods
 * @category Objects
 * @param {Object} object The object to inspect.
 * @returns {Array} Returns a new array of property names that have function values.
 */
function functions(object) {
  return baseFunctions(object);
}

//@ has
/**
 * Checks if the specified object `property` exists and is a direct property,
 * instead of an inherited property.
 *
 * @static
 * @memberOf _
 * @category Objects
 * @param {Object} object The object to check.
 * @param {String} property The property to check for.
 * @returns {Boolean} Returns `true` if key is a direct property, else `false`.
 */
function has(object, property) {
  return object ? hasOwnProperty.call(object, property) : false;
}

//@ invert
/**
 * Creates an object composed of the inverted keys and values of the given `object`.
 *
 * @static
 * @memberOf _
 * @category Objects
 * @param {Object} object The object to invert.
 * @returns {Object} Returns the created inverted object.
 */
function invert(object) {
  var result = {};
  baseForOwn(object, function(value, key) {
    result[value] = key;
  });
  return result;
}

//@ isArguments
/**
 * Checks if `value` is an `arguments` object.
 *
 * @static
 * @memberOf _
 * @category Objects
 * @param {Mixed} value The value to check.
 * @returns {Boolean} Returns `true` if the `value` is an `arguments` object, else `false`.
 */
function isArguments(value) {
  return toString.call(value) == argsClass;
}

//@ isArguments legacy
/**
 * Checks if `value` is an `arguments` object. Falls back to duck typing in
 * runtimes that do not report the `[[Class]]` of `arguments` objects.
 *
 * @static
 * @memberOf _
 * @category Objects
 * @param {Mixed} value The value to check.
 * @returns {Boolean} Returns `true` if the `value` is an `arguments` object, else `false`.
 */
function isArguments(value) {
  if (toString.call(value) == argsClass) {
    return true;
  }
  return !!(value && typeof value == 'object' && typeof value.length == 'number' &&
    hasOwnProperty.call(value, 'callee') && toString.call(value) != arrayClass);
}

//@ isArray
/**
 * Checks if `value` is an array.
 *
 * @static
 * @memberOf _
 * @category Objects
 * @param {Mixed} value The value to check.
 * @returns {Boolean} Returns `true` if the `value` is an array, else `false`.
 */
var isArray = nativeIsArray || function(value) {
  return toString.call(value) == arrayClass;
};

//@ isBoolean
/**
 * Checks if `value` is a boolean (`true` or `false`) value.
 *
 * @static
 * @memberOf _
 * @category Objects
 * @param {Mixed} value The value to check.
 * @returns {Boolean} Returns `true` if the `value` is a boolean value, else `false`.
 */
function isBoolean(value) {
  return value === true || value === false || toString.call(value) == boolClass;
}

//@ isDate
/**
 * Checks if `value` is a date.
 *
 * @static
 * @memberOf _
 * @category Objects
 * @param {Mixed} value The value to check.
 * @returns {Boolean} Returns `true` if the `value` is a date, else `false`.
 */
function isDate(value) {
  return toString.call(value) == dateClass;
}

//@ isElement
/**
 * Checks if `value` is a DOM element.
 *
 * @static
 * @memberOf _
 * @category Objects
 * @param {Mixed} value The value to check.
 * @returns {Boolean} Returns `true` if the `value` is a DOM element, else `false`.
 */
function isElement(value) {
  return value ? value.nodeType === 1 : false;
}

//@ isEmpty
/**
 * Checks if `value` is empty. Arrays, strings, or `arguments` objects with a
 * length of `0` and objects with no own enumerable properties are considered
 * "empty".
 *
 * @static
 * @memberOf _
 * @category Objects
 * @param {Array|Object|String} value The value to inspect.
 * @returns {Boolean} Returns `true` if the `value` is empty, else `false`.
 */
function isEmpty(value) {
  if (!value) {
    return true;
  }
  var className = toString.call(value);
  if (className == arrayClass || className == stringClass || className == argsClass) {
    return !value.length;
  }
  var result = true;
  baseForOwn(value, function() {
    return (result = false);
  });
  return result;
}

//@ isEqual
/**
 * Performs a deep comparison between two values to determine if they are
 * equivalent to each other. Circular references are compared structurally.
 *
 * @static
 * @memberOf _
 * @category Objects
 * @param {Mixed} a The value to compare.
 * @param {Mixed} b The other value to compare.
 * @param {Array} [stackA=[]] Internally used track traversed `a` objects.
 * @param {Array} [stackB=[]] Internally used track traversed `b` objects.
 * @returns {Boolean} Returns `true` if the values are equvalent, else `false`.
 */
function isEqual(a, b, stackA, stackB) {
  // exit early for identical values
  if (a === b) {
    // treat `+0` vs. `-0` as not equal
    return a !== 0 || (1 / a == 1 / b);
  }
  if (a == null || b == null) {
    return a === b;
  }
  var className = toString.call(a);
  if (className != toString.call(b)) {
    return false;
  }
  switch (className) {
    case boolClass:
    case dateClass:
      // coerce dates and booleans to numbers, dates to milliseconds and booleans
      // to `1` or `0`, treating invalid dates coerced to `NaN` as not equal
      return +a == +b;

    case numberClass:
      // treat `NaN` vs. `NaN` as equal
      return a != +a
        ? b != +b
        : (a == 0 ? (1 / a == 1 / b) : a == +b);

    case regexpClass:
    case stringClass:
      // coerce regexes to strings and treat strings primitives and string
      // objects as equal
      return a == b + '';
  }
  if (typeof a != 'object' || typeof b != 'object') {
    return false;
  }
  var isArr = className == arrayClass;
  if (!isArr && className != objectClass && className != argsClass) {
    return false;
  }
  stackA || (stackA = []);
  stackB || (stackB = []);

  var length = stackA.length;
  while (length--) {
    if (stackA[length] == a) {
      return stackB[length] == b;
    }
  }
  stackA.push(a);
  stackB.push(b);

  var result = true,
      size = 0;

  if (isArr) {
    size = a.length;
    result = size == b.length;
    while (result && size--) {
      result = isEqual(a[size], b[size], stackA, stackB);
    }
  } else {
    baseForOwn(a, function(value, key) {
      size++;
      return (result = hasOwnProperty.call(b, key) && isEqual(value, b[key], stackA, stackB));
    });
    if (result) {
      baseForOwn(b, function() {
        return (result = --size > -1);
      });
    }
  }
  stackA.pop();
  stackB.pop();
  return result;
}

//@ isFinite
/**
 * Checks if `value` is, or can be coerced to, a finite number.
 *
 * @static
 * @memberOf _
 * @category Objects
 * @param {Mixed} value The value to check.
 * @returns {Boolean} Returns `true` if the `value` is a finite number, else `false`.
 */
function isFinite(value) {
  var number = +value;
  return toString.call(value) == numberClass && number > -Infinity && number < Infinity;
}

//@ isFunction
/**
 * Checks if `value` is a function.
 *
 * @static
 * @memberOf _
 * @category Objects
 * @param {Mixed} value The value to check.
 * @returns {Boolean} Returns `true` if the `value` is a function, else `false`.
 */
function isFunction(value) {
  return typeof value == 'function';
}

//@ isNaN
/**
 * Checks if `value` is `NaN`. This is not the same as the native `isNaN`,
 * which will return `true` for `undefined` and other values.
 *
 * @static
 * @memberOf _
 * @category Objects
 * @param {Mixed} value The value to check.
 * @returns {Boolean} Returns `true` if the `value` is `NaN`, else `false`.
 */
function isNaN(value) {
  // `NaN` as a primitive is the only value that is not equal to itself
  return toString.call(value) == numberClass && value != +value;
}

//@ isNull
/**
 * Checks if `value` is `null`.
 *
 * @static
 * @memberOf _
 * @category Objects
 * @param {Mixed} value The value to check.
 * @returns {Boolean} Returns `true` if the `value` is `null`, else `false`.
 */
function isNull(value) {
  return value === null;
}

//@ isNumber
/**
 * Checks if `value` is a number.
 *
 * @static
 * @memberOf _
 * @category Objects
 * @param {Mixed} value The value to check.
 * @returns {Boolean} Returns `true` if the `value` is a number, else `false`.
 */
function isNumber(value) {
  return toString.call(value) == numberClass;
}

//@ isObject
/**
 * Checks if `value` is the language type of Object.
 * (e.g. arrays, functions, objects, regexes, `new Number(0)`, and `new String('')`)
 *
 * @static
 * @memberOf _
 * @category Objects
 * @param {Mixed} value The value to check.
 * @returns {Boolean} Returns `true` if the `value` is an object, else `false`.
 */
function isObject(value) {
  return !!value && (typeof value == 'object' || typeof value == 'function');
}

//@ isRegExp
/**
 * Checks if `value` is a regular expression.
 *
 * @static
 * @memberOf _
 * @category Objects
 * @param {Mixed} value The value to check.
 * @returns {Boolean} Returns `true` if the `value` is a regular expression, else `false`.
 */
function isRegExp(value) {
  return toString.call(value) == regexpClass;
}

//@ isString
/**
 * Checks if `value` is a string.
 *
 * @static
 * @memberOf _
 * @category Objects
 * @param {Mixed} value The value to check.
 * @returns {Boolean} Returns `true` if the `value` is a string, else `false`.
 */
function isString(value) {
  return toString.call(value) == stringClass;
}

//@ isUndefined
/**
 * Checks if `value` is `undefined`.
 *
 * @static
 * @memberOf _
 * @category Objects
 * @param {Mixed} value The value to check.
 * @returns {Boolean} Returns `true` if the `value` is `undefined`, else `false`.
 */
function isUndefined(value) {
  return typeof value == 'undefined';
}

//@ keys
/**
 * Creates an array composed of the own enumerable property names of `object`.
 *
 * @static
 * @memberOf _
 * @category Objects
 * @param {Object} object The object to inspect.
 * @returns {Array} Returns a new array of property names.
 */
function keys(object) {
  return baseKeys(object);
}

//@ merge
/**
 * Merges enumerable properties of the source object(s) into the `destination`
 * object. Subsequent sources will overwrite propery assignments of previous
 * sources. Nested arrays and plain objects are merged recursively.
 *
 * @static
 * @memberOf _
 * @category Objects
 * @param {Object} object The destination object.
 * @param {Object} [source1, source2, ...] The source objects.
 * @returns {Object} Returns the destination object.
 */
function merge(object) {
  if (!object) {
    return object;
  }
  var args = arguments,
      index = 0,
      length = args.length;

  while (++index < length) {
    baseMerge(object, args[index], [], []);
  }
  return object;
}

//@ omit
/**
 * Creates a shallow clone of `object` excluding the specified properties.
 * Property names may be specified as individual arguments or as arrays of
 * property names.
 *
 * @static
 * @memberOf _
 * @category Objects
 * @param {Object} object The source object.
 * @param {Object} [prop1, prop2, ...] The properties to omit.
 * @returns {Object} Returns an object without the omitted properties.
 */
function omit(object) {
  var props = concat.apply([], slice.call(arguments, 1)),
      result = {};

  baseForIn(object, function(value, key) {
    if (baseIndexOf(props, key) < 0) {
      result[key] = value;
    }
  });
  return result;
}

//@ pairs
/**
 * Creates a two dimensional array of the given object's key-value pairs,
 * i.e. `[[key1, value1], [key2, value2]]`.
 *
 * @static
 * @memberOf _
 * @category Objects
 * @param {Object} object The object to inspect.
 * @returns {Array} Returns new array of key-value pairs.
 */
function pairs(object) {
  var result = [];
  baseForOwn(object, function(value, key) {
    result.push([key, value]);
  });
  return result;
}

//@ pick
/**
 * Creates a shallow clone of `object` composed of the specified properties.
 * Property names may be specified as individual arguments or as arrays of
 * property names.
 *
 * @static
 * @memberOf _
 * @category Objects
 * @param {Object} object The source object.
 * @param {Object} [prop1, prop2, ...] The properties to pick.
 * @returns {Object} Returns an object composed of the picked properties.
 */
function pick(object) {
  var index = -1,
      props = concat.apply([], slice.call(arguments, 1)),
      length = props.length,
      result = {};

  if (object == null) {
    return result;
  }
  while (++index < length) {
    var prop = props[index];
    if (prop in Object(object)) {
      result[prop] = object[prop];
    }
  }
  return result;
}

//@ values
/**
 * Creates an array composed of the own enumerable property values of `object`.
 *
 * @static
 * @memberOf _
 * @category Objects
 * @param {Object} object The object to inspect.
 * @returns {Array} Returns a new array of property values.
 */
function values(object) {
  return baseValues(object);
}
"##

end CustomBuild.Packaged
