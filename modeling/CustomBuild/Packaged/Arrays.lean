/-!
# The packaged arrays.js

The fragments of the functions on arrays.
-/

namespace CustomBuild.Packaged

/-- The text of the packaged `arrays.js`. -/
def arraysText : String := r##"//@ compact
/**
 * Creates an array with all falsey values of `array` removed. The values
 * `false`, `null`, `0`, `""`, `undefined` and `NaN` are all falsey.
 *
 * @static
 * @memberOf _
 * @category Arrays
 * @param {Array} array The array to compact.
 * @returns {Array} Returns a new filtered array.
 */
function compact(array) {
  var index = -1,
      length = array ? array.length : 0,
      result = [];

  while (++index < length) {
    var value = array[index];
    if (value) {
      result.push(value);
    }
  }
  return result;
}

//@ difference
/**
 * Creates an array of `array` elements not present in the other arrays
 * using strict equality for comparisons, i.e. `===`.
 *
 * @static
 * @memberOf _
 * @category Arrays
 * @param {Array} array The array to process.
 * @param {Array} [array1, array2, ...] Arrays to check.
 * @returns {Array} Returns a new array of `array` elements not present in the
 *  other arrays.
 */
function difference(array) {
  var index = -1,
      length = array ? array.length : 0,
      flattened = concat.apply([], slice.call(arguments, 1)),
      result = [];

  while (++index < length) {
    var value = array[index];
    if (baseIndexOf(flattened, value) < 0) {
      result.push(value);
    }
  }
  return result;
}

//@ first
/**
 * Gets the first element of the `array`. Pass `n` to return the first `n`
 * elements of the `array`.
 *
 * @static
 * @memberOf _
 * @alias head, take
 * @category Arrays
 * @param {Array} array The array to query.
 * @param {Number} [n] The number of elements to return.
 * @param {Object} [guard] Internally used to allow this method to work with
 *  others like `_.map` without using their callback `index` argument for `n`.
 * @returns {Mixed} Returns the first element or an array of the first `n`
 *  elements of `array`.
 */
function first(array, n, guard) {
  if (array) {
    return (n == null || guard) ? array[0] : slice.call(array, 0, n);
  }
}

//@ flatten
/**
 * Flattens a nested array (the nesting can be to any depth). If `shallow` is
 * truthy, `array` will only be flattened a single level.
 *
 * @static
 * @memberOf _
 * @category Arrays
 * @param {Array} array The array to compact.
 * @param {Boolean} shallow A flag to indicate only flattening a single level.
 * @returns {Array} Returns a new flattened array.
 */
function flatten(array, shallow) {
  return baseFlatten(array, shallow);
}

//@ indexOf
/**
 * Gets the index at which the first occurrence of `value` is found using
 * strict equality for comparisons, i.e. `===`. If `fromIndex` is negative,
 * it is used as the offset from the end of the collection.
 *
 * @static
 * @memberOf _
 * @category Arrays
 * @param {Array} array The array to search.
 * @param {Mixed} value The value to search for.
 * @param {Number} [fromIndex=0] The index to search from.
 * @returns {Number} Returns the index of the matched value or `-1`.
 */
function indexOf(array, value, fromIndex) {
  var length = array ? array.length : 0;
  if (typeof fromIndex == 'number') {
    fromIndex = fromIndex < 0 ? Math.max(0, length + fromIndex) : fromIndex;
  } else {
    fromIndex = 0;
  }
  return baseIndexOf(array, value, fromIndex);
}

//@ initial
/**
 * Gets all but the last element of `array`. Pass `n` to exclude the last `n`
 * elements from the result.
 *
 * @static
 * @memberOf _
 * @category Arrays
 * @param {Array} array The array to query.
 * @param {Number} [n=1] The number of elements to exclude.
 * @param {Object} [guard] Internally used to allow this method to work with
 *  others like `_.map` without using their callback `index` argument for `n`.
 * @returns {Array} Returns all but the last element or `n` elements of `array`.
 */
function initial(array, n, guard) {
  if (!array) {
    return [];
  }
  var length = array.length;
  return slice.call(array, 0, Math.max(0, length - ((n == null || guard) ? 1 : n)));
}

//@ intersection
/**
 * Computes the intersection of all the passed-in arrays using strict equality
 * for comparisons, i.e. `===`.
 *
 * @static
 * @memberOf _
 * @category Arrays
 * @param {Array} [array1, array2, ...] Arrays to process.
 * @returns {Array} Returns a new array of unique elements, in order, that are
 *  present in **all** of the arrays.
 */
function intersection(array) {
  var args = arguments,
      argsLength = args.length,
      index = -1,
      length = array ? array.length : 0,
      result = [];

  outer:
  while (++index < length) {
    var value = array[index];
    if (baseIndexOf(result, value) < 0) {
      var argsIndex = argsLength;
      while (--argsIndex) {
        if (baseIndexOf(args[argsIndex], value) < 0) {
          continue outer;
        }
      }
      result.push(value);
    }
  }
  return result;
}

//@ last
/**
 * Gets the last element of the `array`. Pass `n` to return the last `n`
 * elements of the `array`.
 *
 * @static
 * @memberOf _
 * @category Arrays
 * @param {Array} array The array to query.
 * @param {Number} [n] The number of elements to return.
 * @param {Object} [guard] Internally used to allow this method to work with
 *  others like `_.map` without using their callback `index` argument for `n`.
 * @returns {Mixed} Returns the last element or an array of the last `n`
 *  elements of `array`.
 */
function last(array, n, guard) {
  if (array) {
    var length = array.length;
    return (n == null || guard)
      ? array[length - 1]
      : slice.call(array, Math.max(0, length - n));
  }
}

//@ lastIndexOf
/**
 * Gets the index at which the last occurrence of `value` is found using strict
 * equality for comparisons, i.e. `===`. If `fromIndex` is negative, it is used
 * as the offset from the end of the collection.
 *
 * @static
 * @memberOf _
 * @category Arrays
 * @param {Array} array The array to search.
 * @param {Mixed} value The value to search for.
 * @param {Number} [fromIndex=array.length-1] The index to search from.
 * @returns {Number} Returns the index of the matched value or `-1`.
 */
function lastIndexOf(array, value, fromIndex) {
  var index = array ? array.length : 0;
  if (typeof fromIndex == 'number') {
    index = (fromIndex < 0 ? Math.max(0, index + fromIndex) : Math.min(fromIndex, index - 1)) + 1;
  }
  while (index--) {
    if (array[index] === value) {
      return index;
    }
  }
  return -1;
}

//@ max
/**
 * Retrieves the maximum value of a `collection`. If `callback` is passed,
 * it will be executed for each value in the `collection` to generate the
 * criterion by which the value is ranked.
 *
 * @static
 * @memberOf _
 * @category Arrays
 * @param {Array|Object|String} collection The collection to iterate over.
 * @param {Function} [callback] The function called per iteration.
 * @param {Mixed} [thisArg] The `this` binding of `callback`.
 * @returns {Mixed} Returns the maximum value.
 */
function max(collection, callback, thisArg) {
  var computed = -Infinity,
      result = computed;

  callback = createCallback(callback, thisArg);
  baseEach(collection, function(value, index, collection) {
    var current = callback(value, index, collection);
    if (current > computed) {
      computed = current;
      result = value;
    }
  });
  return result;
}

//@ min
/**
 * Retrieves the minimum value of a `collection`. If `callback` is passed,
 * it will be executed for each value in the `collection` to generate the
 * criterion by which the value is ranked.
 *
 * @static
 * @memberOf _
 * @category Arrays
 * @param {Array|Object|String} collection The collection to iterate over.
 * @param {Function} [callback] The function called per iteration.
 * @param {Mixed} [thisArg] The `this` binding of `callback`.
 * @returns {Mixed} Returns the minimum value.
 */
function min(collection, callback, thisArg) {
  var computed = Infinity,
      result = computed;

  callback = createCallback(callback, thisArg);
  baseEach(collection, function(value, index, collection) {
    var current = callback(value, index, collection);
    if (current < computed) {
      computed = current;
      result = value;
    }
  });
  return result;
}

//@ object
/**
 * Creates an object composed from arrays of `keys` and `values`. Pass either
 * a single two dimensional array, i.e. `[[key1, value1], [key2, value2]]`, or
 * two arrays, one of `keys` and one of corresponding `values`.
 *
 * @static
 * @memberOf _
 * @category Arrays
 * @param {Array} keys The array of keys.
 * @param {Array} [values=[]] The array of values.
 * @returns {Object} Returns an object composed of the given keys and
 *  corresponding values.
 */
function object(keys, values) {
  var index = -1,
      length = keys ? keys.length : 0,
      result = {};

  while (++index < length) {
    var key = keys[index];
    if (values) {
      result[key] = values[index];
    } else {
      result[key[0]] = key[1];
    }
  }
  return result;
}

//@ range
/**
 * Creates an array of numbers (positive and/or negative) progressing from
 * `start` up to but not including `stop`. This method is a port of Python's
 * `range()` function.
 *
 * @static
 * @memberOf _
 * @category Arrays
 * @param {Number} [start=0] The start of the range.
 * @param {Number} end The end of the range.
 * @param {Number} [step=1] The value to increment or descrement by.
 * @returns {Array} Returns a new range array.
 */
function range(start, end, step) {
  start = +start || 0;
  step = +step || 1;

  if (end == null) {
    end = start;
    start = 0;
  }
  var index = -1,
      length = Math.max(0, Math.ceil((end - start) / step)),
      result = Array(length);

  while (++index < length) {
    result[index] = start;
    start += step;
  }
  return result;
}

//@ rest
/**
 * The opposite of `_.initial`, this method gets all but the first value of
 * `array`. Pass `n` to exclude the first `n` values from the result.
 *
 * @static
 * @memberOf _
 * @alias drop, tail
 * @category Arrays
 * @param {Array} array The array to query.
 * @param {Number} [n=1] The number of elements to exclude.
 * @param {Object} [guard] Internally used to allow this method to work with
 *  others like `_.map` without using their callback `index` argument for `n`.
 * @returns {Array} Returns all but the first value or `n` values of `array`.
 */
function rest(array, n, guard) {
  return array
    ? slice.call(array, (n == null || guard) ? 1 : n)
    : [];
}

//@ shuffle
/**
 * Creates an array of shuffled `array` values, using a version of the
 * Fisher-Yates shuffle. See http://en.wikipedia.org/wiki/Fisher-Yates_shuffle.
 *
 * @static
 * @memberOf _
 * @category Arrays
 * @param {Array|Object|String} collection The collection to shuffle.
 * @returns {Array} Returns a new shuffled collection.
 */
function shuffle(collection) {
  var index = -1,
      result = [];

  baseEach(collection, function(value) {
    var rand = Math.floor(Math.random() * (++index + 1));
    result[index] = result[rand];
    result[rand] = value;
  });
  return result;
}

//@ sortedIndex
/**
 * Uses a binary search to determine the smallest index at which the `value`
 * should be inserted into `array` in order to maintain the sort order of the
 * sorted `array`. If `callback` is passed, it will be executed for `value` and
 * each element in `array` to compute their sort ranking.
 *
 * @static
 * @memberOf _
 * @category Arrays
 * @param {Array} array The array to iterate over.
 * @param {Mixed} value The value to evaluate.
 * @param {Function|String} [callback=identity|property] The function called
 *  per iteration or property name to order by.
 * @param {Mixed} [thisArg] The `this` binding of `callback`.
 * @returns {Number} Returns the index at which the value should be inserted
 *  into `array`.
 */
function sortedIndex(array, value, callback, thisArg) {
  var low = 0,
      high = array ? array.length : low;

  callback = createCallback(callback, thisArg);
  value = callback(value);
  while (low < high) {
    var mid = (low + high) >>> 1;
    if (callback(array[mid]) < value) {
      low = mid + 1;
    } else {
      high = mid;
    }
  }
  return low;
}

//@ union
/**
 * Computes the union of the passed-in arrays using strict equality for
 * comparisons, i.e. `===`.
 *
 * @static
 * @memberOf _
 * @category Arrays
 * @param {Array} [array1, array2, ...] Arrays to process.
 * @returns {Array} Returns a new array of unique values, in order, that are
 *  present in one or more of the arrays.
 */
function union() {
  return baseUniq(concat.apply([], arguments), false);
}

//@ uniq
/**
 * Creates a duplicate-value-free version of the `array` using strict equality
 * for comparisons, i.e. `===`. If the `array` is already sorted, passing `true`
 * for `isSorted` will run a faster algorithm. If `callback` is passed, each
 * element of `array` is passed through a callback` before uniqueness is computed.
 *
 * @static
 * @memberOf _
 * @alias unique
 * @category Arrays
 * @param {Array} array The array to process.
 * @param {Boolean} [isSorted=false] A flag to indicate that the `array` is already sorted.
 * @param {Function} [callback=identity] The function called per iteration.
 * @param {Mixed} [thisArg] The `this` binding of `callback`.
 * @returns {Array} Returns a duplicate-value-free array.
 */
function uniq(array, isSorted, callback, thisArg) {
  if (typeof isSorted == 'function') {
    thisArg = callback;
    callback = isSorted;
    isSorted = false;
  }
  return baseUniq(array, isSorted, callback ? createCallback(callback, thisArg) : null);
}

//@ without
/**
 * Creates an array with all occurrences of the passed values removed using
 * strict equality for comparisons, i.e. `===`.
 *
 * @static
 * @memberOf _
 * @category Arrays
 * @param {Array} array The array to filter.
 * @param {Mixed} [value1, value2, ...] Values to remove.
 * @returns {Array} Returns a new filtered array.
 */
function without(array) {
  var index = -1,
      length = array ? array.length : 0,
      values = slice.call(arguments, 1),
      result = [];

  while (++index < length) {
    var value = array[index];
    if (baseIndexOf(values, value) < 0) {
      result.push(value);
    }
  }
  return result;
}

//@ zip
/**
 * Groups the elements of each array at their corresponding indexes. Useful for
 * separate data sources that are coordinated through matching array indexes.
 *
 * @static
 * @memberOf _
 * @category Arrays
 * @param {Array} [array1, array2, ...] Arrays to process.
 * @returns {Array} Returns a new array of grouped elements.
 */
function zip() {
  var args = arguments,
      argsLength = args.length,
      index = -1,
      length = 0;

  while (++index < argsLength) {
    if (args[index] && args[index].length > length) {
      length = args[index].length;
    }
  }
  var result = Array(length);
  index = -1;

  while (++index < length) {
    var tuple = result[index] = Array(argsLength),
        argsIndex = -1;

    while (++argsIndex < argsLength) {
      tuple[argsIndex] = args[argsIndex] ? args[argsIndex][index] : undefined;
    }
  }
  return result;
}
"##

end CustomBuild.Packaged
