/-!
# The packaged collections.js

The fragments of the functions on collections.
-/

namespace CustomBuild.Packaged

/-- The text of the packaged `collections.js`. -/
def collectionsText : String := r##"//@ contains
/**
 * Checks if a given `target` element is present in a `collection` using strict
 * equality for comparisons, i.e. `===`.
 *
 * @static
 * @memberOf _
 * @alias include
 * @category Collections
 * @param {Array|Object|String} collection The collection to iterate over.
 * @param {Mixed} target The value to check for.
 * @returns {Boolean} Returns `true` if the `target` element is found, else `false`.
 */
function contains(collection, target) {
  if (toString.call(collection) == stringClass) {
    return collection.indexOf(target) > -1;
  }
  var result = false;
  baseEach(collection, function(value) {
    return !(result = value === target);
  });
  return result;
}

//@ countBy
/**
 * Creates an object composed of keys returned from running each element of
 * `collection` through a `callback`. The corresponding value of each key is
 * the number of times the key was returned by `callback`.
 *
 * @static
 * @memberOf _
 * @category Collections
 * @param {Array|Object|String} collection The collection to iterate over.
 * @param {Function|String} callback|property The function called per iteration
 *  or property name to count by.
 * @param {Mixed} [thisArg] The `this` binding of `callback`.
 * @returns {Object} Returns the composed aggregate object.
 */
function countBy(collection, callback, thisArg) {
  var result = {};
  callback = createCallback(callback, thisArg);
  baseEach(collection, function(value, key, collection) {
    key = callback(value, key, collection);
    if (hasOwnProperty.call(result, key)) {
      result[key]++;
    } else {
      result[key] = 1;
    }
  });
  return result;
}

//@ every
/**
 * Checks if the `callback` returns a truthy value for **all** elements of a
 * `collection`.
 *
 * @static
 * @memberOf _
 * @alias all
 * @category Collections
 * @param {Array|Object|String} collection The collection to iterate over.
 * @param {Function} [callback=identity] The function called per iteration.
 * @param {Mixed} [thisArg] The `this` binding of `callback`.
 * @returns {Boolean} Returns `true` if all elements pass the callback check,
 *  else `false`.
 */
function every(collection, callback, thisArg) {
  var result = true;
  callback = createCallback(callback, thisArg);
  baseEach(collection, function(value, index, collection) {
    return (result = !!callback(value, index, collection));
  });
  return result;
}

//@ filter
/**
 * Examines each element in a `collection`, returning an array of all elements
 * the `callback` returns truthy for.
 *
 * @static
 * @memberOf _
 * @alias select
 * @category Collections
 * @param {Array|Object|String} collection The collection to iterate over.
 * @param {Function} [callback=identity] The function called per iteration.
 * @param {Mixed} [thisArg] The `this` binding of `callback`.
 * @returns {Array} Returns a new array of elements that passed the callback check.
 */
function filter(collection, callback, thisArg) {
  var result = [];
  callback = createCallback(callback, thisArg);
  baseEach(collection, function(value, index, collection) {
    if (callback(value, index, collection)) {
      result.push(value);
    }
  });
  return result;
}

//@ find
/**
 * Examines each element in a `collection`, returning the first one the
 * `callback` returns truthy for. The function returns as soon as it finds an
 * acceptable element, and does not iterate over the entire `collection`.
 *
 * @static
 * @memberOf _
 * @alias detect
 * @category Collections
 * @param {Array|Object|String} collection The collection to iterate over.
 * @param {Function} callback The function called per iteration.
 * @param {Mixed} [thisArg] The `this` binding of `callback`.
 * @returns {Mixed} Returns the element that passed the callback check,
 *  else `undefined`.
 */
function find(collection, callback, thisArg) {
  var result;
  callback = createCallback(callback, thisArg);
  baseEach(collection, function(value, index, collection) {
    if (callback(value, index, collection)) {
      result = value;
      return false;
    }
  });
  return result;
}

//@ forEach
/**
 * Iterates over a `collection`, executing the `callback` for each element in
 * the `collection`. The `callback` is bound to `thisArg` and invoked with three
 * arguments; (value, index|key, collection). Callbacks may exit iteration early
 * by explicitly returning `false`.
 *
 * @static
 * @memberOf _
 * @alias each
 * @category Collections
 * @param {Array|Object|String} collection The collection to iterate over.
 * @param {Function} callback The function called per iteration.
 * @param {Mixed} [thisArg] The `this` binding of `callback`.
 * @returns {Array|Object|String} Returns `collection`.
 */
function forEach(collection, callback, thisArg) {
  return baseEach(collection, createCallback(callback, thisArg));
}

//@ groupBy
/**
 * Creates an object composed of keys returned from running each element of
 * `collection` through a `callback`. The corresponding value of each key is an
 * array of elements passed to `callback` that returned the key.
 *
 * @static
 * @memberOf _
 * @category Collections
 * @param {Array|Object|String} collection The collection to iterate over.
 * @param {Function|String} callback|property The function called per iteration
 *  or property name to group by.
 * @param {Mixed} [thisArg] The `this` binding of `callback`.
 * @returns {Object} Returns the composed aggregate object.
 */
function groupBy(collection, callback, thisArg) {
  var result = {};
  callback = createCallback(callback, thisArg);
  baseEach(collection, function(value, key, collection) {
    key = callback(value, key, collection);
    (hasOwnProperty.call(result, key) ? result[key] : result[key] = []).push(value);
  });
  return result;
}

//@ invoke
/**
 * Invokes the method named by `methodName` on each element in the `collection`,
 * returning an array of the results of each invoked method. Additional arguments
 * will be passed to each invoked method. If `methodName` is a function it will
 * be invoked for, and `this` bound to, each element in the `collection`.
 *
 * @static
 * @memberOf _
 * @category Collections
 * @param {Array|Object|String} collection The collection to iterate over.
 * @param {Function|String} methodName The name of the method to invoke or
 *  the function invoked per iteration.
 * @param {Mixed} [arg1, arg2, ...] Arguments to invoke the method with.
 * @returns {Array} Returns a new array of the results of each invoked method.
 */
function invoke(collection, methodName) {
  var args = slice.call(arguments, 2),
      isFunc = typeof methodName == 'function',
      result = [];

  baseEach(collection, function(value) {
    result.push((isFunc ? methodName : value[methodName]).apply(value, args));
  });
  return result;
}

//@ map
/**
 * Creates an array of values by running each element in the `collection`
 * through a `callback`. The `callback` is bound to `thisArg` and invoked with
 * three arguments; (value, index|key, collection).
 *
 * @static
 * @memberOf _
 * @alias collect
 * @category Collections
 * @param {Array|Object|String} collection The collection to iterate over.
 * @param {Function} [callback=identity] The function called per iteration.
 * @param {Mixed} [thisArg] The `this` binding of `callback`.
 * @returns {Array} Returns a new array of the results of each `callback` execution.
 */
function map(collection, callback, thisArg) {
  var result = [];
  callback = createCallback(callback, thisArg);
  baseEach(collection, function(value, index, collection) {
    result.push(callback(value, index, collection));
  });
  return result;
}

//@ pluck
/**
 * Retrieves the value of a specified property from all elements in
 * the `collection`.
 *
 * @static
 * @memberOf _
 * @category Collections
 * @param {Array|Object|String} collection The collection to iterate over.
 * @param {String} property The property to pluck.
 * @returns {Array} Returns a new array of property values.
 */
function pluck(collection, property) {
  var result = [];
  baseEach(collection, function(value) {
    result.push(value == null ? undefined : value[property]);
  });
  return result;
}

//@ reduce
/**
 * Boils down a `collection` to a single value. The initial state of the
 * reduction is `accumulator` and each successive step of it should be returned
 * by the `callback`. The `callback` is bound to `thisArg` and invoked with 4
 * arguments; for arrays they are (accumulator, value, index|key, collection).
 *
 * @static
 * @memberOf _
 * @alias foldl, inject
 * @category Collections
 * @param {Array|Object|String} collection The collection to iterate over.
 * @param {Function} callback The function called per iteration.
 * @param {Mixed} [accumulator] Initial value of the accumulator.
 * @param {Mixed} [thisArg] The `this` binding of `callback`.
 * @returns {Mixed} Returns the accumulated value.
 */
function reduce(collection, callback, accumulator, thisArg) {
  var noaccum = arguments.length < 3;
  callback = createCallback(callback, thisArg);
  baseEach(collection, function(value, index, collection) {
    if (noaccum) {
      noaccum = false;
      accumulator = value;
    } else {
      accumulator = callback(accumulator, value, index, collection);
    }
  });
  return accumulator;
}

//@ reduceRight
/**
 * The right-associative version of `_.reduce`.
 *
 * @static
 * @memberOf _
 * @alias foldr
 * @category Collections
 * @param {Array|Object|String} collection The collection to iterate over.
 * @param {Function} callback The function called per iteration.
 * @param {Mixed} [accumulator] Initial value of the accumulator.
 * @param {Mixed} [thisArg] The `this` binding of `callback`.
 * @returns {Mixed} Returns the accumulated value.
 */
function reduceRight(collection, callback, accumulator, thisArg) {
  var iterable = collection,
      length = collection ? collection.length : 0,
      noaccum = arguments.length < 3,
      props;

  if (typeof length != 'number') {
    props = baseKeys(collection);
    length = props.length;
  } else if (toString.call(collection) == stringClass) {
    iterable = collection.split('');
  }
  callback = createCallback(callback, thisArg);
  while (length--) {
    var key = props ? props[length] : length;
    if (noaccum) {
      noaccum = false;
      accumulator = iterable[key];
    } else {
      accumulator = callback(accumulator, iterable[key], key, collection);
    }
  }
  return accumulator;
}

//@ reject
/**
 * The opposite of `_.filter`, this method returns the values of a
 * `collection` that `callback` does **not** return truthy for.
 *
 * @static
 * @memberOf _
 * @category Collections
 * @param {Array|Object|String} collection The collection to iterate over.
 * @param {Function} [callback=identity] The function called per iteration.
 * @param {Mixed} [thisArg] The `this` binding of `callback`.
 * @returns {Array} Returns a new array of elements that did **not** pass the
 *  callback check.
 */
function reject(collection, callback, thisArg) {
  var result = [];
  callback = createCallback(callback, thisArg);
  baseEach(collection, function(value, index, collection) {
    if (!callback(value, index, collection)) {
      result.push(value);
    }
  });
  return result;
}

//@ size
/**
 * Gets the size of the `collection` by returning `collection.length` for arrays
 * and array-like objects or the number of own enumerable properties for objects.
 *
 * @static
 * @memberOf _
 * @category Collections
 * @param {Array|Object|String} collection The collection to inspect.
 * @returns {Number} Returns `collection.length` or number of own enumerable properties.
 */
function size(collection) {
  var length = collection ? collection.length : 0;
  return typeof length == 'number' ? length : baseKeys(collection).length;
}

//@ some
/**
 * Checks if the `callback` returns a truthy value for **any** element of a
 * `collection`. The function returns as soon as it finds passing value, and
 * does not iterate over the entire `collection`.
 *
 * @static
 * @memberOf _
 * @alias any
 * @category Collections
 * @param {Array|Object|String} collection The collection to iterate over.
 * @param {Function} [callback=identity] The function called per iteration.
 * @param {Mixed} [thisArg] The `this` binding of `callback`.
 * @returns {Boolean} Returns `true` if any element passes the callback check,
 *  else `false`.
 */
function some(collection, callback, thisArg) {
  var result = false;
  callback = createCallback(callback, thisArg);
  baseEach(collection, function(value, index, collection) {
    return !(result = !!callback(value, index, collection));
  });
  return result;
}

//@ sortBy
/**
 * Creates an array, stable sorted in ascending order by the results of
 * running each element of `collection` through a `callback`.
 *
 * @static
 * @memberOf _
 * @category Collections
 * @param {Array|Object|String} collection The collection to iterate over.
 * @param {Function|String} callback|property The function called per iteration
 *  or property name to sort by.
 * @param {Mixed} [thisArg] The `this` binding of `callback`.
 * @returns {Array} Returns a new array of sorted elements.
 */
function sortBy(collection, callback, thisArg) {
  var result = [];
  callback = createCallback(callback, thisArg);
  baseEach(collection, function(value, index, collection) {
    result.push({
      'criteria': callback(value, index, collection),
      'index': result.length,
      'value': value
    });
  });

  var length = result.length;
  result.sort(compareAscending);
  while (length--) {
    result[length] = result[length].value;
  }
  return result;
}

//@ toArray
/**
 * Converts the `collection`, to an array.
 *
 * @static
 * @memberOf _
 * @category Collections
 * @param {Array|Object|String} collection The collection to convert.
 * @returns {Array} Returns the new converted array.
 */
function toArray(collection) {
  var length = collection ? collection.length : 0;
  if (typeof length == 'number') {
    return toString.call(collection) == stringClass
      ? collection.split('')
      : slice.call(collection);
  }
  return baseValues(collection);
}

//@ where
/**
 * Examines each element in a `collection`, returning an array of all elements
 * that contain the given `properties`.
 *
 * @static
 * @memberOf _
 * @category Collections
 * @param {Array|Object|String} collection The collection to iterate over.
 * @param {Object} properties The object of property values to filter by.
 * @returns {Array} Returns a new array of elements that contain the given `properties`.
 */
function where(collection, properties) {
  var props = baseKeys(properties),
      result = [];

  baseEach(collection, function(value) {
    var index = props.length,
        pass = true;

    while (index--) {
      if (!(pass = value != null && value[props[index]] === properties[props[index]])) {
        break;
      }
    }
    if (pass) {
      result.push(value);
    }
  });
  return result;
}
"##

end CustomBuild.Packaged
