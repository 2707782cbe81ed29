/-!
# The packaged functions.js

The fragments of the functions on functions.
-/

namespace CustomBuild.Packaged

/-- The text of the packaged `functions.js`. -/
def functionsText : String := r##"//@ after
/**
 * Creates a function that is restricted to executing `func` only after it is
 * called `n` times. The `func` is executed with the `this` binding of the
 * created function.
 *
 * @static
 * @memberOf _
 * @category Functions
 * @param {Number} n The number of times the function must be called before
 *  it is executed.
 * @param {Function} func The function to restrict.
 * @returns {Function} Returns the new restricted function.
 */
function after(n, func) {
  if (n < 1) {
    return func();
  }
  return function() {
    if (--n < 1) {
      return func.apply(this, arguments);
    }
  };
}

//@ bind
/**
 * Creates a function that, when called, invokes `func` with the `this`
 * binding of `thisArg` and prepends any additional `bind` arguments to those
 * passed to the bound function.
 *
 * @static
 * @memberOf _
 * @category Functions
 * @param {Function} func The function to bind.
 * @param {Mixed} [thisArg] The `this` binding of `func`.
 * @param {Mixed} [arg1, arg2, ...] Arguments to be partially applied.
 * @returns {Function} Returns the new bound function.
 */
function bind(func, thisArg) {
  return createBound(func, thisArg, slice.call(arguments, 2));
}

//@ bind underscore
/**
 * Creates a function that, when called, invokes `func` with the `this`
 * binding of `thisArg` and prepends any additional `bind` arguments to those
 * passed to the bound function. Defers to the native `Function#bind` when
 * it is available.
 *
 * @static
 * @memberOf _
 * @category Functions
 * @param {Function} func The function to bind.
 * @param {Mixed} [thisArg] The `this` binding of `func`.
 * @param {Mixed} [arg1, arg2, ...] Arguments to be partially applied.
 * @returns {Function} Returns the new bound function.
 */
function bind(func, thisArg) {
  if (nativeBind && func.bind === nativeBind) {
    return nativeBind.apply(func, slice.call(arguments, 1));
  }
  return createBound(func, thisArg, slice.call(arguments, 2));
}

//@ bindAll
/**
 * Binds methods on `object` to `object`, overwriting the existing method.
 * If no method names are provided, all the function properties of `object`
 * will be bound.
 *
 * @static
 * @memberOf _
 * @category Functions
 * @param {Object} object The object to bind and assign the bound methods to.
 * @param {String} [methodName1, methodName2, ...] Method names on the object to bind.
 * @returns {Object} Returns `object`.
 */
function bindAll(object) {
  var funcs = arguments.length > 1
        ? concat.apply([], slice.call(arguments, 1))
        : baseFunctions(object),
      index = -1,
      length = funcs.length;

  while (++index < length) {
    var key = funcs[index];
    object[key] = createBound(object[key], object, []);
  }
  return object;
}

//@ compose
/**
 * Creates a function that is the composition of the passed functions,
 * where each function consumes the return value of the function that follows.
 * In math terms, composing the functions `f()`, `g()`, and `h()` produces `f(g(h()))`.
 *
 * @static
 * @memberOf _
 * @category Functions
 * @param {Function} [func1, func2, ...] Functions to compose.
 * @returns {Function} Returns the new composed function.
 */
function compose() {
  var funcs = arguments;
  return function() {
    var args = arguments,
        length = funcs.length;

    while (length--) {
      args = [funcs[length].apply(this, args)];
    }
    return args[0];
  };
}

//@ debounce
/**
 * Creates a function that will delay the execution of `func` until after
 * `wait` milliseconds have elapsed since the last time it was invoked. Pass
 * `true` for `immediate` to cause debounce to invoke `func` on the leading,
 * instead of the trailing, edge of the `wait` timeout.
 *
 * @static
 * @memberOf _
 * @category Functions
 * @param {Function} func The function to debounce.
 * @param {Number} wait The number of milliseconds to delay.
 * @param {Boolean} immediate A flag to indicate execution is on the leading
 *  edge of the timeout.
 * @returns {Function} Returns the new debounced function.
 */
function debounce(func, wait, immediate) {
  var args,
      result,
      thisArg,
      timeoutId;

  function delayed() {
    timeoutId = null;
    if (!immediate) {
      result = func.apply(thisArg, args);
    }
  }
  return function() {
    var isImmediate = immediate && !timeoutId;
    args = arguments;
    thisArg = this;

    clearTimeout(timeoutId);
    timeoutId = setTimeout(delayed, wait);

    if (isImmediate) {
      result = func.apply(thisArg, args);
    }
    return result;
  };
}

//@ defer
/**
 * Defers executing the `func` function until the current call stack has cleared.
 * Additional arguments will be passed to `func` when it is invoked.
 *
 * @static
 * @memberOf _
 * @category Functions
 * @param {Function} func The function to defer.
 * @param {Mixed} [arg1, arg2, ...] Arguments to invoke the function with.
 * @returns {Number} Returns the `setTimeout` timeout id.
 */
function defer(func) {
  var args = slice.call(arguments, 1);
  return setTimeout(function() { func.apply(undefined, args); }, 1);
}

//@ delay
/**
 * Executes the `func` function after `wait` milliseconds. Additional arguments
 * will be passed to `func` when it is invoked.
 *
 * @static
 * @memberOf _
 * @category Functions
 * @param {Function} func The function to delay.
 * @param {Number} wait The number of milliseconds to delay execution.
 * @param {Mixed} [arg1, arg2, ...] Arguments to invoke the function with.
 * @returns {Number} Returns the `setTimeout` timeout id.
 */
function delay(func, wait) {
  var args = slice.call(arguments, 2);
  return setTimeout(function() { func.apply(undefined, args); }, wait);
}

//@ lateBind
/**
 * Creates a function that, when called, invokes `object[methodName]` and
 * prepends any additional `lateBind` arguments to those passed to the bound
 * function. This method differs from `_.bind` by allowing bound functions to
 * reference methods that will be redefined or don't yet exist.
 *
 * @static
 * @memberOf _
 * @category Functions
 * @param {Object} object The object the method belongs to.
 * @param {String} methodName The method name.
 * @param {Mixed} [arg1, arg2, ...] Arguments to be partially applied.
 * @returns {Function} Returns the new bound function.
 */
function lateBind(object, methodName) {
  return createBound(methodName, object, slice.call(arguments, 2));
}

//@ memoize
/**
 * Creates a function that memoizes the result of `func`. If `resolver` is
 * passed, it will be used to determine the cache key for storing the result
 * based on the arguments passed to the memoized function. By default, the first
 * argument passed to the memoized function is used as the cache key.
 *
 * @static
 * @memberOf _
 * @category Functions
 * @param {Function} func The function to have its output memoized.
 * @param {Function} [resolver] A function used to resolve the cache key.
 * @returns {Function} Returns the new memoizing function.
 */
function memoize(func, resolver) {
  var cache = {};
  return function() {
    var key = resolver ? resolver.apply(this, arguments) : arguments[0];
    return hasOwnProperty.call(cache, key)
      ? cache[key]
      : (cache[key] = func.apply(this, arguments));
  };
}

//@ once
/**
 * Creates a function that is restricted to execute `func` once. Repeat calls to
 * the function will return the value of the first call. The `func` is executed
 * with the `this` binding of the created function.
 *
 * @static
 * @memberOf _
 * @category Functions
 * @param {Function} func The function to restrict.
 * @returns {Function} Returns the new restricted function.
 */
function once(func) {
  var ran,
      result;

  return function() {
    if (ran) {
      return result;
    }
    ran = true;
    result = func.apply(this, arguments);

    // clear the `func` variable so the function may be garbage collected
    func = null;
    return result;
  };
}

//@ partial
/**
 * Creates a function that, when called, invokes `func` with any additional
 * `partial` arguments prepended to those passed to the new function. This
 * method is similar to `bind`, except it does **not** alter the `this` binding.
 *
 * @static
 * @memberOf _
 * @category Functions
 * @param {Function} func The function to partially apply arguments to.
 * @param {Mixed} [arg1, arg2, ...] Arguments to be partially applied.
 * @returns {Function} Returns the new partially applied function.
 */
function partial(func) {
  return createBound(func, undefined, slice.call(arguments, 1), true);
}

//@ throttle
/**
 * Creates a function that, when executed, will only call the `func`
 * function at most once per every `wait` milliseconds. If the throttled
 * function is invoked more than once during the `wait` timeout, `func` will
 * also be called on the trailing edge of the timeout.
 *
 * @static
 * @memberOf _
 * @category Functions
 * @param {Function} func The function to throttle.
 * @param {Number} wait The number of milliseconds to throttle executions to.
 * @returns {Function} Returns the new throttled function.
 */
function throttle(func, wait) {
  var args,
      result,
      thisArg,
      timeoutId,
      lastCalled = 0;

  function trailingCall() {
    lastCalled = new Date;
    timeoutId = null;
    result = func.apply(thisArg, args);
  }
  return function() {
    var now = new Date,
        remaining = wait - (now - lastCalled);

    args = arguments;
    thisArg = this;

    if (remaining <= 0) {
      clearTimeout(timeoutId);
      timeoutId = null;
      lastCalled = now;
      result = func.apply(thisArg, args);
    }
    else if (!timeoutId) {
      timeoutId = setTimeout(trailingCall, remaining);
    }
    return result;
  };
}

//@ wrap
/**
 * Creates a function that passes `value` to the `wrapper` function as its
 * first argument. Additional arguments passed to the function are appended
 * to those passed to the `wrapper` function. The `wrapper` is executed with
 * the `this` binding of the created function.
 *
 * @static
 * @memberOf _
 * @category Functions
 * @param {Mixed} value The value to wrap.
 * @param {Function} wrapper The wrapper function.
 * @returns {Function} Returns the new function.
 */
function wrap(value, wrapper) {
  return function() {
    var args = [value];
    push.apply(args, arguments);
    return wrapper.apply(this, args);
  };
}
"##

end CustomBuild.Packaged
