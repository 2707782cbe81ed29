/-!
# The packaged chaining.js

The fragments of the functions for chained calls.
-/

namespace CustomBuild.Packaged

/-- The text of the packaged `chaining.js`. -/
def chainingText : String := r##"//@ mixin
/**
 * Adds functions properties of `object` to the `lodash` function and chainable
 * wrapper.
 *
 * @static
 * @memberOf _
 * @category Chaining
 * @param {Object} object The object of function properties to add to `lodash`.
 */
function mixin(object) {
  baseEach(baseFunctions(object), function(methodName) {
    var func = lodash[methodName] = object[methodName];

    lodash.prototype[methodName] = function() {
      var args = [this.__wrapped__];
      push.apply(args, arguments);

      var result = func.apply(lodash, args);
      if (this.__chain__) {
        result = new lodash(result);
        result.__chain__ = true;
      }
      return result;
    };
  });
}

//@tail mixin
// add functions to `lodash.prototype`
mixin(lodash);

//@ chain
/**
 * Wraps the value in a `lodash` wrapper object.
 *
 * @static
 * @memberOf _
 * @category Chaining
 * @param {Mixed} value The value to wrap.
 * @returns {Object} Returns the wrapper object.
 */
function chain(value) {
  value = new lodash(value);
  value.__chain__ = true;
  return value;
}

/**
 * Enables method chaining on the wrapper object.
 *
 * @name chain
 * @memberOf _
 * @category Chaining
 * @returns {Mixed} Returns the wrapper object.
 */
function wrapperChain() {
  this.__chain__ = true;
  return this;
}

//@tail chain
lodash.prototype.chain = wrapperChain;

//@ tap
/**
 * Invokes `interceptor` with the `value` as the first argument, and then
 * returns `value`. The purpose of this method is to "tap into" a method chain,
 * in order to perform operations on intermediate results within the chain.
 *
 * @static
 * @memberOf _
 * @category Chaining
 * @param {Mixed} value The value to pass to `interceptor`.
 * @param {Function} interceptor The function to invoke.
 * @returns {Mixed} Returns `value`.
 */
function tap(value, interceptor) {
  interceptor(value);
  return value;
}

//@ value
/**
 * Extracts the wrapped value.
 *
 * @name value
 * @memberOf _
 * @category Chaining
 * @returns {Mixed} Returns the wrapped value.
 */
function wrapperValue() {
  return this.__wrapped__;
}

//@tail value
lodash.prototype.value = wrapperValue;
"##

end CustomBuild.Packaged
