/-
# Reckon.Function.Builtin — the built-in functions

Functions of one number that every formula can call and no formula can redefine. Several
have two names: `arcsin` is `asin`, and so on for all inverse functions, and `ln` is `log`,
the natural logarithm.
-/

namespace Reckon

/-- A built-in function of one number. -/
inductive Builtin where
  | sin | sinh | asin | asinh
  | cos | cosh | acos | acosh
  | tan | tanh | atan | atanh
  | sqrt | abs | log
deriving DecidableEq, Repr

namespace Builtin

/-- The names that are taken, each with what it is the name of. -/
def table : List (String × Builtin) :=
  [("sin", sin), ("sinh", sinh), ("arcsin", asin), ("asin", asin), ("arcsinh", asinh),
    ("asinh", asinh), ("cos", cos), ("cosh", cosh), ("arccos", acos), ("acos", acos),
    ("arccosh", acosh), ("acosh", acosh), ("tan", tan), ("tanh", tanh), ("arctan", atan),
    ("atan", atan), ("arctanh", atanh), ("atanh", atanh), ("sqrt", sqrt), ("abs", abs),
    ("ln", log), ("log", log)]

/-- Whether a name is taken by a built-in function. -/
def isName (name : String) : Bool :=
  (table.lookup name).isSome

/-- The inverse hyperbolic sine. It is the logarithm of a sum that leaves the range of
doubles for arguments in the upper half of the range, and then it is infinite. -/
def arsinh (x : Float) : Float :=
  let size := x.abs
  let inverse := 1.0 / size
  let sum := size + size / ((1.0 + inverse * inverse).sqrt + inverse)
  if sum.isInf then (if x < 0.0 then -sum else sum) else x.asinh

/-- The inverse hyperbolic cosine, as the logarithm of a sum. -/
def arcosh (x : Float) : Float :=
  if x < 1.0 then 0.0 / 0.0
  else (x + (x - 1.0).sqrt * (x + 1.0).sqrt).log

/-- The value of a built-in function. -/
def eval : Builtin → Float → Float
  | sin, x => x.sin
  | sinh, x => x.sinh
  | asin, x => x.asin
  | asinh, x => arsinh x
  | cos, x => x.cos
  | cosh, x => x.cosh
  | acos, x => x.acos
  | acosh, x => arcosh x
  | tan, x => x.tan
  | tanh, x => x.tanh
  | atan, x => x.atan
  | atanh, x => x.atanh
  | sqrt, x => x.sqrt
  | abs, x => x.abs
  | log, x => x.log

/-- The name with the two alternative spellings resolved: `ln` is `log`, and a leading
`arc` is `a`. -/
def plainName (name : String) : String :=
  if name = "ln" then "log"
  else
    match name.toList with
    | 'a' :: 'r' :: 'c' :: rest => String.ofList ('a' :: rest)
    | _ => name

/-- The function that a name stands for once its spelling is resolved. This is more than the
names that are taken: `arcbs` is `abs`, and calling it is still calling an unknown function. -/
def named? (name : String) : Option Builtin :=
  [("sin", sin), ("sinh", sinh), ("asin", asin), ("asinh", asinh), ("cos", cos),
    ("cosh", cosh), ("acos", acos), ("acosh", acosh), ("tan", tan), ("tanh", tanh),
    ("atan", atan), ("atanh", atanh), ("sqrt", sqrt), ("abs", abs), ("log", log)].lookup
    (plainName name)

/-- Applies the built-in function of a name, if there is one. -/
def evalNamed? (name : String) (x : Float) : Option Float :=
  (named? name).map fun f => f.eval x

end Builtin

end Reckon
