import AgentComm.Lib.Dict
import AgentComm.Lib.Fallible
import Mathlib.Algebra.Order.Field.Rat

/-!
# The values the program computes with

Strings, JSON values and exceptions as the interpreter has them, and the library functions whose
results the program only passes on: `json`, `int`, `float`, `parse_qs` and text renderings are
parameters, gathered in `Python`.
-/

namespace AgentComm

open Lib

/-- A `str`: its code points, lone surrogates included. -/
abbrev PyStr := List ℕ

def lit (s : String) : PyStr := s.toList.map Char.toNat

def intText (n : ℤ) : PyStr := lit (toString n)

/-- A text with a lone surrogate has no UTF-8 form. -/
def encodable (s : PyStr) : Bool := s.all fun c => !(0xD800 ≤ c && c ≤ 0xDFFF)

/-- `s.split(sep, 1)`, as a pair: all of `s` and nothing if `sep` does not occur. -/
def splitOnce (sep : ℕ) : PyStr → PyStr × Option PyStr
  | [] => ([], none)
  | c :: s =>
    if c = sep then ([], some s)
    else ((c :: (splitOnce sep s).1), (splitOnce sep s).2)

/-- `s.split(sep)`. -/
def splitAll (sep : ℕ) : PyStr → List PyStr
  | [] => [[]]
  | c :: s =>
    if c = sep then [] :: splitAll sep s
    else match splitAll sep s with
      | [] => [[c]]
      | w :: ws => (c :: w) :: ws

/-- The code points `str.strip` removes. -/
def isSpace (c : ℕ) : Bool :=
  (9 ≤ c && c ≤ 13) || (28 ≤ c && c ≤ 32) || c = 0x85 || c = 0xA0 || c = 0x1680
    || (0x2000 ≤ c && c ≤ 0x200A) || c = 0x2028 || c = 0x2029 || c = 0x202F || c = 0x205F
    || c = 0x3000

def strip (s : PyStr) : PyStr := ((s.dropWhile isSpace).reverse.dropWhile isSpace).reverse

/-- A `float`. -/
inductive PyFloat
  | finite (q : ℚ)
  | negZero
  | inf (neg : Bool)
  | nan
deriving DecidableEq

namespace PyFloat

/-- `x + q` -/
def add (q : ℚ) : PyFloat → PyFloat
  | finite r => finite (r + q)
  | negZero => finite q
  | inf neg => inf neg
  | nan => nan

/-- `q <= x` -/
def ge (q : ℚ) : PyFloat → Bool
  | finite r => decide (q ≤ r)
  | negZero => decide (q ≤ 0)
  | inf neg => !neg
  | nan => false

/-- `x <= q` -/
def le (q : ℚ) : PyFloat → Bool
  | finite r => decide (r ≤ q)
  | negZero => decide (0 ≤ q)
  | inf neg => neg
  | nan => false

def truthy : PyFloat → Bool
  | finite r => decide (r ≠ 0)
  | negZero => false
  | inf _ => true
  | nan => true

/-- `max(0.0, min(bound, x))` for a positive bound: a comparison with `nan` is false, so `min`
keeps its first argument. -/
def clamp (bound : ℚ) : PyFloat → ℚ
  | finite r => max 0 (min bound r)
  | negZero => 0
  | inf neg => if neg then 0 else bound
  | nan => bound

/-- `q < x` -/
def gt (q : ℚ) : PyFloat → Bool
  | finite r => decide (q < r)
  | negZero => decide (q < 0)
  | inf neg => !neg
  | nan => false

/-- `x < y` -/
def lt : PyFloat → PyFloat → Bool
  | finite q, y => y.gt q
  | negZero, y => y.gt 0
  | inf neg, y => neg && y ≠ inf true && y ≠ nan
  | nan, _ => false

/-- `x * 2` -/
def double : PyFloat → PyFloat
  | finite r => finite (r * 2)
  | negZero => negZero
  | inf neg => inf neg
  | nan => nan

/-- `min(x, y)`: the first unless the second is smaller. -/
def pyMin (x y : PyFloat) : PyFloat := if y.lt x then y else x

end PyFloat

/-- What `json.loads` returns and `json.dumps` takes. -/
inductive Json
  | null
  | bool (b : Bool)
  | int (n : ℤ)
  | float (x : PyFloat)
  | str (s : PyStr)
  | arr (xs : List Json)
  | obj (kvs : List (PyStr × Json))

abbrev Fields := List (PyStr × Json)

/-- `data.get(name)` -/
def Fields.get (data : Fields) (name : PyStr) : Json := (Pairs.get? name data).getD .null

/-- `name in data` -/
def Fields.has (data : Fields) (name : PyStr) : Bool := (Pairs.get? name data).isSome

namespace Json

def truthy : Json → Bool
  | null => false
  | bool b => b
  | int n => n ≠ 0
  | float x => x.truthy
  | str s => s ≠ []
  | arr xs => !xs.isEmpty
  | obj kvs => !kvs.isEmpty

/-- The value of an `int`; a `bool` is one. -/
def asInt? : Json → Option ℤ
  | int n => some n
  | bool b => some (if b then 1 else 0)
  | _ => none

def asStr? : Json → Option PyStr
  | str s => some s
  | _ => none

end Json

/-- The exception classes the program raises or catches. -/
inductive ExcKind
  | jsonDecodeError
  | valueError
  | overflowError
  | unicodeDecodeError
  | unicodeEncodeError
  | typeError
  | recursionError
  | osError
  | timeoutError
  | httpException
  | validationError
  | unsupportedVersionError
  | transportError
  | agentNotFoundError
  | transportTimeoutError
  | deliveryError
deriving DecidableEq

/-- An exception: its class and its text. -/
structure Exc where
  kind : ExcKind
  text : PyStr
deriving DecidableEq

namespace Exc

def isValueError (e : Exc) : Bool :=
  e.kind ∈ [.jsonDecodeError, .valueError, .unicodeDecodeError, .unicodeEncodeError]

def isOSError (e : Exc) : Bool := e.kind ∈ [.osError, .timeoutError, .transportTimeoutError]

def isProtocolError (e : Exc) : Bool := e.kind ∈ [.validationError, .unsupportedVersionError]

def isTransportError (e : Exc) : Bool :=
  e.kind ∈ [.transportError, .agentNotFoundError, .transportTimeoutError, .deliveryError]

end Exc

/-- The exception that a call raises, if it does. -/
def errorOf {α : Type} : Except Exc α → Option Exc
  | .error e => some e
  | .ok _ => none

/-- A dictionary key: a hashable JSON value. -/
inductive Key
  | str (s : PyStr)
  | none
  | bool (b : Bool)
  | int (n : ℤ)
  | float (x : PyFloat)
deriving DecidableEq

/-- The number a key is, when it is a finite one. -/
def Key.number? : Key → Option ℚ
  | bool b => some (if b then 1 else 0)
  | int n => some n
  | float (.finite q) => some q
  | float .negZero => some 0
  | _ => Option.none

/-- `==` on keys: numbers compare by value, whatever their type, and `nan` equals nothing. -/
def Key.same (k k' : Key) : Bool :=
  match k.number?, k'.number? with
  | some q, some q' => q = q'
  | Option.none, Option.none => k = k' && k ≠ .float .nan
  | _, _ => false

/-- The interpreter's library functions. -/
structure Python where
  jsonLoads : PyStr → Except Exc Json
  jsonDumps : Json → PyStr
  utf8Decode : List UInt8 → Except Exc PyStr
  int : PyStr → Except Exc ℤ
  float : PyStr → Except Exc PyFloat
  /-- `repr` -/
  repr : Json → PyStr
  /-- `str` of a float, as `json.dumps` also writes it -/
  floatText : PyFloat → PyStr
  parseQsl : PyStr → List (PyStr × PyStr)
  /-- the checks `urlsplit` makes of a network location with both brackets, or none -/
  netlocOk : PyStr → Bool

variable (P : Python)

/-- `str(v)` of a JSON value in an f-string. -/
def pyText : Json → PyStr
  | .str s => s
  | v => P.repr v

/-- The text `json.dumps` writes for a key. -/
def Key.text : Key → PyStr
  | str s => s
  | none => lit "null"
  | bool b => if b then lit "true" else lit "false"
  | int n => intText n
  | float x => P.floatText x

/-- `d[k] = v`, the first of equal keys kept. -/
def keySet (d : List (Key × Json)) (k : Key) (v : Json) : List (Key × Json) :=
  if d.any (·.1.same k) then d.map fun e => if e.1.same k then (e.1, v) else e
  else d ++ [(k, v)]

/-- The key a value is, or the `TypeError` of an unhashable one. -/
def Json.toKey : Json → Except Exc Key
  | .null => .ok .none
  | .bool b => .ok (.bool b)
  | .int n => .ok (.int n)
  | .float x => .ok (.float x)
  | .str s => .ok (.str s)
  | .arr _ => .error ⟨.typeError, lit "unhashable type: 'list'"⟩
  | .obj _ => .error ⟨.typeError, lit "unhashable type: 'dict'"⟩

/-- One element of the sequence `dict` is built from: two values, in any iterable of two. -/
def dictItem : Json → Except Exc (Key × Json)
  | .arr [k, v] => k.toKey.map (·, v)
  | .str [c, c'] => .ok (.str [c], .str [c'])
  | .obj [e, e'] => .ok (.str e.1, .str e'.1)
  | .arr _ | .str _ | .obj _ =>
    .error ⟨.valueError, lit "dictionary update sequence element is not of length 2"⟩
  | _ => .error ⟨.typeError, lit "cannot convert dictionary update sequence element to a sequence"⟩

/-- `dict(x)` of a JSON value. -/
def pyDict : Json → Except Exc (List (Key × Json))
  | .obj kvs => .ok (kvs.map fun e => (.str e.1, e.2))
  | .arr xs => xs.foldlM (fun d x => (dictItem x).map fun e => keySet d e.1 e.2) []
  | .str s => s.foldlM (fun d c => (dictItem (.str [c])).map fun e => keySet d e.1 e.2) []
  | _ => .error ⟨.typeError, lit "object is not iterable"⟩

/-! ### An interpreter for plain inputs -/

mutual

/-- `json.dumps` of values whose texts have nothing to escape. -/
def jsonText : Json → PyStr
  | .null => lit "null"
  | .bool b => if b then lit "true" else lit "false"
  | .int n => intText n
  | .float _ => lit "NaN"
  | .str s => lit "\"" ++ s ++ lit "\""
  | .arr xs => lit "[" ++ itemsText xs ++ lit "]"
  | .obj kvs => lit "\x7b" ++ pairsText kvs ++ lit "\x7d"

def itemsText : List Json → PyStr
  | [] => []
  | x :: xs => jsonText x ++ (if xs.isEmpty then [] else lit ", ") ++ itemsText xs

def pairsText : List (PyStr × Json) → PyStr
  | [] => []
  | (k, v) :: kvs => lit "\"" ++ k ++ lit "\": " ++ jsonText v
      ++ (if kvs.isEmpty then [] else lit ", ") ++ pairsText kvs

end

def digits? (s : PyStr) : Option ℕ :=
  if s = [] then none
  else s.foldl (fun n c => n.bind fun n =>
    if 48 ≤ c ∧ c ≤ 57 then some (10 * n + (c - 48)) else none) (some 0)

/-- An interpreter that reads the JSON texts of a table, decimal numbers and plain ASCII. -/
def plainPython (texts : List (PyStr × Json)) : Python where
  jsonLoads s := match Pairs.get? s texts with
    | some v => .ok v
    | none => .error ⟨.jsonDecodeError, lit "Expecting value: line 1 column 1 (char 0)"⟩
  jsonDumps := jsonText
  utf8Decode bytes := .ok (bytes.map UInt8.toNat)
  int s := match digits? s with
    | some n => .ok n
    | none => .error ⟨.valueError, lit "invalid literal for int() with base 10"⟩
  float s := match digits? s with
    | some n => .ok (.finite n)
    | none => .error ⟨.valueError, lit "could not convert string to float"⟩
  repr := jsonText
  floatText _ := lit "NaN"
  parseQsl query := (splitAll 38 query).filterMap fun field =>
    match splitOnce 61 field with
    | (name, some (c :: value)) => some (name, c :: value)
    | _ => none
  netlocOk _ := true

theorem plainPython_loads (s : PyStr) (v : Json) :
    (plainPython [(s, v)]).jsonLoads s = .ok v := by
  simp [plainPython, Pairs.get?]

end AgentComm
