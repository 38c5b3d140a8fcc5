import Webhookery.Go.Encoding
import Webhookery.Go.Float

/-!
# JSON

`encoding/json` as far as the modelled code uses it: the scanner with its nesting limit, decoding
into interface values (objects become maps, numbers become doubles, a number out of range is an
error that leaves the rest decoded), the lookups on decoded maps, and marshalling with Go's
escapes.
-/

namespace Webhookery.Go

/-! ## Syntax -/

/-- A number literal, `digits * 10 ^ exp10`; it is integral when it has neither a fraction nor an
exponent. -/
structure Decimal where
  neg : Bool
  digits : Nat
  exp10 : Int
  integral : Bool

/-- A JSON text, object members in order of appearance. -/
inductive Json where
  | null
  | bool (b : Bool)
  | num (literal : Decimal)
  | str (s : String)
  | arr (items : List Json)
  | obj (members : List (String × Json))

namespace Json

def isWhite (c : Char) : Bool := c = ' ' || c = '\t' || c = '\r' || c = '\n'

def skipSpace (cs : List Char) : List Char := cs.dropWhile isWhite

/-- The value of four hexadecimal digits. -/
def hex4 (a b c d : Char) : Option Nat := do
  let w ← hexValue a
  let x ← hexValue b
  let y ← hexValue c
  let z ← hexValue d
  return ((w * 16 + x) * 16 + y) * 16 + z

/-- The character of a one-letter escape. -/
def unescape : Char → Option Char
  | '"' => some '"'
  | '\\' => some '\\'
  | '/' => some '/'
  | 'b' => some '\x08'
  | 'f' => some '\x0c'
  | 'n' => some '\n'
  | 'r' => some '\r'
  | 't' => some '\t'
  | _ => none

def isHighSurrogate (n : Nat) : Bool := 0xD800 ≤ n && n < 0xDC00

def isLowSurrogate (n : Nat) : Bool := 0xDC00 ≤ n && n < 0xE000

/-- The rest of a string literal after its opening quote, and what follows it. A surrogate
without its partner becomes the replacement character. -/
def parseString : List Char → Option (List Char × List Char)
  | [] => none
  | '"' :: rest => some ([], rest)
  | '\\' :: 'u' :: a :: b :: c :: d :: rest => do
    let r ← hex4 a b c d
    let pair := match rest with
      | '\\' :: 'u' :: e :: f :: g :: h :: tail =>
        match hex4 e f g h, parseString tail with
        | some r', some (s, tail) =>
          if isHighSurrogate r && isLowSurrogate r' then
            some (Char.ofNat (0x10000 + (r - 0xD800) * 1024 + (r' - 0xDC00)) :: s, tail)
          else none
        | _, _ => none
      | _ => none
    match pair with
    | some out => some out
    | none => do
      let (s, tail) ← parseString rest
      return ((if isHighSurrogate r || isLowSurrogate r then runeError else Char.ofNat r) :: s, tail)
  | '\\' :: e :: rest => do
    let c ← unescape e
    let (s, tail) ← parseString rest
    return (c :: s, tail)
  | c :: rest =>
    if c.toNat < 0x20 then none
    else do
      let (s, tail) ← parseString rest
      return (c :: s, tail)

/-- Fraction digits after the point, none when there is a point without digits. -/
def parseFraction : List Char → Option (List Char × List Char)
  | '.' :: rest =>
    let digits := rest.takeWhile isDigit
    if digits.isEmpty then none else some (digits, rest.dropWhile isDigit)
  | cs => some ([], cs)

/-- The exponent part, none when it is absent and an error when it has no digits. -/
def parseExponent : List Char → Option (Option Int × List Char)
  | c :: rest =>
    if c = 'e' ∨ c = 'E' then
      let (neg, rest) := match rest with
        | '-' :: tail => (true, tail)
        | '+' :: tail => (false, tail)
        | tail => (false, tail)
      let digits := rest.takeWhile isDigit
      if digits.isEmpty then none
      else
        let n : Int := decimalValue digits
        some (some (if neg then -n else n), rest.dropWhile isDigit)
    else some (none, c :: rest)
  | [] => some (none, [])

/-- A number: no leading zeros, digits on both sides of a point. -/
def parseNumber (cs : List Char) : Option (Json × List Char) := do
  let (neg, cs) := match cs with
    | '-' :: rest => (true, rest)
    | rest => (false, rest)
  let (whole, cs) ← match cs with
    | '0' :: rest => some (['0'], rest)
    | c :: rest =>
      if isDigit c then some ((c :: rest).takeWhile isDigit, (c :: rest).dropWhile isDigit) else none
    | [] => none
  let (fraction, cs) ← parseFraction cs
  let (exp, cs) ← parseExponent cs
  return (.num {
    neg := neg
    digits := decimalValue (whole ++ fraction)
    exp10 := exp.getD 0 - fraction.length
    integral := fraction.isEmpty && exp.isNone }, cs)

mutual

/-- A value; `depth` is how many more containers may be opened. -/
def parseValue : Nat → Nat → List Char → Option (Json × List Char)
  | 0, _, _ => none
  | fuel + 1, depth, cs =>
    match skipSpace cs with
    | '{' :: rest =>
      if depth = 0 then none
      else
        match skipSpace rest with
        | '}' :: tail => some (.obj [], tail)
        | _ => (parseMembers fuel (depth - 1) rest).map fun (ms, tail) ↦ (.obj ms, tail)
    | '[' :: rest =>
      if depth = 0 then none
      else
        match skipSpace rest with
        | ']' :: tail => some (.arr [], tail)
        | _ => (parseElements fuel (depth - 1) rest).map fun (vs, tail) ↦ (.arr vs, tail)
    | '"' :: rest => (parseString rest).map fun (s, tail) ↦ (.str (String.ofList s), tail)
    | 't' :: 'r' :: 'u' :: 'e' :: rest => some (.bool true, rest)
    | 'f' :: 'a' :: 'l' :: 's' :: 'e' :: rest => some (.bool false, rest)
    | 'n' :: 'u' :: 'l' :: 'l' :: rest => some (.null, rest)
    | rest => parseNumber rest

/-- The elements of an array up to its closing bracket. -/
def parseElements : Nat → Nat → List Char → Option (List Json × List Char)
  | 0, _, _ => none
  | fuel + 1, depth, cs => do
    let (v, cs) ← parseValue fuel depth cs
    match skipSpace cs with
    | ',' :: rest =>
      let (vs, tail) ← parseElements fuel depth rest
      return (v :: vs, tail)
    | ']' :: rest => return ([v], rest)
    | _ => none

/-- The members of an object up to its closing brace. -/
def parseMembers : Nat → Nat → List Char → Option (List (String × Json) × List Char)
  | 0, _, _ => none
  | fuel + 1, depth, cs =>
    match skipSpace cs with
    | '"' :: rest => do
      let (key, cs) ← parseString rest
      let cs ← expectChar ':' (skipSpace cs)
      let (v, cs) ← parseValue fuel depth cs
      match skipSpace cs with
      | ',' :: rest =>
        let (ms, tail) ← parseMembers fuel depth rest
        return ((String.ofList key, v) :: ms, tail)
      | '}' :: rest => return ([(String.ofList key, v)], rest)
      | _ => none
    | _ => none

end

/-- The deepest nesting the decoder accepts. -/
def maxNestingDepth : Nat := 10000

/-- A whole JSON text. A call that consumes no character is followed by one that does, so twice
the length bounds the fuel. -/
def parse (cs : List Char) : Option Json :=
  match parseValue (2 * cs.length + 2) maxNestingDepth cs with
  | some (v, rest) => if (skipSpace rest).isEmpty then some v else none
  | none => none

end Json

/-! ## Interface values -/

/-- A value of type `any`; `null` is the nil interface. Maps are kept in key order, so equal maps
are equal lists. `raw` is a Go string made of arbitrary bytes and `nilMap` a map that was never
made. -/
inductive Value where
  | null
  | bool (b : Bool)
  | num (f : Float64)
  | str (s : String)
  | raw (b : Bytes)
  | arr (items : List Value)
  | nilMap
  | obj (members : List (String × Value))

abbrev Members := List (String × Value)

/-- A `map[string]any`; none is the nil map. -/
abbrev Map := Option Members

namespace Value

/-- Assignment to a map key. -/
def insertKey (key : String) (v : Value) : Members → Members
  | [] => [(key, v)]
  | (k, w) :: rest =>
    if key = k then (key, v) :: rest
    else if key < k then (key, v) :: (k, w) :: rest
    else (k, w) :: insertKey key v rest

/-- `m[key]` with the presence flag. -/
def find? (m : Map) (key : String) : Option Value := (m.getD []).lookup key

/-- `m[key]`, nil when absent. -/
def lookup (m : Map) (key : String) : Value := (find? m key).getD .null

/-- A map literal. -/
def ofMembers (members : Members) : Members :=
  members.foldl (fun m (k, v) ↦ insertKey k v m) []

/-- A map as an interface value. -/
def ofMap : Map → Value
  | none => .nilMap
  | some members => .obj members

/-- The type assertion to a map. -/
def asMap : Value → Option Map
  | .obj members => some (some members)
  | .nilMap => some none
  | _ => none

mutual

/-- The value a JSON text decodes to, and whether every number was in range. -/
def ofJson : Json → Value × Bool
  | .null => (.null, true)
  | .bool b => (.bool b, true)
  | .num literal =>
    match Float64.ofDecimal literal.neg literal.digits literal.exp10 with
    | some f => (.num f, true)
    | none => (.null, false)
  | .str s => (.str s, true)
  | .arr items => ((.arr (ofItems items).1), (ofItems items).2)
  | .obj members => (.obj (ofJsonMembers members []).1, (ofJsonMembers members []).2)

def ofItems : List Json → List Value × Bool
  | [] => ([], true)
  | j :: rest => ((ofJson j).1 :: (ofItems rest).1, (ofJson j).2 && (ofItems rest).2)

/-- Members are assigned in order, so the last of equal keys stays. -/
def ofJsonMembers : List (String × Json) → Members → Members × Bool
  | [], m => (m, true)
  | (k, j) :: rest, m =>
    let (out, ok) := ofJsonMembers rest (insertKey k (ofJson j).1 m)
    (out, (ofJson j).2 && ok)

end

/-- `json.Unmarshal` into a `map[string]any`: the map and whether there was no error. A number out
of range is an error, but the map is filled. -/
def unmarshalMap (body : Bytes) : Map × Bool :=
  match Json.parse (decodeFrom 0 body) with
  | some .null => (none, true)
  | some (.obj members) => (some (ofJsonMembers members []).1, (ofJsonMembers members []).2)
  | _ => (none, false)

/-- The string in an interface value, empty for other types. -/
def asString : Value → String
  | .str s => s
  | _ => ""

/-! ## Marshalling -/

/-- The escape of one character, HTML characters included. -/
def escapeChar (c : Char) : List Char :=
  if c = '"' then ['\\', '"']
  else if c = '\\' then ['\\', '\\']
  else if c = '\x08' then ['\\', 'b']
  else if c = '\x0c' then ['\\', 'f']
  else if c = '\n' then ['\\', 'n']
  else if c = '\r' then ['\\', 'r']
  else if c = '\t' then ['\\', 't']
  else if c.toNat < 0x20 ∨ c = '<' ∨ c = '>' ∨ c = '&' then
    ['\\', 'u', '0', '0', hexDigit (c.toNat / 16), hexDigit (c.toNat % 16)]
  else if c.toNat = 0x2028 then ['\\', 'u', '2', '0', '2', '8']
  else if c.toNat = 0x2029 then ['\\', 'u', '2', '0', '2', '9']
  else [c]

/-- The escapes of a string made of bytes: a byte that is not UTF-8 is written `\ufffd`. -/
def escapeBytes : Nat → Bytes → List Char
  | _, [] => []
  | skip + 1, _ :: rest => escapeBytes skip rest
  | 0, b :: rest =>
    let (c, width) := decodeRune b rest
    (if c = runeError && width == 1 then ['\\', 'u', 'f', 'f', 'f', 'd'] else escapeChar c) ++
      escapeBytes (width - 1) rest

def quote (cs : List Char) : List Char := '"' :: cs ++ ['"']

mutual

/-- `json.Marshal` of a decoded value, as characters. -/
def marshalChars : Value → List Char
  | .null => "null".toList
  | .bool true => "true".toList
  | .bool false => "false".toList
  | .num f => f.jsonChars
  | .str s => quote (s.toList.flatMap escapeChar)
  | .raw b => quote (escapeBytes 0 b)
  | .arr items => '[' :: marshalItems items ++ [']']
  | .nilMap => "null".toList
  | .obj members => '\x7b' :: marshalMembers members ++ ['\x7d']

def marshalItems : List Value → List Char
  | [] => []
  | [v] => marshalChars v
  | v :: rest => marshalChars v ++ ',' :: marshalItems rest

def marshalMembers : List (String × Value) → List Char
  | [] => []
  | [(k, v)] => quote (k.toList.flatMap escapeChar) ++ ':' :: marshalChars v
  | (k, v) :: rest =>
    quote (k.toList.flatMap escapeChar) ++ ':' :: marshalChars v ++ ',' :: marshalMembers rest

end

/-- The bytes of `json.Marshal`. -/
def marshal (v : Value) : Bytes := utf8Encode (marshalChars v)

mutual

/-- `fmt.Sprint` of a decoded value. -/
def sprintChars : Value → List Char
  | .null => "<nil>".toList
  | .bool true => "true".toList
  | .bool false => "false".toList
  | .num f => f.verbChars
  | .str s => s.toList
  | .raw b => decodeFrom 0 b
  | .arr items => '[' :: sprintItems items ++ [']']
  | .nilMap => "map[]".toList
  | .obj members => "map[".toList ++ sprintMembers members ++ [']']

def sprintItems : List Value → List Char
  | [] => []
  | [v] => sprintChars v
  | v :: rest => sprintChars v ++ ' ' :: sprintItems rest

def sprintMembers : List (String × Value) → List Char
  | [] => []
  | [(k, v)] => k.toList ++ ':' :: sprintChars v
  | (k, v) :: rest => k.toList ++ ':' :: sprintChars v ++ ' ' :: sprintMembers rest

end

end Value

end Webhookery.Go
