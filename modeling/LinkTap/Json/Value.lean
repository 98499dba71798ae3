import LinkTap.Decimal.Notation

/-!
# JSON values and their compact text

Objects keep their members in order; binary64 numbers are written by their shortest decimal.
-/

set_option autoImplicit false

namespace LinkTap.Json

inductive Value where
  | null
  | bool (b : Bool)
  | int (i : Int)
  | double (x : Decimal.Binary)
  | str (s : String)
  | arr (items : List Value)
  | obj (members : List (String × Value))
deriving Repr, Inhabited

/-- How numbers are written: positional from `1e-5` up to below `1e16`, whole numbers with
`.0`, exponents as `e+N` or `e-N`. -/
def doubleNotation : Decimal.Notation where
  leastPositional := -5
  greatestPositional := 15
  wholeSuffix := ".0"
  exponentMark := "e"
  positiveExponentSign := "+"

/-- Lowercase hex digit of a value below 16. -/
def hexDigit (n : Nat) : Char :=
  if n < 10 then Char.ofNat (48 + n) else Char.ofNat (87 + n)

def escapeChar (c : Char) : String :=
  if c = '"' then "\\\""
  else if c = '\\' then "\\\\"
  else if c = '\n' then "\\n"
  else if c = '\r' then "\\r"
  else if c = '\t' then "\\t"
  else if c.toNat = 8 then "\\b"
  else if c.toNat = 12 then "\\f"
  else if c.toNat < 32 then "\\u00" ++ String.singleton (hexDigit (c.toNat / 16)) ++
    String.singleton (hexDigit (c.toNat % 16))
  else String.singleton c

def quote (s : String) : String :=
  s.foldl (fun acc c => acc ++ escapeChar c) "\"" ++ "\""

mutual

/-- Appends the compact text of a value to `acc`. -/
def Value.writeTo (acc : String) : Value → String
  | .null => acc ++ "null"
  | .bool b => acc ++ (if b then "true" else "false")
  | .int i => acc ++ toString i
  | .double x => acc ++ ((doubleNotation.writeBinary x).getD "null")
  | .str s => acc ++ quote s
  | .arr items => writeItems (acc ++ "[") true items ++ "]"
  | .obj members => writeMembers (acc ++ "\x7b") true members ++ "\x7d"

def writeItems (acc : String) (first : Bool) : List Value → String
  | [] => acc
  | v :: rest => writeItems (v.writeTo (if first then acc else acc ++ ",")) false rest

/-- Appends object members as `"key":value`, separated by commas. -/
def writeMembers (acc : String) (first : Bool) : List (String × Value) → String
  | [] => acc
  | (key, v) :: rest =>
    writeMembers (v.writeTo ((if first then acc else acc ++ ",") ++ quote key ++ ":")) false rest

end

def Value.render (v : Value) : String := v.writeTo ""

end LinkTap.Json
