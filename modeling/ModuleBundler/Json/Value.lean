import ModuleBundler.Decimal.Shortest
import ModuleBundler.Json.Quote

/-!
# JSON values

Values and their two written forms: compact, and indented by two spaces.
-/

namespace ModuleBundler.Json

/-- Integers of 64 bits are exact; every other number is a float. -/
inductive Number where
  | natural (n : Nat)
  /-- The value `-n`, which is below zero. -/
  | negative (n : Nat)
  | float (x : Float)

/-- Floats are positional from `1e-5` up to below `1e16`. -/
def floatFormat : Decimal.FloatFormat := ⟨16, -5⟩

def Number.write : Number → String
  | .natural n => toString n
  | .negative n => "-" ++ toString n
  | .float x => floatFormat.write x

inductive Value where
  | null
  | bool (b : Bool)
  | number (n : Number)
  | string (s : String)
  | array (items : List Value)
  | object (members : List (String × Value))

namespace Value

instance : Inhabited Value := ⟨.null⟩

mutual

/-- The compact form, without any blanks. -/
def compact : Value → String
  | .null => "null"
  | .bool true => "true"
  | .bool false => "false"
  | .number n => n.write
  | .string s => quote s
  | .array items => "[" ++ compactItems items ++ "]"
  | .object members => "\x7b" ++ compactMembers members ++ "\x7d"

def compactItems : List Value → String
  | [] => ""
  | [v] => compact v
  | v :: r => compact v ++ "," ++ compactItems r

def compactMembers : List (String × Value) → String
  | [] => ""
  | [(k, v)] => quote k ++ ":" ++ compact v
  | (k, v) :: r => quote k ++ ":" ++ compact v ++ "," ++ compactMembers r

end

private def newline (depth : Nat) : String :=
  "\n" ++ String.ofList (List.replicate (2 * depth) ' ')

mutual

/-- The indented form, with one item or member a line. -/
def indented (depth : Nat) : Value → String
  | .array [] => "[]"
  | .object [] => "\x7b\x7d"
  | .array items => "[" ++ indentedItems (depth + 1) items ++ newline depth ++ "]"
  | .object members =>
    "\x7b" ++ indentedMembers (depth + 1) members ++ newline depth ++ "\x7d"
  | v => compact v

def indentedItems (depth : Nat) : List Value → String
  | [] => ""
  | [v] => newline depth ++ indented depth v
  | v :: r => newline depth ++ indented depth v ++ "," ++ indentedItems depth r

def indentedMembers (depth : Nat) : List (String × Value) → String
  | [] => ""
  | [(k, v)] => newline depth ++ quote k ++ ": " ++ indented depth v
  | (k, v) :: r =>
    newline depth ++ quote k ++ ": " ++ indented depth v ++ "," ++ indentedMembers depth r

end

def pretty (v : Value) : String := indented 0 v

/-- Puts a member at its place in the order of keys; a later value replaces an earlier one. -/
def insertMember (k : String) (v : Value) : List (String × Value) → List (String × Value)
  | [] => [(k, v)]
  | (k', v') :: r =>
    if k = k' then (k, v) :: r
    else if k < k' then (k, v) :: (k', v') :: r
    else (k', v') :: insertMember k v r

/-- Members in the order of their keys, each key with its last value. -/
def sortMembers (members : List (String × Value)) : List (String × Value) :=
  members.foldl (fun found (k, v) => insertMember k v found) []

/-! ## Layers -/

def member? (k : String) : List (String × Value) → Option Value
  | [] => none
  | (k', v) :: r => if k = k' then some v else member? k r

/-- Replaces a member at its place, or adds it at the end. -/
def setMember (k : String) (v : Value) : List (String × Value) → List (String × Value)
  | [] => [(k, v)]
  | (k', v') :: r => if k = k' then (k, v) :: r else (k', v') :: setMember k v r

mutual

/-- Lays a value over another one: objects are joined member by member, and anything else covers
what is below it. -/
def layer (lower : Value) : Value → Value
  | .object upper =>
    match lower with
    | .object members => .object (layerMembers members upper)
    | _ => .object upper
  | v => v

def layerMembers (lower : List (String × Value)) :
    List (String × Value) → List (String × Value)
  | [] => lower
  | (k, v) :: r =>
    layerMembers (setMember k ((member? k lower).elim v fun below => layer below v) lower) r

end

end Value

end ModuleBundler.Json
