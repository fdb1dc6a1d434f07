import ModuleBundler.Json.Document
import ModuleBundler.Text.Literal

/-!
# Shapes of documents

A document is decoded in its own order, so that the first objection to it is the one reported,
whether it is that the text breaks off or that a value has the wrong shape.
-/

namespace ModuleBundler.Json

/-- Why a document cannot be decoded. -/
inductive Mismatch where
  | fault (f : FaultAt)
  /-- `index` is where the value is, in bytes from the beginning of the text. -/
  | type (found expected : String) (index : Nat)
  | value (found expected : String)
  | length (count : Nat) (expected : String)
  | unknownField (name : String) (known : List String)
  | duplicateField (name : String)
  | missingField (name : String)
  | noVariant (name : String)
  | other (reason : String)

namespace Mismatch

private def ticked (name : String) : String := "\x60" ++ name ++ "\x60"

private def alternatives : List String → String
  | [] => "there are no fields"
  | [a] => "expected " ++ ticked a
  | [a, b] => "expected " ++ ticked a ++ " or " ++ ticked b
  | names => "expected one of " ++ ", ".intercalate (names.map ticked)

/-- What is wrong, without the place. -/
def reason : Mismatch → String
  | .fault f => f.fault.message
  | .type found expected _ => "invalid type: " ++ found ++ ", expected " ++ expected
  | .value found expected => "invalid value: " ++ found ++ ", expected " ++ expected
  | .length count expected =>
    "invalid length " ++ toString count ++ ", expected " ++ expected
  | .unknownField name known => "unknown field " ++ ticked name ++ ", " ++ alternatives known
  | .duplicateField name => "duplicate field " ++ ticked name
  | .missingField name => "missing field " ++ ticked name
  | .noVariant name => "data did not match any variant of untagged enum " ++ name
  | .other reason => reason

/-- What is wrong, with the place where it is known. -/
def message (text : String) : Mismatch → String
  | .fault f => f.message text.toList
  | .type found expected index =>
    atPosition text.toList (reason (.type found expected index)) index
  | m => m.reason

end Mismatch

namespace Document

/-- How a value is named where another one was expected. -/
def describe : Document → String
  | .null _ => "null"
  | .bool b _ => "boolean \x60" ++ toString b ++ "\x60"
  | .number (.ok (.float x)) _ => "floating point \x60" ++ floatFormat.write x ++ "\x60"
  | .number (.ok n) _ => "integer \x60" ++ n.write ++ "\x60"
  | .string s _ => "string " ++ Text.literal s
  | .array .. => "sequence"
  | .object .. => "map"
  | .number (.error _) _ | .broken _ => ""

def index : Document → Nat
  | .null i | .bool _ i | .number _ i | .string _ i | .array _ _ i | .object _ _ i => i
  | .broken f => f.index

/-- Objects to the type of a value, unless the text already broke off there. -/
def mistyped (expected : String) : Document → Mismatch
  | .broken f | .number (.error f) _ => .fault f
  | d => .type d.describe expected d.index

mutual

/-- Passes over a document, which may hold anything. -/
def skip : Document → Except FaultAt Unit
  | .array items ending _ => do
    skipAll items
    match ending with
    | some f => throw f
    | none => return
  | .object members ending _ => do
    skipMembers members
    match ending with
    | some f => throw f
    | none => return
  | .broken f => .error f
  | _ => .ok ()

def skipAll : List Document → Except FaultAt Unit
  | [] => .ok ()
  | d :: ds => do
    skip d
    skipAll ds

def skipMembers : List (String × Document) → Except FaultAt Unit
  | [] => .ok ()
  | (_, d) :: ds => do
    skip d
    skipMembers ds

end

mutual

/-- The document of a value that was not read from a text. -/
def ofValue : Value → Document
  | .null => .null 0
  | .bool b => .bool b 0
  | .number n => .number (.ok n) 0
  | .string s => .string s 0
  | .array items => .array (ofValues items) none 0
  | .object members => .object (ofMembers members) none 0

def ofValues : List Value → List Document
  | [] => []
  | v :: r => ofValue v :: ofValues r

def ofMembers : List (String × Value) → List (String × Document)
  | [] => []
  | (k, v) :: r => (k, ofValue v) :: ofMembers r

end

end Document

/-- Reads a value out of a document. -/
abbrev Decoder (α : Type) := Document → Except Mismatch α

namespace Decoder

def text (expected : String) : Decoder String
  | .string s _ => .ok s
  | d => .error (d.mistyped expected)

def string : Decoder String := text "a string"

/-- A natural number of 64 bits. -/
def natural : Decoder Nat
  | .number (.ok (.natural n)) _ => .ok n
  | .number (.ok (.negative n)) _ =>
    .error (.value ("integer \x60-" ++ toString n ++ "\x60") "usize")
  | d => .error (d.mistyped "usize")

/-- `null` stands for no value. -/
def optional {α : Type} (item : Decoder α) : Decoder (Option α)
  | .null _ => .ok none
  | d => some <$> item d

def finish (ending : Option FaultAt) : Except Mismatch Unit :=
  match ending with
  | some f => .error (.fault f)
  | none => .ok ()

def list {α : Type} (item : Decoder α) : Decoder (List α)
  | .array items ending _ => do
    let vs ← items.mapM item
    finish ending
    return vs
  | d => .error (d.mistyped "a sequence")

/-- A field sets its part of a value under construction. -/
structure Field (σ : Type) where
  name : String
  set : Decoder (σ → σ)
  required : Bool := false

/-- What a record may hold besides its fields. -/
structure Leniency where
  unknownFields : Bool
  surplusItems : Bool

def Leniency.none : Leniency := ⟨false, false⟩

/-- Fields by name, in any order. Unknown fields are passed over or objected to. -/
def members {σ : Type} (fields : List (Field σ)) (l : Leniency) :
    List String → σ → List (String × Document) → Except Mismatch (List String × σ)
  | seen, s, [] => .ok (seen, s)
  | seen, s, (name, d) :: r => do
    match fields.find? (·.name == name) with
    | some f =>
      if seen.contains name then throw (.duplicateField name)
      members fields l (name :: seen) ((← f.set d) s) r
    | none =>
      if !l.unknownFields then throw (.unknownField name (fields.map (·.name)))
      match d.skip with
      | .ok _ => members fields l seen s r
      | .error f => throw (.fault f)

/-- Fields by position; what is left over of both. -/
def positions {σ : Type} :
    List (Field σ) → σ → List Document → Except Mismatch (List (Field σ) × σ × List Document)
  | [], s, ds => .ok ([], s, ds)
  | fs, s, [] => .ok (fs, s, [])
  | f :: fs, s, d :: ds => do positions fs ((← f.set d) s) ds

/-- A record whose fields are given by name, or by position in an array. -/
def record {σ : Type} (name : String) (fields : List (Field σ)) (l : Leniency) (start : σ) :
    Decoder σ
  | .object ms ending _ => do
    let (seen, s) ← members fields l [] start ms
    finish ending
    match fields.find? fun f => f.required && !seen.contains f.name with
    | some f => throw (.missingField f.name)
    | none => return s
  | .array items ending start' => do
    let (unset, s, rest) ← positions fields start items
    if unset.isEmpty then
      if (l.surplusItems || rest.isEmpty) && ending.isNone then return s
      match ending with
      | some f =>
        if rest.isEmpty && f.fault.isEnd then throw (.fault f)
        throw (.fault ⟨.trailingCharacters, f.index⟩)
      | none => throw (.fault ⟨.trailingCharacters, start'⟩)
    else
      finish ending
      if unset.any (·.required) then
        throw (.length items.length
          ("struct " ++ name ++ " with " ++ toString fields.length ++ " elements"))
      return s
  | d => .error (d.mistyped ("struct " ++ name))

/-- Decodes a whole text. -/
def run {α : Type} (decoder : Decoder α) (text : String) : Except Mismatch α := do
  let t := read text
  let a ← decoder t.document
  finish t.trailing
  return a

end Decoder

end ModuleBundler.Json
