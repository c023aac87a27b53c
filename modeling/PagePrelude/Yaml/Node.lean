import PagePrelude.Yaml.Event
import PagePrelude.Json.Reader

/-!
# Values of YAML documents

The events of the first document are read into a value. Plain scalars become null,
booleans and numbers where they look like one; every other scalar is a string. An alias
stands for the value of its anchor.
-/

namespace PagePrelude.Yaml

/-- A number of a YAML document. -/
inductive Number where
  | natural (value : Nat)
  | negative (value : Nat)
  | finite (value : Binary64)
  | infinite (negative : Bool)
  | notANumber
  deriving DecidableEq, Repr

/-- A value of a YAML document. -/
inductive Value where
  | null
  | bool (value : Bool)
  | number (value : Number)
  | string (value : String)
  | sequence (items : List Value)
  | mapping (fields : List (Value × Value))
  | tagged (tag : String) (value : Value)
  deriving Repr, Inhabited

/-! ## Plain scalars -/

namespace Scalar

/-- The number written by digits of a base. -/
def natural? (base : Nat) (digits : List Char) : Option Nat :=
  if digits.isEmpty then none
  else
    digits.foldlM (fun n c => do
      let d ← Number.hexValue? c
      if d < base then some (n * base + d) else none) 0

/-- A sign, then what follows it. -/
def splitSign : List Char → Option Char × List Char
  | '+' :: rest => (some '+', rest)
  | '-' :: rest => (some '-', rest)
  | cs => (none, cs)

/-- Digits after a leading zero are no number. -/
def isPadded (cs : List Char) : Bool :=
  match (splitSign cs).2 with
  | '0' :: d :: rest => (d :: rest).all Char.isDigit
  | _ => false

/-- Digits of a base after its mark, or decimal digits that are not padded. -/
def magnitude? (signed : List Char) (cs : List Char) : Option Nat :=
  let marked :=
    match cs with
    | '0' :: 'x' :: rest => natural? 16 rest
    | '0' :: 'o' :: rest => natural? 8 rest
    | '0' :: 'b' :: rest => natural? 2 rest
    | _ => none
  match marked with
  | some n => some n
  | none => if isPadded signed then none else natural? 10 cs

/-- An integer and its sign. -/
def integer? (cs : List Char) : Option (Bool × Nat) :=
  match splitSign cs with
  | (some '-', rest) => (magnitude? cs rest).map (true, ·)
  | (_, rest) => (magnitude? cs rest).map (false, ·)

/-- Splits an exponent off a number. -/
def exponent? : List Char → Option Int
  | [] => some 0
  | e :: rest =>
    if e = 'e' ∨ e = 'E' then
      match splitSign rest with
      | (some '-', digits) => (natural? 10 digits).map fun n => -(n : Int)
      | (_, digits) => (natural? 10 digits).map fun n => (n : Int)
    else none

/-- An unsigned decimal number: digits with an optional point and exponent. -/
def decimal? (cs : List Char) : Option Binary64 :=
  let whole := cs.takeWhile Char.isDigit
  let rest := cs.dropWhile Char.isDigit
  let (fraction, rest) :=
    match rest with
    | '.' :: more => (more.takeWhile Char.isDigit, more.dropWhile Char.isDigit)
    | _ => ([], rest)
  if whole.isEmpty && fraction.isEmpty then none
  else do
    let exponent ← exponent? rest
    let digits ← natural? 10 (whole ++ fraction)
    if digits = 0 then return .zero
    else if 400 < exponent + whole.length then none
    else if exponent + whole.length < -400 then return .zero
    else Binary64.ofDecimal digits (exponent - fraction.length)

/-- A floating point number. -/
def float? (text : String) : Option Number :=
  let cs := text.toList
  let unsigned := if cs.head? = some '+' then cs.drop 1 else cs
  if cs.head? = some '+' && (splitSign unsigned).1.isSome then none
  else if [".inf", ".Inf", ".INF"].contains (String.ofList unsigned) then some (.infinite false)
  else if ["-.inf", "-.Inf", "-.INF"].contains text then some (.infinite true)
  else if [".nan", ".NaN", ".NAN"].contains text then some .notANumber
  else
    match splitSign unsigned with
    | (some '-', rest) => (decimal? rest).map fun x => .finite (x.withSign true)
    | (_, rest) => (decimal? rest).map .finite

/-- The words for null. -/
def isNull (text : String) : Bool := ["null", "Null", "NULL", "~"].contains text

/-- The words for truth values. -/
def bool? (text : String) : Option Bool :=
  if ["true", "True", "TRUE"].contains text then some true
  else if ["false", "False", "FALSE"].contains text then some false
  else none

/-- The fault of an integer beyond 64 bits. -/
def wideInteger (negative : Bool) (n : Nat) : String :=
  let (sign, size) := if negative then ("-", "i128") else ("", "u128")
  "invalid type: integer `" ++ sign ++ toString n ++ "` as " ++ size ++ ", expected any YAML value"

/-- An integer as a value: those beyond 128 bits are no integers, those beyond 64 a fault. -/
def integerValue? (text : String) : Option (Except String Value) :=
  match integer? text.toList with
  | some (false, n) =>
    if n < Nat.pow 2 64 then some (.ok (.number (.natural n)))
    else if n < Nat.pow 2 128 then some (.error (wideInteger false n))
    else none
  | some (true, n) =>
    if n = 0 then some (.ok (.number (.natural 0)))
    else if n ≤ Nat.pow 2 63 then some (.ok (.number (.negative n)))
    else if n ≤ Nat.pow 2 127 then some (.error (wideInteger true n))
    else none
  | none => none

/-- The value of a plain scalar. -/
def plain (text : String) : Except String Value :=
  if text.isEmpty || isNull text then .ok .null
  else
    match bool? text with
    | some b => .ok (.bool b)
    | none =>
      match integerValue? text with
      | some result => result
      | none =>
        if isPadded text.toList then .ok (.string text)
        else
          match float? text with
          | some x => .ok (.number x)
          | none => .ok (.string text)

/-- The fault of a scalar that does not fit its tag. -/
def misfit (text expected : String) : Except String Value :=
  .error ("invalid value: string " ++ Text.shown text ++ ", expected " ++ expected)

/-- The value of a scalar. A tag of the core schema decides how it is read; `entered` says that
a tag was already taken off. -/
def value (tag : Option String) (entered : Bool) (text : String) (isPlain : Bool) :
    Except String Value :=
  let untagged := if isPlain then plain text else .ok (.string text)
  if entered then untagged
  else
    match tag with
    | none => untagged
    | some "tag:yaml.org,2002:bool" =>
      match bool? text with
      | some b => .ok (.bool b)
      | none => misfit text "a boolean"
    | some "tag:yaml.org,2002:int" =>
      match integerValue? text with
      | some result => result
      | none => misfit text "an integer"
    | some "tag:yaml.org,2002:float" =>
      match float? text with
      | some x => .ok (.number x)
      | none => misfit text "a float"
    | some "tag:yaml.org,2002:null" => if isNull text then .ok .null else misfit text "null"
    | some _ => .ok (.string text)

end Scalar

/-! ## Documents -/

/-- The text of a number. -/
def Number.text : Number → String
  | .natural n => toString n
  | .negative n => "-" ++ toString n
  | .finite x => x.text
  | .infinite below => if below then "-.inf" else ".inf"
  | .notANumber => ".nan"

mutual

/-- Equality of values, as the keys of a mapping are compared. -/
def Value.same : Value → Value → Bool
  | .null, .null => true
  | .bool a, .bool b => a == b
  | .number a, .number b => a == b
  | .string a, .string b => a == b
  | .sequence as, .sequence bs => sameItems as bs
  | .mapping as, .mapping bs => sameFields as bs
  | .tagged s a, .tagged t b => s == t && Value.same a b
  | _, _ => false

/-- Equality of sequences. -/
def sameItems : List Value → List Value → Bool
  | [], [] => true
  | a :: as, b :: bs => Value.same a b && sameItems as bs
  | _, _ => false

/-- Equality of mappings. -/
def sameFields : List (Value × Value) → List (Value × Value) → Bool
  | [], [] => true
  | (k, a) :: as, (l, b) :: bs => Value.same k l && Value.same a b && sameFields as bs
  | _, _ => false

end

/-- The words for a key that occurs twice. -/
def duplicateText : Value → String
  | .null => "duplicate entry with null key"
  | .bool b => "duplicate entry with key `" ++ (if b then "true" else "false") ++ "`"
  | .number n => "duplicate entry with key " ++ n.text
  | .string s => "duplicate entry with key " ++ Text.shown s
  | _ => "duplicate entry in YAML map"

/-- Where a reading of a document stands. -/
structure Place where
  rest : List Event
  /-- How many aliases may still be followed. -/
  jumps : Nat

/-- A computation that reads the events of a document. -/
abbrev Loader (α : Type) := StateT Place (Except Fault) α

namespace Loader

/-- The next event; `fault` is what cut the events short. -/
def peek (fault : Option Fault) : Loader Event := do
  match (← get).rest with
  | event :: _ => return event
  | [] => throw (fault.getD .endOfStream)

/-- Takes the next event. -/
def skip : Loader Unit := modify fun p => { p with rest := p.rest.drop 1 }

/-- The path of an item of a sequence. -/
def itemPath (path : String) (index : Nat) : String :=
  path ++ "[" ++ toString index ++ "]"

/-- The path of a value of a mapping. -/
def fieldPath (path : String) (key : Option String) : String :=
  (if path = "." then "" else path ++ ".") ++ key.getD "?"

/-- Turns the fault of a scalar into one of its place. -/
def located {α : Type} (path : String) (mark : Mark) (result : Except String α) : Loader α :=
  match result with
  | .ok a => pure a
  | .error problem => throw (.node problem path mark)

/-- The tag that makes a node a tagged value: those that start with `!`. -/
def localTag? (tag : Option String) : Option String :=
  tag.bind fun t =>
    match t.toList with
    | '!' :: rest => some (if rest.isEmpty then "!" else String.ofList rest)
    | _ => none

/-- The items of a sequence, its end included. -/
def items (fault : Option Fault) (item : String → Loader Value) (path : String) :
    Nat → Nat → List Value → Loader (List Value)
  | 0, _, read => pure read.reverse
  | fuel + 1, index, read => do
    match (← peek fault).kind with
    | .sequenceEnd =>
      skip
      return read.reverse
    | _ => items fault item path fuel (index + 1) ((← item (itemPath path index)) :: read)

/-- The text of a key that is a scalar. -/
def keyText? : EventKind → Option String
  | .scalar _ _ text _ => some text
  | _ => none

/-- The fields of a mapping, its end included. No key may occur twice. -/
def fields (fault : Option Fault) (item : String → Loader Value) (path : String) (mark : Mark) :
    Nat → List (Value × Value) → Loader (List (Value × Value))
  | 0, read => pure read.reverse
  | fuel + 1, read => do
    let event ← peek fault
    match event.kind with
    | .mappingEnd =>
      skip
      return read.reverse
    | kind =>
      let key ← item path
      if read.any fun (k, _) => k.same key then throw (.node (duplicateText key) path mark)
      let value ← item (fieldPath path (keyText? kind))
      fields fault item path mark fuel ((key, value) :: read)

/-- The events of the node that an alias stands for: the latest one before it with that anchor. -/
def anchored (before : List Event) (name : String) : Option (List Event) :=
  match before with
  | [] => none
  | event :: rest =>
    let anchor :=
      match event.kind with
      | .scalar a _ _ _ | .sequenceStart a _ | .mappingStart a _ => a
      | _ => none
    match anchored rest name with
    | some found => some found
    | none => if anchor = some name then some before else none

/-- A node. At most `depth` collections may be nested, counting tags and aliases among the steps;
`steps` bounds the recursion and `entered` says that the tag of the node was taken off. -/
def node (all : List Event) (fault : Option Fault) :
    Nat → Nat → Bool → String → Loader Value
  | 0, _, _, _ => throw .tooManyAliases
  | steps + 1, depth, entered, path => do
    let event ← peek fault
    let below (mark : Mark) : Loader Nat :=
      match depth with
      | d + 1 => if d = 0 then throw (.tooDeep mark) else pure d
      | 0 => throw (.tooDeep mark)
    let tagged (tag : Option String) (read : Loader Value) : Loader Value := do
      match if entered then none else localTag? tag with
      | some name => return .tagged name (← node all fault steps depth true path)
      | none =>
        skip
        read
    match event.kind with
    | .alias name =>
      let here ← get
      skip
      let after ← get
      if here.jumps = 0 then throw .tooManyAliases
      match anchored (all.take (all.length - here.rest.length)) name with
      | none => throw (.unknownAnchor event.mark)
      | some target =>
        let index := (all.take (all.length - here.rest.length)).length - target.length
        set ({ rest := all.drop index, jumps := here.jumps - 1 } : Place)
        let value ← node all fault steps depth false path
        modify fun p => { p with rest := after.rest }
        return value
    | .scalar _ tag text isPlain =>
      tagged tag (located path event.mark (Scalar.value tag entered text isPlain))
    | .sequenceStart _ tag =>
      tagged tag do
        let depth ← below event.mark
        return .sequence
          (← items fault (node all fault steps depth false) path (all.length + 1) 0 [])
    | .mappingStart _ tag =>
      tagged tag do
        let depth ← below event.mark
        return .mapping
          (← fields fault (node all fault steps depth false) path event.mark (all.length + 1) [])
    | _ => throw .endOfStream

end Loader

/-- The events of the first document, without its start; an alias without an anchor ends them. -/
def firstDocument : List Event → List Event → List Event × Bool × List Event × Option Fault
  | [], read => (read.reverse, false, [], none)
  | event :: rest, read =>
    match event.kind with
    | .streamStart | .documentStart => firstDocument rest read
    | .documentEnd => (read.reverse, true, rest, none)
    | .streamEnd => (read.reverse, true, event :: rest, none)
    | .alias name =>
      if (Loader.anchored read.reverse name).isSome then firstDocument rest (event :: read)
      else (read.reverse, true, [], some (.unknownAnchor event.mark))
    | _ => firstDocument rest (event :: read)

/-- Reads a text that holds at most one document; a text without one is null. -/
def Value.read (text : String) : Except Fault Value :=
  let (events, fault) := Event.ofText text
  let (document, complete, rest, anchorFault) := firstDocument events []
  let cut := if complete then anchorFault else fault
  if complete && document.isEmpty && cut.isNone then .ok .null
  else
    let place : Place := { rest := document, jumps := 100 * document.length }
    match (Loader.node document cut (2 * document.length + 300) 128 false ".").run place with
    | .error f => .error f
    | .ok (value, _) =>
      match cut with
      | some f => .error f
      | none =>
        match rest with
        | [] => if fault.isSome then .error .manyDocuments else .ok value
        | event :: _ => if event.kind == .streamEnd then .ok value else .error .manyDocuments

/-! ## JSON -/

/-- Why a value has no JSON form. -/
inductive KeyFault where
  | notString
  | notFinite
  deriving DecidableEq, Repr

/-- The words for such a fault. -/
def KeyFault.text : KeyFault → String
  | notString => "key must be a string"
  | notFinite => "float key must be finite (got NaN or +/-inf)"

/-- The JSON form of a number; there is none for infinities. -/
def Number.json : Number → Json.Value
  | .natural n => .number (.natural n)
  | .negative n => .number (.negative n)
  | .finite x => .number (.float x)
  | .infinite _ | .notANumber => .null

/-- The JSON form of a key. -/
def keyJson : Value → Except KeyFault String
  | .string s => .ok s
  | .bool b => .ok (if b then "true" else "false")
  | .number (.infinite _) | .number .notANumber => .error .notFinite
  | .number n => .ok n.text
  | _ => .error .notString

mutual

/-- The JSON form of a value. A tagged value is an object with its tag as the only key. -/
def Value.json : Value → Except KeyFault Json.Value
  | .null => .ok .null
  | .bool b => .ok (.bool b)
  | .number n => .ok n.json
  | .string s => .ok (.string s)
  | .sequence items => (itemsJson items).map .array
  | .mapping fields => (fieldsJson fields []).map .object
  | .tagged tag value =>
    value.json.map fun v => .object [(if tag = "!" then tag else "!" ++ tag, v)]

/-- The JSON forms of the items of a sequence. -/
def itemsJson : List Value → Except KeyFault (List Json.Value)
  | [] => .ok []
  | item :: rest => do
    let item ← item.json
    let rest ← itemsJson rest
    return item :: rest

/-- The JSON forms of the fields of a mapping. -/
def fieldsJson : List (Value × Value) → List (String × Json.Value) →
    Except KeyFault (List (String × Json.Value))
  | [], read => .ok read
  | (key, value) :: rest, read => do
    let key ← keyJson key
    let value ← value.json
    fieldsJson rest (Json.setField read key value)

end

end PagePrelude.Yaml
