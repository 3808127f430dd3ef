import DesignMarkup.Number.Numeral
import DesignMarkup.Text.Hex
import DesignMarkup.Value.Basic

/-!
# Reading JSON

Standard JSON, and besides it the numbers `NaN`, `Infinity` and `-Infinity`. A number without a
point and an exponent is an integer. Under a repeated name the last value counts.
-/

namespace DesignMarkup.Json

def skipBlank (cs : List Char) : List Char :=
  cs.dropWhile fun c => c = ' ' || c = '\t' || c = '\n' || c = '\r'

/-- The rest of the text after a word, if it starts with the word. -/
def afterWord? : List Char → List Char → Option (List Char)
  | [], cs => some cs
  | w :: word, c :: cs => if w = c then afterWord? word cs else none
  | _ :: _, [] => none

def escaped? (c : Char) : Option Char :=
  match c with
  | '"' => some '"'
  | '\\' => some '\\'
  | '/' => some '/'
  | 'b' => some '\x08'
  | 'f' => some '\x0c'
  | 'n' => some '\n'
  | 'r' => some '\r'
  | 't' => some '\t'
  | _ => none

/-- The code unit written by four hexadecimal digits. -/
def unit? (a b c d : Char) : Option Nat := do
  let a ← Text.hexValue? a
  let b ← Text.hexValue? b
  let c ← Text.hexValue? c
  let d ← Text.hexValue? d
  return ((a * 16 + b) * 16 + c) * 16 + d

def isHighSurrogate (n : Nat) : Bool :=
  0xd800 ≤ n && n < 0xdc00

def isLowSurrogate (n : Nat) : Bool :=
  0xdc00 ≤ n && n < 0xe000

/-- The rest of a string after its opening quote. `done` holds the characters read so far, the last
one first, and `high` a high surrogate that waits for its low one. -/
def stringBody? (done : List Char) (high : Option Nat) :
    List Char → Option (String × List Char)
  | [] => none
  | '"' :: rest => if high.isSome then none else some (String.ofList done.reverse, rest)
  | '\\' :: 'u' :: a :: b :: c :: d :: rest =>
    match unit? a b c d, high with
    | none, _ => none
    | some n, some h =>
      if isLowSurrogate n then
        stringBody? (Char.ofNat (0x10000 + (h - 0xd800) * 0x400 + (n - 0xdc00)) :: done) none rest
      else none
    | some n, none =>
      if isHighSurrogate n then stringBody? done (some n) rest
      else if isLowSurrogate n then none
      else stringBody? (Char.ofNat n :: done) none rest
  | '\\' :: c :: rest =>
    match escaped? c, high with
    | some e, none => stringBody? (e :: done) none rest
    | _, _ => none
  | c :: rest =>
    if high.isSome || c.toNat < 0x20 then none else stringBody? (c :: done) none rest

/-- The value of a number's text after an optional minus sign. -/
def magnitude? (negative : Bool) (cs : List Char) : Option Value :=
  let (whole, rest) := cs.span Numeral.isDigit
  if !Numeral.isPlainWhole whole || Numeral.isOversized whole then none
  else
    match rest with
    | [] =>
      let n : Int := Numeral.value whole
      some (.int (if negative then -n else n))
    | '.' :: [] => none
    | '.' :: c :: _ =>
      if Numeral.isDigit c then (Numeral.decimal? negative cs).map (.float ·.toBinary64) else none
    | _ => (Numeral.decimal? negative cs).map (.float ·.toBinary64)

def number? : List Char → Option Value
  | '-' :: cs => magnitude? true cs
  | cs => magnitude? false cs

def isNumberChar (c : Char) : Bool :=
  Numeral.isDigit c || c = '-' || c = '+' || c = '.' || c = 'e' || c = 'E'

def scalar? (cs : List Char) : Option (Value × List Char) :=
  match afterWord? "null".toList cs with
  | some rest => some (.null, rest)
  | none =>
    match afterWord? "true".toList cs with
    | some rest => some (.bool true, rest)
    | none =>
      match afterWord? "false".toList cs with
      | some rest => some (.bool false, rest)
      | none =>
        match afterWord? "NaN".toList cs with
        | some rest => some (.float .nan, rest)
        | none =>
          match afterWord? "Infinity".toList cs with
          | some rest => some (.float (.infinite false), rest)
          | none =>
            match afterWord? "-Infinity".toList cs with
            | some rest => some (.float (.infinite true), rest)
            | none =>
              let (token, rest) := cs.span isNumberChar
              (number? token).map (·, rest)

/-- The items of a list up to its closing bracket. The fuel bounds their number. -/
def items? (item : List Char → Option (Value × List Char)) :
    Nat → List Value → List Char → Option (List Value × List Char)
  | 0, _, _ => none
  | fuel + 1, done, cs =>
    match item cs with
    | none => none
    | some (v, rest) =>
      match skipBlank rest with
      | ',' :: more => items? item fuel (v :: done) more
      | ']' :: more => some ((v :: done).reverse, more)
      | _ => none

def member? (item : List Char → Option (Value × List Char)) (cs : List Char) :
    Option ((String × Value) × List Char) :=
  match skipBlank cs with
  | '"' :: rest =>
    match stringBody? [] none rest with
    | none => none
    | some (name, rest) =>
      match skipBlank rest with
      | ':' :: rest => (item rest).map fun (v, rest) => ((name, v), rest)
      | _ => none
  | _ => none

def members? (item : List Char → Option (Value × List Char)) :
    Nat → List (String × Value) → List Char → Option (List (String × Value) × List Char)
  | 0, _, _ => none
  | fuel + 1, done, cs =>
    match member? item cs with
    | none => none
    | some (field, rest) =>
      match skipBlank rest with
      | ',' :: more => members? item fuel (field :: done) more
      | '}' :: more => some ((field :: done).reverse, more)
      | _ => none

/-- Gives a name its value: in its place if the name is there already, at the end otherwise. -/
def setField (fields : List (String × Value)) (field : String × Value) :
    List (String × Value) :=
  if fields.any (·.1 == field.1) then
    fields.map fun old => if old.1 == field.1 then field else old
  else fields ++ [field]

/-- One value and the text after it. -/
def value? (depth : Nat) (cs : List Char) : Option (Value × List Char) :=
  match skipBlank cs with
  | '"' :: rest => (stringBody? [] none rest).map fun (s, rest) => (.text s, rest)
  | '[' :: rest =>
    match skipBlank rest, depth with
    | ']' :: more, _ => some (.list [], more)
    | _, 0 => none
    | _, depth + 1 =>
      (items? (value? depth) rest.length [] rest).map fun (items, rest) => (.list items, rest)
  | '{' :: rest =>
    match skipBlank rest, depth with
    | '}' :: more, _ => some (.object [], more)
    | _, 0 => none
    | _, depth + 1 =>
      (members? (value? depth) rest.length [] rest).map fun (fields, rest) =>
        (.object (fields.foldl setField []), rest)
  | cs => scalar? cs

/-- The value of a text that holds one JSON value and nothing else. -/
def read? (depth : Nat) (text : String) : Option Value :=
  match value? depth text.toList with
  | some (v, rest) => if (skipBlank rest).isEmpty then some v else none
  | none => none

end DesignMarkup.Json
