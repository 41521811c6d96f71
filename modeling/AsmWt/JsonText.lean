import AsmWt.Interleaving

/-!
# JSON texts

A text is a list of UTF-16 code units. The grammar says which texts spell which
value, with any whitespace between the tokens; a decoder takes the units one by
one and keeps the open arrays and objects on a stack. A number stays what it was
spelled as.
-/

namespace JsonText

open Interleaving

abbrev Text := List UInt16

def unit (c : Char) : UInt16 := c.toNat.toUInt16

def text (cs : List Char) : Text := cs.map unit

def quote : UInt16 := 0x22
def backslash : UInt16 := 0x5C

/-- The members of an object in the order of the text, repeated keys included. -/
inductive Json where
  | null
  | bool (b : Bool)
  | number (literal : Text)
  | string (s : Text)
  | array (items : List Json)
  | object (members : List (Text × Json))

def isBlank (c : UInt16) : Bool := (text [' ', '\t', '\n', '\r']).contains c

def isDigit (c : UInt16) : Bool := unit '0' ≤ c && c ≤ unit '9'

/-- The units a number is made of. -/
def isNumberUnit (c : UInt16) : Bool := isDigit c || (text ['+', '-', '.', 'e', 'E']).contains c

/-- One digit at least, and what follows the digits. -/
def afterDigits : Text → Option Text
  | c :: t => if isDigit c then some (t.dropWhile isDigit) else none
  | [] => none

/-- A sign or none, and digits. -/
def isPower : Text → Bool
  | [] => false
  | c :: t => afterDigits (if (text ['+', '-']).contains c then t else c :: t) = some []

/-- The rest of a number behind its fraction: an exponent or nothing. -/
def isExponent : Text → Bool
  | [] => true
  | c :: t => (text ['e', 'E']).contains c && isPower t

/-- The rest of a number behind its integer. -/
def isFraction : Text → Bool
  | [] => true
  | c :: t => if c = unit '.' then (afterDigits t).any isExponent else isExponent (c :: t)

/-- An integer without leading zeros, and its rest. -/
def isUnsigned : Text → Bool
  | [] => false
  | c :: t => if c = unit '0' then isFraction t else (afterDigits (c :: t)).any isFraction

def isNumber : Text → Bool
  | [] => false
  | c :: t => if c = unit '-' then isUnsigned t else isUnsigned (c :: t)

/-- What the escape of a single unit stands for. -/
def escaped (c : UInt16) : Option UInt16 :=
  if c = quote then some quote
  else if c = backslash then some backslash
  else if c = unit '/' then some (unit '/')
  else if c = unit 'b' then some 0x08
  else if c = unit 'f' then some 0x0C
  else if c = unit 'n' then some (unit '\n')
  else if c = unit 'r' then some (unit '\r')
  else if c = unit 't' then some (unit '\t')
  else none

def hexDigit (c : UInt16) : Option UInt16 :=
  if isDigit c then some (c - unit '0')
  else if unit 'a' ≤ c && c ≤ unit 'f' then some (c - unit 'a' + 10)
  else if unit 'A' ≤ c && c ≤ unit 'F' then some (c - unit 'A' + 10)
  else none

def hexValue (digits : List UInt16) : UInt16 := digits.foldl (fun v d => 16 * v + d) 0

/-- A unit that stands for itself in a string. -/
def isPlain (c : UInt16) : Bool := 0x20 ≤ c && c ≠ quote && c ≠ backslash

def Blank (w : Text) : Prop := ∀ c ∈ w, isBlank c = true

/-- The second text spells the first one between its quotes. -/
inductive Chars : Text → Text → Prop
  | nil : Chars [] []
  | plain {s t : Text} {c : UInt16} (h : Chars s t) (hc : isPlain c = true) :
      Chars (s ++ [c]) (t ++ [c])
  | escape {s t : Text} {c d : UInt16} (h : Chars s t) (hd : escaped c = some d) :
      Chars (s ++ [d]) (t ++ [backslash, c])
  | hex {s t cs ds : Text} (h : Chars s t) (hds : cs.map hexDigit = ds.map some)
      (four : ds.length = 4) : Chars (s ++ [hexValue ds]) (t ++ backslash :: unit 'u' :: cs)

/-- What a part of a text can spell: a value, an item with the whitespace around it, what stands
between brackets, a member of an object, what stands between braces. -/
inductive Phrase where
  | value (v : Json)
  | item (v : Json)
  | items (vs : List Json)
  | member (k : Text) (v : Json)
  | members (ms : List (Text × Json))

inductive Spells : Phrase → Text → Prop
  | null : Spells (.value .null) (text ['n', 'u', 'l', 'l'])
  | true : Spells (.value (.bool true)) (text ['t', 'r', 'u', 'e'])
  | false : Spells (.value (.bool false)) (text ['f', 'a', 'l', 's', 'e'])
  | number {t : Text} (h : isNumber t = Bool.true) : Spells (.value (.number t)) t
  | string {s t : Text} (h : Chars s t) : Spells (.value (.string s)) (quote :: t ++ [quote])
  | array {vs : List Json} {t : Text} (h : Spells (.items vs) t) :
      Spells (.value (.array vs)) (unit '[' :: t ++ [unit ']'])
  | object {ms : List (Text × Json)} {t : Text} (h : Spells (.members ms) t) :
      Spells (.value (.object ms)) (unit '{' :: t ++ [unit '}'])
  | item {v : Json} {w t w' : Text} (hw : Blank w) (h : Spells (.value v) t) (hw' : Blank w') :
      Spells (.item v) (w ++ t ++ w')
  | noItems {w : Text} (hw : Blank w) : Spells (.items []) w
  | oneItem {v : Json} {t : Text} (h : Spells (.item v) t) : Spells (.items [v]) t
  | moreItems {vs : List Json} {v : Json} {t u : Text} (hvs : vs ≠ []) (h : Spells (.items vs) t)
      (hv : Spells (.item v) u) : Spells (.items (vs ++ [v])) (t ++ unit ',' :: u)
  | member {k : Text} {v : Json} {w t w' u : Text} (hw : Blank w) (hk : Chars k t) (hw' : Blank w')
      (hv : Spells (.item v) u) :
      Spells (.member k v) (w ++ quote :: t ++ quote :: w' ++ unit ':' :: u)
  | noMembers {w : Text} (hw : Blank w) : Spells (.members []) w
  | oneMember {k : Text} {v : Json} {t : Text} (h : Spells (.member k v) t) :
      Spells (.members [(k, v)]) t
  | moreMembers {ms : List (Text × Json)} {k : Text} {v : Json} {t u : Text} (hms : ms ≠ [])
      (h : Spells (.members ms) t) (hv : Spells (.member k v) u) :
      Spells (.members (ms ++ [(k, v)])) (t ++ unit ',' :: u)

/-- A container that is still open, with what has been read of it; the member of an object whose
value is read has its key already. -/
inductive Frame where
  | array (items : List Json)
  | object (members : List (Text × Json))
  | member (members : List (Text × Json)) (key : Text)

/-- What the decoder is in the middle of. After an opening bracket or brace it may be closed at
once; `next` is the place after an item or a member. -/
inductive Mode where
  | value
  | firstItem
  | firstKey
  | key
  | colon
  | next
  | done (v : Json)
  | string (s : Text)
  | escape (s : Text)
  | hex (s digits : Text)
  | literal (rest : Text) (v : Json)
  | number (t : Text)

structure State where
  mode : Mode
  stack : List Frame

/-- Where the decoder goes on when it has read a value. -/
def complete (v : Json) : List Frame → Option State
  | [] => some ⟨.done v, []⟩
  | .array items :: stack => some ⟨.next, .array (items ++ [v]) :: stack⟩
  | .member members key :: stack => some ⟨.next, .object (members ++ [(key, v)]) :: stack⟩
  | .object members :: stack =>
    match v with
    | .string key => some ⟨.colon, .member members key :: stack⟩
    | _ => none

/-- The first unit of a value. -/
def begin (c : UInt16) (stack : List Frame) : Option State :=
  if c = unit '[' then some ⟨.firstItem, .array [] :: stack⟩
  else if c = unit '{' then some ⟨.firstKey, .object [] :: stack⟩
  else if c = quote then some ⟨.string [], stack⟩
  else if c = unit 'n' then some ⟨.literal (text ['u', 'l', 'l']) .null, stack⟩
  else if c = unit 't' then some ⟨.literal (text ['r', 'u', 'e']) (.bool true), stack⟩
  else if c = unit 'f' then some ⟨.literal (text ['a', 'l', 's', 'e']) (.bool false), stack⟩
  else if isNumberUnit c then some ⟨.number [c], stack⟩
  else none

/-- The first unit of a key. -/
def beginKey (c : UInt16) (stack : List Frame) : Option State :=
  if c = quote then some ⟨.string [], stack⟩ else none

/-- A closing bracket or brace. -/
def close (c : UInt16) : List Frame → Option State
  | .array items :: stack => if c = unit ']' then complete (.array items) stack else none
  | .object members :: stack => if c = unit '}' then complete (.object members) stack else none
  | _ => none

/-- A comma, or the end of the container. -/
def separate (c : UInt16) (stack : List Frame) : Option State :=
  if c = unit ',' then
    match stack with
    | .array _ :: _ => some ⟨.value, stack⟩
    | .object _ :: _ => some ⟨.key, stack⟩
    | _ => none
  else close c stack

/-- A unit of a token that is neither a number nor between two tokens. -/
def inside (s : State) (c : UInt16) : Option State :=
  match s.mode with
  | .string t =>
    if c = quote then complete (.string t) s.stack
    else if c = backslash then some ⟨.escape t, s.stack⟩
    else if isPlain c then some ⟨.string (t ++ [c]), s.stack⟩
    else none
  | .escape t =>
    if c = unit 'u' then some ⟨.hex t [], s.stack⟩
    else (escaped c).map fun d => ⟨.string (t ++ [d]), s.stack⟩
  | .hex t digits =>
    (hexDigit c).map fun d =>
      if digits.length = 3 then ⟨.string (t ++ [hexValue (digits ++ [d])]), s.stack⟩
      else ⟨.hex t (digits ++ [d]), s.stack⟩
  | .literal (d :: rest) v =>
    if c = d then
      if rest = [] then complete v s.stack else some ⟨.literal rest v, s.stack⟩
    else none
  | _ => none

/-- A unit that is no whitespace, between two tokens. -/
def token (s : State) (c : UInt16) : Option State :=
  match s.mode with
  | .value => begin c s.stack
  | .firstItem => if c = unit ']' then close c s.stack else begin c s.stack
  | .firstKey => if c = unit '}' then close c s.stack else beginKey c s.stack
  | .key => beginKey c s.stack
  | .colon => if c = unit ':' then some ⟨.value, s.stack⟩ else none
  | .next => separate c s.stack
  | _ => none

/-- The places where whitespace is skipped. -/
def Mode.between : Mode → Bool
  | .value | .firstItem | .firstKey | .key | .colon | .next | .done _ => true
  | .string _ | .escape _ | .hex _ _ | .literal _ _ | .number _ => false

def advance (s : State) (c : UInt16) : Option State :=
  if s.mode.between then if isBlank c then some s else token s c
  else inside s c

/-- A number ends where something else comes. -/
def settle (s : State) : Option State :=
  match s.mode with
  | .number t => if isNumber t then complete (.number t) s.stack else none
  | _ => some s

def step (s : State) (c : UInt16) : Option State :=
  match s.mode with
  | .number t =>
    if isNumberUnit c then some ⟨.number (t ++ [c]), s.stack⟩
    else (settle s).bind fun u => advance u c
  | _ => advance s c

def result (s : State) : Option Json :=
  match s.mode with
  | .done v => some v
  | _ => none

/-- `jsonDecode`; `none` is the `FormatException`. -/
def decode (t : Text) : Option Json :=
  ((run step ⟨.value, []⟩ t).bind settle).bind result

end JsonText
