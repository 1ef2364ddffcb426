

namespace ChangeTracking.JsonSyntax

inductive Bracket where
  | array
  | object
deriving DecidableEq

/-- Where in a string the reader is; an escape by code point still lacks some digits. -/
inductive TextPart where
  | plain
  | escape
  | digits (missing : Nat)
deriving DecidableEq

/-- Which part of a number was read last. -/
inductive NumberPart where
  | minus
  | zero
  | whole
  | point
  | fraction
  | exponentMark
  | exponentSign
  | exponent
deriving DecidableEq

/-- What the reader is in, or waits for. -/
inductive Mode where
  | value
  | firstItem
  | firstName
  | name
  | colon
  | followed
  | text (part : TextPart) (isName : Bool)
  | number (part : NumberPart)
  | word (rest : List Char)
deriving DecidableEq

/-- A mode with the brackets that are open, the innermost first. -/
abbrev State := Mode × List Bracket

def isBlank (char : Char) : Bool := char == ' ' || char == '\n' || char == '\t' || char == '\r'

def isDigit (char : Char) : Bool := '0' ≤ char && char ≤ '9'

def isHexDigit (char : Char) : Bool :=
  isDigit char || ('a' ≤ char && char ≤ 'f') || ('A' ≤ char && char ≤ 'F')

/-- After a value: a blank, a comma, or the bracket that closes the innermost open one. -/
def afterValue (brackets : List Bracket) (char : Char) : Option State :=
  if isBlank char then some (.followed, brackets)
  else match char, brackets with
    | ',', .array :: _ => some (.value, brackets)
    | ',', .object :: _ => some (.name, brackets)
    | ']', .array :: rest => some (.followed, rest)
    | '\x7d', .object :: rest => some (.followed, rest)
    | _, _ => none

def startValue (waiting : Mode) (brackets : List Bracket) (char : Char) : Option State :=
  if isBlank char then some (waiting, brackets)
  else if char == '"' then some (.text .plain false, brackets)
  else if char == '[' then some (.firstItem, .array :: brackets)
  else if char == '\x7b' then some (.firstName, .object :: brackets)
  else if char == '-' then some (.number .minus, brackets)
  else if char == '0' then some (.number .zero, brackets)
  else if isDigit char then some (.number .whole, brackets)
  else if char == 't' then some (.word ['r', 'u', 'e'], brackets)
  else if char == 'f' then some (.word ['a', 'l', 's', 'e'], brackets)
  else if char == 'n' then some (.word ['u', 'l', 'l'], brackets)
  else none

/-- Where a name of an object member may begin. -/
def startName (waiting : Mode) (brackets : List Bracket) (char : Char) : Option State :=
  if isBlank char then some (waiting, brackets)
  else if char == '"' then some (.text .plain true, brackets)
  else none

/-- Inside a string. Control characters may not stand there, and behind a backslash only the
letters of the format and code points of four digits. -/
def stepText (part : TextPart) (isName : Bool) (brackets : List Bracket) (char : Char) :
    Option State :=
  match part with
  | .plain =>
    if char == '"' then some (if isName then .colon else .followed, brackets)
    else if char == '\\' then some (.text .escape isName, brackets)
    else if char.toNat < 0x20 then none
    else some (.text .plain isName, brackets)
  | .escape =>
    if char == 'u' then some (.text (.digits 4) isName, brackets)
    else if ['"', '\\', '/', 'b', 'f', 'n', 'r', 't'].contains char then
      some (.text .plain isName, brackets)
    else none
  | .digits missing =>
    if isHexDigit char then
      some (.text (if missing ≤ 1 then .plain else .digits (missing - 1)) isName, brackets)
    else none

def NumberPart.isComplete : NumberPart → Bool
  | .zero | .whole | .fraction | .exponent => true
  | .minus | .point | .exponentMark | .exponentSign => false

/-- The part of a number that a character goes on with. -/
def NumberPart.next? (part : NumberPart) (char : Char) : Option NumberPart :=
  match part with
  | .minus => if char == '0' then some .zero else if isDigit char then some .whole else none
  | .zero => if char == '.' then some .point else exponentMark? char
  | .whole =>
    if isDigit char then some .whole else if char == '.' then some .point else exponentMark? char
  | .point => if isDigit char then some .fraction else none
  | .fraction => if isDigit char then some .fraction else exponentMark? char
  | .exponentMark =>
    if char == '+' || char == '-' then some .exponentSign
    else if isDigit char then some .exponent else none
  | .exponentSign | .exponent => if isDigit char then some .exponent else none
where
  exponentMark? (char : Char) : Option NumberPart :=
    if char == 'e' || char == 'E' then some .exponentMark else none

def step : State → Char → Option State
  | (.value, brackets), char => startValue .value brackets char
  | (.firstItem, brackets), char =>
    if char == ']' then afterValue brackets char else startValue .firstItem brackets char
  | (.firstName, brackets), char =>
    if char == '\x7d' then afterValue brackets char else startName .firstName brackets char
  | (.name, brackets), char => startName .name brackets char
  | (.colon, brackets), char =>
    if isBlank char then some (.colon, brackets)
    else if char == ':' then some (.value, brackets) else none
  | (.followed, brackets), char => afterValue brackets char
  | (.text part isName, brackets), char => stepText part isName brackets char
  | (.number part, brackets), char =>
    match part.next? char with
    | some next => some (.number next, brackets)
    | none => if part.isComplete then afterValue brackets char else none
  | (.word [], brackets), char => afterValue brackets char
  | (.word (expected :: rest), brackets), char =>
    if char == expected then some (if rest.isEmpty then .followed else .word rest, brackets)
    else none

def isFinal : State → Bool
  | (.followed, brackets) => brackets.isEmpty
  | (.number part, brackets) => part.isComplete && brackets.isEmpty
  | _ => false

/-- Whether the value ends before a character that cannot go on with it. Behind a leading zero
a further digit is an error of the number and not the start of something else. -/
def endsBefore (state : State) (char : Char) : Bool :=
  isFinal state && !(state.1 = .number .zero && isDigit char)

/-- What a text is: a value, a value with something behind it, or neither. -/
inductive Reading where
  | value
  | valueAndMore
  | malformed
deriving DecidableEq

def readFrom : State → List Char → Reading
  | state, [] => if isFinal state then .value else .malformed
  | state, char :: rest =>
    match step state char with
    | some next => readFrom next rest
    | none => if endsBefore state char then .valueAndMore else .malformed

def read (text : String) : Reading := readFrom (.value, []) text.toList

end ChangeTracking.JsonSyntax
