import ChangeTracking.Counter.RenderLoop

namespace ChangeTracking

structure Options where
  steps : UInt32
  mode : RenderMode
  equalityGated : Bool
  jsonLogs : Bool
  logLevel : String
deriving DecidableEq

/-- Why the words of a command line give no options; help and version are asked for in
this way too. -/
inductive Refusal where
  | unknownArgument
  | invalidValue
  | valueValidation
  | argumentConflict
  | tooManyValues
  | displayHelp
  | displayVersion
deriving DecidableEq

namespace Refusal

def name : Refusal → String
  | .unknownArgument => "UnknownArgument"
  | .invalidValue => "InvalidValue"
  | .valueValidation => "ValueValidation"
  | .argumentConflict => "ArgumentConflict"
  | .tooManyValues => "TooManyValues"
  | .displayHelp => "DisplayHelp"
  | .displayVersion => "DisplayVersion"

def exitCode : Refusal → Nat
  | .displayHelp | .displayVersion => 0
  | _ => 2

end Refusal

namespace Options

inductive Valued where
  | steps
  | mode
  | logLevel
deriving DecidableEq

inductive Flag where
  | equalityGated
  | jsonLogs
deriving DecidableEq

inductive Word where
  | valued (option : Valued) (attached : Option String)
  | flag (flag : Flag)
  | flagWithValue
  | help
  | version
  | endOfOptions
  | unknown
  | plain (text : String)
deriving DecidableEq

/-- A word without its two dashes, as a name and what follows an equals sign. -/
def ofLong (name : String) (attached : Option String) : Word :=
  match name with
  | "steps" => .valued .steps attached
  | "mode" => .valued .mode attached
  | "log-level" => .valued .logLevel attached
  | "equality-gated" => if attached.isSome then .flagWithValue else .flag .equalityGated
  | "json-logs" => if attached.isSome then .flagWithValue else .flag .jsonLogs
  | "help" => if attached.isSome then .flagWithValue else .help
  | "version" => if attached.isSome then .flagWithValue else .version
  | _ => .unknown

/-- What a word is by its dashes. A single dash by itself is plain text, and of short options
only the first letter matters, since both of them end the reading. -/
def classify (text : String) : Word :=
  match text.toList with
  | ['-', '-'] => .endOfOptions
  | '-' :: '-' :: chars =>
    let name := String.ofList (chars.takeWhile (· ≠ '='))
    match chars.dropWhile (· ≠ '=') with
    | [] => ofLong name none
    | _ :: attached => ofLong name (some (String.ofList attached))
  | '-' :: 'h' :: _ => .help
  | '-' :: 'V' :: _ => .version
  | '-' :: _ :: _ => .unknown
  | _ => .plain text

/-- A whole number that fits in 32 bits. It may have a sign and leading zeros. -/
def readSteps? (text : String) : Option UInt32 :=
  let (negative, digits) := match text.toList with
    | '+' :: digits => (false, digits)
    | '-' :: digits => (true, digits)
    | digits => (false, digits)
  if digits.isEmpty || !digits.all (fun char => '0' ≤ char && char ≤ '9') then none
  else
    let number := digits.foldl (fun number char => number * 10 + (char.toNat - '0'.toNat)) 0
    if number < 0x100000000 && (number = 0 || !negative) then some (.ofNat number) else none

def readMode? : String → Option RenderMode
  | "count" => some .count
  | "name" => some .name
  | "both" => some .both
  | _ => none

structure Draft where
  steps : Option UInt32
  mode : Option RenderMode
  logLevel : Option String
  equalityGated : Bool
  jsonLogs : Bool

def Draft.empty : Draft := ⟨none, none, none, false, false⟩

/-- Gives an option its value. That it was given before is noticed before the value is read. -/
def Draft.assign (draft : Draft) (option : Valued) (text : String) : Except Refusal Draft :=
  match option with
  | .steps =>
    if draft.steps.isSome then .error .argumentConflict
    else match readSteps? text with
      | none => .error .valueValidation
      | some steps => .ok { draft with steps := some steps }
  | .mode =>
    if draft.mode.isSome then .error .argumentConflict
    else match readMode? text with
      | none => .error .invalidValue
      | some mode => .ok { draft with mode := some mode }
  | .logLevel =>
    if draft.logLevel.isSome then .error .argumentConflict
    else .ok { draft with logLevel := some text }

def Draft.raise (draft : Draft) : Flag → Except Refusal Draft
  | .equalityGated =>
    if draft.equalityGated then .error .argumentConflict
    else .ok { draft with equalityGated := true }
  | .jsonLogs =>
    if draft.jsonLogs then .error .argumentConflict else .ok { draft with jsonLogs := true }

/-- An option that was named and is not yet assigned, with its value if that was seen. -/
abbrev Pending := Option (Valued × Option String)

/-- Assigns the option that is still open; without a value it is refused. -/
def Draft.settle (draft : Draft) : Pending → Except Refusal Draft
  | none => .ok draft
  | some (_, none) => .error .invalidValue
  | some (option, some text) => draft.assign option text

/-- Reads words from left to right. An open option is settled when the next known option or
the end is reached; a word that cannot stand where it stands is refused before that. -/
def scan (draft : Draft) (pending : Pending) : List String → Except Refusal Draft
  | [] => draft.settle pending
  | text :: rest =>
    match classify text with
    | .valued option none => do scan (← draft.settle pending) (some (option, none)) rest
    | .valued option (some attached) => do
      scan (← (← draft.settle pending).assign option attached) none rest
    | .flag flag => do scan (← (← draft.settle pending).raise flag) none rest
    | .help => do
      let _ ← draft.settle pending
      throw .displayHelp
    | .version => do
      let _ ← draft.settle pending
      throw .displayVersion
    | .flagWithValue => throw .tooManyValues
    | .unknown => throw .unknownArgument
    | .endOfOptions => if rest.isEmpty then draft.settle pending else throw .unknownArgument
    | .plain text =>
      match pending with
      | some (option, none) => scan draft (some (option, some text)) rest
      | _ => throw .unknownArgument

def parse (words : List String) : Except Refusal Options := do
  let draft ← scan .empty none words
  return {
    steps := draft.steps.getD 8
    mode := draft.mode.getD .both
    equalityGated := draft.equalityGated
    jsonLogs := draft.jsonLogs
    logLevel := draft.logLevel.getD "info" }

/-- What the options ask the application to do; a run without steps is refused. -/
def config (options : Options) : Except Failure RenderConfig :=
  if options.steps = 0 then .error (.invalidArgument "--steps must be at least 1")
  else .ok ⟨options.steps, options.mode, options.equalityGated⟩

end Options
end ChangeTracking
