import ChangeTracking.Counter.Options

namespace ChangeTracking

/-- How a program ends: what it printed, what it complained about, and its exit code. -/
structure Ending where
  code : Nat
  output : String
  complaint : Option String
deriving DecidableEq

namespace CounterProgram

/-- The program by itself: its only callbacks are those that post to a mailbox. -/
def host : Host := ⟨MailboxId, Empty, Unit⟩

def posting : Posting host where
  call mailbox event := post mailbox event
  callback := id
  call_callback _ _ := rfl

def summaryLine (summary : RenderSummary) : String :=
  "renders=" ++ toString summary.renders ++
    " notifications=" ++ toString summary.notifications ++
    " skipped_writes=" ++ toString summary.skippedWrites ++ "\n"

def session : Rendering host Unit := do
  RenderLoop.put (summaryLine (← RenderLoop.run posting))

/-- Runs the application in a world of its own and without limit on its output. -/
def execute (config : RenderConfig) : Ending :=
  let act : Act host (Except Failure Unit × RenderLoop) := do
    session.run.run (← RenderLoop.create config (.empty none))
  match (act.run (World.initial ())).1 with
  | .error panic => ⟨101, "", some panic.message⟩
  | .ok (.error failure, loop) => ⟨failure.exitCode, loop.sink.text, some failure.message⟩
  | .ok (.ok (), loop) => ⟨0, loop.sink.text, none⟩

def versionText : String := "perception-demo 0.1.0\n"

def refusalText : Refusal → String
  | .displayVersion => versionText
  | _ => ""

def run (words : List String) : Ending :=
  match Options.parse words with
  | .error refusal => ⟨refusal.exitCode, refusalText refusal, none⟩
  | .ok options =>
    match options.config with
    | .error failure => ⟨failure.exitCode, "", some failure.message⟩
    | .ok config => execute config

end CounterProgram
end ChangeTracking
