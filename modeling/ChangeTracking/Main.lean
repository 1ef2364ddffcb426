import ChangeTracking.Counter.Program

open ChangeTracking

/-- Prints what the application printed and ends with its exit code; a complaint goes to the
other stream. -/
def main (words : List String) : IO UInt32 := do
  let ending := CounterProgram.run words
  IO.print ending.output
  match ending.complaint with
  | none => pure ()
  | some complaint => IO.eprintln complaint
  return .ofNat ending.code
