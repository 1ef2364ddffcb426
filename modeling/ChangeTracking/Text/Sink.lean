

namespace ChangeTracking

/-- What was written, and how many more bytes are taken if there is a limit. -/
structure Sink where
  room : Option Nat
  text : String
deriving DecidableEq

namespace Sink

def empty (room : Option Nat) : Sink := ⟨room, ""⟩

/-- The longest initial part whose characters take no more than so many bytes. -/
def fitting : Nat → List Char → List Char
  | _, [] => []
  | room, char :: rest =>
    if char.utf8Size ≤ room then char :: fitting (room - char.utf8Size) rest else []

/-- Writes a text, or the part of it for which there is room; says whether all was written. -/
def write (sink : Sink) (text : String) : Bool × Sink :=
  match sink.room with
  | none => (true, ⟨none, sink.text ++ text⟩)
  | some room =>
    if text.utf8ByteSize ≤ room then (true, ⟨some (room - text.utf8ByteSize), sink.text ++ text⟩)
    else (false, ⟨some 0, sink.text ++ String.ofList (fitting room text.toList)⟩)

end Sink
end ChangeTracking
