/-
  DeclExport.Layout.Sink
  ────────────────────────────────
  **SINKS OF BOUNDED CAPACITY.**

  A sink takes characters until its room, counted in bytes, is used up.  A
  character that does not fit leaves the bytes that do, and the write fails; so
  does every later write.
-/

namespace DeclExport

/-- What a sink holds, and what it will still take. -/
structure Sink where
  /-- The characters taken whole. -/
  text : String
  /-- The first bytes of the character that did not fit. -/
  cut : List UInt8
  /-- The bytes that still fit; `none` if any number does. -/
  room : Option Nat
  /-- Whether delivering what is held fails. -/
  flushFails : Bool
  deriving DecidableEq

namespace Sink

/-- A sink without bounds that delivers. -/
def unbounded : Sink := ⟨"", [], none, false⟩

/-- An empty sink with the given room. -/
def ofRoom (room : Option Nat) (flushFails : Bool) : Sink := ⟨"", [], room, flushFails⟩

/-- Take a character, and say whether it fitted. -/
def write (s : Sink) (c : Char) : Sink × Bool :=
  match s.room with
  | none => ({ s with text := s.text.push c }, true)
  | some n =>
      if c.utf8Size ≤ n then
        ({ s with text := s.text.push c, room := some (n - c.utf8Size) }, true)
      else
        ({ s with cut := s.cut ++ (String.utf8EncodeChar c).take n, room := some 0 }, false)

/-- The bytes held. -/
def bytes (s : Sink) : List UInt8 :=
  s.text.toList.flatMap String.utf8EncodeChar ++ s.cut

end Sink

end DeclExport
