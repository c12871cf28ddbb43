import KarelBuild.Fault

/-!
# Sinks

A sink takes the text that a build writes. Writing to it or flushing it may fail. A write that fails
leaves nothing, and the empty text is written by doing nothing, which cannot fail.
-/

namespace KarelBuild

structure Sink where
  written : Text := []
  writeFailure : Option Text := none
  flushFailure : Option Text := none
  deriving DecidableEq, Repr

namespace Sink

def write (s : Sink) (t : Text) : Except Fault Unit × Sink :=
  match s.writeFailure with
  | some reason => if t = [] then (.ok (), s) else (.error (.reported reason), s)
  | none => (.ok (), { s with written := s.written ++ t })

def flush (s : Sink) : Except Fault Unit :=
  match s.flushFailure with
  | some reason => .error (.reported reason)
  | none => .ok ()

/-- What a tool that shares the sink leaves there. -/
def relay (s : Sink) (t : Text) : Sink := { s with written := s.written ++ t }

end Sink

end KarelBuild
