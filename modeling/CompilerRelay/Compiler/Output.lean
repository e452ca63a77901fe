import CompilerRelay.Message
import CompilerRelay.Text.Utf8

/-!
What a compiler writes.

The stream of bytes is cut at line feeds before it is decoded, so bytes that
are not UTF-8 spoil no line but their own.  When the stream ends, what is left
without a line feed is a line too, and then the compiler is gone.
-/

namespace CompilerRelay
namespace Compiler
namespace Output

def lineFeed : UInt8 := 10

/-- The lines of a stream that are complete, and the piece after them. -/
def cut : List UInt8 → List (List UInt8) × List UInt8
  | [] => ([], [])
  | byte :: rest =>
    let others := cut rest
    if byte = lineFeed then ([] :: others.1, others.2)
    else match others.1 with
      | [] => ([], byte :: others.2)
      | line :: lines => ((byte :: line) :: lines, others.2)

/-- What a line tells. -/
def eventOf (line : List UInt8) : Option CompilerEvent :=
  CompilerEvent.ofLine (Text.Utf8.decodeLossy line)

/-- What a stream tells while more may come. -/
def heard (stream : List UInt8) : List CompilerEvent :=
  (cut stream).1.filterMap eventOf

/-- What a stream tells that has ended.  A last line without a line feed is a
line as well, and the end of the compiler is told last. -/
def events (stream : List UInt8) : List CompilerEvent :=
  heard stream ++ (eventOf (cut stream).2).toList ++ [.exited]

end Output
end Compiler
end CompilerRelay
