import FirstSeen.Log.Event

/-!
The line in which an event is written: its level, aligned to the right over five places; the number
of the thread and the place in the source, if wanted; the target; the message; and the other fields,
each with its name. A message cannot steer a terminal: the control characters by which that is done
are written as escapes.
-/
namespace FirstSeen.Log

structure Layout where
  threadIds : Bool
  fileLines : Bool
  deriving DecidableEq

def messageChar (c : Char) : List Char :=
  let n := c.toNat
  if n = 0x1B then ['\\', 'x', '1', 'b']
  else if n = 0x07 then ['\\', 'x', '0', '7']
  else if n = 0x08 then ['\\', 'x', '0', '8']
  else if n = 0x0C then ['\\', 'x', '0', 'c']
  else if n = 0x7F then ['\\', 'x', '7', 'f']
  else if 0x80 ≤ n ∧ n ≤ 0x9F then ['\\', 'u', '\x7b'] ++ Nat.toDigits 16 n ++ ['\x7d']
  else [c]

def messageText (message : String) : String := String.ofList (message.toList.flatMap messageChar)

namespace Level

def column (level : Level) : String :=
  String.ofList (List.replicate (5 - level.name.length) ' ') ++ level.name

end Level

/-- All events are written by the first thread. -/
def threadColumn : String := "ThreadId(01) "

def Event.line (layout : Layout) (place : String) (e : Event) : String :=
  e.level.column ++ " "
    ++ (if layout.threadIds then threadColumn else "")
    ++ target ++ ": "
    ++ (if layout.fileLines then place ++ ": " else "")
    ++ messageText e.message
    ++ String.join (e.fields.map fun (name, value) => " " ++ name ++ "=" ++ value)

end FirstSeen.Log
