import SqlScribe.Execution.Session

/-!
# Scripted connections

A scripted connection answers each command with the next of its prepared replies
and keeps the commands it was sent.

Main definitions:

- `Script` is the state of a scripted connection and `Script.connection` the
  connection itself.
-/

namespace SqlScribe

/-- A prepared reply. -/
inductive Reply where
  | rows (rows : List Row)
  | affected (count : UInt64)
  | failure (text : String)

namespace Reply

/-- The reply to a command that counts; rows are counted. -/
def count : Reply → Except String UInt64
  | .rows list => .ok (UInt64.ofNat list.length)
  | .affected number => .ok number
  | .failure text => .error text

/-- The reply to a command that returns rows; a number stands for none. -/
def table : Reply → Except String (List Row)
  | .rows list => .ok list
  | .affected _ => .ok []
  | .failure text => .error text

end Reply

/-- How a command was sent. -/
inductive SendMode where
  | execute
  | query
deriving DecidableEq, Repr

/-- The replies that are left and the commands that were sent. -/
structure Script where
  replies : List Reply
  sent : List (SendMode × Command) := []

namespace Script

/-- Takes the next reply; where none is left there are no rows. -/
def next (script : Script) (mode : SendMode) (command : Command) : Reply × Script :=
  (script.replies.headD (.rows []),
    { replies := script.replies.drop 1, sent := script.sent ++ [(mode, command)] })

/-- The connection that follows a script. -/
def connection : Connection Script where
  execute command script :=
    let (reply, script) := script.next .execute command
    (reply.count, script)
  query command script :=
    let (reply, script) := script.next .query command
    (reply.table, script)

end Script

end SqlScribe
