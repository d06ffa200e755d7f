import Gatehouse.Firewall.Error
/-!
# Prepared runs

A rehearsal stands in for the packet filter: it gives prepared replies in their order and keeps the
commands that it was given.  Once the replies are used up, every command succeeds without a word.
-/

namespace Gatehouse.Firewall

/-- The replies that are left, and the commands given so far. -/
structure Rehearsal where
  replies : List Reply
  commands : List Command
deriving Inhabited

namespace Rehearsal

/-- A rehearsal in which nothing has been asked yet. -/
def ofReplies (replies : List Reply) : Rehearsal := ⟨replies, []⟩

/-- Give the next reply and keep the command. -/
def answer (rehearsal : Rehearsal) (command : Command) : Reply × Rehearsal :=
  (rehearsal.replies.head?.getD (.ok .silent),
    ⟨rehearsal.replies.tail, rehearsal.commands ++ [command]⟩)

/-- What a dialogue comes to with the given replies, and the commands that it gives. -/
def play {α : Type} (talk : Talk α) (replies : List Reply) : α × List Command :=
  let ended := talk.run answer (ofReplies replies)
  (ended.1, ended.2.commands)

end Rehearsal

end Gatehouse.Firewall
