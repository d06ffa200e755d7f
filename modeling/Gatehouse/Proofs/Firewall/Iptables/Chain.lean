import Gatehouse.Firewall.Iptables
/-!
# The chain that iptables stands for

A chain is a row of lines, each the specification of a rule.  The filter looks for a line as it is
written, appends one at the end, deletes the first occurrence of one, and prints all of them in
order.  A filter in use serves a command like that, or refuses it and has done nothing.
-/

namespace Gatehouse.Firewall.Iptables

/-- The lines of a chain. -/
abbrev Chain := List String

/-- The line of a rule. -/
def line (rule : Rule) : String := " ".intercalate (specification rule)

namespace Chain

/-- How a line is printed. -/
def shown (line : String) : String := "-A INPUT " ++ line ++ "\n"

/-- Whether a line is somebody else's: printed, it shows no managed rule. -/
def isForeign (line : String) : Bool := (rulesOfListing (shown line)).isEmpty

/-- The listing of a chain. -/
def listing (chain : Chain) : String := "-P INPUT ACCEPT\n" ++ String.join (chain.map shown)

/-! ## Runs of the program -/

/-- The operation among some arguments, and the line that it is about.  The name of the chain stands
between them. -/
def operation? : List String → Option (String × String)
  | [] => none
  | word :: rest =>
      if ["-C", "-A", "-D", "-S"].contains word then some (word, " ".intercalate (rest.drop 1))
      else operation? rest

/-- A run that printed a text. -/
def printed (text : String) : Output := ⟨.exited 0, Utf8.encode text, []⟩

/-- A run that did not find a line. -/
def absent : Output :=
  ⟨.exited 1, [], Utf8.encode "iptables: Bad rule (does a matching rule exist in that chain?)."⟩

/-- A run that could not make sense of its arguments. -/
def confused : Output := ⟨.exited 2, [], Utf8.encode "iptables: unknown command"⟩

/-- Serve a command: the output, and the chain afterwards. -/
def serve (chain : Chain) (command : Command) : Output × Chain :=
  match operation? command.arguments with
  | none => (confused, chain)
  | some (operation, line) =>
      if operation = "-S" then (printed chain.listing, chain)
      else if operation = "-A" then (.silent, chain ++ [line])
      else if line ∉ chain then (absent, chain)
      else (.silent, if operation = "-D" then chain.erase line else chain)

/-- The reply is that of no run that ended as runs in good order do. -/
def Refused (reply : Reply) : Prop :=
  ∀ output, reply = .ok output → output.status ≠ .exited 0 ∧ output.status ≠ .exited 1

/-- What may follow a command: it is served, or refused without effect. -/
inductive MayReply (chain : Chain) (command : Command) : Reply → Chain → Prop where
  | served : MayReply chain command (.ok (chain.serve command).1) (chain.serve command).2
  | refused {reply : Reply} (refused : Refused reply) : MayReply chain command reply chain

/-- The reply of a filter that refuses nothing, and the chain afterwards. -/
def answer (chain : Chain) (command : Command) : Reply × Chain :=
  (.ok (chain.serve command).1, (chain.serve command).2)

theorem mayReply_answer (chain : Chain) (command : Command) :
    chain.MayReply command (chain.answer command).1 (chain.answer command).2 := .served

/-! ## Commands of the backend -/

variable (chain : Chain) (rule : Rule)

theorem serve_listCommand : chain.serve listCommand = (printed chain.listing, chain) := rfl

theorem serve_lookup :
    chain.serve (command "-C" rule) = (if line rule ∈ chain then .silent else absent, chain) := by
  have served : chain.serve (command "-C" rule) =
      if line rule ∉ chain then (absent, chain) else (.silent, chain) := rfl
  rw [served]
  by_cases there : line rule ∈ chain
  · simp [there]
  · simp [there]

theorem serve_append :
    chain.serve (command "-A" rule) = (.silent, chain ++ [line rule]) := rfl

theorem serve_delete :
    chain.serve (command "-D" rule) =
      (if line rule ∈ chain then .silent else absent, chain.erase (line rule)) := by
  have served : chain.serve (command "-D" rule) =
      if line rule ∉ chain then (absent, chain) else (.silent, chain.erase (line rule)) := rfl
  rw [served]
  by_cases there : line rule ∈ chain
  · simp [there]
  · simp [there, List.erase_of_not_mem there]

end Chain

end Gatehouse.Firewall.Iptables
