import Gatehouse.Text.Blank
import Gatehouse.Text.Lower
/-!
# Hints for operators

Known complaints of packet-filter programs, what they mean, and what an operator can do about them.
-/

namespace Gatehouse.Firewall

/-- What a complaint means and what can be done about it. -/
structure Hint where
  message : String
  suggestions : List String
deriving DecidableEq, Repr

namespace Hint

/-- The hint for a complaint.  Complaints are recognised by phrases in any letter case; the first
kind that fits is the one that is meant. -/
def ofComplaint (complaint : String) : Hint :=
  let mentions (phrase : String) : Bool := Text.contains (Text.toLower complaint) phrase
  if mentions "permission denied" || mentions "operation not permitted" then
    { message := "Insufficient permissions to modify firewall rules"
      suggestions := [
        "Run sleuth as root or configure SLEUTH_ELEVATION_METHOD",
        "Check if CAP_NET_ADMIN capability is available"] }
  else if mentions "cache initialization failed" then
    { message := "Failed to initialize nftables cache - insufficient privileges"
      suggestions := ["This usually means you need elevated privileges"] }
  else if mentions "no such file" || mentions "command not found" then
    { message := "Packet-filter tool is not installed or not in PATH"
      suggestions := [
        "Install nftables: sudo apt install nftables  (Debian/Ubuntu)",
        "Or iptables: sudo apt install iptables"] }
  else if mentions "table" && mentions "does not exist" then
    { message := "Firewall table does not exist"
      suggestions := [
        "The 'sleuth_fw' table may have been flushed; allow a port to recreate it"] }
  else if mentions "resource busy" || mentions "xtables lock" then
    { message := "Firewall resource is busy"
      suggestions := [
        "Another process may be modifying the ruleset", "Wait a moment and try again"] }
  else if mentions "netlink" then
    { message := "Communication error with kernel netlink interface"
      suggestions := [
        "Check kernel modules: lsmod | grep nf_tables",
        "Load nf_tables module: sudo modprobe nf_tables"] }
  else
    { message := "Firewall error: " ++ complaint
      suggestions := ["Check the detailed error message for more information"] }

end Hint

end Gatehouse.Firewall
