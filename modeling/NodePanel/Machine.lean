import NodePanel.Http.SendError
import NodePanel.Keyed

/-!
What the program runs on: how deep its calls may nest, which accounts the system has, and which
encodings have a name there. Nothing in the program depends on what exactly these are.
-/
namespace NodePanel

class Machine where
  /-- How deep the values of a text may nest for it to be read. -/
  bodyLimit : Nat
  /-- How deep the message of an envelope may nest for its text to be made. -/
  messageLimit : Nat
  /-- How deep the header of a node may nest for its text to be made. -/
  headerLimit : Nat
  /-- A list of records can be read. -/
  two_le_bodyLimit : 2 ≤ bodyLimit
  /-- A header lies two levels inside its body, and when its text is made no more calls are open than
  when the body was read. -/
  bodyLimit_le : bodyLimit ≤ headerLimit + 2
  /-- The home directory of the account that runs the program, if it has an account. -/
  home? : Option Text
  /-- The home directories of all accounts. -/
  homes : Keyed Text
  /-- The reader for the encoding of a name. -/
  charset? : Text → Option (Octets → Except SendError Text)

/-- A small machine on which the program is the only one that calls anything. -/
@[reducible] def Machine.usual : Machine where
  bodyLimit := 991
  messageLimit := 988
  headerLimit := 991
  two_le_bodyLimit := by decide
  bodyLimit_le := by decide
  home? := some "/root"
  homes := [
    ("root", "/root"), ("daemon", "/usr/sbin"), ("bin", "/bin"), ("sys", "/dev"),
    ("sync", "/bin"), ("games", "/usr/games"), ("man", "/var/cache/man"), ("lp", "/var/spool/lpd"),
    ("mail", "/var/mail"), ("news", "/var/spool/news"), ("uucp", "/var/spool/uucp"),
    ("proxy", "/bin"), ("www-data", "/var/www"), ("backup", "/var/backups"), ("list", "/var/list"),
    ("irc", "/run/ircd"), ("_apt", "/nonexistent"), ("nobody", "/nonexistent")]
  charset? _ := none

end NodePanel
