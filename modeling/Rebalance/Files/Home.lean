import Rebalance.Files.Path

/-!
# Home folders

A relative path whose first name begins with a tilde begins in a home folder: that of the user
where nothing follows the tilde in the name, and else that of the user it names.
-/

namespace Rebalance
namespace Files

/-- The users of the system that the program runs on, and their home folders. -/
def userHomes : List (String × String) :=
  [("root", "/root"), ("daemon", "/usr/sbin"), ("bin", "/bin"), ("sys", "/dev"), ("sync", "/bin"),
   ("games", "/usr/games"), ("man", "/var/cache/man"), ("lp", "/var/spool/lpd"),
   ("mail", "/var/mail"), ("news", "/var/spool/news"), ("uucp", "/var/spool/uucp"),
   ("proxy", "/bin"), ("www-data", "/var/www"), ("backup", "/var/backups"), ("list", "/var/list"),
   ("irc", "/run/ircd"), ("_apt", "/nonexistent"), ("nobody", "/nonexistent")]

/-- The home folder of the user who runs the program, where the environment does not say. -/
def usualHome : String :=
  "/root"

/-- The home folder that a name with a tilde at its head stands for, if there is one. -/
def homeOf? (own : Option String) (name : String) : Option String :=
  let user := String.ofList (name.toList.drop 1)
  let home :=
    if user = "" then some (own.getD usualHome)
    else (userHomes.find? fun e => e.1 == user).map Prod.snd
  home.map fun h =>
    let cs := (h.toList.reverse.dropWhile (· == '/')).reverse
    if cs.isEmpty then "/" else String.ofList cs

/-- A path from its home folder on, if it begins with one; `own` is the home folder that the
environment gives.  The answer is `none` where there is no such folder. -/
def Path.atHome? (own : Option String) (p : Path) : Option Path :=
  match p.root, p.names with
  | .relative, first :: rest =>
    if first.startsWith "~" then
      match homeOf? own first with
      | none => none
      | some h =>
        if h.startsWith "~" then none
        else
          let home := Path.ofString h
          some { home with names := home.names ++ rest }
    else some p
  | _, _ => some p

end Files
end Rebalance
