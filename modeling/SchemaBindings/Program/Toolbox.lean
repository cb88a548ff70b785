import SchemaBindings.Program.LineTools

/-!
# The toolbox

The tools that programs find by their names.
-/
namespace SchemaBindings.Program

namespace Tool

/-- The tools. Each is run after its status has been set to zero. -/
def all : List (String × (List Octets → Shell Unit)) :=
  [("cat", cat), ("echo", echo true false), ("printf", printf),
   ("true", fun _ => return), ("false", fun _ => Shell.finish 1),
   ("head", head), ("tail", tail), ("wc", wc), ("tr", tr), ("sort", sort), ("uniq", uniq),
   ("seq", seq), ("basename", basename), ("dirname", dirname), ("tac", tac), ("rev", rev),
   ("cut", cut), ("tee", tee), ("sleep", sleep), ("expr", expr), ("mkdir", mkdir), ("rm", rm),
   ("touch", touch), ("cp", transfer false), ("mv", transfer true), ("ls", ls), ("yes", yes),
   ("grep", grep), ("sed", sed)]

/-- Tools that are known by the status with which they refuse options. -/
def others : List (String × Nat) :=
  (["id", "whoami", "uname", "date", "pwd", "od", "md5sum", "sha1sum", "sha256sum",
      "sha512sum", "readlink", "realpath", "stat", "chmod", "chown", "chgrp", "ln", "rmdir",
      "mktemp", "paste", "fold", "fmt", "join", "comm", "split", "tsort", "factor", "nproc",
      "arch", "base64", "base32", "cksum", "sum", "sync", "logname", "groups", "truncate",
      "shuf", "expand", "unexpand", "dd", "df", "du", "install", "mkfifo", "unlink", "link",
      "xargs"].map fun name => (name, 1))
    ++ ["timeout", "nice", "nohup", "stdbuf", "chroot"].map (fun name => (name, 125))
    ++ [("tty", 2), ("printenv", 2), ("dir", 2), ("vdir", 2)]

/-- The tool of a name. -/
def find? (name : String) : Option (List Octets → Shell Unit) :=
  match all.lookup name with
  | some tool => some tool
  | none =>
    (others.lookup name).map fun status arguments =>
      withArguments status ((List.range 128).map Char.ofNat) [] arguments fun _ => return

end Tool

end SchemaBindings.Program
