import NodeTrial.Executor.Script.Command

/-! Programs that every system has, and what they make of the arguments of an executor when they
are told to run one: some run it, and the others complain in their own way.
-/

namespace NodeTrial

/-- What a program does with the arguments: it reads a script, starts another program, or has no
use for them. The last kind stays silent, or finds fault with the first option, all of the
options, or the operand at a place.
-/
inductive Program where
  | shell (dialect : Script.Dialect)
  | launcher
  | silent (status : Nat)
  | refusesOption (status : Nat)
  | refusesOptions
  | refusesOperand (place : Nat)
  | complains (status : Nat) (complaint : (option : String) → String)

namespace Program

/-- Programs that refuse the first option with status one. -/
def refusing : List String :=
  ["cat", "head", "tail", "wc", "uniq", "cut", "tee", "cp", "mv", "rm", "mkdir", "rmdir", "touch",
   "dirname", "sleep", "date", "id", "whoami", "uname", "pwd", "stat", "od", "md5sum", "sha1sum",
   "sha224sum", "sha256sum", "sha384sum", "sha512sum", "b2sum", "cksum", "sum", "base64",
   "base32", "basenc", "tac", "paste", "comm", "join", "fold", "fmt", "yes", "ln", "chmod",
   "chown", "chgrp", "rev", "readlink", "realpath", "mktemp", "df", "dd", "sync", "split",
   "csplit", "expand", "unexpand", "factor", "groups", "hostid", "install", "link", "unlink",
   "logname", "mkfifo", "mknod", "nproc", "numfmt", "pinky", "pr", "ptx", "shred", "shuf",
   "truncate", "tsort", "users", "who", "arch", "more", "mountpoint", "mount", "umount", "su"]

def named? (name : String) : Option Program :=
  if refusing.contains name then some (.refusesOption 1)
  else
    match name with
    | "sh" | "dash" => some (.shell .plain)
    | "bash" | "rbash" => some (.shell .extended)
    | "env" | "nice" | "nohup" | "setsid" => some .launcher
    | "true" | "pathchk" => some (.silent 0)
    | "false" | "printenv" | "which" => some (.silent 1)
    | "sort" | "ls" | "dir" | "vdir" | "tty" => some (.refusesOption 2)
    | "nl" | "du" => some .refusesOptions
    | "basename" | "tr" => some (.refusesOperand 2)
    | "seq" => some (.refusesOperand 3)
    | "find" => some (.complains 1 fun option => "unknown predicate \x60" ++ option ++ "'\n")
    | "test" => some (.complains 2 fun option => "extra argument '" ++ option ++ "'\n")
    | "[" => some (.complains 2 fun _ => "missing ']'\n")
    | "expr" =>
      some (.complains 2 fun option =>
        "syntax error: unexpected argument '" ++ option ++ "'\n")
    | "grep" =>
      some (.complains 2 fun option =>
        "unrecognized option '" ++ option ++ "'\nUsage: grep [OPTION]... PATTERNS [FILE]...\n" ++
          "Try 'grep --help' for more information.\n")
    | _ => none

/-- The status and the errors of a program that has no use for the arguments, which are an operand
and some options; the program complains under the name it was called by.
-/
def refusal (called : String) (args : List String) : Program → Nat × String
  | .shell _ | .launcher => (126, "")
  | .silent status => (status, "")
  | .refusesOption status => (status, refused (args.drop 1 |>.take 1) ++ hint)
  | .refusesOptions => (1, refused (args.drop 1) ++ hint)
  | .refusesOperand place =>
    (1, called ++ ": extra operand '" ++ args.getD place "" ++ "'\n" ++ hint)
  | .complains status complaint => (status, called ++ ": " ++ complaint (args.getD 1 ""))
where
  /-- What is said of options that are not known. -/
  refused (options : List String) : String :=
    String.join (options.map fun option =>
      called ++ ": unrecognized option '" ++ option ++ "'\n")
  /-- Where to read more. -/
  hint : String :=
    "Try '" ++ called ++ " --help' for more information.\n"

end Program

end NodeTrial
