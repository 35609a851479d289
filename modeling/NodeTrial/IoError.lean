import NodeTrial.Text.Numeral

/-! Failures of files, programs and ports. Those that the system reports have a number, a name and
a description; one is found out before the system is asked.
-/

namespace NodeTrial

/-- A failure that the system reports. -/
inductive SystemError where
  | notFound
  | tooManyArguments
  | permissionDenied
  | notADirectory
  | isADirectory
  | invalidArgument
  | storageFull
  | nameTooLong
  | addressInUse
  | addressNotAvailable
  deriving DecidableEq, Repr

namespace SystemError

def number : SystemError → Nat
  | .notFound => 2
  | .tooManyArguments => 7
  | .permissionDenied => 13
  | .notADirectory => 20
  | .isADirectory => 21
  | .invalidArgument => 22
  | .storageFull => 28
  | .nameTooLong => 36
  | .addressInUse => 98
  | .addressNotAvailable => 99

def name : SystemError → String
  | .notFound => "NotFound"
  | .tooManyArguments => "ArgumentListTooLong"
  | .permissionDenied => "PermissionDenied"
  | .notADirectory => "NotADirectory"
  | .isADirectory => "IsADirectory"
  | .invalidArgument => "InvalidInput"
  | .storageFull => "StorageFull"
  | .nameTooLong => "InvalidFilename"
  | .addressInUse => "AddrInUse"
  | .addressNotAvailable => "AddrNotAvailable"

def description : SystemError → String
  | .notFound => "No such file or directory"
  | .tooManyArguments => "Argument list too long"
  | .permissionDenied => "Permission denied"
  | .notADirectory => "Not a directory"
  | .isADirectory => "Is a directory"
  | .invalidArgument => "Invalid argument"
  | .storageFull => "No space left on device"
  | .nameTooLong => "File name too long"
  | .addressInUse => "Address already in use"
  | .addressNotAvailable => "Cannot assign requested address"

end SystemError

/-- Why a file cannot be written, a program not started or a port not taken: the system refuses,
or a name or an argument holds the character that ends texts there.
-/
inductive IoError where
  | system (error : SystemError)
  | nulCharacter
  deriving DecidableEq, Repr

namespace IoError

/-- The system found no such file. -/
def notFound : IoError :=
  .system .notFound

def name : IoError → String
  | .system error => error.name
  | .nulCharacter => "InvalidInput"

def description : IoError → String
  | .system error => error.description
  | .nulCharacter => "nul byte found in provided data"

def message : IoError → String
  | .system error => error.description ++ " (os error " ++ Text.natText error.number ++ ")"
  | .nulCharacter => description .nulCharacter

/-- The short form of an error: its number if it has one, its name and its description. -/
def diagnostic (e : IoError) : String :=
  let opening := match e with
    | .system error => "Os \x7b code: " ++ Text.natText error.number ++ ", "
    | .nulCharacter => "Error \x7b "
  opening ++ "kind: " ++ e.name ++ ", message: \"" ++ e.description ++ "\" \x7d"

end IoError

end NodeTrial
